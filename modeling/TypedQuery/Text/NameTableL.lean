/-!
# Names of characters, L to R

The names as a walk, see `Text.CharacterName`.
-/

namespace TypedQuery.Text

/-- The names that start with L to R. -/
def namesToR : String :=
  "L_B_BAR_SYMBOLnAB_COATfELdCROSSE_STICK_AND_BALLvDDERdY_BEETLEjNGUAGE_TAGkO_CANCELLATION_MARKrD
   IGIT_EIGHTfFIVEdOUReNINEeONEdSEVENeIXdTHREEeWOdZEROkELLIPSISiHO_MOcNOfKO_LAfLETTER_BOcCOcDOcFO
   _FAYcONdSUNGeTAMgHO_SUNGeTAMgKHMU_GOcNYOgO_SUNGeTAMgOcLOa_LINGdOOThMOcNGOcObYOdObPALI_BHAdCHAd
   DDAbHAdHAdGHAdJHAdLLAdNNAcYAdTTAbHAiHO_SUNGeTAMgOcROcSANSKRIT_SHAcSAlO_SUNGeTAMgTHO_SUNGeTAMgO
   cWOcYOjNIGGAHITAjSEMIVOWEL_SIGN_LOcNYOrIGN_PALI_VIRAMAqTONE_MAI_CATAWAgEKcTHOcIlVOWEL_SIGN_AaA
   bIbMbYcEaIcIaIcMAI_KANcONhObUaUcYaYpRGE_BLUE_CIRCLEgDIAMONDhSQUAREkROWN_CIRCLEgSQUAREmCIRCLEgD
   OWN_TACKjGREEN_CIRCLEgSQUAREmLEFT_TRIANGLE_OPERATORwONE_DOT_OVER_TWO_DOTS_PUNCTUATIONzeRING_OV
   ER_TWO_RINGS_PUNCTUATIONzjRANGE_CIRCLEgDIAMONDhSQUAREnPURPLE_CIRCLEgSQUAREnRED_CIRCLEgSQUAREkT
   RIPLE_VERTICAL_BAR_OPERATORzcWO_DOTS_OVER_ONE_DOT_PUNCTUATIONzeRINGS_OVER_ONE_RING_PUNCTUATION
   zkUP_TACKhYELLOW_CIRCLEgSQUAREoR_THANa_OR_EQUAL_TOuI_SIGNhST_QUARTER_MOONa_SYMBOLgWITH_FACEzTI
   N_CAPITAL_LETTER_Aa_WITH_ACUTEfBREVEa_AND_ACUTEfDOT_BELOWjGRAVEfHOOK_ABOVEkTILDEpCARONeIRCUMFL
   EXa_AND_ACUTEfDOT_BELOWjGRAVEfHOOK_ABOVEkTILDEuDIAERESISa_AND_MACRONtOT_ABOVEa_AND_MACRONqBELO
   WhUBLE_GRAVEmGRAVEfHOOK_ABOVEkINVERTED_BREVEoMACRONgOGONEKgRING_ABOVEa_AND_ACUTEpBELOWkSTROKEg
   TILDElAbEa_WITH_ACUTEfMACRONnFRICAN_DiLPHAeNGLICANA_WkObUbVa_WITH_HORIZONTAL_BARvYcBa_WITH_DOT
   _ABOVEfBELOWjFLOURISHiHOOKeLINE_BELOWkSTROKEgTOPBARmETAdROKEN_LiCa_WITH_ACUTEfBARdCARONeEDILLA
   a_AND_ACUTEqIRCUMFLEXkDOT_ABOVEjHOOKePALATAL_HOOKmSTROKEmHIcLOSED_INSULAR_GpONcUATRILLOa_WITH_
   COMMAuDa_WITH_CARONeEDILLAgIRCUMFLEX_BELOWqDOT_ABOVEfBELOWjHOOKeLINE_BELOWkSHORT_STROKE_OVERLA
   YtMALL_LETTER_Za_WITH_CARONyTROKEgTOPBARmZa_WITH_CARONnEa_WITH_ACUTEfBREVEfCARONeEDILLAa_AND_B
   REVEqIRCUMFLEXa_AND_ACUTEfDOT_BELOWjGRAVEfHOOK_ABOVEkTILDEjBELOWqDIAERESISiOT_ABOVEfBELOWhUBLE
   _GRAVEmGRAVEfHOOK_ABOVEkINVERTED_BREVEoMACRONa_AND_ACUTEfGRAVEqOGONEKgSTROKEgTILDEa_BELOWrGYPT
   OLOGICAL_AINcLEFrNGcSHcTaHcZHa_REVERSEDiWITH_CARONoFa_WITH_DOT_ABOVEjHOOKeSTROKEnGa_WITH_ACUTE
   fBREVEfCARONeEDILLAgIRCUMFLEXkDOT_ABOVEjHOOKeMACRONgOBLIQUE_STROKEoSTROKEmAMMAeHAcLOTTAL_AbIbS
   TOPeUjHa_WITH_BREVE_BELOWlCARONeEDILLAgIRCUMFLEXkDESCENDERiIAERESISiOT_ABOVEfBELOWjHOOKeSTROKE
   mALF_HfENGdWAIRfIa_WITH_ACUTEfBREVEfCARONeIRCUMFLEXkDIAERESISa_AND_ACUTEsOT_ABOVEfBELOWhUBLE_G
   RAVEmGRAVEfHOOK_ABOVEkINVERTED_BREVEoMACRONgOGONEKgSTROKEgTILDEa_BELOWrNSULAR_DbFbGbRbSbTiOTAd
   ScJa_WITH_CIRCUMFLEXjROSSED-TAILmSTROKEnKa_WITH_ACUTEfCARONeEDILLAhDESCENDERiIAGONAL_STROKEoOT
   _BELOWjHOOKeLINE_BELOWkOBLIQUE_STROKEoSTROKEa_AND_DIAGONAL_STROKEziLa_WITH_ACUTEfBARcELTeCARON
   eEDILLAgIRCUMFLEX_BELOWqDOT_BELOWa_AND_MACRONsUBLE_BARkHIGH_STROKElLINE_BELOWkMIDDLE_DOTdTILDE
   mSMALL_LETTER_JnTROKEmJcMa_WITH_ACUTEfDOT_ABOVEfBELOWjHOOKkIDDLE_SCOTS_Si-WELSH_LLcVoNa_WITH_A
   CUTEfCARONeEDILLAgIRCUMFLEX_BELOWqDESCENDERiOT_ABOVEfBELOWjGRAVEfLEFT_HOOKiINE_BELOWjONG_RIGHT
   _LEGoOBLIQUE_STROKEoSMALL_LETTER_JoTILDElJcOa_WITH_ACUTEfBREVEfCARONeIRCUMFLEXa_AND_ACUTEfDOT_
   BELOWjGRAVEfHOOK_ABOVEkTILDEuDIAERESISa_AND_MACRONtOT_ABOVEa_AND_MACRONqBELOWhUBLE_ACUTEfGRAVE
   mGRAVEfHOOK_ABOVEiRNa_AND_ACUTEfDOT_BELOWjGRAVEfHOOK_ABOVEkTILDEoINVERTED_BREVEoLONG_STROKE_OV
   ERLAYrOPeMACRONa_AND_ACUTEfGRAVEpIDDLE_TILDEmOGONEKa_AND_MACRONrSTROKEa_AND_ACUTEqTILDEa_AND_A
   CUTEfDIAERESISjMACRONwIbLD_POLISH_OlMEGAeObPEN_EbOfUcPa_WITH_ACUTEfDOT_ABOVEjFLOURISHiHOOKeSQU
   IRREL_TAILmTROKEa_THROUGH_DESCENDERzgQa_WITH_DIAGONAL_STROKEpSTROKE_THROUGH_DESCENDERzgRa_ROTU
   NDAhWITH_ACUTEfCARONeEDILLAhDOT_ABOVEfBELOWa_AND_MACRONsUBLE_GRAVEmINVERTED_BREVEoLINE_BELOWkO
   BLIQUE_STROKEoSTROKEgTAILkEVERSED_C_WITH_DOTkEbHALF_HgOPEN_EoUM_ROTUNDAlSa_WITH_ACUTEa_AND_DOT
   _ABOVEtCARONa_AND_DOT_ABOVEsEDILLAgIRCUMFLEXjOMMA_BELOWlDOT_ABOVEfBELOWa_AND_DOT_ABOVExHOOKeOB
   LIQUE_STROKEoSHORT_STROKE_OVERLAYtWASH_TAILqALTILLOhCHWAdRIPT_GhHARP_SgIGMOID_SiMALL_CAPITAL_I
   jQ_WITH_HOOK_TAILwTa_WITH_CARONeEDILLAgIRCUMFLEX_BELOWpOMMA_BELOWlDIAGONAL_STROKEoOT_ABOVEfBEL
   OWjHOOKeLINE_BELOWkRETROFLEX_HOOKoSTROKEmHORNa_WITH_STROKEa_THROUGH_DESCENDERzjONE_FIVEeSIXdTW
   OhRESILLOhURNED_AaLPHAfHbINSULAR_GjKbLbMbTbVhZcUa_BARdWITH_ACUTEfBREVEfCARONeIRCUMFLEXa_BELOWq
   DIAERESISa_AND_ACUTEfCARONfGRAVEfMACRONkBELOWoOT_BELOWhUBLE_ACUTEfGRAVEmGRAVEfHOOK_ABOVEiRNa_A
   ND_ACUTEfDOT_BELOWjGRAVEfHOOK_ABOVEkTILDEoINVERTED_BREVEoMACRONa_AND_DIAERESISuOGONEKgRING_ABO
   VEkSTROKEgTILDEa_AND_ACUTEjBELOWrPSILONhVa_WITH_DIAGONAL_STROKEoOT_BELOWjHOOKeTILDElENDdISIGOT
   HIC_ZlOLAPUK_AEcOEcUEjYcWa_WITH_ACUTEfCIRCUMFLEXkDIAERESISiOT_ABOVEfBELOWjGRAVEfHOOKkYNNeXa_WI
   TH_DIAERESISiOT_ABOVEqYa_WITH_ACUTEfCIRCUMFLEXkDIAERESISiOT_ABOVEfBELOWjGRAVEfHOOKa_ABOVEkLOOP
   eMACRONgSTROKEgTILDElOGHeZa_WITH_ACUTEfCARONeIRCUMFLEXkDESCENDERiOT_ABOVEfBELOWjHOOKeLINE_BELO
   WkPALATAL_HOOKmSTROKEfWASH_TAILxIGATURE_IJcOEsROSSfEPIGRAPHIC_LETTER_ARCHAIC_MjI_LONGAgNVERTED
   _MkREVERSED_FbPkSIDEWAYS_IzdLETTER_AINcLVEOLAR_CLICKoBIDENTAL_PERCUSSIVErLABIAL_CLICKfPERCUSSI
   VEtDENTAL_CLICKmGLOTTAL_STOPa_WITH_STROKEyINVERTED_GLOTTAL_STOPa_WITH_CURLeSTROKEziLATERAL_CLI
   CKnPHARYNGEAL_VOICED_FRICATIVEzcRETROFLEX_CLICKa_WITH_RETROFLEX_HOOKziVERSED_ESH_LOOPiGLOTTAL_
   STOP_WITH_STROKEziSINOLOGICAL_DOToMALL_CAPITAL_AaEcBaARRED_BiCbDbEaTHcZHdFbGa_WITH_HOOKlHbIaNV
   ERTED_RkJbKbLa_WITH_BELTeSTROKEnMbNbOaEbPEN_OfUcPbQbRa_WITH_RIGHT_LEGpEVERSED_NbRjUMdSbTaURNED
   _EbGbKbMbRiUbVbWbYbZoTRETCHED_Ca_WITH_CURLvTWO_WITH_STROKEpVOICED_LARYNGEAL_SPIRANTyWYNNeYRjSM
   ALL_CAPITAL_LETTER_I_WITH_STROKEnU_WITH_STROKEzdLETTER_Aa_REVERSED-SCHWAoWITH_ACUTEfBREVEa_AND
   _ACUTEfDOT_BELOWjGRAVEfHOOK_ABOVEkTILDEpCARONeIRCUMFLEXa_AND_ACUTEfDOT_BELOWjGRAVEfHOOK_ABOVEk
   TILDEuDIAERESISa_AND_MACRONtOT_ABOVEa_AND_MACRONqBELOWhUBLE_GRAVEmGRAVEfHOOK_ABOVEkINVERTED_BR
   EVEoMACRONgOGONEKgRETROFLEX_HOOKnIGHT_HALF_RINGnNG_ABOVEa_AND_ACUTEpBELOWkSTROKEgTILDElAbEa_WI
   TH_ACUTEfMACRONnLPHAa_WITH_RETROFLEX_HOOKyNGLICANA_WkObUbVa_WITH_HORIZONTAL_BARvYcBa_WITH_DOT_
   ABOVEfBELOWjFLOURISHiHOOKeLINE_BELOWkMIDDLE_TILDEmPALATAL_HOOKmSTROKEgTOPBARmARRED_ALPHAfEbOgS
   ELINE_ESHlETAdLACKLETTER_EbOa_WITH_STROKEyOTTOM_HALF_OmROKEN_LiCa_WITH_ACUTEfBARdCARONeEDILLAa
   _AND_ACUTEqIRCUMFLEXjURLeDOT_ABOVEjHOOKePALATAL_HOOKmRETROFLEX_HOOKoSTROKEmHIa_WITH_LOW_LEFT_S
   ERIFkRIGHT_RINGwLOSED_INSULAR_GjOMEGAePEN_EgREVERSED_OPEN_EvONcUATRILLOa_WITH_COMMAuDa_WITH_CA
   RONeEDILLAgIRCUMFLEX_BELOWpURLeDOT_ABOVEfBELOWjHOOKa_AND_TAILnLINE_BELOWkMIDDLE_TILDEmPALATAL_
   HOOKmSHORT_STROKE_OVERLAYtTROKEgTAILdOPBARmB_DIGRAPHjELTAdZH_DIGRAPHa_WITH_PALATAL_HOOKmRETROF
   LEX_HOOKzgOTLESS_IbJa_WITH_STROKEa_AND_HOOKzdUBLE_Ra_WITH_CROSSED-TAILtTHORNfWYNNkUMcZa_DIGRAP
   Ha_WITH_CURLeRETROFLEX_HOOKzcWITH_CARONnEa_WITH_ACUTEfBREVEfCARONeEDILLAa_AND_BREVEqIRCUMFLEXa
   _AND_ACUTEfDOT_BELOWjGRAVEfHOOK_ABOVEkTILDEjBELOWqDIAERESISiOT_ABOVEfBELOWhUBLE_GRAVEmFLOURISH
   iGRAVEfHOOK_ABOVEkINVERTED_BREVEoMACRONa_AND_ACUTEfGRAVEqNOTCHfOGONEKgRETROFLEX_HOOKoSTROKEgTI
   LDEa_BELOWrGYPTOLOGICAL_AINcLEFrNGa_WITH_CROSSED-TAILmPALATAL_HOOKuSHa_WITH_CURLeDOUBLE_BARa_A
   ND_CURLtPALATAL_HOOKmRETROFLEX_HOOKwTaHcZHa_REVERSEDiWITH_CARONeURLePALATAL_HOOKmRETROFLEX_HOO
   KoTAILnFa_WITH_DOT_ABOVEjHOOKeMIDDLE_TILDEmPALATAL_HOOKmSTROKEmENG_DIGRAPHa_WITH_TRILLxGa_WITH
   _ACUTEfBREVEfCARONeEDILLAgIRCUMFLEXkDOT_ABOVEjHOOKeMACRONgOBLIQUE_STROKEoPALATAL_HOOKmSTROKEmA
   MMAeHAcLOTTAL_AbIbSTOPeUjHa_WITH_BREVE_BELOWlCARONeEDILLAgIRCUMFLEXkDESCENDERiIAERESISiOT_ABOV
   EfBELOWjHOOKeLINE_BELOWkPALATAL_HOOKmSTROKEmALF_HfENGa_WITH_HOOKnVcIa_WITH_ACUTEfBREVEfCARONeI
   RCUMFLEXkDIAERESISa_AND_ACUTEsOT_BELOWhUBLE_GRAVEmGRAVEfHOOK_ABOVEkINVERTED_BREVEoMACRONgOGONE
   KgRETROFLEX_HOOKoSTROKEa_AND_RETROFLEX_HOOKzTILDEa_BELOWrNSULAR_DbFbGbRbSbThVERTED_ALPHAfOEkOT
   Aa_WITH_STROKEnIFIED_EjScJa_WITH_CARONeIRCUMFLEXjROSSED-TAILmSTROKEnKa_WITH_ACUTEfCARONeEDILLA
   hDESCENDERiIAGONAL_STROKEoOT_BELOWjHOOKeLINE_BELOWkOBLIQUE_STROKEoPALATAL_HOOKmSTROKEa_AND_DIA
   GONAL_STROKEzhRAdLa_WITH_ACUTEfBARcELTa_AND_PALATAL_HOOKvCARONeEDILLAgIRCUMFLEX_BELOWpURLeDOT_
   BELOWa_AND_MACRONsUBLE_BARdMIDDLE_TILDEtFISHHOOKiHIGH_STROKElINVERTED_LAZY_SpLINE_BELOWkMIDDLE
   _DOTdRINGeTILDEmPALATAL_HOOKmRETROFLEX_HOOKa_AND_BELTxSTROKEmAMBDA_WITH_STROKErENIS_FfZHa_WITH
   _RETROFLEX_HOOKxJbONG_Sa_WITH_DIAGONAL_STROKEoOT_ABOVEjHIGH_STROKEwS_DIGRAPHjUMcZ_DIGRAPHkMa_W
   ITH_ACUTEfCROSSED-TAILmDOT_ABOVEfBELOWjHOOKeMIDDLE_TILDEmPALATAL_HOOKsIDDLE_SCOTS_Si-WELSH_LLc
   VnUMdNa_PRECEDED_BY_APOSTROPHEwWITH_ACUTEfCARONeEDILLAgIRCUMFLEX_BELOWpROSSED-TAILlURLeDESCEND
   ERiOT_ABOVEfBELOWjGRAVEfLEFT_HOOKiINE_BELOWjONG_RIGHT_LEGoMIDDLE_TILDEmOBLIQUE_STROKEoPALATAL_
   HOOKmRETROFLEX_HOOKoTILDElJbUMdOa_WITH_ACUTEfBREVEfCARONeIRCUMFLEXa_AND_ACUTEfDOT_BELOWjGRAVEf
   HOOK_ABOVEkTILDEuDIAERESISa_AND_MACRONtOT_ABOVEa_AND_MACRONqBELOWhUBLE_ACUTEfGRAVEmGRAVEfHOOK_
   ABOVEiRNa_AND_ACUTEfDOT_BELOWjGRAVEfHOOK_ABOVEkTILDEoINVERTED_BREVEoLONG_STROKE_OVERLAYrOPcW_R
   ING_INSIDEpMACRONa_AND_ACUTEfGRAVEqOGONEKa_AND_MACRONrRETROFLEX_HOOKoSTROKEa_AND_ACUTEqTILDEa_
   AND_ACUTEfDIAERESISjMACRONwIbLD_POLISH_OlMEGAeObPEN_Ea_WITH_RETROFLEX_HOOKvOa_WITH_RETROFLEX_H
   OOKoSTROKEmEgUcPa_WITH_ACUTEfDOT_ABOVEjFLOURISHiHOOKeMIDDLE_TILDEmPALATAL_HOOKmSQUIRREL_TAILmT
   ROKEa_THROUGH_DESCENDERzfHIdQa_WITH_DIAGONAL_STROKEpHOOKa_TAILjSTROKE_THROUGH_DESCENDERzfP_DIG
   RAPHkRa_ROTUNDAhWITH_ACUTEfCARONeEDILLAgROSSED-TAILmDOT_ABOVEfBELOWa_AND_MACRONsUBLE_GRAVEmFIS
   HHOOKa_AND_MIDDLE_TILDEmPALATAL_HOOKzINVERTED_BREVEoLINE_BELOWjONG_LEGiMIDDLE_TILDEmOBLIQUE_ST
   ROKEoPALATAL_HOOKmSTROKEgTAILfOUT_HANDLEpAMS_HORNiEVERSED_Ca_WITH_DOTkEaNGdHALF_HgKbOPEN_Ea_WI
   TH_HOOKeRETROFLEX_HOOKzbR_WITH_FISHHOOKpSCRIPT_GqUMa_ROTUNDAlSa_WITH_ACUTEa_AND_DOT_ABOVEtCARO
   Na_AND_DOT_ABOVEsEDILLAgIRCUMFLEXjOMMA_BELOWkURLeDOT_ABOVEfBELOWa_AND_DOT_ABOVExHOOKeMIDDLE_TI
   LDEmOBLIQUE_STROKEoPALATAL_HOOKmSHORT_STROKE_OVERLAYtWASH_TAILqAKHA_YAThLTILLOhCHWAa_WITH_HOOK
   eRETROFLEX_HOOKxRIPT_Ga_WITH_CROSSED-TAILtRa_WITH_RINGrHARP_SgIDEWAYS_DIAERESIZED_UnOa_WITH_ST
   ROKEmPEN_OgTURNED_MiUiGMOID_SiQUAT_REVERSED_ESHrTIRRUP_RjTa_WITH_CARONeEDILLAgIRCUMFLEX_BELOWp
   OMMA_BELOWkURLeDIAERESISgGONAL_STROKEoOT_ABOVEfBELOWjHOOKa_AND_RETROFLEX_HOOKxLINE_BELOWkMIDDL
   E_TILDEmPALATAL_HOOKmRETROFLEX_HOOKoSTROKEmAILLESS_PHIlC_DIGRAPH_WITH_CURLtESH_DIGRAPHa_WITH_P
   ALATAL_HOOKmRETROFLEX_HOOKzgH_WITH_STRIKETHROUGHtORNa_WITH_STROKEa_THROUGH_DESCENDERzjONE_FIVE
   eSIXdTWOgP_HALF_OjRESILLOhS_DIGRAPHa_WITH_RETROFLEX_HOOKzeUMbRNED_AaEbLPHAfDELTAfEbGbHa_WITH_F
   ISHHOOKa_AND_TAILyIaNSULAR_GjKbLbMa_WITH_LONG_LEGpO_OPEN-Oa_WITH_STROKEtEa_WITH_HORIZONTAL_STR
   OKErSTROKEnPEN_EgRa_WITH_HOOKeLONG_LEGa_AND_RETROFLEX_HOOKzcMIDDLE_TILDEmPALATAL_HOOKmTAILlTa_
   WITH_CURLlUIcVbWbYa_WITH_BELTrZcUa_BARa_WITH_SHORT_RIGHT_LEGyWITH_ACUTEfBREVEfCARONeIRCUMFLEXa
   _BELOWqDIAERESISa_AND_ACUTEfCARONfGRAVEfMACRONkBELOWoOT_BELOWhUBLE_ACUTEfGRAVEmGRAVEfHOOK_ABOV
   EiRNa_AND_ACUTEfDOT_BELOWjGRAVEfHOOK_ABOVEkTILDEoINVERTED_BREVEoLEFT_HOOKjMACRONa_AND_DIAERESI
   SuOGONEKgRETROFLEX_HOOKnING_ABOVEkSHORT_RIGHT_LEGoTROKEgTILDEa_AND_ACUTEjBELOWrEbIbMbObPSILONa
   _WITH_STROKEtVa_WITH_CURLeDIAGONAL_STROKEoOT_BELOWjHOOKePALATAL_HOOKmRIGHT_HOOKkTILDElENDdISIG
   OTHIC_ZlOLAPUK_AEcOEcUEjYcWa_WITH_ACUTEfCIRCUMFLEXkDIAERESISiOT_ABOVEfBELOWjGRAVEfHOOKeRING_AB
   OVErXa_WITH_DIAERESISiOT_ABOVEjLONG_LEFT_LEGa_AND_LOW_RIGHT_RINGsWITH_SERIFwW_RIGHT_RINGoPALAT
   AL_HOOKtYa_WITH_ACUTEfCIRCUMFLEXkDIAERESISiOT_ABOVEfBELOWjGRAVEfHOOKa_ABOVEkLOOPeMACRONgRING_A
   BOVEkSHORT_RIGHT_LEGoTROKEgTILDElOGHeZa_WITH_ACUTEfCARONeIRCUMFLEXjURLeDESCENDERiOT_ABOVEfBELO
   WjHOOKeLINE_BELOWkMIDDLE_TILDEmPALATAL_HOOKmRETROFLEX_HOOKoSTROKEfWASH_TAILxIGATURE_FFaIbLcIbL
   cIJcLONG_S_TiOEcSTqUBSCRIPT_SMALL_LETTER_AbEbHbIbJbKbLbMbNbObPbRbSaCHWAfTbUbVbXzeEAF_FLUTTERIN
   G_IN_WINDtY_GREENjDGEReFT_AND_LOWER_AND_RIGHT_TRIANGULAR_THREE_QUARTERS_BLOCKzqONE_EIGHTH_BLOC
   KwRIGHT_DOUBLE_TURNSTILEqTACKdRIANGULAR_HALF_BLOCKzcUPPER_AND_RIGHT_TRIANGULAR_THREE_QUARTERS_
   BLOCKzqONE_EIGHTH_BLOCKyGER_BUBBLEjLE_BRACKETa_WITH_DOTvRC_LESS-THAN_BRACKETtROW_WITH_CIRCLED_
   PLUSmSMALL_CIRCLExBARB_DOWN_RIGHT_BARB_DOWN_HARPOONmUP_HARPOONzbUP_RIGHT_BARB_DOWN_HARPOONmUP_
   HARPOONzdLACK_LENTICULAR_BRACKETsTORTOISE_SHELL_BRACKETzdCEILINGgLOSED_ENTRYlORNER_BRACKETnURL
   Y_BRACKETa_LOWER_HOOKkMIDDLE_PIECEmUPPER_HOOKyDOTTED_SUBSTITUTION_BRACKETzUBLE_ANGLE_BRACKETnP
   ARENTHESISlQUOTATION_MARKoWIGGLY_FENCEtFISH_TAILhVE_EIGHTHS_BLOCKrLOORfHALF_BLACK_CIRCLEgSTARi
   OCKfCIRCLEa_WITH_DOTdFOUR_DOTSjTHREE_DOTSjWO_DOTSuFOLDERgINVERSE_MEDIUM_SHADE_AND_RIGHT_HALF_B
   LOCKzqMEDIUM_SHADEmRUNNING_MANoND_TELEPHONE_RECEIVERxLOW_PARAPHRASE_BRACKETvUGGAGEhMULTIMAPiNO
   RMAL_FACTOR_SEMIDIRECT_PRODUCTzhONE_EIGHTH_BLOCKmQUARTER_BLOCKqUTER_JOINkPARENTHESISa_EXTENSIO
   NjLOWER_HOOKkUPPER_HOOKwRAISED_OMISSION_BRACKETwIGHT_ARROWa_THROUGH_SMALL_CIRCLEuWITH_DOUBLE_V
   ERTICAL_STROKEwSTROKEgVERTICAL_STROKEzbBLACK_ARROWlDOUBLE_ARROWa_WITH_STROKEgVERTICAL_STROKEzi
   OPEN-HEADED_ARROWrSANS-SERIF_ARROWqTRIANGLE-HEADED_ARROWvWAVE_ARROWjHITE_ARROWrS-SHAPED_BAG_DE
   LIMITERvEMIDIRECT_PRODUCTqVEN_EIGHTHS_BLOCKsIDEWAYS_U_BRACKETqNGLE_QUOTATION_MARKuPEECH_BUBBLE
   mQUARE_BRACKETa_EXTENSIONjLOWER_CORNERmUPPER_CORNERmWITH_DOUBLE_STROKEnQUILLfSTROKEgTICK_IN_BO
   TTOM_CORNERnTOP_CORNERsUNDERBARzcUBSTITUTION_BRACKETuTACKdHIRD_WHITE_RIGHT_POINTING_INDEXzfOUG
   HT_BUBBLEmREE_EIGHTHS_BLOCKnQUARTERS_BLOCKtORTOISE_SHELL_BRACKETvRANSPOSITION_BRACKETtIANGLE_B
   ESIDE_VERTICAL_BARwULAR_ONE_QUARTER_BLOCKzdVERTICAL_BAR_WITH_QUILLnOX_LINErWHITE_CORNER_BRACKE
   TnURLY_BRACKETnLENTICULAR_BRACKETsPARENTHESISlSQUARE_BRACKEToTORTOISE_SHELL_BRACKETzcIGGLY_FEN
   CElRITING_HANDn-FACING_ARMENIAN_ETERNITY_SIGNwFISTeSVASTI_SIGNa_WITH_DOTSzdHANDED_INTERLACED_P
   ENTAGRAMzcPOINTING_ANGLE_BRACKETnCURVED_ANGLE_BRACKETuDOUBLE_ANGLE_QUOTATION_MARKzcMAGNIFYING_
   GLASSzSHADED_WHITE_RIGHTWARDS_ARROWzdIDE_ARC_ANTICLOCKWISE_ARROWzdTO-RIGHT_EMBEDDINGjISOLATEhM
   ARKeOVERRIDEsWARDS_ARROWa_ABOVE_ALMOST_EQUAL_TOpREVERSE_ALMOST_EQUAL_TOpTILDE_OPERATORwSHORT_R
   IGHTWARDS_ARROWwTILDE_OPERATORtND_UPPER_AND_LOWER_ONE_EIGHTH_BLOCKzlFROM_BARa_TO_BLACK_DIAMOND
   zOVER_RIGHTWARDS_ARROWvTHROUGH_LESS-THANjSUBSETgXiO_BARa_OVER_RIGHTWARDS_ARROW_TO_BARzgLACK_DI
   AMONDqWITH_DOTTED_STEMjUBLE_VERTICAL_STROKEwEQUILATERAL_ARROWHEADvHOOKeLARGE_TRIANGLE_ARROWHEA
   DxOOPeMEDIUM_TRIANGLE_ARROWHEADzNOTCHED_TAILmPLUS_BELOWkSMALL_EQUILATERAL_ARROWHEADvTRIANGLE_A
   RROWHEADxTROKEgTAILa_WITH_DOUBLE_VERTICAL_STROKEwVERTICAL_STROKEyIP_DOWNWARDSjUPWARDSlVERTICAL
   _STROKEv-TAILkBACK-TILTED_SHADOWED_WHITE_ARROWzgLACK_ARROWfCIRCLED_WHITE_ARROWyOTTOM-SHADED_WH
   ITE_ARROWzCOMPRESSED_ARROWqDASHED_ARROWlOUBLE_ARROWa_FROM_BARiWITH_STROKEgVERTICAL_STROKEv-TAI
   LkDASH_ARROWrFINGER-POST_ARROWqRONT-TILTED_SHADOWED_WHITE_ARROWziHANDcRPOON_OVER_RIGHTWARDS_HA
   RPOONxWITH_BARB_DOWN_ABOVE_RIGHTWARDS_HARPOON_WITH_BARB_DOWNzoBELOW_LONG_DASHpFROM_BARiTO_BARh
   WARDSjUP_ABOVE_LEFTWARDS_HARPOON_WITH_BARB_DOWNzgONG_DASHjRIGHTWARDS_HARPOON_WITH_BARB_UPzmFRO
   M_BARiTO_BARhWARDSyEAVY_ARROWfCOMPRESSED_ARROWwLEFT-SHADED_WHITE_ARROWxOPEN-HEADED_ARROWrPAIRE
   D_ARROWSnQUADRUPLE_ARROWpRIGHT-SHADED_WHITE_ARROWxOCKETgSANS-SERIF_ARROWpQUARED_ARROWkIGGLE_AR
   ROWoTOP_SHADED_WHITE_ARROWvRIANGLE_ARROWHEADk-HEADED_ARROWa_OVER_RIGHTWARDS_TRIANGLE-HEADED_AR
   ROWzmTO_BARgWITH_BOLD_SHAFTkDOUBLE_HORIZONTAL_STROKErVERTICAL_STROKEwHEAVY_SHAFTlLONG_TIP_DOWN
   WARDSjUPWARDSqMEDIUM_SHAFTmNARROW_SHAFTmVERY_HEAVY_SHAFTzcDASHED_ARROWmPAIRED_ARROWSzbPLE_ARRO
   WfDASH_ARROWqWO_HEADED_ARROWn-HEADED_ARROW_FROM_BARiWITH_DOUBLE_VERTICAL_STROKEwTAILa_WITH_DOU
   BLE_VERTICAL_STROKEwVERTICAL_STROKEyRIANGLE_ARROWHEADStVERTICAL_STROKEzbTRIPLE_DASH_ARROWzdWAV
   E_ARROWjHITE_ARROWa_WITHIN_TRIANGLE_ARROWHEADzuGbMONdOaPARDfPCHA_CONSONANT_SIGN_KaANGeLbMbNaYI
   N-DOhPbRbTqDIGIT_EIGHTfFIVEdOUReNINEeONEdSEVENeIXdTHREEeWOdZEROkLETTER_AbBAbLAdCAbHAdDAbDAcZAd
   FAbLAdGAbLAdHAbLAdJAcKAbHAcLAdLAcMAbLAdNAbGAcYAdPAbHAcLAdRAcSAbHAdTAbHAcSAbHAdTAbHAeVAcWAcYAjP
   UNCTUATION_CER-WAgNYET_THYOOM_TA-ROLsTA-ROLfSHOOKa_CER-WAzSIGN_NUKTAfRANhUBJOINED_LETTER_RAcYA
   tVOWEL_SIGN_AAcEbIbOaOcUaUsSS-THAN_ABOVE_DOUBLE-LINE_EQUAL_ABOVE_GREATER-THANzlGREATER-THAN_AB
   OVE_DOUBLE-LINE_EQUALzlLEFTWARDS_ARROWpSIMILAR_ABOVE_GREATER-THANsOR_EQUALpLANTED_EQUAL_ABOVE_
   GREATER-THAN_ABOVE_SLANTED_EQUALzzhND_NOT_APPROXIMATEpSINGLE-LINE_NOT_EQUAL_TOzdBUT_NOT_EQUAL_
   TOfIVALENT_TOvCLOSED_BY_CURVEa_ABOVE_SLANTED_EQUALzkEQUAL_TO_OR_GREATER-THANyOR_APPROXIMATElEQ
   UAL_TOfIVALENT_TOnGREATER-THANmSLANTED_EQUAL_TOa_WITH_DOT_ABOVEa_RIGHTlINSIDEzjVER_EQUAL_TOnSI
   GNeWITH_CIRCLE_INSIDEnDOTdQUESTION_MARK_ABOVEzhVEL_SLIDERlFbIBRAdGATURE_OPEN_ET_ORNAMENTwHT_CH
   ECK_MARKkEIGHT_SPOKED_ASTERISKvFIVE_POINTED_BLACK_STARsSPOKED_ASTERISKtOUR_POINTED_BLACK_CUSPe
   STARxGREEK_CROSSlLEFT_TORTOISE_SHELL_BRACKET_ORNAMENTzlRAILdIGHT_TORTOISE_SHELL_BRACKET_ORNAME
   NTzmSALTIREgHADEeIX_SPOKED_ASTERISKtTHREE_POINTED_BLACK_STARxWELVE_POINTED_BLACK_STARzVERTICAL
   _BARmWHITE_SQUAREnNINGa_MOODa_BUBBLEtMBU_DIGIT_EIGHTfFIVEdOUReNINEeONEdSEVENeIXdTHREEeWOdZEROk
   EXCLAMATION_MARKqLETTER_BAbHAdCAbHAdDAbHAdGAbHAcYANeHAcJAbHAdKAbHAdLAcMAcNAbGAdPAbHAdRAcSAbHAc
   SAdTAbHAcRAdWAcYAaNkQUESTION_MARKnSIGN_KEMPHRENGjLOOdMUKPHRENGjSA-IiMALL_LETTER_ANUSVARAiKAcLA
   cMAcNAbGAdPAcRAcTAoUBJOINED_LETTER_RAcWAcYAtVOWEL_SIGN_AaIbUcEaEcIbOaOcUh-CARRIER_LETTERxITED_
   LIABILITY_SIGNuNE_FEEDeINTEGRATION_NOT_INCLUDING_THE_POLEwWITH_RECTANGULAR_PATH_AROUND_POLEzdS
   EMICIRCULAR_PATH_AROUND_POLEzvSEPARATORjTABULATIONa_SETpAR_A_SIGN_A028Be100-102g20Bd31Ce301b2b
   3b4b5b6b7b8b9AbBbCd10b1b2b3AbBbCc4b5b6b7b8b9c20b1b2b3b4b5b6b7b8b9c30b1b2b3b4b5b6b7b8b9c40b1b2b
   3b4b5b6b7b8b9c50b1b2b3b4b5b6b7b8b9c60b1b2b3b4b5b6b7b8b9c70b1d400-VASf1-VASf2-VASf3-VASf4-VASf5
   -VASf6-VASf7-VASf8-VASf9-VASg10-VASf1-VASf2-VASf3-VASf4-VASf5-VASf6-VASf7-VASf8-VASh501b2b3b4b
   5b6b8b9c10b1b2b3b5b6c20b1b3b4b5b6b7b8b9c30b1b2b4b5b6b7b8b9c40b1b2b5b7b8b9c50b1b2b3b4b5b6b7b9c6
   3b4b5b6b8b9c70b1b2b3b4b5b6b7b8b9c80b1b2b3b4b5b6b7b8b9c91b2b4b5b6b8d600b1b2b3b4b6b8b9c10b1b2b3b
   4b5b6b7b8b9c20b1b2b3b4b6b7b8b9c34b7b8c40b2b3b4b5b6b8b9c51b2b3b4b5b6b7b8b9c60b1b2b3b4d701_Ad2_B
   d3_Dd4_Ed5_Fd6_Hd7_Jd8_Kd9_Lc-2_L2e3_L3e4_L4e6_L6h10_Wd1_Xd2_Yd3_OMEGAh4_ABBf5_BBe7_DDf26_EYYY
   h32_JEg800b1b2b3b4b5b6b7dB001b2b3b4b5b6b7b8b9c10b1b3b6b7c20b1aFbMc2aFbMc3aMc4b6b7b8b9c30b1b4b7
   b8b9c40b1b4b5b6b7b8b9c50b1b3b4b5b6b7b8b9c60b1b5b6b7b9c70b3b4b6b7b8b9c80b1b2b5b6b7d118c20b2b3c3
   1AbBd64c71c80b8c91mB_IDEOGRAM_B100_MANf2_WOMANh4_DEERg5_EQUIDgF_MAREgM_STALLIONl6F_EWEfM_RAMg7
   F_SHE-GOATkM_HE-GOATk8F_SOWfM_BOARh9F_COWfM_BULLi20_WHEATh1_BARLEYi2_OLIVEh3_SPICEh5_CYPERUSk3
   0_OILf1_WINEg2c40_BRONZEi1_GOLDg2b5_WOOLg6c50b1_HORNg2b3b4b7b8b9_CLOTHi60b1b2_GARMENTj3_ARMOUR
   i4b5b6b7b8b9c70b1b2b3_MONTHh4b6_TREEg7b8b9c80b1b2b3b4b5b9c90b1_HELMETk220_FOOTSTOOLl5_BATHTUBk
   30_SPEARh1_ARROWh2b3_SWORDh4b6c40_WHEELED_CHARIOTr1_CHARIOTj2_CHARIOT_FRAMEp3_WHEELh5b6b8b9c51
   b2b3b4_DARTg5b6b7b8b9eVESSEL_B155d200b1b2b3b4b5b6b7b8b9c10b1b2b3b4b5b6b7b8b9c21b2b6b7b8b9c50d3
   05uMONOGRAM_B127_KAPOg8_KANAKOj33_AREPAh5_MERIh56_TURO2j247_DIPTEtSYLLABLE_B001_DAe2_ROe3_PAe4
   _TEe5_TOe6_NAe7_DIe8_Ad9_SEf10_Ud1_POe2_SOe3_MEe4_DOe5_MOe6_QAe7_ZAf20_ZOe1_QIe3_MUe4_NEe5_A2e
   6_RUe7_REe8_Id9_PU2g30_NIe1_SAe2_QOe3_RA3f6_JOe7_TIe8_Ed9_PIf40_WIe1_SIe2_WOe3_A3e4_KEe5_DEe6_
   JEe8_NWAg50_PUe1_DUe2_NOe3_RIe4_WAe5_NUe7_JAe8_SUe9_TAf60_RAe1_Od2_PTEf5_JUe6_TA2f7_KIe8_RO2f9
   _TUf70_KOe1_DWEf2_PEe3_MIe4_ZEe5_WEe6_RA2f7_KAe8_QEf80_MAe1_KUe5_AUe7_TWEg90_DWOf1_TWOpMBOL_B0
   18b9c22c34c47b9c56c63b4c79c82b3b6b9rK_SYMBOLhED_PAPERCLIPSpON_FACEhPSaTICKgRA_SIGNhSU_LETTER_A
   aEcBAcCAbHAdDAbZAdEaUcFAcGAbHAdHAbHAdIbJAcKAbHAdLAcMAcNAbGAdOaEcPAbHAdSAbHAdTAbHAcONE_MYA_BOcC
   YAdJEUdNAcTIgNA_POjSAbHAeUaEbHcWAcXAcYAbHAdZAbHAkPUNCTUATION_COMMAfFULL_STOPyVRE_TOURNOIS_SIGN
   rZARDfLAMAeOBSTERfCKa_WITH_INK_PENnING-SHIFT_ONEdZEROqGICAL_ANDa_WITH_DOT_ABOVEhUBLE_OVERBARhU
   NDERBARpHORIZONTAL_DASHpMIDDLE_STEMlUNDERBARrORa_OVERLAPPING_LOGICAL_ANDxWITH_DOT_ABOVEhUBLE_O
   VERBARhUNDERBARpHORIZONTAL_DASHpMIDDLE_STEMzLLIPOPgNG_DASH_FROM_LEFT_MEMBER_OF_DOUBLE_VERTICAL
   zoIVISIONhRUMeLEFT_RIGHT_ARROWfDOUBLE_ARROWsTACKfWARDS_ARROWa_FROM_BARoDOUBLE_ARROWa_FROM_BARv
   SQUIGGLE_ARROWyRIGHT_TACKfWARDS_ARROWa_FROM_BARoDOUBLE_ARROWa_FROM_BARvSQUIGGLE_ARROWzdTION_BO
   TTLEkUSdUDLY_CRYING_FACEqVE_HOTELfLETTERjW_ASTERISKiBATTERYgRIGHTNESS_SYMBOLrDOUBLE_PRIME_QUOT
   ATION_MARKzcKAVYKAa_WITH_DOTpLINEfER_BLADE_SCISSORSoFIVE_EIGHTHS_BLOCKsHALF_BLOCKfCIRCLEgINVER
   SE_WHITE_CIRCLEuMEDIUM_SHADErLEFT_BALLPOINT_PENmLOCK_DIAGONAL_LOWER_MIDDLE_LEFT_TO_LOWER_CENTR
   EgRIGHTzhUPPER_CENTRE_TO_LOWER_MIDDLE_RIGHTmRIGHTlUPPER_MIDDLE_RIGHTzdLEFT_TO_LOWER_CENTREgMID
   DLE_RIGHTsUPPER_MIDDLE_RIGHTzbMIDDLE_LEFT_TO_LOWER_CENTREgMIDDLE_RIGHTmRIGHTzwCRAYONgFOUNTAIN_
   PENmPAINTBRUSHjENCILgQUADRANT_CIRCULAR_ARCvSEMICIRCULAR_ANTICLOCKWISE_ARROWzhTRIANGLEcULAR_MED
   IUM_SHADEzdONE_EIGHTH_BLOCKmQUARTER_BLOCKrRIGHT_BLOCK_DIAGONAL_LOWER_CENTRE_TO_LOWER_MIDDLE_RI
   GHTsUPPER_MIDDLE_RIGHTmRIGHTvLEFT_TO_LOWER_MIDDLE_RIGHTsUPPER_CENTREgMIDDLE_RIGHTzbMIDDLE_LEFT
   _TO_UPPER_CENTREgMIDDLE_RIGHTmRIGHTzhUPPER_MIDDLE_LEFT_TO_UPPER_CENTREgRIGHTzwCORNER_WITH_DOTp
   DROP-SHADOWED_WHITE_SQUAREzbPENCILgQUADRANT_CIRCULAR_ARCvSEMICIRCULAR_CLOCKWISE_ARROWzcHADOWED
   _WHITE_CIRCLEgSQUAREvTRIANGLEcULAR_MEDIUM_SHADEzeSEVEN_EIGHTHS_BLOCKtTHREE_EIGHTHS_BLOCKnQUART
   ERS_BLOCKtRIANGULAR_ONE_QUARTER_BLOCKzhZENGEa_DIVIDED_BY_HORIZONTAL_RULEziREbIbMbOcUGGAGEfNGSe
   YCIAN_LETTER_AaNcBaHcDbEaNcGbHbIbJbKaKcLbMaMcNaNcPbQbRbSbTaHbTcUbWbXbZnDIAN_LETTER_AaNcBbCbDbE
   aNcFbGbIbKbLaYcMbNaNcObQbRbSaScTaTcUbVbYiTRIANGULAR_MARKuING_FACEkMACRONeGEbIC_WANDhNETeHAJANI
   _ABBREVIATION_SIGNrLETTER_AbBAbHAdCAbHAdDAbDAbHAdHAdEbGAbHAdHAcIbJAbHAdKAbHAdLAcMAcNAbNAcYAdOb
   PAbHAdRAbRAdSAcTAbHAcTAbHAeUbVAiIGATURE_SHRInSECTION_MARKlIGN_NUKTAqJONG_TILE_AUTUMNgBACKcMBOO
   gCHRYSANTHEMUMnEAST_WINDiIGHT_OF_BAMBOOShCHARACTERSjIRCLESqFIVE_OF_BAMBOOShCHARACTERSjIRCLESoO
   UR_OF_BAMBOOShCHARACTERSjIRCLESpGREEN_DRAGONmJOKERfNINE_OF_BAMBOOShCHARACTERSjIRCLESoORTH_WIND
   kONE_OF_BAMBOOShCHARACTERSjIRCLESnRCHIDgPLUMeRED_DRAGONkSEVEN_OF_BAMBOOShCHARACTERSjIRCLESpIX_
   OF_BAMBOOShCHARACTERSjIRCLESnOUTH_WINDjPRINGfUMMERgTHREE_OF_BAMBOOShCHARACTERSjIRCLESpWO_OF_BA
   MBOOShCHARACTERSjIRCLESoWEST_WINDiHITE_DRAGONlINTERrKASAR_ANGKAfEND_OF_SECTIONoLETTER_AbBAcCAc
   DAcGAcJAcKAcLAcMAcNAbGAcYAdPAcRAcSAcTAcVAcYAjPASSIMBANGkVOWEL_SIGN_EbIbObUsLAYALAM_AU_LENGTH_M
   ARKoDATE_MARKiIGIT_EIGHTfFIVEdOUReNINEeONEdSEVENeIXdTHREEeWOdZEROkFRACTION_ONE_EIGHTHgFIFTHeOR
   TIETHiHALFeONE-HUNDRED-AND-SIXTIETHyQUARTERhSIXTEENTHjTENTHeWENTIETHnTHREE_EIGHTIETHSkQUARTERS
   iSIXTEENTHSkTWENTIETHSzLETTER_AaAbIbRCHAIC_IIjUcBAbHAdCAbHAbILLU_KbLaLaLdMbNaNcRRcYiDAbDAbHAdH
   AcOT_REPHiEaEcGAbHAdHAcIaIcJAbHAdKAbHAdLAbLAbLAeMAcNAbGAcNAbNAdYAdOaOcPAbHAdRAbRAdSAbHAcSAdTAb
   HAcTAbHAcTAeUaUcVAbEDIC_ANUSVARAnOCALIC_LaLcRaRkYAjNUMBER_ONE_HUNDREDhTHOUSANDmTENkSIGN_ANUSVA
   RAhVAGRAHAiCANDRABINDUkIRCULAR_VIRAMAoOMBINING_ANUSVARA_ABOVEyPARAeVERTICAL_BAR_VIRAMAsIRAMAeS
   ARGAmVOWEL_SIGN_AAbIbUcEaEcIaIcOaOcUaUcVOCALIC_LaLcRaRzdE_AND_FEMALE_SIGNpSIGNeWITH_STROKE_AND
   _MALE_AND_FEMALE_SIGNySIGNsTESE_CROSSlMMOTHfNa_AND_WOMAN_HOLDING_HANDSxDANCINGhIN_BUSINESS_SUI
   T_LEVITATINGyTUXEDOjWITH_GUA_PI_MAOkTURBANmAT_SIGNhDAIC_AFFRICATION_MARKqGEMINATION_MARKpLETTE
   R_ABbDbGbHbINcKaSAdLbMbNbPbQbRbSaHbZcTaTcZcDUSHENNAiHALQAfINbTcKADdUSHENNAoPUNCTUATIONlVOCALIZ
   ATION_MARKwGOcICHAEAN_ABBREVIATION_MARK_ABOVEfBELOWxLETTER_AAYINeLEPHeYINeBETHdHETHfDALETHfHAM
   EDHhFEcGHIMELfIMELfHEaTHeJAYINeHAYINgKAPHdHAPHfLAMEDHgMEMdNUNdPEcQHOPHeOPHeRESHeSADHEdMEKHfHIN
   dSHINfTAWcETHdHAMEDHhWAWdXAPHdOPHeYODHeZAYINeHAYINnNUMBER_FIVEeONEa_HUNDREDlTENcWENTYnPUNCTUAT
   ION_DOTa_WITHIN_DOTmUBLE_DOT_WITHIN_DOTvFLEURONhLINE_FILLERlSTAReTWO_DOTSuSIGN_UDpS_SHOEgTELPI
   ECE_CLOCKoUAL_WHEELCHAIRpP_SYMBOL_FOR_LIGHTHOUSEwLE_LEAFiRCHEN_HEAD_MARKjLETTER_-AcAbBAcCAbHAd
   DAbZAdGAcHAcJAcKAbHAdLAcMAcNAbGAcYAdPAbHAdRAcSAbHAdTAbHAcSAbHAeWAcYAcZAbHAkMARK_SHADjSIGN_ANUS
   VARAiCANDRABINDUpUBJOINED_LETTER_AbBAcCAbHAdDAbZAdGAcHAcJAcKAbHAdLAcMAcNAbGAcYAdPAbHAdRAcSAbHA
   dTAbHAcSAbHAeWAcYAcZAbHAuVOWEL_SIGN_AAcEbIbObUrRIAGE_SYMBOLmTIAL_ARTS_UNIFORMsSARAM_GONDI_DIGI
   T_EIGHTfFIVEdOUReNINEeONEdSEVENeIXdTHREEeWOdZEROkLETTER_AaAbIbUcBAbHAdCAbHAdDAbDAbHAdHAdEbGAbH
   AdHAcIaIcJAbHAcNYAeKAbHAcSSAeLAbLAdMAcNAbGAcNAcYAdObPAbHAdRAcSAbHAcSAdTAbHAcRAcTAbHAeUaUcVAcYA
   jRA-KARAgEPHAfSIGN_ANUSVARAiCANDRAgHALANTAhNUKTAfVISARGAmVIRAMAfOWEL_SIGN_AAbIbUcEbIaIcObUaUcV
   OCALIC_RzgCULINE_ORDINAL_INDICATORyK_WORK_SYMBOLnU_MARKhTE_DRINKhHEMATICAL_BOLD_CAPITAL_AaLPHA
   fBaETAeCaHIdDaELTAeIGAMMAhEaPSILONgTAdFbGaAMMAfHbIaOTAeJbKaAPPAfLaAMDAfMaUcNaUcOaMEGAdICRONhPa
   HIcIbSIdQbRaHOdSaIGMAfTaAUcHETAa_SYMBOLmUaPSILONhVbWbXaIcYbZaETAmDIGIT_EIGHTfFIVEdOUReNINEeONE
   dSEVENeIXdTHREEeWOdZEROkEPSILON_SYMBOLoFRAKTUR_CAPITAL_AbBbCbDbEbFbGbHbIbJbKbLbMbNbObPbQbRbSbT
   bUbVbWbXbYbZjSMALL_AbBbCbDbEbFbGbHbIbJbKbLbMbNbObPbQbRbSbTbUbVbWbXbYbZpITALIC_CAPITAL_AaLPHAfB
   aETAeCaHIdDaELTAfEaPSILONgTAdFbGaAMMAfHbIaOTAeJbKaAPPAfLaAMDAfMaUcNaUcOaMEGAdICRONhPaHIcIbSIdQ
   bRaHOdSaIGMAfTaAUcHETAa_SYMBOLmUaPSILONhVbWbXaIcYbZaETAmEPSILON_SYMBOLoKAPPA_SYMBOLmNABLAfPART
   IAL_DIFFERENTIALtHI_SYMBOLjI_SYMBOLjRHO_SYMBOLkSMALL_AaLPHAfBaETAeCaHIdDaELTAfEaPSILONgTAdFaIN
   AL_SIGMAlGaAMMAfHbIaOTAeJbKaAPPAfLaAMDAfMaUcNaUcOaMEGAdICRONhPaHIcIbSIdQbRaHOdSaIGMAfTaAUcHETA
   fUaPSILONhVbWbXaIcYbZaETAkTHETA_SYMBOLtKAPPA_SYMBOLmNABLAfPARTIAL_DIFFERENTIALtHI_SYMBOLjI_SYM
   BOLjRHO_SYMBOLkSCRIPT_CAPITAL_AbBbCbDbEbFbGbHbIbJbKbLbMbNbObPbQbRbSbTbUbVbWbXbYbZjSMALL_AbBbCb
   DbEbFbGbHbIbJbKbLbMbNbObPbQbRbSbTbUbVbWbXbYbZnMALL_AaLPHAfBaETAeCaHIdDaELTAeIGAMMAhEaPSILONgTA
   dFaINAL_SIGMAlGaAMMAfHbIaOTAeJbKaAPPAfLaAMDAfMaUcNaUcOaMEGAdICRONhPaHIcIbSIdQbRaHOdSaIGMAfTaAU
   cHETAfUaPSILONhVbWbXaIcYbZaETAkTHETA_SYMBOLrDOUBLE-STRUCK_CAPITAL_AbBbDbEbFbGbIbJbKbLbMbObSbTb
   UbVbWbXbYjDIGIT_EIGHTfFIVEdOUReNINEeONEdSEVENeIXdTHREEeWOdZEROkSMALL_AbBbCbDbEbFbGbHbIbJbKbLbM
   bNbObPbQbRbSbTbUbVbWbXbYbZvFALLING_DIAGONALpRAKTUR_CAPITAL_AbBbDbEbFbGbJbKbLbMbNbObPbQbSbTbUbV
   bWbXbYjSMALL_AbBbCbDbEbFbGbHbIbJbKbLbMbNbObPbQbRbSbTbUbVbWbXbYbZpITALIC_CAPITAL_AaLPHAfBaETAeC
   aHIdDaELTAfEaPSILONgTAdFbGaAMMAfHbIaOTAeJbKaAPPAfLaAMDAfMaUcNaUcOaMEGAdICRONhPaHIcIbSIdQbRaHOd
   SaIGMAfTaAUcHETAa_SYMBOLmUaPSILONhVbWbXaIcYbZaETAmEPSILON_SYMBOLoKAPPA_SYMBOLmNABLAfPARTIAL_DI
   FFERENTIALtHI_SYMBOLjI_SYMBOLjRHO_SYMBOLkSMALL_AaLPHAfBaETAeCaHIdDaELTAeOTLESS_IbJjEaPSILONgTA
   dFaINAL_SIGMAlGaAMMAfIaOTAeJbKaAPPAfLaAMDAfMaUcNaUcOaMEGAdICRONhPaHIcIbSIdQbRaHOdSaIGMAfTaAUcH
   ETAfUaPSILONhVbWbXaIcYbZaETAkTHETA_SYMBOLtLEFT_ANGLE_BRACKETnDOUBLE_ANGLE_BRACKETuFLATTENED_PA
   RENTHESISvWHITE_SQUARE_BRACKEToTORTOISE_SHELL_BRACKETziMONOSPACE_CAPITAL_AbBbCbDbEbFbGbHbIbJbK
   bLbMbNbObPbQbRbSbTbUbVbWbXbYbZjDIGIT_EIGHTfFIVEdOUReNINEeONEdSEVENeIXdTHREEeWOdZEROkSMALL_AbBb
   CbDbEbFbGbHbIbJbKbLbMbNbObPbQbRbSbTbUbVbWbXbYbZrRIGHT_ANGLE_BRACKETnDOUBLE_ANGLE_BRACKETuFLATT
   ENED_PARENTHESISvWHITE_SQUARE_BRACKEToTORTOISE_SHELL_BRACKETzhSING_DIAGONALpSANS-SERIF_BOLD_CA
   PITAL_AaLPHAfBaETAeCaHIdDaELTAfEaPSILONgTAdFbGaAMMAfHbIaOTAeJbKaAPPAfLaAMDAfMaUcNaUcOaMEGAdICR
   ONhPaHIcIbSIdQbRaHOdSaIGMAfTaAUcHETAa_SYMBOLmUaPSILONhVbWbXaIcYbZaETAmDIGIT_EIGHTfFIVEdOUReNIN
   EeONEdSEVENeIXdTHREEeWOdZEROkEPSILON_SYMBOLoITALIC_CAPITAL_AaLPHAfBaETAeCaHIdDaELTAfEaPSILONgT
   AdFbGaAMMAfHbIaOTAeJbKaAPPAfLaAMDAfMaUcNaUcOaMEGAdICRONhPaHIcIbSIdQbRaHOdSaIGMAfTaAUcHETAa_SYM
   BOLmUaPSILONhVbWbXaIcYbZaETAmEPSILON_SYMBOLoKAPPA_SYMBOLmNABLAfPARTIAL_DIFFERENTIALtHI_SYMBOLj
   I_SYMBOLjRHO_SYMBOLkSMALL_AaLPHAfBaETAeCaHIdDaELTAfEaPSILONgTAdFaINAL_SIGMAlGaAMMAfHbIaOTAeJbK
   aAPPAfLaAMDAfMaUcNaUcOaMEGAdICRONhPaHIcIbSIdQbRaHOdSaIGMAfTaAUcHETAfUaPSILONhVbWbXaIcYbZaETAkT
   HETA_SYMBOLtKAPPA_SYMBOLmNABLAfPARTIAL_DIFFERENTIALtHI_SYMBOLjI_SYMBOLjRHO_SYMBOLkSMALL_AaLPHA
   fBaETAeCaHIdDaELTAfEaPSILONgTAdFaINAL_SIGMAlGaAMMAfHbIaOTAeJbKaAPPAfLaAMDAfMaUcNaUcOaMEGAdICRO
   NhPaHIcIbSIdQbRaHOdSaIGMAfTaAUcHETAfUaPSILONhVbWbXaIcYbZaETAkTHETA_SYMBOLrCAPITAL_AbBbCbDbEbFb
   GbHbIbJbKbLbMbNbObPbQbRbSbTbUbVbWbXbYbZjDIGIT_EIGHTfFIVEdOUReNINEeONEdSEVENeIXdTHREEeWOdZEROkI
   TALIC_CAPITAL_AbBbCbDbEbFbGbHbIbJbKbLbMbNbObPbQbRbSbTbUbVbWbXbYbZjSMALL_AbBbCbDbEbFbGbHbIbJbKb
   LbMbNbObPbQbRbSbTbUbVbWbXbYbZoSMALL_AbBbCbDbEbFbGbHbIbJbKbLbMbNbObPbQbRbSbTbUbVbWbXbYbZrCRIPT_
   CAPITAL_AbCbDbGbJbKbNbObPbQbSbTbUbVbWbXbYbZjSMALL_AbBbCbDbFbHbIbJbKbLbMbNbPbQbRbSbTbUbVbWbXbYb
   ZzXIMIZEgYAN_NUMERAL_EIGHTaEENhLEVENgFIFTEENfVEdOURaTEENiNINEaTEENiONEdSEVENaTEENiIXaTEENhTENc
   HIRTEENgREEeWELVEeOdZEROrEASURED_ANGLEa_OPENING_LEFTmWITH_OPEN_ARM_ENDING_IN_ARROW_POINTING_DO
   WN_AND_LEFTeRIGHToLEFT_AND_DOWNeUPlRIGHT_AND_DOWNeUPmUP_AND_LEFTeRIGHTzzhBYcRIGHT_ANGLE_WITH_D
   OTzbT_ON_BONEkCHANICAL_ARMdLEGmDEFAIDRIN_CAPITAL_LETTER_AaIbTIUeBbCbDbEbFbGbHaPcIbJbKaPcLbMbNa
   GbYcOaEcPbQbRbSbTbUbVbWbXbYaUcZpOMMAfDIGIT_EIGHTfFIVEdOUReNINEeONEa_ALTERNATE_FORMsSEVENeIXdTH
   REEa_ALTERNATE_FORMtWOa_ALTERNATE_FORMsZEROkEXCLAMATION_OHoFULL_STOPjNUMBER_EIGHTEENhLEVENgFIF
   TEENgOURTEENiNINETEENiSEVENTEENiIXTEENhTENcHIRTEENhWELVEnSMALL_LETTER_AaIbTIUeBbCbDbEbFbGbHaPc
   IbJbKaPcLbMbNaGbYcOaEcPbQbRbSbTbUbVbWbXbYaUcZnYMBOL_AIVAuIEVAL_COMMAfEXCLAMATION_MARKqQUESTION
   _MARKsUM_BLACK_CIRCLElOLD_WHITE_CIRCLErEIGHT_POINTED_BLACK_STARsSPOKED_ASTERISKvFIVE_SPOKED_AS
   TERISKtLATTENED_LEFT_PARENTHESIS_ORNAMENTzRIGHT_PARENTHESIS_ORNAMENTzkOUR_POINTED_BLACK_STARkP
   INWHEEL_STARzbGREEK_CROSSlLEFT_CURLY_BRACKET_ORNAMENTwPARENTHESIS_ORNAMENTv-POINTING_ANGLE_BRA
   CKET_ORNAMENTzlMATHEMATICAL_SPACEsRIGHT_CURLY_BRACKET_ORNAMENTwPARENTHESIS_ORNAMENTv-POINTING_
   ANGLE_BRACKET_ORNAMENTzmSALTIREgHADEeIX_POINTED_BLACK_STARsSPOKED_ASTERISKsMALL_WHITE_CIRCLEsT
   HREE_POINTED_BLACK_STARkPINWHEEL_STARzcVERTICAL_BARmWHITE_CIRCLEgSQUARErETEI_MAYEK_AHANG_KHUDA
   MlNJIdPUN_IYEKjCHEIKHANcEIiDIGIT_EIGHTfFIVEdOUReNINEeONEdSEVENeIXdTHREEeWOdZEROkLETTER_ATIYAfB
   AbHAMeCHAbILeDDAbHAdHOUdILdEbGHOUdOKdHUKdIa_LONSUMiJHAMdILdKHOUdOKa_LONSUMkLAIa_LONSUMkMITa_LO
   NSUMkNAa_LONSUMiGOUa_LONSUMkNAcYAdObPAa_LONSUMiHAMeRAIdSAMcHAcSAdTHOUdILa_LONSUMjTAbHAeUNcWAId
   YANGkUM_IYEKiSYLLABLE_REPETITION_MARKyVIRAMAfOWEL_SIGN_AAIbUcNAPdUcCHEINAPhIIbNAPeNUNGeONAPeSO
   UNAPgUNAPdUcVISARGAhYENAPqWORD_REPETITION_MARKzgLONcTING_FACEkMOcNDE_KIKAKUI_COMBINING_NUMBER_
   HUNDRED_THOUSANDSkSiMILLIONSiTEENSdN_THOUSANDSkSdHOUSANDSzbDIGIT_EIGHTfFIVEdOUReNINEeONEdSEVEN
   eIXdTHREEeWOjSYLLABLE_M001_KIe2_KAe3_KUe4_WIe5_WAe6_WUe7_MINf8_MANf9_MUNg10_BIe1_BAe2_BUe3_Id4
   _Ad5_Ud6_DIe7_DAe8_DUe9_SIf20_SAe1_SUe2_TIe3_TAe4_TUe5_LIe6_LAe7_LUe8_JIe9_JAf30_JUe1_YIe2_YAe
   3_YUe4_FIe5_FAe6_FUe7_NINf8_NANf9_NUNg40_HEEf1_HAe2_HOOf3_NGGAg4_KPEEg5_WOe6_HUANg7_MBEEg8_KOe
   9_WVAg50_PUe1_PEe2_HENf3_HINf4_LOOf5_TEe6_GBAf7_NGONg8_NYANg9_MENg60_NYONg1_WVIf2_MBAf3_JOe4_N
   DOf5_KEEf6_POe7_NDOOg8_PIe9_TOf70_GBOf1_GBOOg2_MBEf3_LEe4_KPUf5_FEe6_KOOf7_VOe8_FEEf9_SOf80_YE
   e1_PEEf2_NGGUg3_HEEIg4_LEEf5_VEe6_LONG_NGGEl7_HUNf8_FOe9_DEEg90_NGGIg1_TEEf2_KPAf3_GBEEg4_MONf
   5_KEe6_HEe7_BEe8_NYENg9_PAg100_Ed1_FANf2_POOf3_BOOf4_TOOf5_LONG_MBOOl6_LONG_NGGOOm7_GBEf8_KPEf
   9_YEEg10_LONG_LEj1_GAe2_KPOOg3_JEe4_WOOf5_NGGEEh6_SEe7_NENf8_WEe9_NDEg20_NGGOg1_YOe2_MBUf3_NDI
   f4_GBIf5_NDUf6_WEEf7_NGGUAh8_HOOUg9_NDAg30_HANf1_INe2_KPIf3_FOOf4_NJOOg5_INe6_SOOf7_EIe8_BOe9_
   WVEg40_HOe1_YOOf2_LONG_MBOk3_WEIf4_VOOf5_MBIf6_NGGEg7_Od8_GBUf9_NJEEh50_BEEf1_VUe2_NJAf3_LOe4_
   MUANg5_GIe6_NGGOOh7_JEEf8_KPOf9_NGGAAi60_JOOf1_LONG_MBEk2_SEEf3_EEe4_NYINg5_OOe6_GUEIg7_GUANg8
   _GUe9_NONg70_NYUNg1_RAe2_MBOOg3_VEEf4_MBOf5_LONG_JOj6_HIe7_NGUANh8_ENe9_KUAg80_DOOf1_DOe2_VIe3
   _LONG_NGGOl4_NGENg5_VAe6_HUe7_MBUUg8_MBEEg9_MUENh90_GEEf1_NDEEg2_NJUf3_HONf4_WUIf5_ANe6_SIAf7_
   FUAzdORAH_WITH_NINE_BRANCHESxS_SYMBOLjRCURYeOITIC_CURSIVE_FRACTION_EIGHT_TWELFTHSnLEVEN_TWELFT
   HSpFIVE_TWELFTHSmOUR_TWELFTHSnNINE_TWELFTHSnONE_HALFeTWELFTHlSEVEN_TWELFTHSnIX_TWELFTHSmTEN_TW
   ELFTHSlHREE_TWELFTHSnWO_TWELFTHSvLETTER_AaRCHAIC_SAkBAcDAcEbHHAdIbKAbHAdLAcMAcNAbEcObPAcQAcRAc
   SAbEcTAbEbOcWAcYAiOGOGRAM_IMNdRMTmNUMBER_EIGHTa_HUNDREDa_THOUSANDqTHOUSANDjY_THOUSANDpFIFTYa_T
   HOUSANDmVEa_HUNDREDa_THOUSANDqTHOUSANDmORTYa_THOUSANDmURa_HUNDREDa_THOUSANDqTHOUSANDnNINEa_HUN
   DREDa_THOUSANDqTHOUSANDjTY_THOUSANDpONEa_HUNDREDa_THOUSANDqTHOUSANDmSEVENa_HUNDREDa_THOUSANDqT
   HOUSANDjTYa_THOUSANDpIXa_HUNDREDa_THOUSANDqTHOUSANDjTYa_THOUSANDoTENa_THOUSANDlHIRTYa_THOUSAND
   nREEa_HUNDREDa_THOUSANDqTHOUSANDnWENTYa_THOUSANDnOa_HUNDREDa_THOUSANDqTHOUSANDzcHIEROGLYPHIC_L
   ETTER_AbBAa-2eDAcEbHHAdIbKAbHAdLAcMAcNAa-2dEa-2eObPAcQAcRAa-2eSAa-2dEcTAa-2dEa-2dOcWAcYAjSYMBO
   L_VIDJa-2zhPERSONhSSAGE_WAITINGnTRICAL_BREVEfLONG_OVER_SHORTfTWO_SHORTSuPENTASEMEjSHORT_OVER_L
   ONGpTETRASEMEiRISEMEgWO_SHORTS_JOINEDgOVER_LONGzOeIAO_LETTER_AHbRCHAIC_MAcNAbGAdZZAlBAbRIdDAbD
   AcLHAbYAeZAbHAcYIcZAeFAcGAbHAbHAeHAbHAdKAcLAbHAbYAdYAdMAbHAdNAaSALIZATIONlGAbHAdHAcNAbHAdYAbHA
   ePAbLAdQAbGAdREFORMED_TONE-1b2b4b5b6b8fSHAmTEdSAbHAcSAcYIdTAbEbLHAbYAeONE-2b3b4b5b6b7b8fSAbEbH
   AcSAdTAdVAbFAdWAcXAcYI_DZHAeKAcNNAdPAcTAbSAbHAdTAgZAbHAcSAbHAdZAbSAbYAdYAlSIGN_ASPIRATIONkCONS
   ONANT_MODIFIER_BARwREFORMED_ASPIRATIONkVOICINGvTONE_ABOVEfBELOWfRIGHTfTOP_RIGHToVOWEL_SIGN_AaA
   bEaEcHHcIbNaGcUcEaAbIbNaGcRaRdIaAaNaGdEbGbIbNGcOaNGdUcNaGcOaERbYcGbObUcROUNDED_ERaRlUaAaNaGdEI
   cIbNGcOGcUcVWcWaOcYaIbUIrCR_DASH_SYMBOLlON_US_SYMBOLnO_SIGNfBEcPHONEfSCOPEiDDLE_DOTdTHIRD_WHIT
   E_RIGHT_POINTING_INDEXzlLINE_HORIZONTAL_ELLIPSISzLITARY_HELMETgMEDALlKY_WAYgL_SIGNhNIBUSdDISCe
   MIZEfUS_SIGNa_IN_TRIANGLElWITH_COMMA_ABOVElDOT_BELOWjFALLING_DOTSmRISING_DOTSvTILDEg-OR-PLUS_S
   IGNpYcRRORa_BALLkMSPdOBILE_PHONEa_OFFdWITH_RIGHTWARDS_ARROW_AT_LEFTzpDELScRN_PENTATHLONoI_ABBR
   EVIATION_SIGNrDANDAeIGIT_EIGHTfFIVEdOUReNINEeONEdSEVENeIXdTHREEeWOdZEROjOUBLE_DANDAmLETTER_AaA
   bIbUcBAbHAdCAbHAdDAbDAbHAdHAdEbGAbHAdHAcIaIcJAbHAdKAbHAdLAbLAdMAcNAbGAcNAcYAdObPAbHAdRAcSAbHAc
   SAdTAbHAcTAbHAeUaUcVAbOCALIC_LaLcRaRkYAjSIGN_ANUSVARAhRDHACANDRAlHUVAeVIRAMAeSARGAmVOWEL_SIGN_
   AAbIbUcEbIaIcObUaUcVOCALIC_LaLcRaRwFIER_BREVE_WITH_INVERTED_BREVEzLETTER_ACUTE_ACCENTlLVEOLAR_
   CLICKnPOSTROPHEkBEGIN_HIGH_TONEjLOW_TONEnILABIAL_CLICKoCAPITAL_AaEcBaARRED_BiCbDbEbFbGbHa_WITH
   _STROKEnIbJbKbLbMbNbOaUcPbQbRaEVERSED_EbNkTbUbVbWiENTRED_LEFT_HALF_RINGoRIGHT_HALF_RINGwHINESE
   _TONE_YANG_PINGeQUcRUcSHANGjIN_PINGeQUcRUcSHANGvIRCUMFLEX_ACCENTqOLONeROSS_ACCENTlYRILLIC_ENcH
   ARD_SIGNjSOFT_SIGNsDENTAL_CLICKlOT_HORIZONTAL_BARoSLASHfVERTICAL_BARoUBLE_APOSTROPHEkPRIMEkWN_
   ARROWHEADjTACKjEND_HIGH_TONEjLOW_TONElXTRA-HIGH_DOTTED_LEFT-STEM_TONE_BARsTONE_BARpLEFT-STEM_T
   ONE_BARsTONE_BARnLOW_DOTTED_LEFT-STEM_TONE_BARsTONE_BARpLEFT-STEM_TONE_BARsTONE_BARsGEORGIAN_N
   ARlLOTTAL_STOPa_WITH_STROKExRAVE_ACCENTmHALF_TRIANGULAR_COLONuIGH_DOTTED_LEFT-STEM_TONE_BARsTO
   NE_BARpLEFT-STEM_TONE_BARsTONE_BARnLATERAL_CLICKmEFT_ARROWHEADjHALF_RINGjTACKiOW_ACUTE_ACCENTm
   CIRCUMFLEX_ACCENTrDOTTED_LEFT-STEM_TONE_BARsTONE_BARnWN_ARROWHEADoGRAVE_ACCENTmINVERTED_EXCLAM
   ATION_MARKzLEFT_ARROWaHEADk-STEM_TONE_BARsMACRONgRIGHT_ARROWHEADnNGeTILDEeONE_BARiUP_ARROWHEAD
   mVERTICAL_LINEoER_RIGHT_CORNER_ANGLEyMACRONfID_DOTTED_LEFT-STEM_TONE_BARsTONE_BARpLEFT-STEM_TO
   NE_BARsTONE_BARjDLE_DOUBLE_ACUTE_ACCENTmGRAVE_ACCENTtGRAVE_ACCENTrNUS_SIGNkOPEN_SHELFkPLUS_SIG
   NiRIMEfRAISED_COLONfDOWN_ARROWkEXCLAMATION_MARKqINVERTED_EXCLAMATION_MARKzUP_ARROWoETROFLEX_CL
   ICK_WITH_RETROFLEX_HOOKziVERSED_COMMAfGLOTTAL_STOPa_WITH_STROKEzhHOTIC_HOOKkIGHT_ARROWHEADjHAL
   F_RINGjTACKkSHELFdORT_EQUALS_SIGNqMALL_AaEbINcLPHAfBa_WITH_HOOKkARRED_OhETAdOTTOM_HALF_OnCa_WI
   TH_CURLkAPITAL_AAcBbGa_WITH_HOOKlHbIa_WITH_STROKEmNVERTED_RkLa_WITH_BELTlNbOEcRbUbYiHIcLOSED_O
   MEGAfREVERSED_OPEN_EwDa_WITH_HOOKa_AND_TAILnTAILkELTAdZH_DIGRAPHlOTLESS_J_WITH_STROKEa_AND_HOO
   KzeZ_DIGRAPHa_WITH_CURLeRETROFLEX_HOOKzfEaNGcSHcTHcZHdFaENG_DIGRAPHmGa_WITH_HOOKkAMMAeREEK_GAM
   MAfPHIjHa_WITH_HOOKeSTROKEmENGa_WITH_HOOKoI_WITH_STROKEmOTAeJa_WITH_CROSSED-TAILtKbLa_WITH_BEL
   TeINVERTED_LAZY_SpMIDDLE_TILDEmPALATAL_HOOKmRETROFLEX_HOOKa_AND_BELTzeEZHa_WITH_RETROFLEX_HOOK
   xIGATURE_OEkS_DIGRAPHjZ_DIGRAPHkMa_WITH_HOOKlN_WITH_LEFT_HOOKjRETROFLEX_HOOKvOa_WITH_STROKEmPE
   N_EbOgPaHIdQbRa_WITH_FISHHOOKiTAILkAMS_HORNiEVERSED_EbGLOTTAL_STOPmOPEN_EpSa_WITH_CURLeHOOKkCH
   WAdRIPT_GhIDEWAYS_UkTa_WITH_PALATAL_HOOKmRETROFLEX_HOOKuC_DIGRAPH_WITH_CURLtESH_DIGRAPHlHETAeO
   P_HALF_OjS_DIGRAPHa_WITH_RETROFLEX_HOOKzeURNED_AaEbLPHAfHbIbMa_WITH_LONG_LEGpOPEN_EgRa_WITH_HO
   OKeLONG_LEGa_AND_RETROFLEX_HOOKzjVbWbYa_WITH_BELTsUa_BARdWITH_LEFT_HOOKpPSILONhVa_WITH_HOOKeRI
   GHT_HOOKrWbXbYbZa_WITH_CURLeRETROFLEX_HOOKzbTRESS_AND_HIGH_TONEjLOW_TONEsUPERSCRIPT_HALF_TRIAN
   GULAR_COLONvTRIANGULAR_COLONzdTRIANGULAR_COLONpURNED_COMMAmUNASPIRATEDkP_ARROWHEADjTACKgScVERT
   ICAL_LINEmOICINGhYANG_DEPARTING_TONE_MARKxIN_DEPARTING_TONE_MARKzlULO_TWO_SUMmNEY_BAGdWITH_WIN
   GSl-MOUTH_FACEnGOLIAN_BIRGAa_WITH_DOUBLE_ORNAMENTpORNAMENTtCOLONdMMAfDIGIT_EIGHTfFIVEdOUReNINE
   eONEdSEVENeIXdTHREEeWOdZEROjOUBLE_BIRGA_WITH_ORNAMENTzbELLIPSISiFOUR_DOTSiREE_VARIATION_SELECT
   OR_FOUReONEdTHREEeWOzbULL_STOPjINVERTED_BIRGAa_WITH_DOUBLE_ORNAMENTzkLETTER_AaLI_GALI_AaHbNUSV
   ARA_ONEmBALUDAgCAcDAaGALGAfMARUfDAdHALF_UbYAhIaNVERTED_UBADAMAqKAcNGAcNAdPAbHAdSSAdTAbHREE_BAL
   UDAlTAbHAeUBADAMAhVISARGA_ONElZAbHAlNGdBAcCHAa_WITH_TWO_DOTSpIdDAcEaEcFAcGAcHAAdIbJAcKAbHAdLAb
   HAdMAaNCHU_ALI_GALI_BHAdCAbYAdDDHAdHAdGHAdJHAdLHAdNGAdSSAdTAbTAdZAbHAmFAcIbKAcRAcZHAkNAcOaEcPA
   cQAcRAcSAbHAcIBE_ANGdCHAdDAcEbFAcGAaAdHAaAdIaYcJAcKAcPAcRAAdSHAdTAbSAdUaEcZAbHAiTAbODO_ALI_GAL
   I_TAcZHAlNGdBAcCHAdDAbZAdEbGAaAdHAAdIbJAbIAdKAcLONG_VOWEL_SIGNpMAcNIAdOaEcPAcQAcTAbSAdUaEcWAcY
   AgSAdUaEcWAcYAcZAbHIcRAkMANCHU_COMMAfFULL_STOPqNIRUGUgROTATED_BIRGAa_WITH_DOUBLE_ORNAMENTpORNA
   MENTzcSIBE_SYLLABLE_BOUNDARY_MARKERzdWIRL_BIRGAa_WITH_DOUBLE_ORNAMENTpORNAMENTzTODO_SOFT_HYPHE
   NpRIPLE_BIRGA_WITH_ORNAMENTzURNED_SWIRL_BIRGA_WITH_DOUBLE_ORNAMENTzoVOWEL_SEPARATORwKEYa_FACEi
   OGRAM_FOR_EARTHfYANGdINmRAILeSTABLE_SYMBOLpOD_BUBBLEiN_CAKEeVIEWING_CEREMONYtSQUEbITOgTHER_CHR
   ISTMASnOR_BOATeSCOOTERiIZED_WHEELCHAIRpWAYgUNT_FUJIfAINa_BICYCLISTjCABLEWAYiRAILWAYnSEa_FACEeT
   RAPhTHdVIE_CAMERAkYAIeRO_DANDAeIGIT_EIGHTfFIVEdOUReNINEeONEdSEVENeIXdTHREEeWOdZEROjOUBLE_DANDA
   mLETTER_AbBAcCHUdDAaIdEaAcHAIbOdKEAAEeHAIdOcLAaNdMAEMdIMdNGIcINdOaLbOcPAbHIdRIbOcSHIdTAbEKcHEA
   eWAcYOmUCH_GREATER-THANmLESS-THANmLTANI_LETTER_AbBAbHAdCAbHAdDAbDAbDAcHAdHAdEbGAbHAdHAcIbJAbJA
   dKAbHAdLAcMAcNAbNAcYAdPAbHAdRAbHAcRAdSAcTAbHAcTAbHAeUbVAcYAjSECTION_MARKqIMAPdPLE_MUSICAL_NOTE
   SpICATION_SIGNa_IN_DOUBLE_CIRCLEnLEFT_HALF_CIRCLEqRIGHT_HALF_CIRCLErTRIANGLElWITH_DOT_ABOVEjUN
   DERBARsXlSETa_MULTIPLICATIONoUNIONmSHROOMfIC_FLAT_SIGNjNATURAL_SIGNmSHARP_SIGNlAL_KEYBOARDa_WI
   TH_JACKStNOTEeSCOREeYMBOL_ARPEGGIATO_DOWNeUPnBEGIN_BEAMePHRASEgSLUReTIEiRACEbKETfEATH_MARKiVEb
   ISa_RESTlC_CLEFfAESURAgIRCLE_X_NOTEHEADqLIMACUSfVISeUSTER_NOTEHEAD_BLACKfWHITEvODAcMBINING_ACC
   ENTa-STACCATOoUGMENTATION_DOTqBENDeDOITcUBLE_TONGUElWN_BOWiFLAG-1b2b3b4b5eIPeHARMONICiLOUREfMA
   RCATOa-STACCATOqRIPdSMEAReNAP_PIZZICATOnPRECHGESANG_STEMqTACCATISSIMOgOgEMeTENUTOfREMOLO-1b2b3
   hIPLE_TONGUEnUP_BOWnMON_TIMEkRESCENDOhOIXeUT_TIMEiDA_CAPOfL_SEGNOhMPa_ALLgSHED_BARLINEnECRESCE
   NDOjGREE_SLASHlOUBLE_BARLINEhFLATeSHARPlRUM_CLEF-1b2lEIGHTH_NOTEeRESTkND_BEAMeOF_STIMMEjPHRASE
   gSLUReTIEhF_CLEFa_OTTAVA_ALTAeBASSAsERMATAa_BELOWmINAL_BARLINEkGERED_TREMOLO-1b2b3qVE-LINE_STA
   FFoLAT_DOWNeUPgORTEdUR-LINE_STAFFkSTRING_FRETBOARDuUSA_BLACKfWHITEkG_CLEFa_OTTAVA_ALTAeBASSAsL
   ISSANDO_DOWNeUPlRACE_NOTE_NO_SLASHiSLASHoEGORIAN_C_CLEFgF_CLEFqHALF_NOTEePEDAL_MARKkRESThUPTST
   IMMElINVERTED_TURNnKIEVAN_C_CLEFgEIGHTH_NOTE_STEM_DOWNeUPsND_OF_PIECEmFINAL_NOTEjLAT_SIGNjHALF
   _NOTEjQUARTER_NOTE_STEM_DOWNeUPuRECITATIVE_MARKpWHOLE_NOTEqORONfLEFT_REPEAT_SIGNpONGAa_IMPERFE
   CTA_RESTpPERFECTA_RESTtMAXIMAfEZZOeINIMAa_BLACKfRESTkOON_NOTEHEAD_BLACKfWHITEsULTI_RESTfPLE_ME
   ASURE_RESTvNATURAL_DOWNeUPjEBENSTIMMEkOTEHEAD_BLACKnULL_NOTEHEADnONE_HUNDRED_TWENTY-EIGHTH_NOT
   EeRESTzc-LINE_STAFFnRNAMENT_STROKE-1a0b1c2b3b4b5b6b7b8b9qTTAVA_ALTAeBASSAmPARENTHESIS_NOTEHEAD
   tEDAL_MARKeUP_MARKlS_SUBPUNCTISnIANOeLUS_NOTEHEADmODATUSfRRECTUSa_FLEXUSqQUARTER_NOTEeRESTeTON
   E_FLATeSHARPqINDICESIMA_ALTAeBASSAsREPEAT_DOTSfED_FIGURE-1b2b3pVERSE_FINAL_BARLINEuIGHT_REPEAT
   _SIGNpNFORZANDOlSCANDICUSa_FLEXUSpEGNOdMIBREVIS_BLACKfRESTeWHITEmMINIMA_BLACKfRESTeWHITEpHARP_
   DOWNeUPgORT_BARLINEmINGLE_BARLINEmX-LINE_STAFFkSTRING_FRETBOARDrTEENTH_NOTEeRESTkY-FOURTH_NOTE
   eRESTqORIdQUARE_BbNOTEHEAD_BLACKfWHITEuUBITOgTEMPUS_IMPERFECTUM_CUM_PROLATIONE_IMPERFECTAa_DIM
   INUTION-1b2b3xPERFECTAzkPERFECTUM_CUM_PROLATIONE_IMPERFECTAkPERFECTAa_DIMINUTION-1zzcHIRTY-SEC
   OND_NOTEeRESTqREE-LINE_STAFFpORCULUSa_RESUPINUSrRaIANGLE_NOTEHEAD_DOWN_BLACKfWHITEkLEFT_BLACKf
   WHITEkRIGHT_BLACKfWHITElUP_BLACKfRIGHT_BLACKfWHITElWHITEs-ROUND_NOTEHEAD_DOWN_BLACKfWHITEziURN
   a_SLASHfUPgWO-LINE_STAFFoVIRGAeOID_NOTEHEADnWHOLE_NOTEeRESTjITH_FINGERNAILSqX_NOTEHEADkZpVScWb
   YANMAR_CONSONANT_SIGN_MEDIAL_HAcRAcWAcYAiON_MEDIAL_LAcMAcNAnSHAN_MEDIAL_WAzeDIGIT_EIGHTfFIVEdO
   UReNINEeONEdSEVENeIXdTHREEeWOdZEROkLETTER_AaITON_RAhUcBAbHAdCAbHAdDAbDAbHAdHAdEaASTERN_PWO_KAR
   EN_GHWAeNNAdYWAvGAbHAcREAT_SAiHAcIaIcJAbHAdKAbHAaMTI_CAbHAdDDAbHAdHAdFAcGAcHAbHAdJAbHAdLLAdNAb
   YAdRAcSAcTTAbHAeXAcZAjLAbLAdMAbON_BBAbEdEbJHAdNGAhNAbGAcNAbYAdYAdObPAbHAdRAbUMAI_PALAUNG_FAqSA
   bGAW_KAREN_SHAnHAaN_AbBAbHAdCAbHAdDAcFAcGAbHAdHAcJHAdKAbHAdNAbNAcYAdPHAdTHAdZAfWE_PALAUNG_CHAd
   SHApSAdTAaI_LAING_BAbHAdDAbDAbHAdHAdFAcGAbHAdJAbHAdLLAdNNAcYAmHAcTAbHAeUaUcVOCALIC_LaLcRaRkWAb
   ESTERN_PWO_KAREN_PWAdTHAvYAiOGOGRAM_KHAMTI_HMcOAYdQNsMODIFIER_LETTER_KHAMTI_REDUPLICATIONuSHAN
   _REDUPLICATIONzjSHAN_DIGIT_EIGHTfFIVEdOUReNINEeONEdSEVENeIXdTHREEeWOdZEROoIGN_ANUSVARAhSATeDOT
   _BELOWjKHAMTI_TONE-1b3nLITTLE_SECTIONoPAO_KAREN_TONEoRUMAI_PALAUNG_TONE-5uSECTIONgHAN_COUNCIL_
   EMPHATIC_TONEnTONE-2b3oSAWdTONE-2b3b5b6lTAI_LAING_TONE-2b5qVIRAMAeSARGAhWESTERN_PWO_KAREN_TONE
   -1b2b3b4b5zdYMBOL_AFOREMENTIONEDnITON_EXCLAMATIONlONEdTWOjCOMPLETEDjGENITIVEiLOCATIVEiSHAN_EXC
   LAMATIONlONEpTAI_LAING_DIGIT_EIGHTfFIVEdOUReNINEeONEdSEVENeIXdTHREEeWOdZEROtONE_MARK_SGAW_KARE
   N_HATHIfKE_PHOzcVOWEL_SIGN_AAbIaTON_AaIiEa_ABOVEhGEBA_KAREN_ImIaIcKAYAH_EEcOEcUhMON_IIcOfSGAW_
   KAREN_EUmHAN_AAcEa_ABOVEhFINAL_YmTALL_AAhUaUcVOCALIC_LaLcRaRkWESTERN_PWO_KAREN_EUcUEzoN-ARY_CI
   RCLED_DOT_OPERATORmPLUS_OPERATORnTIMES_OPERATORvOPRODUCTjINTERSECTIONmLOGICAL_ANDdORkPRODUCThS
   QUARE_INTERSECTION_OPERATORvUNION_OPERATORuUMMATIONjTIMES_OPERATORoUNIONa_OPERATOR_WITH_DOTdPL
   USyWHITE_VERTICAL_BARxABATAEAN_CRUCIFORM_NUMBER_FOURvLETTER_ALEPHeYINeBETHeDALETHgFINAL_ALEPHf
   BETHeHEcKAPHeLAMEDHgMEMdNUNdSHINeYODHkGIMELfHEaTHeKAPHeLAMEDHgMEMdNUNdPEcQOPHeRESHeSADHEdMEKHf
   HINeTAWcETHeWAWdYODHeZAYINmNUMBER_FIVEdOUReONEa_HUNDREDlTENcHREEeWENTYeOrLAdIL_POLISHiRA_SIGNi
   KbME_BADGEiNDaINAGARI_HEADSTROKEkLETTER_AaAbIbUcBAbHAdCAbHAdDAbDAbHAdHAdEbGAbHAdHAcIaIcJAbHAdK
   AbHAdLAbLAdMAcNAbGAcNAcYAdObPAbHAdRAbRAdSAbHAcSAdTAbHAcTAbHAeUaUcVAbOCALIC_RaRkYAjSIGN_ANUSVAR
   AhVAGRAHAiSIDDHAMhVIRAMAeSARGAmVOWEL_SIGN_AAbIbUcEbIaIcObPRISHTHAMATRA_EpUaUcVOCALIC_RaRzgRROW
   _NO-BREAK_SPACEtTIONAL_DIGIT_SHAPESmPARKlUSEATED_FACEmZAR_AMULETlBHbSPdECKTIEfGATED_DOUBLE_VER
   TICAL_BAR_DOUBLE_RIGHT_TURNSTILEzuIVE_ACKNOWLEDGElCIRCLED_DIGIT_ZEROkLATIN_CAPITAL_LETTER_AbBb
   CbDbEbFbGbHbIbJbKbLbMbNbObPbQbRbSbTbUbVbWbXbYbZwNUMBER_EIGHTEENhLEVENgFIFTEENgOURTEENiNINETEEN
   iSEVENTEENiIXTEENhTHIRTEENhWELVEdNTYnSQUAREgTRIANGLEqDIAGONAL_CROSSfDIAMONDhMIDDLE_RIGHT_TO_LO
   WER_CENTREzmSQUARED_ABcCROSS_MARKkICcLATIN_CAPITAL_LETTER_AbBbCbDbEbFbGbHbIbJbKbLbMbNbObPbQbRb
   SbTbUbVbWbXbYbZwPAcQUESTION_MARKnSAcWCrITHER_A_SUBSET_OF_NOR_EQUAL_TOuPERSET_OF_NOR_EQUAL_TOzP
   PROXIMATELY_NOR_ACTUALLY_EQUAL_TOzkGREATER-THAN_NOR_EQUAL_TOfIVALENT_TOnLESS-THANzbLESS-THAN_N
   OR_EQUAL_TOfIVALENT_TOnGREATER-THANzhLbPTUNEa_FORM_TWOoRD_FACEhSSUSdT_WITH_EGGSkING_DOLLSlUTER
   cRAL_CHESS_BISHOPa_ROTATED_NINETY_DEGREESoTWO_HUNDRED_SEVENTY_DEGREESzrEQUIHOPPERa_ROTATED_NIN
   ETY_DEGREESziKINGa_ROTATED_NINETY_DEGREESoTWO_HUNDRED_SEVENTY_DEGREESzoNIGHTa_ROTATED_FORTY-FI
   VE_DEGREESsNINETY_DEGREESoONE_HUNDRED_THIRTY-FIVE_DEGREESzgTHREE_HUNDRED_FIFTEEN_DEGREESzdWO_H
   UNDRED_SEVENTY_DEGREESpTWENTY-FIVE_DEGREESzvPAWNa_ROTATED_NINETY_DEGREESoTWO_HUNDRED_SEVENTY_D
   EGREESzpQUEENa_ROTATED_NINETY_DEGREESoTWO_HUNDRED_SEVENTY_DEGREESzqROOKa_ROTATED_NINETY_DEGREE
   SoTWO_HUNDRED_SEVENTY_DEGREESzpTURNED_BISHOPgKINGdNIGHTgPAWNeQUEENfROOKrFACEkW_LINEeMOON_SYMBO
   LgWITH_FACEoSHEQEL_SIGNlTAI_LUE_DIGIT_EIGHTfFIVEdOUReNINEeONEdSEVENeIXdTHREEeWOdZEROkLETTER_FI
   NAL_BbDbKbMbNaGcVhHIGH_BAcDAcFAcHAcKAbVAdLAcMAcNAbGAdPAbHAdQAcSAbUAdTAbHAcSAdVAcXAbVAdYAhLOW_B
   AcDAcFAcHAcKAbVAdLAcMAcNAbGAdPAbHAdQAcSAbUAdTAbHAcSAdVAcXAbVAdYAnSIGN_LAEaVjTHAM_DIGIT_ONEnONE
   _MARK-1b2lVOWEL_SIGN_AAaYcEbYcEbIIbYcOaAaYcYcUaEaYcUbYcVOWEL_SHORTENERzkA_ABBREVIATION_SIGNrCO
   MMAfDANDAeIGIT_EIGHTfFIVEdOUReNINEeONEdSEVENeIXdTHREEeWOdZEROjOUBLE_COMMAfDANDAmGAP_FILLERkINS
   ERTION_SIGNoLETTER_AaAbIbUcBAbHAdCAbHAdDAbDAbHAdHAdEbGAbHAdHAcIaIcJAbHAdKAbHAdLAbHAdMAbHAdNAbG
   AbHAdHAcNAcYAbHAeObPAbHAdRAbHAdSAbHAcSAdTAbHAcTAbHAeUaUcVEDIC_ANUSVARAnOCALIC_LaLcRaRkWAcYAjOM
   cPLACEHOLDER_MARKqSANDHI_MARKkIDDHIeGN_ANUSVARAhVAGRAHAiCANDRABINDUlFINAL_ANUSVARAoJIHVAMULIYA
   lNUKTAfUPADHMANIYAlVIRAMAeSARGAmVOWEL_SIGN_AAbIbUcEbIaIcObUaUcVOCALIC_LaLcRaRxLINE_LEFTeRIGHTk
   SPAPERhXT_LINEePAGEiIGHT_WITH_STARSoNJAeKO_COMBINING_DOUBLE_DOT_ABOVEqLONG_DESCENDING_TONEpHIG
   H_TONEjLOW_TONEiRISING_TONEqNASALIZATION_MARKrSHORT_HIGH_TONEjLOW_TONEiRISING_TONEyMAfDANTAYAL
   ANjIGIT_EIGHTfFIVEdOUReNINEeONEdSEVENeIXdTHREEeWOdZEROjOROME_SIGNlEXCLAMATION_MARKqHIGH_TONE_A
   POSTROPHEuLAJANYALANjETTER_AbBAcCHAdDAaGBASINNAkEaEcFAcGBAdHAcIbJAbONA_CHAdJAcRAhKAcLAcMAcNaAa
   _WOLOSOiYAa_WOLOSOkOaOcPAcRAbRAdSAcTAcUbWAcYAiOW_TONE_APOSTROPHEtSYMBOL_GBAKURUNENkOO_DENNENqT
   AMAN_SIGNnLbNBSPeO_BICYCLEShREAK_HEREkENTRYa_SIGNkMOBILE_PHONESnONE_UNDER_EIGHTEEN_SYMBOLzPEDE
   STRIANSkIRACYgSMOKING_SYMBOLp-BREAK_SPACEmMINAL_DIGIT_SHAPESqSMA_SIGNkN-BREAKING_HYPHENpPOTABL
   E_WATER_SYMBOLvFORKINGiRaDIC_MARK_SIGNnMAL_SUBGROUP_OFa_OR_EQUAL_TOzcTH_EAST_AND_SOUTH_WEST_AR
   ROWtRROWa_AND_SOUTH_EAST_ARROWuCROSSING_NORTH_WEST_ARROWqSOUTH_EAST_ARROWzWITH_HOOKpBLACK_ARRO
   WlDOUBLE_ARROWmPOINTING_BUDdLEAFeVINE_LEAFsSANS-SERIF_ARROWqTRIANGLE-HEADED_ARROWa_TO_BARzdWHI
   TE_ARROWqINDIC_FRACTION_ONE_EIGHTHgHALFeQUARTERhSIXTEENTHnTHREE_QUARTERSiSIXTEENTHSzPLACEHOLDE
   R_MARKqQUANTITY_MARKkRTER_MARKmRUPEE_MARKqWEST_AND_SOUTH_EAST_ARROWtRROWa_AND_NORTH_EAST_ARROW
   uCROSSING_NORTH_EAST_ARROWzTO_CORNERgLONG_BARlWITH_HOOKpBLACK_ARROWlDOUBLE_ARROWmPOINTING_BUDd
   LEAFeVINE_LEAFsSANS-SERIF_ARROWqTRIANGLE-HEADED_ARROWa_TO_BARzdWHITE_ARROWrEAST-POINTING_AIRPL
   ANEzSEcT_A_SUBSET_OFhPERSET_OFmLMOST_EQUAL_TOoN_ELEMENT_OFmSYMPTOTICALLY_EQUAL_TOxCHECK_MARKkE
   QUAL_TOfIVALENT_TOnGREATER-THANmIDENTICAL_TOmLESS-THANjNORMAL_SUBGROUP_OFa_OR_EQUAL_TOzfPARALL
   EL_TOlSIGNdQUARE_IMAGE_OF_OR_EQUAL_TOuORIGINAL_OF_OR_EQUAL_TOzfTILDEeRUEfCHED_LEFT_SEMICIRCLE_
   WITH_THREE_DOTSzfOWER_RIGHT-SHADOWED_WHITE_RIGHTWARDS_ARROWzsRIGHT_SEMICIRCLE_WITH_THREE_DOTSz
   hUPPER_RIGHT-SHADOWED_WHITE_RIGHTWARDS_ARROWzxEa_PADbGEfBOOKa_WITH_DECORATIVE_COVERzeULaLcMBER
   _EIGHTEEN_FULL_STOPrLEVEN_FULL_STOPqFIFTEEN_FULL_STOPqOURTEEN_FULL_STOPsNINETEEN_FULL_STOPsSEV
   ENTEEN_FULL_STOPsIGNcXTEEN_FULL_STOPrTEN_FULL_STOPmHIRTEEN_FULL_STOPrWELVE_FULL_STOPnNTY_FULL_
   STOPuERO_SIGNjSHU_CHARACTER-1B170b1b2b3b4b5b6b7b8b9bAbBbCbDbEbFc80b1b2b3b4b5b6b7b8b9bAbBbCbDbE
   bFc90b1b2b3b4b5b6b7b8b9bAbBbCbDbEbFcA0b1b2b3b4b5b6b7b8b9bAbBbCbDbEbFcB0b1b2b3b4b5b6b7b8b9bAbBb
   CbDbEbFcC0b1b2b3b4b5b6b7b8b9bAbBbCbDbEbFcD0b1b2b3b4b5b6b7b8b9bAbBbCbDbEbFcE0b1b2b3b4b5b6b7b8b9
   bAbBbCbDbEbFcF0b1b2b3b4b5b6b7b8b9bAbBbCbDbEbFd200b1b2b3b4b5b6b7b8b9bAbBbCbDbEbFc10b1b2b3b4b5b6
   b7b8b9bAbBbCbDbEbFc20b1b2b3b4b5b6b7b8b9bAbBbCbDbEbFc30b1b2b3b4b5b6b7b8b9bAbBbCbDbEbFc40b1b2b3b
   4b5b6b7b8b9bAbBbCbDbEbFc50b1b2b3b4b5b6b7b8b9bAbBbCbDbEbFc60b1b2b3b4b5b6b7b8b9bAbBbCbDbEbFc70b1
   b2b3b4b5b6b7b8b9bAbBbCbDbEbFc80b1b2b3b4b5b6b7b8b9bAbBbCbDbEbFc90b1b2b3b4b5b6b7b8b9bAbBbCbDbEbF
   cA0b1b2b3b4b5b6b7b8b9bAbBbCbDbEbFcB0b1b2b3b4b5b6b7b8b9bAbBbCbDbEbFcC0b1b2b3b4b5b6b7b8b9bAbBbCb
   DbEbFcD0b1b2b3b4b5b6b7b8b9bAbBbCbDbEbFcE0b1b2b3b4b5b6b7b8b9bAbBbCbDbEbFcF0b1b2b3b4b5b6b7b8b9bA
   bBpITERATION_MARKsT_AND_BOLTlYIAKENG_PUACHUE_HMONG_CIRCLED_CAkDIGIT_EIGHTfFIVEdOUReNINEeONEdSE
   VENeIXdTHREEeWOdZEROkLETTER_AaAcCAcDAbLAdEaEcFAcGAcHAaHdIbKAcLAcMAbLAdNAbCAcKAcPAbLAdQAcRAcTAb
   SAcXAdYAdOaOcPAbLAdQAcRAbRAdSAcTAbSAcXAdUbVAcWbXAbYAdYAcZAiOGOGRAM_NYAJnSIGN_FOR_ANIMALgINVERT
   EBRATEmLOCATIONiPERSONgTHINGjXW_XWjYLLABLE_LENGTHENERtTONE-BbDbGbJbMbSbVzeOBJECT_REPLACEMENT_C
   HARACTERzbLIQUE_ANGLE_OPENING_DOWNeUPqHYPHENmSERVER_EYE_SYMBOLsCR_AMOUNT_OF_CHECKpBELT_BUCKLEk
   OW_TIEgRANCH_BANK_IDENTIFICATIONzbCHAIReUSTOMER_ACCOUNT_NUMBERxDASHdOUBLE_BACKSLASHqFORKeHOOKe
   INVERTED_FORKpTAGONAL_SIGNlOPUSgDENdFFICE_BUILDINGoGHAM_FEATHER_MARKmLETTER_AILMeBEITHfCEIRTeO
   LLeDAIReEABHADHfDHADHfMHANCHOLLlFEARNfGORTeIFINdODHADHhLUISeMUINeNGEADALgIONeONNcRcPEITHfRUISe
   SAILdTRAIFgTINNEfUATHdILLEANNhRjREVERSED_FEATHER_MARKvSPACE_MARKoONEKfHM_SIGNhIL_DRUMhK_HAND_S
   IGNlL_CHIKI_AHADeDIGIT_EIGHTfFIVEdOUReNINEeONEdSEVENeIXdTHREEeWOdZEROkGAAHLAA_TTUDDAAGqLETTER_
   AAJbKbMbWcGbLbNGcTcEDDcNbPbRRdIHbNYcRbScLAaAcEbIbObUcOBbHbTTcVcUCbDbNNcYjMU_TTUDDAGi-GAAHLAA_T
   TUDDAAGtPHAARKAAhUNCTUATION_DOUBLE_MUCAADnMUCAADsRELAAmD_CHINESE_HOOK_MARKjITERATION_MARKwHUNG
   ARIAN_CAPITAL_LETTER_AaAbKbMBcNDdCLOSE_EhEaBbCaHbScDbEbFbGaYcHbJbKbLaYcMaPcNaCbTa-SHAPED_SIGNn
   YcPbRbSaZcTaYcVbZaSdIaIcNIKOLSBURG_OEcUEnOaEEcOcRUDIMENTA_OEcUEmSHORT_ERiUaNKcSbUrNUMBER_FIFTY
   dVEeONEa_HUNDREDhTHOUSANDmTENkSMALL_LETTER_AaAbKbMBcNDdCLOSE_EhEaBbCaHbScDbEbFbGaYcHbJbKbLaYcM
   aPcNaCbTa-SHAPED_SIGNnYcPbRbSaZcTaYcVbZaSdIaIcNIKOLSBURG_OEcUEnOaEEcOcRUDIMENTA_OEcUEmSHORT_ER
   iUaNKcSbUzITALIC_LETTER_AbBEcCHEdDEcEaFbKScLbMbNbRaScSaHbSdHEcIaIcKAbEbHEcUcNORTHERN_TSEmObPEb
   HEdSHEcOUTHERN_TSEmTEbHEdUaUcVEcYEcZEjNUMERAL_FIFTYdVEeONEdTENsKEYdNORTH_ARABIAN_LETTER_AINcLE
   FeBEHdDADbLdES-1b2b3eFEHdGEEMdHAINfHAHcEHdKAFcHAHeLAMdMEEMeNOONeQAFdREHdSADdTAHcEHcHALcEHeWAWd
   YEHdZAHbINlNUMBER_ONEdTENcWENTYzcPERMIC_LETTER_ANcBURdCHERYfDOIcZHOIdITAfEaFcGAIdHAcIaAbEcKOKE
   eLEIdMENOEfNENOEfOaOcPEEIeREIdSHCHOOIfOOIeIIdTAIcSIUeUbVERcOOIeYAaTcERaIbUdRYcUcZATAdHOIpSIAN_
   NUMBER_HUNDREDhONEdTENcWENTYeOkSIGN_AaURAMAZDAAa-2cHAmBAaGAdUUMISHhCAcDAaHYAAUSHa-2kIbUcFAcGAb
   UcHAcIbJAbIcKAbUcLAcMAbIbUcNAbUcPAcRAbUcSAbHAcSAdTAbHAcUcUbVAbIcXAbSHAAYATHIYAmYAcZAhWORD_DIVI
   DERqONAL_COMPUTERrSOGDIAN_FRACTION_ONE_HALFrLETTER_ALEPHdTERNATE_AYINnYINeBETHeFINAL_ALEPHfBET
   HeHEcNUNa_WITH_VERTICAL_TAILwSADHEa_WITH_VERTICAL_TAILyTAWa_WITH_VERTICAL_TAILzdGIMELfHEaTHeKA
   PHeLAMEDHgMEMdNUNdPEcRESH-AYIN-DALETHqSADHEdMEKHfHINeTAWdWAWdYODHeZAYINlIGATURE_AYIN-DALETHuNU
   MBER_FIVEdOUReONEa_HUNDREDlTENcHIRTYeREEeWENTYeOqUTH_ARABIAN_LETTER_ALEFdYNdBETHeDALETHfHADHEd
   LETHhFEcGHAYNeIMELfHEaTHeKAPHdHETHfLAMEDHgMEMdNUNdQOPHeRESHeSADHEdMEKHeTcHINeTAWcETHdHAWcETHfW
   AWdYODHeZAYNlNUMBER_FIFTYfONEhERIC_INDICATORzgTURKIC_LETTER_ORKHON_AaBbDbEBbDbGbKbLbNbRbSbTbYc
   GbLbNbQbRbSaHcTbYcBASHeECbLTcMbNCbGbTbYcPbSHcZcIaCbQcOaEaKcPbQbTjYENISEI_AaBbDbEaBbGbKbNaGcTbY
   cGbLbNGcQbRbSHcTbYcEaCbNCbTbYcSHcZcIaQcOEaKcQyUYGHUR_COMBINING_DOT_ABOVEfBELOWjTWO_DOTS_ABOVEf
   BELOWyLETTER_ALEPHfBETHeFINAL_HETHkGIMEL-HETHkKAPHeLAMEDHfESHeMEMdNUNdPEcRESHeSADHEdMEKHfHINeT
   AWdWAWdYODHeZAYINmPUNCTUATION_BARdFOUR_DOTSjTWO_BARSeDOTSzdER_ADULTfMANdWOMANjIVEeM_SYMBOLiN_W
   ITH_EXCLAMATION_MARK_WITH_LEFT_RIGHT_ARROW_ABOVEzzCOMING_AUTOMOBILEkBUSdFIRE_ENGINElPOLICE_CAR
   kTAXIlE_BUTTON_MOUSEmDOT_LEADERgOVER_TWO_DOTS_PUNCTUATIONzf-PIECE_SWIMSUITqIONePEN_BOOKcXdCENT
   RE_ASTERISKiBLACK_STARkCROSSfTEARDROP-SPOKED_ASTERISKzgFILE_FOLDERkOLDERgHANDS_SIGNkLOCKeMAILB
   OX_WITH_LOWERED_FLAGmRAISED_FLAGySUBSETePERSETj-CIRCUIT-OUTPUT_H-TYPE_SYMBOLnL-TYPE_SYMBOLzdOU
   TLINED_RIGHTWARDS_ARROWzcRATING_SYSTEM_COMMANDwHIUCHUShPOSITIONiTICAL_DISCa_ICONnON_KEYjR_WITH
   _DOT_INSIDEqANGE_BOOKeHEARThUTANhIGINAL_OFiYA_AI_LENGTH_MARKnU_LENGTH_MARKoDIGIT_EIGHTfFIVEdOU
   ReNINEeONEdSEVENeIXdTHREEeWOdZEROkFRACTION_ONE_EIGHTHgHALFeQUARTERhSIXTEENTHnTHREE_QUARTERSiSI
   XTEENTHSzISSHARgLETTER_AaAbIbUcBAbHAdCAbHAdDAbDAbHAdHAdEbGAbHAdHAcIaIcJAbHAdKAbHAdLAbLAdMAcNAb
   GAcNAcYAdObPAbHAdRAbHAcRAdSAbHAcSAdTAbHAcTAbHAeUaUcVAbOCALIC_LaLcRaRkWAcYAbYAkSIGN_ANUSVARAhVA
   GRAHAiCANDRABINDUlNUKTAfOVERLINEiVIRAMAeSARGAmVOWEL_SIGN_AAbIbUcEbIaIcObUaUcVOCALIC_LaLcRaRzNA
   TE_LEFT_PARENTHESISqRIGHT_PARENTHESISwTHODOX_CROSSnSAGE_CAPITAL_LETTER_AaHbIaNdBRAdCHAdDHAdEaH
   CHAdKAcPAcTAbSAeINdGHAdHAbYAdIbKAbHAcYAdLAcMAcNAcOaINdPAcSAbHAdTAbSAbHAeUbWAcZAbHAsSMALL_LETTE
   R_AaHbIaNdBRAdCHAdDHAdEaHCHAdKAcPAcTAbSAeINdGHAdHAbYAdIbKAbHAcYAdLAcMAcNAcOaINdPAcSAbHAdTAbSAb
   HAeUbWAcZAbHAuCbMANYA_DIGIT_EIGHTfFIVEdOUReNINEeONEdSEVENeIXdTHREEeWOdZEROkLETTER_AaAbLEFeBAcC
   AYNeDEELdHAdEaEcFAcGAcHAcIbJAcKAAFdHAdLAANeMIINeNUUNeOaOcQAAFeRAcSAbHIINfTAcUbWAWdXAcYAqTTERcO
   MAN_SIYAQ_ALTERNATE_NUMBER_EIGHTfFIVEdOURa_HUNDREDmNINEeSEVENeIXa_HUNDREDlTENa_THOUSANDlHREEeW
   Oa_THOUSANDzeFRACTION_ONE_HALFeSIXTHsMARRATANiNUMBER_EIGHTa_HUNDREDhTHOUSANDjYa_THOUSANDpFIFTY
   a_THOUSANDmVEa_HUNDREDhTHOUSANDmORTYa_THOUSANDmURa_HUNDREDhTHOUSANDnNINEa_HUNDREDhTHOUSANDjTYa
   _THOUSANDpONEa_HUNDREDhTHOUSANDmSEVENa_HUNDREDhTHOUSANDjTYa_THOUSANDpIXa_HUNDREDhTHOUSANDjTYa_
   THOUSANDoTENa_THOUSANDlHIRTYa_THOUSANDnREEa_HUNDREDhTHOUSANDnWENTYa_THOUSANDnOa_HUNDREDhTHOUSA
   NDzhUNCE_SIGNiTBOX_TRAYiLINED_BLACK_STARkGREEK_CROSSlLATIN_CROSSlWHITE_STARsVERHEATED_FACElLAP
   aPING_BLACK_SQUARESnWHITE_AND_BLACK_SQUARESrSQUARESuINEhWLcXbYSTERgPACKAGEfDaDING_CHARACTERpGE
   a_FACING_UPjWITH_CIRCLED_TEXTlURLkRbScODAeHAWH_HMONG_CLAN_SIGN_FAJdHAMbWJeKHABdOOcWMdLAUJdISdM
   UASePHABeTHOJdSABcHEEJeWBeVAJcWJdXYOOJfYAJcEEGnONSONANT_AUcCAUcHAUeHAUcLAUdNAUeLAUdMAUdNAUcCHA
   UeKAUdLAUdTHAUdSAUfPLHAUfQHAUeRAUdVAUdXAUdYAUnDIGIT_EIGHTfFIVEdOUReNINEeONEdSEVENeIXdTHREEeWOd
   ZEROkMARK_CIM_HOMdKEScHAVeSObUAMeTAUMdUBmNUMBER_HUNDRED_MILLIONSjSiMILLIONSiTEN_BILLIONSiTHOUS
   ANDSkSdRILLIONSqSIGN_AVcCIM_CHEEMeUAM_TSHOOJlHAIS_LUS_NTOG_NTOGsNRES_TOSiPUB_DAWBiTSOV_ROGhXWV
   a_CHWVnHLIcNUBeIB_YAMgLOSdMEEJ_SUABeTSEEBjUSdNQIGdTUJeTAUcHIRD-STAGE_HLIoXHEEJ_CEEVlVOS_FEEMeL
   UBdNRUAeSEEVeTHIABdOMdSHAB_CEEBoXAUSdIABdYEEM_FAIBeNTXIVfRHOdTOVhOOeZWJ_THAJnVOWEL_KAABbVcBbIB
   bVcUBbVcVbWBbVdEBbEBbVcVcIABbVcBbVcOBbOBbVcVcUABbVcBbVcWBbVuLLASdM_BRANCHgDOWN_HANDjTREEeUP_HA
   NDiS_UP_TOGETHERnYRENE_LEFT-POINTING_FLEURONtTTER_ALEPHeYINeBETHeDALETHgFINAL_NUNjGIMELfHEaTHe
   KAPHeLAMEDHgMEMdNUNdPEcQOPHeRESHeSADHEdMEKHfHINeTAWcETHeWAWdYODHeZAYINmNUMBER_FIVEdOUReONEdTEN
   cHREEeWENTYeOkRIGHT-POINTING_FLEURONzfNCAKESfDA_FACEiPERCLIPhRACHUTEfGRAPH_SEPARATORkOScUS_MAR
   KmLLEL_TOcWITH_HORIZONTAL_STROKErTILDE_OPERATORzENTHESIZED_DIGIT_EIGHTfFIVEdOUReNINEeONEdSEVEN
   eIXdTHREEeWOjHANGUL_CHIEUCHa_AiIEUCa_AbUhHIEUHa_AhIEUNGa_AhKHIEUKHa_AiIYEOKa_AiMIEUMa_AhNIEUNa
   _AhPHIEUPHa_AiIEUPa_AhRIEULa_AhSIOSa_AgTHIEUTHa_AiIKEUTa_ApIDEOGRAPH_ALLIANCEiCALLdONGRATULATI
   ONoEARTHeIGHTeNTERPRISEkFESTIVALhINANCIALhREcVEdOUReHAVEeLABORfMETALeOONeNAMEdINEeONEdREACHdPR
   ESENThSOURCEfTeSELFcVENeIXcOCIETYgPECIALgTOCKdUDYeUNbPERVISEjTENcHREEeWOdWATEReOODoKOREAN_CHAR
   ACTER_O_HUdJEONwLATIN_CAPITAL_LETTER_AbBbCbDbEbFbGbHbIbJbKbLbMbNbObPbQbRbSbTbUbVbWbXbYbZqSMALL
   _LETTER_AbBbCbDbEbFbGbHbIbJbKbLbMbNbObPbQbRbSbTbUbVbWbXbYbZuNUMBER_EIGHTEENhLEVENgFIFTEENgOURT
   EENiNINETEENiSEVENTEENiIXTEENhTENcHIRTEENhWELVEdNTYyROTdT_ALTERNATION_MARKrIAL_DIFFERENTIALmLI
   NE_BACKWARDiDOWNeFORWARDhUPiLY-RECYCLED_PAPER_SYMBOLzcNERSHIP_SIGNmY_POPPERkSSED_SYMBOLiNGER_S
   HIPkIVE-PULL-DOWN-OUTPUT_SYMBOLsUP-OUTPUT_SYMBOLzPORT_CONTROLoU_CIN_HAU_GLOTTAL_STOPa_FINALfVA
   RIANTuLETTER_AbBAcCAbHAdDAcEbFAbINAL_KbLbMbNaGcPbTbWbYhGAcHAcIaAcKAbHAdLAcMAcNAbGAdObPAbHAdRAc
   SAcTAbHAdUaAcVAcZAiOW-FALLING_TONEa_FINALfLONGa_FINALzcMID-LEVEL_TONEa_FINALfLONG_FINALzRISING
   _TONEa_FINALfLONGa_FINALwSANDHI_GLOTTAL_STOPa_FINALsTONEa_FINALfLONGa_FINALzhW_PRINTSjDFbIcEAC
   E_SYMBOLiHbOCKeNUTSeRcDESTRIANiN_OVER_STAMPED_ENVELOPEwCILdGUINeSIVE_FACEjTAGRAMhOPLE_HUGGINGm
   R_MILLE_SIGNkSIGNeTEN_THOUSAND_SIGNsCENT_SIGNjFORMING_ARTSmMANENT_PAPER_SIGNrPENDICULARa_WITH_
   SrSEVERING_FACEmON_BOWING_DEEPLYnCLIMBINGiDOING_CARTWHEELpFROWNINGiIN_LOTUS_POSITIONoSTEAMY_RO
   OMoRAISING_BOTH_HANDS_IN_CELEBRATIONziWITH_BALLdLOND_HAIRkCROWNfFOLDED_HANDSmHEADSCARFjPOUTING
   _FACEsAL_COMPUTERnPECTIVEjSETA_SIGNiO_SIGNhTRI_DISHjHAGS-PA_DOUBLE_HEAD_MARKqLETTER_AaLTERNATE
   _YAlSPIRATED_FAmBAcCAaNDRABINDUkHAdDAbDAcZAdEaEcFAcGAbGAdHAcIbJAcKAbHAdLAcMAcNAbGAcNAcYAdObPAb
   HAdQAcRAcSAbHAcMALL_AhTAbHAcSAbHAdTAbHAeUbVOICED_HAeLESS_SHAnWAcXAcYAcZAbHAkMARK_DOUBLE_SHADlS
   HADjSINGLE_HEAD_MARKpUBJOINED_LETTER_RAcWAcYArPERFIXED_LETTER_RAzbISTOS_DISC_SIGN_ARROWfBEEaHI
   VEgOOMERANGhWcULLS_LEGjCAPTIVEfRPENTRY_PLANEnTcHILDeLUBdOLUMNeMBaINING_OBLIQUE_STROKEyDOLIUMeV
   EeEAGLEfFLUTEfGAUNTLEThRATERgHELMETfIDEdORNeLIDbLYeMANACLESgTTOCKhOX_BACKhPAPYRUSgEDESTRIANjLA
   NE_TREEiUMED_HEADlRAMcOSETTEhSAWcHIELDdPdLINGeMALL_AXEiTRAINERiTATTOOED_HEADmIARAeUNNYfVINEeWA
   VY_BANDiOMANwILIPPINE_DOUBLE_PUNCTUATIONsSINGLE_PUNCTUATIONzcOENICIAN_LETTER_AINcLFdBETdDELTeG
   AMLeHEaTdKAFdLAMDeMEMdNUNdPEcQOFdROSHeSADEdEMKdHINeTAUcETdWAUdYODdZAIkNUMBER_ONEa_HUNDREDlTENc
   HREEeWENTYeOkWORD_SEPARATORwLUSfICKaUP_TRUCKkEbGa_FACEeNOSEgLCROW_SIGNjE_OF_POOiLcNATAdCHED_FI
   NGERSkING_HANDkE_DECORATIONlAPPLEgWHEEL_STARlSCESdTOLeTCHFORKa_WITH_TEE_TOPvLACARDdE_OF_INTERE
   ST_SIGNnWORSHIPnNCK_CONSTANTa_OVER_TWO_PIyYGROUND_SLIDEmING_CARD_ACE_OF_CLUBSfDIAMONDSiHEARTSg
   SPADESnBACKdLACK_JOKERlEIGHT_OF_CLUBSfDIAMONDSiHEARTSgSPADESpFIVE_OF_CLUBSfDIAMONDSiHEARTSgSPA
   DESnOOLcUR_OF_CLUBSfDIAMONDSiHEARTSgSPADESoJACK_OF_CLUBSfDIAMONDSiHEARTSgSPADESoKING_OF_CLUBSf
   DIAMONDSiHEARTSgSPADESnNIGHT_OF_CLUBSfDIAMONDSiHEARTSgSPADESqNINE_OF_CLUBSfDIAMONDSiHEARTSgSPA
   DESoQUEEN_OF_CLUBSfDIAMONDSiHEARTSgSPADESpRED_JOKERjSEVEN_OF_CLUBSfDIAMONDSiHEARTSgSPADESoIX_O
   F_CLUBSfDIAMONDSiHEARTSgSPADESnTEN_OF_CLUBSfDIAMONDSiHEARTSgSPADESmHREE_OF_CLUBSfDIAMONDSiHEAR
   TSgSPADESoRUMP-1a0b1b2b3b4b5b6b7b8b9c2a0b1c3b4b5b6b7b8b9gWO_OF_CLUBSfDIAMONDSiHEARTSgSPADESnWH
   ITE_JOKERwDbUaNGEReS_SIGNa_ABOVE_EQUALS_SIGNrIN_LEFT_HALF_CIRCLEqRIGHT_HALF_CIRCLErTRIANGLElWI
   TH_BLACK_TRIANGLEoCIRCUMFLEX_ACCENT_ABOVExDOT_BELOWjSMALL_CIRCLE_ABOVErUBSCRIPT_TWOnTILDE_ABOV
   EfBELOWw-MINUS_SIGNmTOa_FORM_FIVEdOUReTHREEeWOnMbOCKET_CALCULATORpLICE_CARaS_REVOLVING_LIGHTuO
   FFICERmODLEeP_DIRECTIONAL_FORMATTINGkISOLATEuCORNfRTABLE_STEREOnSEIDONfITION_INDICATORpTAL_HOR
   NeMARKa_FACEmBOXfT_OF_FOODiABLE_WATER_SYMBOLqTOdTED_PLANTkUCHcLTRY_LEGiND_SIGNhRING_LIQUIDlTIN
   G_CAT_FACEiFACEkWER_ON_SYMBOLh-OFF_SYMBOLnSLEEP_SYMBOLlYMBOLlRAYER_BEADSkECEDESa_ABOVE_ALMOST_
   EQUAL_TOpEQUALS_SIGNlNOT_ALMOST_EQUAL_TOpEQUAL_TOmSINGLE-LINE_EQUALS_SIGNlNOT_EQUAL_TOzfBUT_NO
   T_EQUIVALENT_TOvOR_EQUAL_TOfIVALENT_TOqUNDER_RELATIONuGNANT_MANdPERSONgWOMANlSCRIPTION_TAKEnEN
   TATION_FORM_FOR_VERTICAL_COLONdMMAfEM_DASHgN_DASHgXCLAMATION_MARKqHORIZONTAL_ELLIPSIStIDEOGRAP
   HIC_COMMAfFULL_STOPvLEFT_ANGLE_BRACKETnBLACK_LENTICULAR_BRACKETyCORNER_BRACKETnURLY_BRACKETnDO
   UBLE_ANGLE_BRACKETuPARENTHESISlSQUARE_BRACKEToTORTOISE_SHELL_BRACKETwWHITE_CORNER_BRACKEToLENT
   ICULAR_BRACKETzdOW_LINEiQUESTION_MARKnRIGHT_ANGLE_BRACKETnBLACK_LENTICULAR_BRACKETyCORNER_BRAC
   KETnURLY_BRACKETnDOUBLE_ANGLE_BRACKETuPARENTHESISlSQUARE_BRACKEToTORTOISE_SHELL_BRACKETwWHITE_
   CORNER_BRACKEToLENTICULAR_BRACKETeKCETzfSEMICOLONjTWO_DOT_LEADERoWAVY_LOW_LINEzqTZELeVIOUS_PAG
   ElIMEcNCEaSSeT_SCREEN_SYMBOLoERa_ICONjVACY_MESSAGEkTE_USE_ONEdTWOe-1b2lOBING_CANEjHIBITED_SIGN
   mJECTIVEhPERTY_LINEjORTIONaAL_TOmSERPINAjSALTER_PAHLAVI_FOUR_DOTS_WITH_CROSSfDOTsLETTER_ALEPHf
   BETHeDALETHgGIMELfHEaTHeKAPHeLAMEDHgMEM-QOPHiNUNdPEcSADHEdMEKHfHINeTAWdWAW-AYIN-RESHnYODHeZAYI
   NmNUMBER_FOUReONEa_HUNDREDlTENcHREEeWENTYeOkSECTION_MARKmTURNED_SECTION_MARKzjU1b2bBLIC_ADDRES
   S_LOUDSPEAKERyNCTUATION_SPACElS_ELEVATUS_MARKtRPLE_HEARTjSEdSHPINfT_LITTER_IN_ITS_PLACE_SYMBOL
   zfQUADRANT_LOWER_LEFTeRIGHTlUPPER_LEFTa_AND_LOWER_LEFT_AND_LOWER_RIGHTuRIGHTlUPPER_RIGHT_AND_L
   OWER_LEFTeRIGHTzlRIGHTa_AND_LOWER_LEFTa_AND_LOWER_RIGHTzvUPLE_INTEGRAL_OPERATORrPRIMEmRTER_NOT
   EjTERNION_INTEGRAL_OPERATORzbESTION_EXCLAMATION_MARKqMARKfED_EQUAL_TOrINCUNXgOTATION_MARKoRABB
   ITa_FACEjCCOONeING_CARdMOTORCYCLEpDICAL_SYMBOL_BOTTOMrOa_BUTTONhACTIVE_SIGNoILWAY_CARdTRACKkNa
   BOWeSED_BACK_OF_HANDmCOMMAfDOTaTED_INTERPOLATION_MARKERzcFISTeHANDa_WITH_FINGERS_SPLAYEDpPART_
   BETWEEN_MIDDLE_AND_RING_FINGERSzvINTERPOLATION_MARKERuMC_SIGNgD_SIGNgR_SIGNhSQUARElMbTaIOdZORe
   ECEIPTeORD_SEPARATORnREATIONAL_VEHICLErYCLED_PAPER_SYMBOLpING_SYMBOL_FOR_GENERIC_MATERIALSrTYP
   E-1_PLASTICSk2_PLASTICSk3_PLASTICSk4_PLASTICSk5_PLASTICSk6_PLASTICSk7_PLASTICSzjD_APPLEfGIFT_E
   NVELOPEpFERENCE_MARKmGIONAL_INDICATOR_SYMBOL_LETTER_AbBbCbDbEbFbGbHbIbJbKbLbMbNbObPbQbRbSbTbUb
   VbWbXbYbZzfSTERED_SIGNnJANG_CONSONANT_SIGN_HbNaGcRqLETTER_AbBAcCAcDAcGAcHAcJAcKAcLAcMAbBAdNAbD
   AcGAbGAdYAbJAePAcRAcSAcTAcWAcYAjSECTION_MARKmVIRAMAfOWEL_SIGN_AIbUcEaAbUcIbObUrLIEVED_FACElMIN
   DER_RIBBONnPLACEMENT_CHARACTERtSPONSEfTRICTED_LEFT_ENTRY-1b2sOOMgTURN_LEFTeRIGHTfSYMBOLlVERSE_
   CHECKER_BOARDnINDEXfLIGHT_FOUR_POINTED_PINWHEEL_STARzfNE_FEEDjSOLIDUSa_OPERATORiPRECEDING_SUBS
   ETqWITH_HORIZONTAL_STROKEzfTILDE_OPERATOR_ABOVE_LEFTWARDS_ARROWpRIGHTWARDS_ARROWznD_ANGLEa_WIT
   H_UNDERBARtCOMMAfDOUBLE_PRIMEa_QUOTATION_MARKuSTROKE_NOT_SIGNwEMPTY_SETjFORKED_PARAGRAPHOSsHAN
   D_WITH_MIDDLE_FINGER_EXTENDEDzhNOT_SIGNiPILCROW_SIGNlRIMEfQUESTION_MARKnRAISED_HAND_WITH_FINGE
   RS_SPLAYEDzgIGHT_ANGLEkOTATED_FLORAL_HEART_BULLETzcSANS-SERIF_CAPITAL_LtEMICOLONjTHUMBS_DOWN_S
   IGNjUP_SIGNnILDEa_EQUALSlRIPLE_PRIMEmVICTORY_HANDsOLVING_HEARTSpHINOCEROSjIaAL_SIGNhBBONa_ARRO
   W_DOWN_LEFTeRIGHTkLEFT_DOWNeUPhRIGHT_DOWNeUPiUP_LEFTeRIGHTtCE_BALLeCRACKERkFLEdGHT_AND_LOWER_O
   NE_EIGHTH_BLOCKwUPPER_ONE_EIGHTH_BLOCKyGER_BUBBLEjLEa_BRACKETa_WITH_DOTqDOTTED_SUBSTITUTION_MA
   RKERzbSUBSTITUTION_MARKERtVARIANT_WITH_SQUAREtWITH_ARCdDOWNWARDS_ZIGZAG_ARROWzhRC_GREATER-THAN
   _BRACKETwROW_WITH_CIRCLED_PLUSmSMALL_CIRCLExBLACK_LENTICULAR_BRACKETsTORTOISE_SHELL_BRACKETzdC
   EILINGgORNER_BRACKETnURLY_BRACKETa_LOWER_HOOKkMIDDLE_PIECEmUPPER_HOOKyDOTTED_SUBSTITUTION_BRAC
   KETzUBLE_ANGLE_BRACKETmRROW_WITH_ROUNDED_HEADxPARENTHESISlQUOTATION_MARKoWIGGLY_FENCEtFISH_TAI
   LhVE_EIGHTHS_BLOCKrLOORfHALF_BLACK_CIRCLEgSTARiOCKfFOLDERgMEDIUM_SHADEmRUNNING_MANoND_TELEPHON
   E_RECEIVERxLOW_PARAPHRASE_BRACKETwNORMAL_FACTOR_SEMIDIRECT_PRODUCTzhONE_EIGHTH_BLOCKmQUARTER_B
   LOCKqPEN_SQUARED_DOTpUTER_JOINkPARENTHESISa_EXTENSIONjLOWER_HOOKkUPPER_HOOKwRAISED_OMISSION_BR
   ACKETxS-SHAPED_BAG_DELIMITERvEMIDIRECT_PRODUCTqVEN_EIGHTHS_BLOCKsIDEWAYS_U_BRACKETqNGLE_QUOTAT
   ION_MARKuPEAKERa_WITH_ONE_SOUND_WAVEoTHREE_SOUND_WAVESzcECH_BUBBLEmQUARE_BRACKETa_EXTENSIONjLO
   WER_CORNERmUPPER_CORNERmWITH_DOUBLE_STROKEnQUILLfSTROKEgTICK_IN_BOTTOM_CORNERnTOP_CORNERsUNDER
   BARzcUBSTITUTION_BRACKETuTACKdHIRD_WHITE_RIGHT_POINTING_INDEXzfOUGHT_BUBBLEmREE_EIGHTHS_BLOCKn
   QUARTERS_BLOCKtORTOISE_SHELL_BRACKETvRANSPOSITION_BRACKETtIANGLEa_ABOVE_LEFT_TRIANGLEwULAR_ONE
   _QUARTER_BLOCKzdVERTICAL_BAR_WITH_QUILLnOX_LINErWHITE_CORNER_BRACKETnURLY_BRACKETnLENTICULAR_B
   RACKETsPARENTHESISlSQUARE_BRACKEToTORTOISE_SHELL_BRACKETzcIGGLY_FENCEn-FACING_ARMENIAN_ETERNIT
   Y_SIGNwFISTeSVASTI_SIGNa_WITH_DOTSzdHANDED_INTERLACED_PENTAGRAMzcPOINTING_ANGLE_BRACKETnCURVED
   _ANGLE_BRACKETuDOUBLE_ANGLE_QUOTATION_MARKzcMAGNIFYING_GLASSzSHADED_WHITE_RIGHTWARDS_ARROWzdID
   E_ARC_CLOCKWISE_ARROWyTO-LEFT_EMBEDDINGjISOLATEhMARKeOVERRIDErHAND_INTERIOR_PRODUCTvWARDS_ARRO
   Wa_ABOVE_ALMOST_EQUAL_TOpREVERSE_ALMOST_EQUAL_TOpTILDE_OPERATORwSHORT_LEFTWARDS_ARROWvTILDE_OP
   ERATORtND_UPPER_AND_LOWER_ONE_EIGHTH_BLOCKzlFROM_BARa_TO_BLACK_DIAMONDzOVER_LEFTWARDS_ARROWuTH
   ROUGH_GREATER-THANmSUPERSETiXiO_BARcLACK_DIAMONDqWITH_CORNER_DOWNWARDSqDOTTED_STEMjUBLE_VERTIC
   AL_STROKEwEQUILATERAL_ARROWHEADvHOOKeLARGE_TRIANGLE_ARROWHEADxOOPeMEDIUM_TRIANGLE_ARROWHEADzNO
   TCHED_TAILmPLUS_BELOWkSMALL_EQUILATERAL_ARROWHEADvTRIANGLE_ARROWHEADxTROKEgTAILa_WITH_DOUBLE_V
   ERTICAL_STROKEwVERTICAL_STROKEyIP_DOWNWARDSjUPWARDSlVERTICAL_STROKEv-TAILkBACK-TILTED_SHADOWED
   _WHITE_ARROWzgLACK_ARROWfCIRCLED_WHITE_ARROWyOTTOM_SHADED_WHITE_ARROWzCOMPRESSED_ARROWqDASHED_
   ARROWlOUBLE_ARROWa_FROM_BARiWITH_STROKEgVERTICAL_STROKEv-TAILkDASH_ARROWrFINGER-POST_ARROWqRON
   T-TILTED_SHADOWED_WHITE_ARROWziHANDcRPOON_OVER_LEFTWARDS_HARPOONwWITH_BARB_DOWN_ABOVE_LEFTWARD
   S_HARPOON_WITH_BARB_DOWNznBELOW_LONG_DASHpFROM_BARiTO_BARhWARDSjUP_ABOVE_LEFTWARDS_HARPOON_WIT
   H_BARB_UPzeONG_DASHjRIGHTWARDS_HARPOON_WITH_BARB_DOWNzoFROM_BARiTO_BARhWARDSyEAVY_ARROWfCOMPRE
   SSED_ARROWwLEFT-SHADED_WHITE_ARROWxOPEN-HEADED_ARROWrPAIRED_ARROWSnQUADRUPLE_ARROWpRIGHT-SHADE
   D_WHITE_ARROWxOCKETgSANS-SERIF_ARROWpQUARED_ARROWkIGGLE_ARROWoTOP_SHADED_WHITE_ARROWvRIANGLE_A
   RROWHEADk-HEADED_ARROWa_OVER_LEFTWARDS_TRIANGLE-HEADED_ARROWzlTO_BARgWITH_BOLD_SHAFTkDOUBLE_HO
   RIZONTAL_STROKErVERTICAL_STROKEwHEAVY_SHAFTlLONG_TIP_DOWNWARDSjUPWARDSqMEDIUM_SHAFTmNARROW_SHA
   FTmVERY_HEAVY_SHAFTzcDASHED_ARROWmPAIRED_ARROWSzbPLE_ARROWfDASH_ARROWqWO_HEADED_ARROWn-HEADED_
   ARROW_FROM_BARiWITH_DOUBLE_VERTICAL_STROKEwTAILa_WITH_DOUBLE_VERTICAL_STROKEwVERTICAL_STROKEyR
   IANGLE_ARROWHEADStVERTICAL_STROKEzbTRIPLE_DASH_ARROWzdWAVE_ARROWjHITE_ARROWa_FROM_WALLjWITHIN_
   TRIANGLE_ARROWHEADzvNGa_ABOVEfBUOYeEQUAL_TOiIN_EQUAL_TOlOPERATORiPOINTgED_PLANETjING_BELLkSING
   _DIAGONAL_CROSSING_FALLING_DIAGONALqSOUTH_EAST_ARROWzpLEbIbMbOcOASTED_SWEET_POTATOsBOT_FACEiCK
   aETeLL_OF_PAPERjED-UP_NEWSPAPERoR_COASTERhSKATEiING_ON_THE_FLOOR_LAUGHINGzcMAN_AS_SIGNhCENTURI
   AL_SIGNoDENARIUS_SIGNmIMIDIA_SEXTULA_SIGNtUPONDIUS_SIGNoNUMERAL_EIGHTeLEVENgFIFTYa_EARLY_FORMk
   THOUSANDmVEa_HUNDREDhTHOUSANDmOUReNINEeONEa_HUNDREDa_THOUSANDqTHOUSANDa_C_DqREVERSED_ONE_HUNDR
   EDuSEVENeIXa_LATE_FORMnTENa_THOUSANDlHREEeWELVEeOlQUINARIUS_SIGNoSEMUNCIA_SIGNlSTERTIUS_SIGNnX
   TANS_SIGNiULA_SIGNlILIQUA_SIGNmUNCIA_SIGNoOSTERfSEaTTEfTATED_CAPITAL_QjFLORAL_HEART_BULLETtHEA
   VY_BLACK_HEART_BULLETyLIGHT_FOUR_POINTED_BLACK_CUSPzeWHITE_FOUR_POINTED_CUSPzeUND_PUSHPINhTARG
   EThED_SYMBOL_FOR_CAIdFUcLUcSHOUcUANGXIiXItWBOATgSbUBLE_SIGNiGBY_FOOTBALLmLE-DELAYEDkMI_DIGIT_E
   IGHTfFIVEdOUReNINEeONEdSEVENeIXdTHREEeWOjFRACTION_ONE_HALFeQUARTERhTHIRDjTWO_THIRDStNUMBER_EIG
   HT_HUNDREDiYgFIFTYdVE_HUNDREDlORTYdUR_HUNDREDmNINE_HUNDREDiTYgONE_HUNDREDlSEVEN_HUNDREDiTYgIX_
   HUNDREDiTYfTENcHIRTYeREE_HUNDREDmWENTYeO_HUNDREDvNIC_ARLAUG_SYMBOLnBELGTHOR_SYMBOLpCROSS_PUNCT
   UATIONrLETTER_AC_AdESCdLGIZ_EOLHXkNSUZ_AhBERKANAN_BEORC_BJARKAN_ByCaALCdEALCdNcWEORTHhDaAGAZ_D
   AEG_DlOTTED-LbNbPiEaARcHWAZ_EH_EjNGcTHdFEHU_FEOH_FE_FnRANKS_CASKET_ACbESCeEHcIScOSqGaARcEBO_GY
   FU_GjRdHAEGL_HfGLAZ_HiICELANDIC-YRlNGaWAZfORcSAZ_IS_ISS_ImWAZ_EOHiJERAN_JhKaAUN_KcAfLAUKAZ_LAG
   U_LOGR_LrONG-BRANCH-AR_AEfHAGALL_HiMADR_MgOSS_OfYRoMANNAZ_MAN_MmNAUDIZ_NYD_NAUD_NrOaEbNbObPEN-
   PfS_OdTHALAN_ETHEL_OpPERTHO_PEORTH_PpQbRAIDO_RAD_REID_RqSHaORT-TWIG-AR_AeBJARKAN_BjHAGALL_HiMA
   DR_MgNAUD_NgOSS_OfSOL_SfTYR_TfYRmIGEL_LONG-BRANCH-SOL_SwOWILO_ShTANeTHURISAZ_THURS_THORNtIWAZ_
   TIR_TYR_TpURUZ_UR_UjVbWaUNJO_WYNN_WmXbYaRcZiMULTIPLE_PUNCTUATIONuSINGLE_PUNCTUATIONsTVIMADUR_S
   YMBOLsNERcING_SHIRT_WITH_SASHvPEE_SIGNiSSIAN_ASTROLOGICAL_SYMBOL_BINOVILEiNOVILEgQUINTILEiSENT
   AGONiTREDECILEjVIGINTILE"

end TypedQuery.Text
