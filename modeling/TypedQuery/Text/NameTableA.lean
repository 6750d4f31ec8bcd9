/-!
# Names of characters, A to C

The names as a walk, see `Text.CharacterName`.
-/

namespace TypedQuery.Text

/-- The names that start with A to C. -/
def namesToC : String :=
  "ABACUSfC_CURRENTiCORDIONfUNT_OFiKaNOWLEDGEjTIVATE_ARABIC_FORM_SHAPINGtSYMMETRIC_SWAPPINGzUTE_A
   CCENTfNGLEkDDRESSED_TO_THE_SUBJECTwHESIVE_BANDAGEoI_SHAKTIiLAM_ALIF_LENGTHENERpCAPITAL_LETTER_
   ALIFeBAbHEdCHIdDAALIeHAdEbFAcGAbBEdHAcIbJIIMeKAFcHAcPOdLAAMeMIIMeNHAcUNcYAdObPEcQAAFeRAcSHAcIN
   NYIIYHEkTUcUbVAcWAWdYAbHEdZALrONSONANT_MODIFIERsDIGIT_EIGHTfFIVEdOUReNINEeONEdSEVENeIXdTHREEeW
   OdZEROkGEMINATE_CONSONANT_MODIFIERuION_MARKpHAMZAfINITIAL_EXCLAMATION_MARKqQUESTION_MARKvNASAL
   IZATION_MARKqUKTAfSMALL_LETTER_ALIFeBAbHEdCHIdDAALIeHAdEbFAcGAbBEdHAcIbJIIMeKAFcHAcPOdLAAMeMII
   MeNHAcUNcYAdObPEcQAAFeRAcSHAcINNYIIYHEkTUcUbVAcWAWdYAbHEdZALqVOWEL_LENGTHENERuMETOSeISSION_TIC
   KETSpULTeEGEAN_CHECK_MARKkDRY_MEASURE_FIRST_SUBUNITzLIQUID_MEASURE_FIRST_SUBUNITzdMEASURE_SECO
   ND_SUBUNIToTHIRD_SUBUNITvNUMBER_EIGHTa_HUNDREDhTHOUSANDjYa_THOUSANDpFIFTYa_THOUSANDmVEa_HUNDRE
   DhTHOUSANDmORTYa_THOUSANDmURa_HUNDREDhTHOUSANDnNINEa_HUNDREDhTHOUSANDjTYa_THOUSANDpONEa_HUNDRE
   DhTHOUSANDmSEVENa_HUNDREDhTHOUSANDjTYa_THOUSANDpIXa_HUNDREDhTHOUSANDjTYa_THOUSANDoTENa_THOUSAN
   DlHIRTYa_THOUSANDnREEa_HUNDREDhTHOUSANDnWENTYa_THOUSANDnOa_HUNDREDhTHOUSANDtWEIGHT_BASE_UNITjF
   IRST_SUBUNITmOURTH_SUBUNIToSECOND_SUBUNIToTHIRD_SUBUNITtORD_SEPARATOR_DOTdLINEyRIAL_TRAMWAYnFG
   HANI_SIGNlHOM_CONSONANT_SIGN_MEDIAL_LAbIGATING_RAlRAyDIGIT_EIGHTfFIVEdOUReNINEeONEdSEVENeIXdTH
   REEeWOdZEROkLETTER_AaLTERNATE_BAcGAcTAmBAbHAdCAbHAdDAbDAbHAdHAdGAbHAdHAcJAbHAdKAbHAdLAbLAdMAcN
   AbGAcNAcYAdPAbHAdRAcSAcTAbHAcTAbHAlNUMBER_TENcWENTYnSIGN_KILLERgRULAIfSECTIONgMALL_SECTIONrYMB
   OL_VIjVOWEL_SIGN_AaAbIbMbWcEbIaIcObUaUrIRPLANEa_ARRIVINGiDEPARTURErKTIESELSKABlLARM_CLOCKjCHEM
   ICAL_SYMBOL_FOR_AIRcLEMBICfKALIa-2gUMdMALGAMgNTIMONY_ORElQUA_REGIAa-2hVITAEa-2iFORTISjRSENICgS
   HESeURIPIGMENTlBATH_OF_MARYeVAPOURSoISMUTH_OREkLACK_SULFURlORAXa-2b3gRICKfCADUCEUSgLXcPUT_MORT
   UUMmINNABARhOPPER_ANTIMONIATElOREjROCUS_OF_COPPERa-2iIRONmUCIBLEa-2b3b4b5kDAY-NIGHTiISSOLVEa-2
   hTILLhEARTHfFIREeGOLDdUMdHALF_DRAMeOUNCEjORSE_DUNGiUReIRON_OREa-2g-COPPER_OREpLEAD_OREhODESTON
   EjMARCASITEiERCURY_SUBLIMATEa-2b3sONTHfNIGHTdTREfOILdPHILOSOPHERS_SULFURsOT_ASHEShWDERaED_BRIC
   KnRECIPITATEkURIFYeTREFACTIONmQUICK_LIMEhNTESSENCEmREALGARa-2hGULUSa_OF_ANTIMONYa-2kIRONi-2b3b
   4hTORTfOCK_SALTa-2lSAL-AMMONIACjTa_OF_ANTIMONYiCOPPER_ANTIMONIATEzCEPTER_OF_JOVEoILVERfOAPdPIR
   ITfTARRED_TRIDENTnRATUM_SUPER_STRATUMa-2wUBLIMATE_OF_ANTIMONYiCOPPERgSALT_OF_ANTIMONYiCOPPERtI
   ONjLFURgTARTARa-2hIN_OREeCTUREhRIDENTgUTTYfURINEfVERDIGRISiINEGARa_OF_ANTIMONYm-2b3hTRIOLa-2jW
   ATERdXxEF_SYMBOLiMBICeRTdIEN_MONSTERlL_AROUND-PROFILEoEQUAL_TOkMaOST_EQUAL_OR_EQUAL_TOlTOa_WIT
   H_CIRCUMFLEX_ACCENTzlTERNATE_ONE-WAY_LEFT_WAY_TRAFFICzbIVE_KEY_SYMBOLvMALGAMATION_OR_COPRODUCT
   xBULANCEhERICAN_FOOTBALLpPERSANDgHORAgNATOLIAN_HIEROGLYPH_A001b2b3b4b5b6b7b8b9c10aAc1b2b3b4b5b
   6b7b8b9c20b1b2b3b4b5b6aAc7b8b9c30b1b2b3b4b5b6b7b8b9aAd40b1aAc2b3b4b5aAc6aAbBc7b8b9c50b1b2b3b4b
   5b6b7b8b9c60b1b2b3b4b5b6aAbBbCc7b8b9c70b1b2b3b4b5b6b7b8b9c80b1b2b3b4b5b6b7b8b9c90b1b2b3b4b5b6b
   7aAc8aAc9d100aAc1aAc2aAc3b4aAbBbCc5aAbBc6b7aAbBbCc8b9c10aAbBc1b2b3b4b5aAc6b7b8b9c20b1b2b3b4b5a
   Ac6b7b8b9c30b1b2b3b4b5aAc6b7b8b9c40b1b2b3b4b5b6b7b8b9c50b1b2b3b4b5b6b7b8b9c60b1b2b3b4b5b6b7b8b
   9c70b1b2b3b4b5b6b7b8b9c80b1b2b3b4b5b6b7b8b9c90b1b2b3b4b5b6b7b8b9d200b1b2aAbBc3b4b5b6b7aAc8b9aA
   d10b1b2b3b4b5aAc6aAc7b8b9c20b1b2b3b4b5b6b7aAc8b9c30b1b2b3b4b5b6b7b8b9c40b1b2b3b4b5b6b7b8b9c50b
   1b2b3b4b5b6b7b8b9c60b1b2b3b4b5b6b7aAc8b9c70b1b2b3b4b5b6b7b8b9c80b1b2b3b4b5b6b7b8b9aAd90b1b2b3b
   4aAc5b6b7b8b9aAe300b1b2b3b4b5b6b7b8b9aAd10b1b2b3b4b5b6b7b8b9c20b1b2b3b4b5b6b7b8b9aAd30b1b2AbBb
   Cc3b4b5b6aAbBbCc7b8b9c40b1b2b3b4b5b6b7b8b9c50b1b2b3b4b5b6b7b8b9aAd60b1b2b3b4aAc5b6b7b8aAc9c70b
   1aAc2b3b4b5b6b7b8b9c80b1aAc2b3_RA_OR_RIjAc4b5b6aAc7b8b9c90b1b2b3_EIGHTh4b5b6b7b8b9d400b1b2b3b4
   b5b6b7b8b9c10_BEGIN_LOGOGRAM_MARKuA_END_LOGOGRAM_MARKu1b2b3b4b5b6b7b8b9c20b1b2b3b4b5b6b7b8b9c3
   0b1b2b3b4b5b6b7b8b9c40b1b2b3b4b5b6b7b8b9c50aAc1b2b3b4b5b6b7aAc8b9c60b1b2b3b4b5b6b7b8b9c70b1b2b
   3b4b5b6b7b8b9c80b1b2b3b4b5b6b7b8b9c90b1b2b3b4b5b6b7d501b2b3b4b5b6b7b8b9c10b1b2b3b4b5b6b7b8b9c2
   0b1b2b3b4b5b6b7b8b9c30uMICAL_HEARToCHOReD_WITH_DOTkGER_SYMBOLjLEa_WITH_S_INSIDEiUNDERBARqRY_FA
   CEhSTROM_SIGNkUISHED_FACEmKHcTaENNA_WITH_BARSoICLOCKWISE_CLOSED_CIRCLE_ARROWsONTOUR_INTEGRALqD
   OWNWARDS_AND_UPWARDS_OPEN_CIRCLE_ARROWSzpGAPPED_CIRCLE_ARROWtINTEGRATIONlOPEN_CIRCLE_ARROWrTOP
   _SEMICIRCLE_ARROWtRIANGLE-HEADED_BOTTOM_U-SHAPED_ARROWvLEFT_U-SHAPED_ARROWtOPEN_CIRCLE_ARROWrR
   IGHT_U-SHAPED_ARROWuTOP_U-SHAPED_ARROWzwPCbL_FUNCTIONAL_SYMBOL_ALPHAa_UNDERBARoBACKSLASH_BARnC
   IRCLE_BACKSLASHjDIAERESISjJOTdSTARcILEfUNDERBARoOMMA_BARjDEL_DIAERESISjSTILEfTILDEgTA_STILEfUN
   DERBARnIAMOND_UNDERBARpOWN_CARET_TILDElSHOE_STILEkTACK_JOTdUNDERBARoWARDS_VANEoEPSILON_UNDERBA
   RqGREATER-THAN_DIAERESISwI-BEAMfOTAa_UNDERBARnJOT_DIAERESISjUNDERBARmLEFT_SHOE_STILElWARDS_VAN
   EoOMEGAa_UNDERBARoQUADa_BACKSLASHjCIRCLEfOLONfDELaTAeIAMONDfVIDEfOWN_CARETgWARDS_ARROWpEQUALfG
   REATER-THANmJOTdLEFTWARDS_ARROWnSS-THANjNOT_EQUALjQUESTIONiRIGHTWARDS_ARROWqSLASHfUP_CARETgWAR
   DS_ARROWqOTE_QUADeUNDERBARoRHOcIGHTWARDS_VANEpSEMICOLON_UNDERBARrLASH_BARiQUISH_QUADkTAR_DIAER
   ESISmILE_TILDElTILDE_DIAERESISpUP_CARET_TILDElSHOE_JOTiTACK_DIAERESISjJOTdOVERBARnWARDS_VANEmZ
   ILDEzOLLONeSTROPHEiPLICATION_PROGRAM_COMMANDyROACHES_THE_LIMITpXIMATELY_BUT_NOT_ACTUALLY_EQUAL
   _TOzEQUAL_OR_EQUAL_TOlTOa_OR_THE_IMAGE_OFzmQUARIUShRABIC_BASELINE_ROUND_DOTsCOMMAeURLY_DAMMAaT
   ANiFATHAaTANiKASRAaTANoDAMMAa_ISOLATED_FORMnMEDIAL_FORMlWITH_DOTjTANa_ISOLATED_FORMuTE_SEPARAT
   ORnECIMAL_SEPARATORqISPUTED_END_OF_AYAHtOUBLE_RIGHT_ARROWHEAD_ABOVEa_WITH_DOTzgD_MADDAnEMPTY_C
   ENTRE_HIGH_STOPjLOW_STOPuND_OF_AYAHeTEXT_MARKqFATHAa_ISOLATED_FORMnMEDIAL_FORMlWITH_DOT_ABOVEj
   RINGeTWO_DOTSoTANa_ISOLATED_FORMvIVE_POINTED_STARqOOTNOTE_MARKERoULL_STOPjHALF_MADDA_OVER_MADD
   AtMZA_ABOVEfBELOWlINVERTED_DAMMAoKASRAa_ISOLATED_FORMnMEDIAL_FORMlWITH_DOT_BELOWpTANa_ISOLATED
   _FORMwLARGE_CIRCLE_BELOWmROUND_DOT_ABOVEfBELOWfINSIDE_CIRCLE_BELOWzjEFT_ARROWHEAD_ABOVEfBELOWs
   TTER_AEbFRICAN_FEHdNOONeQAFa_WITH_THREE_DOTS_ABOVEzhINa_FINAL_FORMkINITIAL_FORMlSOLATED_FORMnM
   EDIAL_FORMlWITH_THREE_DOTS_ABOVEfBELOWfPOINTING_DOWNWARDS_ABOVEzjWO_DOTS_ABOVEfVERTICALLY_ABOV
   EziLEFa_FINAL_FORMkISOLATED_FORMnMAKSURAa_FINAL_FORMkISOLATED_FORMvWASLAa_FINAL_FORMkISOLATED_
   FORMsITH_ATTACHED_BOTTOM_RIGHT_KASRAa_AND_DOT_ABOVEjLEFT_RINGzhFATHAfKASRAfLEFT_HAMZAfROUND_DO
   ToRIGHT_HAMZAfROUND_DOToOUND_DOT_ABOVEfBELOWpTOP_RIGHT_FATHAa_AND_DOT_ABOVEjLEFT_RINGznDOT_ABO
   VEjEXTENDED_ARABIC-INDIC_DIGIT_THREE_ABOVEkWO_ABOVEzmHAMZA_ABOVEa_FINAL_FORMkISOLATED_FORMtBEL
   OWa_FINAL_FORMkISOLATED_FORMzLEFT_MIDDLE_STROKEsMADDA_ABOVEa_FINAL_FORMkISOLATED_FORMzRIGHT_MI
   DDLE_STROKEa_AND_DOT_ABOVEjLEFT_RINGziWAVY_HAMZA_ABOVEfBELOWzbBEEHa_FINAL_FORMkINITIAL_FORMlSO
   LATED_FORMnMEDIAL_FORMoHa_FINAL_FORMkINITIAL_FORMlSOLATED_FORMnMEDIAL_FORMlWITH_DOT_BELOW_AND_
   THREE_DOTS_ABOVEzfHAMZA_ABOVElINVERTED_SMALL_V_BELOWwSMALL_MEEM_ABOVEkVa_BELOWnTHREE_DOTS_HORI
   ZONTALLY_BELOWsPOINTING_UPWARDS_BELOWa_AND_TWO_DOTS_ABOVEzzbWO_DOTS_BELOW_AND_DOT_ABOVEzjEHa_F
   INAL_FORMkINITIAL_FORMlSOLATED_FORMnMEDIAL_FORMrDADa_FINAL_FORMkINITIAL_FORMlSOLATED_FORMnMEDI
   AL_FORMlWITH_DOT_BELOWqHALa_FINAL_FORMkISOLATED_FORMrLa_FINAL_FORMkISOLATED_FORMnWITH_DOT_BELO
   Wa_AND_SMALL_TAHxFOUR_DOTS_ABOVEpINVERTED_SMALL_V_BELOWnVkRINGeTHREE_DOTS_ABOVE_DOWNWARDSpBELO
   WpWO_DOTS_VERTICALLY_BELOW_AND_SMALL_TAHzwDAHALa_FINAL_FORMkISOLATED_FORMrLa_FINAL_FORMkISOLAT
   ED_FORMrOTLESS_BEHdFEHdQAFkULa_FINAL_FORMkISOLATED_FORMqYEHa_FINAL_FORMkINITIAL_FORMlSOLATED_F
   ORMnMEDIAL_FORMqEa_FINAL_FORMkINITIAL_FORMlSOLATED_FORMnMEDIAL_FORMnFARSI_YEHa_FINAL_FORMkINIT
   IAL_FORMlSOLATED_FORMnMEDIAL_FORMlWITH_EXTENDED_ARABIC-INDIC_DIGIT_FOUR_BELOWkTHREE_ABOVEkWO_A
   BOVEzmINVERTED_VkTHREE_DOTS_ABOVEpWO_DOTS_ABOVEzdEHa_FINAL_FORMkINITIAL_FORMlSOLATED_FORMnMEDI
   AL_FORMlWITH_DOT_BELOWa_AND_THREE_DOTS_ABOVEzbMOVED_BELOWpTHREE_DOTS_BELOWfPOINTING_UPWARDS_BE
   LOWzhWO_DOTS_BELOWxGAFa_FINAL_FORMkINITIAL_FORMlSOLATED_FORMnMEDIAL_FORMlWITH_INVERTED_STROKEp
   RINGeTHREE_DOTS_ABOVEpWO_DOTS_BELOWwHAINa_FINAL_FORMkINITIAL_FORMlSOLATED_FORMnMEDIAL_FORMlWIT
   H_DOT_BELOWjTHREE_DOTS_ABOVEzbRAFdUEHa_FINAL_FORMkINITIAL_FORMlSOLATED_FORMnMEDIAL_FORMqHAHa_F
   INAL_FORMkINITIAL_FORMlSOLATED_FORMnMEDIAL_FORMlWITH_EXTENDED_ARABIC-INDIC_DIGIT_FOUR_BELOWznH
   AMZA_ABOVElINVERTED_SMALL_V_BELOWwSMALL_ARABIC_LETTER_TAH_ABOVEeND_TWO_DOTSmBELOWzeTHREE_DOTS_
   ABOVEfPOINTING_UPWARDS_BELOWzhWO_DOTS_ABOVEfVERTICAL_ABOVEzfMZAa_ISOLATED_FORMsEHa_DOACHASHMEE
   a_FINAL_FORMkINITIAL_FORMlSOLATED_FORMnMEDIAL_FORMxFINAL_FORMkGOALa_FINAL_FORMkINITIAL_FORMlSO
   LATED_FORMnMEDIAL_FORMlWITH_HAMZA_ABOVEvINITIAL_FORMlSOLATED_FORMnMEDIAL_FORMlWITH_INVERTED_Vk
   YEH_ABOVEa_FINAL_FORMkISOLATED_FORMzgIGH_HAMZAa_ALEFeWAWdYEHoJEEMa_FINAL_FORMkINITIAL_FORMlSOL
   ATED_FORMnMEDIAL_FORMlWITH_THREE_DOTS_ABOVEfBELOWpWO_DOTS_ABOVEwHa_FINAL_FORMkISOLATED_FORMrKA
   Fa_FINAL_FORMkINITIAL_FORMlSOLATED_FORMnMEDIAL_FORMlWITH_DOT_ABOVEfBELOWjRINGeTHREE_DOTS_BELOW
   pWO_DOTS_ABOVEvSHMIRI_YEHlEHEHa_FINAL_FORMkINITIAL_FORMlSOLATED_FORMnMEDIAL_FORMlWITH_DOT_ABOV
   EjSMALL_VhTHREE_DOTS_ABOVEfBELOWfPOINTING_UPWARDS_BELOWzhWO_DOTS_ABOVEfVERTICALLY_BELOWzkHAHa_
   FINAL_FORMkINITIAL_FORMlSOLATED_FORMnMEDIAL_FORMpIRGHIZ_OEa_FINAL_FORMkISOLATED_FORMqYUa_FINAL
   _FORMkISOLATED_FORMyLAMa_FINAL_FORMkINITIAL_FORMlSOLATED_FORMnMEDIAL_FORMlWITH_BARdDOT_ABOVEhU
   BLE_BARkSMALL_ARABIC_LETTER_TAH_ABOVExVhTHREE_DOTS_ABOVEfBELOWyOW_ALEFiMARKdEEMa_FINAL_FORMkIN
   ITIAL_FORMlSOLATED_FORMnMEDIAL_FORMlWITH_DOT_ABOVEfBELOWjTHREE_DOTS_ABOVEzbNGa_FINAL_FORMkINIT
   IAL_FORMlSOLATED_FORMnMEDIAL_FORMmOEHa_FINAL_FORMkINITIAL_FORMlSOLATED_FORMnMEDIAL_FORMqOONa_F
   INAL_FORMkGHUNNAa_FINAL_FORMkISOLATED_FORMuINITIAL_FORMlSOLATED_FORMnMEDIAL_FORMlWITH_DOT_BELO
   WjINVERTED_SMALL_VqRINGeSMALL_TAHdVhTHREE_DOTS_ABOVEpWO_DOTS_BELOWxYEHa_FINAL_FORMkINITIAL_FOR
   MlSOLATED_FORMnMEDIAL_FORMqOEa_FINAL_FORMkISOLATED_FORMqPEHa_FINAL_FORMkINITIAL_FORMlSOLATED_F
   ORMnMEDIAL_FORMlWITH_SMALL_MEEM_ABOVEkVnEHa_FINAL_FORMkINITIAL_FORMlSOLATED_FORMnMEDIAL_FORMrQ
   AFa_FINAL_FORMkINITIAL_FORMlSOLATED_FORMnMEDIAL_FORMlWITH_DOT_ABOVEfBELOWa_AND_NO_DOTS_ABOVEzc
   THREE_DOTS_ABOVEzREHa_FINAL_FORMkISOLATED_FORMnWITH_DOT_BELOWa_AND_DOT_ABOVExFOUR_DOTS_ABOVEpH
   AMZA_ABOVElINVERTED_VkLOOPeRINGeSMALL_ARABIC_LETTER_TAH_AND_TWO_DOTSzfNOON_ABOVEkVa_BELOWmTROK
   EgTWO_DOTS_ABOVEfVERTICALLY_ABOVEziNOONa_FINAL_FORMkINITIAL_FORMlSOLATED_FORMnMEDIAL_FORMqOHIN
   GYA_YEHlREHa_FINAL_FORMkISOLATED_FORMsSADa_FINAL_FORMkINITIAL_FORMlSOLATED_FORMnMEDIAL_FORMlWI
   TH_THREE_DOTS_ABOVEfBELOWpWO_DOTS_BELOWwEENa_FINAL_FORMkINITIAL_FORMlSOLATED_FORMnMEDIAL_FORMl
   WITH_DOT_BELOW_AND_DOT_ABOVExEXTENDED_ARABIC-INDIC_DIGIT_FOUR_ABOVEznFOUR_DOTS_ABOVEpINVERTED_
   VkSMALL_ARABIC_LETTER_TAH_AND_TWO_DOTSzlTHREE_DOTS_BELOWa_AND_THREE_DOTS_ABOVEzlWO_DOTS_VERTIC
   ALLY_ABOVEzjHEENa_FINAL_FORMkINITIAL_FORMlSOLATED_FORMnMEDIAL_FORMlWITH_DOT_BELOWtTRAIGHT_WAWl
   UPERSCRIPT_ALEFpWASH_KAFjTAHa_FINAL_FORMkINITIAL_FORMlSOLATED_FORMnMEDIAL_FORMlWITH_DOT_BELOWj
   THREE_DOTS_ABOVEfBELOWpWO_DOTS_ABOVEwCHEHa_FINAL_FORMkINITIAL_FORMlSOLATED_FORMnMEDIAL_FORMlWI
   TH_DOT_ABOVEjSMALL_VnEHa_FINAL_FORMkINITIAL_FORMlSOLATED_FORMnMEDIAL_FORMsEHa_FINAL_FORMkINITI
   AL_FORMlSOLATED_FORMnMARBUTAa_FINAL_FORMkGOALeISOLATED_FORMuEDIAL_FORMlWITH_RINGeSMALL_TEH_ABO
   VEjVhTHREE_DOTS_ABOVE_DOWNWARDSzhEHa_FINAL_FORMkINITIAL_FORMlSOLATED_FORMnMEDIAL_FORMqHALa_FIN
   AL_FORMkISOLATED_FORMqEHa_FINAL_FORMkINITIAL_FORMlSOLATED_FORMnMEDIAL_FORMoIN_YEHhTEHa_FINAL_F
   ORMkINITIAL_FORMlSOLATED_FORMnMEDIAL_FORMlWITH_SMALL_VnEHa_FINAL_FORMkINITIAL_FORMlSOLATED_FOR
   MnMEDIAL_FORMsUa_FINAL_FORMkISOLATED_FORMnWITH_HAMZA_ABOVEa_ISOLATED_FORMzgIGHUR_KAZAKH_KIRGHI
   Z_ALEF_MAKSURA_INITIAL_FORMmMEDIAL_FORMzvVEa_FINAL_FORMkISOLATED_FORMoHa_FINAL_FORMkINITIAL_FO
   RMlSOLATED_FORMnMEDIAL_FORMpWAWa_FINAL_FORMkISOLATED_FORMnWITH_DOT_ABOVEfWITHINkEXTENDED_ARABI
   C-INDIC_DIGIT_THREE_ABOVEkWO_ABOVEzmHAMZA_ABOVEa_FINAL_FORMkISOLATED_FORMzRINGeTWO_DOTS_ABOVEx
   YEHa_BARREEa_FINAL_FORMkISOLATED_FORMnWITH_EXTENDED_ARABIC-INDIC_DIGIT_THREE_ABOVEkWO_ABOVEzmH
   AMZA_ABOVEa_FINAL_FORMkISOLATED_FORMzmFINAL_FORMkINITIAL_FORMlSOLATED_FORMnMEDIAL_FORMlWITH_HA
   MZA_ABOVEa_FINAL_FORMkINITIAL_FORMlSOLATED_FORMnMEDIAL_FORMxSMALL_VhTAILdHREE_DOTS_BELOWpWO_DO
   TS_BELOW_AND_DOT_ABOVEjHAMZA_ABOVElSMALL_NOON_ABOVEzsUa_FINAL_FORMkISOLATED_FORMqZAHa_FINAL_FO
   RMkINITIAL_FORMlSOLATED_FORMnMEDIAL_FORMnINa_FINAL_FORMkISOLATED_FORMnWITH_INVERTED_V_ABOVEzhI
   GATURE_AIN_WITH_ALEF_MAKSURA_FINAL_FORMkISOLATED_FORMzbJEEM_INITIAL_FORMlSOLATED_FORMnWITH_MEE
   M_FINAL_FORMkINITIAL_FORMzcMEEM_INITIAL_FORMlSOLATED_FORMnWITH_ALEF_MAKSURA_FINAL_FORMxMEEM_FI
   NAL_FORMkINITIAL_FORMrYEH_FINAL_FORMyYEH_FINAL_FORMkISOLATED_FORMzKBAR_ISOLATED_FORMsLAYHAA_AS
   -SALAAMmE_ISOLATED_FORMpI_AS-SALAAMbTU_WAS-SALAAMwM_AS-SALAAMkAA_AS-SALAAMrEF_MAKSURA_WITH_SUP
   ERSCRIPT_ALEF_FINAL_FORMkISOLATED_FORMzsWITH_FATHATAN_FINAL_FORMkISOLATED_FORMzfLAH_ISOLATED_F
   ORMsZZA_WA_JALLmBEH_WITH_ALEF_MAKSURA_FINAL_FORMkISOLATED_FORMzbHAH_INITIAL_FORMlSOLATED_FORMn
   WITH_YEH_FINAL_FORMwEH_INITIAL_FORMmMEDIAL_FORMpJEEM_INITIAL_FORMlSOLATED_FORMsKHAH_INITIAL_FO
   RMlSOLATED_FORMnWITH_YEH_FINAL_FORMyMEEM_FINAL_FORMkINITIAL_FORMlSOLATED_FORMnMEDIAL_FORMqNOON
   _FINAL_FORMpREH_FINAL_FORMoYEH_FINAL_FORMkISOLATED_FORMrZAIN_FINAL_FORMxISMILLAH_AR-RAHMAN_AR-
   RAHEEMzeDAD_WITH_ALEF_MAKSURA_FINAL_FORMkISOLATED_FORMzbHAH_INITIAL_FORMlSOLATED_FORMnWITH_ALE
   F_MAKSURA_FINAL_FORMxYEH_FINAL_FORMxJEEM_INITIAL_FORMlSOLATED_FORMsKHAH_INITIAL_FORMlSOLATED_F
   ORMnWITH_MEEM_FINAL_FORMkINITIAL_FORMzcMEEM_INITIAL_FORMlSOLATED_FORMsREH_FINAL_FORMkISOLATED_
   FORMrYEH_FINAL_FORMkISOLATED_FORMzbFEH_WITH_ALEF_MAKSURA_FINAL_FORMkISOLATED_FORMzbHAH_INITIAL
   _FORMlSOLATED_FORMrJEEM_INITIAL_FORMlSOLATED_FORMsKHAH_INITIAL_FORMlSOLATED_FORMnWITH_MEEM_FIN
   AL_FORMkINITIAL_FORMzcMEEM_INITIAL_FORMlSOLATED_FORMnWITH_YEH_FINAL_FORMyYEH_FINAL_FORMkISOLAT
   ED_FORMzbGHAIN_WITH_ALEF_MAKSURA_FINAL_FORMkISOLATED_FORMzbJEEM_INITIAL_FORMlSOLATED_FORMsMEEM
   _INITIAL_FORMlSOLATED_FORMnWITH_ALEF_MAKSURA_FINAL_FORMxMEEM_FINAL_FORMpYEH_FINAL_FORMyYEH_FIN
   AL_FORMkISOLATED_FORMzdHAH_WITH_ALEF_MAKSURA_FINAL_FORMkISOLATED_FORMzbJEEM_INITIAL_FORMlSOLAT
   ED_FORMnWITH_YEH_FINAL_FORMyMEEM_INITIAL_FORMlSOLATED_FORMnWITH_ALEF_MAKSURA_FINAL_FORMxYEH_FI
   NAL_FORMyYEH_FINAL_FORMkISOLATED_FORMzEH_WITH_ALEF_MAKSURA_ISOLATED_FORMzbJEEM_INITIAL_FORMlSO
   LATED_FORMsMEEM_INITIAL_FORMlSOLATED_FORMnWITH_JEEM_INITIAL_FORMrMEEM_INITIAL_FORMzcSUPERSCRIP
   T_ALEF_INITIAL_FORMzeYEH_ISOLATED_FORMzbJALLAJALALOUHOUoEEM_WITH_ALEF_MAKSURA_FINAL_FORMkISOLA
   TED_FORMzbHAH_INITIAL_FORMlSOLATED_FORMnWITH_ALEF_MAKSURA_FINAL_FORMxYEH_FINAL_FORMxMEEM_INITI
   AL_FORMlSOLATED_FORMnWITH_ALEF_MAKSURA_FINAL_FORMxHAH_FINAL_FORMkINITIAL_FORMqYEH_FINAL_FORMyY
   EH_FINAL_FORMkISOLATED_FORMzcKAF_WITH_ALEF_FINAL_FORMkISOLATED_FORMnMAKSURA_FINAL_FORMkISOLATE
   D_FORMzbHAH_INITIAL_FORMlSOLATED_FORMrJEEM_INITIAL_FORMlSOLATED_FORMsKHAH_INITIAL_FORMlSOLATED
   _FORMsLAM_FINAL_FORMkINITIAL_FORMlSOLATED_FORMnMEDIAL_FORMpMEEM_FINAL_FORMkINITIAL_FORMlSOLATE
   D_FORMnMEDIAL_FORMlWITH_MEEM_FINAL_FORMkINITIAL_FORMrYEH_FINAL_FORMyYEH_FINAL_FORMkISOLATED_FO
   RMzHAH_WITH_ALEF_MAKSURA_FINAL_FORMkISOLATED_FORMzbHAH_ISOLATED_FORMrJEEM_INITIAL_FORMlSOLATED
   _FORMsMEEM_INITIAL_FORMlSOLATED_FORMsYEH_FINAL_FORMkISOLATED_FORMzcLAM_WITH_ALEF_FINAL_FORMkIS
   OLATED_FORMnMAKSURA_FINAL_FORMkISOLATED_FORMvWITH_HAMZA_ABOVE_FINAL_FORMkISOLATED_FORMtBELOW_F
   INAL_FORMkISOLATED_FORMzMADDA_ABOVE_FINAL_FORMkISOLATED_FORMzkHAH_INITIAL_FORMlSOLATED_FORMnWI
   TH_ALEF_MAKSURA_FINAL_FORMxMEEM_FINAL_FORMkINITIAL_FORMrYEH_FINAL_FORMwEH_INITIAL_FORMqJEEM_IN
   ITIAL_FORMlSOLATED_FORMnWITH_JEEM_FINAL_FORMkINITIAL_FORMrMEEM_FINAL_FORMkINITIAL_FORMrYEH_FIN
   AL_FORMyKHAH_INITIAL_FORMlSOLATED_FORMnWITH_MEEM_FINAL_FORMkINITIAL_FORMzcMEEM_FINAL_FORMkINIT
   IAL_FORMlSOLATED_FORMnMEDIAL_FORMlWITH_HAH_FINAL_FORMkINITIAL_FORMqYEH_FINAL_FORMyYEH_FINAL_FO
   RMkISOLATED_FORMzbMEEM_WITH_ALEF_FINAL_FORMkMAKSURA_ISOLATED_FORMzbHAH_INITIAL_FORMlSOLATED_FO
   RMnWITH_JEEM_INITIAL_FORMrMEEM_INITIAL_FORMrYEH_FINAL_FORMxJEEM_INITIAL_FORMlSOLATED_FORMnWITH
   _HAH_INITIAL_FORMqKHAH_INITIAL_FORMrMEEM_INITIAL_FORMrYEH_FINAL_FORMyKHAH_INITIAL_FORMlSOLATED
   _FORMnWITH_JEEM_INITIAL_FORMrMEEM_INITIAL_FORMrYEH_FINAL_FORMyMEEM_FINAL_FORMkINITIAL_FORMlSOL
   ATED_FORMnWITH_YEH_FINAL_FORMyYEH_ISOLATED_FORMzbOHAMMAD_ISOLATED_FORMwNOON_WITH_ALEF_MAKSURA_
   FINAL_FORMkISOLATED_FORMzbHAH_INITIAL_FORMlSOLATED_FORMnWITH_ALEF_MAKSURA_FINAL_FORMxMEEM_INIT
   IAL_FORMrYEH_FINAL_FORMwEH_INITIAL_FORMmMEDIAL_FORMpJEEM_INITIAL_FORMlSOLATED_FORMnWITH_ALEF_M
   AKSURA_FINAL_FORMxHAH_FINAL_FORMkINITIAL_FORMqMEEM_FINAL_FORMkINITIAL_FORMrYEH_FINAL_FORMyKHAH
   _INITIAL_FORMlSOLATED_FORMsMEEM_FINAL_FORMkINITIAL_FORMlSOLATED_FORMnMEDIAL_FORMlWITH_ALEF_MAK
   SURA_FINAL_FORMxYEH_FINAL_FORMyNOON_FINAL_FORMpREH_FINAL_FORMoYEH_FINAL_FORMkISOLATED_FORMrZAI
   N_FINAL_FORMzQAF_WITH_ALEF_MAKSURA_FINAL_FORMkISOLATED_FORMzbHAH_INITIAL_FORMlSOLATED_FORMrMEE
   M_INITIAL_FORMlSOLATED_FORMnWITH_HAH_FINAL_FORMkINITIAL_FORMqMEEM_FINAL_FORMpYEH_FINAL_FORMyYE
   H_FINAL_FORMkISOLATED_FORMyLA_USED_AS_KORANIC_STOP_SIGN_ISOLATED_FORMzsUDDISA_SIRRAHoRADI_ALLA
   AHU_ANHaAAcUMaAAdNNAsHIMAHU_ALLAAHhM_ALLAAHoSOUL_ISOLATED_FORMtEH_WITH_SUPERSCRIPT_ALEF_ISOLAT
   ED_FORMzoSAD_WITH_ALEF_MAKSURA_FINAL_FORMkISOLATED_FORMzbHAH_INITIAL_FORMlSOLATED_FORMnWITH_HA
   H_FINAL_FORMkINITIAL_FORMqYEH_FINAL_FORMxKHAH_INITIAL_FORMrMEEM_INITIAL_FORMlSOLATED_FORMnWITH
   _MEEM_FINAL_FORMkINITIAL_FORMzcREH_FINAL_FORMkISOLATED_FORMrYEH_FINAL_FORMkISOLATED_FORMyLAAMU
   HU_ALAYNAAnM_ISOLATED_FORMqLA_ISOLATED_FORMnUSED_AS_KORANIC_STOP_SIGN_ISOLATED_FORMzpLLAAHU_AL
   AYHI_WA-AALIHtHOU_ALAYHE_WASALLAMsU_ALAYHI_WAAALIHEE_WA-SALLAMzlEEN_WITH_ALEF_MAKSURA_FINAL_FO
   RMkISOLATED_FORMzbHAH_INITIAL_FORMlSOLATED_FORMnMEDIAL_FORMlWITH_JEEM_INITIAL_FORMzEH_INITIAL_
   FORMmMEDIAL_FORMpJEEM_INITIAL_FORMlSOLATED_FORMnMEDIAL_FORMlWITH_ALEF_MAKSURA_FINAL_FORMxHAH_I
   NITIAL_FORMzbKHAH_INITIAL_FORMlSOLATED_FORMnMEDIAL_FORMlWITH_ALEF_MAKSURA_FINAL_FORMxYEH_FINAL
   _FORMyMEEM_INITIAL_FORMlSOLATED_FORMnMEDIAL_FORMlWITH_HAH_FINAL_FORMkINITIAL_FORMqJEEM_INITIAL
   _FORMrMEEM_FINAL_FORMkINITIAL_FORMzcREH_FINAL_FORMkISOLATED_FORMrYEH_FINAL_FORMkISOLATED_FORMz
   bHADDA_WITH_DAMMA_ISOLATED_FORMnMEDIAL_FORMmTAN_ISOLATED_FORMwFATHA_ISOLATED_FORMnMEDIAL_FORMr
   KASRA_ISOLATED_FORMnMEDIAL_FORMmTAN_ISOLATED_FORMwSUPERSCRIPT_ALEF_ISOLATED_FORMzpEEN_WITH_ALE
   F_MAKSURA_FINAL_FORMkISOLATED_FORMzbHAH_FINAL_FORMkINITIAL_FORMlSOLATED_FORMnMEDIAL_FORMlWITH_
   MEEM_FINAL_FORMkINITIAL_FORMrYEH_FINAL_FORMwEH_INITIAL_FORMmMEDIAL_FORMpJEEM_FINAL_FORMkINITIA
   L_FORMlSOLATED_FORMnMEDIAL_FORMlWITH_YEH_FINAL_FORMyKHAH_FINAL_FORMkINITIAL_FORMlSOLATED_FORMn
   MEDIAL_FORMqMEEM_FINAL_FORMkINITIAL_FORMlSOLATED_FORMnMEDIAL_FORMlWITH_KHAH_FINAL_FORMkINITIAL
   _FORMrMEEM_FINAL_FORMkINITIAL_FORMzcREH_FINAL_FORMkISOLATED_FORMrYEH_FINAL_FORMkISOLATED_FORMz
   cUBHAANAHU_WA_TAAALAAvTABAARAKA_WA-TAAALAAsH_WITH_ALEF_MAKSURA_FINAL_FORMkISOLATED_FORMzbHAH_I
   NITIAL_FORMlSOLATED_FORMrMEEM_INITIAL_FORMlSOLATED_FORMnMEDIAL_FORMlWITH_HAH_FINAL_FORMkINITIA
   L_FORMqMEEM_INITIAL_FORMrYEH_FINAL_FORMyYEH_FINAL_FORMkISOLATED_FORMzEH_WITH_ALEF_MAKSURA_FINA
   L_FORMkISOLATED_FORMzbHAH_INITIAL_FORMlSOLATED_FORMnWITH_JEEM_FINAL_FORMkINITIAL_FORMrMEEM_INI
   TIAL_FORMzEH_INITIAL_FORMmMEDIAL_FORMpJEEM_INITIAL_FORMlSOLATED_FORMnWITH_ALEF_MAKSURA_FINAL_F
   ORMxMEEM_INITIAL_FORMrYEH_FINAL_FORMyKHAH_INITIAL_FORMlSOLATED_FORMnWITH_ALEF_MAKSURA_FINAL_FO
   RMxMEEM_INITIAL_FORMrYEH_FINAL_FORMyMEEM_FINAL_FORMkINITIAL_FORMlSOLATED_FORMnMEDIAL_FORMlWITH
   _ALEF_MAKSURA_FINAL_FORMxHAH_INITIAL_FORMqJEEM_INITIAL_FORMrKHAH_INITIAL_FORMrYEH_FINAL_FORMyN
   OON_FINAL_FORMpREH_FINAL_FORMoYEH_FINAL_FORMkISOLATED_FORMrZAIN_FINAL_FORMxHAL_WITH_SUPERSCRIP
   T_ALEF_ISOLATED_FORMznEH_WITH_ALEF_MAKSURA_FINAL_FORMkISOLATED_FORMzbHEH_MEDIAL_FORMpJEEM_ISOL
   ATED_FORMsMEEM_FINAL_FORMkINITIAL_FORMlSOLATED_FORMnMEDIAL_FORMqNOON_FINAL_FORMpREH_FINAL_FORM
   oYEH_FINAL_FORMkISOLATED_FORMrZAIN_FINAL_FORMzUIGHUR_KIRGHIZ_YEH_WITH_HAMZA_ABOVE_WITH_ALEF_MA
   KSURA_FINAL_FORMkINITIAL_FORMlSOLATED_FORMzzrWASALLAM_ISOLATED_FORMwYEH_WITH_ALEF_MAKSURA_FINA
   L_FORMkISOLATED_FORMzbHAH_INITIAL_FORMlSOLATED_FORMnWITH_YEH_FINAL_FORMvMZA_ABOVE_WITH_AE_FINA
   L_FORMkISOLATED_FORMpLEF_FINAL_FORMkISOLATED_FORMnMAKSURA_FINAL_FORMkISOLATED_FORMzbE_FINAL_FO
   RMkINITIAL_FORMlSOLATED_FORMpHAH_INITIAL_FORMlSOLATED_FORMqEH_INITIAL_FORMmMEDIAL_FORMpJEEM_IN
   ITIAL_FORMlSOLATED_FORMsKHAH_INITIAL_FORMrMEEM_FINAL_FORMkINITIAL_FORMlSOLATED_FORMnMEDIAL_FOR
   MqNOON_FINAL_FORMpOE_FINAL_FORMkISOLATED_FORMqREH_FINAL_FORMoU_FINAL_FORMkISOLATED_FORMpWAW_FI
   NAL_FORMkISOLATED_FORMrYEH_FINAL_FORMkISOLATED_FORMqU_FINAL_FORMkISOLATED_FORMqZAIN_FINAL_FORM
   zgEH_INITIAL_FORMmMEDIAL_FORMpJEEM_INITIAL_FORMlSOLATED_FORMnWITH_YEH_FINAL_FORMyKHAH_INITIAL_
   FORMlSOLATED_FORMsMEEM_FINAL_FORMkINITIAL_FORMlSOLATED_FORMnMEDIAL_FORMlWITH_MEEM_FINAL_FORMkI
   NITIAL_FORMrYEH_FINAL_FORMyNOON_FINAL_FORMpREH_FINAL_FORMoYEH_FINAL_FORMkISOLATED_FORMrZAIN_FI
   NAL_FORMyZAH_WITH_MEEM_INITIAL_FORMlSOLATED_FORMnMEDIAL_FORMzjMADDA_WAAJIBhH_ABOVEkRK_NOON_GHU
   NNAlSIDEWAYS_NOON_GHUNNAxTHEMATICAL_AINcLEFeBEHdDADbLcOTLESS_BEHdFEHdNOONeQAFjUBLE-STRUCK_AINd
   BEHdDADbLdFEHdGHAINfHAHdJEEMeKHAHeLAMdMEEMeNOONeQAFdREHdSADcEENdHEENfTAHcEHcHALcEHeWAWdYEHdZAH
   bINsFEHdGHAINfHAHdINITIAL_AINdBEHdDADdFEHdGHAINfHAHcEHdJEEMeKAFcHAHeLAMdMEEMeNOONeQAFdSADcEENd
   HEENfTEHcHEHeYEHlJEEMeKAFcHAHeLAMcOOPED_AINcLEFeBEHdDADbLdFEHdGHAINfHAHcEHdJEEMeKHAHeLAMdMEEMe
   NOONeQAFdREHdSADcEENdHEENfTAHcEHcHALcEHeWAWdYEHdZAHbINlMEEMeNOONeOPERATOR_HAH_WITH_DALmMEEM_WI
   TH_HAH_WITH_TATWEELzkQAFdREHdSADcEENdHEENeTRETCHED_AINdBEHdDADcOTLESS_BEHdFEHlFEHdGHAINfHAHcEH
   dJEEMeKAFcHAHeMEEMeNOONeQAFdSADcEENdHEENfTAHcEHcHEHeYEHdZAHnTAHbILED_AINdDADcOTLESS_NOONeQAFlG
   HAINfHAHdJEEMeKHAHeLAMdNOONeQAFdSADcEENdHEENfYEHjEHcHALcEHeWAWdYEHdZAHbINrNUMBER_MARK_ABOVEkSI
   GNlOPEN_DAMMATANiFATHATANiKASRATANnPERCENT_SIGNlIASTRE_MARK_ABOVErLACE_OF_SAJDAHoOETIC_VERSE_S
   IGNpUND_MARK_ABOVEqQUESTION_MARKnRAISED_ROUND_DOToYcEVERSED_DAMMAnIGHT_ARROWHEAD_ABOVEa_WITH_D
   OToBELOWuOUNDED_HIGH_STOP_WITH_FILLED_CENTREzlSEMICOLONiHADDAa_ISOLATED_FORMnMEDIAL_FORMrIGN_A
   LAYHE_ASSALLAMpMISRAfRADI_ALLAHOU_ANHUpHMATULLAH_ALAYHEsSAFHAdLLALLAHOU_ALAYHE_WASSALLAMzbMVAT
   eNAHeINDHI_AMPERSANDjPOSTPOSITION_MENxTAKHALLUSnMALL_DAMMAfFARSI_YEHhTHAfHIGH_AINdDOTLESS_HEAD
   _OF_KHAHuFARSI_YEHiOOTNOTE_MARKERpJEEMeLAM_ALEFhIGATURE_ALEF_WITH_LAM_WITH_YEHwQAF_WITH_LAM_WI
   TH_ALEF_MAKSURAzfSAD_WITH_LAM_WITH_ALEF_MAKSURAzoMADDAeEEM_INITIAL_FORMlSOLATED_FORMsNOONa_WIT
   H_KASRApQAFdROUNDED_ZEROmSADcEENdIGN_SAFHAkTAHcHREE_DOTSkUPRIGHT_RECTANGULAR_ZEROyWAWcORD_AL-J
   UZfN-NISFgR-RUBfS-SAJDAhTH-THALATHAmQIFdSAHbKTAfWAQFAkYEHa_BARREE_WITH_TWO_DOTS_BELOWzfZAHbINj
   KASRAfLOW_MEEMeNOON_WITH_KASRApSEENeWAWcORD_IMAALAfSHMAAMhTASHEELqWAWdYEHiTART_OF_RUB_EL_HIZBt
   UBSCRIPT_ALEFmKUNa_BELOWfISOLATED_FORMnMEDIAL_FORMpPERSCRIPT_ALEF_MOKHASSASzYMBOL_DOT_ABOVEfBE
   LOWhUBLE_VERTICAL_BAR_BELOWzFOUR_DOTS_ABOVEfBELOWpRINGeSMALL_TAH_ABOVEfBELOWpTHREE_DOTS_ABOVEf
   BELOWfPOINTING_DOWNWARDS_ABOVEfBELOWzjWO_DOTS_ABOVEfBELOWfVERTICALLY_ABOVEfBELOWzWASLA_ABOVEsT
   AIL_FRAGMENTlTWEELa_WITH_FATHATAN_ABOVEoOVERSTRUCK_HAMZAfWAWoTWO_DOTS_BELOWzbHOUSANDS_SEPARATO
   RsONE_LOOP_ABOVEfBELOWkONE_DOT_ABOVEfBELOWnTWO_DOTS_ABOVEfBELOWsRIPLE_DOT_PUNCTUATION_MARKzbUR
   NED_DAMMA_BELOWsVERTICAL_TAILmOWEL_SIGN_DOT_BELOWjINVERTED_SMALL_V_ABOVEwSMALL_V_ABOVEyWAVY_HA
   MZA_BELOWqZWARAKAYj-INDIC_CUBE_ROOTjDIGIT_EIGHTfFIVEdOUReNINEeONEdSEVENeIXdTHREEeWOdZEROkFOURT
   H_ROOTlPER_MILLE_SIGNkTEN_THOUSAND_SIGNzhCbIESdMENIAN_ABBREVIATION_MARKqPOSTROPHEkCAPITAL_LETT
   ER_AYBdBENdCAbHAbEHdOcDAcECHcHbTcFEHdGHADdIMdHOcINIdJAbHEHeKEHbNdLIWNeMENdNOWdOHcPEHcIWReRAbEH
   dSEHcHAdTIWNdOcVEWcOcXEHdYIaWNeZAbHErOMMAfDRAM_SIGNjEMPHASIS_MARKmXCLAMATION_MARKqFULL_STOPjHY
   PHENgMODIFIER_LETTER_LEFT_HALF_RINGzfQUESTION_MARKnSMALL_LETTER_AYBdBENdCAbHAbEHdOcDAcECHcHbTc
   FEHdGHADdIMdHOcINIdJAbHEHeKEHbNdLIWNeMENdNOWdOHcPEHcIWReRAbEHdSEHcHAdTIWNdObURNED_AYBkVEWcOcXE
   HdYIa_WITH_STROKEmWNeZAbHEjIGATURE_ECH_YIWNiMEN_ECHdINIdNOWdXEHhVEW_NOWzeROW_POINTING_DOWNWARD
   S_THEN_CURVING_LEFTWARDSjRIGHTWARDSziRIGHTWARDS_THEN_CURVING_DOWNWARDSjSOUTH_WESTkUPWARDSzgUPW
   ARDS_THEN_NORTH_WESTziHEAD-SHAPED_POINTERwTICULATED_LORRYnST_PALETTEnSCENDING_NODElIA_SYMBOLkS
   ERTIONhTERISKa_OPERATORkMfONISHED_FACEmRAEAdONOMICAL_SYMBOL_FOR_URANUSzdYMPTOTICALLY_EQUAL_TOw
   THLETIC_SHOElOM_SYMBOLkUBERGINEhSTRAL_SIGNkTO_RICKSHAWjMATED_TELLER_MACHINEtOBILEjVESTAN_ABBRE
   VIATION_MARKrLETTER_AaAaNbOcEaEcNbOcBEbHEdCEcDEbHEdEaEcFEcGEbGEcHEdHEbMEdIaIcJEcKEcLEcMEcNEbGE
   bVEcYEdNEcYEdOaOcPEcREcSEbHEbYEdSHEeTEbHEcTEdUaUcVEcXEbVEcYEdYEbYEdZEbHEqOCADOgXEdBABYa_ANGELf
   BOTTLEgCHICKfSYMBOLjCK_OF_ENVELOPElWITH_LEFTWARDS_ARROW_ABOVEzc-TILTED_SHADOWED_WHITE_RIGHTWAR
   DS_ARROWzoSLANTED_SOUTH_ARROW_WITH_HOOKED_TAILjRIZONTAL_TAILzoPACEgONcTRIAN_CAMELmDGERdMINTON_
   RACQUET_AND_SHUTTLECOCKzgGELcGAGE_CLAIMkUETTE_BREADmLINESE_ADEG_ADEGjCARIK_PAMUNGKAHhRERENhSIK
   IkDIGIT_EIGHTfFIVEdOUReNINEeONEdSEVENeIXdTHREEeWOdZEROkLETTER_AIKARAfKARAa_TEDUNGlRCHAIC_JNYAl
   SYURA_SASAKmBAa_KEMBANGkCAa_LACAhDAa_MADUdURDA_ALPAPRANAjMAHAPRANAsEF_SASAKhKARAfGAa_GORAhHAcI
   KARAa_TEDUNGmJAa_JERAhKAa_MAHAPRANAkF_SASAKiHOT_SASAKkLAa_LENGAa_TEDUNGpMAcNAa_RAMBATiGAcYAdOK
   ARAa_TEDUNGmPAa_KAPALiRAa_REPAa_TEDUNGoSAa_SAGAcPAhTAa_LATIKfMURDA_MAHAPRANApTAWAgZIR_SASAKkUK
   ARAa_TEDUNGmVE_SASAKiWAcYAcZAL_SASAKqMUSICAL_SYMBOL_COMBINING_BENDEfENDEPfGONGeJEGOGANhKEMPLIa
   _WITH_JEGOGANpULa_WITH_JEGOGANtTEGEHpDAENGdINGdNGa_GEDEeSURANGkENGcUNGeINGdONGdUNGeLEFT-HAND_C
   LOSED_PLAKcUKlOPEN_PANGdINGdUNGtRIGHT-HAND_CLOSED_TAKcUKkOPEN_DAGcUGzjPAMADAa_LANTANGlENENGgNT
   Ia_LANTANGnSIGN_BISAHfCECEKfREREKANhSURANGgULU_CANDRAgRICEMoVOWEL_SIGN_LA_LENGAa_TEDUNGpPEPETa
   _TEDUNGmRA_REPAa_TEDUNGoSUKUa_ILUTjTALINGa_REPAa_TEDUNGlTEDUNGmEDUNGgULUa_SARItWINDUlL_OF_YARN
   iET_SHOESiOONa-SPOKED_ASTERISKsT_BOLD_SCRIPT_XlXa_WITH_BALLOTfOLD_CHECKfSCRIPT_XnCHECKfLIGHT_X
   hSCRIPT_XiXkSCRIPT_XiXgMUM_COLONdMBINING_MARK_KOQNDONhTUKWENTISvMAfFULL_STOPjLETTER_AbEEcFAAMA
   EfEEcOMcUcIbKAbENbTbUXdIbOaGHOMeVUUePAcUbYEEeLAbEEEEeIbOQcUcMaAbBAAcENdEEEEdNcIbObUcNAbDAAdGAb
   GAcKWAENgIbJAEMdEEcUAEeSHAdTEEcUUdUaAEdYIdObPAbEEbUXdHASE-A_FIRIeGBIEE_FONiHEUAEGHEUAEgRAEjKAF
   AcQcETbUKEUTNDAjPOQdUOQeLAPAQeET_KUTgOMMAEfUaAEPfMAEKEUPeMaBGBIEEgKPENeVEUXfNYIdSIdNSUAEfP_PIE
   ETiBANYIdQdEUNJOMNDEUQlGBASAfON_NGGEUAETkOMEUTdPUQgVEUAENGAMkNAA_MFONgQcDA_LEERAEWAjANGGEUAETl
   ENcGANGUeGENdKUE_MFONfNZEUMjIKAdJAMdKAARAEfINDIfSHAbIEEfTAPa_MFAAeNTAAhOQPENgYETcIaT_MONGKEUAE
   QoZA_MFONgUN_MEUTjPA_LEERAEWAjAMbRAEeMSHAEfSHAEfETcON_MFON_PIPAEMBAcGBIEEqPA_NJI_PIPAEMBAcGBIE
   EvUPdROMdSEUNYAMgHINDA_PA_NJIkRAEeOQ_NSHUT_YUMmUENSHUEThMdISAdONJAMeQbTcUUdTEUAENdTEUWENiITA_M
   FONiU_MAEMBAhAEPfU_YUQ_NAEiNKNOWNhVEEfB_FEEbUXeGHEUGHENbUAEMlKAMcEUAEMdPUQdYEUXgIEEMdQdLAANAEe
   M_NSHUT_NYAMnETcOM_NTEUMjMAa_NJEUAENAgUQAhBA_MAELEEhARAEfEURIeIT_MBAAKETkUOQeEUQbT_NGGEETkFIYA
   QeON_TEUAEQkONTIEENiNDU_NJAAhGGAAMdEU_MBUgUOQa_LARGEkKINDI_MVOPkOMdSENcHUETfTIEE_SHEUOQlYAEMAE
   fI_NTEUMjPARUMeEESHIfITcUNGAAMhSAKEUAEgET_TUfHET_NJAQgUAEQTUiIEEdUEdTAAMdU_MAEMGBIEEjNSIEEiVEU
   MeWUAETfYAFU_LEERAEWAmEURAEiC_BUNGeFUEdGBAYIeHAPbRAEgKAAcEN_FATIGUEhLAWfTbUKAQdMbSEUXdHEUAEPjP
   ARAQfUOP_NKAARAEkTdLAMbPcIQcUcMA_KEUAERIhNSIEEgEMBAdSIeBAA_CABBAGE-TREEmPICKETiNYIeEEKEETfRAEd
   UMbXdIaRIEENfTcUAEMdEdGBASAQgIEEdUAEeNANSANAQgQcDAMbPcEUAEREEfTdIDAdOMBUfGAQcGENcUaAEN_NYAMiEE
   TdMbONeKAQcUE_MAEMBAkOMdJAEMcMcEEEEdUXdUEQeSAbEUAENfHAQdOMcUNbOT_NGOMjTAAcENbUNGBAgU_MBIThYIR_
   MKPARAQ_MEUNqZAbEUMfPENcINbRIEENhRUcSETFONeUXdHIQcUEQeUAETfTAASHAEgETbUTEUXgITA_YUEfUAEPhVEUAE
   PENfXeWANGKUOQhUPdYAAcEUQdU_MUOMAEhMbWOQhD_FAAcEUFEUAETjGHAAcEUAEgKETbUAETMEUNhMbOT_MBUAEiPdUa
   NbOMcQcWAETeYEEeLEEEEdTbUAEPdMdIEEdOQcUMdMaAENJETfLEERIgBAAa_SEVENiUOdEEEEdUNbTdFEUAEcTdIEEdOa
   NdGBEUNdIEEdOFUMgONIdUbVOPeNDAMcEEbUXdONdGGAAMaAEePcEUXdUOMdWAENfKAPcEUAEQdRIeIEEdUNcYEEfIbJAP
   cEUAEMdTdIaEEdUEQeSHEEcUTdIEEPbTeUMdTEEbUMdUUdUbYAMcETcIbUEePAPcEEbUTAEfIPcUQbUTeRAEMdEN_MUCHe
   OLDgIIdSAPbQcEUAEQfHEEbUAEcXdIIcOQcUcOTcUAEcEbUdTAEcEEEEdUAENdNbTdIbOQcUaOTeWAPcUAENfYAEMMAEgE
   NcUOMbPcWOQhE_AbFAaQcEEcOMcU_CALLeIbREMEDYhEaTeGBETbUXeHAAMAEfETbUAEcNbXdOMeIbKETbUAEcXdIbObPE
   UXeUETcOPcTdLAAMcPbQcEUAEMfOMbONbTcQcUcMAaEaMcPbQcBEEbUMeENcFEUQeGBAbENeIaEEdONcUAEdVIdNAaEcDA
   A_MY_HOUSEiSOFTNESSkPcIAQcQcUNdGAbEUREUTgGEEEEdUAEaTfUAESHAE_NYAMlPbRAEfKAaAMIeEUAEMdXdUMbPdOP
   bQcUAEaTfJAEMLIfEEa_EPOCHhUXeKOMdSHIEEdUEbOPfTAPcUMdYI_BETWEENhCLEAVERkZAQcUQeObPA_PEOPLEfLURA
   LhAaMdEEMcUTbXdIaEEQcTdOaONdUaAEbQcEbMdRAEbQcEUXdIMGBAgSAAcEEbTcHEUAEQfIQcOaQdOMcUAENfTAAaQcEN
   _NTEUMiMbQcENbUaAEQfOOaNcQcUAEcMaAEfVEEbUAEeOMdWEUXdUEbOdYAPcEUAEaTdMbXdIEEcTcOQ_COVERfSWIMMIN
   GlUAENdEQcNbQfF_EEcFOMdKAbENbTcObPAcUbYEEeLAbIbOQdMaAbBAAcENdEEEEeOcNDAAdGGAcKWAENgIbJAEMdUAEe
   SHAdTEEdUaAEdYIdPEEbUXdUAEeREEbNbUXdIEEcIcUcSAMBAeEUXdHIIcObUcIbUUdTAAbEcETdUbVUEQeWAbUEdYAbOQ
   kIbUAEcEdRAEcEEbNbUXdIEEcIcUcSAMBAeEUXdHEUXdIIcObUcIbUUdTAAbEcENbTcIcUbWAbUEdYAbOQcUQkNJAEMLIh
   QUESTION_MARKnSEMICOLONnNANAdJOcKaNOTE_WITH_DOLLAR_SIGNlEURO_SIGNjPOUND_SIGNkYEN_SIGNuR_CHARTf
   OF_SOAPiBER_POLEjSEBALLfKETaBALL_AND_HOOPqSA_VAH_COMBINING_HIGH_TONEf-LOW_TONEnLOW_TONEf-MID_T
   ONEmMID_TONEsFULL_STOPjLETTER_AbBAcCEcDHIIdOcEaEbNNIeFAcGAHcBUdHWAHeIbJOcKAbPAHeMBEdOaOcPAcSEc
   TOcUaWUdVUcWAaDDAfYEINdIEdZOrTaAK_CONSONANT_SIGN_HbNGrLETTER_AbBAcCAcDAcGAcHAcIbJAcKARO_BAhLAc
   MAaNDAILING_HAcNAcSAmBAdNAbDAcGAcORTHERN_TAkYAdPAaKPAK_WAjRAcSAbIMALUNGUN_AbGAcHAcLAcMAcPAcRAc
   SAcWAcYAmOUTHERN_TAlUbWAcYAjPANGOLATfONGONANkSIGN_TOMPIjYMBOL_BINDU_JUDULfNA_METEKiPANGOLAThIN
   ARBORASxVOWEL_SIGN_EaEcIbKARO_IbOgObPAKPAK_EiUa_FOR_SIMALUNGUN_SAziHaTUBeTERYgEACH_WITH_UMBREL
   LAqMED_ASCENDING_MUSICAL_NOTESxDESCENDING_MUSICAL_NOTESyEIGHTH_NOTESmSIXTEENTH_NOTEStNScR_FACE
   fDED_PERSONlTING_HEARTkVEReCAUSEfDbER_MUGfTLEeLaLa_PEPPERgSYMBOLgWITH_CANCELLATION_STROKEzHOP_
   BELLkNGALI_ABBREVIATION_SIGNqNJIdU_LENGTH_MARKoCURRENCY_DENOMINATOR_SIXTEENtNUMERATOR_FOUReONE
   a_LESS_THAN_THE_DENOMINATORzeTHREEeWOwDIGIT_EIGHTfFIVEdOUReNINEeONEdSEVENeIXdTHREEeWOdZEROkGAN
   DA_MARKkISSHARgLETTER_AaAbIbUcBAbHAdCAbHAdDAbDAbHAdHAdEbGAbHAdHAcIaIcJAbHAdKAbHAaNDA_TAjLAcMAc
   NAbGAcNAcYAdObPAbHAdRAa_WITH_LOWER_DIAGONALoMIDDLE_DIAGONALwHAcRAdSAbHAcSAdTAbHAcTAbHAeUaUcVED
   IC_ANUSVARAnOCALIC_LaLcRaRkYAbYAkRUPEE_MARKeSIGNkSANDHI_MARKkIGN_ANUSVARAhVAGRAHAiCANDRABINDUl
   NUKTAfVIRAMAeSARGAmVOWEL_SIGN_AAbIbUcEbIaIcObUaUcVOCALIC_LaLcRaRzbT_ARROW_POINTING_DOWNWARDS_T
   HEN_NORTH_EASTzqO_BOXgZENE_RINGa_WITH_CIRCLEwT_SYMBOLhWEENfVERAGE_BOXlHAIKSUKI_DANDAeIGIT_EIGH
   TfFIVEdOUReNINEeONEdSEVENeIXdTHREEeWOdZEROjOUBLE_DANDAmGAP_FILLER-1b2mHUNDREDS_UNIT_MARKsLETTE
   R_AaAbIbUcBAbHAdCAbHAdDAbDAbHAdHAdEbGAbHAdHAcIaIcJAbHAdKAbHAdLAcMAcNAbGAcNAcYAdObPAbHAdRAcSAbH
   AcSAdTAbHAcTAbHAeUaUcVAbOCALIC_LbRaRkYAjNUMBER_EIGHTaYgFIFTYdVEdORTYdUReNINEaTYgONEdSEVENaTYgI
   XaTYfTENcHIRTYeREEeWENTYeOkSIGN_ANUSVARAhVAGRAHAiCANDRABINDUlVIRAMAeSARGAmVOWEL_SIGN_AAbIbUcEb
   IaIcObUaUcVOCALIC_LbRaRvWORD_SEPARATORxICYCLEbISThG_REVERSE_SOLIDUSpSOLIDUSjKINIeLLED_CAPgIARD
   ShOHAZARD_SIGNmRDbTHDAY_CAKElSONdTCOIN_SIGNjING_LIPjLACK_BOWTIEgCENTRE_WHITE_STARqHESS_BISHOPa
   _ROTATED_NINETY_DEGREESoTWO_HUNDRED_SEVENTY_DEGREESzrEQUIHOPPERa_ROTATED_NINETY_DEGREESziKINGa
   _ROTATED_NINETY_DEGREESoTWO_HUNDRED_SEVENTY_DEGREESzoNIGHTa_ROTATED_FORTY-FIVE_DEGREESsNINETY_
   DEGREESoONE_HUNDRED_THIRTY-FIVE_DEGREESzgTHREE_HUNDRED_FIFTEEN_DEGREESzdWO_HUNDRED_SEVENTY_DEG
   REESpTWENTY-FIVE_DEGREESzp-BISHOPgQUEENfROOKlPAWNa_ROTATED_NINETY_DEGREESoTWO_HUNDRED_SEVENTY_
   DEGREESzpQUEENa_ROTATED_NINETY_DEGREESoTWO_HUNDRED_SEVENTY_DEGREESzqROOKa_ROTATED_NINETY_DEGRE
   ESoTWO_HUNDRED_SEVENTY_DEGREESzpTURNED_BISHOPgKINGdNIGHTgPAWNeQUEENfROOKqIRCLEa_FOR_RECORDkWIT
   H_DOWN_ARROWkTWO_WHITE_DOTSoWHITE_DOT_RIGHTzbLUB_SUITiROSS_ON_SHIELDoURVED_DOWNWARDS_AND_LEFTW
   ARDS_ARROWpRIGHTWARDS_ARROWzfLEFTWARDS_AND_DOWNWARDS_ARROWpUPWARDS_ARROWzcRIGHTWARDS_AND_DOWNW
   ARDS_ARROWpUPWARDS_ARROWzdUPWARDS_AND_LEFTWARDS_ARROWpRIGHTWARDS_ARROWzkDIAMONDa_CENTREDhMINUS
   _WHITE_XnON_CROSSiSUITeWITH_DOWN_ARROWwOWN_POINTING_BACKHAND_INDEXy-POINTING_DOUBLE_TRIANGLEpI
   SOSCELES_RIGHT_TRIANGLEySMALL_TRIANGLEoTRIANGLEsWARDS_EQUILATERAL_ARROWHEADzfRAUGHTS_KINGeMANk
   OPLEThFLAGcORETTEhOLDEReUR_POINTED_STARrHARD_SHELL_FLOPPY_DISKvEARTa_SUITiXAGONgORIZONTAL_ELLI
   PSEqURGLASSjLARGE_CIRCLEgSQUARElEFT_LANE_MERGEkPOINTING_BACKHAND_INDEXoINDEXp-POINTING_DOUBLE_
   TRIANGLEa_WITH_VERTICAL_BARziISOSCELES_RIGHT_TRIANGLEyPOINTERhSMALL_TRIANGLEoTRIANGLEsWARDS_BU
   LLETgEQUILATERAL_ARROWHEADzfOWER_LEFT_TRIANGLEnRIGHT_TRIANGLEsZENGEhMEDIUM_DIAMONDgOWN-POINTIN
   G_TRIANGLEa_CENTREDzfLEFT-POINTING_TRIANGLEa_CENTREDzeOZENGEhRIGHT-POINTING_TRIANGLEa_CENTREDz
   gSMALL_DIAMONDhLOZENGEhSQUARElQUAREgUP-POINTING_TRIANGLEa_CENTREDzjOON_LILITHlNIBdOCTAGONhPARA
   LLELOGRAMmENNANTeTAGONhUSHPINhQUESTION_MARK_ORNAMENTwRECTANGLEiIGHT_POINTING_BACKHAND_INDEXoIN
   DEXp-POINTING_DOUBLE_TRIANGLEa_WITH_VERTICAL_BARziISOSCELES_RIGHT_TRIANGLEyPENTAGONhOINTERhSMA
   LL_TRIANGLEoTRIANGLEa_WITH_DOUBLE_VERTICAL_BARzsWARDS_ARROWaHEADjBULLETgEQUILATERAL_ARROWHEADz
   gOSETTEhSAFETY_SCISSORSoCISSORShHOGI_PIECEkKULL_AND_CROSSBONEStLIGHTLY_SMALL_CIRCLEgSQUAREuMAL
   L_DIAMONDhLOZENGEhSQUAREfTARiILING_FACElNOWMANgPADE_SUITjQUAREa_BUTTONgCENTREDhFOR_STOPoTARdUN
   _WITH_RAYSnTELEPHONEiINY_DIAMONDhLOZENGEhSQUAREkOUCHTONE_TELEPHONEsRUCKeWO-WAY_LEFT_WAY_TRAFFI
   CyUNIVERSAL_RECYCLING_SYMBOLzP_POINTING_BACKHAND_INDEXy-POINTING_DOUBLE_TRIANGLEpISOSCELES_RIG
   HT_TRIANGLEySMALL_TRIANGLEoTRIANGLEsPER_LEFT_TRIANGLEnRIGHT_TRIANGLEsWARDS_EQUILATERAL_ARROWHE
   ADzeVERTICAL_ELLIPSEhRECTANGLEpY_SMALL_DIAMONDhLOZENGEhSQUAREs-FEATHERED_NORTH_EAST_ARROWqRIGH
   TWARDS_ARROWqSOUTH_EAST_ARROWzbLETTER_CAPITAL_CbHbIbRbZtNK_SYMBOLkOCK_SEXTANT-1a2a3a4a5b6c5a6c
   6c4a5a6c6c5a6c6c3a4a5a6c6c56c6c4a5a6c6c5a6c6c2a3a4a5a6c6c5a6c6c4a5a6d5a6c6c3a4a5a6c6c5a6c6c4a5
   a6c6c5a6c6mSSOMeWFISHgUE_BOOKeHEARTgBERRIESkOARcLD_EIGHT_SPOKED_ASTERISKvFIVE_SPOKED_ASTERISKu
   GREEK_CROSSlSALTIREgIX_SPOKED_ASTERISKtWHITE_CIRCLEgSQUAREpMaBcNEcOKaMARKa_TABSjScMERANGhPOMOF
   O_FINAL_LETTER_GbHbKbPbToLETTER_AaHbIaNNdMbNaGbNcUaNNeBaUcCaHcDbEaEbHbIbNaGbNcRcFbGaHbNbUbWcHb
   IaHbMbNNaNdRbUcJaIcKaWcLaHcMbNaGaGcNcOa_WITH_DOT_ABOVEpEbMbNGbNcObUcPbQbRbSaHcTbUaNNdVbXbZaHbI
   bYqTTLE_WITH_POPPING_CORKuOM_ARC_ANTICLOCKWISE_ARROWxCURLY_BRACKETnHALF_BLACK_CIRCLEmINTEGRALi
   LEFT_PARENTHESISqRIGHT_PARENTHESISwLEFT_CORNERfROPeHALF_BRACKETrPARENTHESISlRIGHT_CORNERfROPeH
   ALF_BRACKETsSQUARE_BRACKETa_OVER_TOP_SQUARE_BRACKETznTORTOISE_SHELL_BRACKETzcUQUETa_OF_FLOWERS
   qW_AND_ARROWkL_OF_HYGIEIAkWITH_SPOONlINGeTIEa_WITH_LEFT_HALF_BLACKpRIGHT_HALF_BLACKzbX_DRAWING
   S_DOUBLE_DOWN_AND_HORIZONTALkLEFTeRIGHToHORIZONTALkUP_AND_HORIZONTALkLEFTeRIGHTmVERTICALa_AND_
   HORIZONTALkLEFTeRIGHTxWN_DOUBLE_AND_HORIZONTAL_SINGLErLEFT_SINGLElRIGHT_SINGLExHEAVY_AND_HORIZ
   ONTAL_LIGHTqLEFT_LIGHTfUP_LIGHTnRIGHT_LIGHTfUP_LIGHToUP_HORIZONTAL_LIGHTzeLIGHT_AND_HORIZONTAL
   _HEAVYqLEFT_HEAVYfUP_HEAVYnRIGHT_HEAVYfUP_HEAVYoUP_HORIZONTAL_HEAVYzeSINGLE_AND_HORIZONTAL_DOU
   BLErLEFT_DOUBLElRIGHT_DOUBLEzdHEAVY_DOUBLE_DASH_HORIZONTALkVERTICALsWNa_AND_HORIZONTALkLEFTeRI
   GHToHORIZONTALkLEFTa_AND_LIGHT_RIGHTuQUADRUPLE_DASH_HORIZONTALkVERTICALxRIGHTfTRIPLE_DASH_HORI
   ZONTALkVERTICALuUPa_AND_HORIZONTALkLEFTdIGHT_DOWNkRIGHTmVERTICALa_AND_HORIZONTALkLEFTeRIGHTyLE
   FT_DOWN_HEAVY_AND_RIGHT_UP_LIGHTzeHEAVY_AND_RIGHT_DOWN_LIGHTkUP_LIGHTiVERTICAL_LIGHTzfLIGHT_AN
   D_RIGHT_DOWN_HEAVYkUP_HEAVYiVERTICAL_HEAVYzfUP_HEAVY_AND_RIGHT_DOWN_LIGHTziIGHT_ARC_DOWN_AND_L
   EFTeRIGHToUP_AND_LEFTeRIGHTqDIAGONAL_CROSSfDIAMONDhMIDDLE_LEFT_TO_LOWER_CENTREa_TO_MIDDLE_RIGH
   TzdUPPER_CENTRE_TO_MIDDLE_RIGHTa_TO_LOWER_CENTREzzcRIGHT_TO_LOWER_CENTREmUPPER_CENTRE_TO_MIDDL
   E_LEFT_TO_LOWER_CENTREzzjUPPER_CENTRE_TO_MIDDLE_LEFTa_AND_MIDDLE_RIGHT_TO_LOWER_CENTREzhTO_LOW
   ER_CENTREa_TO_MIDDLE_RIGHTzlRIGHTa_AND_MIDDLE_LEFT_TO_LOWER_CENTREzgTO_LOWER_CENTREa_TO_MIDDLE
   _LEFTzzdLEFT_TO_LOWER_RIGHTtRIGHT_TO_LOWER_LEFTziOUBLE_DASH_HORIZONTALkVERTICALsWNa_AND_HORIZO
   NTALkLEFTeRIGHToHORIZONTALa_WITH_VERTICAL_STROKEzgLEFTa_AND_HEAVY_RIGHTuQUADRUPLE_DASH_HORIZON
   TALkVERTICALxRIGHTfTRIPLE_DASH_HORIZONTALkVERTICALuUPa_AND_HEAVY_DOWNjORIZONTALkLEFTeRIGHTmVER
   TICALa_AND_HORIZONTALkLEFTeRIGHTyRIGHT_DOWN_HEAVY_AND_LEFT_UP_LIGHTzdHEAVY_AND_LEFT_DOWN_LIGHT
   kUP_LIGHTiVERTICAL_LIGHTzeLIGHT_AND_LEFT_DOWN_HEAVYkUP_HEAVYiVERTICAL_HEAVYzeUP_HEAVY_AND_LEFT
   _DOWN_LIGHTzjUP_DOUBLE_AND_HORIZONTAL_SINGLErLEFT_SINGLElRIGHT_SINGLExHEAVY_AND_DOWN_HORIZONTA
   L_LIGHTvHORIZONTAL_LIGHTqLEFT_DOWN_LIGHTkLIGHTkRIGHT_DOWN_LIGHTkLIGHTvLIGHT_AND_DOWN_HORIZONTA
   L_HEAVYvHORIZONTAL_HEAVYqLEFT_DOWN_HEAVYkHEAVYkRIGHT_DOWN_HEAVYkHEAVYvSINGLE_AND_HORIZONTAL_DO
   UBLErLEFT_DOUBLElRIGHT_DOUBLEzbVERTICAL_DOUBLE_AND_HORIZONTAL_SINGLErLEFT_SINGLElRIGHT_SINGLEx
   HEAVY_AND_HORIZONTAL_LIGHTqLEFT_LIGHTkRIGHT_LIGHTvLIGHT_AND_HORIZONTAL_HEAVYqLEFT_HEAVYkRIGHT_
   HEAVYvSINGLE_AND_HORIZONTAL_DOUBLErLEFT_DOUBLElRIGHT_DOUBLEzrING_GLOVEkYaS_SYMBOLkPHcRAHMI_DAN
   DAeIGIT_EIGHTfFIVEdOUReNINEeONEdSEVENeIXdTHREEeWOdZEROjOUBLE_DANDAmLETTER_AaAbIbUcBAbHAdCAbHAd
   DAbDAbHAdHAdEbGAbHAdHAcIaIcJAbHAdKAbHAdLAbLAdMAcNAbGAcNAcYAdOaLD_TAMIL_LLAbLAeNNNAeRRAdSHORT_E
   bOrPAbHAdRAcSAbHAcSAdTAbHAcTAbHAeUaUcVAbOCALIC_LaLcRaRkYAjNUMBER_EIGHTaYgFIFTYdVEdORTYdUReJOIN
   ERgNINEaTYgONEa_HUNDREDhTHOUSANDmSEVENaTYgIXaTYfTENcHIRTYeREEeWENTYeOkPUNCTUATION_CRESCENT_BAR
   mDOTbUBLE_DOTkLINEdOTUSrSIGN_ANUSVARAiCANDRABINDUlJIHVAMULIYAlOLD_TAMIL_VIRAMAqUPADHMANIYAlVIS
   ARGAmVIRAMAfOWEL_SIGN_AAbIbUcBHATTIPROLU_AAoEbIaIcOaLD_TAMIL_SHORT_EbOrUaUcVOCALIC_LaLcRaRzILL
   E_PATTERN_BLANKfDOTS-1a2a3a4a5a6a7a8c8c7a8c8c6a7a8c8c7a8c8c5a6a7a8c8c7a8c8c6a7a8c8c7a8c8c4a5a6
   a7a8c8c7a8c8c6a7a8c8c7a8c8c5a6a7a8c8c7a8c8c6a7a8c8c7a8c8c3a4a5a6a7a8c8c7a8c8c6a7a8c8c7a8c8c5a6
   a7a8c8c7a8c8c6a7a8c8c7a8c8c4a5a6a7a8c8c7a8c8c6a7a8c8c7a8c8c5a6a7a8c8c7a8c8c6a7a8c8c7a8c8c2a3a4
   a5a6a7a8c8c7a8c8c6a7a8c8c7a8c8c5a6a7a8c8c7a8c8c6a7a8c8c7a8c8c4a5a6a7a8c8c7a8c8c6a7a8c8c7a8c8c5
   a6a7a8c8c7a8c8c6a7a8c8c7a8c8c3a4a5a6a7a8c8c7a8c8c6a7a8c8c7a8c8c5a6a7a8c8c7a8c8c6a7a8c8c7a8c8c4
   a5a6a7a8c8c7a8c8c6a7a8c8c7a8c8c5a6a7a8c8c7a8c8c6a7a8c8c7a8c8sNdEADbK_PERMITTED_HEREqST-FEEDING
   lVEdICKcDE_WITH_VEILlGE_AT_NIGHTmEFCASEeSeOCCOLIfKEN_BARdCIRCLE_WITH_NORTHWEST_ARROWzcHEARTjOM
   cWN_HEARTkSbUBBLE_TEAeSfCKETeGaINESE_END_OF_SECTIONoLETTER_AbBAcCAcDAcGAcHAcJAcKAcLAcMAbPAdNAb
   GAbKAdRAcYAbCAePAcRAcSAcTAcVAcYAjPALLAWAhVOWEL_SIGN_AEcEbIbObUtHID_LETTER_AbBAcDAcGAcHAcIbKAcL
   AcMAcNAbGAdPAcRAcSAcTAcUbWAcYAjVOWEL_SIGN_IbUqILDING_CONSTRUCTIONtLLETa_OPERATORlHORNa_WITH_SO
   UND_WAVESvSEYEgRRITOfSa_STOPfT_IN_SILHOUETTEoS_IN_SILHOUETTErTTERaFLYiYTE_ORDER_MARKnZANTINE_M
   USICAL_SYMBOL_AGOGI_ARGIbOTERIiGORGIbOTERIjMESIcTRIAgPOLI_ARGIeGORGIpNATRICHISMAkTIKENOKYLISMA
   hMAjPESO_EKFONITIKONkXO_NEOlLIcODERMA_ARCHAIONiNEOjSTROFOI_SYNDESMOS_NEOnTELOUS_ICHIMATOSsSa_D
   IPLIfNEOlTHEMAhRGONbSYNTHETONlKTIKO_DIcGAcKEcNIcPAcVOUdZOkCHAMILIbONgOREVMA_ARCHAIONiNEOkROA_K
   LITONgSPATHIgZYGOSlDASEIAfIARGONeSTOLI_APLI_MEGALIfIKRIkDIPLIfTHESEOSoESIS_APLI_DYO_DODEKATArD
   IGRAMMOS_EX_DODEKATAvMONOGRAMMOS_TESSERA_DODEKATAzdTETARTIMORIONmRIGRAMMOS_OKTO_DODEKATAvTIMOR
   IONqFTOGGOS_OUkGORGONa_PARESTIGMENON_ARISTERA_ANOdKATOnDEXIAzRAMMA_GGjPLIa_ARCHAIONnYOdEKSTREP
   TONjLAFRONgNARXIS_KAI_FTHORA_VOUuDOFONONiPEGERMAhTERON_ARGOSYNTHETONnPARAKALESMArXO_EKFONITIKO
   NpFANEROSIS_DIFONIASiMONOFONIASkTETRAFONIASuHTORA_SKLIRON_CHROMA_VASISzbTHORA_ARCHAIONa_DEYTER
   OU_ICHOUxDIATONIKI_DIcKEcNANAdI_ANOdKATOhPAcZOmENARMONIOS_ANTIFONIAuI_YFESIS_TETARTIMORIONwMAL
   AKON_CHROMA_DIFONIASiMONOFONIASzNAOS_ICHOSjENANOgSKLIRON_CHROMA_SYNAFIgVASISmDIATONON_DIzbGENI
   KI_DIESISgYFESISmORGON_ARCHAIONiNEO_ANOdKATOiPARESTIGMENON_ARISTERAiDEXIAvSYNTHETONlTHMIKON_N_
   APLOUNgDIPLOUNtRONTHISMATAmICHADINgMIDIARGONhFONONeTHORAbONjSAKIA_TELOUS_ICHIMATOSvON_ARCHAION
   iNEOiKATAVA_TROMIKONjSMAgHISTIhENTIMA_ARCHAIONiNEO_ANOdKATOeMESOjTAa_ARCHAIONiNEO_ANOdKATOeMES
   OrLASMAa_ANOdKATOkONTEVMAa_ALLOlRONISfUFISMAhRATIMA_ALLOdRCHAIONiNEOeTAdOKOUFISMAiYPORROONnEMA
   STIhYLISMAhLEIMMA_DYO_CHRONONlENOS_CHRONOUmIMISEOS_CHRONOUpTESSARON_CHRONONpRION_CHRONONsMOIeY
   GISMAhMARTYRIA_ALLI_DEYTEROS_ICHOSoPROTOS_ICHOSrDEYTEROS_ICHOSoLEGETOS_ICHOSnPLAGIOS_ICHOSfTET
   ARTOS_ICHOSvROTOS_ICHOShVARYS_ICHOSqTETARTOS_ICHOSfLEGETOS_ICHOSvRIFONIASgTOS_ICHOSmVARYS_ICHO
   StIKRON_ISONlNANAeOLIGON_ARCHAIONiNEOjMALONfXEIA_DIPLIfEKFONITIKONlNEOeI_ARCHAIONoYRANISMA_ARC
   HAIONiNEOnPARAKALESMA_ARCHAIONiNEOkLITIKIa_ARCHAIONiNEOmICHONhELASTONa_NEOkRISPOMENIjTASMAcTIb
   OKOUFISMAoIASMA_ARCHAIONiNEOjSIFISTOLYGISMAhNa_NEOfPARAKALESMAlSYNAGMAmLIbONgRAPISMAgEVMAfSAXI
   MATAhEISMAa_NEOjIMANSIS_ARSEOSa_DISIMOUhTETRASIMOUjRISIMOUpTHESEOSa_DISIMOUhTETRASIMOUjRISIMOU
   yTAVROSa_APODEXIAoIGMAeRAGGISMATAlYNAGMA_ARCHAIONiMETA_STAVROUmNEOiEVMAfRMAaTIKIjTELEIAeSSERAf
   TRAPLIhHEMAa_APLOUNhTISMOS_ESOcXOmS_KAI_APOTHESoITAeINAGMAgRIAbGORGONgPLIeOMIKOLYGISMAhN_ALLOd
   RCHAIONiNEOfPARAKALESMAkSIFISTONjSYNAGMAoVAREIA_DIPLIfEKFONITIKONlNEOeI_ARCHAIONoTHYfXIRON_KLA
   SMAmYFEN_ANOdKATOgSIS_APLI_DYO_DODEKATArDIGRAMMOS_EX_DODEKATAvMONOGRAMMOS_TESSERA_DODEKATAzdTR
   IGRAMMOS_OKTO_DODEKATAvTIMORIONrPOKRISISa_DIPLImRROIfSILIzgCACTUSeDA_UNAfUCEUSgLENDARfL_ME_HAN
   DkMERAa_WITH_FLASHoPINGfNaADIAN_SYLLABICS_AaAaIbYcIaVILIK_BiNbTHAPASCAN_MbSlYcBEAVER_DENE_LbRm
   IBLE-CREE_YlLACKFOOT_AbEbIbKAbEbIbOcNAbEbIbOcObSbWaAbEbIbOmCaAaAaIcRRIER_CHAbEaEcIbObUdDEEbNE_
   GEEfTAL_ShIbLAbEaEcIbObUcZAbEaEcIbObUdEEcGAaAcEaEcHAbEaEcIbObUcIbObUbWAbUdHaEEcIbWAbEaEcIbObUd
   IaNITIAL_ZjJAbEaEcIbJAbEaEcIbObUcObUbWAdKHAbEaEcIbObUcKaAbEaEcIbObUdLAbEaEcHAbEaEcIbObUcIbObUc
   MAbEaEcIbObUcNAbEaEcGbIbObUcPaAbEaEcIbObUcRAbEaEcIbObUcSAbEaEcHaAbEaEcIbObUcIbObUcTHAbEaEcIbOb
   UcLAbEaEcHAbEaEcIbObUcIbObUcSAbEaEcIbObUcTAbEaEcIbObSAbEaEcIbObUcUdWAbEaEcIbObUcYAbEaEcIbObUcZ
   aAbEaEcIbObUjEbHI_SIGNhIaIcOaOcWAaAcEbIaIcOaOeEaASTERN_WiNcFaAaAaIdEbIaIbNAL_ACUTEfBOTTOM_HALF
   _RINGqDOUBLE_ACUTEfSHORT_VERTICAL_STROKESzcWN_TACKjGRAVEfMIDDLE_DOTkPLUSeRAISED_DOTjIGHT_HALF_
   RINGnNGeSHORT_HORIZONTAL_STROKEwMALL_RINGkTOP_HALF_RINGsOaOcULL_STOPiWAAeGLOTTAL_STOPmHKbYPHEN
   gIaIbNcKaAaAaIcYcEbIaIcOaOcWaAaAbYcEbIaIcOaOeLaAaAaIcYcEbHaAaAcIaIcOaOdIaIcOaOcWAaAcEbIaIcOaOe
   MaAaAaIcYcEaDIAL_LbRhHbIaIcOaOaSE-CREE_SKmWAaAcEbIaIcOaOeNa-CREE_THEbIaIkAaAaIcSKAPI_CWAAeKWAA
   eMWAAeNWAAeS-WcCWAdKWaAdPWAdTWAdWAAeTWAAeWAAcOOdYWAAkTTILIK_HAaAcIaIcOaOdSHRAaAcIaIcOaOmYcEbGa
   AaAaIcIcIaIcOaOdHbIaIcNGaAaAcIaIcOaOeOaObYcUNAVIK_HaAaAcEbIaIcOaOgUT_HiWAaAcEbIaIcOaOeOaJIBWAY
   _CbKbMbNaWIaIcOaOePbSaHcTiNbObYcPaAaAaIcYcEbIaIcOaObYcWAaAcEbIaIcOaObYeQaAaAaIcIcIaIcOaOdRa-CR
   EE_REbWEjAaAaIcYcEbIaIcOaOcWAaAcEEcIaIcOaOeSaAaAaIcYaISI_HAbEbIbOaOdJIbUaUdMbSHAbEbIbOaOcWEeTH
   cYIiEbHaAaAbYcEbIaIcOaObYcWAaAcEbIaIcOaObYeIaIcOaObUTH-SLAVEY_KAHcEHcIHcOHoYcPAbEbIbOcWaAaAcEb
   IaIcOaOeTaAaAaIcYcEbHa-CREE_THaAaAcEbIaIcOaOkAaAcEbIaIcOaOcWAaAcEdIaIcLHAbEbIbOaOcWEeOaOcTAbEb
   HaAaAcEbIbOaOcWEdIbOcWAaAcEbIaIcOaOdYAbEbIbOdWAaAbYcEaST-CREE_CWAaAcEbIaIcOaOeFWAAeKWAaAcEbIaI
   cOaOeLaAaAcEbOaOcWAaAcEbIaIcOaOeMaWAaAcEbIaIcOaOeNWAaAcEdPaWAaAcEbIaIcOaOeRaAbEbIbObWAAeSHWAaA
   cEbIaIcOaOeWAaAcEbIaIcOaOeTHWAAeWAaAcEbIaIcOaOeWAaAcEbIaIcOaOdYaWAaAcEbIaIcOaOkERN_WiIaIcOaOaD
   S-CREE_FINAL_THiTHaAbEbIbObWAaAcEEcIaIcOaOqYa-CREE_COOdKOOdLOOdMOOdNOOdOOcPOOcWAAeSOOdTOOdWbYO
   OjAaAaIcYcEbIaIcOaObYcWAaAcEbIaIcOaOuCELa_CHARACTERjTAGeLATION_XjRdDLEcYcNED_FOODiOEdPITULUMgR
   ICORNhR_SLIDINGiD_FILE_BOXiINDEXa_DIVIDERSqE_OFdTa_INSERTION_POINTsIAN_LETTER_Aa2cBbC-18c39eDa
   2cEa2cGa2cIaIcKa2cLaDa2dMaBa2b3b4dNaDbGbNcObPa2cQbRaRcSaHa2cSbTa2dTaTa2dUaUaUa2b3bUeXmONbUSEL_
   HORSElP_STREAMERjENTRY_SAWkRIAGE_RETURNlOTeSTLEeTa_FACEa_WITH_TEARS_OF_JOYmWRY_SMILEvUCASIAN_A
   LBANIAN_CITATION_MARKnLETTER_ALTcORdBETdCARbYNdHAaTcIbOYdYAWbYeDATcYANdZAYcYAYfEBbYNdFAMdGHEYS
   eIMdHEYTeINYAdRBcWNdJAYNdHOXeKARcIWdLANcYITeMAQdNOWCeONcPENcIWReQARbYdRATdSEYKdHAaKcOYeTAScIWR
   dYAYeVEYZeXEYNeYAYDdOWDeZARLdHAbILzcTION_SIGNlCHcEDI_SIGNfLLAfLTIC_CROSSkNT_SIGNfRE_LINE_SYMBO
   LmLINE_LOW_LINEiOVERLINErRESeGJcHAINScRcKMA_AU_MARKhDANDAeIGIT_EIGHTfFIVEdOUReNINEeONEdSEVENeI
   XdTHREEeWOdZEROjOUBLE_DANDAmLETTER_AAcBAAcHAAeCAAcHAAeDAAcDAAcHAAeHAAeEbGAAcHAAeHAAdIbJAAcHAAe
   KAAcHAAeLAAcHAAeMAAdNAAcGAAdNAAdYAAePAAcHAAeRAAdSAAdTAAcHAAdTAAcHAAfUbVAAdWAAdYAAcYAAlMAAYYAAh
   O_MARKgQUESTION_MARKnSECTION_MARKlIGN_ANUSVARAiCANDRABINDUlVISARGAmVIRAMAfOWEL_SIGN_AaAbIbUcEa
   IcIaIcOaIcUaUrM_CONSONANT_SIGN_FINAL_HbMbNGiLAcRAcWAcYArDIGIT_EIGHTfFIVEdOUReNINEeONEdSEVENeIX
   dTHREEeWOdZEROkLETTER_AaIcBAbBAcHAdCHAbHAeDAbDAcHAdEbFINAL_CHcGbKbLbNaGcPbRbSScTbYhGAbHAdHAcIb
   JAbHAdKAbHAdLAcMAbUEdNAbGAbUEdHAbJAcUEdUEdObPAbHAcPAdRAcSAbSAdTAbHAdUbVAcYAjPUNCTUATION_DANDAe
   OUBLE_DANDAmSPIRALgTRIPLE_DANDAyVOWEL_SIGN_AAbIbUcEIcIaIcOaEcUaEpRACTER_TABULATIONa_SETdWITH_J
   USTIFICATIONzdIEjT_WITH_DOWNWARDS_TRENDpUPWARDS_TRENDa_AND_YEN_SIGNzkECK_MARKfER_BOARDa_FILLpE
   RING_MEGAPHONEoSE_WEDGEjQUERED_FLAGlROKEE_LETTER_AbDAbEbIbLAcObUbVcEbGAbEbIbObUbVcHAbEbIbNAcOb
   UbVcIbKAcLAbEbIbObUbVcMAbEbIbObUbVcNAaHcEbIbObUbVcObQUAbEbIbObUbVdSaAbEbIbObUbVcTAbEbIbLAbEbIb
   ObUbVcSAbEbIbObUbVdUbVbWAbEbIbObUbVcYAbEbIbObUbVjSMALL_LETTER_AbDAbEbIbLAcObUbVcEbGAbEbIbObUbV
   cHAbEbIbNAcObUbVcIbKAcLAbEbIbObUbVcMAbEbIbObUbVcNAaHcEbIbObUbVcObQUAbEbIbObUbVdSaAbEbIbObUbVcT
   AbEbIbLAbEbIbObUbVcSAbEbIbObUbVdUbVbWAbEbIbObUbVcYAbEbIbObUbVuRIESdY_BLOSSOMlSTNUTgI_RHOeCKENe
   LDaREN_CROSSINGoPMUNKfRONeOCOLATE_BARkPSTICKShRASMIAN_LETTER_ALEPHeYINeBETHeCURLED_WAWkDALETHg
   GIMELfHEaTHeKAPHeLAMEDHgMEMdNUNdPEcRESHeSAMEKHfHINdMALL_ALEPHlTAWdWAWdYODHeZAYINmNUMBER_FOUReO
   NEa_HUNDREDlTENcHREEeWENTYeOtRISTMAS_TREEmURCHfINEMAeRCLE_DIVIDED_BY_HORIZONTAL_BAR_AND_TOP_HA
   LF_DIVIDED_BY_VERTICAL_BARzzmWITH_ALL_BUT_UPPER_LEFT_QUADRANT_BLACKziHORIZONTAL_BARoLEFT_HALF_
   BLACKoOWER_HALF_BLACKqRIGHT_HALF_BLACKqSMALL_CIRCLE_TO_THE_RIGHTyUPERIMPOSED_XoTWO_HORIZONTAL_
   STROKES_TO_THE_RIGHTzkUPPER_HALF_BLACKkRIGHT_QUADRANT_BLACKzbVERTICAL_FILLtD_ANTICLOCKWISE_ARR
   OWg-ROTATED_DIVISION_SIGNzjSTERISK_OPERATORrBOLD_XfULLETgC_WITH_OVERLAID_BACKSLASHyCbDbROSS_FO
   RMEEa_WITH_FOUR_DOTSjTWO_DOTSuPOMMEEhING_LANESoDASHdIGIT_EIGHTfFIVEdOUReNINEeONEdSEVENeIXdTHRE
   EeWOdZEROiVISION_SIGNdLASHnOLLAR_SIGN_WITH_OVERLAID_BACKSLASHziT_OPERATORmEQUALSgGREATER-THANm
   HANGUL_CHIEUCHa_AiIEUCa_AhHIEUHa_AhIEUNGa_AbUhKHIEUKHa_AiIYEOKa_AiMIEUMa_AhNIEUNa_AhPHIEUPHa_A
   iIEUPa_AhRIEULa_AhSIOSa_AgTHIEUTHa_AiIKEUTa_AoEAVY_WHITE_RIGHTWARDS_ARROWzcORIZONTAL_BAR_WITH_
   NOTCHyUMAN_FIGUREmIDEOGRAPH_ACCEPTfDVANTAGEiLLIANCEhTTENTIONjCENTREfONGRATULATIONmPYcRRECThEAR
   THeIGHTeNTERPRISEjXCELLENTjFEMALEfINANCIALhREcVEdOUReHAVEdIGHeITEMeKINDERGARTENlOTOeLABOReEFTd
   OWdMALEdEDICINEgTALeOONeNAMEdIGHTdNEeONEdPRINTfQUESTIONiRELIGIONgSOURCEfTdIGHTfSCHOOLfECRETeVE
   NeIXcOCIETYgPECIALgTOCKdUDYeUITABLEgNbPERVISEjTENcHREEeWOdWATEReOODnNFORMATION_SOURCErTALIC_LA
   TIN_CAPITAL_LETTER_CbRzeKATAKANA_AbEbHAbEbIbObUcIbKAbEbIbObUcMAbEbIbObUcNAbEbIbObUcObRAbEbIbOb
   UcSAbEbIbObUcTAbEbIbObUcUbWAbEbIbOcYAbObUkOREAN_CHARACTER_CHAMKOgJUEUIwLATIN_CAPITAL_LETTER_Ab
   BbCbDbEbFbGbHbIbJbKbLbMbNbObPbQbRbSbTbUbVbWbXbYbZqSMALL_LETTER_AbBbCbDbEbFbGbHbIbJbKbLbMbNbObP
   bQbRbSbTbUbVbWbXbYbZtESS-THANjMINUSeULTIPLICATION_SIGN_WITH_CIRCUMFLEX_ACCENTzrNUMBER_EIGHTEEN
   dY_ON_BLACK_SQUAREvLEVENgFIFTEENdYa_ON_BLACK_SQUAREuORTYa_EIGHTfFIVEdOUReNINEeON_BLACK_SQUAREn
   EdSEVENeIXdTHREEeWOhURTEENiNINETEENiSEVENTEENdY_ON_BLACK_SQUAREwIXTEENdY_ON_BLACK_SQUAREvTENa_
   ON_BLACK_SQUAREsHIRTEENdYa_EIGHTfFIVEdOUReNINEeON_BLACK_SQUAREnEdSEVENeIXdTHREEeWOjWELVEdNTYa_
   EIGHTfFIVEdOUReNINEeON_BLACK_SQUAREnEdSEVENeIXdTHREEeWOrOPEN_CENTRE_EIGHT_POINTED_STARzfPARALL
   ELhERPENDICULARmLUSdOSTAL_MARKlREVERSE_SOLIDUSoING_OPERATORnSQUAREgTIMESeRIANGLEa_DOWNnVERTICA
   L_BARmWHITE_BULLETgSTARjZcXbZERO_WITH_SLASHtULATION_FUNCTIONpMFLEX_ACCENTmS_TENTjTYSCAPEa_AT_D
   USKqJK_COMPATIBILITY_IDEOGRAPH-2F800b1b2b3b4b5b6b7b8b9bAbBbCbDbEbFc10b1b2b3b4b5b6b7b8b9bAbBbCb
   DbEbFc20b1b2b3b4b5b6b7b8b9bAbBbCbDbEbFc30b1b2b3b4b5b6b7b8b9bAbBbCbDbEbFc40b1b2b3b4b5b6b7b8b9bA
   bBbCbDbEbFc50b1b2b3b4b5b6b7b8b9bAbBbCbDbEbFc60b1b2b3b4b5b6b7b8b9bAbBbCbDbEbFc70b1b2b3b4b5b6b7b
   8b9bAbBbCbDbEbFc80b1b2b3b4b5b6b7b8b9bAbBbCbDbEbFc90b1b2b3b4b5b6b7b8b9bAbBbCbDbEbFcA0b1b2b3b4b5
   b6b7b8b9bAbBbCbDbEbFcB0b1b2b3b4b5b6b7b8b9bAbBbCbDbEbFcC0b1b2b3b4b5b6b7b8b9bAbBbCbDbEbFcD0b1b2b
   3b4b5b6b7b8b9bAbBbCbDbEbFcE0b1b2b3b4b5b6b7b8b9bAbBbCbDbEbFcF0b1b2b3b4b5b6b7b8b9bAbBbCbDbEbFd90
   0b1b2b3b4b5b6b7b8b9bAbBbCbDbEbFc10b1b2b3b4b5b6b7b8b9bAbBbCbDbEbFc20b1b2b3b4b5b6b7b8b9bAbBbCbDb
   EbFc30b1b2b3b4b5b6b7b8b9bAbBbCbDbEbFc40b1b2b3b4b5b6b7b8b9bAbBbCbDbEbFc50b1b2b3b4b5b6b7b8b9bAbB
   bCbDbEbFc60b1b2b3b4b5b6b7b8b9bAbBbCbDbEbFc70b1b2b3b4b5b6b7b8b9bAbBbCbDbEbFc80b1b2b3b4b5b6b7b8b
   9bAbBbCbDbEbFc90b1b2b3b4b5b6b7b8b9bAbBbCbDbEbFcA0b1b2b3b4b5b6b7b8b9bAbBbCbDbEbFcB0b1b2b3b4b5b6
   b7b8b9bAbBbCbDbEbFcC0b1b2b3b4b5b6b7b8b9bAbBbCbDbEbFcD0b1b2b3b4b5b6b7b8b9bAbBbCbDbEbFcE0b1b2b3b
   4b5b6b7b8b9bAbBbCbDbEbFcF0b1b2b3b4b5b6b7b8b9bAbBbCbDbEbFdA00b1b2b3b4b5b6b7b8b9bAbBbCbDbEbFc10b
   1b2b3b4b5b6b7b8b9bAbBbCbDfF900b1b2b3b4b5b6b7b8b9bAbBbCbDbEbFc10b1b2b3b4b5b6b7b8b9bAbBbCbDbEbFc
   20b1b2b3b4b5b6b7b8b9bAbBbCbDbEbFc30b1b2b3b4b5b6b7b8b9bAbBbCbDbEbFc40b1b2b3b4b5b6b7b8b9bAbBbCbD
   bEbFc50b1b2b3b4b5b6b7b8b9bAbBbCbDbEbFc60b1b2b3b4b5b6b7b8b9bAbBbCbDbEbFc70b1b2b3b4b5b6b7b8b9bAb
   BbCbDbEbFc80b1b2b3b4b5b6b7b8b9bAbBbCbDbEbFc90b1b2b3b4b5b6b7b8b9bAbBbCbDbEbFcA0b1b2b3b4b5b6b7b8
   b9bAbBbCbDbEbFcB0b1b2b3b4b5b6b7b8b9bAbBbCbDbEbFcC0b1b2b3b4b5b6b7b8b9bAbBbCbDbEbFcD0b1b2b3b4b5b
   6b7b8b9bAbBbCbDbEbFcE0b1b2b3b4b5b6b7b8b9bAbBbCbDbEbFcF0b1b2b3b4b5b6b7b8b9bAbBbCbDbEbFdA00b1b2b
   3b4b5b6b7b8b9bAbBbCbDbEbFc10b1b2b3b4b5b6b7b8b9bAbBbCbDbEbFc20b1b2b3b4b5b6b7b8b9bAbBbCbDbEbFc30
   b1b2b3b4b5b6b7b8b9bAbBbCbDbEbFc40b1b2b3b4b5b6b7b8b9bAbBbCbDbEbFc50b1b2b3b4b5b6b7b8b9bAbBbCbDbE
   bFc60b1b2b3b4b5b6b7b8b9bAbBbCbDc70b1b2b3b4b5b6b7b8b9bAbBbCbDbEbFc80b1b2b3b4b5b6b7b8b9bAbBbCbDb
   EbFc90b1b2b3b4b5b6b7b8b9bAbBbCbDbEbFcA0b1b2b3b4b5b6b7b8b9bAbBbCbDbEbFcB0b1b2b3b4b5b6b7b8b9bAbB
   bCbDbEbFcC0b1b2b3b4b5b6b7b8b9bAbBbCbDbEbFcD0b1b2b3b4b5b6b7b8b9zdRADICAL_BAMBOOfLUEdOLT_OF_CLOT
   HlNEcXcRUSH_ONEdTWOjC-SIMPLIFIED_BIRDeCARTeDRAGONgEATcVENeFISHdLYcROGeGATEdOLDeHORSEfLEAFdONGe
   SALTdEEcHELLeILKdPEECHgTANNED_LEATHERnOOTHeURTLEgWINDqHOKEeITYcVILIANhLIFFdOTHESgOWdDEATHeIVIN
   ATIONjOGdEAT_ONEdTHREEeWOgWEcYEdFIREdOOTeGHOSTeRASS_ONEdTHREEeWOjHANDdEADbRT_ONEdTWOiORNeJ-SIM
   PLIFIED_DRAGONgEVENeTOOTHeURTLEsADEeKNIFE_ONEdTWOjLAME_FOUReONEdTHREEeWOhONG_ONEdTWOiMEATcSHdO
   ONcRTAReTHEReUND_ONEdTWOjNET_FOUReONEdTHREEeWOhOLDdPAW_ONEdTWOgERSONgRAINcMbPcEPEATgSEALcCOND_
   ONEdTHREEeWOjHEEPeILKcMPLIFIED_HALF_TREE_TRUNKoORNeWALKdHEATfYELLOWqMALL_ONEdTWOiNAKEdOUT_ONEd
   TWOiPIRIT_ONEdTWOjUNdTABLEeHREADfIGEReURTLEgWALK_ONEdTWOgTER_ONEdTWOiEST_ONEdTWOqSTROKE_BXGdDb
   HaGbPaWGdXWGdZaGbTbWaGcZaPbZaGfNbPaDbGbZcQbSaGbPbTbWaGbZcZaWGcZdTaNcWGcXGmLAMSHELL_MOBILE_PHON
   EtPPER_BOARDiING_HANDS_SIGNqSSICAL_BUILDINGqEAR_SCREEN_SYMBOLrINKING_BEER_MUGSjGLASSESnPBOARDh
   OCK_FACE_EIGHT_OCLOCKh-THIRTYlLEVEN_OCLOCKh-THIRTYnFIVE_OCLOCKh-THIRTYkOUR_OCLOCKh-THIRTYlNINE
   _OCLOCKh-THIRTYlONE_OCLOCKh-THIRTYkSEVEN_OCLOCKh-THIRTYlIX_OCLOCKh-THIRTYkTEN_OCLOCKh-THIRTYjH
   REE_OCLOCKh-THIRTYlWELVE_OCLOCKh-THIRTYlO_OCLOCKh-THIRTYqWISE_CLOSED_CIRCLE_ARROWsONTOUR_INTEG
   RALqDOWNWARDS_AND_UPWARDS_OPEN_CIRCLE_ARROWSzpGAPPED_CIRCLE_ARROWtINTEGRALiOPEN_CIRCLE_ARROWrR
   IGHT_AND_LEFT_SEMICIRCLE_ARROWSzcWARDS_AND_LEFTWARDS_OPEN_CIRCLE_ARROWSa_WITH_CIRCLED_ONE_OVER
   LAYzzsTOP_SEMICIRCLE_ARROWtRIANGLE-HEADED_OPEN_CIRCLE_ARROWzpSE_UPdD_BOOKeINTERSECTION_WITH_SE
   RIFSyLOCK_WITH_KEYnMAILBOX_WITH_LOWERED_FLAGmRAISED_FLAGySUBSETa_OR_EQUAL_TOqPERSETa_OR_EQUAL_
   TOuUMBRELLAhNION_WITH_SERIFSa_AND_SMASH_PRODUCTzoUDa_WITH_LIGHTNINGjRAINeSNOWeTORNADOpWN_FACEj
   OATcCKROACHfTAIL_GLASSlONUTfFFINeINcLLISION_SYMBOLnONa_EQUALSgSIGNiMBINING_ACUTE_ACCENTa_BELOW
   mTONE_MARKk-GRAVE-ACUTElMACRONlLMOST_EQUAL_TO_ABOVEfBELOWuNNUITY_SYMBOLmTICLOCKWISE_ARROW_ABOV
   ElRING_OVERLAYzSTERISK_ABOVEfBELOWoBINDU_BELOWkREVEa_BELOWg-MACRONkIDGE_ABOVEfBELOWmCANDRABIND
   UjRONa_BELOWkEDILLAgIRCUMFLEX_ACCENTa_BELOWwLOCKWISE_ARROW_ABOVElRING_OVERLAYvOMMA_ABOVEa_RIGH
   TlBELOWjNJOINING_MACRONa_BELOWwYRILLIC_DASIA_PNEUMATAoHUNDRED_MILLIONS_SIGNnTHOUSANDS_SIGNwKAV
   YKAgLETTER_AbBEbIG_YUShCHEdDEbJERVfEFbLbMbNbRbSa-TEfFITAeGHEdHAaRD_SIGNjIaEbOTIFIED_AbBIG_YUSh
   EkKAcLITTLE_YUSkMONOGRAPH_UKmOaMEGAfPEcSHAbCHAeOFT_SIGNjTEbSEdUaKRAINIAN_IEmVEcYATcERUdIbUcZEb
   HEkMILLIONS_SIGNnPALATALIZATIONmYEROKgOKRYTIEhSILI_PNEUMATAoTEN_MILLIONS_SIGNqHOUSAND_MILLIONS
   _SIGNvITLOa_LEFT_HALFjRIGHT_HALFqVZMEToDELETION_MARKlVANAGARI_DIGIT_EIGHTfFIVEdOUReNINEeONEdSE
   VENeIXdTHREEeWOdZEROkLETTER_AbKAcNAcPAcRAcUbVIjSIGN_AVAGRAHAxIAERESISa_BELOWg-RINGnOT_ABOVEa_L
   EFTeRIGHTlBELOWa_LEFTlTED_ACUTE_ACCENTmGRAVE_ACCENTrUBLE_ACUTE_ACCENTmBREVEa_BELOWlCIRCUMFLEX_
   ABOVEqGRAVE_ACCENTmINVERTED_BREVEa_BELOWuLOW_LINEiMACRONa_BELOWmOPEN_MARK_BELOWoVERLINEiPARENT
   HESES_ABOVEqLUS_SIGN_ABOVEfBELOWpRIGHTWARDS_ARROW_BELOWuNG_BELOWkTILDEa_LEFT_HALFjRIGHT_HALFqV
   ERTICAL_LINE_ABOVEfBELOWkSTROKE_OVERLAYyD_CIRCUMFLEX_ACCENTxWN_TACK_BELOWlWARDS_ARROWpENCLOSIN
   G_CIRCLEa_BACKSLASHqDIAMONDhKEYCAPgSCREENfQUAREgUPWARD_POINTING_TRIANGLEziQUALS_SIGN_BELOWrFER
   MATAgOUR_DOTS_ABOVEpGLAGOLITIC_LETTER_AZUdBIG_YUSgUKYeCHRIVIgDJERVIfOBROfFITAdRITUfGLAGOLIhHER
   UeIaNITIAL_IZHElOTATED_BIG_YUShSMALL_YUSqZHEeKAKOeLJUDIJEhMYSLITEhNASHIfONUdPOKOJIgRITSIfSHAbT
   AdLOVOeMALL_YUSjTSIcVRIDOgUKUdVEDEeYATIdERIbUcSTUeObUcZEMLJAfHIVETEyRANTHA_DIGIT_FIVEdOUReONEd
   SIXdTHREEeWOdZEROkLETTER_AbKAcNAcPAcVIoPHEME_JOINERmVE_ACCENTa_BELOWmTONE_MARKk-ACUTE-GRAVElMA
   CRONkEEK_DIALYTIKA_TONOSpKORONIShMUSICAL_PENTASEMEjTETRASEMEiRISEMEpPERISPOMENIlYPOGEGRAMMENIt
   HOMOTHETIC_ABOVEoOK_ABOVEiRNeINFINITYgVERTED_BREVEa_BELOWjIDGE_BELOWmDOUBLE_ARCH_ABOVEfBELOWzS
   _BELOWiKATAKANA-HIRAGANA_SEMI-VOICED_SOUND_MARKwVOICED_SOUND_MARKziVYKA_ABOVE_LEFTeRIGHTsLATIN
   _LETTER_SMALL_CAPITAL_GbLbMbNbRwSMALL_LETTER_Aa_WITH_DIAERESISpEbLPHAeObVcBaETAeCa_CEDILLAjDbE
   aSHcTHdFaLATTENED_OPEN_A_ABOVEwGbHbIaNSULAR_DbGbRbTjKbLa_WITH_DOUBLE_MIDDLE_TILDEzONG_SgMbNbOa
   _WITH_DIAERESISjLIGHT_CENTRALIZATION_STROKEzjPbRa_BELOWfROTUNDAjSaCHWAfTaURNED_W_BELOWoUa_WITH
   _DIAERESISjLIGHT_CENTRALIZATION_STROKEzjVbWa_BELOWhXbZtEFT_ANGLE_ABOVEfBELOWkRROW_ABOVEfBELOWg
   HEAD_ABOVEfBELOWpHALF_RING_ABOVEfBELOWnRPOON_ABOVEnPARENTHESIS_ABOVE_LEFTkBELOW_LEFTwRIGHT_ARR
   OW_ABOVEfBELOWrTACK_BELOWlWARDS_ARROW_OVERLAYnHARPOON_WITH_BARB_DOWNWARDSzlIGATURE_LEFT_HALFa_
   BELOWpRIGHT_HALFa_BELOWwHT_CENTRALIZATION_STROKE_BELOWzhONG_DOUBLE_SOLIDUS_OVERLAYwSOLIDUS_OVE
   RLAYoTROKE_OVERLAYoVERTICAL_LINE_OVERLAYyW_LINEiMACRONa_BELOWfLEFT_HALFa_BELOWpRIGHT_HALFa_BEL
   OWr-ACUTEfBREVEfGRAVElINUS_SIGN_BELOWqNOT_TILDE_ABOVEoUMBER_SIGN_ABOVErOGONEKa_ABOVElLD_PERMIC
   _LETTER_ANcDOIdNENOEfSIIdZATAvPEN_MARK_BELOWoVERLINEiPALATALIZED_HOOK_BELOWuRENTHESES_ABOVEfBE
   LOWfOVERLAYsLUS_SIGN_ABOVEfBELOWpRETROFLEX_HOOK_BELOWsVERSE_SOLIDUS_OVERLAYqD_COMMA_ABOVEtIGHT
   _ARROW_ABOVEfBELOWgHEAD_ABOVEeND_DOWN_ARROWHEAD_BELOWuUP_ARROWHEAD_BELOWwBELOWpHALF_RING_ABOVE
   fBELOWnRPOON_ABOVEnPARENTHESIS_ABOVE_RIGHTlBELOW_RIGHTxTACK_BELOWlWARDS_HARPOON_WITH_BARB_DOWN
   WARDSzlNG_ABOVEfBELOWfOVERLAYmSEAGULL_BELOWmHORT_SOLIDUS_OVERLAYoTROKE_OVERLAYoVERTICAL_LINE_O
   VERLAYzbNAKE_BELOWkQUARE_BELOWeRACKETS_ABOVEuTRONG_CENTRALIZATION_STROKE_BELOWziUSPENSION_MARK
   pTHREE_DOTS_ABOVEpILDEa_BELOWfLEFT_HALF_BELOWpOVERLAYhRIGHT_HALF_BELOWvRIPLE_ACUTE_ACCENTmDOTd
   UNDERDOToURNED_COMMA_ABOVEsUP_TACK_ABOVEfBELOWlWARDS_ARROW_BELOWsR_ABOVEhS_ABOVEiVERTICAL_LINE
   _ABOVEfBELOWkTILDEoWIDE_BRIDGE_ABOVEmINVERTED_BRIDGE_BELOWyGGLY_LINE_BELOWrX_ABOVEfBELOWg-X_BE
   LOWjZIGZAG_ABOVEfBELOWtETcMAbERCIAL_ATcMINUS_SIGNsPASSdLEMENTgOSITION_SYMBOLoRESSIONjNFETTI_BA
   LLjOUNDED_FACElUSED_FACEkGRUENT_WITH_DOT_ABOVEvICAL_TAPERkJUNCTIONiSTRUCTION_SIGNeWORKERqTAINS
   _AS_MEMBERgNORMAL_SUBGROUPa_OR_EQUAL_TOzfWITH_LONG_HORIZONTAL_STROKEwOVERBARhVERTICAL_BAR_AT_E
   ND_OF_HORIZONTAL_STROKEzzINUOUS_UNDERLINE_SYMBOLxOUR_INTEGRALmROL_KNOBSfSEQUENCE_INTRODUCERyVE
   NIENCE_STOREpOKED_RICEhIEbNGfPTIC_CAPITAL_LETTER_AKHMIMIC_KHEImLFAeBOHAIRIC_KHEInCROSSED_SHEIk
   YPTOGRAMMIC_EIEdGANGIAgNIcSHEIsDALDAeEIcIALECT-P_ALEFeHORIeKAPAeNImEIEdFEIcIcGAMMAdNGIAgHATEdO
   RIeIAUDAfKAPAdHEIcIcSIdL-SHAPED_HAkAULAfMIcNIcOaLD_COPTIC_AINdDJAdESHdGANGIAgHAaTcEIcORIeOOUdS
   HEIcIMAmNUBIAN_NGIcYIdSHIMAfWAUnOUdPIbSIdROcSAMPIeHEIcIMAeIMAdOUdTAUcHETHEgUAcVIDAeZATAsOMBINI
   NG_NI_ABOVEiSPIRITUS_ASPERfLENISyEPACT_DIGIT_EIGHTfFIVEdOUReNINEeONEdSEVENeIXdTHREEeWOjNUMBER_
   EIGHT_HUNDREDiYgFIFTYdVE_HUNDREDlORTYdUR_HUNDREDmNINE_HUNDREDiTYgONE_HUNDREDlSEVEN_HUNDREDiTYg
   IX_HUNDREDiTYfTENcHIRTYeREE_HUNDREDmWENTYeO_HUNDREDsTHOUSANDS_MARKuFRACTION_ONE_HALFqULL_STOPj
   MORPHOLOGICAL_DIVIDERvOLD_NUBIAN_DIRECT_QUESTION_MARKuFULL_STOPjINDIRECT_QUESTION_MARKwVERSE_D
   IVIDERySMALL_LETTER_AKHMIMIC_KHEImLFAeBOHAIRIC_KHEInCROSSED_SHEIkYPTOGRAMMIC_EIEdGANGIAgNIcSHE
   IsDALDAeEIcIALECT-P_ALEFeHORIeKAPAeNImEIEdFEIcIcGAMMAdNGIAgHATEdORIeIAUDAfKAPAdHEIcIcSIdL-SHAP
   ED_HAkAULAfMIcNIcOaLD_COPTIC_AINdDJAdESHdGANGIAgHAaTcEIcORIeOOUdSHEIcIMAmNUBIAN_NGIcYIdSHIMAfW
   AUnOUdPIbSIdROcSAMPIeHEIcIMAeIMAdOUdTAUcHETHEgUAcVIDAeZATAqYMBOL_KAIcHI_ROgMI_ROfPI_ROfSHIMA_S
   IMAjTAUROShTAU_ROrYLEFT_SYMBOLlRIGHT_SIGNmRALcNISH_VERSE_DIVIDERsRESPONDS_TOmUCH_AND_LAMPlNTER
   BOREeSINKgING_ROD_TENS_DIGIT_EIGHTfFIVEdOUReNINEeONEdSEVENeIXdTHREEeWOoUNIT_DIGIT_EIGHTfFIVEdO
   UReNINEeONEdSEVENeIXdTHREEeWOyPLE_WITH_HEARTpWa_FACEhRaABcEDIT_CARDiSCENT_MOONlICKETa_BAT_AND_
   BALLsOCODILEgISSANTgSS_MARKeOF_JERUSALEMjLORRAINElPATTY_WITH_LEFT_CROSSBARnRIGHT_CROSSBARyOMME
   Ea_WITH_HALF-CIRCLE_BELOWzfED_FLAGSfNEGATIVE_SQUARED_LATIN_CAPITAL_LETTER_PzoSWORDSjING_LANESl
   WNdUTCHdZEIRO_SIGNlYING_CAT_FACEiFACEiSTAL_BALLlSIcUBE_ROOThCUMBERgNEIFORM_NUMERIC_SIGN_EIGHT_
   ASHdDISHeGESH2fSHAR2fUa_VARIANT_FORMoVARIANT_FORM_USSUa3xLAMITE_FIFTYeORTYfONE_THIRDjTWO_THIRD
   SsFIVE_ASHa_TENUiBAN2a_VARIANT_FORMqURUeDISHeGESH2bUfSHAR2bUeIXTHS_DISHlUa_VARIANT_FORMsOUR_AS
   Ha_TENUiBAN2a_VARIANT_FORMqURUeDISHeGESH2bUfSHAR2bUfUa_VARIANT_FORMoVARIANT_FORM_LIMMUa_AbBc4y
   NIGIDAESHdMINhNE_ASHdDISHeGESH2fSHAR2fUa_VARIANT_FORMoVARIANT_FORM_ILIMMUa_Ac3b4zOLD_ASSYRIAN_
   ONE_QUARTERhSIXTHvNE_BAN2dURUeEIGHTH_ASHjSHE3fGESH2bUfHALF_GURiQUARTER_ASHdGURlSHARUfTHIRD_DIS
   HeVARIANT_FORM_AySEVEN_ASHdDISHeGESH2fSHAR2fUa_VARIANT_FORMoVARIANT_FORM_IMIN_AbBc3xHAR2_TIMES
   _GAL_PLUS_DISHeMINxIX_ASHa_TENUiDISHeGESH2fSHAR2fUa_VARIANT_FORMoVARIANT_FORM_ASH9vTHREE_ASHa_
   TENUiBAN2dURUa_VARIANT_FORMrDISHeGESH2bUfSHAR2a_VARIANT_FORMoUa_VARIANT_FORMsVARIANT_FORM_ESH1
   6c21xWO_ASHa_TENUiBAN2dURUeESHE3fGESH2bUfSHAR2bUfTHIRDS_DISHeVARIANT_FORM_AznPUNCTUATION_SIGN_
   DIAGONAL_COLONfQUADCOLONjTRICOLONrOLD_ASSYRIAN_WORD_DIVIDERzVERTICAL_COLONzgSIGN_Aa_TIMES_AbBA
   DdGAN2_TENUjHAcIGIdLAGAR_GUNUkMUSHeSAGk2bBa_GUNUeTIMES_ASH2eDUN3_GUNUjGALbN2_TENUjHAcIGI_GUNUh
   MINeLAGABfNUNa_TENUiSHESHdU2eU_PLUS_U_PLUS_Uw2a_TIMES_AbBALAGfGAN2_TENUjME_PLUS_ENkSHA3eTAK4nD
   a_TIMES_ESH2mKa_TIMES_ERIN2fSHITA_PLUS_GISHxLa_TIMES_ALcDIM2eGISHeHAcKAD3dIcSHEdUSHkANcEPHeMAR
   a_TIMES_KUGdSHEnNa_OVER_ANhPLUS_NAGA_OPPOSING_AN_PLUS_NAGAvSQUAREDrTHREE_TIMESmSHEePINdRADa_TI
   MES_KURmKABeSAL2dHa_KABA_TENUjOVER_ASH_OVER_ASHa_CROSSING_ASH_OVER_ASH_OVER_ASHzoTUG2_OVER_TUG
   2_TUG2_OVER_TUG2_PAPzrZIDA_TENUk2bGABgBAaDa_TIMES_DISH_TENUrG3cHAR2a_TIMES_AB2dNIcZAnLa_OVER_B
   ALjAGdRaA2eIa_TIMES_AbGARdIGI_GUNUqUa_CROSSING_BUlOVER_BU_ABcTIMES_NA2jUNlLUGa_OVER_BULUGoRa2e
   DAa_TIMES_TAK4lGa_KISIM5_TIMES_A_PLUS_MASHkMAReBALAGeIcGAa_PLUS_MASHlIaR2dUDdHAcIRa_PLUS_LUkKA
   KdLAbUa_PLUS_MASH2lMdNEcPAP_PLUS_PAPmSIcTAK4eU2_PLUS_GIR2eMASHlSHqTIMES_KURk3cMbRaA3b4eIaBbMa_
   TIMES_IGIdSHEdU_U_Um2a_TIMES_UDlNa_KASKAL_U_GUNU_DISHuSHa_PLUS_SHUmUa_GUNUeOVER_DUhSHESHIGiBa_
   TIMES_ESH2eSHEk2cGa_TIMES_ANSHEeSHa_AT_LEFTlDINcUNdERIN2fGAbIaR2_GUNUhSHeHAbIcIGI_GUNUiKASKALf
   URbSHU2a_PLUS_KASKALsLAK-020fMa_TIMES_KURmUH_PLUS_GISHnMASHdEScIcNIcPIcSHEcI_GUNUoUDdHbNa3a_GU
   NUa_GUNUl4cR2eEa_OVER_E_NUN_OVER_NUNtTIMES_PAPk2a_TIMES_A_PLUS_HA_PLUS_DArGARdKURdMIcPAPdSALcH
   EdUjDINdGIRdLbNa_CROSSING_ENlOPPOSING_ENlSQUAREDhTIMES_GAN2a_TENUjMEkRENcIN2a_XgSH2a_CROSSING_
   ESH2rZENa_SHESHIG_TIMES_ASHdHIcIGI_GUNUiLAaLdMEaSdSUqTIMES_Aa_PLUS_LALa_TIMES_LALtNcBADdDUN3_G
   UNUa_GUNUoGUDdHAa_GUNUhIGI_GUNUiKASKALa_SQUAREDnU3dLAaL_TIMES_LALmIbUcSHEcUcU2bDnGAa_GUNUf2a_O
   VER_GA2iTIMES_A_PLUS_DA_PLUS_HAkHAcIGIjB2_TENU_PLUS_TABqNa_PLUS_KAK_PLUS_ArSHa2a_PLUS_GALnBADb
   HAR2eR_PLUS_RAkURa_PLUS_RAlDAbIaM_GUNUeTIMES_SHEmUBbG_TIMES_IGI_GUNUiKASKALqELa_PLUS_LAjNa_TIM
   ES_GAN2_TENUrRENeGAaN2_TENUhRa_PLUS_DIcNEkIa4a_PLUS_AiR2_PLUS_SUmHA_PLUS_AbLU_PLUS_ESH2sLa_PLU
   S_LAkI_PLUS_LIjUB2eIGI_GUNUhSH_PLUS_HU_PLUS_ASHuKAKbSKALfIDa_PLUS_LALlU3_PLUS_ANjSHU2_PLUS_KAS
   KALsLAaMa_TIMES_KURmUHdME_PLUS_ENjIbUSHeNEa_PLUS_E2cGIjUNa_OVER_NUNmPAcSALbRcHEa_PLUS_TURkIDbM
   dUMdTAK4eUaDa_PLUS_DUkZIZ2mBAa_CROSSING_GABAnROTATED_NINETY_DEGREESzDa_OVER_GAD_GAR_OVER_GARxL
   a_GAD_OVER_GAD_GAR_OVER_GARzbAMdMbNa2a_CROSSING_GAN2nOVER_GAN2jTENUhRa3cSHANfE22cSHTINa_TIMES_
   KURdUoIa_CROSSING_GIlTIMES_EbUi4a_CROSSING_GI4mOVER_GI4kDIMdGbR2a_GUNUg3a_TIMES_A_PLUS_IGIkGAN
   2_TENUjIGIdLU_PLUS_IGIlPAlSALcHa_CROSSING_GISHnTENUdIMES_BADdGISH_CROSSING_GISHsTAK4oUa_CROSSI
   NG_GUm2a_GUNUeTIMES_IGI_GUNUiKAKa_TIMES_IGI_GUNUsNUNdSAL_PLUS_TUG2vDa_OVER_GUD_LUGALoPLUS_GISH
   _TIMES_TAK4uTIMES_A_PLUS_KURkKURlLbMa_TIMES_SHElRa7bUNbSHgHAa_GUNUeTENUa_GUNUkLcIa_TIMES_ASHa_
   OVER_HI_TIMES_ASHs2eBADdDISHeGADdKINdNUNdSHEdUjUaB2a_TIMES_ANcHALdKASKALgLISHeUDlL2cSHeIa_AcBb
   DIMa_OVER_IDIM_BURdSQUAREDvGaIa_DIBdGUNUeOVER_IGI_SHIR_OVER_SHIR_UD_OVER_UDzjRIfLa_TIMES_GAN2_
   TENUq2cMa_CROSSING_IMlOPPOSING_IMlSQUAREDhTIMES_TAK4lINdNbRbSHdKAa_TIMES_AaDa_PLUS_KU3kNSHEeSH
   2b3eBADbLAGdRcIbUcERIN2eSH2eGAaLbN2_TENUhRa_PLUS_SHA3_PLUS_AtIaR2cSHa_CROSSING_GISHnPLUS_SARmU
   aDbR7eHI_TIMES_ASH2nIGIcMcKAaKcIaDdLIbUaMdMEa_PLUS_DUcGIcTEjIa_PLUS_NUNUZnNEbUNdPAbIcRUcSAaRcH
   AbEbIDcUaLdIGcUHURfTARcUcUa_U_Ue2bDbMUM_TIMES_PAmRa2cSHdZIj2a_CROSSING_KA2oBbD2b3b4b5a_OVER_KA
   D5mKa_TIMES_IGI_GUNUqLa_CROSSING_KALmTIMES_BADlM2b4cP_ELAMITEjSKALa_LAGAB_TIMES_U_OVER_LAGAB_T
   IMES_UzhOVER_KASKAL_LAGAB_TIMES_U_OVER_LAGAB_TIMES_UzzESH2eIa_TIMES_BADdUaDjDbNbSALcHbIM5a_OVE
   R_KISIM5rUa_OVER_HI_TIMES_ASH2_KU_OVER_HI_TIMES_ASH2zq3b4a_VARIANT_FORMo7bLa_GUNUgNbRa_OPPOSIN
   G_KURoSHU2fWU318gLAaGABa_SQUAREDhTIMES_Aa_PLUS_DA_PLUS_HAkGARdLALjLbNbSH_ZIDA_TENUnBADcIcDARdE
   NcGAaRcIbUDa_PLUS_GUDmHAaLcI_TIMES_NUNmIGI_GUNUhMa_PLUS_HAcLUkKIaNcU3bLa_PLUS_HI_PLUS_AsLAGABe
   ISHdUaLdMEa_PLUS_ENjUSHeNEcSHE_PLUS_SUMkITA_PLUS_GISH_PLUS_ERIN2kTENUsU2a_PLUS_SHU2nUMdTAGbK4d
   E_PLUS_A_PLUS_SU_PLUS_NAzUa_PLUS_AbU_PLUS_Uo2_PLUS_ASHkDbSHdZU_OVER_ZUsRa_GUNUa_OVER_LAGAR_GUN
   U_SHEyTIMES_SHEa_PLUS_SUMwHSHUeK-003c21b5c30c50b1c62c79_OVER_LAK-079_GUNUu80b1_OVER_LAK-081p92
   d130c42d210b9c20b5b8c38c65b6d343b7b8c83b4c90d441b9a_TIMES_GUcIGIdPAP_PLUS_LU3dPAP_PLUS_LU3vU2_
   PLUS_BAt50b7c70c83c90b2b3b5d550d608c17a_TIMES_ASHdBADdDUN3_GUNU_GUNUoKU3dLAcTARcEcU2bDbRUDAo36
   c48a_TIMES_DUBdGAcIGIa_GUNUiNIcPAP_PLUS_PAP_PLUS_LU3vSHESH_PLUS_KInUDbRUDAp724c49fLa_TIMES_LAL
   lMa_TIMES_KURa_PLUS_RUuIaLbMMU2eSHdUa_TIMES_BADk2a_CROSSING_LU2mGUNU_TIMES_ASHoOPPOSING_LU2mSH
   ESHIGa_TIMES_BADqQUAREDhTENUdIMES_ALcBADdDISHeESH2a_PLUS_LALiTENUjGAN2_TENUjHALcI_TIMES_BADmIM
   cKAD2b3a_PLUS_ASHmIcLA_PLUS_ASHjGABfME_PLUS_ENkNEbUcPAPa_PLUS_PAP_PLUS_LU3vSHUcI_PLUS_ASHjK2_P
   LUS_BUmTAK4dUG2m3bGALa_OPPOSING_LUGALnVER_LUGALkSHESHIGlHbLbMa_OVER_LUMa_GAR_OVER_GARzMAa_GUNU
   eTIMES_TAK4l2bHbRbSHa2eEaSaHdIa_PLUS_ZA7jNcUa_OVER_MUiGa_GUNUgNSUBeRGU2eSHa_CROSSING_MUSHnOVER
   _MUSHa_TIMES_A_PLUS_NAjGAcKAKtTIMES_AbKURdZAj3a_GUNUeTIMES_Aa_PLUS_DIjDIcZAoNAa2b4bGAa_INVERTE
   DiOPPOSING_NAGAnTIMES_SHU_TENUpRdMa_NUTILLUi2dEa_SHESHIGhTIMES_AbUDkIa_TIMES_Ei2bMa_TIMES_GAN2
   _TENUhR_PLUS_GAN2_TENUzbNa9bDA2a_TIMES_ANbSHa_PLUS_ASHmBALdDIM_GUNUiGIaSHdUDbLdHIcKESH2fLAK-05
   0hMASHdE_PLUS_GAN2_TENUrNEbUNdPAP_PLUS_PAPmSHEa_PLUS_A_ANdSHa_PLUS_ASHvUa_PLUS_Uh2_PLUS_ASHkRU
   DAeSHoSAGeUa11a_OVER_NU11_BUR_OVER_BURwROTATED_NINETY_DEGREESwTENUhNa_CROSSING_NUNa_LAGAR_OVER
   _LAGARzeLAGAR_TIMES_GARdMASHeSALa_OVER_NUN_LAGAR_TIMES_SALzdUSHpOVER_NUNiTENUfUZa_AB2_TIMES_AS
   HGABgBIcDUGdGUDdIGI_GUNUiKAD3eLAcNEcSILA3fU2mKISIM5_TIMES_BIa_UxPAaDbNbPcESH2a_ASTERISKnIa_CRO
   SSING_PIlTIMES_AaBcBIbUcEbIaBcUa2jR2bIGa_OPPOSING_PIRIGoTIMES_KALdUDcZAoRAaBcIbUcSAaGa_GUNUa_T
   IMES_HAnNUTILLUhOVER_SAGiTIMES_AbDUaBdENcHAcIGI_GUNUiKAKcURdLUMdMIcNUNdSALcHE_AT_LEFTjIDeTABbK
   4eU2bBbMbRbSHlLa_LAGAB_TIMES_ASH2sNGA2eRcHAa3a_TIMES_AbBADdGISHeNEcSHU2eTURdUa_PLUS_Aq6a_TENUg
   B6cR2dEa_HUcOVER_SHEa_GAD_OVER_GAD_GAR_OVER_GARzTAB_OVER_TAB_GAR_OVER_GARzjPLUS_HUB2eNAM2eSARj
   G9cNbSHa2bLAMgIDa_TIMES_AbIMkMa_TIMES_AbBALcULUGfDINdGARdIGIa_GUNUiKUSHU2gLULdMUGdSALlNIGdRa_O
   VER_SHIR_BUR_OVER_BURwTENUgTAdUa_OVER_INVERTED_SHUs2a_PLUS_DUG_TIMES_NImE2_TIMES_ANsBURfIa_GUN
   UeTIMES_TAK4lGa4a_OVER_SIG4_SHU2rK2cLA3eUa_OVER_SUiDa2cHURdMaASHeRa9eTAa_ASTERISKiGUNUeTIMES_H
   IcMIjBa_OVER_TAB_NI_OVER_NI_DISH_OVER_DISHzjSQUAREDjGa_TIMES_BIcGUDdSHEbUdTUG2eUDkK4a_PLUS_SAG
   lRcEa_GUNUgIa_TENUf2bLbRa_OVER_TIRa_GAD_OVER_GAD_GAR_OVER_GARzjTIMES_TAK4nUaG2cKbMa_TIMES_GAN2
   _TENUjTHREE_DISHsRa_OVER_TUR_ZA_OVER_ZAxUa_GUDdOVER_U_PA_OVER_PA_GAR_OVER_GARxSUR_OVER_SURmU_R
   EVERSED_OVER_U_REVERSEDziUa_Ue2bBbDa_GUNUeKUSHU2gSHESHIGa_TIMES_BADrTIMES_BADdMIcU_PLUS_U_PLUS
   _Ua_GUNUzcUGdMa_TIMES_LAGABfMEa_PLUS_DAkSHA3eUiBINdUMa_TIMES_KASKALgPAmNa_GUNUgRa_CROSSING_URl
   SHESHIGi2a_INVERTEDiTIMES_A_PLUS_HAcNAiLcHAcNUNdU2a_PLUS_ASHdBIjDk4bIa3cUa_TIMES_AaSHGABgBARdD
   ARA3eUNdGAaLbN2_TENUhRcUcHAcIGIcMbSHdKIcLAK-668gU3bMdMINdPAcSHEcIG4eTUcU_PLUS_GUDjDbRUDAmDAa_T
   IMES_UmSHa_TIMES_AbKUaRdTAK4l2bUMXdXdTUKIeZ3a_TIMES_KASKALoUdZAa_SQUARED_TIMES_KURrTENUf7bGbMX
   dE2cIa_OVER_ZIi3bBa_KABA_TENUlGbZ2dUa_OVER_ZU_PLUS_SARr5a_TIMES_AbTHREE_DISH_TENUxBURdMqP_ON_B
   LACK_SQUAREpWITH_STRAWlCAKEeIDOeRLING_STONEjY_BRACKET_EXTENSIONrLOGICAL_ANDdORiOPhRENCY_EXCHAN
   GEiSIGNjY_AND_RICElVED_STEM_PARAGRAPH_SIGN_ORNAMENTziSTARDdOMSfT_OF_MEATkYCLONEfLINDRICITYkPRI
   OT_SYLLABLE_AbEbIbJAbOcKAbEbIbObUcLAbEbIbObUcMAbEbIbObUcNAbEbIbObUcObPAbEbIbObUcRAbEbIbObUcSAb
   EbIbObUcTAbEbIbObUcUbWAbEbIbOcXAbEcZAbOpO-MINOAN_SIGN_CM001b2b4b5b6b7b8b9c10b1b2aBc3b5b7b9c21b
   3b4b5b6b7b8b9c30b3b4b5b6b7b8b9c40b1b4b6b7b9c50b1b2b3b4b5b6b8b9c60b1b2b3b4b6b7b8b9c70b1b2b3b4b5
   aBc6b8b9c80b1b2b3b4b5b6b7b8b9c90b1b2b4b5b6b7b8b9d100b1b2b3b4b5b7b8b9c10b2b4d301b2vRILLIC_CAPIT
   AL_LETTER_Aa_WITH_BREVEfDIAERESISpBKHASIAN_CHEa_WITH_DESCENDERsDZEdHAlLEUT_KAiBARRED_Oa_WITH_D
   IAERESISvSHKIR_KAjEbIG_YUSfNOCULAR_OkLENDED_YUSkROAD_OMEGAkYELORUSSIAN-UKRAINIAN_IyCCHEdHEa_WI
   TH_DESCENDERiIAERESISjVERTICAL_STROKExLOSED_LITTLE_YUSqROSSED_OjDCHEdEbJEaRVeOUBLE_MONOCULAR_O
   lOhWEcZEaLOdHEcWEcZEbHEfEa_WITH_DIAERESISpFbLa_WITH_DESCENDERjHOOKeMIDDLE_HOOKlTAILlMa_WITH_TA
   ILlNa_WITH_DESCENDERjHOOKeLEFT_HOOKjMIDDLE_HOOKlTAILlRa_WITH_TICKlSa_WITH_DESCENDERrFITAeGHEa_
   WITH_DESCENDERjMIDDLE_HOOKlSTROKEa_AND_HOOKpUPTURNoJEdHAa_WITH_DESCENDERjHOOKeSTROKEmRD_SIGNiW
   EdIa_WITH_DIAERESISjGRAVEfMACRONmEa_WITH_BREVEfGRAVEmOaTAbIFIED_AbBIG_YUShCLOSED_LITTLE_YUSrEb
   LITTLE_YUSkYATlZHITSAa_WITH_DOUBLE_GRAVE_ACCENTzhJEcKAa_WITH_DESCENDERjHOOKeSTROKEgVERTICAL_ST
   ROKEwHAKASSIAN_CHEnJEcOMI_DEbJEcZJEeLJEdNJEdSJEdTJEdZJEgPPAeSIdLHAcITTLE_YUSjJEdMONOCULAR_OhGR
   APH_UKmNEUTRAL_YERkJEdOa_WITH_DIAERESISpMEGAa_WITH_TITLOpTcPEa_WITH_DESCENDERjMIDDLE_HOOKsSIdQ
   AcREVERSED_DZEdTSEdYUcZEkHAcOUND_OMEGAlSCHWAa_WITH_DIAERESIStEMISOFT_SIGNmHAbCHAdHAa_WITH_DESC
   ENDERrORT_Ia_WITH_TAILlUfWEdOFT_DEcELbMcSIGNiTRAIGHT_Ua_WITH_STROKEwTCHEdEa_WITH_DESCENDERjMID
   DLE_HOOKsSEbHEcSEcWEdWEdUa_WITH_DIAERESISiOUBLE_ACUTEmMACRONmKaRAINIAN_IEmVEcWEcYAaEbTcERUa_WI
   TH_BACK_YERiDIAERESISsIbNbUcZEa_WITH_DESCENDERiIAERESISpMLYAfHEa_WITH_BREVEfDESCENDERiIAERESIS
   qWEkIGATURE_A_IEeEN_GHEgTE_TSExKAVYKAgLETTER_MULTIOCULAR_OnPALOCHKAiSMALL_CAPITAL_ELxPAYEROKhS
   MALL_LETTER_Aa_WITH_BREVEfDIAERESISpBKHASIAN_CHEa_WITH_DESCENDERsDZEdHAlLEUT_KAiBARRED_Oa_WITH
   _DIAERESISvSHKIR_KAjEbIG_YUSfNOCULAR_OkLENDED_YUSkROAD_OMEGAkYELORUSSIAN-UKRAINIAN_IyCCHEdHEa_
   WITH_DESCENDERiIAERESISjVERTICAL_STROKExLOSED_LITTLE_YUSqROSSED_OjDCHEdEbJEaRVeOUBLE_MONOCULAR
   _OlOhWEcZEaLOdHEcWEcZEbHEfEa_WITH_DIAERESISpFbLa_WITH_DESCENDERjHOOKeMIDDLE_HOOKlTAILlMa_WITH_
   TAILlNa_WITH_DESCENDERjHOOKeLEFT_HOOKjMIDDLE_HOOKlTAILlRa_WITH_TICKlSa_WITH_DESCENDERrFITAeGHE
   a_WITH_DESCENDERjMIDDLE_HOOKlSTROKEa_AND_HOOKpUPTURNoJEdHAa_WITH_DESCENDERjHOOKeSTROKEmRD_SIGN
   iWEdIa_WITH_DIAERESISjGRAVEfMACRONmEa_WITH_BREVEfGRAVEmOaTAbIFIED_AbBIG_YUShCLOSED_LITTLE_YUSr
   EbLITTLE_YUSkYATlZHITSAa_WITH_DOUBLE_GRAVE_ACCENTzhJEcKAa_WITH_DESCENDERjHOOKeSTROKEgVERTICAL_
   STROKEwHAKASSIAN_CHEnJEcOMI_DEbJEcZJEeLJEdNJEdSJEdTJEdZJEgPPAeSIdLHAcITTLE_YUSjJEcONG-LEGGED_D
   EoMONOCULAR_OhGRAPH_UKmNARROW_OhEUTRAL_YERkJEdOa_WITH_DIAERESISpMEGAa_WITH_TITLOpTcPALOCHKAhEa
   _WITH_DESCENDERjMIDDLE_HOOKsSIdQAcREVERSED_DZEdTSEdYUcZEkHAcOUND_OMEGAgED_VEkSCHWAa_WITH_DIAER
   ESIStEMISOFT_SIGNmHAbCHAdHAa_WITH_DESCENDERrORT_Ia_WITH_TAILlUfWEdOFT_DEcELbMcSIGNiTRAIGHT_Ua_
   WITH_STROKEwTALL_HARD_SIGNjTEcYAThCHEdEa_WITH_DESCENDERjMIDDLE_HOOKsHREE-LEGGED_TEoSEbHEcSEcWE
   dWEdUa_WITH_DIAERESISiOUBLE_ACUTEmMACRONmKaRAINIAN_IElNBLENDED_UKmVEcWEbIDE_EShYAaEbTcERUa_WIT
   H_BACK_YERiDIAERESISsIbNbUcZEa_WITH_DESCENDERiIAERESISpMLYAfHEa_WITH_BREVEfDESCENDERiIAERESISq
   WEkIGATURE_A_IEeEN_GHEgTE_TSEvTHOUSANDS_SIGN"

end TypedQuery.Text
