/-!
# Names of characters, S to Z

The names as a walk, see `Text.CharacterName`.
-/

namespace TypedQuery.Text

/-- The names that start with S to Z. -/
def namesToZ : String :=
  "S_IN_TRIANGLEmAFETY_PINdVESTjGITTARIUSjILBOATgKE_BOTTLE_AND_CUPrLT_SHAKERhIREeUTING_FACElMARIT
   AN_ABBREVIATION_MARKrLETTER_ALAFeBAAcITdDALATfFIcGAMANfINbTbYcKAAFeLABATfMIMdNUNdQUFdRISHeSHAN
   dINGAAThTAAFdITcSAADIYhYUTdZENkMARK_DAGESHgEPENTHETIC_YUToINa-ALAFhNEQUDAAhOCCLUSIONnODIFIER_L
   ETTER_EPENTHETIC_YUToIbSHORT_AxPUNCTUATION_AFSAAQfNGEDdNAAUfRKAANUgTMAAUgBAUdMELODIC_QITSAnNEQ
   UDAAhQITSAfSHIYYAALAAjOF_MASHFAATmTURUeZAEFdIQAArVOWEL_SIGN_AaAcEbIbLONG_AaAcEbIbUgOaVERLONG_A
   aAlSHORT_AgUKUNfUuNDWICHfS-SERIF_HEAVY_DOUBLE_COMMA_QUOTATION_MARK_ORNAMENTzeTURNED_COMMA_QUOT
   ATION_MARK_ORNAMENTzsLOW_DOUBLE_COMMA_QUOTATION_MARK_ORNAMENTzvINTERROBANG_ORNAMENTzeRIcTELLIT
   Ea_ANTENNAoURNeURASHTRA_CONSONANT_SIGN_HAARUuDANDAeIGIT_EIGHTfFIVEdOUReNINEeONEdSEVENeIXdTHREE
   eWOdZEROjOUBLE_DANDAmLETTER_AaAbIbUcBAbHAdCAbHAdDAbDAbHAdHAdEaEcGAbHAdHAcIaIcJAbHAdKAbHAdLAbLA
   dMAcNAbGAcNAcYAdOaOcPAbHAdRAcSAbHAcSAdTAbHAcTAbHAeUaUcVAbOCALIC_LaLcRaRkYAjSIGN_ANUSVARAiCANDR
   ABINDUlVIRAMAeSARGAmVOWEL_SIGN_AAbIbUcEaEcIaIcOaOcUaUcVOCALIC_LaLcRaRzdOPODgXOPHONEiCALESdRFdH
   OOLa_SATCHELmIbOOTEReRPIONcUSgREENcWDRIVERiIPT_CAPITAL_BbEbFbHbIbLbMbPbRjLIGATURE_ET_ORNAMENTu
   SMALL_EbGbLbOlOLLdUPLEgEALbTcCOND_PLACE_MEDALpTION_SIGNiOReDNAdE-NO-EVIL_MONKEYpDLINGgGMENTaED
   _DIGIT_EIGHTfFIVEdOUReNINEeONEdSEVENeIXdTHREEeWOdZEROsLFIEeMICOLONfDIRECT_PRODUCT_WITH_BOTTOM_
   CLOSEDziSEXTILEjPARATED_SYMBOLoRIOUS_FACE_WITH_SYMBOLS_COVERING_MOUTHzmVICE_MARKkSAME_DOThQUIQ
   UADRATEmT_MINUSfTRANSMIT_STATEqWING_NEEDLElXTILEgGCcHADOWED_WHITE_CIRCLEgLATIN_CROSSlSTARqLLOW
   _PAN_OF_FOODqMROCKfRADA_ABBREVIATION_SIGNrCONTINUATION_SIGNrDANDAeIGIT_EIGHTfFIVEdOUReNINEeONE
   dSEVENeIXdTHREEeWOdZEROjOUBLE_DANDAmEKAMdXTRA_SHORT_VOWEL_MARKwHEADSTROKEkLETTER_AaAbIbUcBAbHA
   dCAbHAdDAbDAbHAdHAdEbGAbHAdHAcIaIcJAbHAdKAbHAdLAbLAdMAcNAbGAcNAcYAdObPAbHAdRAcSAbHAcSAdTAbHAcT
   AbHAeUaUcVAbOCALIC_LaLcRaRkYAjOMcSANDHI_MARKkECTION_MARK-1b2mPARATORiIGN_ANUSVARAhVAGRAHAiCAND
   RABINDUlINVERTED_CANDRABINDUuJIHVAMULIYAlNUKTAfSIDDHAMhUPADHMANIYAlVIRAMAeSARGAlUTRA_MARKkVOWE
   L_MODIFIER_MARKnSIGN_AAbIbUcEbIaIcObPRISHTHAMATRA_EpUaUcVOCALIC_LaLcRaRzKcVED_ICEgIAN_LETTER_A
   DOcGEcHbIRcREbRAYeSHcWEdBIBdCHURCHgDEADeEARbTcGGcRRdFEEdGAGdHA-HAeUNGeIANcCEcFcJUDGEfKICKeLOLL
   eMEASUREgIMEeNUNdOAKcILcNbOZEdRbUTdPEEPeROAReSObUREeTHEYcIGHeOTdUPcVOWdWOEbOLeYEAbWdZOOqEEPdIE
   LDdFT_INcOUTgNTO_SHRINEkPcOCKED_FACE_WITH_EXPLODING_HEADzeOTING_STARkPPING_BAGSeTROLLEYnRT_BAC
   KSLANTED_SOUTH_ARROWwENT_ARROW_POINTING_DOWNWARDS_THEN_NORTH_EASTzuDOWN_TACKa_WITH_OVERBARwLEF
   T_TACKjRIGHTWARDS_ARROW_ABOVE_LEFTWARDS_ARROWznSLANTED_NORTH_ARROWtUP_TACKa_ABOVE_SHORT_DOWN_T
   ACKvWITH_UNDERBARwCAKEeHAND_FORMAT_CONTINUING_OVERLAPsDOWN_STEPjLETTER_OVERLAPoUP_STEPtSdULDER
   ED_OPEN_BOXqWEReRIMPdUGdUFFLE_PRODUCTnYcIaDDHAM_DANDAeOUBLE_DANDAmEND_OF_TEXT_MARKqLETTER_AaAb
   IbLTERNATE_UkUcBAbHAdCAbHAdDAbDAbHAdHAdEbGAbHAdHAcIaIcJAbHAdKAbHAdLAcMAcNAbGAcNAcYAdObPAbHAdRA
   cSAbHAcSAdTAbHAbREE-CIRCLE_ALTERNATE_IxTAbHAdWO-CIRCLE_ALTERNATE_IaIxUaUcVAbOCALIC_LaLcRaRkYAj
   REPETITION_MARK-1b2b3rSECTION_MARK_DOUBLE_RINGa_WITH_RAYSvWITH_CIRCLES_AND_FOUR_ENCLOSURESpRAY
   SeTWO_ENCLOSURESzbDOUBLE_CRESCENTSqQUADRUPLE_CRESCENTStRAYS_AND_DOTTED_CRESCENTSjDOUBLE_CRESCE
   NTSqTRIPLE_CRESCENTSzhSEPTUPLE_CRESCENTSsTRIDENT_AND_DOTTED_CRESCENTSqU-SHAPED_ORNAMENTSzcPLE_
   CRESCENTSzhPARATOR_BARdDOTmIGN_ANUSVARAiCANDRABINDUlNUKTAfSIDDHAMhVIRAMAeSARGAmVOWEL_SIGN_AAbI
   bLTERNATE_UaUlUcEbIaIcObUaUcVOCALIC_RaRzbEWAYS_BLACK_DOWN_POINTING_INDEXtLEFT_POINTING_INDEXtR
   IGHT_POINTING_INDEXuUP_POINTING_INDEXxWHITE_DOWN_POINTING_INDEXtLEFT_POINTING_INDEXtRIGHT_POIN
   TING_INDEXuUP_POINTING_INDEXzfGN_OF_THE_HORNSnWRITING_AIR_BLOW_SMALL_ROTATIONSqING_OUTlSUCK_SM
   ALL_ROTATIONSqING_INoBREATH_EXHALEgINHALElUSH_BETWEENhMULTIPLEiSINGLEmCHEEKS_NEUTRALhPUFFEDgSU
   CKEDmOLONdMMAfDREAMY_EYEBROWS_DOWN_NEUTRALmNEUTRAL_DOWNeUPkUP_NEUTRALzYNAMIC_ARROWHEAD_LARGEfS
   MALLpEVERY_OTHER_TIMEqFASTeGRADUALhRELAXEDhSIMULTANEOUSa_ALTERNATINGxLOWeTENSEnEARSdXCITEMENTj
   YE_BLINK_MULTIPLEiSINGLEmWINKfBROWS_STRAIGHT_DOWNeNEUTRALhUPrGAZE-FLOORPLANE_CURVEDgSTRAIGHTa_
   ALTERNATINGlDOUBLEzbWALLPLANE_CIRCLINGhURVEDgSTRAIGHTa_ALTERNATINGlDOUBLEzfLASHES_DOWNeFLUTTER
   INGkUPjS_CLOSEDgHALF_CLOSEDgOPENjOPENeSQUEEZEDiWIDE_OPENfNING_MOVEMENTwFACE_DIRECTION_POSITION
   _NOSE_FORWARD_TILTINGpUP_OR_DOWNa_TILTINGzvILL_MODIFIER-2b3b4b5b6nNGERfLICK_LARGE_MULTIPLEiSIN
   GLEmSEQUENTIALjMALL_MULTIPLEiSINGLEqOORPLANE_SHOULDER_HIP_MOVEzcOREHEAD_CONTACThNEUTRALhWRINKL
   EDqULL_STOPjGRASP_BETWEENhMULTIPLEiSINGLEmHAIRcND-ANGLEa_INDEXa_MIDDLE_LITTLEgRINGlRING_LITTLE
   a_OUTpTHUMBa_INcOUTpLITTLE_INDEXa_THUMB_INDEX_THUMBa_OUTzcUPjMIDDLE_RING_LITTLEa_INcOUTwRING_D
   OWN_MIDDLE_THUMB_INDEX_CROSSzeLITTLErCIRCLEa_INDEXa_BENTeHINGEfMIDDLEa_CROSS_LITTLEhEDhLITTLEg
   RINGeTHUMBmRING_LITTLErLITTLE_INDEXfUPjMIDDLE_RING_LITTLEa_BENTqUPjRING_LITTLErLAWa_FOUR_FINGE
   RS_CONJOINEDwINDEX_THUMB_CURVE_THUMB_INSIDEzfMIDDLE_RING_LITTLE_CONJOINEDa_SIDEziNO_THUMBiTHUM
   B_FORWARDhSIDEoUPa_FIVE_FINGERS_SPREADa_OPENyINDEXa_RING_LITTLElTHUMBa_OPENqMIDDLE_RING_LITTLE
   sNO_THUMBiOPENa_NO_THUMBiTHUMB_FORWARDhSIDEpTHUMB_FORWARDhSIDEmRLICUEa_INDEX_RING_LITTLE_ONuMI
   DDLE_RING_LITTLE_ONvOPENnFISTa_FOUR_FINGERS_CONJOINED_BENTzcHEELeINDEXa_BENTa_OVER_MIDDLEqCUPP
   EDgHINGEDa_LOWdMIDDLE_UPa_THUMB_SIDEzcMIDDLEa_BENTa_THUMB_STRAIGHTtCONJOINEDa_CUPPEDa_THUMB_FO
   RWARDuHINGEDa_THUMB_SIDErINDEX_BENTkMIDDLE_BENTlTHUMB_FORWARDhSIDEa_BENTeCONJOINEDzeROSS_LITTL
   EhEDa_THUMB_SIDEsHINGEDa_SPREAD_THUMB_SIDEyLITTLEgRAISED_KNUCKLESoINGa_BENTeCONJOINEDoSTRAIGHT
   _THUMB_BENTtTHUMBa_ANGLEDa_OUTkBENTeCIRCLEDgONJOINED_HINGEDpUPPEDgHINGEDfOOKEDmUP_SPREAD_THUMB
   _FORWARDzfRAISED_KNUCKLEnING_LITTLElTHUMB_ANGLED_IN_MIDDLE_UPmOUT_MIDDLE_UPuCIRCLEaD_MIDDLE_UP
   qUPPED_MIDDLE_UPoRLICUEfVE_THUMB_INSIDEgUNDERrFORWARD_INDEX_BENTeSTRAIGHTwHOOKaED_MIDDLE_HINGE
   DgUPqSIDEa_BOTH_BENTjINDEX_BENTeHINGElTHUMB_BENTeCONJOINEDjDIAGONALzUP_MIDDLE_HINGEDa_THUMB_CO
   NJOINEDjSIDEziLITTLE_BENTeDOWNa_OTHERS_CIRCLEDoRIPPLE_CURVEDgSTRAIGHTuINDEXa_THUMBlRAISED_KNUC
   KLEoTHUMBeOUCHES_THUMBnUPjMIDDLE_BENT_OVER_INDEXpDOWNeLITTLEgRAISED_KNUCKLEnING_LITTLElTHUMB_A
   NGLED_INDEX_UPiOUT_INDEX_CROSSEDhUPtCIRCLED_INDEX_HINGEDgUPpUPPED_INDEX_UPpHOOKED_INDEX_UPpLIT
   TLEmUPa_THUMB_SIDEuRING_DOWNeINDEXfLITTLEgMIDDLEa_CONJOINEDjRAISED_KNUCKLESwRAISED_KNUCKLEoTHU
   MBfUPhTHUMBa_BETWEEN_INDEX_MIDDLEa_STRAIGHTvMIDDLE_RINGlRING_LITTLEtFORWARDhHEELeOVER_FOUR_RAI
   SED_KNUCKLESuTWO_FINGERSqSIDE_BENTeCONJOINEDjDIAGONALnUNDER_FOUR_FINGERSmINDEX_BENTkLITTLE_UPj
   THREE_FINGERSmWO_FINGERSzcLATa_BETWEEN_PALM_FACINGSuFIVE_FINGERS_SPREADa_BENTeFOUR_BENTjHINGED
   a_NO_THUMBiTHUMB_SIDErTHUMB_FORWARDzhOUR_FINGERSa_BENTeCONJOINEDa_SPLITpHINGEDtHEELa_FIVE_FING
   ERS_SPREADa_BENTeFOUR_BENTzeTHUMB_SIDEpSPLIT_CENTREa_THUMB_SIDEa_BENTwINDEX_THUMB_SIDEqLITTLEm
   THUMB_BENTeFORWARDhSIDEpHINGEa_FIVE_FINGERS_SPREAD_OPENxOUR_FINGERS_CONJOINEDwINDEXa_HINGEDgMI
   DDLE_LITTLEgRINGa_CONJOINEDvRING_LITTLElTHUMBa_LARGEfOPENeSIDEdMALLrLITTLEa_INDEXa_THUMBlTHUMB
   mMIDDLEa_RING_LITTLEsNO_THUMBiOPENa_NO_THUMBiTHUMB_FORWARDhSIDEpRINGa_DOWN_INDEX_THUMB_HOOK_MI
   DDLEziSMALLfTHUMB_BETWEEN_MIDDLE_RINGtSIDEa_TOUCHING_INDEXzfOOKa_CURLICUEiINDEX_RING_LITTLE_IN
   cOUTdUNDERxMIDDLE_RING_LITTLE_CONJOINEDa_INcOUTzTHUMBmRING_THUMBpOVALa_FIVE_FINGERS_SPREADtIND
   EXfLITTLE_UPjNO_THUMBiRING_LITTLElTHUMB_FORWARDhSIDEtEADa_MOVEMENT_CIRCLEh-FLOORPLANE_CURVEfST
   RAIGHTtWALLPLANE_CURVEfSTRAIGHTiTILTxRIMiLIMB_COMBINATIONlLENGTH-1b2b3b4b5b6b7lP_LOWER_OVER_UP
   PERqUPPER_OVER_LOWERrS_PRESSED_TOGETHERuOCATION_DEPTHfHEAD_NECKhIGHTgLIMBS_DIGITSmTORSOfWIDTHg
   -FLOORPLANE_SPACEqWALLPLANE_SPACEyMOUTH_CLOSED_CONTACThFORWARDhNEUTRALnORNERShFROWNa_OPENeWRIN
   KLEDoKISSa_FORWARDhWRINKLEDnOPEN_CIRCLEgFORWARDhOVALa_WRINKLEDiYAWNjRECTANGLEa_WRINKLEDiYAWNoW
   RINKLEDnSMILEa_OPENeWRINKLEDoTENSEa_FORWARDhSUCKEDmWRINKLES_DOUBLEgSINGLEtVEMENT-DIAGONAL_AWAY
   _LARGEaSThMEDIUMgSMALLkBETWEEN_AWAY_LARGEaSThMEDIUMgSMALLkTOWARDS_LARGEaSThMEDIUMgSMALLvTOWARD
   S_LARGEaSThMEDIUMgSMALLwFLOORPLANE_ARM_CIRCLE_HITTING_WALL_LARGE_DOUBLEgSINGLEmMEDIUM_DOUBLEgS
   INGLEnSMALL_DOUBLEgSINGLEzlBENDdOX_LARGEfMEDIUMgSMALLjCHECKeORNER_LARGEfMEDIUMgSMALLlROSSeURVE
   _COMBINEDiHITTING_CEILING_LARGEfSMALLnFLOOR_LARGEfSMALLtLARGEaSThMEDIUMgSMALLlDOUBLE_ALTERNATI
   NGa_WRIST_FLEXwSTRAIGHTiWRIST_FLEXrFINGER_CIRCLES_HITTING_WALL_DOUBLEgSINGLEzbONTACToHUMP_HITT
   ING_CEILING_LARGE_DOUBLEgTRIPLEmSMALL_DOUBLEgTRIPLEuFLOOR_LARGE_DOUBLEmSMALL_DOUBLEmTRIPLE_LAR
   GE_TRIPLEmSMALL_TRIPLEziSMALLkJAWdLOOP_HITTING_CEILING_LARGE_DOUBLEgSINGLEmSMALL_DOUBLEgSINGLE
   uFLOOR_LARGE_DOUBLEgSINGLEmSMALL_DOUBLEgSINGLEzbSMALLkPEAKS_LARGEfMEDIUMgSMALLlSHAKING_PARALLE
   LpINGLE_STRAIGHT_LARGEaSThMEDIUMgSMALLoWRIST_FLEXrTRIPLE_ALTERNATING_MOVEMENTiWRIST_FLEXwSTRAI
   GHT_MOVEMENTrWRIST_FLEXrWAVE_HITTING_CEILING_LARGEfSMALLnFLOOR_LARGEfSMALLtLARGEfSMALLeNAKEjRI
   ST_CIRCLE_HITTING_WALL_DOUBLEgSINGLEzhZIGZAG_LARGEfMEDIUMgSMALLxHINGE_DOWN_SEQUENTIALpSIDE_TO_
   SIDE_SCISSORSvUP_DOWN_ALTERNATING_LARGEfSMALLrLARGEfSMALLkSEQUENTIALtWALLPLANE_ARM_CIRCLE_MEDI
   UM_DOUBLEgSINGLEnSMALL_DOUBLEgSINGLExBEND_LARGEfMEDIUMgSMALLjOX_LARGEfMEDIUMgSMALLjCHECK_LARGE
   fMEDIUMgSMALLkORNER_LARGEfMEDIUMgROTATIONiSMALLlROSSeURVE_HALF-CIRCLE_LARGEaSThMEDIUMgSMALLqIT
   TING_CHESTfFRONT_WALLsQUARTER_LARGEaSThMEDIUMgSMALLnTHEN_STRAIGHTlREE-QUARTER_CIRCLE_MEDIUMgSM
   ALLzcD_CROSS_MEDIUMgSMALLsDOUBLE_ALTERNATINGa_WRIST_FLEXwSTRAIGHTiWRIST_FLEXrFINGER_CIRCLES_DO
   UBLEgSINGLEnONTACToHUMP_HITTING_CHESTfFRONT_WALLsLARGEfMEDIUMgSMALLkJAWdLOOP_HITTING_CHESTfFRO
   NT_WALLsLARGEfMEDIUMgSMALLa_DOUBLErPEAKS_LARGEfMEDIUMgSMALLlSHAKINGgINGLE_STRAIGHT_LARGEaSThME
   DIUMgSMALLoWRIST_FLEXrTRIPLE_ALTERNATINGa_WRIST_FLEXwSTRAIGHT_MOVEMENTrWRIST_FLEXrWAVE_CURVE_D
   OUBLE_LARGEfMEDIUMgSMALLmTRIPLE_LARGEfMEDIUMgSMALLsDIAGONAL_PATH_LARGEfMEDIUMgSMALLtHITTING_CH
   ESTfFRONT_WALLwRIST_CIRCLE_FRONT_DOUBLEgSINGLEzZIGZAG_LARGEfMEDIUMgSMALLzgNECKdOSE_CONTACThNEU
   TRALhWIGGLESgRINKLESnPARENTHESISlROTATION_MODIFIER-10b1b2b3b4b5b6c2b3b4b5b6b7b8b9l-FLOORPLANE_
   ALTERNATINGa_HITTING_CEILINGhFLOORzDOUBLEa_HITTING_CEILINGhFLOORuSINGLEa_HITTING_CEILINGhFLOOR
   zgWALLPLANE_ALTERNATEbING_HITTING_CHESTfFRONT_WALLzfDOUBLEa_HITTING_CHESTfFRONT_WALLzSINGLEa_H
   ITTING_CHESTfFRONT_WALLzsUB_BETWEENhMULTIPLEiSINGLEkSEMICOLONiHOULDER_HIP_POSITIONSjSPINEjTILT
   ING_FROM_WAISTzbQUEEZE_FLICK_ALTERNATINGrLARGE_MULTIPLEiSINGLEmSEQUENTIALjMALL_MULTIPLEiSINGLE
   tTRIKE_BETWEENhMULTIPLEiSINGLEmURFACE_BETWEENhSYMBOLSpTEETHa_BITE_LIPSjMOVEMENTiON_LIPSa_MOVEM
   ENTnTONGUEa_MOVEMENTwNSE_CHEEKS_HIGHeLOWdMIDDLEsONGUE_CENTRE_INSIDE_MOUTHmSTICKING_OUTtINSIDE_
   MOUTH_RELAXEDuLICKING_LIPSmMOVES_AGAINST_CHEEKtSTICKING_OUT_FARqTIP_BETWEEN_LIPSmTOUCHING_INSI
   DE_MOUTHzfRSO-FLOORPLANE_TWISTINGtWALLPLANE_CURVED_BENDlSTRAIGHT_STRETCHzfUCH_BETWEENhMULTIPLE
   iSINGLElRAVEL-FLOORPLANE_ROTATION-FLOORPLANE_ALTERNATINGlDOUBLEgSINGLErWALLPLANE_ALTERNATINGlD
   OUBLEgSINGLEzSHAKINGsWALLPLANE_ARM_SPIRAL_DOUBLEgSINGLEgTRIPLErROTATION-FLOORPLANE_ALTERNATING
   lDOUBLEgSINGLErWALLPLANE_ALTERNATINGlDOUBLEgSINGLEzSHAKINGyUPPER_BODY_TILTING_FROM_HIP_JOINTSz
   jWALLPLANE_SHOULDER_HIP_MOVEzmLHOUETTE_OF_JAPANrMILAR_ABOVE_GREATER-THAN_ABOVE_EQUALS_SIGNzfLE
   SS-THAN_ABOVE_EQUALS_SIGNziMINUS_SIMILARnOR_GREATER-THANmLESS-THANsNE_WAVEgGLE_CHARACTER_INTRO
   DUCERuGRAPHIC_CHARACTER_INTRODUCERzdHIGH-REVERSED-9_QUOTATION_MARKzfLEFT-POINTING_ANGLE_QUOTAT
   ION_MARKziOW-9_QUOTATION_MARKuRIGHT-POINTING_ANGLE_QUOTATION_MARKzkSHIFT_THREEeWOk-SHIFT-2b3lH
   ALA_ARCHAIC_DIGIT_EIGHTfFIVEdOUReNINEeONEdSEVENeIXdTHREEeWOjNUMBER_EIGHTYgFIFTYeORTYfNINETYgON
   E_HUNDREDhTHOUSANDmSEVENTYgIXTYfTENcHIRTYfWENTYvLETTER_AAYANNAgEEYANNAgYANNAgIYANNAgLPAPRAANA_
   BAYANNAhCAYANNAhDAYANNAgDAYANNAiGAYANNAhJAYANNAhKAYANNAhPAYANNAhTAYANNAgTAYANNAsMBA_BAYANNAlUY
   ANNAgYANNAgDANTAJA_LAYANNAhNAYANNAhSAYANNApEEYANNAgYANNAgFAYANNAhHAYANNAhIIYANNAgLUUYANNAgYANN
   AhRUUYANNAgYANNAhYANNAgKANTAJA_NAASIKYAYAsMAHAAPRAANA_BAYANNAhCAYANNAhDAYANNAgDAYANNAiGAYANNAh
   JAYANNAhKAYANNAhPAYANNAhTAYANNAgTAYANNAsYANNAgUURDHAJA_LAYANNAhNAYANNAhSAYANNArOOYANNAgYANNAgR
   AYANNAhSANYAKA_DAYANNAgDAYANNAiGAYANNAhJAYANNApTAALUJA_NAASIKYAYAkSANYOOGA_NAAKSIKYAYAsYANNApU
   UYANNAgYANNAgVAYANNAhYAYANNAnITH_DIGIT_EIGHTfFIVEdOUReNINEeONEdSEVENeIXdTHREEeWOdZEROpPUNCTUAT
   ION_KUNDDALIYAwSIGN_AL-LAKUNAiNUSVARAYAkCANDRABINDUlVISARGAYAoVOWEL_SIGN_AELA-PILLAkDIGA_AEDA-
   PILLAkGAETTA-PILLAkYANUKITTAlIS-PILLAiKOMBUVAhPAA-PILLAoGAETTA-PILLAkYANUKITTAlKETTI_AEDA-PILL
   AkIS-PILLAiPAA-PILLAoOMBU_DEKAfVAa_HAA_AELA-PILLAkDIGA_AELA-PILLApGAYANUKITTAzpX_PETALLED_BLAC
   K_AND_WHITE_FLORETTEzhOINTED_BLACK_STARkPINWHEEL_STARnSTAR_WITH_MIDDLE_DOTze-PER-EM_SPACEnTEEN
   _POINTED_ASTERISKxKATEBOARDiI_AND_SKI_BOOTnERdULLa_AND_CROSSBONESrNKeLANTED_EQUAL_TO_OR_GREATE
   R-THANa_WITH_DOT_INSIDEzdLESS-THANa_WITH_DOT_INSIDEzmNORTH_ARROW_WITH_HOOKED_HEADjRIZONTAL_TAI
   LzmVONIC_ASTERISKpEDbEPING_ACCOMMODATIONnFACEeSYMBOLkY_FACEiUTH_OR_SPYlICE_OF_PIZZAlGHTLY_FROW
   NING_FACEnSMILING_FACEtOPEbING_LARGE_ANDdORnT_MACHINEiHeMALL_AIRPLANEhMPERSANDiSTERISKiBLUE_DI
   AMONDmCOLONdMMAbERCIAL_ATlNTAINS_AS_MEMBERjWITH_OVERBARhVERTICAL_BAR_AT_END_OF_HORIZONTAL_STRO
   KEzzeDOLLAR_SIGNlELEMENT_OFa_WITH_OVERBARhVERTICAL_BAR_AT_END_OF_HORIZONTAL_STROKEzzfM_DASHgQU
   ALS_SIGNkXCLAMATION_MARKqFULL_STOPjGREATER-THAN_SIGNrHYPHEN-MINUSmIDEOGRAPHIC_COMMArLEFT_CURLY
   _BRACKETnPARENTHESISlTORTOISE_SHELL_BRACKETzSS-THAN_SIGNoNUMBER_SIGNlORANGE_DIAMONDoPERCENT_SI
   GNlLUS_SIGNjQUESTION_MARKnREVERSE_SOLIDUSoIGHT_CURLY_BRACKETnPARENTHESISlTORTOISE_SHELL_BRACKE
   TzcOMAN_NUMERAL_EIGHTeLEVENgFIFTYdVEa_HUNDREDlOUReNINEeONEa_HUNDREDhTHOUSANDmSEVENeIXdTENcHREE
   eWELVEeOrSEMICOLONjTILDEeWO_DOTS_OVER_ONE_DOT_PUNCTUATIONziVEE_WITH_UNDERBARsER_THANa_OR_EQUAL
   _TOvSH_PRODUCTlILEbING_CAT_FACE_WITH_HEART-SHAPED_EYESrOPEN_MOUTHyFACE_WITH_HALOdEART-SHAPED_E
   YESqORNSfOPEN_MOUTHa_AND_COLD_SWEATkSMILING_EYESmTIGHTLY-CLOSED_EYESzjSMILING_EYESa_AND_HAND_C
   OVERING_MOUTHtTHREE_HEARTSzdUNGLASSESkTEARtRKING_FACElOKING_SYMBOLnNAILcKEdEEZING_FACElOW_CAPP
   ED_MOUNTAINqBOARDERhFLAKEfMANa_WITHOUT_SNOWtOaCCER_BALLiKSdFT_HYPHENgICE_CREAMjSHELL_FLOPPY_DI
   SKsBALLeWARE-FUNCTION_SYMBOLwGDIAN_COMBINING_CURVE_ABOVEfBELOWlDOT_ABOVEfBELOWjHOOK_ABOVEfBELO
   WkLONG_HOOK_BELOWpRESH_BELOWkSTROKE_BELOWmTWO_DOTS_ABOVEfBELOWyINDEPENDENT_SHINqLETTER_ALEPHeY
   INeBETHeFETHeGIMELfHEaTHeKAPHeLAMEDHfESHeMEMdNUNdPEcRESH-AYINjSADHEdMEKHfHINeTAWdWAWdYODHeZAYI
   NmNUMBER_ONEa_HUNDREDlTENcWENTYnPUNCTUATION_CIRCLE_WITH_DOTpHALF_CIRCLE_WITH_DOTuTWO_CIRCLES_W
   ITH_DOTSrVERTICAL_BARSa_WITH_DOTSzuHbLID_QUILT_SQUARE_ORNAMENTa_IN_BLACK_SQUAREznUSa_WITH_OVER
   BARsM_SIGNgON_WITH_RIGHTWARDS_ARROW_ABOVEzfRA_SOMPENG_DIGIT_EIGHTfFIVEdOUReNINEeONEdSEVENeIXdT
   HREEeWOdZEROkLETTER_AHcBAHdCAHdDAHdEEHcHcGAHdHAHdIHcJAHdKAHdLAHdMAEbHdNAHcGAHdYAHeOHcPAHdRAHdS
   AHdTAHdUHcVAHdYAHvSbUND_RECORDING_COPYRIGHTwTH_EAST_ARROWa_AND_SOUTH_WEST_ARROWuCROSSING_NORTH
   _EAST_ARROWzTO_CORNERjWITH_HOOKpBLACK_ARROWlDOUBLE_ARROWmPOINTING_BUDdLEAFeVINE_LEAFsSANS-SERI
   F_ARROWqTRIANGLE-HEADED_ARROWa_TO_BARzdWHITE_ARROWqWEST_ARROWa_AND_NORTH_WEST_ARROWuWITH_HOOKp
   BLACK_ARROWlDOUBLE_ARROWmPOINTING_BUDdLEAFeVINE_LEAFsSANS-SERIF_ARROWqTRIANGLE-HEADED_ARROWa_T
   O_BARzdWHITE_ARROWuYOMBO_CLUSTER-INITIAL_LETTER_LAcRAcSAbHAzbFINAL_CONSONANT_SIGN_-AcBbDbGbKbL
   bMbNaGcRbSaHxGEMINATION_MARKpHEAD_MARK_WITH_MOON_AND_SUNa_AND_FLAMEfTRIPLE_FLAMEztLETTER_-AcAb
   BAbHAdCAbHAdDAbDAbHAdHAcZAdGAbHAdHAcJAbHAdKAbHAcSSAeLAcMAcNAbGAcNAcYAdPAbHAdRAcSAbHAcSAdTAbHAc
   SAbHAdTAbHAeVAcYAcZAbHAkMARK_DOUBLE_SHADlPLUTAfSHADeTSHEGkSIGN_ANUSVARAiJIHVAMULIYAlUPADHMANIY
   AlVISARGAlUBJOINERjTERMINAL_MARK-1b2pVOWEL_LENGTH_MARKlSIGN_AIbUcEbIbOaEcUaEcVOCALIC_LbRzcPaAa
   CEcGHETTIgRKLEaScING_HEARTnEAK-NO-EVIL_MONKEYpERa_WITH_CANCELLATION_STROKEtONE_SOUND_WAVEoTHRE
   E_SOUND_WAVESzING_HEAD_IN_SILHOUETTEyECH_BALLOONkDBOATgSMILO_SIGNlHERICAL_ANGLEa_OPENING_LEFTe
   UPyIDERa_WEBhRAL_CALENDAR_PADmNOTE_PADiSHELLkLASHING_SWEAT_SYMBOLuONGEdOL_OF_THREADlNcRTS_MEDA
   LjUTING_WHALEnQUARE_A_OVER_MhARUdMbNPEAePAATOfRUHUAfUcBAARERUfRcEETAeIRUdORUTOfQbUSSYERUiC_OVE
   R_KGiALbPcCbDbMa_CUBEDfSQUAREDjOaRPORATIONkUPdDAaASUeBbESIdJbLbMa_CUBEDfSQUAREDjORUeEEKAAeRA_N
   AME_HEISEIgMEIZIfREIWAfSYOUWAgTAISYOUoGcSUKUUDOhVcFMbOOTcUR_CORNERSmGALbNMAdRONeBbHZcIGAcNIIdR
   UDAAgPAcURAMUaTONiYcHAaITUeEKUTAARUhRUTUfGbIRAGANA_HOKAmONbONbRUePaAcUARADDOgIITOeRANeZcIMAGE_
   OFa_OR_EQUAL_TOiNOT_EQUAL_TOxNaINGUeTIdUcK_OHMeAaIRIdRATTOeORIIgBbCALdEESUeGbHZcIROaGURAMUgMEE
   TORUhWATTOiKbLbMa_CAPITALgUBEDfSQUAREDjOOPOdRUNAfPAcTbUROONEeUZEIROiVbWbYURIIgLEFT_OPEN_BOX_OP
   ERATORvMbNbOGbZENGEgXcM_CUBEDfOHMcVER_Sa_SQUAREDoSQUAREDiAaHHAdIKUROeRUdNSYONfRUKUfBa_SMALLhEE
   TORUfGAaTONgGbHZcIKURONfLbRIaBAARUiLbMa_CUBEDfSQUAREDjOLcPAcSbU_AbFbGbLbMbSbVbWdVa_MEGAgWa_MEG
   AhNAaNOdFbMbOTTOeSbVbWcONSUdOMUdRIGINAL_OFa_OR_EQUAL_TOiNOT_EQUAL_TOzbVcPAa_AMPSfASENTOfTUeCbE
   EZIdNIHIdSUdSOdFbHbIASUTORUhKObURUfMbOINTOeNDOdSITION_INDICATORrPMcRbSbVbWcRADa_OVER_Sa_SQUARE
   DrEMUcNTOGENhIGHT_OPEN_BOX_OPERATORvRAcTTORUgOOTdUPIIdUBURUhSAIKURUfNTIIMUhENTIbOeIRINGUgRbVcT
   ARGETfHZcONdUONdV_OVER_MiWATTOeBbITH_BOTTOM_HALF_BLACKrCONTOURED_OUTLINErDIAGONAL_CROSSHATCH_F
   ILLyHORIZONTAL_FILLpLEFT_HALF_BLACKoOWER_LEFT_DIAGONAL_HALF_BLACKyRIGHT_DIAGONAL_HALF_BLACKzgO
   RTHOGONAL_CROSSHATCH_FILLzbRIGHT_HALF_BLACKqTOP_HALF_BLACKoUPPER_LEFT_DIAGONAL_HALF_BLACKtTO_L
   OWER_RIGHT_FILLyRIGHT_DIAGONAL_HALF_BLACKtTO_LOWER_LEFT_FILLzfVERTICAL_FILLsYAADOcRUeUANfD_AST
   ERISKiCJK_UNIFIED_IDEOGRAPH-4E00b9c2Dc8CcA4e518Dd21Dc4Dc72d3CCcF3d408c39d5B6d8F0d91Ac29dB57dDE
   6dF8Ce624Bc53c95d307c55d599cB0d620d708b9dE80dF14e7121d51Fc33d981dA7AdD42e89E3dCA9dD70e904Ad14D
   zLbOOLeDOT_OPERATORmEIGHT_KhFALLING_DIAGONAL_SLASHvIVE_POINT_ONEnOUR_DOT_PUNCTUATIONpKfREEeHCb
   DRcI-RESfVcIDcKATAKANA_DEcKOKOeSAkEYdLATIN_CAPITAL_LETTER_AbBbCbDbEbFbGbHbIbJbKbLbMbNbObPbQbRb
   SbTbUbVbWbXbYbZqSMALL_LETTER_DtOGICAL_ANDdORiSSLESSiMINUSeVcNEWcGcOKbNE_HUNDRED_TWENTY_PuPLUSd
   PVdRISING_DIAGONAL_SLASHvSALTIREgDbECOND_SCREENlVEN_POINT_ONEoHVcIXTY_PgMALL_CIRCLElOScQUAREfS
   cTHREE_DgIMESeWENTY-TWO_POINT_TWOsO_KfUHDcP_WITH_EXCLAMATION_MARKyVODcScWCgT_BLACK_RIGHTWARDS_
   ARROWzIDeS2b3bAcTaADIUMeFF_OF_AESCULAPIUSlHERMESmMPED_ENVELOPEnNDING_PERSONmR_AND_CRESCENTmEQU
   ALSgOF_DAVIDhPERATORiWITH_LEFT_HALF_BLACKpRIGHT_HALF_BLACKwT_OF_GUARDED_AREAmHEADINGhPROTECTED
   _AREAoSELECTED_AREAmTRINGgTEXTkTIONdUE_OF_LIBERTYpEAM_LOCOMOTIVElING_BOWLkNOGRAPHIC_FULL_STOPt
   THOSCOPEjICK_FIGUREa_LEANING_LEFTeRIGHTnWITH_ARMS_RAISEDlDRESSvOCK_CHARTiPWATCHhRAIGHT_RULERgN
   ESSiWBERRYhESS_OUTLINED_WHITE_STARxICTLY_EQUIVALENT_TOsNG_TERMINATORpSbUDIO_MICROPHONEoFFED_FL
   ATBREADoPAdXcUBaSCRIPT_EIGHTeQUALS_SIGNlFIVEdOUReLEFT_PARENTHESISqMINUSfNINEeONEdPLUS_SIGNjRIG
   HT_PARENTHESISrSEVENeIXdTHREEeWOdZEROkET_ABOVE_RIGHTWARDS_ARROWqSUBSETePERSEToOFa_ABOVE_ALMOST
   _EQUAL_TOpEQUALS_SIGNlNOT_EQUAL_TOmTILDE_OPERATORuOR_EQUAL_TOa_WITH_DOT_ABOVEzbWITH_NOT_EQUAL_
   TOuWITH_DOTdMULTIPLICATION_SIGN_BELOWzPLUS_SIGN_BELOWxTITUTEiCCEEDSa_ABOVE_ALMOST_EQUAL_TOpEQU
   ALS_SIGNlNOT_ALMOST_EQUAL_TOpEQUAL_TOmSINGLE-LINE_EQUALS_SIGNlNOT_EQUAL_TOzfBUT_NOT_EQUIVALENT
   _TOvOR_EQUAL_TOfIVALENT_TOqUNDER_RELATIONvMMATION_BOTTOMgTOPdWITH_INTEGRALvNa_BEHIND_CLOUDmWIT
   H_FACEkDANESE_AVAGRAHAiCONSONANT_SIGN_PAMINGKALhNYAKRAeIKUfSANGAN_MAcWAzbDIGIT_EIGHTfFIVEdOURe
   NINEeONEdSEVENeIXdTHREEeWOdZEROkLETTER_AaEcBAbHAdCAcDAcEaUcFAbINAL_KbMhGAcHAcIbJAcKAbHAdLAbEUd
   MAcNAbGAcYAdObPAcQAcRAbEUdSAbYAdTAcUbVAcWAcXAcYAcZAjPUNCTUATION_BINDU_BA_SATANGAkCAKRAfDA_SATA
   NGAkKA_SATANGAkLEU_SATANGAlPANGLONGhURNAMAhSURYAxSIGN_PAMAAEHfNGLAYARfWISADgYECEKiVIRAMAlVOWEL
   _SIGN_PAMEPETfNAELAENGhEULEUNGhGHULUfOLONGfYUKUzFLOWERgRISEa_OVER_MOUNTAINStSET_OVER_BUILDINGS
   tPERHEROeSCRIPT_EIGHTeQUALS_SIGNlFIVEdOUReLATIN_SMALL_LETTER_IbNtEFT_PARENTHESISqMINUSfNINEeON
   EdPLUS_SIGNjRIGHT_PARENTHESISrSEVENeIXdTHREEeWOdZEROkET_ABOVE_LEFTWARDS_ARROWpSUBSETePERSEToBE
   SIDE_AND_JOINED_BY_DASH_WITH_SUBSETzfSUBSETnOFa_ABOVE_ALMOST_EQUAL_TOpEQUALS_SIGNlNOT_EQUAL_TO
   mTILDE_OPERATORuOR_EQUAL_TOa_WITH_DOT_ABOVEzbWITH_NOT_EQUAL_TOuPRECEDING_SOLIDUSrWITH_DOTdMULT
   IPLICATION_SIGN_BELOWzPLUS_SIGN_BELOWyVILLAINkRFACE_INTEGRALmEReSHIcPENSION_RAILWAYrWANbSH_AMP
   ERSAND_ORNAMENTwIMMERfUNG_DASHjYLOTI_NAGRI_LETTER_AbBHOcOcCHOcOcDDHOcOcHOcOcEbGHOcOcHOcIbJHOcO
   cKHOcOcLOcMOcNOcObPHOcOcRObROdSOcTHOcObTHOcOdUiPOETRY_MARK-1b2b3b4nSIGN_ALTERNATE_HASANTAqNUSV
   ARAiDVISVARAiHASANTAmVOWEL_SIGN_AbEbIbOOcUxMBOL_FOR_ACKNOWLEDGElBACKSPACEiELLeCANCELeRRIAGE_RE
   TURNpDATA_LINK_ESCAPEpELETEa_FORM_TWOnVICE_CONTROL_FOUReONEdTHREEeWOsEND_OF_MEDIUMgTEXTdRANSMI
   SSIONa_BLOCKxQUIRYgSCAPEgFILE_SEPARATORnORM_FEEDjGROUP_SEPARATORpHORIZONTAL_TABULATIONvLINE_FE
   EDjMARKS_CHAPTERnNEGATIVE_ACKNOWLEDGEsWLINEgULLeRECORD_SEPARATORqSAMARITAN_SOURCEpHIFT_INcOUTi
   PACEeTART_OF_HEADINGhTEXTmUBSTITUTEa_FORM_TWOsYNCHRONOUS_IDLEqTYPE_A_ELECTRONICSsUNIT_SEPARATO
   RoVERTICAL_TABULATIONzcMETRYgNaAGOGUEgCHRONOUS_IDLEoRIAC_ABBREVIATION_MARKrBARREKHhCOLON_SKEWE
   D_LEFTeRIGHTqNTRACTIONlDOTTED_ZLAMA_ANGULARhHORIZONTALxEND_OF_PARAGRAPHpSASA_ABOVEfBELOWlFEMIN
   INE_DOTmHARKLEAN_ASTERISCUSkMETOBELUSjOBELUSoBASA_ABOVEfBELOWg-ESASA_DOTTEDrORIZONTAL_COLONqLE
   TTER_ALAPHfBETHeDALATHfOTLESS_DALATH_RISHtEbFINAL_SEMKATHnGAMALa_GARSHUNIoHEaTHeKAPHeLAMADHgMA
   LAYALAM_BHAdJAcLLAbLAeNGAcNAbNAdYAdRAcSSAdTTAmIMdNUNdPEaRSIAN_BHETHfDHALATHhGHAMALoQAPHeREVERS
   ED_PEkISHeSADHEeEMKATHgHINdOGDIAN_FEcKHAPHfZHAINmUPERSCRIPT_ALAPHrTAWcETHa_GARSHUNInWAWdYUDHa_
   HEhZAINlMUSICfOBLIQUE_LINE_ABOVEfBELOWsPTHAHA_ABOVEfBELOWfDOTTEDnQUSHSHAYAjRBASA_ABOVEfBELOWkU
   KKAKHAhWAHAfSUBLINEAR_COLONa_SKEWED_LEFTeRIGHTsFULL_STOPrPRALINEAR_COLONa_SKEWED_LEFTrFULL_STO
   PvTHREE_DOTS_ABOVEfBELOWpWO_VERTICAL_DOTS_ABOVEfBELOWxZQAPHA_ABOVEfBELOWfDOTTEDqNGEhT-REXdSHIR
   TgABaLE_TENNIS_PADDLE_AND_BALLzbCOcG_AMPERSANDiPOSTROPHEjSTERISKiCIRCUMFLEX_ACCENTqOLONdMMAbER
   CIAL_ATnDIGIT_EIGHTfFIVEdOUReNINEeONEdSEVENeIXdTHREEeWOdZEROjOLLAR_SIGNlEQUALS_SIGNkXCLAMATION
   _MARKqFULL_STOPjGRAVE_ACCENTkEATER-THAN_SIGNrHYPHEN-MINUSmLATIN_CAPITAL_LETTER_AbBbCbDbEbFbGbH
   bIbJbKbLbMbNbObPbQbRbSbTbUbVbWbXbYbZqSMALL_LETTER_AbBbCbDbEbFbGbHbIbJbKbLbMbNbObPbQbRbSbTbUbVb
   WbXbYbZtEFT_CURLY_BRACKETnPARENTHESISlSQUARE_BRACKETrSS-THAN_SIGNnOW_LINEiNUMBER_SIGNlPERCENT_
   SIGNlLUS_SIGNjQUESTION_MARKlOTATION_MARKoREVERSE_SOLIDUSoIGHT_CURLY_BRACKETnPARENTHESISlSQUARE
   _BRACKETuSEMICOLONiOLIDUSgPACEfTILDEfVERTICAL_LINEoALOG_LETTER_AaRCHAIC_RAkBAcDAcGAcHAcIbKAcLA
   cMAcNAbGAdPAcRAcSAcTAcUbWAcYAjSIGN_PAMUDPODiVIRAMAlVOWEL_SIGN_IbUrBANWA_LETTER_AbBAcDAcGAcIbKA
   cLAcMAcNAbGAdPAcSAcTAcUbWAcYAjVOWEL_SIGN_IbUtI_LE_LETTER_AaIbUEdEaEbHcFAcHAcIbKAbHAdLAcMAcNAbG
   AdOaOcPAbHAdQAcSAcTAbHAcONE-2b3b4b5b6fSAbHAeUaEcVAcXAcYAmTHAM_COMBINING_CRYPTOGRAMMIC_DOTzNSON
   ANT_SIGN_BAcFINAL_NGAjHIGH_RATHA_OR_LOW_PAuLA_TANG_LAIkOW_PAgMAbEDIAL_LAcRAjSArHORA_DIGIT_EIGH
   TfFIVEdOUReNINEeONEdSEVENeIXdTHREEeWOdZEROpLETTER_AbBAcDAcEEcGREAT_SAiHIGH_CAbHAdFAcHAcKAbHAcX
   AdPAbHAdRATHAfSAbHAcSAdTAbHAdYAhIaIcLAaEcLAcOW_CAbHAdFAcHAcKAbHAcXAdPAbHAdRATHAfSAcTAbHAdYAfUE
   dMAcNAbGAcYAdOOcRAaNAcTAdUEdUaUcWAjSIGN_CAANGfDOKMAIgHANGdOYdKAANaKUUgEOWdHUEN_TONE-3b4b5h-LUE
   _KARANpMAI_KANGa_LAIiSAMdYAMOKjRA_HAAMgEVERSED_ROTATED_RANAvSAKOTdTKAANaKUUiWANfTONE-1b2gWIANG
   aWAAKoTHAM_DIGIT_EIGHTfFIVEdOUReNINEeONEdSEVENeIXdTHREEeWOdZEROpVOWEL_SIGN_AaAbEbIcEbIaIcMAI_S
   AThOaA_ABOVEfBELOWhObYcTALL_AAgHAM_AIhUaEbUaEtVIET_LETTER_HIGH_BOcCHOcOcDOcFOcGOcHOcKHHOcOcOcL
   OcMOcNGOcObYOdObPHOcOcROcSOcTHOcOcVOcYOhLOW_BOcCHOcOcDOcFOcGOcHOcKHHOcOcOcLOcMOcNGOcObYOdObPHO
   cOcROcSOcTHOcOcVOcYOnMAI_KANGdHITiSYMBOL_HO_HOIgKOI_KOIfNdNUENGfSAMkTONE_MAI_EKcNUENGfSONGeTHO
   mVOWEL_AAbMbNbUEcYcEbIaAcObUaAbEaAqKEOUT_BOXiRI_ABBREVIATION_SIGNrDIGIT_EIGHTfFIVEdOUReNINEeON
   EdSEVENeIXdTHREEeWOdZEROkLETTER_AaAbIbRCHAIC_KHAkUcBAbHAdCAbHAdDAbDAbHAdHAdEbGAbHAdHAcIaIcJAbH
   AdKAbHAdLAcMAcNAbGAcNAcYAdObPAbHAdRAbRAdSAbHAdTAbHAcTAbHAeUaUcVAcYAjSIGN_ANUSVARAiNUKTAfVIRAMA
   eSARGAmVOWEL_SIGN_AAbIbUcEbIaIcObUaUrLLY_MARK_FIVEeONEmMALEdIL_AND_ODD_SIGNlS_ABOVE_SIGNmU_LEN
   GTH_MARKoCREDIT_SIGNkURRENT_SIGNmDAY_SIGNhEBIT_SIGNjIGIT_EIGHTfFIVEdOUReNINEeONEdSEVENeIXdTHRE
   EeWOdZEROjRY_CULTIVATION_SIGNuFRACTION_DOWNSCALING_FACTOR_KIIZHyONE_EIGHTHbIETHjFIFTHeORTIETHi
   HALF-1b2gONE-HUNDRED-AND-SIXTIETHyQUARTERhSIXTEENTH-1b2hY-FOURTHmTENTHeHIRTY-SECONDlREE-HUNDRE
   D-AND-TWENTIETHzbWENTIETHnTHREE_EIGHTIETHSkQUARTERSiSIXTEENTHSgY-FOURTHSnTWENTIETHSzIN_POSSESS
   ION_SIGNsLAND_SIGNiETTER_AaAbIbUcCAcEaEcHAcIaIcJAcKAcLAbLAbLAeMAcNAbGAcNAbNAdYAdOaOcPAcRAbRAdS
   AbHAcSAdTAbTAdUaUcVAcYAjMONTH_SIGNkNUMBER_ONE_HUNDREDhTHOUSANDmSIGNeTENkOMcPUNCTUATION_END_OF_
   TEXTxRUPEE_SIGNkSALT_PAN_SIGNmIGN_AAZHAAKKUiNUSVARAiCEVITUgKAACUeURUNIeZHIfMUKKURUNIhTHALIYAhU
   VUZHAKKUlNELdPAARAMeNAMdTHAKKUhONdUZHAKKUhVAKAIYARAAiRAAKANhELIdIRAMAeSARGAlPENT_SIGNjTARTING_
   FROM_SIGNsTOTAL_SIGNjRADITIONAL_CREDIT_SIGNlNUMBER_SIGNxVOWEL_SIGN_AAbIbUcEaEcIaIcOaOcUaUnWET_
   CULTIVATION_SIGNuYEAR_SIGNnNABATA_TREEkGERINEfSA_DIGIT_EIGHTfFIVEdOUReNINEeONEdSEVENeIXdTHREEe
   WOdZEROkLETTER_ACbQbWCbQbXbZcXbZcBAcCAbHAdDAbHAdECbQbXbZcFAbINAL_NGiGAbHAdHAbTAbTAeICbQbXbZcKA
   bHAdLAbONG_UEXiMAbCbQbXbZcNAbGAcHAcYAdOCbQbXbZcPAbHAdRAcSAbHAbORT_AWXdUEZjTAbHAcSAdUCbECbQbXbZ
   cICbQbUCbQbXbZcXbZcQbXbZcVCbQbXbZcWAcXAcYAcZAmUT_COMPONENT-001b2b3b4b5b6b7b8b9c10b1b2b3b4b5b6b
   7b8b9c20b1b2b3b4b5b6b7b8b9c30b1b2b3b4b5b6b7b8b9c40b1b2b3b4b5b6b7b8b9c50b1b2b3b4b5b6b7b8b9c60b1
   b2b3b4b5b6b7b8b9c70b1b2b3b4b5b6b7b8b9c80b1b2b3b4b5b6b7b8b9c90b1b2b3b4b5b6b7b8b9d100b1b2b3b4b5b
   6b7b8b9c10b1b2b3b4b5b6b7b8b9c20b1b2b3b4b5b6b7b8b9c30b1b2b3b4b5b6b7b8b9c40b1b2b3b4b5b6b7b8b9c50
   b1b2b3b4b5b6b7b8b9c60b1b2b3b4b5b6b7b8b9c70b1b2b3b4b5b6b7b8b9c80b1b2b3b4b5b6b7b8b9c90b1b2b3b4b5
   b6b7b8b9d200b1b2b3b4b5b6b7b8b9c10b1b2b3b4b5b6b7b8b9c20b1b2b3b4b5b6b7b8b9c30b1b2b3b4b5b6b7b8b9c
   40b1b2b3b4b5b6b7b8b9c50b1b2b3b4b5b6b7b8b9c60b1b2b3b4b5b6b7b8b9c70b1b2b3b4b5b6b7b8b9c80b1b2b3b4
   b5b6b7b8b9c90b1b2b3b4b5b6b7b8b9d300b1b2b3b4b5b6b7b8b9c10b1b2b3b4b5b6b7b8b9c20b1b2b3b4b5b6b7b8b
   9c30b1b2b3b4b5b6b7b8b9c40b1b2b3b4b5b6b7b8b9c50b1b2b3b4b5b6b7b8b9c60b1b2b3b4b5b6b7b8b9c70b1b2b3
   b4b5b6b7b8b9c80b1b2b3b4b5b6b7b8b9c90b1b2b3b4b5b6b7b8b9d400b1b2b3b4b5b6b7b8b9c10b1b2b3b4b5b6b7b
   8b9c20b1b2b3b4b5b6b7b8b9c30b1b2b3b4b5b6b7b8b9c40b1b2b3b4b5b6b7b8b9c50b1b2b3b4b5b6b7b8b9c60b1b2
   b3b4b5b6b7b8b9c70b1b2b3b4b5b6b7b8b9c80b1b2b3b4b5b6b7b8b9c90b1b2b3b4b5b6b7b8b9d500b1b2b3b4b5b6b
   7b8b9c10b1b2b3b4b5b6b7b8b9c20b1b2b3b4b5b6b7b8b9c30b1b2b3b4b5b6b7b8b9c40b1b2b3b4b5b6b7b8b9c50b1
   b2b3b4b5b6b7b8b9c60b1b2b3b4b5b6b7b8b9c70b1b2b3b4b5b6b7b8b9c80b1b2b3b4b5b6b7b8b9c90b1b2b3b4b5b6
   b7b8b9d600b1b2b3b4b5b6b7b8b9c10b1b2b3b4b5b6b7b8b9c20b1b2b3b4b5b6b7b8b9c30b1b2b3b4b5b6b7b8b9c40
   b1b2b3b4b5b6b7b8b9c50b1b2b3b4b5b6b7b8b9c60b1b2b3b4b5b6b7b8b9c70b1b2b3b4b5b6b7b8b9c80b1b2b3b4b5
   b6b7b8b9c90b1b2b3b4b5b6b7b8b9d700b1b2b3b4b5b6b7b8b9c10b1b2b3b4b5b6b7b8b9c20b1b2b3b4b5b6b7b8b9c
   30b1b2b3b4b5b6b7b8b9c40b1b2b3b4b5b6b7b8b9c50b1b2b3b4b5b6b7b8b9c60b1b2b3b4b5b6b7b8nITERATION_MA
   RKtPE_CARTRIDGEjDRIVEiURUSeXIdEACUP_WITHOUT_HANDLEsPOTdR-OFF_CALENDARnDROP-BARBED_RIGHTWARDS_A
   RROWxSPOKED_ASTERISKwDDY_BEARiLEPHONE_LOCATION_SIGNnON_TOP_OF_MODEMpRECEIVERa_WITH_PAGEpORDERi
   SIGNkSCOPEfVISIONhUGU_AI_LENGTH_MARKoDIGIT_EIGHTfFIVEdOUReNINEeONEdSEVENeIXdTHREEeWOdZEROkFRAC
   TION_DIGIT_ONE_FOR_EVEN_POWERS_OF_FOURtODD_POWERS_OF_FOURzbTHREE_FOR_EVEN_POWERS_OF_FOURtODD_P
   OWERS_OF_FOURzcWO_FOR_EVEN_POWERS_OF_FOURtODD_POWERS_OF_FOURzbZERO_FOR_ODD_POWERS_OF_FOURzrLEN
   GTH_MARKjTTER_AaAbIbUcBAbHAdCAbHAdDAbDAbHAdHAcZAdEaEcGAbHAdHAcIaIcJAbHAdKAbHAdLAbLAbLAeMAcNAaK
   AARA_POLLUmGAcNAcYAdOaOcPAbHAdRAbRAbRAeSAbHAcSAdTAbHAcSAcTAbHAeUaUcVAbOCALIC_LaLcRaRkYAjSIGN_A
   NUSVARAhVAGRAHAiCANDRABINDUkOMBINING_ANUSVARA_ABOVEoCANDRABINDU_ABOVEzcNUKTAfSIDDHAMhTUUMUfVIR
   AMAeSARGAmVOWEL_SIGN_AAbIbUcEaEcIaIcOaOcUaUcVOCALIC_LaLcRaRzbNGE_SIGNhNIS_RACQUET_AND_BALLuTcS
   T_TUBEhTRAGRAM_FOR_ACCUMULATIONlDVANCEgGGRAVATIONkSCENTgBARRIERgOLD_RESOLUTIONoRANCHING_OUTnCE
   NTREfHANGEfLOSED_MOUTHhNESSfUREgOMPLETIONfIANCEiNSTANCYgTACTdENTIONgRARIETYlDARKENINGiECISIVEN
   ESSkFECTIVENESS_OR_DISTORTIONzPARTUREiIFFICULTIESkMINISHMENTjMINGfVERGENCEjOUBTeUTIESgEASEdMBE
   LLISHMENTmNCOUNTERSiDEAVOURhLARGEMENTkTERNITYhXHAUSTIONkFAILUREgLIGHTfOLLOWINGhSTERINGiULL_CIR
   CLEhNESSiGATHERINGa_INlOING_TO_MEETmREATNESSiUARDEDNESSlHARDNESShOLDING_BACKmINCREASEgNERfJOYd
   KEEPING_SMALLmINSHIPhLABOURINGhW_OR_MODELlEGIONgMASSINGgEASUREgIREDfON_THE_VERGElPPOSITIONkPAC
   KINGfTTERNgENETRATIONkURITYgREACHdLEASEfSIDENCEfSTANCEhPONSEhITUALgSEVERANCEiINKINGgTOPPAGEfVE
   dRENGTHiUNITYfVASTNESS_OR_WASTINGtWAITINGfTCHfYOUTHFULNESSzHAANA_AABAAFILIiBAFILIhEBEFILIgEBEE
   FILIiYBEYFILIjIBIFILIhLETTER_AINUdLIFUfBAAdCHAVIYANIjDAADHUeVIYANIhHAALUgFAAFUfGAAFUeHAINUfNAV
   IYANIjHAAcHAAeJAVIYANIiKAAFUeHAAeLAAMUeHAVIYANIjMEEMUfNAAcOONUfPAVIYANIiQAAFUfRAAdSAADHUfEENUe
   HAVIYANIhEENUgTAVIYANIhHAAaLUfObTAAeVAAVUfWAAVUfYAAdZAAbVIYANIhOjOABOAFILIiBOFILIgOBOOFILIjSUK
   UNfUBUFILIlI_CHARACTER_ANGKHANKHUkBO_BAIMAIjCHO_CHANaGdINGdOEiDO_CHADAfDEKgFO_FAaNeNGMANhHO_HI
   PdNOKHUKjKHO_KHAIcONcUATdWAIfRAKHANGiMUTfO_KAIgLAKKHANGYAOkO_CHULAfLINGgUcMAI_CHATTAWAiEKcHAN-
   AKATiTHOcRIeTAIKHUgYAMOKhO_MAfNGO_NGUgIKHAHIThO_NENcUfO_ANGfPAIYANNOIiHINTHUfO_PHANcUNGfSAMPHA
   OkO_PLAgRO_RUAfUcSARA_AaAbEbI_MAIMALAIeUANjMcEbIaIcObUaEaEcUgO_RUSIeSALAdObUAgTHANTHAKHATjO_NA
   NGMONTHOkPHUTHAOhTHAHANdNcONGdUNGiO_PATAKfTAOgWO_WAENhYAMAKKANhO_YAKcINGqURRENCY_SYMBOL_BAHTuD
   IGIT_EIGHTfFIVEdOUReNINEeONEdSEVENeIXdTHREEeWOdZEROnERE_DOES_NOT_EXISToEXISTShFOREfMODYNAMIChM
   ETERjIN_GREEK_CROSSlSALTIREgPACEgKING_FACEkRD_PLACE_MEDALpONG_SANDALjUGHT_BALLOONnREE_BUTTON_M
   OUSEmCONSECUTIVE_EQUALS_SIGNSyDIMENSIONAL_ANGLEqOT_PUNCTUATIONpLEFTWARDS_ARROWSpINES_CONVERGIN
   G_LEFTeRIGHTwNETWORKED_COMPUTERStPOINTED_BLACK_STARsRAYS_ABOVEfBELOWfLEFTeRIGHTjIGHTWARDS_ARRO
   WSrSPEECH_BUBBLESp-D_BOTTOM-LIGHTED_RIGHTWARDS_ARROWHEADzkLEFT-LIGHTED_DOWNWARDS_EQUILATERAL_A
   RROWHEADztRIGHT-LIGHTED_UPWARDS_EQUILATERAL_ARROWHEADzsTOP-LIGHTED_LEFTWARDS_EQUILATERAL_ARROW
   HEADzgRIGHTWARDS_ARROWHEADjEQUILATERAL_ARROWHEADzvEM_DASHhPER-EM_SPACEqUMBS_DOWN_SIGNjUP_SIGNl
   NDER_CLOUD_AND_RAINpSTORMlIBETAN_ASTROLOGICAL_SIGN_-KHYUD_PAjSDONG_TSHUGSlGRA_GCAN_-CHAR_RTAGS
   zoCANTILLATION_SIGN_CANG_TE-UjHEAVY_BEATkLIGHT_BEATkSBUB_-CHALzdDIGIT_EIGHTfFIVEdOUReHALF_EIGH
   TfFIVEdOUReNINEeONEdSEVENeIXdTHREEeWOdZEROjNINEeONEdSEVENeIXdTHREEeWOdZEROkKU_RU_KHAa_BZHI_MIG
   _CANwLETTER_-AcAbBAbHAdCAbHAdDAbDAbHAdHAcZAbHAeFIXED-FORM_RAnGAbHAdHAcJAcKAbHAcKAcSSAeLAcMAcNA
   bGAcNAcYAdPAbHAdRAbRAdSAbHAcSAdTAbHAcSAbHAdTAbHAeWAcYAcZAbHAjOGOTYPE_SIGN_CHAD_RTAGSkLHAG_RTAG
   SyMARK_ANG_KHANG_GYAScONoBKA-_SHOG_GI_MGO_RGYANmYIG_MGOqSDUS_RTAGSjKA-_SHOG_GI_MGO_RGYANuUR_YI
   G_MGOnCARET_-DZUD_RTAGS_BZHI_MIG_CANmME_LONG_CANxYIG_MGO_PHUR_SHAD_MAzHE_MGOgLOSING_BRDA_RNYIN
   G_YIG_MGO_SGAB_MAzcYIG_MGO_SGAB_MAxDELIMITER_TSHEG_BSTARvGTER_TSHEGfYIG_MGO_-UM_GTER_TSHEG_MAn
   RNAM_BCAD_MAqTRUNCATED_AxUG_RTAGS_GYAScONoHALANTAhINITIAL_BRDA_RNYING_YIG_MGO_MDUN_MAzcYIG_MGO
   _MDUN_MAvTERSYLLABIC_TSHEGtLEADING_MCHAN_RTAGStMNYAM_YIG_GI_MGO_RGYANwNGAS_BZUNG_NYI_ZLAhSGOR_
   RTAGSuYIS_SHADeTSHEGa_SHADpPALUTAgRGYA_GRAM_SHADnIN_CHEN_SPUNGS_SHADuSBRUL_SHADjHADeTRAILING_M
   CHAN_RTAGStSA_-PHRUhHEG_SHADkYIG_MGO_TSHEG_SHAD_MAzbSIGN_GRU_CAN_RGYINGSlMED_RGYINGSpINVERTED_
   MCHU_CANrLCE_TSA_CANjI_RTAGSjMAR_TSHESiCHU_CANiNYI_ZLA_NAA_DAoRDEL_DKAR_GCIGdNYISeSUMeRDEL_NAG
   nNAG_GCIGdNYISeSUMeRDEL_DKARrJES_SU_NGA_ROnNAM_BCADjSNA_LDANiYANG_RTAGSiR_TSHESnUBJOINED_LETTE
   R_-AcAbBAbHAdCAbHAdDAbDAbHAdHAcZAbHAeFIXED-FORM_RAcWAcYAnGAbHAdHAcJAcKAbHAcSSAeLAcMAcNAbGAcNAc
   YAdPAbHAdRAcSAbHAcSAdTAbHAcSAbHAdTAbHAeWAcYAcZAbHAkSIGN_INVERTED_MCHU_CANrLCE_TSA_CANlMCHU_CAN
   wYLLABLE_OMjMBOL_DRIL_BUhNOR_BUa_BZHI_-KHYILlGSUM_-KHYILlNYIS_-KHYILsPADMA_GDANjHUR_PAhRDO_RJE
   a_RGYA_GRAMyVOWEL_SIGN_AAcEaEcIaIcOaOcREVERSED_IaIlUaUcVOCALIC_LaLcRaRzcCKETeE_OVER_INFINITYpF
   INAGH_CONSONANT_JOINERqLETTER_AHAGGAR_YAZHlYER_YAGHjBERBER_ACADEMY_YAHbJsTAWELLEMET_YAZnUAREG_
   YAGHbNcHbKaHcNGcQbZHlYAaAbBaHcCHcDaDaHcHcFbGaHaHdHaHcJbKaHaHdLbMbNbPbQbRaRcSaHbScTaHbTcVbWbYbZ
   aHbZdEaYcIbObUjMODIFIER_LETTER_LABIALIZATION_MARKzjSEPARATOR_MARKvGERa_FACEhHT_TRIFOLIATE_SNOW
   FLAKEyLDEa_OPERATORa_ABOVE_LEFTWARDS_ARROWpRIGHTWARDS_ARROWwWITH_DOT_ABOVEjRISING_DOTSzWITH_DO
   T_ABOVEfBELOWjRING_ABOVEtMER_CLOCKhS_WITH_LEFT_HALF_BLACKpRIGHT_HALF_BLACKzNYa_TWO_DOTS_OVER_O
   NE_DOT_PUNCTUATIONzlRED_FACEhHUTA_ABBREVIATION_SIGNqNJIeDIGIT_EIGHTfFIVEdOUReNINEeONEdSEVENeIX
   dTHREEeWOdZEROkGVANGfLETTER_AaAbIbUcBAbHAdCAbHAdDAbDAbHAdHAdEbGAbHAdHAcIaIcJAbHAdKAbHAdLAcMAcN
   AbGAcNAcYAdObPAbHAdRAcSAbHAcSAdTAbHAcTAbHAeUaUcVAbOCALIC_LaLcRaRkYAjOMcSIGN_ANUSVARAhVAGRAHAiC
   ANDRABINDUlNUKTAfVIRAMAeSARGAmVOWEL_SIGN_AAbIbUcEbIaIcObSHORT_EbOhUaUcVOCALIC_LaLcRaRzbONIAN_S
   IGN_CAPITAL_ETkETpOILETeKYO_TOWERjMATOeNGUEeOLBOXeTHaBRUSHiP_ARC_ANTICLOCKWISE_ARROWa_WITH_PLU
   SzeCLOCKWISE_ARROW_WITH_MINUSzfCURLY_BRACKETnHALF_BLACK_CIRCLEmINTEGRALiLEFT_PARENTHESISqRIGHT
   _PARENTHESISrSECTION_SIGNpTdLEFT_CORNERfROPeHALF_BRACKETrPARENTHESISlRIGHT_CORNERfROPeHALF_BRA
   CKETsSQUARE_BRACKEToTORTOISE_SHELL_BRACKETwWITH_UPWARDS_ARROW_ABOVEzbRTOISE_SHELL_BRACKETED_CJ
   K_UNIFIED_IDEOGRAPH-4E09c8Ce52DDdB89e6253d557d72Ce70B9d6D7zbLATIN_CAPITAL_LETTER_SzuTAL_RUNOUT
   jO_LETTER_AaEcBAbREATHY_AEcEaOcIaUkCHAdDAcEaOcGAcHAcIaUcJAcKAcLAcMAcNAbGAdObPAcRAcSAcTAcUbWAcY
   AjSIGN_RISING_TONEuRACKBALLfTOReDE_MARK_SIGNmINcMa_CARfNSPLUTOfVERSAL_INTERSECTIONwIANGLE_WITH
   _DOT_ABOVEjROUNDED_CORNERSpSERIFS_AT_BOTTOMqUNDERBARo-HEADED_RIGHTWARDS_ARROWzbULAR_BULLETgFLA
   G_ON_POSTmRULERnCOLONfDENT_EMBLEMlGRAM_FOR_EARTHfFIREeHEAVENgLAKEeMOUNTAINiTHUNDERhWATEReINDnP
   LE_COLON_OPERATORoDAGGERgHORIZONTAL_BAR_WITH_DOUBLE_VERTICAL_STROKEwTRIPLE_VERTICAL_STROKEzrIN
   TEGRALiNESTED_GREATER-THANmLESS-THANqPLUSdRIMEfSOLIDUS_BINARY_RELATIONxTILDEfVERTICAL_BAR_BINA
   RY_RELATIONpDELIMITERjRIGHT_TURNSTILEpWITH_HORIZONTAL_STROKEzpOLLaEYBUShPHYcICAL_DRINKfFISHlUE
   a_LIGHT_MOON_ARTArMPETgUGRIK_SIGNjLIPdMBLER_GLASSlRKEYcISH_LIRA_SIGNoNED_AMPERSANDiNGLEfBLACK_
   PENTAGONiSHOGI_PIECErCAPITAL_FiOMMAfDAGGERfIGIT_THREEeWOjGREEK_SMALL_LETTER_IOTAxNORTH_EAST_PO
   INTING_LEAFsWEST_POINTING_LEAFwT_SIGNiOK_HAND_SIGNmSANS-SERIF_CAPITAL_GbLbYtEMICOLONiMALL_FgOU
   TH_EAST_POINTING_LEAFsWEST_POINTING_LEAFyWHITE_SHOGI_PIECEvTLEfWELVE_POINTED_BLACK_STARxISTED_
   RIGHTWARDS_ARROWSxO_ASTERISKS_ALIGNED_VERTICALLYzdBUTTON_MOUSEmCONSECUTIVE_EQUALS_SIGNSyDOT_LE
   ADERgPUNCTUATIONmS_OVER_ONE_DOT_PUNCTUATIONzeHEARTSgINTERSECTING_LOGICAL_ANDdORxJOINED_SQUARES
   oLOGICAL_AND_OPERATORmOR_OPERATORtMEN_HOLDING_HANDSrSPEECH_BUBBLESoWOMEN_HOLDING_HANDSu-EM_DAS
   HlUGARITIC_LETTER_AINcLPAeBETAeDELTAeHALeGAMLAeHAINfHOaTAeIbKAFcHAdLAMDAfMEMdNUNdPUcQOPAeRASHA
   fSADEcMKAeHINdSUdTETcHANNAfOcUbWOcYODdZETAdUjWORD_DIVIDERuMBRELLAa_ON_GROUNDjWITH_RAIN_DROPSxN
   AMUSED_FACElCERTAINTY_SIGNoDERTIEfO_SYMBOLjICORN_FACEjONa_ABOVE_BAR_ABOVE_INTERSECTIONwINTERSE
   CTIONsBESIDE_AND_JOINED_WITH_UNIONzdWITH_LOGICAL_ORkMINUS_SIGNkOVERBARpT_SEPARATORkED_SYMBOLkV
   ERSAL_RECYCLING_SYMBOLyMARRIED_PARTNERSHIP_SYMBOLzcP_ARROW_THROUGH_CIRCLEpHEADa_BETWEEN_TWO_HO
   RIZONTAL_BARSzcIN_A_RECTANGLE_BOXzdBARB_LEFT_DOWN_BARB_LEFT_HARPOONmRIGHT_HARPOONzdRIGHT_DOWN_
   BARB_LEFT_HARPOONmRIGHT_HARPOONzjDOWN_ARROWa_WITH_BASEpBLACK_ARROWlDOUBLE_ARROWmSANS-SERIF_ARR
   OWqTRIANGLE-HEADED_ARROWvWHITE_ARROWqFISH_TAILjRIGHT_DIAGONAL_ELLIPSISxTACKa_WITH_CIRCLE_ABOVE
   x-POINTING_AIRPLANEiMILITARY_AIRPLANErRED_TRIANGLEmSMALL_AIRPLANEiRED_TRIANGLEsTRIANGLE_WITH_L
   EFT_HALF_BLACKpRIGHT_HALF_BLACKzpPER_AND_LEFT_AND_LOWER_TRIANGULAR_THREE_QUARTERS_BLOCKzuOWER_
   ONE_EIGHTH_BLOCKqTRIANGULAR_HALF_BLOCKzcRIGHT_AND_LOWER_TRIANGULAR_THREE_QUARTERS_BLOCKzzbBLAD
   E_SCISSORSoFIVE_EIGHTHS_BLOCKsHALF_BLOCKa_AND_LOWER_HALF_INVERSE_MEDIUM_SHADEzqCIRCLEgINVERSE_
   MEDIUM_SHADE_AND_LOWER_HALF_BLOCKziWHITE_CIRCLEuMEDIUM_SHADErLEFT_BLOCK_DIAGONAL_LOWER_CENTRE_
   TO_LOWER_MIDDLE_RIGHTsUPPER_MIDDLE_RIGHTmRIGHTvLEFT_TO_LOWER_MIDDLE_RIGHTsUPPER_CENTREgMIDDLE_
   RIGHTzbMIDDLE_LEFT_TO_UPPER_CENTREgMIDDLE_RIGHTmRIGHTzhUPPER_MIDDLE_LEFT_TO_UPPER_CENTREgRIGHT
   zwCORNER_WITH_DOTpOR_LOWER_RIGHT_CURLY_BRACKET_SECTIONzlQUADRANT_CIRCULAR_ARCvTO_LOWER_RIGHT_F
   ILLsRIANGLEcULAR_MEDIUM_SHADEzdONE_EIGHTH_BLOCKmQUARTER_BLOCKrRIGHT_BLOCK_DIAGONAL_LOWER_MIDDL
   E_LEFT_TO_LOWER_CENTREgRIGHTzhUPPER_CENTRE_TO_LOWER_MIDDLE_RIGHTmRIGHTlUPPER_MIDDLE_RIGHTzdLEF
   T_TO_LOWER_CENTREgMIDDLE_RIGHTsUPPER_MIDDLE_RIGHTzbMIDDLE_LEFT_TO_LOWER_CENTREgMIDDLE_RIGHTmRI
   GHTzwDROP-SHADOWED_WHITE_SQUAREzbOR_LOWER_LEFT_CURLY_BRACKET_SECTIONzkPENCILgQUADRANT_CIRCULAR
   _ARCvSHADOWED_WHITE_CIRCLEgSQUAREvTO_LOWER_LEFT_FILLrRIANGLEcULAR_MEDIUM_SHADEzeSEVEN_EIGHTHS_
   BLOCKtTHREE_EIGHTHS_BLOCKnQUARTERS_BLOCKtRIANGULAR_ONE_QUARTER_BLOCKzhSIDE-DOWN_FACEoWARDS_ANC
   ORAfRROWa_AND_RIGHT_ONE_EIGHTH_BLOCKzbFROM_BARiLEFTWARDS_OF_DOWNWARDS_ARROWzdTO_BARgWITH_DOUBL
   E_STROKEnEQUILATERAL_ARROWHEADvHORIZONTAL_STROKErLARGE_TRIANGLE_ARROWHEADyMEDIUM_TRIANGLE_ARRO
   WHEADzNOTCHED_TAILmSMALL_EQUILATERAL_ARROWHEADvTRIANGLE_ARROWHEADyTIP_LEFTWARDSjRIGHTWARDSzBLA
   CK_ARROWfCIRCLED_WHITE_ARROWzCOMPRESSED_ARROWqDASHED_ARROWlOUBLE_ARROWmFINGER-POST_ARROWrHARPO
   ON_WITH_BARB_LEFT_BESIDE_DOWNWARDS_HARPOON_WITH_BARB_RIGHTziUPWARDS_HARPOON_WITH_BARB_RIGHTznF
   ROM_BARiTO_BARhWARDSjRIGHT_FROM_BARiTO_BARhWARDSzcEAVY_ARROWfCOMPRESSED_ARROWwPAIRED_ARROWSnQU
   ADRUPLE_ARROWpROCKETgSANS-SERIF_ARROWpQUARED_ARROWnTRIANGLE_ARROWHEADk-HEADED_ARROWa_LEFTWARDS
   _OF_DOWNWARDS_TRIANGLE-HEADED_ARROWztTO_BARgWITH_BOLD_SHAFTkDOUBLE_HORIZONTAL_STROKEyHEAVY_SHA
   FTlLONG_TIP_LEFTWARDSjRIGHTWARDStMEDIUM_SHAFTmNARROW_SHAFTmVERY_HEAVY_SHAFTzcDASHED_ARROWmPAIR
   ED_ARROWSzbPLE_ARROWlWO_HEADED_ARROWn-HEADED_ARROW_FROM_SMALL_CIRCLErWITH_TRIANGLE_ARROWHEADSz
   qWHITE_ARROWa_FROM_BARa_WITH_HORIZONTAL_BARzdON_PEDESTALa_WITH_HORIZONTAL_BARoVERTICAL_BARzeWI
   THIN_TRIANGLE_ARROWHEADzgDOUBLE_ARROWa_ON_PEDESTALzmRANUSfScVAI_COMMAfDIGIT_EIGHTfFIVEdOUReNIN
   EeONEdSEVENeIXdTHREEeWOdZEROkFULL_STOPjQUESTION_MARKnSYLLABLE_AaNcBAbEaEcHAbEaEcIbOaOcUcIbOaOc
   UcCAbEaEcIbOaOcUcDAbEaEcHAbEaEcHAbEaEcIbOaOcUcIbOaOcUcIbOaOcUcEaEaNcNcFAbEaEcIbOaOcUcGAbBAbEaE
   bNcIbOaNbOcUcEaEbNcIbOaOcUcHAaNcEaEbNcIaNcOaNbOcUaNdIaNcJAbEaEcIbOaOcUcKAaNcEaEcIbOaOcPAaNcEaE
   bNcIbOaOcUcUcLAbEaEbNGTHENERjIbOaOcUcMAbBAbEaEcIbOaOcUcEaEcGBAbEaEcIbOaOcUdIbOaOcUcNAbDAbEaEcI
   bOaLE_DOcFAcKAcMAcSOOgOcUcEaEcGaANcENcGAbEaEbNcIbOaOcUcONdIbJAbEaEcIbOaOcUcOaOcUbYAbEaEcIbOaOc
   UdOaNbOaNdPAbEaEcIbOaOcUcRAbEaEcIbOaOcUcSAbEaEcHAbEaEcIbOaOcUcIbOaOcUcTAbEaEcHAbEaEcIbOaOcUcIb
   OaOcUcUaNcVAbEaEcIbOaOcUcWAaNcEaEaNcNcIaNcOaNbOaNdUaNdYAbEaEcIbOaOcUcZAbEaEcHAbEaEcIbOaOcUcIbO
   aOcUjMBOL_BANGeDANGdO-OcONGfFAAcEENGfJONGeKEENGeUNGeNIIdTAAcINGdONGnMPIREfRIATION_SELECTOR-1a0
   a0b1b2b3b4b5b6b7b8b9c1a0b1b2b3b4b5b6b7b8b9c2a0b1b2b3b4b5b6b7b8b9c3a0b1b2b3b4b5b6b7b8b9c4a0b1b2
   b3b4b5b6b7b8b9c5a0b1b2b3b4b5b6b7b8b9c6a0b1b2b3b4b5b6b7b8b9c7a0b1b2b3b4b5b6b7b8b9c8a0b1b2b3b4b5
   b6b7b8b9c9a0b1b2b3b4b5b6b7b8b9d2a0a0b1b2b3b4b5b6b7b8b9c1a0b1b2b3b4b5b6b7b8b9c2a0b1b2b3b4b5b6b7
   b8b9c3a0b1b2b3b4b5b6b7b8b9c4a0b1b2b3b4b5b6b7b8b9c5a0b1b2b3b4b5b6c6b7b8b9c3a0b1b2b3b4b5b6b7b8b9
   c4a0b1b2b3b4b5b6b7b8b9c5a0b1b2b3b4b5b6b7b8b9c6a0b1b2b3b4b5b6b7b8b9c7a0b1b2b3b4b5b6b7b8b9c8a0b1
   b2b3b4b5b6b7b8b9c9a0b1b2b3b4b5b6b7b8b9uECTOR_OR_CROSS_PRODUCTvDIC_SIGN_ANUSVARA_ANTARGOMUKHAmB
   AHIRGOMUKHAmUBHAYATO_MUKHAoVAMAGOMUKHAa_WITH_TAILzeRDHAVISARGAlTIKRAMAiDOUBLE_ANUSVARA_ANTARGO
   MUKHAzdHEXIFORM_LONG_ANUSVARAwJIHVAMULIYAlLONG_ANUSVARAnNIHSHVASAjREVERSED_VISARGA_ANUDATTAiUD
   ATTAwOTATED_ARDHAVISARGAtTHANG_LONG_ANUSVARAuTIRYAKgUPADHMANIYAlVISARGA_ANUDATTAa_WITH_TAILsSV
   ARITAhUDATTAa_WITH_TAILyYAJURVEDIC_MIDLINE_SVARITAzgTONE_ATHARVAVEDIC_INDEPENDENT_SVARITAzhCAN
   DRA_ABOVEfBELOWmDOT_BELOWhUBLE_RING_ABOVEkSVARITAoKARSHANAgTHAKA_ANUDATTAqPRENKHAhRIGVEDIC_KAS
   HMIRI_INDEPENDENT_SVARITAzkNG_ABOVEkSHARAfTHREE_DOTS_BELOWpRIPLE_SVARITAnWO_DOTS_BELOWoYAJURVE
   DIC_AGGRAVATED_INDEPENDENT_SVARITAzfINDEPENDENT_SVARITAtKATHAKA_INDEPENDENT_SVARITAa_SCHROEDER
   zzhRSICLEfTICAL_BAR_BESIDE_RIGHT_TRIANGLEvDOUBLE_LEFT_TURNSTILEvTRIPLE_RIGHT_TURNSTILEwWITH_HO
   RIZONTAL_STROKEzbELLIPSISiFOUR_DOTSjIDEOGRAPHIC_ITERATION_MARKzbKANA_REPEAT_MARKa_LOWER_HALFkU
   PPER_HALFpWITH_VOICED_SOUND_MARKa_UPPER_HALFzuLINEa_EXTENSIONjWITH_CIRCLE_ABOVEfBELOWmMIDDLE_D
   OTuMALE_WITH_STROKE_SIGNvONE_EIGHTH_BLOCK-2b3b4b5b6b7sSIX_DOTSiTAB_KEYeULATIONa_SETnILDEeRAFFI
   C_LIGHTnZIGZAG_LINErY_BOLD_GREEK_CROSSqHEAVY_EIGHT_POINTED_BLACK_STARsSPOKED_ASTERISKvFIVE_SPO
   KED_ASTERISKuGREEK_CROSSlREVERSE_SOLIDUSpSALTIREgIX_SPOKED_ASTERISKsOLIDUShWHITE_CIRCLEgSQUARE
   sMUCH_GREATER-THANmLESS-THANrSTAeIBRATION_MODEmCTORY_HANDkDEO_CAMERAgGAMEfCASSETTElETNAMESE_AL
   TERNATE_READING_MARK_CAcNHAYzkWDATA_SQUAREnOLINeRGOdTHKUQI_CAPITAL_LETTER_AbBBEcEcCEbHEdDEbHEd
   EaIcFEcGAcHAbHAdIaJEdJEcKAcLAbLAdMEcNEbJEdObPEcQAcREcSEbHEdTEbHEdUbVEcXEcYbZErSMALL_LETTER_AbB
   BEcEcCEbHEdDEbHEdEaIcFEcGAcHAbHAdIaJEdJEcKAcLAbLAdMEcNEbJEdObPEcQAcREcSEbHEdTEbHEdUbVEcXEcYbZE
   xOIDED_GREEK_CROSSqLCANOeLEYBALLhUME_INTEGRALoS1a0a0b1b2b3b4b5b6b7b8b9c1a0b1b2b3b4b5b6b7b8b9c2
   a0b1b2b3b4b5b6b7b8b9c3a0b1b2b3b4b5b6b7b8b9c4a0b1b2b3b4b5b6b7b8b9c5a0b1b2b3b4b5b6b7b8b9c6a0b1b2
   b3b4b5b6b7b8b9c7a0b1b2b3b4b5b6b7b8b9c8a0b1b2b3b4b5b6b7b8b9c9a0b1b2b3b4b5b6b7b8b9d2a0a0b1b2b3b4
   b5b6b7b8b9c1a0b1b2b3b4b5b6b7b8b9c2a0b1b2b3b4b5b6b7b8b9c3a0b1b2b3b4b5b6b7b8b9c4a0b1b2b3b4b5b6b7
   b8b9c5a0b1b2b3b4b5b6c6b7b8b9c3a0b1b2b3b4b5b6b7b8b9c4a0b1b2b3b4b5b6b7b8b9c5a0b1b2b3b4b5b6b7b8b9
   c6a0b1b2b3b4b5b6b7b8b9c7a0b1b2b3b4b5b6b7b8b9c8a0b1b2b3b4b5b6b7b8b9c9a0b1b2b3b4b5b6b7b8b9dTaScU
   LCANUSfGAR_FRACTION_FIVE_EIGHTHShSIXTHSkOUR_FIFTHSlONE_EIGHTHgFIFTHfHALFeNINTHfQUARTERhSEVENTH
   gIXTHfTENTHeHIRDjSEVEN_EIGHTHSnTHREE_EIGHTHShFIFTHSgQUARTERSnWO_FIFTHSgTHIRDSkZERO_THIRDSzcWAF
   FLEeNCHO_DIGIT_EIGHTfFIVEdOUReNINEeONEdSEVENeIXdTHREEeWOdZEROkLETTER_AaAaNaGdNGcUcBAcCAcDAcEaN
   cFAcGAcHAcIaNGdJAcKAbHAdLAbLHAeMAcNAbGAcYAdOaNaGdPAbHAdRAcSAbHAdTAbHAcRAcSAdUaENdVAcWAcYAbIHdZ
   AjNGUN_SIGNjTONE_KOIaNIfTUPaNIoING_CRESCENT_MOON_SYMBOLuGIBBOUS_MOON_SYMBOLyRANG_CITI_CAPITAL_
   LETTER_AaMbNGcTcBUcDAcEaNNbYdGAcHARcIYOdOLOcRReIIcKOcNGAAdUNGeOaDDdPUcSIIcSUUeTTEdUCbUcVIYOeWI
   cYAbObUaJsDIGIT_EIGHTfFIVEdOUReNINEeONEdSEVENeIXdTHREEeWOdZEROkNUMBER_EIGHTYgFIFTYeORTYfNINETY
   gSEVENTYgIXTYfTENcHIRTYfWENTYnOMcSMALL_LETTER_AaMbNGcTcBUcDAcEaNNbYdGAcHARcIYOdOLOcRReIIcKOcNG
   AAdUNGeOaDDdPUcSIIcSUUeTTEdUCbUcVIYOeWIcYAbObUaJzNING_SIGNkSTEBASKETjTCHcER_BUFFALOhCLOSETgPOL
   OeWAVEfMELONiVE_ARROW_POINTING_DIRECTLY_LEFTeRIGHTzeDASHgING_BLACK_FLAGkHAND_SIGNjWHITE_FLAGoY
   _DASHeLINEdOW_LINEiOVERLINElXING_CRESCENT_MOON_SYMBOLuGIBBOUS_MOON_SYMBOLzEARY_CAT_FACEiFACEiD
   DINGeGE-TAILED_RIGHTWARDS_ARROWzcIERSTRASS_ELLIPTIC_FUNCTIONzbGHT_LIFTERlST_SYRIAC_CROSSqHALEd
   EELa_OF_DHARMAkCHAIR_SYMBOLpITE_ARROW_SHAFT_WIDTH_ONEdTWO_THIRDSzdBULLETgCHESS_BISHOPa_ROTATED
   _NINETY_DEGREESoTWO_HUNDRED_SEVENTY_DEGREESzrEQUIHOPPERa_ROTATED_NINETY_DEGREESziKINGa_ROTATED
   _NINETY_DEGREESoTWO_HUNDRED_SEVENTY_DEGREESzoNIGHTa_ROTATED_FORTY-FIVE_DEGREESsNINETY_DEGREESo
   ONE_HUNDRED_THIRTY-FIVE_DEGREESzgTHREE_HUNDRED_FIFTEEN_DEGREESzdWO_HUNDRED_SEVENTY_DEGREESpTWE
   NTY-FIVE_DEGREESzp-BISHOPgQUEENfROOKlPAWNa_ROTATED_NINETY_DEGREESoTWO_HUNDRED_SEVENTY_DEGREESz
   pQUEENa_ROTATED_NINETY_DEGREESoTWO_HUNDRED_SEVENTY_DEGREESzqROOKa_ROTATED_NINETY_DEGREESoTWO_H
   UNDRED_SEVENTY_DEGREESzpTURNED_BISHOPgKINGdNIGHTgPAWNeQUEENfROOKqIRCLEa_CONTAINING_BLACK_SMALL
   _CIRCLEzeWITH_DOT_RIGHThWN_ARROWkLOWER_LEFT_QUADRANTnRIGHT_QUADRANTuTWO_DOTSiUPPER_LEFT_QUADRA
   NTnRIGHT_QUADRANTzgLUB_SUITiONCAVE-SIDED_DIAMONDa_WITH_LEFTWARDS_TICKoRIGHTWARDS_TICKzrDIAMOND
   a_CONTAINING_BLACK_MEDIUM_DIAMONDoSMALL_DIAMONDnVERY_SMALL_DIAMONDzkIN_SQUAREjSUITeWITH_CENTRE
   D_DOTxOWN_POINTING_BACKHAND_INDEXoINDEXfLEFT_HAND_INDEXz-POINTING_SMALL_TRIANGLEoTRIANGLEvRAUG
   HTS_KINGeMANmEXCLAMATION_MARK_ORNAMENTzFLAGa_WITH_HORIZONTAL_MIDDLE_BLACK_STRIPEznORETTEfWERfO
   UR_POINTED_CUSPeSTARqROWNING_FACEnHARD_SHELL_FLOPPY_DISKvEARTa_SUIThVY_CHECK_MARKkSALTIRE_WITH
   _ROUNDED_CORNERSzhXAGONgORIZONTAL_ELLIPSEqURGLASSjLARGE_SQUAREkTIN_CROSSkEFT_LANE_MERGEkPOINTI
   NG_BACKHAND_INDEXoINDEXp-POINTING_POINTERhSMALL_TRIANGLEoTRIANGLEvOZENGE_CONTAINING_BLACK_SMAL
   L_LOZENGEznMEDIUM_DIAMONDhLOZENGEhSMALL_SQUARElQUAREfTARkOON_SELENAlNIBdPARALLELOGRAMmENNANTeT
   AGONiQUESTION_MARK_ORNAMENTwRECTANGLEiIGHT_POINTING_BACKHAND_INDEXoINDEXp-POINTING_PENTAGONhOI
   NTERhSMALL_TRIANGLEoTRIANGLExSCISSORShESAME_DOTjHOGI_PIECEkMALL_LOZENGEhSQUAREfTARiILING_FACEl
   PADE_SUITjQUAREa_BUTTONgCONTAINING_BLACK_MEDIUM_SQUAREnSMALL_SQUAREmVERY_SMALL_SQUAREzjWITH_CE
   NTRE_VERTICAL_LINEuLEFTWARDS_TICKnOWER_LEFT_QUADRANTnRIGHT_QUADRANTuRIGHTWARDS_TICKoOUNDED_COR
   NERSpUPPER_LEFT_QUADRANTnRIGHT_QUADRANTuVERTICAL_BISECTING_LINEzjTARdUNa_BEHIND_CLOUDa_WITH_RA
   INwWITH_RAYSeSMALL_CLOUDuTELEPHONEiOUCHTONE_TELEPHONEsRAPEZIUMhIANGLE_CONTAINING_SMALL_WHITE_T
   RIANGLEzoWO-WAY_LEFT_WAY_TRAFFICyUP_POINTING_BACKHAND_INDEXoINDEXp-POINTING_CHEVRONhSMALL_TRIA
   NGLEoTRIANGLEa_WITH_DOTzeVERTICAL_BARdELLIPSEhRECTANGLEpY_SMALL_SQUAREs-FEATHERED_RIGHTWARDS_A
   RROWzgIDE-HEADED_DOWNWARDS_BARB_ARROWkHEAVY_BARB_ARROWqLIGHT_BARB_ARROWqMEDIUM_BARB_ARROWrVERY
   _HEAVY_BARB_ARROWzgLEFTWARDS_BARB_ARROWkHEAVY_BARB_ARROWqLIGHT_BARB_ARROWqMEDIUM_BARB_ARROWrVE
   RY_HEAVY_BARB_ARROWzgNORTH_EAST_BARB_ARROWkHEAVY_BARB_ARROWqLIGHT_BARB_ARROWqMEDIUM_BARB_ARROW
   rVERY_HEAVY_BARB_ARROWzbWEST_BARB_ARROWkHEAVY_BARB_ARROWqLIGHT_BARB_ARROWqMEDIUM_BARB_ARROWrVE
   RY_HEAVY_BARB_ARROWzhRIGHTWARDS_BARB_ARROWkHEAVY_BARB_ARROWqLIGHT_BARB_ARROWqMEDIUM_BARB_ARROW
   rVERY_HEAVY_BARB_ARROWzhSOUTH_EAST_BARB_ARROWkHEAVY_BARB_ARROWqLIGHT_BARB_ARROWqMEDIUM_BARB_AR
   ROWrVERY_HEAVY_BARB_ARROWzbWEST_BARB_ARROWkHEAVY_BARB_ARROWqLIGHT_BARB_ARROWqMEDIUM_BARB_ARROW
   rVERY_HEAVY_BARB_ARROWzhUPWARDS_BARB_ARROWkHEAVY_BARB_ARROWqLIGHT_BARB_ARROWqMEDIUM_BARB_ARROW
   rVERY_HEAVY_BARB_ARROWzoGGLY_VERTICAL_LINEsLTED_FLOWERlND_BLOWING_FACEmCHIMEgOWdE_GLASShKING_F
   ACEkRED_KEYBOARDnJbOLF_FACEhMANa_WITH_BUNNY_EARSqS_BOOTSfCLOTHEShHATdSANDALkENS_SYMBOLlN_SIGNg
   ODcRD_JOINERgSEPARATOR_MIDDLE_DOTwLD_MAPgMbRIED_FACElRAPPED_PRESENTnEATH_PRODUCTlNCHdSTLERShIT
   ING_HANDmX_IN_A_RECTANGLE_BOXt-RAYeIANGQI_BLACK_CANNONfHARIOThELEPHANTiGENERALhHORSEfMANDARINi
   SOLDIERnRED_CANNONfHARIOThELEPHANTiGENERALhHORSEfMANDARINiSOLDIERsORdYAWNING_FACElELLOW_HEARTk
   N_SIGNgZIDI_COMBINING_HAMZA_MARKkMADDA_MARKuHYPHENATION_MARKqLETTER_BEcCHHIMdIMdIMdDADbLdELIFd
   TbWbYNdFAcGAFdHAYcHAdJAcKAFcHAFeLAMa_WITH_DOT_ABOVEsMIMdNUNdOWcPEbHEdQAFdRAbHAdSADcEbHINdINdTA
   bHEdUMcVAa_ALTERNATE_FORMrWAWdXAbHEYNfYOTa_WITH_CIRCUMFLEX_ABOVEzZAaLcEpI_RADICAL_BBUTdURdCHEc
   IPcUOPdYaPbTdDDURdUcGAbEPcGOPcUOdOTdHMOcXITcOPcUOeJJIEcUTcYcOcKEbITdLIaEcYRdMIbOPdNBIEdYIPcOPd
   ZUPeOPcPUTcYTdQOTdSHATcOPcURcYcSIdTATcUcVEPcURdWOcYITcOcZAbOTcUPbRcZIETnSYLLABLE_AaPbTbXcBAaPb
   TbXcBAaPbTbXcEaPbXcIaEaPbTbXcPbTbXcOaPbTbXcUaOaPbXcPbRaXcTbXcYaPbTbXdEaPbXcIaEaPbTbXcPbTbXcOaP
   bTbXcUaOaPbXcPbRaXcTbXcYaPbRaXcTbXdCAaPbTbXcEaPbXcHAaPbTbXcEaPbTbXcOaPbTbXcUaOaPbTbXcPbRaXcXcY
   aPbRaXcTbXdIaEaPbTbXcPbTbXcOaPbTbXcUaOaPbXcPbRaXcTbXcYaPbRaXcTbXdDAaPbTbXcDAaPbTbXcEaPbXcIaEaP
   bXcPbTbXcOaPbTbXcUaOaPbXcPbRaXcTbXdEaPbXcIaEaPbXcPbTbXcOaPbTbXcUaOaXcPbRaXcTbXdEaXcFAaPbTbXcIa
   PbTbXcOaPbXcUaPbRaXcTbXcYaPbTbXdGAaPbTbXcEaPbTbXcGAaPbTbXcEaPbTbXcIaEaPbXcTbXcOaPbTbXcUaOaPbTb
   XcPbRaXcTbXdIaEaPbTbXcPbTbXcOaPbTbXcUaOaPbTbXcPbRaXcTbXdHAaPbTbXcEaPbXcIEaXcTcLAaPbTbXcEaPbXcI
   aEaPbXcPbTbXcOaPbXcUaOaPbXcPbRaXcTbXcYaPbRaXcTbXdMAaPbTbXcIaEaPbXcPbTbXcOaPbTbXcUaOaPbXcPbRaXc
   TbXcYaPbRaXcXdNAaPbTbXcEaPbXcIaEaPbTbXcPbTbXcOPbTbXcUOaXcTdOaPbTbXcUOaPbTbXdXAaPbTbXcEaPbXcIaE
   aPbTbXcPbTbXcOaPbTbXcUOaPbTbXfIaEaPbTbXcPbTaERATION_MARKnXcJIaEaPbTbXcPbTbXcJIaEaPbTbXcPbTbXcO
   aPbTbXcUaOaPbXcPbRaXcTbXcYaPbTbXdOaPbTbXcUaOaPbTbXcPbRaXcTbXcYaPbRaXcTbXdKAaPbTbXcEaPbTbXcIaEa
   PbXcPbTbXcOaPbTbXcUaOaPbXcPbRaXcTbXdLAaPbTbXcEaPbXcIaEaPbTbXcPbTbXcOaPbTbXcUaOaPbTbXcPbRaXcTbX
   cYaPbRaXcTbXdMAaPbTbXcEaXcGAaPbTbXcEaPbXcIEaXdOaPbTbXcUaOaPbXcPbRaXcTbXdIaEaPbXcPbTbXcOaPbTbXc
   UaOaPbTbXcPbRaXcTbXcYaPbTbXdNAaPbXcBAaPbTbXcIaEaPbXcPbTbXcOaPbTbXcUaPbRaXcTbXcYaPbRaXcTbXdDAaP
   bTbXcEaPbXcIaEaXcPbTbXcOaPbTbXcUaPbRaXcTbXdEaPbXcGAaPbTbXcEaPbXcIEaPbXdOaPbTbXcUOaTbXeIaEaPbXc
   PbTbXcJIaEaPbTbXcPbTbXcOaPbTbXcUaOaXcPbRaXcXcYaPbRaXcTbXdOaPbTbXcRAaPbTbXcEaPbTbXcOaPbXcUaPbRa
   XcTbXcYaPbRaXcTbXdUaOaPbXcPbRaXcTbXcYIaEaPbTbXcPbTbXcOaPbTbXcUaOaPbXcPbTbXdZAaPbTbXcEaXcIaEaPb
   XcPbTbXcOPbXcUaOaXcPbRaXcXcYaPbRaXcTbXeOaPbTbXcPAaPbTbXcIaEaPbXcPbTbXcOaPbTbXcUaOaPbXcPbRaXcTb
   XcYaPbRaXcTbXdQIaEaPbTbXcPbTbXcOaPbTbXcUaOaPbTbXcPbRaXcTbXcYaPbRaXcTbXdRAaPbTbXcEaPbXcOaPbTbXc
   RAaXcEaPbTbXcOaPbTbXcUaOaXcPbRaXcTbXcYaPbRaXcTbXdUaOaPbXcPbRaXcTbXcYaPbRaXcTbXdSAaPbTbXcEaPbXc
   HAaPbTbXcEaPbTbXcOaPbTbXcUaOaPbXcPbRaXcTbXcYaPbRaXcTbXdIaEaPbXcPbTbXcOaPbTbXcSAaPbTbXcEaPbXcIa
   EaPbXcPbTbXcOaPbTbXcUaPbTbXcYaPbRaXcTbXdUaOaPbXcPbRaXcTbXcYaPbRaXcTbXdTAaPbTbXcEaPbXcIaEaPbXcP
   bTbXcOaPbTbXcUaOaPbTbXcPbRaXcTbXdUOaPbXdVAaPbTbXcEPbXcIaEaPbTbXcPbTbXcOaPbTbXcUaPbRaXcTbXcYaPb
   RaXcTbXdWAaPbTbXcEaPbXcOaPbXcUaOaPbXeXIaEaPbTbXcPbTbXcOaPbTbXcUOaXdYaPbRaXcTbXdYIaEaPbTbXcPbTb
   XcOaPbTbXcUaOaPbTbXcPbRaXcTbXcYaPbRaXcTbXdZAaPbTbXcEaPbXcHAaPbTbXcEaPbTbXcOaPbTbXcUaOaPbXcPbRa
   XcTbXcYaPbRaXcTbXdIaEaPbXcPbTbXcOaPbTbXcUaOaPbXcPbRaXcTbXcYaPbRaXcTbXcZAaPbTbXcEaPbXcIaEaPbTbX
   cPbTbXcOaPbXcUaPbRaXcXcYaPbRaXcTbXoN_YANGhO-YOfZ_NOTATION_BAG_MEMBERSHIPoDOMAIN_ANTIRESTRICTIO
   NwLEFT_BINDING_BRACKETpIMAGE_BRACKETsRANGE_ANTIRESTRICTIONuELATIONAL_COMPOSITIONvIGHT_BINDING_
   BRACKETpIMAGE_BRACKETtSCHEMA_COMPOSITIONlPIPINGfROJECTIONqPOTeTYPE_COLONuANABAZAR_SQUARE_CLOSI
   NG_DOUBLE-LINED_HEAD_MARKwHEAD_MARKpUSTER-FINAL_LETTER_LAcRAcVAcYApINITIAL_LETTER_RAzFINAL_CON
   SONANT_MARKuINITIAL_DOUBLE-LINED_HEAD_MARKwHEAD_MARKrLETTER_-AcAbBAbHAdCAbHAdDAbDAbHAdHAcZAbHA
   eGAbHAdHAcJAcKAbHAcSSAeLAcMAcNAbGAcNAcYAdPAbHAdRAcSAbHAcSAdTAbHAcSAbHAdTAbHAeVAcYAcZAbHAkMARK_
   DOUBLE_SHADlLONG_TSHEGkSHADeTSHEGkSIGN_ANUSVARAiCANDRA_WITH_ORNAMENToBINDUa_WITH_ORNAMENTzVIRA
   MAeSARGAlUBJOINERjVOWEL_LENGTH_MARKlSIGN_AIbUcEbIbOaEcREVERSED_IkUaEzeEBRA_FACEiRO_WIDTH_JOINE
   RgNO-BREAK_SPACEmN-JOINERkSPACEoUSdIPPER-MOUTH_FACEqNAMENNY_COMBINING_ATTACHING_VERTICAL_OMETx
   LOWER_TONAL_RANGE_INDICATORzcMARK_BORZAYAhCHASHKAa_POLNAYAoURVED_OMETlDEMESTVENNY_ZADERZHKAuVO
   ETOCHIEkGORAZDO_NIZKO_ON_LEFTeRIGHTiS_KRYZHEM_ON_LEFTeRIGHTyVYSOKOoKACHKAfRYZHa_ON_LEFTmUPNAYA
   hLOMKAfMALO_POVYSHE_ON_LEFTeRIGHTiS_KHOKHLOM_ON_LEFTeRIGHTqRYZHEMiTRANNOuNIZKO_ON_LEFTeRIGHTiS
   _KRYZHEM_ON_LEFTeRIGHTyOBLACHKOhNbTSECHKAiPODCHASHIEa_WITH_VERTICAL_STROKEzdVERTKAhVYSHE_ON_LE
   FTeRIGHTiS_KHOKHLOM_ON_LEFTeRIGHTqRYZHEMiTRANNOpRAVNOdZSEKAhSKOBAeOROCHYA_NOZHKAoREDNE_ON_LEFT
   eRIGHToTRANNO_MALO_POVYSHEuTIKHAYAgOCHKAfSATA_ON_LEFTeRIGHTiS_KRYZHEMpUDARKAgVYSOKO_ON_LEFTeRI
   GHTiS_KHOKHLOM_ON_LEFTeRIGHTqRYZHEMqZADERZHKAiELOcVOKkTONAL_RANGE_MARK_MRACHNOhSVETLOgTRESVETL
   OzlNEUME_CHASHKAfELYUSTKAkDEMESTVENNY_KLYUCHqRBITSAhOUBLE_ZAPYATAYApUDAdVA_V_CHELNUmFITAeGOLUB
   CHIK_BORZYfMRACHNYhSVETLYgTIKHYeRESVETLYtKHAMILOgLYUCHfOBYLAfRYUKa_TIKHYiZHeUFISMAhMECHIKa_KLY
   UCHENEPOSTOYANNYmPOVODNYhVOYkPOVODNYoNEMKAfOBLAKOfSOKAa_KLYUCHEVAYA_NEPOSTOYANNAYAoSVETLAYAtRY
   UKOVAYA_SVETLAYAtSVETLAYAiTRESVETLAYArPALKAdRAKLITgUKdEREVODKAa_NEPOSTOYANNAYAxODCHASHIEiLKULI
   ZMYkREVERSED_CHELYUSTKAsOGdSKAMEYTSA_DVOECHELNAYA_KLYUCHEVAYAlNEPOSTOYANNAYAoPROSTAYAiSVETLAYA
   vKLYUCHENEPOSTOYANNAYAoVAYA_SVETLAYAiTIKHAYAtMRACHNAYAjSVETLAYAiTIKHAYAgRESVETLAYAuLOZHITIEa_S
   _KRYZHEMhZAPYATOYkZAKRYTOErTATYAa_NEPOSTOYANNAYAoS_DVUMYA_ZAPYATYMIqKRYZHEMa_I_ZAPYATOYsROGOMf
   ZAPYATOYa_I_KRYZHEMhPODCHASHIEMyZAKRYTAYAa_S_ZAPYATOYzOPITSAa_S_OCHKOMiWITH_SOROCHYA_NOZHKAzcR
   ELA_DVOECHELNAYAa_KLYUCHEVAYApOKRYZHEVAYAkPOVODNAYAa_KLYUCHEVAYAzgGROMNAYAa_WITH_SINGLE_ZAPYAT
   AYAzbOKRYZHEVAYAa_POVODNAYAuPOVODNAYAa_WITH_DOUBLE_ZAPYATAYAqSINGLE_ZAPYATAYAzlKLYUCHENEPOSTOY
   ANNAYAoPOVODNAYApRYUKOVAYAa_GROMNAYAa_WITH_SINGLE_ZAPYATAYAzbOKRYZHEVAYAa_POVODNAYAuPOVODNAYAa
   _WITH_DOUBLE_ZAPYATAYAqSINGLE_ZAPYATAYAzlPOVODNAYAjTRYASKApZHEVAYAkMRACHNOTIKHAYAoNEPOSTOYANNA
   YAoPOLUPOVODNAYAlVODNAYAiROSTAYAiTIKHAYA_PUTNAYAoRYASOGLASNAYAiPOVODNAYAjSTRELNAYAwVRAKHIYA_KL
   YUCHEVAYA_MRACHNAYAjPROSTAYAiSVETLAYAiTRESVETLAYAxMRACHNAYAjPROSTAYAiSVETLAYAiTRESVETLAYAuZANO
   ZHEKgPYATAYAiMEYTSAnPRIZNAK_MODIFIER_DIRECTION_FLIPoKRYZHfLEVEL-2b3hROGzdOMBIEfWJbNBSPdJcSP"

end TypedQuery.Text
