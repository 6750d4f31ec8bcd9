/-!
# Names of characters, D to K

The names as a walk, see `Text.CharacterName`.
-/

namespace TypedQuery.Text

/-- The names that start with D to K. -/
def namesToK : String :=
  "DAGGERa_KNIFEfWITH_LEFT_GUARDkRIGHT_GUARDvLET_SYMBOLkNCERdGOdRK_SHADEeUNGLASSESnSH_SYMBOLgWITH
   _LEFT_UPTURNrED_LOW_LINEiOVERLINEiTRIANGLE-HEADED_RIGHTWARDS_ARROWzmTA_LINK_ESCAPEpC1b2b3b4bSc
   EAF_PERSONjCIDUOUS_TREEkMAL_EXPONENT_SYMBOLpSEPARATOR_KEY_SYMBOLzREASE_FONT_SIZE_SYMBOLxERcGRE
   E_CELSIUShFAHRENHEITkSIGNjLaETEdIVERY_TRUCKlTA_EQUAL_TOmNTISTRY_SYMBOL_LIGHT_DOWN_AND_HORIZONT
   ALa_WITH_CIRCLEgTRIANGLEiWAVEzeUP_AND_HORIZONTALa_WITH_CIRCLEgTRIANGLEiWAVEzcVERTICAL_AND_BOTT
   OM_LEFTeRIGHTmTOP_LEFTeRIGHTjWAVEiWITH_CIRCLEgTRIANGLEzsPARTMENT_STOREoRELICT_HOUSE_BUILDINGvS
   CENDING_NODEmERET_CAPITAL_LETTER_AYcBEEdCHEEeDEEdEFbLbMbNaGcRbSaHcTHcWcGAYdHbJEEdKAYdLONG_AaHc
   EbIbOaOhOIbWcPEEdSHORT_AaHcEbIbOaOiTEEcHEEeVEEdWUcYEEdZEEcHEEtSMALL_LETTER_AYcBEEdCHEEeDEEdEFb
   LbMbNaGcRbSaHcTHcWcGAYdHbJEEdKAYdLONG_AaHcEbIbOaOhOIbWcPEEdSHORT_AaHcEbIbOaOiTEEcHEEeVEEdWUcYE
   EdZEEcHEEuTa_ISLANDkKTOP_COMPUTERiWINDOWmVANAGARI_ABBREVIATION_SIGNqCUTE_ACCENTmCARETfDANDAeIG
   IT_EIGHTfFIVEdOUReNINEeONEdSEVENeIXdTHREEeWOdZEROjOUBLE_DANDAmGAP_FILLERjRAVE_ACCENTmHEADSTROK
   EkJAIN_OMhLETTER_AaAbIbUbWbYcBAbBAcHAdCAaNDRA_AbEbOhHAdDAbDAbDAbHAdHAdHAdEbFAcGAbGAcHAbHAdLOTT
   AL_STOPmHAbEAVY_YAiIaIcJAbHAcJAdKAbHAbHAeLAbLAbLAeMAaRWARI_DDAlNAbGAcNAbNAdYAdOaEbOEdPAbHAdQAc
   RAbHAcRAdSAbHAbORT_AbEbOgSAdTAbHAcTAbHAeUaEbUaEdVAbOCALIC_LaLcRaRkYAbYAdZAbHAkOMcSIGN_ANUSVARA
   hVAGRAHAiCANDRABINDUa_AVAGRAHAiTHREEeWOdVIRAMAsDOUBLE_CANDRABINDU_VIRAMAzHIGH_SPACING_DOTqINVE
   RTED_CANDRABINDUuNUKTAfPUSHPIKAiSIDDHAMgPACING_CANDRABINDUtVIRAMAeSARGAlTRESS_SIGN_ANUDATTAiUD
   ATTAsVOWEL_SIGN_AAbIbUbWbYcCANDRA_EbLONG_EgOiEbIaIcOaEbOEdPRISHTHAMATRA_EpSHORT_EbOhUaEbUaEdVO
   CALIC_LaLcRaRzeICE_CONTROL_FOUReONEdSTRINGgTHREEeWOrIAERESISgMETER_SIGNjOND_OPERATORiSHAPE_WIT
   H_A_DOT_INSIDExTARGETgWITH_BOTTOM_HALF_BLACKrLEFT_HALF_BLACKpRIGHT_HALF_BLACKqTOP_HALF_BLACKzE
   _FACE-1b2b3b4b5b6hSEL_LOCOMOTIVEpFFERENCE_BETWEENqGIT_EIGHTa_COMMAfFULL_STOPpFIVEa_COMMAfFULL_
   STOPnOURa_COMMAfFULL_STOPoNINEa_COMMAfFULL_STOPoONEa_COMMAfFULL_STOPnSEVENa_COMMAfFULL_STOPoIX
   a_COMMAfFULL_STOPnTHREEa_COMMAfFULL_STOPoWOa_COMMAfFULL_STOPnZEROa_COMMAfFULL_STOPrRAM_FOR_EAR
   THaLY_HEAVENfUMANnGREATER_YANGdINlHEAVENLY_EARTHnUMAN_EARTHlLESSER_YANGdINtMENSION_ORIGINoNGBA
   T_CIRCLED_SANS-SERIF_DIGIT_EIGHTfFIVEdOUReNINEeONEdSEVENeIXdTHREEeWOdZEROkNUMBER_TENzeNEGATIVE
   _CIRCLED_DIGIT_EIGHTfFIVEdOUReNINEeONEdSEVENeIXdTHREEeWOjNUMBER_TENkSANS-SERIF_DIGIT_EIGHTfFIV
   EdOUReNINEeONEdSEVENeIXdTHREEeWOdZEROkNUMBER_TENztRECT_CURRENT_SYMBOL_FORM_TWOxHITiSABLED_CARi
   PPOINTED_BUT_RELIEVED_FACErFACEoCONTINUOUS_UNDERLINE_SYMBOLzcGUISED_FACEmTTO_MARKiVES_AKURU_DI
   GIT_EIGHTfFIVEdOUReNINEeONEdSEVENeIXdTHREEeWOdZEROjOUBLE_DANDAmEND_OF_TEXT_MARKqGAP_FILLERkINI
   TIAL_RAkLETTER_AaAcBAbHAdCAbHAdDAbDAbHAdHAdEbGAbHAdHAcIaIcJAcKAbHAdLAbLAdMAcNAbGAcNAcYAdObPAbH
   AdRAcSAbHAcSAdTAbHAcTAdUaUcVAcYAbYAdZAjMEDIAL_RAcYAjPREFIXED_NASAL_SIGNtSIGN_ANUSVARAiCANDRABI
   NDUlHALANTAhNUKTAkVIRAMAfOWEL_SIGN_AAbIcEbIaIcObUaUwIDESdNG_MASKhSION_SIGNdLASHfTIMESlORCE_SYM
   BOLmYA_LAMPhZZY_FACEeSYMBOLlLEcNA_DOUBLE_HELIXpO_NOT_LITTER_SYMBOLsCUMENTa_WITH_PICTUREhTEXTa_
   AND_PICTUREzdDOcES_NOT_CONTAIN_AS_MEMBERgNORMAL_SUBGROUPa_OR_EQUALzkDIVIDEa_WITH_REVERSED_NEGA
   TION_SLASHzkFORCEfPRECEDEa_OR_EQUALoOVEfSUCCEEDa_OR_EQUALxGa_FACEfRA_ABBREVIATION_SIGNrLETTER_
   AaAbIbUcBAbHAdCAbHAdDAbDAbHAdHAdEbGAbHAdHAcIaIcJAbHAdKAbHAdLAcMAcNAbGAcNAcYAdObPAbHAdRAbRAdSAb
   HAcSAdTAbHAcTAbHAeUaUcVAcYAjSIGN_ANUSVARAiNUKTAfVIRAMAeSARGAmVOWEL_SIGN_AAbIbUcEbIaIcObUaUcVOC
   ALIC_RaRzLLAR_SIGNiPHINfMINO_TILE_HORIZONTAL_BACKf-00-00b1b2b3b4b5b6e1-00b1b2b3b4b5b6e2-00b1b2
   b3b4b5b6e3-00b1b2b3b4b5b6e4-00b1b2b3b4b5b6e5-00b1b2b3b4b5b6e6-00b1b2b3b4b5b6qVERTICAL_BACKf-00
   -00b1b2b3b4b5b6e1-00b1b2b3b4b5b6e2-00b1b2b3b4b5b6e3-00b1b2b3b4b5b6e4-00b1b2b3b4b5b6e5-00b1b2b3
   b4b5b6e6-00b1b2b3b4b5b6yNG_SIGNhORcT_ABOVEfMINUSfOPERATORiPLUSfTED_CIRCLEfROSSfFENCEfLINE_FACE
   jOBELOSgRIGHT-POINTING_ANGLEuSOLIDUSgQUAREgTRANSPOSITION_MARKERzUBLE_ACUTE_ACCENTmCIRCLED_DIGI
   T_EIGHTfFIVEdOUReNINEeONEdSEVENeIXdTHREEeWOjNUMBER_TENrOLON_EQUALkURLY_LOOPkDAGGERfOWN_TACKjEX
   CLAMATION_MARKqHIGH-REVERSED-9_QUOTATION_MARKzeYPHENgINTEGRALeRSECTIONmLEFT_ARC_GREATER-THAN_B
   RACKETzdOGICAL_ANDdORiW_LINEf-9_QUOTATION_MARKqREVERSED-9_QUOTATION_MARKzeNESTED_GREATER-THANm
   LESS-THANa_WITH_UNDERBARzfOBLIQUE_HYPHENoPLUSdRECEDESgIMEa_QUOTATION_MARKuQUESTION_MARKnRIGHT_
   ARC_LESS-THAN_BRACKETzcSOLIDUS_OPERATORpQUARE_INTERSECTIONmUNIONlTACKED_COMMAlROKE_NOT_SIGNoUB
   SETeCCEEDSgPERSETgSPENSION_MARKpUNIONeP_TACKhVERTICAL_BARa_DOUBLE_LEFT_TURNSTILEoRIGHT_TURNSTI
   LEwLEFT_TURNSTILEsLINEnWAVY_OVERLINEo-ENDED_MULTIMAPoLINE_EQUAL_TO_OR_GREATER-THANmLESS-THANvS
   LANTED_EQUAL_TO_OR_GREATER-THANmLESS-THANvGREATER-THAN_OR_EQUAL_TOyLESS-THAN_OR_EQUAL_TOzjSTRU
   CK_CAPITAL_CbGAMMAfHbNbPaIcQbRbZjITALIC_CAPITAL_DjSMALL_DbEbIbJoN-ARY_SUMMATIONpSMALL_GAMMAfPI
   qD_FEMALE_SIGNlMALE_SIGNjSYMBOLlGHNUTgVE_OF_PEACElWN_ARROWHEADjFISH_TAILjRIGHT_DIAGONAL_ELLIPS
   ISxTACKa_WITH_CIRCLE_BELOWx-POINTING_RED_TRIANGLEmSMALL_RED_TRIANGLEsTRIANGLE_WITH_LEFT_HALF_B
   LACKpRIGHT_HALF_BLACKzpWARD_FACING_HOOKa_WITH_DOTnNOTCHED_HOOKa_WITH_DOTzeS_ANCORAfRROWa_AND_R
   IGHT_ONE_EIGHTH_BLOCKzbFROM_BARiLEFTWARDS_OF_UPWARDS_ARROWzbTO_BARgWITH_CORNER_LEFTWARDSqDOUBL
   E_STROKEnEQUILATERAL_ARROWHEADvHORIZONTAL_STROKErLARGE_TRIANGLE_ARROWHEADyMEDIUM_TRIANGLE_ARRO
   WHEADzNOTCHED_TAILmSMALL_EQUILATERAL_ARROWHEADvTRIANGLE_ARROWHEADyTIP_LEFTWARDSjRIGHTWARDSzBLA
   CK_ARROWfCIRCLED_WHITE_ARROWzCOMPRESSED_ARROWqDASHED_ARROWlOUBLE_ARROWmFINGER-POST_ARROWrHARPO
   ON_WITH_BARB_LEFT_BESIDE_DOWNWARDS_HARPOON_WITH_BARB_RIGHTziUPWARDS_HARPOON_WITH_BARB_RIGHTznF
   ROM_BARiTO_BARhWARDSjRIGHT_FROM_BARiTO_BARhWARDSzcEAVY_ARROWfCOMPRESSED_ARROWwPAIRED_ARROWSnQU
   ADRUPLE_ARROWpROCKETgSANS-SERIF_ARROWpQUARED_ARROWnTRIANGLE_ARROWHEADk-HEADED_ARROWa_LEFTWARDS
   _OF_UPWARDS_TRIANGLE-HEADED_ARROWzrTO_BARgWITH_BOLD_SHAFTkDOUBLE_HORIZONTAL_STROKEyHEAVY_SHAFT
   lLONG_TIP_LEFTWARDSjRIGHTWARDStMEDIUM_SHAFTmNARROW_SHAFTmVERY_HEAVY_SHAFTzcDASHED_ARROWmPAIRED
   _ARROWSnZIGZAG_ARROWzPLE_ARROWlWO_HEADED_ARROWn-HEADED_ARROW_WITH_TRIANGLE_ARROWHEADSzqWHITE_A
   RROWa_WITHIN_TRIANGLE_ARROWHEADzmZIGZAG_ARROWvRACHMA_SIGNjFTING_POINT_RIGHTWARDS_ARROWzdGONa_F
   ACEjESSdIVE_SLOW_SIGNnOMEDARY_CAMELmOLING_FACEkP_OF_BLOODjLETfUM_WITH_DRUMSTICKStUCKcMPLINGgPL
   OYAN_AFFIX_ATTACHED_E_HOOKgI_HOOKgLEFT-TO-RIGHT_SECANTuSECANTgTAILcNGENTa_HOOKvHIGH_ACUTEfCIRC
   LEgDOTdGRAVEfLINEdONG_GRAVEkTIGHT_ACUTElVERTICALa_SECANTpWAVEjLEFT_HORIZONTAL_SECANTvOW_ACUTEe
   RROWfCIRCLEgDOTdGRAVEfLINEdONG_GRAVEkTIGHT_ACUTElVERTICALa_SECANTpWAVEiMID_HORIZONTAL_SECANTrV
   ERTICAL_SECANTtRIGHT_HORIZONTAL_SECANTzeDOUBLE_MARKlLETTER_AaOUdBbDa_ScHcEaEbUcFa_NdGa_R_SfHaL
   cIaEcJa_Ma_SdNa_SdSa_WITH_DOTkWITH_DOTaS_INSIDE_AND_ABOVEzdKa_MbR_SeKcLaHbONG_IbUgMa_Na_SdSbWI
   TH_DOTkNa_Ma_SdSbWITH_DOTjASAL_AbIbObUhOaAbOHcUbWcPa_NcERNIN_AMbNjRa_ScHbOMANIAN_IbUkSa_Ja_SdK
   a_RdMbNbPa_RdSbTa_RdWITH_DOTa_BELOWpHORT_IgLOAN_ANcDHcEEbHbNcJbONbWcUhTa_R_SdScHcUa_NcHbIcVaOC
   ALIC_MjWa_RcAbEIcHbIbOaWdXaWcYEjPUNCTUATION_CHINOOK_FULL_STOPzeSIGN_O_WITH_CROSSrTHICK_LETTER_
   SELECTORzeVDdE-MAIL_SYMBOLmAGLEdRa_OF_MAIZEfRICEhWITH_HEARING_AIDrTHa_GLOBE_AMERICAShSIA-AUSTR
   ALIAoEUROPE-AFRICAsROUNDkST_SYRIAC_CROSSqDITORIAL_CORONISqGGbYPTIAN_HIEROGLYPH_A001b2b3b4b5aAc
   6aAbBc7b8b9c10b1b2b3b4aAc5b6b7aAc8b9c20b1b2b3b4b5b6b7b8b9c30b1b2aAc3b4b5b6b7b8b9c40aAc1b2aAc3a
   Ac4b5aAc6b7b8b9c50b1b2b3b4b5b6b7b8b9c60b1b2b3b4b5b6b7b8b9c70dA001b2b3b4b5b6b7aAbBc8b9c10b1b2b3
   b4b5b6b7b8b9c20b1b2b3b4b5b6b7b8b9c30b1b2fB001b2b3b4b5aAc6b7b8b9dEGIN_SEGMENTnC001b2aAbBbCc3b4b
   5b6b7b8b9c10aAc1b2b3b4b5b6b7b8b9c20b1b2b3b4eD001b2b3b4b5b6b7b8aAc9c10b1b2b3b4b5b6b7b8b9c20b1b2
   b3b4b5b6b7aAc8b9c30b1aAc2b3b4aAc5b6b7b8b9c40b1b2b3b4b5b6aAc7b8aAc9c50aAbBbCbDbEbFbGbHbIc1b2aAc
   3b4aAc5b6b7b8b9c60b1b2b3b4b5b6b7aAbBbCbDbEbFbGbHfE001b2b3b4b5b6b7b8aAc9aAd10b1b2b3b4b5b6aAc7aA
   c8b9c20aAc1b2b3b4b5b6b7b8aAc9c30b1b2b3b4aAc6b7b8dND_SEGMENTlF001aAc2b3b4b5b6b7b8b9c10b1b2b3aAc
   4b5b6b7b8b9c20b1aAc2b3b4b5b6b7b8b9c30b1aAc2b3b4b5b6b7aAc8aAc9c40b1b2b3b4b5aAc6aAc7aAc8b9c50b1a
   AbBbCc2b3eG001b2b3b4b5b6aAc7aAbBc8b9c10b1aAc2b3b4b5b6b7b8b9c20aAc1b2b3b4b5b6aAc7b8b9c30b1b2b3b
   4b5b6aAc7aAc8b9c40b1b2b3aAc4b5aAc6b7b8b9c50b1b2b3b4eH001b2b3b4b5b6aAc7b8dORIZONTAL_JOINERrI001
   b2b3b4b5aAc6b7b8b9aAd10aAc1aAc2b3b4b5dNSERT_AT_BOTTOM_ENDdSTARTmTOP_ENDdSTARTtK001b2b3b4b5b6b7
   b8eL001b2aAc3b4b5b6aAc7b8eM001aAbBc2b3aAc4b5b6b7b8b9c10aAc1b2aAbBbCbDbEbFbGbHc3b4b5aAc6aAc7aAc
   8b9c20b1b2aAc3b4aAc5b6b7b8aAc9c30b1aAc2b3aAbBc4b5b6b7b8b9c40aAc1b2b3b4eN001b2b3b4b5b6b7b8b9c10
   b1b2b3b4b5b6b7b8aAbBc9c20b1b2b3b4b5aAc6b7b8b9c30b1b2b3aAc4aAc5aAc6b7aAc8b9c40b1b2dL001b2b3b4b5
   aAc6b7b8b9c10b1b2b3b4b5b6b7aAc8b9c20eU001b2b3b4b5b6b7b8b9c10aAc1aAc2b3b4b5b6b7b8aAc9c20b1b2aAg
   O001aAc2b3b4b5aAc6aAbBbCbDbEbFc7b8b9c10aAbBbCc1b2b3b4b5b6b7b8b9aAd20aAc1b2b3b4aAc5aAc6b7b8b9aA
   d30aAc1b2b3aAc4b5b6aAbBbCbDc7b8b9c40b1b2b3b4b5b6b7b8b9c50aAbBc1dVERLAY_MIDDLEoP001aAc2b3aAc4b5
   b6b7b8b9c10b1eQ001b2b3b4b5b6b7eR001b2aAc3aAbBc4b5b6b7b8b9c10aAc1b2b3b4b5b6aAc7b8b9c20b1b2b3b4b
   5b6b7b8b9eS001b2aAc3b4b5b6aAc7b8b9c10b1b2b3b4aAbBc5b6b7aAc8b9c20b1b2b3b4b5b6aAbBc7b8b9c30b1b2b
   3b4b5aAc6b7b8b9c40b1b2b3b4b5b6eT001b2b3aAc4b5b6b7aAc8aAc9aAd10b1aAc2b3b4b5b6aAc7b8b9c20b1b2b3b
   4b5b6b7b8b9c30b1b2aAc3aAc4b5b6eU001b2b3b4b5b6aAbBc7b8b9c10b1b2b3b4b5b6b7b8b9c20b1b2b3aAc4b5b6b
   7b8b9aAd30b1b2aAc3b4b5b6b7b8b9c40b1b2eV001aAbBbCbDbEbFbGbHbIc2aAc3b4b5b6b7aAbBc8b9c10b1aAbBbCc
   2aAbBc3b4b5b6b7b8b9c20aAbBbCbDbEbFbGbHbIbJbKbLc1b2b3aAc4b5b6b7b8aAc9aAd30aAc1aAc2b3aAc4b5b6b7a
   Ac8b9c40aAeERTICAL_JOINERpW001b2b3aAc4b5b6b7b8b9aAd10aAc1b2b3b4aAc5b6b7aAc8aAc9c20b1b2b3b4aAc5
   eX001b2b3b4aAbBc5b6aAc7b8aAfY001aAc2b3b4b5b6b7b8eZ001b2aAbBbCbDc3aAbBc4aAc5aAc6b7b8b9c10b1b2b3
   b4b5aAbBbCbDbEbFbGbHbIc6aAbBbCbDbEbFbGbHyIGHT_PETALLED_OUTLINED_BLACK_FLORETTEzgOINTED_BLACK_S
   TARkPINWHEEL_STARnRECTILINEAR_BLACK_STARzfSPOKED_ASTERISKpTEARDROP-SPOKED_PROPELLER_ASTERISKzk
   H_NOTEkJECT_SYMBOLlLBASAN_LETTER_AbBEcCEbHEdDEbHEdEaIcFEcGEbHAMMAeEcJEdHEcIbJEcKEbHEdLEbLEdMEc
   NAbDEcEbJEdObPEcQEcREbREdSEbHEdTEbHEdUbVEcXEcYbZEbHEqECTRIC_ARROWfLIGHT_BULBkPLUGeTORCHgAL_INT
   ERSECTIONuMENT_OFa_OPENING_DOWNWARDSjUPWARDSpWITH_DOT_ABOVEjLONG_HORIZONTAL_STROKEwOVERBARhTWO
   _HORIZONTAL_STROKESwUNDERBARiVERTICAL_BAR_AT_END_OF_HORIZONTAL_STROKEzzdPHANTfVATORgFbYMAIC_LE
   TTER_ALEPHeYINeBETHeDALETHgGIMELfHEaTHeKAPHeLAMEDHgMEMdNUNdPEcQOPHeRESHeSADHEdMEKHfHINeTAWcETH
   eWAWdYODHeZAYINlIGATURE_ZAYIN-YODHzbM_DASHeQUADeSPACEgOJI_COMPONENT_BALDeCURLY_HAIRkRED_HAIRiW
   HITE_HAIRuMODIFIER_FITZPATRICK_TYPE-1-2d3b4b5b6zgPHASIS_SYMBOLmTY_DOCUMENTiNESTdOTEa_PADbGEjPA
   GEaSfSETa_WITH_LEFT_ARROW_ABOVEqOVERBARhRIGHT_ARROW_ABOVErSMALL_CIRCLE_ABOVEzhN_DASHeQUADeSPAC
   EgD_OF_GUARDED_AREAmLINEeMEDIUMgPROOFcTECTED_AREAoSELECTED_AREAnTEXTdRANSMISSIONa_BLOCKvWITH_L
   EFTWARDS_ARROW_ABOVEzdQaUIRYfTER_SYMBOLkVELOPEa_WITH_DOWNWARDS_ARROW_ABOVEvLIGHTNINGwOLbMbTcPA
   cQUAL_AND_PARALLEL_TOpTO_BY_DEFINITIONnOR_GREATER-THANmLESS-THANjPRECEDESiSUCCEEDSpS_COLONfSIG
   Na_ABOVE_LEFTWARDS_ARROWpPLUS_SIGNjRIGHTWARDS_ARROWqTILDE_OPERATORtND_SLANTED_PARALLELa_WITH_T
   ILDE_ABOVEzmWITH_BUMPY_ABOVElDOT_BELOWjINFINITY_BELOWoTWO_DOTS_ABOVE_AND_TWO_DOTS_BELOWzsWITH_
   ASTERISKrIANGULAR_TOkVALENT_TOcWITH_FOUR_DOTS_ABOVEzfRASE_TO_THE_LEFTeRIGHTqIS_FORM_ONEdTWOlRO
   R-BARRED_BLACK_CIRCLEgDIAMONDhSQUAREmWHITE_CIRCLEgDIAMONDhSQUAREySAbCaAPEeTIMATED_SYMBOLiSiTBb
   HIOPIC_COLONdMBINING_GEMINATION_AND_VOWEL_LENGTH_MARKvMARKpVOWEL_LENGTH_MARKyMAfDIGIT_EIGHTfFI
   VEdOUReNINEeONEdSEVENeIXdTHREEeWOjFULL_STOPjNUMBER_EIGHTYgFIFTYeORTYfHUNDREDhNINETYgSEVENTYgIX
   TYfTENa_THOUSANDlHIRTYfWENTYnPARAGRAPH_SEPARATORsREFACE_COLONnQUESTION_MARKnSECTION_MARKkMICOL
   ONiYLLABLE_BAaAcBAaAcEaEcIbObUcEaEcIbOaAcUbWAbEaEcIdCAaAcCAaAcEaEcHAaAcEaEcHAaAcEaEcIbObUcIbOb
   UcIbObUcEaEcHAaAcEaEcIbOaAcUbWAdIbOaAcUbWAdDAaAcDAaAcEaEcHAAcEaEcIbObUcIbOaAcUbWAdEaEcIbOaAcUb
   WAcZAAcEaEcIbObUdFAaAcEaEcIbObUbWAbEaEcIcYAdGAaAcEaEcGAaAcEaEcIbObUbWAaAcEaEcIdIbLOTTAL_AaAcEa
   EcIbOaAcUbWAjOaAcUaRAGE_BWEEcIdFWEEcIdGWEaEcIdHHWAeKWEaEcIdMWEEcIdPWEEcIdQWEaEcIjWAaAcEaEcIcYA
   aAcEaEcIbObUdHAaAcEaEcHAaAcEaEcIbObUbWAbEaEcIcYAaAcEaEcIbObUdIbOaAcUcJAaAcEaEcIbOaAcUbWAdKAaAc
   EaEcIbOaAcUbWAaAcEaEcIcXAaAcEaEcIbObUbWAaAcEaEcIdYAaAcEaEcIbObUdLAaAcEaEcIbOaAcUbWAdMAaAcEaEcI
   bOaAcUbWAbEaEcIcYAdNAaAcEaEcIbOaAcUbWAcYAaAcEaEcIbOaAcUbWAePAaAcEaEcHAaAbRYNGEAL_AaAcEaEcIbObU
   kEaEcIbOaAcUbWAdIbOaAcUbWAbEaEcIdQAaAcEaEcHAaAcEaEcIbObUbWAaAcEaEcIdIbOaAcUbWAaAcEaEcIcYAaAcEa
   EcIbObUdRAaAcEaEcIbOaAcUbWAcYAdSAaAcEaBATBEIT_BWAdFWAdMWAdPWAlEcHAaAcEaEcIbOaAcUbWAdIbOaAcSAaA
   cEaEcIbObUcUbWAcZAaAcEaEcIbObUbWAeTAaAcEaEcHAaAcEaEcIbOaAcUbWAdIbOaAcSAaAcEaEcIbObUbWAdTHAAcEa
   EcIbObUdUbWAcZAaAcEaEcIbOaAcUdVAaAcEaEcIbObUbWAdWAaAcEaEcIbOaAcUcXAaAcEaEcIbOaAcUbWAaAcEaEcIcY
   AaAcEaEcIbObUdYAaAcEaEcIbOaAcUcZAaAcEaEcHAaAcEaEcIbObUbWAdIbOaAcUbWAcZAaAcEaEcIbObUmTONAL_MARK
   _CHIRETgDERETa-HIDETkIFATfHIDETfKENATeURTeRIKRIKgSHORT_RIKRIKmYIZETqWORDSPACEqXcULER_CONSTANTm
   RO_SIGNf-CURRENCY_SIGNoPEAN_CASTLEgPOST_OFFICEtVERGREEN_TREEnXCESSdLAMATION_MARKeQUESTION_MARK
   xPRESSIONLESS_FACErTENDED_ARABIC-INDIC_DIGIT_EIGHTfFIVEdOUReNINEeONEdSEVENeIXdTHREEeWOdZEROzeR
   ATERRESTRIAL_ALIENsEMELY_HEAVY_FIVE_SPOKED_ASTERISKuGREEK_CROSSlSALTIREgIX_SPOKED_ASTERISKtWHI
   TE_CIRCLEgSQUAREzcYEaGLASSEShSeFACE_HOLDING_BACK_TEARSsMASSAGEhPALMeSAVOURING_DELICIOUS_FOODxC
   REAMING_IN_FEARrTHROWING_A_KISSpWITH_COLD_SWEATiWBOY_HATkDIAGONAL_MOUTHoFINGER_COVERING_CLOSED
   _LIPSzcHEAD-BANDAGEmLOOK_OF_TRIUMPHpMEDICAL_MASKlONOCLEhNO_GOOD_GESTUREpOK_GESTUREjNE_EYEBROW_
   RAISEDrPEN_EYES_AND_HAND_OVER_MOUTHyMOUTHa_AND_COLD_SWEAToVOMITINGtPARTY_HORN_AND_PARTY_HATxEE
   KING_EYEkLEADING_EYESnROLLING_EYESmSTUCK-OUT_TONGUEa_AND_TIGHTLY-CLOSED_EYEStWINKING_EYEzhTEAR
   S_OF_JOYlHERMOMETERlUNEVEN_EYES_AND_WAVY_MOUTHzcOUT_MOUTHpSIMILE_SIGNlTORYfIRYdLAFELeLEN_LEAFh
   ING_DIAGONAL_CROSSING_NORTH_EAST_ARROWqRISING_DIAGONALyIN_WHITE_CIRCLE_IN_BLACK_SQUAREzvMILYeR
   SI_SYMBOLkTHER_CHRISTMASoX_ICONeMACHINEkEARFUL_FACEjTHERfMALE_SIGNiININE_ORDINAL_INDICATORyNCE
   ReRRIS_WHEELiYeFbIELD_HOCKEY_STICK_AND_BALLzGURE_DASHeSPACEkLE_CABINEThFOLDERgSEPARATORlM_FRAM
   ESgPROJECTORmNITE_PART_INTEGRALsREa_ENGINEfXTINGUISHERnCRACKERhWORK_SPARKLERjSgST_PLACE_MEDALl
   QUARTER_MOONa_SYMBOLgWITH_FACEwSTRONG_ISOLATEsSHa_CAKE_WITH_SWIRL_DESIGNxEYEdING_POLE_AND_FISH
   sTED_HAND_SIGNoVE_DOT_MARKePUNCTUATIONtLAG_IN_HOLEjMINGOfT_SHOEfBREADfNESSgEUR-DE-LISjXED_BICE
   PSlOPPY_DISKiRAL_HEARTjWERa_PLAYING_CARDSmUNCTUATION_MARKvUSHED_FACEkYaING_DISCeENVELOPEiSAUCE
   RmOGaGYdLDEReNDUEeOTaPRINTSiR_ALLeCESdK_AND_KNIFEa_WITH_PLATEvED_PARAGRAPHOSoINGeM_FEEDgTUNE_C
   OOKIEmUNTAINfR_BALLOON-SPOKED_ASTERISKxCLUB-SPOKED_ASTERISKtORNER_ARROWS_CIRCLING_ANTICLOCKWIS
   EzlDOT_MARKePUNCTUATIONpLEAF_CLOVERlPOINTED_BLACK_STARsTEARDROP-SPOKED_ASTERISKz-PER-EM_SPACEn
   TH_ROOTjX_FACEhRACTION_NUMERATOR_ONEnSLASHlME_WITH_AN_XePICTUREhTILESoEEZING_FACEkNCH_FRANC_SI
   GNiIESkIED_SHRIMPkOG_FACEgNT-FACING_BABY_CHICKrTILTED_SHADOWED_WHITE_RIGHTWARDS_ARROWzqWNaING_
   FACE_WITH_OPEN_MOUTHzdSaIcUEL_PUMPhLL_BLOCKfMOON_SYMBOLgWITH_FACEoOUTER_JOINkSTOPfWIDTH_AMPERS
   ANDiPOSTROPHEjSTERISKiBROKEN_BARkCENT_SIGNiIRCUMFLEX_ACCENTqOLONdMMAbERCIAL_ATnDIGIT_EIGHTfFIV
   EdOUReNINEeONEdSEVENeIXdTHREEeWOdZEROjOLLAR_SIGNlEQUALS_SIGNkXCLAMATION_MARKqFULL_STOPjGRAVE_A
   CCENTkEATER-THAN_SIGNrHYPHEN-MINUSmLATIN_CAPITAL_LETTER_AbBbCbDbEbFbGbHbIbJbKbLbMbNbObPbQbRbSb
   TbUbVbWbXbYbZqSMALL_LETTER_AbBbCbDbEbFbGbHbIbJbKbLbMbNbObPbQbRbSbTbUbVbWbXbYbZtEFT_CURLY_BRACK
   ETnPARENTHESISlSQUARE_BRACKEToWHITE_PARENTHESISuSS-THAN_SIGNnOW_LINEiMACRONgNOT_SIGNhUMBER_SIG
   NlPERCENT_SIGNlLUS_SIGNiOUND_SIGNkQUESTION_MARKlOTATION_MARKoREVERSE_SOLIDUSoIGHT_CURLY_BRACKE
   TnPARENTHESISlSQUARE_BRACKEToWHITE_PARENTHESISxSEMICOLONiOLIDUShTILDEfVERTICAL_LINEnWON_SIGNiY
   EN_SIGNqNCTION_APPLICATIONrERAL_URNjSEdVS1b2b3b4eGAME_DIEgRLICfEARa_WITH_HANDLESiOUT_HUBoM_STO
   NEgINIeNIEdOMETRIC_PROPORTIONlALLY_EQUAL_TOfIVALENT_TOyRGIAN_CAPITAL_LETTER_AENcNcBANdCANcHARc
   INdILdDONdENcGANcHANeHAEbRcEbIEcOEdINcJHANdILdKANcHAReLASdMANdNARdONcPARcHAReQARdRAEdSANcHINeT
   ANbRdUNcVINdWEcXANdYNcZENcHARtLETTER_AENcINcNcBANdCANcHARcINdILdDONdELIFIeNcFIcGANcHANeHAEbRaD
   _SIGNiEbIEcOEdINcJHANdILdKANcHAReLABIAL_SIGNjSdMANdNARdONcPARcHAReQARdRAEdSANcHINeTANbRcURNED_
   GANkUNcVINdWEcXANdYNcZENcHARlMTAVRULI_CAPITAL_LETTER_AENcINcNcBANdCANcHARcINdILdDONdELIFIeNcFI
   cGANcHANeHAEbRaD_SIGNiEbIEcOEdINcJHANdILdKANcHAReLABIAL_SIGNjSdMANdNARdONcPARcHAReQARdRAEdSANc
   HINeTANbRcURNED_GANkUNcVINdWEcXANdYNcZENcHARzdPARAGRAPH_SEPARATORtSMALL_LETTER_AENcNcBANdCANcH
   ARcINdILdDONdENcGANcHANeHAEbRcEbIEcOEdINcJHANdILdKANcHAReLASdMANdNARdONcPARcHAReQARdRAEdSANcHI
   NeTANbRdUNcVINdWEcXANdYNcZENcHARyRMAN_PENNY_SIGNpTA_MARKiHOSTeIMEL_SYMBOLkRAFFE_FACEjLaS_SYMBO
   LlLAGOLITIC_CAPITAL_LETTER_AZUdBIG_YUSgUKYeCAUDATE_CHRIVInHRIVIgDJERVIfOBROeZELOfFITAdRITUfGLA
   GOLIhHERUeIaNITIAL_IZHElOTATED_BIG_YUShSMALL_YUSqZHEbITSAhKAKOeLATINATE_MYSLITEpJUDIJEhMYSLITE
   hNASHIfONUcTUdPEbOKOJIgRITSIfSHAbTAaPICgLOVOeMALL_YUSa_WITH_TAILsPIDERY_HAkTROKUTASTI_AlSIcVRI
   DOgUKUdVEDEeYATIdERIbUcSTUeObUcZEMLJAfHIVETEwSMALL_LETTER_AZUdBIG_YUSgUKYeCAUDATE_CHRIVInHRIVI
   gDJERVIfOBROeZELOfFITAdRITUfGLAGOLIhHERUeIaNITIAL_IZHElOTATED_BIG_YUShSMALL_YUSqZHEbITSAhKAKOe
   LATINATE_MYSLITEpJUDIJEhMYSLITEhNASHIfONUcTUdPEbOKOJIgRITSIfSHAbTAaPICgLOVOeMALL_YUSa_WITH_TAI
   LsPIDERY_HAkTROKUTASTI_AlSIcVRIDOgUKUdVEDEeYATIdERIbUcSTUeObUcZEMLJAfHIVETEzdSS_OF_MILKlEICH_S
   TARKkOBE_WITH_MERIDIANSrVESdWING_STARlOAL_NETfTcGGLESfLFEReRILLAfTHIC_LETTER_AHSAdIHVUSgBAIRKA
   NhDAGSeEISdFAIHUfGIBAeHAGLdWAIRfIGGWSeUJAeJERdKUSMAfLAGUSfMANNAfNAUTHSfINE_HUNDREDiTYgOTHALfPA
   IRTHRAiQAIRTHRAiRAIDAfSAUILfTEIWSeHIUTHgURUSeWINJAsRADUATION_CAPlNTHA_AU_LENGTH_MARKoLETTER_Aa
   AbIbUcBAbHAdCAbHAdDAbDAbHAdHAdEEcGAbHAdHAcIaIcJAbHAdKAbHAdLAbLAdMAcNAbGAcNAcYAdOOcPAbHAdRAcSAb
   HAcSAdTAbHAcTAbHAeUaUcVAbEDIC_ANUSVARAiDOUBLE_ANUSVARAuOCALIC_LaLcRaRkYAjOMcSIGN_ANUSVARAhVAGR
   AHAiCANDRABINDUkOMBINING_ANUSVARA_ABOVEyNUKTAfPLUTAfVIRAMAeSARGAmVOWEL_SIGN_AAbIbUcEEcIaIcOOcU
   aUcVOCALIC_LaLcRaRzbPESdVE_ACCENTkEATER-THAN_ABOVE_DOUBLE-LINE_EQUAL_ABOVE_LESS-THANziLESS-THA
   N_ABOVE_DOUBLE-LINE_EQUALziRIGHTWARDS_ARROWqSIMILAR_ABOVE_LESS-THANpOR_EQUALpLANTED_EQUAL_ABOV
   E_LESS-THAN_ABOVE_SLANTED_EQUALzzeND_NOT_APPROXIMATEpSINGLE-LINE_NOT_EQUAL_TOzdBESIDE_LESS-THA
   NpUT_NOT_EQUAL_TOfIVALENT_TOvCLOSED_BY_CURVEa_ABOVE_SLANTED_EQUALzkEQUAL_TO_OR_LESS-THANvOR_AP
   PROXIMATElEQUAL_TOfIVALENT_TOnLESS-THANjSLANTED_EQUAL_TOa_WITH_DOT_ABOVEa_LEFTkINSIDEzjVER_EQU
   AL_TOjLAPPING_LESS-THANvSIGNeWITH_CIRCLE_INSIDEnDOTdQUESTION_MARK_ABOVEzjEK_ACROPHONIC_ATTIC_F
   IFTYa_STATERShTALENTSgHOUSANDa_STATERSuVEa_HUNDREDa_STATERShTALENTSpSTATERShTALENTSgHOUSANDa_T
   ALENTSvONE_DRACHMAhHALFdUNDRED_STATERShTALENTSpQUARTERhTHOUSAND_STATERShTALENTSuTEN_MNASeSTATE
   RShTALENTSgHOUSAND_STATERSzbCARYSTIAN_FIVE_HUNDREDvYRENAIC_TWO_DRACHMASvDELPHIC_FIVE_MNASrEPID
   AUREAN_FIVE_HUNDREDmTWOa_DRACHMASxHERAEUM_ONE_PLETHRONrMIONIAN_FIFTYfONEdTENoMESSENIAN_TENnNAX
   IAN_FIVE_HUNDREDtSTRATIAN_FIFTY_MNAStTHESPIAN_FIFTYdVE_HUNDREDhTHOUSANDnONEa_HUNDREDhTHOUSANDm
   TENcHIRTYeREE_HUNDREDmWOlROEZENIAN_FIFTYa_ALTERNATE_FORMsVEa_HUNDREDmTENa_ALTERNATE_FORMzoNO_T
   ELEIAjROURA_SIGNjTABE_SIGNlBETA_SYMBOLlCAPITAL_DOTTED_LUNATE_SIGMA_SYMBOLzbKAI_SYMBOLkLETTER_A
   LPHAa_WITH_DASIAa_AND_OXIAa_AND_PROSGEGRAMMENIxPERISPOMENIa_AND_PROSGEGRAMMENIzeROSGEGRAMMENIo
   VARIAa_AND_PROSGEGRAMMENIzjMACRONgOXIAePROSGEGRAMMENInSILIa_AND_OXIAa_AND_PROSGEGRAMMENIxPERIS
   POMENIa_AND_PROSGEGRAMMENIzeROSGEGRAMMENIoVARIAa_AND_PROSGEGRAMMENIzjTONOSfVARIAeRACHYqRCHAIC_
   SAMPInBETAeCHIdDELTAfEPSILONa_WITH_DASIAa_AND_OXIAeVARIApOXIAePSILIa_AND_OXIAeVARIApTONOSfVARI
   ArTAa_WITH_DASIAa_AND_OXIAa_AND_PROSGEGRAMMENIxPERISPOMENIa_AND_PROSGEGRAMMENIzeROSGEGRAMMENIo
   VARIAa_AND_PROSGEGRAMMENIzjOXIAePROSGEGRAMMENInSILIa_AND_OXIAa_AND_PROSGEGRAMMENIxPERISPOMENIa
   _AND_PROSGEGRAMMENIzeROSGEGRAMMENIoVARIAa_AND_PROSGEGRAMMENIzjTONOSfVARIAoGAMMAfHETAeIOTAa_WIT
   H_DASIAa_AND_OXIAePERISPOMENIlVARIAoIALYTIKAjMACRONgOXIAePSILIa_AND_OXIAePERISPOMENIlVARIApTON
   OSfVARIAeRACHYqKAPPAfLAMDAfMUcNUcOMEGAa_WITH_DASIAa_AND_OXIAa_AND_PROSGEGRAMMENIxPERISPOMENIa_
   AND_PROSGEGRAMMENIzeROSGEGRAMMENIoVARIAa_AND_PROSGEGRAMMENIzjOXIAePROSGEGRAMMENInSILIa_AND_OXI
   Aa_AND_PROSGEGRAMMENIxPERISPOMENIa_AND_PROSGEGRAMMENIzeROSGEGRAMMENIoVARIAa_AND_PROSGEGRAMMENI
   zjTONOSfVARIAoICRONa_WITH_DASIAa_AND_OXIAeVARIApOXIAePSILIa_AND_OXIAeVARIApTONOSfVARIAsPAMPHYL
   IAN_DIGAMMArHIcIbSIdRHOa_WITH_DASIAoSANcHOcIGMAfTAUcHETAfUPSILONa_WITH_DASIAa_AND_OXIAePERISPO
   MENIlVARIAoIALYTIKAjMACRONgOXIAeTONOSfVARIAeRACHYtXIcYOTdZETAkUNATE_SIGMA_SYMBOLtREVERSED_DOTT
   ED_LUNATE_SIGMA_SYMBOLzbLUNATE_SIGMA_SYMBOLzdTHETA_SYMBOLuDASIAa_AND_OXIAePERISPOMENIlVARIAoIA
   LYTIKA_AND_OXIAePERISPOMENIlVARIAjTONOSoRACHMA_SIGNmFIVE_OBOLS_SIGNoOUR_OBOLS_SIGNpGRAMMA_SIGN
   lINDICTION_SIGNmSTRUMENTAL_NOTATION_SYMBOL-1a1b2b3b4b7b8b9c2a3b4b5b6b7b9c30b2b6b7b8b9c4a0b2b3b
   5b7b8b9c5a0b1b2b3b4c7b8zfKAI_SYMBOLiPPA_SYMBOLlORONISgYATHOS_BASE_SIGNrLETTER_ARCHAIC_KOPPAnDI
   GAMMAhKOPPAfSAMPIeMALL_CAPITAL_GAMMAfLAMDAfOMEGAfPIbSIdRHOqTIGMAgYOTjITRA_SIGNjOWER_NUMERAL_SI
   GNrUNATE_EPSILON_SYMBOLoSIGMA_SYMBOLtMETRETES_SIGNmUSICAL_LEIMMAoNUMERAL_SIGNmOBOL_SIGNiNE_HAL
   F_SIGNa_ALTERNATE_FORMyQUARTER_SIGNpUNKIA_SIGNkXIAePERISPOMENIkHI_SYMBOLjI_SYMBOLiROSGEGRAMMEN
   InSILIa_AND_OXIAePERISPOMENIlVARIApQUESTION_MARKnREVERSED_LUNATE_EPSILON_SYMBOLzeHO_SYMBOLgWIT
   H_STROKE_SYMBOLwSINUSOID_SIGNmMALL_DOTTED_LUNATE_SIGMA_SYMBOLzbLETTER_ALPHAa_WITH_DASIAa_AND_O
   XIAa_AND_YPOGEGRAMMENIwPERISPOMENIa_AND_YPOGEGRAMMENIzeVARIAa_AND_YPOGEGRAMMENIxYPOGEGRAMMENIx
   MACRONgOXIAa_AND_YPOGEGRAMMENIwPERISPOMENIa_AND_YPOGEGRAMMENIzdSILIa_AND_OXIAa_AND_YPOGEGRAMME
   NIwPERISPOMENIa_AND_YPOGEGRAMMENIzeVARIAa_AND_YPOGEGRAMMENIxYPOGEGRAMMENIxTONOSfVARIAa_AND_YPO
   GEGRAMMENIwRACHYgYPOGEGRAMMENIxRCHAIC_KOPPAfSAMPInBETAeCHIdDELTAeIGAMMAhEPSILONa_WITH_DASIAa_A
   ND_OXIAeVARIApOXIAePSILIa_AND_OXIAeVARIApTONOSfVARIArTAa_WITH_DASIAa_AND_OXIAa_AND_YPOGEGRAMME
   NIwPERISPOMENIa_AND_YPOGEGRAMMENIzeVARIAa_AND_YPOGEGRAMMENIxYPOGEGRAMMENIxOXIAa_AND_YPOGEGRAMM
   ENIwPERISPOMENIa_AND_YPOGEGRAMMENIzdSILIa_AND_OXIAa_AND_YPOGEGRAMMENIwPERISPOMENIa_AND_YPOGEGR
   AMMENIzeVARIAa_AND_YPOGEGRAMMENIxYPOGEGRAMMENIxTONOSfVARIAa_AND_YPOGEGRAMMENIxYPOGEGRAMMENIwFI
   NAL_SIGMAlGAMMAfHETAeIOTAa_WITH_DASIAa_AND_OXIAePERISPOMENIlVARIAoIALYTIKAa_AND_OXIAePERISPOME
   NIlTONOSfVARIAtMACRONgOXIAePERISPOMENIkSILIa_AND_OXIAePERISPOMENIlVARIApTONOSfVARIAeRACHYqKAPP
   AeOPPAfLAMDAfMUcNUcOMEGAa_WITH_DASIAa_AND_OXIAa_AND_YPOGEGRAMMENIwPERISPOMENIa_AND_YPOGEGRAMME
   NIzeVARIAa_AND_YPOGEGRAMMENIxYPOGEGRAMMENIxOXIAa_AND_YPOGEGRAMMENIwPERISPOMENIa_AND_YPOGEGRAMM
   ENIzdSILIa_AND_OXIAa_AND_YPOGEGRAMMENIwPERISPOMENIa_AND_YPOGEGRAMMENIzeVARIAa_AND_YPOGEGRAMMEN
   IxYPOGEGRAMMENIxTONOSfVARIAa_AND_YPOGEGRAMMENIxYPOGEGRAMMENIwICRONa_WITH_DASIAa_AND_OXIAeVARIA
   pOXIAePSILIa_AND_OXIAeVARIApTONOSfVARIAsPAMPHYLIAN_DIGAMMArHIcIbSIdRHOa_WITH_DASIAfPSILIoSAMPI
   dNcHOcIGMAeTIGMAgTAUcHETAfUPSILONa_WITH_DASIAa_AND_OXIAePERISPOMENIlVARIAoIALYTIKAa_AND_OXIAeP
   ERISPOMENIlTONOSfVARIAtMACRONgOXIAePERISPOMENIkSILIa_AND_OXIAePERISPOMENIlVARIApTONOSfVARIAeRA
   CHYtXIcZETAlREVERSED_DOTTED_LUNATE_SIGMA_SYMBOLzbLUNATE_SIGMA_SYMBOLziUBSCRIPT_SMALL_LETTER_BE
   TAeCHIdGAMMAfPHIdRHOzYMBOL_TAU_RHOoTALENT_SIGNkHETA_SYMBOLkREE_OBOLS_SIGNkQUARTERS_SIGNsONOSeR
   YBLION_BASE_SIGNrWO_OBOLS_SIGNkTHIRDS_SIGNpUPSILON_WITH_ACUTE_AND_HOOK_SYMBOLvDIAERESIS_AND_HO
   OK_SYMBOLzHOOK_SYMBOLyVARIAeOCAL_NOTATION_SYMBOL-1a0b1b2b3b4b5b6b7b8b9c2a0b1b2b3b4c3b4b5a0b1b2
   b3b4c6b7b8b9xXESTES_SIGNlYEAR_SIGNiPOGEGRAMMENInZERO_SIGNlN_APPLEfBOOKeHEARTfSALADjIMACING_FAC
   ElNNING_CAT_FACE_WITH_SMILING_EYESzbFACEa_WITH_ONE_LARGE_AND_ONE_SMALL_EYEzcSMILING_EYESlTAR_E
   YESzbOUP_MARKeSEPARATORmWING_HEARTmSbUARANI_SIGNiDSMANhIDE_DOGgTAReJARATI_ABBREVIATION_SIGNrDI
   GIT_EIGHTfFIVEdOUReNINEeONEdSEVENeIXdTHREEeWOdZEROkLETTER_AaAbIbUcBAbHAdCAbHAdDAbDAbHAdHAdEbGA
   bHAdHAcIaIcJAbHAdKAbHAdLAbLAdMAcNAbGAcNAcYAdObPAbHAdRAcSAbHAcSAdTAbHAcTAbHAeUaUcVAbOCALIC_LaLc
   RaRkYAcZHAkOMcRUPEE_SIGNkSIGN_ANUSVARAhVAGRAHAiCANDRABINDUkIRCLE_NUKTA_ABOVEsMADDAHgNUKTAfSHAD
   DAfUKUNfTHREE-DOT_NUKTA_ABOVEuWO-CIRCLE_NUKTA_ABOVEwVIRAMAeSARGAmVOWEL_CANDRA_EbOiSIGN_AAbIbUc
   CANDRA_EbOiEbIaIcObUaUcVOCALIC_LaLcRaRzdNJALA_GONDI_DIGIT_EIGHTfFIVEdOUReNINEeONEdSEVENeIXdTHR
   EEeWOdZEROkLETTER_AaAbIbUcBAbHAdCAbHAdDAbDAbHAdHAdEEcGAbHAdHAcIaIcJAbHAdKAbHAdLAbLAdMAcNAbGAdO
   OcPAbHAdRAcSAcTAbHAcTAbHAeUaUcVAcYAjOMcSIGN_ANUSVARAiVISARGAmVIRAMAfOWEL_SIGN_AAbIbUcEEcIaIcOO
   cUaUzRMUKHI_ABBREVIATION_SIGNqDDAKfDIGIT_EIGHTfFIVEdOUReNINEeONEdSEVENeIXdTHREEeWOdZEROkEK_ONK
   ARiIRIdLETTER_AaAbIbUcBAbHAdCAbHAdDAbDAbHAdHAdEEcFAcGAbHAbHAeHAcIaIcJAbHAdKAbHAbHAeLAbLAdMAcNA
   bGAcNAcYAdOOcPAbHAdRAbRAdSAbHAdTAbHAcTAbHAeUaUcVAcYAcZAjSIGN_ADAK_BINDIkBINDIfNUKTAfUDAATfVIRA
   MAeSARGAhYAKASHlTIPPIfURAdVOWEL_SIGN_AAbIbUcEEcIaIcOOcUaUwHADESdIR_SPACEgCUTfLFWIDTH_BLACK_SQU
   AREmDOWNWARDS_ARROWpFORMS_LIGHT_VERTICALuHANGUL_FILLERgLETTER_AaEcCHIEUCHgIEUCfEaObUcHIEUHfIaE
   UNGfKHIEUKHgIYEOKa-SIOSlMIEUMfNIEUNa-CIEUCfHIEUHlOaEcPHIEUPHgIEUPa-SIOSkRIEULa-HIEUHfKIYEOKgMI
   EUMfPHIEUPHgIEUPfSIOSeTHIEUTHnSIOSdSANGCIEUCfKIYEOKgPIEUPfSIOSeTIKEUTlTHIEUTHgIKEUTgUbWAaEcEaO
   cIcYAaEcEaOcIbObUqIDEOGRAPHIC_COMMAfFULL_STOPvKATAKANA_LETTER_AbEbHAbEbIbObUcIbKAbEbIbObUcMAbE
   bIbObUcNaAbEbIbObUcObRAbEbIbObUcSAbEbIbMALL_AbEbIbObTUcUbYAbObUhObUcTAbEbIbObUcUbWAbOcYAbObUjM
   IDDLE_DOTkSEMI-VOICED_SOUND_MARKwVOICED_SOUND_MARKs-HIRAGANA_PROLONGED_SOUND_MARKznLEFT_CORNER
   _BRACKETpWARDS_ARROWpRIGHT_CORNER_BRACKETpWARDS_ARROWqUPWARDS_ARROWnWHITE_CIRCLEuMBURGERgMERa_
   AND_PICKeSICKLEgWRENCHoSAbTER_FACEkND_WITH_INDEX_AND_MIDDLE_FINGERS_CROSSEDzbFINGER_AND_THUMB_
   CROSSEDzlBAGbLLeSHAKEgGUL_CHOSEONG_CEONGCHIEUMCHIEUCHgIEUCfSIOSdSANGCIEUCfSIOStHIEUCHa-HIEUHfK
   HIEUKHmTUEUMCHIEUCHgIEUCfSIOSdSANGCIEUCfSIOSqIEUCa-IEUNGlFILLERgHIEUHa-SIOSkIEUNGa-CHIEUCHgIEU
   CfHIEUHfKIYEOKgMIEUMfPANSIOSgHIEUPHgIEUPfRIEULfSIOSeTHIEUTHgIKEUTmKAPYEOUNMIEUMfPHIEUPHgIEUPfR
   IEULfSSANGPIEUPrHIEUKHgIYEOKa-TIKEUTnMIEUMa-KIYEOKgPIEUPfSIOSeTIKEUTmNIEUNa-CIEUCfHIEUHfKIYEOK
   gPIEUPfSIOSeTIKEUTmPANSIOSgHIEUPHa-HIEUHfPIEUPmIEUPa-CHIEUCHgIEUCfHIEUHfKHIEUKHgIYEOKgNIEUNfPH
   IEUPHhSIOSa-CIEUCfKIYEOKgPIEUPfTHIEUTHgIKEUTkSANGSIOSjTHIEUTHgIKEUTmRIEULa-CIEUCfHIEUHfKAPYEOU
   NPIEUPmHIEUKHgIYEOKgMIEUMfNIEUNfPIEUPfSIOSdSANGKIYEOKgPIEUPfTIKEUTlTIKEUTmSIOSa-CHIEUCHgIEUCfH
   IEUHfIEUNGfKHIEUKHgIYEOKgMIEUMfNIEUNfPHIEUPHgIEUPa-KIYEOKmRIEULfSSANGSIOSjTHIEUTHgIKEUTkSANGCI
   EUCa-HIEUHlHIEUHfIEUNGfKIYEOKgNIEUNfPIEUPfRIEULfSIOSa-PIEUPkTHIEUTHgIKEUTgYEORINHIEUHqTHIEUTHg
   IKEUTa-CIEUCfKIYEOKgMIEUMfPIEUPfRIEULfSIOSlYEORINHIEUHjSIEUNGrDOUBLE_DOT_TONE_MARKuFILLERgJONG
   SEONG_CHIEUCHgIEUCa-PIEUPfSSANGPIEUPqHIEUHa-MIEUMfNIEUNfPIEUPfRIEULlIEUNGa-KHIEUKHgIYEOKgSSANG
   KIYEOKrKAPYEOUNMIEUMfPHIEUPHgIEUPfRIEULmHIEUKHgIYEOKa-CHIEUCHhHIEUHfKHIEUKHhNIEUNfPIEUPfRIEULf
   SIOSa-KIYEOKsMIEUMa-CHIEUCHgIEUCfHIEUHfKIYEOKgNIEUNfPANSIOSgIEUPa-SIOSkRIEULfSIOSdSANGNIEUNfSI
   OSpNIEUNa-CHIEUCHgIEUCfHIEUHfKIYEOKgPANSIOShRIEULfSIOSeTHIEUTHgIKEUTmPANSIOSa-KAPYEOUNPIEUPnPI
   EUPmHIEUPHa-PIEUPfSIOSeTHIEUTHoIEUPa-CHIEUCHgIEUCfHIEUHfMIEUMfPHIEUPHhRIEULa-PHIEUPHnSIOSa-TIK
   EUTlTIKEUTmRIEULa-HIEUHfKAPYEOUNPIEUPmHIEUKHgIYEOKa-HIEUHfSIOSlMIEUMa-HIEUHfKIYEOKgSIOSkNIEUNf
   PANSIOSgHIEUPHgIEUPa-HIEUHfPHIEUPHhSIOSeTIKEUTmSIOSdSANGKIYEOKgSIOSjTHIEUTHgIKEUTa-HIEUHmYEORI
   NHIEUHa-HIEUHpSIEUNGoSIOSa-CHIEUCHgIEUCfHIEUHfKAPYEOUNPIEUPmIYEOKgMIEUMfPANSIOSgIEUPfRIEULfTHI
   EUTHgIKEUTkSANGCIEUCfIEUNGfKIYEOKgMIEUMfNIEUNfPIEUPfRIEULa-KHIEUKHnSIOSa-KIYEOKgTIKEUTlTIKEUTa
   -PIEUPmYESIEUNGnTHIEUTHgIKEUTa-CHIEUCHgIEUCfKIYEOKgPIEUPfRIEULfSIOSa-KIYEOKlTHIEUTHoYEORINHIEU
   HjSIEUNGa-HIEUHfKHIEUKHgIYEOKgMIEUMfPANSIOShSIOSdSANGKIYEOKzeUNGSEONG_Aa-EUcObUcEbRAEAa-AbEaOc
   IbUhEaOa-EUcObUdUa-AbEaObUcObUeFILLERgIa-AaRAEAfEUcIbOa-IdUbYAa-OcEcEaOcObUeOa-EaOcOa-IdUbYAaE
   cEaOeEcSSANGARAEAkUa-AaEcEO-EUfI-IdUbYEaOfWAaEcEaOcIcYAa-ObUbYOdEcEaOa-ObUbYAfIa-UdOa-AaEcEOcI
   bObYAaEcEOfUa-AaEcEaOcIbObUbYEaOqLETTER_AaEbRAEAaEgCHIEUCHgIEUCfEaObUcHIEUHfIaEUNGfKAPYEOUNMIE
   UMfPHIEUPHgIEUPfSSANGPIEUPrHIEUKHgIYEOKa-SIOSlMIEUMa-PANSIOSgIEUPfSIOSkNIEUNa-CIEUCfHIEUHfPANS
   IOShSIOSeTIKEUTmOaEcPANSIOSgHIEUPHgIEUPa-CIEUCfKIYEOKgSIOSa-KIYEOKgTIKEUTlTHIEUTHgIKEUTmRIEULa
   -HIEUHfKIYEOKa-SIOSlMIEUMfPANSIOSgHIEUPHgIEUPa-SIOSkSIOSeTHIEUTHgIKEUTgYEORINHIEUHrSIOSa-CIEUC
   fKIYEOKgNIEUNfPIEUPfTIKEUTkSANGCIEUCfHIEUHfIEUNGfKIYEOKgNIEUNfPIEUPfSIOSeTIKEUTlTHIEUTHgIKEUTg
   UbWAaEcEaOcIcYAaEcEaOaRINHIEUHjSIEUNGa-PANSIOShSIOSmIbOa-IbYAaEfUa-IbYEaOnSINGLE_DOT_TONE_MARK
   xZHOU_NUMERAL_EIGHTfFIVEdOUReNINEeONEdSEVENeIXdTENcHIRTYeREEeWENTYeOrIFI_ROHINGYA_DIGIT_EIGHTf
   FIVEdOUReNINEeONEdSEVENeIXdTHREEeWOdZEROkLETTER_AbBAcCAcDAbDAdFAcGAcHAcJAcKAbHAcINNA_WAcYAiLAc
   MAcNAbGAcYAdPAcRAbRAdSAbHAdTAbTAdVAcWAcYAcZAjMARK_NA_KHONNAjSAKINkSIGN_HARBAHAYiTAHALAeNAcSSIk
   VOWEL_AbEbIbObUuUNOO_LETTER_AbBAcDAcGAcHAcIbKAcLAcMAcNAbGAdPAcRAcSAcTAcUbWAcYAjSIGN_PAMUDPODnV
   OWEL_SIGN_IbUsPPY_PERSON_RAISING_ONE_HANDzcRD_DISKhTCHING_CHICKlRAN_LETTER_ALEPHeYNdBETHeDALET
   H-RESHlGIMELfHEaTHeKAPHeLAMEDHgMEMdNUNdPEcQOPHeSADHEdMEKHfHINeTAWcETHeWAWdYODHeZAYNlNUMBER_FIV
   EeONEa_HUNDREDlTENcWENTYtEADPHONEfSTONEa_GRAVEYARD_SYMBOLxR-NO-EVIL_MONKEYpT_DECORATIONkHANDSf
   WITH_ARROWfRIBBONgTIP_ON_THE_LEFTxVY_AMPERSAND_ORNAMENTrRROW_SHAFT_WIDTH_ONEa_HALFeTHIRDjTWO_T
   HIRDSzcSTERISKiBALLOT_XhLACK_CURVED_DOWNWARDS_AND_RIGHTWARDS_ARROWzfUPWARDS_AND_RIGHTWARDS_ARR
   OWzkHEARTg-FEATHERED_NORTH_EAST_ARROWqRIGHTWARDS_ARROWqSOUTH_EAST_ARROWzhCHECK_MARKhVRON_SNOWF
   LAKEqIRCLEa_WITH_CIRCLE_INSIDEnSTROKE_AND_TWO_DOTS_ABOVEzgD_SALTIREoONCAVE-POINTED_BLACK_RIGHT
   WARDS_ARROWznDASHED_TRIANGLE-HEADED_RIGHTWARDS_ARROWznIVISION_SIGNmOLLAR_SIGNjUBLE_COMMA_QUOTA
   TION_MARK_ORNAMENTzeTURNED_COMMA_QUOTATION_MARK_ORNAMENTzqWNWARDS_ARROW_WITH_EQUILATERAL_ARROW
   HEADvLARGE_EQUILATERAL_ARROWHEADzxEIGHT_POINTED_BLACK_STARkPINWHEEL_STARnRECTILINEAR_BLACK_STA
   RzfSPOKED_ASTERISKpTEARDROP-SPOKED_PROPELLER_ASTERISKzoQUALS_SIGNkXCLAMATION_MARK_ORNAMENTiSYM
   BOLxFIVE_POINTED_BLACK_STARsSPOKED_ASTERISKtOUR_BALLOON-SPOKED_ASTERISKzdGREEK_CROSSlHEART_EXC
   LAMATION_MARK_ORNAMENTzfORIZONTAL_FILLpINTERROBANG_ORNAMENTuLARGE_CIRCLEkTIN_CROSSkEFT-POINTIN
   G_ANGLE_BRACKET_ORNAMENTqQUOTATION_MARK_ORNAMENTzoWARDS_ARROW_WITH_EQUILATERAL_ARROWHEADvLARGE
   _EQUILATERAL_ARROWHEADzwIGATURE_OPEN_ET_ORNAMENTyOW_DOUBLE_COMMA_QUOTATION_MARK_ORNAMENTzlSING
   LE_COMMA_QUOTATION_MARK_ORNAMENTzmER_RIGHT-SHADOWED_WHITE_RIGHTWARDS_ARROWzsMINUS_SIGNjULTIPLI
   CATION_XqNORTH_EAST_ARROWfPOINTING_BUDdVINE_LEAFxWEST_POINTING_BUDdVINE_LEAFzeOPEN_CENTRE_CROS
   SqUTLINED_BLACK_STARsVAL_WITH_OVAL_INSIDEvPLUS_SIGNjRIGHT-POINTING_ANGLE_BRACKET_ORNAMENTqQUOT
   ATION_MARK_ORNAMENTzoWARDS_ARROWa_WITH_EQUILATERAL_ARROWHEADvLARGE_EQUILATERAL_ARROWHEADzxOUND
   -TIPPED_RIGHTWARDS_ARROWzeSALTIREfNS-SERIF_INTERROBANG_ORNAMENTzfCRIPT_LIGATURE_ET_ORNAMENTzbI
   NGLE_COMMA_QUOTATION_MARK_ORNAMENTzeTURNED_COMMA_QUOTATION_MARK_ORNAMENTzqX_POINTED_BLACK_STAR
   sSPOKED_ASTERISKsOUTH_EAST_ARROWfPOINTING_BUDdVINE_LEAFxWEST_POINTING_BUDdVINE_LEAFzdPARKLEhTE
   ARDROP-SHANKED_RIGHTWARDS_ARROWxPOKED_ASTERISKiPINWHEEL_ASTERISKzhRIANGLE-HEADED_RIGHTWARDS_AR
   ROWzgWELVE_POINTED_BLACK_STARkPINWHEEL_STARzdUPPER_RIGHT-SHADOWED_WHITE_RIGHTWARDS_ARROWzqWARD
   S_ARROW_WITH_EQUILATERAL_ARROWHEADvLARGE_EQUILATERAL_ARROWHEADzvVERTICAL_BARmWEDGE-TAILED_RIGH
   TWARDS_ARROWzdHITE_CIRCLEgDOWN-POINTING_TRIANGLEwSQUARElIDE-HEADED_RIGHTWARDS_ARROWzhBREW_ACCE
   NT_ATNAH_HAFUKHmDARGAeEHIeETNAHTAhGERESHa_MUQDAMkSHAYIMjILUYeMAHAPAKHhERKHAa_KEFULAmUNAHfOLEdP
   ASHTAeZERfQADMAdRNEY_PARAlREVIAfSEGOLeHALSHELETkTELISHA_GEDOLAgQETANAmVIReIPEHAgYERAH_BEN_YOMO
   mTIVfZAQEF_GADOLfQATANjRQAeINORmLETTER_ALEFa_WITH_MAPIQfPATAHfQAMATSoTERNATIVE_AYINePLUS_SIGNu
   YINeBETa_WITH_DAGESHgRAFEnDALETa_WITH_DAGESHrFINAL_KAFa_WITH_DAGESHpMEMdNUNdPEa_WITH_DAGESHoTS
   ADIlGIMELa_WITH_DAGESHrHEa_WITH_MAPIQlTdKAFa_WITH_DAGESHgRAFEnLAMEDa_WITH_DAGESHrMEMa_WITH_DAG
   ESHpNUNa_WITH_DAGESHpPEa_WITH_DAGESHgRAFEmQOFa_WITH_DAGESHpRESHa_WITH_DAGESHqSAMEKHa_WITH_DAGE
   SHrHINa_WITH_DAGESHa_AND_SHIN_DOThIN_DOTsSHIN_DOThIN_DOTrTAVa_WITH_DAGESHoETa_WITH_DAGESHoSADI
   a_WITH_DAGESHrVAVa_WITH_DAGESHgHOLAMoWIDE_ALEFeDALETfFINAL_MEMjHEcKAFdLAMEDfRESHeTAViYODa_WITH
   _DAGESHgHIRIQoZAYINa_WITH_DAGESHxIGATURE_ALEF_LAMEDkYIDDISH_DOUBLE_VAVdYODkVAV_YODhYOD_YOD_PAT
   AHzfMARK_LOWER_DOTjMASORA_CIRCLEnUPPER_DOToPOINT_DAGESH_OR_MAPIQpHATAF_PATAHfQAMATSgSEGOLkIRIQ
   eOLAMa_HASER_FOR_VAVtJUDEO-SPANISH_VARIKAuMETEGfPATAHfQAMATSa_QATANlUBUTSgRAFEeSEGOLeHEVAdIN_D
   OThIN_DOThTSEREkUNCTUATION_GERESHdSHAYIMjMAQAFfNUN_HAFUKHAlPASEQfSOF_PASUQvYOD_TRIANGLErDGEHOG
   gLICOPTERhLSCHREIBER_PAUSE_SYMBOLxM_SYMBOLhET_WITH_WHITE_CROSSvNTAIGANA_LETTER_A-1b2b3bWOeE-1b
   2b3b4b5b6dHA-1a0b1c2b3b4b5b6b7b8b9dE-1b2b3b4b5b6b7dI-1b2b3b4b5b6b7dO-1b2b3b4b5b6b7b8dU-1b2b3eI
   -1b2b3b4dKA-1a0b1c2b3b4b5b6b7b8b9bKEeE-1b2b3b4b5b6dI-1b2b3b4b5b6b7b8dO-1b2b3bKIeU-1b2b3b4b5b6b
   7eMA-1b2b3b4b5b6b7dE-1b2bMAeI-1b2b3b4b5b6b7dO-1b2b3b4b5b6dU-1b2b3b4eN-MU-MO-1b2iA-1b2b3b4b5b6b
   7b8b9dE-1b2b3b4b5b6bKOeI-1b2b3b4b5b6b7bTEeO-1b2b3b4b5dU-1b2b3eO-1b2b3dRA-1b2b3b4dE-1b2b3b4dI-1
   b2b3b4b5b6b7dO-1b2b3b4b5b6dU-1b2b3b4b5b6eSA-1b2b3b4b5b6b7b8dE-1b2b3b4b5dI-1b2b3b4b5b6dO-1b2b3b
   4b5b6b7dU-1b2b3b4b5b6b7b8eTA-1b2b3b4dE-1b2b3b4b5b6b7b8b9dI-1b2b3b4b5b6b7dO-1b2b3b4b5b6bRAeU-1b
   2b3b4bTOfU-1b2b3b4b5dWA-1b2b3b4b5dE-1b2b3b4dI-1b2b3b4b5dO-1b2b3b4b5b6b7eYA-1b2b3b4b5bYOeO-1b2b
   3b4b5b6dU-1b2b3b4uRBbMITIAN_CONJUGATE_MATRIXyXAGRAM_FOR_ABUNDANCEiFTER_COMPLETIONpPPROACHiBEFO
   RE_COMPLETIONqITING_THROUGHnREAKTHROUGHmCOMING_TO_MEETmNFLICTfTEMPLATIONnDARKENING_OF_THE_LIGH
   TvECREASEgLIVERANCEjVELOPMENTkIFFICULTY_AT_THE_BEGINNINGzSPERSIONjURATIONiENTHUSIASMkFELLOWSHI
   PjOLLOWINGjGATHERING_TOGETHERrRACEdEAT_POSSESSIONiWEReREPONDERANCEnTAMINGmHOLDING_TOGETHERqINC
   REASEgFLUENCEhNER_TRUTHiOCENCEjLIMITATIONkMODESTYfUTH_CORNERSnOBSTRUCTIONkPPOSITIONhRESSIONkPE
   ACEeROGRESShUSHING_UPWARDoRETREATeURNeVOLUTIONkSMALL_PREPONDERANCEnTAMINGlPLITTING_APARToTANDS
   TILLkTHE_ABYSMAL_WATERmRMYcOUSING_THUNDERqCAULDRONhLINGING_FIREmREATIVE_HEAVENpFAMILYgGENTLE_W
   INDlJOYOUS_LAKElKEEPING_STILL_MOUNTAINwMARRYING_MAIDENpRECEPTIVE_EARTHpWANDERERhELLhREADINGiWA
   ITINGgORK_ON_THE_DECAYEDtYOUTHFUL_FOLLYzbIBISCUSgGH_BRIGHTNESS_SYMBOLrOCTET_PRESETmVOLTAGE_SIG
   Nn-HEELED_SHOElSPEED_TRAINa_WITH_BULLET_NOSEzgKING_BOOTjNDU_TEMPLEkPPOPOTAMUSkRAGANA_DIGRAPH_Y
   ORImITERATION_MARKoLETTER_AaRCHAIC_WUcYEkBAbEbIbObUcDAbEbIbObUcEbGAbEbIbObUcHAbEbIbObUcIbKAbEb
   IbObUcMAbEbIbObUcNaAbEbIbObUcObPAbEbIbObUcRAbEbIbObUcSAbEbIbMALL_AbEbIbKAbEcObTUcUbWAbEbIbOcYA
   bObUhObUcTAbEbIbObUcUbVUcWAbEbIbOcYAbObUcZAbEbIbObUjVOICED_ITERATION_MARKzdSTORIC_SITEmOCHOdLE
   bLOW_QUILT_SQUARE_ORNAMENTa_IN_BLACK_SQUAREzrMOTHETICiNEY_POTeBEEgOKcPbRIZONTAL_BARcLACK_HEXAG
   ONhOCTAGONnELLIPSISiLINE_EXTENSIONoMALE_WITH_STROKE_SIGNvONE_EIGHTH_BLOCK-1358e2b3b4b5b6b7sSCA
   N_LINE-1b3b7b9lTAB_KEYeULATIONa_SETdWITH_JUSTIFICATIONzdRAFFIC_LIGHTvSEa_FACEeRACINGkSPITALgT_
   BEVERAGEiDOGdPEPPERgSPRINGSiELdURGLASSa_WITH_FLOWING_SANDySEa_BUILDINGaSjWITH_GARDENqRYVNIA_SI
   GNlTaJbScUGGING_FACEkNDRED_POINTS_SYMBOLtSHED_FACEjTcYGIEAePHENa_BULLETgWITH_DIAERESISp-MINUSg
   ATION_POINToODIASTOLEkSTERESIS_SYMBOLrI_LOVE_YOU_HAND_SIGNtCE_CREAMeUBEeHOCKEY_STICK_AND_PUCKv
   SKATEiDENTICAL_TOa_AND_SLANTED_PARALLELxWITH_DOT_ABOVEsFICATION_CARDqOGRAPHIC_ANNOTATION_BOTTO
   M_MARKlEARTH_MARKkFIRST_MARKjOUR_MARKfTH_MARKlHEAVEN_MARKlLINKING_MARKmMAN_MARKhIDDLE_MARKlONE
   _MARKiREVERSE_MARKmSECOND_MARKlTHIRD_MARKiREE_MARKjOP_MARKhWO_MARKtCLOSING_MARKlOMMAfDEPARTING
   _TONE_MARKrSCRIPTION_CHARACTER_ABOVE_TO_BELOWfMIDDLE_AND_BELOWzFULL_SURROUNDnLEFT_TO_MIDDLE_AN
   D_RIGHTqRIGHTnOVERLAIDiSURROUND_FROM_ABOVEfBELOWfLEFTdOWER_LEFTkUPPER_LEFTeRIGHTzwENTERING_TON
   E_MARKsFULL_STOPjHALF_FILL_SPACEpITERATION_MARKoLEVEL_TONE_MARKpNUMBER_ZEROlRISING_TONE_MARKqS
   PACEfTALLY_MARK_FIVEdOUReONEdTHREEeWOnELEGRAPH_LINE_FEED_SEPARATOR_SYMBOLzbSYMBOL_FOR_APRILeUG
   USTgDAY_EIGHTaEENhLEVENgFIFTEENfVEdOURaTEENiNINEaTEENiONEdSEVENaTEENiIXaTEENhTENcHIRTEENdYa-ON
   EiREEeWELVEdNTYa-EIGHTfFIVEdOUReNINEeONEdSEVENeIXdTHREEeWOiOgECEMBERiFEBRUARYiHOUR_EIGHTaEENhL
   EVENgFIFTEENfVEdOURaTEENiNINEaTEENiONEdSEVENaTEENiIXaTEENhTENcHIRTEENgREEeWELVEdNTYa-FOUReONEd
   THREEeWOiOdZEROjJANUARYgULYcNEeMARCHdYdNOVEMBERiOCTOBERhSEPTEMBERzfVARIATION_INDICATORzfMAGE_O
   Fa_OR_APPROXIMATELY_EQUAL_TOzhPaERIAL_ARAMAIC_LETTER_ALEPHeYINeBETHeDALETHgGIMELfHEaTHeKAPHeLA
   MEDHgMEMdNUNdPEcQOPHeRESHeSADHEdMEKHfHINeTAWcETHeWAWdYODHeZAYINmNUMBER_ONEa_HUNDREDhTHOUSANDmT
   ENa_THOUSANDlHREEeWENTYeOkSECTION_SIGNzdNBOX_TRAYiCOMING_ENVELOPEmPLETE_INFINITYqREASE_FONT_SI
   ZE_SYMBOLrS_AShMENThDaEXa_POINTING_AT_THE_VIEWERzIAN_RUPEE_SIGNnC_SIYAQ_ALTERNATE_LAKH_MARKtFR
   ACTION_ONE_HALFeQUARTERlTHREE_QUARTERSxLAKH_MARKjNUMBER_ALTERNATE_ONEdTEN_THOUSANDlWOnEIGHTa_H
   UNDREDhTHOUSANDjYa_THOUSANDpFIFTYa_THOUSANDmVEa_HUNDREDhTHOUSANDmORTYa_THOUSANDmURa_HUNDREDhTH
   OUSANDnKARORaANhLAKHaANgNINEa_HUNDREDhTHOUSANDjTYa_THOUSANDpONEa_HUNDREDhTHOUSANDmPREFIXED_EIG
   HTfFIVEdOUReNINEeONEdSEVENeIXdTHREEeWOmSEVENa_HUNDREDhTHOUSANDjTYa_THOUSANDpIXa_HUNDREDhTHOUSA
   NDjTYa_THOUSANDoTENa_THOUSANDlHIRTYa_THOUSANDnREEa_HUNDREDhTHOUSANDnWENTYa_THOUSANDnOa_HUNDRED
   hTHOUSANDtPLACEHOLDERlRUPEE_MARKuFINITYa_NEGATED_WITH_VERTICAL_BARzgORMATION_DESK_PERSONlSEPAR
   ATOR_FOUReONEdTHREEeWOmOURCEqHIBIT_ARABIC_FORM_SHAPINGtSYMMETRIC_SWAPPINGyPUT_SYMBOL_FOR_LATIN
   _CAPITAL_LETTERSpLETTERShSMALL_LETTERStNUMBERShSYMBOLSwSCRIPTIONAL_PAHLAVI_LETTER_ALEPHfBETHeD
   ALETHgGIMELfHEaTHeKAPHeLAMEDHgMEM-QOPHiNUNdPEcSADHEdMEKHfHINeTAWcETHeWAW-AYIN-RESHnYODHeZAYINm
   NUMBER_FOUReONEa_HUNDREDhTHOUSANDmTENcHREEeWENTYeOqRTHIAN_LETTER_ALEPHeYINeBETHeDALETHgGIMELfH
   EaTHeKAPHeLAMEDHgMEMdNUNdPEcQOPHeRESHeSADHEdMEKHfHINeTAWcETHeWAWdYODHeZAYINmNUMBER_FOUReONEa_H
   UNDREDhTHOUSANDmTENcHREEeWENTYeOzfERTION_SYMBOLoTEGRALa_AROUND_A_POINT_OPERATORwVERAGE_WITH_SL
   ASHsEXTENSIONjWITH_DOUBLE_STROKEnINTERSECTIONmLEFTWARDS_ARROW_WITH_HOOKzOVERBARhTIMES_SIGNkUND
   ERBARgIONpRCALATEgIOR_PRODUCTlLINEAR_ANNOTATION_ANCHORgSEPARATORjTERMINATORzcOCKED_FEMALE_AND_
   MALE_SIGNzcROBANGgSECTIONa_ABOVE_BAR_ABOVE_UNIONpUNIONlBESIDE_AND_JOINED_WITH_INTERSECTIONzkWI
   TH_DOTdLOGICAL_ANDlOVERBARxVERSE_BULLETgCHECK_MARKfER_BOARD_FILLsDOWNWARDS_ARROW_WITH_TIP_LEFT
   WARDSzjMEDIUM_SHADEmWHITE_CIRCLEpTED_EXCLAMATION_MARKqINTERROBANGlLAZY_SfOW_KAVYKAa_WITH_KAVYK
   A_ABOVEzdOHM_SIGNiPENTAGRAMjQUESTION_MARKnUNDERTIEoISIBLE_PLUSeSEPARATORjTIMESoZAKAYA_LANTERNp
   JACK-O-LANTERNmPANESE_BANK_SYMBOLlCASTLEgDOLLSfGOBLINgINDUSTRIAL_STANDARD_SYMBOLzbOGREePOST_OF
   FICElSYMBOL_FOR_BEGINNERzbRbVANESE_CONSONANT_SIGN_CAKRAfKERETfPENGKALwDIGIT_EIGHTfFIVEdOUReNIN
   EeONEdSEVENeIXdTHREEeWOdZEROkLEFT_RERENGGANmTTER_AaIcBAa_MURDAiCAa_MURDAiDAa_MAHAPRANAlDAa_MAH
   APRANAnEbGAa_MURDAiHAcIa_KAWIfIcJAa_MAHAPRANAmKAa_MURDAfSASAKiLAcMAcNAa_MURDAhGAa_LELETa_RASWA
   DIqYAa_MURDAjObPAa_CEREKfMURDAiRAa_AGUNGiSAa_MAHAPRANAiURDAiTAa_MURDAhTAa_MAHAPRANAnUbWAcYAjPA
   DA_ADEGa_ADEGiNDAPfISEN-ISENjLINGSAfUHURdNGSIgMADYAfPANGKATgISELEHhTIRTA_TUMETESnWINDUiNGKONdR
   ANGKEPlRIGHT_RERENGGANpSIGN_CECAKa_TELUkLAYARfPANYANGGAjWIGNYANmTURNED_PADA_PISELEHtVOWEL_SIGN
   _DIRGA_MUREkPEPETfSUKUa_MENDUTlTALINGeRUNGfOLONGgWULUa_MELIKzeEANSeIGSAW_PUZZLE_PIECEsOINcYSTI
   CKhUGGLINGgNOcPITERhKAABAdITHI_ABBREVIATION_SIGNrDANDAeOUBLE_DANDAfSECTION_MARKtENUMERATION_SI
   GNqLETTER_AaAbIbUcBAbHAdCAbHAdDAbDAbDHAdHAdHAdEbGAbHAdHAcIaIcJAbHAdKAbHAdLAcMAcNAbGAcNAcYAdObP
   AbHAdRAbHAdSAbHAcSAdTAbHAcTAbHAeUaUcVAcYAjNUMBER_SIGNa_ABOVErSECTION_MARKlIGN_ANUSVARAiCANDRAB
   INDUlNUKTAfVIRAMAeSARGAmVOWEL_SIGN_AAbIbUcEbIaIcObUaUcVOCALIC_RzNGAROOeXI_RADICAL_AGAINeNDcRRI
   VEdOWeXEdBADGEReMBOOfEANdIGbRDcTTERfLACKdOODdUEdOATcDYcLT_OF_CLOTHlNEcWcRANCHeISTLEfUSHfCARTcU
   LDRONgVEdHILDeITYdLANbWcIFFdOTHESgOLORdMPAREfRPSEeVERdWdDEATHdERdIPPEReSHbTINGUISHjVINATIONjO_
   NOTeGbORcTaTED_CLIFFfTENTjUBLE_XgWN_BOXhRAGONeUMcYdEARaTHdTcIGHTeMBROIDERYjNCLOSUREhTEReVENaIN
   GgYEdFACEcNGcTHERfEATHERgIELDdGHTdREcSHdLUTEdYcOOTdRAGRANTgOGdURdGATEdHOSTeOa_SLOWLYhLDdRAINcS
   SfHAIRcLBERDeF_TREE_TRUNKnNDdEADbRTdMPdIDING_ENCLOSUREpOOKcRNbSEfICEcNCHcSECTgJADEcRdKNIFEfLAC
   KcMEdEAFbTHERfEKcGSdIDbFEcNEdONGa_STRIDElMANcEATcLONeILLETeNISTERhOONcRNINGeTAReUNDbTAINfTHfNE
   TcOSEcTdOLDcNEaSELFgPEN_BOXgPOSEgPIGcLOWdOWEReRIVATEfOFOUNDiRAINcPbTcEDcICEcGHT_OPEN_BOXmVEReO
   OFdUNdSACRIFICIAL_WINEoLTcYcCHOLARfRIPTfEALcCONDeEbLFdHEEPcLLdOOTcRT_TAILED_BIRDkHREADlICKNESS
   gLKdKINdLASHcVEdICEeMALLeNOUTeOUNDePEARcECHeIRITeOONdROUTfQUAREfTANDdEAMcPcONEcPaPINGhUNcWEETf
   TABLEdLLcNNED_LEATHERnENcIGERdLEdONGUEeOTHeRACKdEEcIPODfURBANdTLEfWOa_HANDSjUSEdVALLEYfILLAGEh
   WALKa_ENCLOSUREmTEReEAPONeSTdHEATdITEeINDbEdOMANdRKdRAPcONGfYELLOWsNADA_AI_LENGTH_MARKoDIGIT_E
   IGHTfFIVEdOUReNINEeONEdSEVENeIXdTHREEeWOdZEROkLENGTH_MARKjTTER_AaAbIbUcBAbHAdCAbHAdDAbDAbHAdHA
   dEaEcFAcGAbHAdHAcIaIcJAbHAdKAbHAdLAbLAbLAeMAcNAaKAARA_POLLUmGAcNAcYAdOaOcPAbHAdRAbRAdSAbHAcSAd
   TAbHAcTAbHAeUaUcVAbOCALIC_LaLcRaRkYAjSIGN_ANUSVARAhVAGRAHAiCANDRABINDUlJIHVAMULIYAlNUKTAfSIDDH
   AMgPACING_CANDRABINDUtUPADHMANIYAlVIRAMAeSARGAmVOWEL_SIGN_AAbIbUcEaEcIaIcOaOcUaUcVOCALIC_LaLcR
   aRzcTAKANA_DIGRAPH_KOTOmITERATION_MARKoLETTER_AaRCHAIC_EbWUcYEbIkBAbEbIbObUcDAbEbIbObUcEbGAbEb
   IbObUcHAbEbIbObUcIbKAbEbIbObUcMAbEbIaNNAN_NASALIZED_TONE-1b2b3b4b5b7b8qTONE-2b3b4b5b7b8mObUcNa
   AbEbIbObUcObPAbEbIbObUcRAbEbIbObUcSAbEbIbMALL_AbEbHAbEbIbObUcIbKAbEbUcMUcNaUcObRAbEbIbObUcSIbU
   cTObUcUbWAbEbIbOcYAbObUhObUcTAbEbIbObUcUbVAbEbIbObUcWAbEbIbOcYAbObUcZAbEbIbObUjMIDDLE_DOTkVOIC
   ED_ITERATION_MARKw-HIRAGANA_DOUBLE_HYPHENnPROLONGED_SOUND_MARKuSEMI-VOICED_SOUND_MARKwVOICED_S
   OUND_MARKziYAH_LI_DIGIT_EIGHTfFIVEdOUReNINEeONEdSEVENeIXdTHREEeWOdZEROkLETTER_AbBAcCAcDAcGAcHA
   bTAdIbKAbHAdLAcMAcNAbGAcYAdOEbOcPAbHAdRAcSAbHAdTAbHAdVAcWAcYAcZAjSIGN_CWIdSHYAjTONE_CALYAa_PLO
   PHUmPLOPHUlVOWEL_EaEcObUaEqELVIN_SIGNjYaBOARDa_AND_MOUSEpCAP_TENjHAROSHTHI_DIGIT_FOUReONEdTHRE
   EeWOjFRACTION_ONE_HALFrLETTER_AbBAbHAdCAbHAdDAbDAbHAdHAdGAbHAdHAcJAcKAbHAcKAdLAcMAcNAbNAcYAdPA
   bHAdRAcSAbHAcSAdTAbHAcTAbHAcTAbHAfVAbHAdYAcZAjNUMBER_ONE_HUNDREDhTHOUSANDmTENcWENTYnPUNCTUATIO
   N_CIRCLEfRESCENT_BARmDANDAeOTbUBLE_DANDAmLINESeOTUSfMANGALAMiSMALL_CIRCLEySIGN_ANUSVARAiBAR_AB
   OVEjCAUDAfDOT_BELOWhUBLE_RING_BELOWrVISARGAmVIRAMAfOWEL_LENGTH_MARKlSIGN_EbIbObUbVOCALIC_RzeIT
   AN_SMALL_SCRIPT_CHARACTER-18B00b1b2b3b4b5b6b7b8b9bAbBbCbDbEbFc10b1b2b3b4b5b6b7b8b9bAbBbCbDbEbF
   c20b1b2b3b4b5b6b7b8b9bAbBbCbDbEbFc30b1b2b3b4b5b6b7b8b9bAbBbCbDbEbFc40b1b2b3b4b5b6b7b8b9bAbBbCb
   DbEbFc50b1b2b3b4b5b6b7b8b9bAbBbCbDbEbFc60b1b2b3b4b5b6b7b8b9bAbBbCbDbEbFc70b1b2b3b4b5b6b7b8b9bA
   bBbCbDbEbFc80b1b2b3b4b5b6b7b8b9bAbBbCbDbEbFc90b1b2b3b4b5b6b7b8b9bAbBbCbDbEbFcA0b1b2b3b4b5b6b7b
   8b9bAbBbCbDbEbFcB0b1b2b3b4b5b6b7b8b9bAbBbCbDbEbFcC0b1b2b3b4b5b6b7b8b9bAbBbCbDbEbFcD0b1b2b3b4b5
   b6b7b8b9bAbBbCbDbEbFcE0b1b2b3b4b5b6b7b8b9bAbBbCbDbEbFcF0b1b2b3b4b5b6b7b8b9bAbBbCbDbEbFdC00b1b2
   b3b4b5b6b7b8b9bAbBbCbDbEbFc10b1b2b3b4b5b6b7b8b9bAbBbCbDbEbFc20b1b2b3b4b5b6b7b8b9bAbBbCbDbEbFc3
   0b1b2b3b4b5b6b7b8b9bAbBbCbDbEbFc40b1b2b3b4b5b6b7b8b9bAbBbCbDbEbFc50b1b2b3b4b5b6b7b8b9bAbBbCbDb
   EbFc60b1b2b3b4b5b6b7b8b9bAbBbCbDbEbFc70b1b2b3b4b5b6b7b8b9bAbBbCbDbEbFc80b1b2b3b4b5b6b7b8b9bAbB
   bCbDbEbFc90b1b2b3b4b5b6b7b8b9bAbBbCbDbEbFcA0b1b2b3b4b5b6b7b8b9bAbBbCbDbEbFcB0b1b2b3b4b5b6b7b8b
   9bAbBbCbDbEbFcC0b1b2b3b4b5b6b7b8b9bAbBbCbDbEbFcD0b1b2b3b4b5pFILLERyMER_CURRENCY_SYMBOL_RIELuDI
   GIT_EIGHTfFIVEdOUReNINEeONEdSEVENeIXdTHREEeWOdZEROkINDEPENDENT_VOWEL_LYaYdQAAbIbQbUcEbIaIcOO_T
   YPE_ONEdTWOlUaKbUaVeRYaYvLETTER_BAcCAbHAbOcOcDAbOcHAcKAbHAbOcOcLAbOcMOcNGOcNOcObYOdPHAbOcOcQAc
   ROcSAbHAcSOdTAbHAbOcObTHAbOeVOcYOjSIGN_AHSDAeTTHACANhVAKRAHASANYAnBANTOCeRIYOOSANiTHAMASATjEYY
   ALgCAMNUC_PII_KUUHoOENGfKAKABATgHANdOOMUUThLEK_TOOhMUUSIKATOANlNIKAHIThPHNAEK_MUANlREAHMUKgOBA
   TfSAMYOK_SANNYAnTOANDAKHIATkRIISAPhVIRIAMgYUUKALEAPINTUrYMBOL_BEI_KOETeROCgUON_KOETeROCiDAP_KO
   ETeROCe-BEI_KOETeROCgUON_KOETeROCiMUOY_KOETeROCiPII_KOETeROCgRAM_KOETeROCmLEK_ATTAK_BEIcUONeMU
   OYePIIcRAMa-BEIcUONeMUOYePIIiSONnMUOY_KOETeROCiPATHAMASATjII_KOETeROCgRAM_KOETeROCe-BEI_KOETeR
   OCgUON_KOETeROCiMUOY_KOETeROCiPII_KOETeROCmTUTEYASATqVOWEL_INHERENT_AAbQlSIGN_AAbEbIbUcEbIaEbI
   cOEbOcUaAbUcYaAbYrOJKI_ABBREVIATION_SIGNrDANDAeOUBLE_DANDAfSECTION_MARKtLETTER_AaAbIbUcBAbBAcH
   AdCAbHAdDAbDAbDAcHAdHAdEbGAbGAcHAdHAcIbJAbJAdKAbHAdLAbLAdMAcNAbGAcNAcYAdObPAbHAdRAcSAcTAbHAcTA
   bHAeUbVAcYAjSECTION_MARKlIGN_ANUSVARAiNUKTAfSHADDAfUKUNfVIRAMAlVOWEL_SIGN_AAbIbUcEbIaIcObUmWOR
   D_SEPARATORtUDAWADI_DIGIT_EIGHTfFIVEdOUReNINEeONEdSEVENeIXdTHREEeWOdZEROkLETTER_AaAbIbUcBAbBAc
   HAdCAbHAdDAbDAbDAcHAdHAdEbGAbGAcHAdHAcIaIcJAbHAcJAdKAbHAdLAcMAcNAbGAcNAcYAdObPAbHAdRAbRAdSAbHA
   dTAbHAcTAbHAeUaUcVAcYAjSIGN_ANUSVARAiNUKTAfVIRAMAlVOWEL_SIGN_AAbIbUcEbIaIcObUaUwIMONOeP_SIGNgS
   Sa_MARKfING_CAT_FACE_WITH_CLOSED_EYESzFACEa_WITH_CLOSED_EYESlSMILING_EYESzdTEcWIFRUITiNEELING_
   PERSONnOTdOALAdREAN_STANDARD_SYMBOLvRONOS"

end TypedQuery.Text
