/-!
# Names of pictographs, game pieces, tags and selectors

The names of the characters from U+1F000 to U+10FFFF, in the shortened form that
the reading of the tables explains.
-/

namespace SourceGate.Unicode.Name

/-- The names of pictographs, game pieces, tags and selectors. -/
def pictographs : String := "
  @1F000aMAHJONG TILE EAST WINDcSOUTH WINDcWEST WINDcNORTH WINDcRED DRAGONcGREEN DRAGON
  cWHITE DRAGONcONE OF CHARACTERScTWO OF CHARACTERScTHREE OF CHARACTERScFOUR OF CHARACTERS
  cFIVE OF CHARACTERScSIX OF CHARACTERScSEVEN OF CHARACTERScEIGHT OF CHARACTERScNINE OF CHARACTERS
  cONE OF BAMBOOScTWO OF BAMBOOScTHREE OF BAMBOOScFOUR OF BAMBOOScFIVE OF BAMBOOScSIX OF BAMBOOS
  cSEVEN OF BAMBOOScEIGHT OF BAMBOOScNINE OF BAMBOOScONE OF CIRCLEScTWO OF CIRCLEScTHREE OF CIRCLES
  cFOUR OF CIRCLEScFIVE OF CIRCLEScSIX OF CIRCLEScSEVEN OF CIRCLEScEIGHT OF CIRCLEScNINE OF CIRCLES
  cPLUMcORCHIDcBAMBOOcCHRYSANTHEMUMcSPRINGcSUMMERcAUTUMNcWINTERcJOKERcBACK
  @1F030aDOMINO TILE HORIZONTAL BACKcHORIZONTAL-00-00cHORIZONTAL-00-01cHORIZONTAL-00-02
  cHORIZONTAL-00-03cHORIZONTAL-00-04cHORIZONTAL-00-05cHORIZONTAL-00-06cHORIZONTAL-01-00
  cHORIZONTAL-01-01cHORIZONTAL-01-02cHORIZONTAL-01-03cHORIZONTAL-01-04cHORIZONTAL-01-05
  cHORIZONTAL-01-06cHORIZONTAL-02-00cHORIZONTAL-02-01cHORIZONTAL-02-02cHORIZONTAL-02-03
  cHORIZONTAL-02-04cHORIZONTAL-02-05cHORIZONTAL-02-06cHORIZONTAL-03-00cHORIZONTAL-03-01
  cHORIZONTAL-03-02cHORIZONTAL-03-03cHORIZONTAL-03-04cHORIZONTAL-03-05cHORIZONTAL-03-06
  cHORIZONTAL-04-00cHORIZONTAL-04-01cHORIZONTAL-04-02cHORIZONTAL-04-03cHORIZONTAL-04-04
  cHORIZONTAL-04-05cHORIZONTAL-04-06cHORIZONTAL-05-00cHORIZONTAL-05-01cHORIZONTAL-05-02
  cHORIZONTAL-05-03cHORIZONTAL-05-04cHORIZONTAL-05-05cHORIZONTAL-05-06cHORIZONTAL-06-00
  cHORIZONTAL-06-01cHORIZONTAL-06-02cHORIZONTAL-06-03cHORIZONTAL-06-04cHORIZONTAL-06-05
  cHORIZONTAL-06-06cVERTICAL BACKcVERTICAL-00-00cVERTICAL-00-01cVERTICAL-00-02cVERTICAL-00-03
  cVERTICAL-00-04cVERTICAL-00-05cVERTICAL-00-06cVERTICAL-01-00cVERTICAL-01-01cVERTICAL-01-02
  cVERTICAL-01-03cVERTICAL-01-04cVERTICAL-01-05cVERTICAL-01-06cVERTICAL-02-00cVERTICAL-02-01
  cVERTICAL-02-02cVERTICAL-02-03cVERTICAL-02-04cVERTICAL-02-05cVERTICAL-02-06cVERTICAL-03-00
  cVERTICAL-03-01cVERTICAL-03-02cVERTICAL-03-03cVERTICAL-03-04cVERTICAL-03-05cVERTICAL-03-06
  cVERTICAL-04-00cVERTICAL-04-01cVERTICAL-04-02cVERTICAL-04-03cVERTICAL-04-04cVERTICAL-04-05
  cVERTICAL-04-06cVERTICAL-05-00cVERTICAL-05-01cVERTICAL-05-02cVERTICAL-05-03cVERTICAL-05-04
  cVERTICAL-05-05cVERTICAL-05-06cVERTICAL-06-00cVERTICAL-06-01cVERTICAL-06-02cVERTICAL-06-03
  cVERTICAL-06-04cVERTICAL-06-05cVERTICAL-06-06@1F0A0aPLAYING CARD BACKcACE OF SPADEScTWO OF SPADES
  cTHREE OF SPADEScFOUR OF SPADEScFIVE OF SPADEScSIX OF SPADEScSEVEN OF SPADEScEIGHT OF SPADES
  cNINE OF SPADEScTEN OF SPADEScJACK OF SPADEScKNIGHT OF SPADEScQUEEN OF SPADEScKING OF SPADES
  @1F0B1cACE OF HEARTScTWO OF HEARTScTHREE OF HEARTScFOUR OF HEARTScFIVE OF HEARTScSIX OF HEARTS
  cSEVEN OF HEARTScEIGHT OF HEARTScNINE OF HEARTScTEN OF HEARTScJACK OF HEARTScKNIGHT OF HEARTS
  cQUEEN OF HEARTScKING OF HEARTScRED JOKER@1F0C1cACE OF DIAMONDScTWO OF DIAMONDScTHREE OF DIAMONDS
  cFOUR OF DIAMONDScFIVE OF DIAMONDScSIX OF DIAMONDScSEVEN OF DIAMONDScEIGHT OF DIAMONDS
  cNINE OF DIAMONDScTEN OF DIAMONDScJACK OF DIAMONDScKNIGHT OF DIAMONDScQUEEN OF DIAMONDS
  cKING OF DIAMONDScBLACK JOKER@1F0D1cACE OF CLUBScTWO OF CLUBScTHREE OF CLUBScFOUR OF CLUBS
  cFIVE OF CLUBScSIX OF CLUBScSEVEN OF CLUBScEIGHT OF CLUBScNINE OF CLUBScTEN OF CLUBS
  cJACK OF CLUBScKNIGHT OF CLUBScQUEEN OF CLUBScKING OF CLUBScWHITE JOKERcFOOLcTRUMP-1cTRUMP-2
  cTRUMP-3cTRUMP-4cTRUMP-5cTRUMP-6cTRUMP-7cTRUMP-8cTRUMP-9cTRUMP-10cTRUMP-11cTRUMP-12cTRUMP-13
  cTRUMP-14cTRUMP-15cTRUMP-16cTRUMP-17cTRUMP-18cTRUMP-19cTRUMP-20cTRUMP-21
  @1F100aDIGIT ZERO FULL STOPcCOMMAbONE COMMAbTWO COMMAbTHREE COMMAbFOUR COMMAbFIVE COMMAbSIX COMMA
  bSEVEN COMMAbEIGHT COMMAbNINE COMMAaDINGBAT CIRCLED SANS-SERIF DIGIT ZERO
  bNEGATIVE CIRCLED SANS-SERIF DIGIT ZEROaCIRCLED ZERO WITH SLASHbANTICLOCKWISE ARROW
  bDOLLAR SIGN WITH OVERLAID BACKSLASHaPARENTHESIZED LATIN CAPITAL LETTER AeBeCeDeEeFeGeHeIeJeKeLeM
  eNeOePeQeReSeTeUeVeWeXeYeZaTORTOISE SHELL BRACKETED LATIN CAPITAL LETTER S
  aCIRCLED ITALIC LATIN CAPITAL LETTER CfRbCDbWZaCOPYLEFT SYMBOLaSQUARED LATIN CAPITAL LETTER AeBeC
  eDeEeFeGeHeIeJeKeLeMeNeOePeQeReSeTeUeVeWeXeYeZbHVbMVbSDbSSbPPVbWC
  aNEGATIVE CIRCLED LATIN CAPITAL LETTER AfBfCfDfEfFfGfHfIfJfKfLfMfNfOfPfQfRfSfTfUfVfWfXfYfZ
  aRAISED MC SIGNbMD SIGNbMR SIGNaCIRCLED CCbC WITH OVERLAID BACKSLASHbHUMAN FIGURE
  aNEGATIVE SQUARED LATIN CAPITAL LETTER AfBfCfDfEfFfGfHfIfJfKfLfMfNfOfPfQfRfSfTfUfVfWfXfYfZ
  aCROSSED NEGATIVE SQUARED LATIN CAPITAL LETTER PaNEGATIVE SQUARED ICcPAcSAcABcWCaSQUARE DJ
  aSQUARED CLbCOOLbFREEbIDbNEWbNGbOKbSOSbUP WITH EXCLAMATION MARKbVSbTHREE DbSECOND SCREENbTWO K
  bFOUR KbEIGHT KbFIVE POINT ONEbSEVEN POINT ONEbTWENTY-TWO POINT TWObSIXTY PbONE HUNDRED TWENTY P
  bLATIN SMALL LETTER DbHCbHDRbHI-RESbLOSSLESSbSHVbUHDbVODaMASK WORK SYMBOL
  @1F1E6aREGIONAL INDICATOR SYMBOL LETTER AeBeCeDeEeFeGeHeIeJeKeLeMeNeOePeQeReSeTeUeVeWeXeYeZ
  aSQUARE HIRAGANA HOKAaSQUARED KATAKANA KOKOcSA@1F210bCJK UNIFIED IDEOGRAPH-624BdIDEOGRAPH-5B57
  dIDEOGRAPH-53CCbKATAKANA DEbCJK UNIFIED IDEOGRAPH-4E8CdIDEOGRAPH-591AdIDEOGRAPH-89E3
  dIDEOGRAPH-5929dIDEOGRAPH-4EA4dIDEOGRAPH-6620dIDEOGRAPH-7121dIDEOGRAPH-6599dIDEOGRAPH-524D
  dIDEOGRAPH-5F8CdIDEOGRAPH-518DdIDEOGRAPH-65B0dIDEOGRAPH-521DdIDEOGRAPH-7D42dIDEOGRAPH-751F
  dIDEOGRAPH-8CA9dIDEOGRAPH-58F0dIDEOGRAPH-5439dIDEOGRAPH-6F14dIDEOGRAPH-6295dIDEOGRAPH-6355
  dIDEOGRAPH-4E00dIDEOGRAPH-4E09dIDEOGRAPH-904AdIDEOGRAPH-5DE6dIDEOGRAPH-4E2DdIDEOGRAPH-53F3
  dIDEOGRAPH-6307dIDEOGRAPH-8D70dIDEOGRAPH-6253dIDEOGRAPH-7981dIDEOGRAPH-7A7AdIDEOGRAPH-5408
  dIDEOGRAPH-6E80dIDEOGRAPH-6709dIDEOGRAPH-6708dIDEOGRAPH-7533dIDEOGRAPH-5272dIDEOGRAPH-55B6
  dIDEOGRAPH-914D@1F240aTORTOISE SHELL BRACKETED CJK UNIFIED IDEOGRAPH-672CfIDEOGRAPH-4E09
  fIDEOGRAPH-4E8CfIDEOGRAPH-5B89fIDEOGRAPH-70B9fIDEOGRAPH-6253fIDEOGRAPH-76D7fIDEOGRAPH-52DD
  fIDEOGRAPH-6557@1F250aCIRCLED IDEOGRAPH ADVANTAGEcACCEPT@1F260aROUNDED SYMBOL FOR FUdLUdSHOUdXI
  dSHUANGXIdCAI@1F300aCYCLONEaFOGGYaCLOSED UMBRELLAaNIGHT WITH STARSaSUNRISE OVER MOUNTAINSb
  aCITYSCAPE AT DUSKaSUNSET OVER BUILDINGSaRAINBOWaBRIDGE AT NIGHTaWATER WAVEaVOLCANOaMILKY WAY
  aEARTH GLOBE EUROPE-AFRICAcAMERICAScASIA-AUSTRALIAaGLOBE WITH MERIDIANSaNEW MOON SYMBOL
  aWAXING CRESCENT MOON SYMBOLaFIRST QUARTER MOON SYMBOLaWAXING GIBBOUS MOON SYMBOL
  aFULL MOON SYMBOLaWANING GIBBOUS MOON SYMBOLaLAST QUARTER MOON SYMBOLaWANING CRESCENT MOON SYMBOL
  aCRESCENT MOONaNEW MOON WITH FACEaFIRST QUARTER MOON WITH FACEaLAST QUARTER MOON WITH FACE
  aFULL MOON WITH FACEaSUN WITH FACEaGLOWING STARaSHOOTING STARaTHERMOMETERaBLACK DROPLETaWHITE SUN
  cWITH SMALL CLOUDcBEHIND CLOUDeWITH RAINaCLOUD WITH RAINcSNOWcLIGHTNINGcTORNADOaFOG
  aWIND BLOWING FACEaHOT DOGaTACOaBURRITOaCHESTNUTaSEEDLINGaEVERGREEN TREEaDECIDUOUS TREEaPALM TREE
  aCACTUSaHOT PEPPERaTULIPaCHERRY BLOSSOMaROSEaHIBISCUSaSUNFLOWERaBLOSSOMaEAR OF MAIZEcRICEaHERB
  aFOUR LEAF CLOVERaMAPLE LEAFaFALLEN LEAFaLEAF FLUTTERING IN WINDaMUSHROOMaTOMATOaAUBERGINEaGRAPES
  aMELONaWATERMELONaTANGERINEaLEMONaBANANAaPINEAPPLEaRED APPLEaGREEN APPLEaPEARaPEACHaCHERRIES
  aSTRAWBERRYaHAMBURGERaSLICE OF PIZZAaMEAT ON BONEaPOULTRY LEGaRICE CRACKERbBALLaCOOKED RICE
  aCURRY AND RICEaSTEAMING BOWLaSPAGHETTIaBREADaFRENCH FRIESaROASTED SWEET POTATOaDANGOaODENaSUSHI
  aFRIED SHRIMPaFISH CAKE WITH SWIRL DESIGNaSOFT ICE CREAMaSHAVED ICEaICE CREAMaDOUGHNUTaCOOKIE
  aCHOCOLATE BARaCANDYaLOLLIPOPaCUSTARDaHONEY POTaSHORTCAKEaBENTO BOXaPOT OF FOODaCOOKING
  aFORK AND KNIFEaTEACUP WITHOUT HANDLEaSAKE BOTTLE AND CUPaWINE GLASSaCOCKTAIL GLASS
  aTROPICAL DRINKaBEER MUGaCLINKING BEER MUGSaBABY BOTTLEaFORK AND KNIFE WITH PLATE
  aBOTTLE WITH POPPING CORKaPOPCORNaRIBBONaWRAPPED PRESENTaBIRTHDAY CAKEaJACK-O-LANTERN
  aCHRISTMAS TREEaFATHER CHRISTMASaFIREWORKSaFIREWORK SPARKLERaBALLOONaPARTY POPPERaCONFETTI BALL
  aTANABATA TREEaCROSSED FLAGSaPINE DECORATIONaJAPANESE DOLLSaCARP STREAMERaWIND CHIME
  aMOON VIEWING CEREMONYaSCHOOL SATCHELaGRADUATION CAPaHEART WITH TIP ON THE LEFT
  aBOUQUET OF FLOWERSaMILITARY MEDALaREMINDER RIBBONaMUSICAL KEYBOARD WITH JACKSaSTUDIO MICROPHONE
  aLEVEL SLIDERaCONTROL KNOBSaBEAMED ASCENDING MUSICAL NOTESbDESCENDING MUSICAL NOTESaFILM FRAMES
  aADMISSION TICKETSaCAROUSEL HORSEaFERRIS WHEELaROLLER COASTERaFISHING POLE AND FISHaMICROPHONE
  aMOVIE CAMERAaCINEMAaHEADPHONEaARTIST PALETTEaTOP HATaCIRCUS TENTaTICKETaCLAPPER BOARD
  aPERFORMING ARTSaVIDEO GAMEaDIRECT HITaSLOT MACHINEaBILLIARDSaGAME DIEaBOWLING
  aFLOWER PLAYING CARDSaMUSICAL NOTEaMULTIPLE MUSICAL NOTESaSAXOPHONEaGUITARaMUSICAL KEYBOARD
  aTRUMPETaVIOLINaMUSICAL SCOREaRUNNING SHIRT WITH SASHaTENNIS RACQUET AND BALLaSKI AND SKI BOOT
  aBASKETBALL AND HOOPaCHEQUERED FLAGaSNOWBOARDERaRUNNERaSURFERaSPORTS MEDALaTROPHYaHORSE RACING
  aAMERICAN FOOTBALLaRUGBY FOOTBALLaSWIMMERaWEIGHT LIFTERaGOLFERaRACING MOTORCYCLEbCAR
  aCRICKET BAT AND BALLaVOLLEYBALLaFIELD HOCKEY STICK AND BALLaICE HOCKEY STICK AND PUCK
  aTABLE TENNIS PADDLE AND BALLaSNOW CAPPED MOUNTAINaCAMPINGaBEACH WITH UMBRELLA
  aBUILDING CONSTRUCTIONaHOUSE BUILDINGSaCITYSCAPEaDERELICT HOUSE BUILDINGaCLASSICAL BUILDING
  aDESERTbISLANDaNATIONAL PARKaSTADIUMaHOUSE BUILDINGbWITH GARDENaOFFICE BUILDING
  aJAPANESE POST OFFICEaEUROPEAN POST OFFICEaHOSPITALaBANKaAUTOMATED TELLER MACHINEaHOTEL
  aLOVE HOTELaCONVENIENCE STOREaSCHOOLaDEPARTMENT STOREaFACTORYaIZAKAYA LANTERNaJAPANESE CASTLE
  aEUROPEAN CASTLEaWHITE PENNANTaBLACK PENNANTaWAVING WHITE FLAGbBLACK FLAGaROSETTEaBLACK ROSETTE
  aLABELaBADMINTON RACQUET AND SHUTTLECOCKaBOW AND ARROWaAMPHORA
  aEMOJI MODIFIER FITZPATRICK TYPE-1-2dTYPE-3dTYPE-4dTYPE-5dTYPE-6aRATaMOUSEaOXaWATER BUFFALOaCOW
  aTIGERaLEOPARDaRABBITaCATaDRAGONaCROCODILEaWHALEaSNAILaSNAKEaHORSEaRAMaGOATaSHEEPaMONKEYaROOSTER
  aCHICKENaDOGaPIGaBOARaELEPHANTaOCTOPUSaSPIRAL SHELLaBUGaANTaHONEYBEEaLADY BEETLEaFISH
  aTROPICAL FISHaBLOWFISHaTURTLEaHATCHING CHICKaBABY CHICKaFRONT-FACING BABY CHICKaBIRDaPENGUIN
  aKOALAaPOODLEaDROMEDARY CAMELaBACTRIAN CAMELaDOLPHINaMOUSE FACEaCOW FACEaTIGER FACEaRABBIT FACE
  aCAT FACEaDRAGON FACEaSPOUTING WHALEaHORSE FACEaMONKEY FACEaDOG FACEaPIG FACEaFROG FACE
  aHAMSTER FACEaWOLF FACEaBEAR FACEaPANDA FACEaPIG NOSEaPAW PRINTSaCHIPMUNKaEYESaEYEaEARaNOSEaMOUTH
  aTONGUEaWHITE UP POINTING BACKHAND INDEXbDOWN POINTING BACKHAND INDEX
  bLEFT POINTING BACKHAND INDEXbRIGHT POINTING BACKHAND INDEXaFISTED HAND SIGNaWAVING HAND SIGN
  aOK HAND SIGNaTHUMBS UP SIGNbDOWN SIGNaCLAPPING HANDS SIGNaOPEN HANDS SIGNaCROWNaWOMANS HAT
  aEYEGLASSESaNECKTIEaT-SHIRTaJEANSaDRESSaKIMONOaBIKINIaWOMANS CLOTHESaPURSEaHANDBAGaPOUCH
  aMANS SHOEaATHLETIC SHOEaHIGH-HEELED SHOEaWOMANS SANDALbBOOTSaFOOTPRINTSaBUST IN SILHOUETTE
  aBUSTS IN SILHOUETTEaBOYaGIRLaMANaWOMANaFAMILYaMAN AND WOMAN HOLDING HANDSaTWO MEN HOLDING HANDS
  bWOMEN HOLDING HANDSaPOLICE OFFICERaWOMAN WITH BUNNY EARSaBRIDE WITH VEILaPERSON WITH BLOND HAIR
  aMAN WITH GUA PI MAOcTURBANaOLDER MANbWOMANaBABYaCONSTRUCTION WORKERaPRINCESSaJAPANESE OGRE
  bGOBLINaGHOSTaBABY ANGELaEXTRATERRESTRIAL ALIENaALIEN MONSTERaIMPaSKULLaINFORMATION DESK PERSON
  aGUARDSMANaDANCERaLIPSTICKaNAIL POLISHaFACE MASSAGEaHAIRCUTaBARBER POLEaSYRINGEaPILLaKISS MARK
  aLOVE LETTERaRINGaGEM STONEaKISSaBOUQUETaCOUPLE WITH HEARTaWEDDINGaBEATING HEARTaBROKEN HEART
  aTWO HEARTSaSPARKLING HEARTaGROWING HEARTaHEART WITH ARROWaBLUE HEARTaGREEN HEARTaYELLOW HEART
  aPURPLE HEARTaHEART WITH RIBBONaREVOLVING HEARTSaHEART DECORATIONaDIAMOND SHAPE WITH A DOT INSIDE
  aELECTRIC LIGHT BULBaANGER SYMBOLaBOMBaSLEEPING SYMBOLaCOLLISION SYMBOLaSPLASHING SWEAT SYMBOL
  aDROPLETaDASH SYMBOLaPILE OF POOaFLEXED BICEPSaDIZZY SYMBOLaSPEECH BALLOONaTHOUGHT BALLOON
  aWHITE FLOWERaHUNDRED POINTS SYMBOLaMONEY BAGaCURRENCY EXCHANGEaHEAVY DOLLAR SIGNaCREDIT CARD
  aBANKNOTE WITH YEN SIGNcDOLLAR SIGNcEURO SIGNcPOUND SIGNaMONEY WITH WINGS
  aCHART WITH UPWARDS TREND AND YEN SIGNaSEATaPERSONAL COMPUTERaBRIEFCASEaMINIDISCaFLOPPY DISK
  aOPTICAL DISCaDVDaFILE FOLDERaOPEN FILE FOLDERaPAGE WITH CURLbFACING UPaCALENDAR
  aTEAR-OFF CALENDARaCARD INDEXaCHART WITH UPWARDS TRENDcDOWNWARDS TRENDaBAR CHARTaCLIPBOARD
  aPUSHPINaROUND PUSHPINaPAPERCLIPaSTRAIGHT RULERaTRIANGULAR RULERaBOOKMARK TABSaLEDGERaNOTEBOOK
  bWITH DECORATIVE COVERaCLOSED BOOKaOPEN BOOKaGREEN BOOKaBLUE BOOKaORANGE BOOKaBOOKSaNAME BADGE
  aSCROLLaMEMOaTELEPHONE RECEIVERaPAGERaFAX MACHINEaSATELLITE ANTENNAaPUBLIC ADDRESS LOUDSPEAKER
  aCHEERING MEGAPHONEaOUTBOX TRAYaINBOX TRAYaPACKAGEaE-MAIL SYMBOLaINCOMING ENVELOPE
  aENVELOPE WITH DOWNWARDS ARROW ABOVEaCLOSED MAILBOX WITH LOWERED FLAGdRAISED FLAG
  aOPEN MAILBOX WITH RAISED FLAGdLOWERED FLAGaPOSTBOXaPOSTAL HORNaNEWSPAPERaMOBILE PHONE
  cWITH RIGHTWARDS ARROW AT LEFTaVIBRATION MODEaMOBILE PHONE OFFaNO MOBILE PHONESaANTENNA WITH BARS
  aCAMERAbWITH FLASHaVIDEO CAMERAaTELEVISIONaRADIOaVIDEOCASSETTEaFILM PROJECTORaPORTABLE STEREO
  aPRAYER BEADSaTWISTED RIGHTWARDS ARROWSaCLOCKWISE RIGHTWARDS AND LEFTWARDS OPEN CIRCLE ARROWS
  hWITH CIRCLED ONE OVERLAYbDOWNWARDS AND UPWARDS OPEN CIRCLE ARROWS
  aANTICLOCKWISE DOWNWARDS AND UPWARDS OPEN CIRCLE ARROWSaLOW BRIGHTNESS SYMBOL
  aHIGH BRIGHTNESS SYMBOLaSPEAKER WITH CANCELLATION STROKEbbWITH ONE SOUND WAVEcTHREE SOUND WAVES
  aBATTERYaELECTRIC PLUGaLEFT-POINTING MAGNIFYING GLASSaRIGHT-POINTING MAGNIFYING GLASS
  aLOCK WITH INK PENaCLOSED LOCK WITH KEYaKEYaLOCKaOPEN LOCKaBELLbWITH CANCELLATION STROKEaBOOKMARK
  aLINK SYMBOLaRADIO BUTTONaBACK WITH LEFTWARDS ARROW ABOVEaEND WITH LEFTWARDS ARROW ABOVE
  aON WITH EXCLAMATION MARK WITH LEFT RIGHT ARROW ABOVEaSOON WITH RIGHTWARDS ARROW ABOVE
  aTOP WITH UPWARDS ARROW ABOVEaNO ONE UNDER EIGHTEEN SYMBOLaKEYCAP TEN
  aINPUT SYMBOL FOR LATIN CAPITAL LETTERSeSMALL LETTERSdNUMBERSdSYMBOLSdLATIN LETTERSaFIRE
  aELECTRIC TORCHaWRENCHaHAMMERaNUT AND BOLTaHOCHOaPISTOLaMICROSCOPEaTELESCOPEaCRYSTAL BALL
  aSIX POINTED STAR WITH MIDDLE DOTaJAPANESE SYMBOL FOR BEGINNERaTRIDENT EMBLEMaBLACK SQUARE BUTTON
  aWHITE SQUARE BUTTONaLARGE RED CIRCLEbBLUE CIRCLEbORANGE DIAMONDbBLUE DIAMOND
  aSMALL ORANGE DIAMONDbBLUE DIAMONDaUP-POINTING RED TRIANGLEaDOWN-POINTING RED TRIANGLE
  aUP-POINTING SMALL RED TRIANGLEaDOWN-POINTING SMALL RED TRIANGLE
  aLOWER RIGHT SHADOWED WHITE CIRCLEaUPPER RIGHT SHADOWED WHITE CIRCLEaCIRCLED CROSS POMMEE
  aCROSS POMMEE WITH HALF-CIRCLE BELOWcaNOTCHED LEFT SEMICIRCLE WITH THREE DOTS
  bRIGHT SEMICIRCLE WITH THREE DOTSaSYMBOL FOR MARKS CHAPTERaWHITE LATIN CROSSaHEAVY LATIN CROSS
  aCELTIC CROSSaOM SYMBOLaDOVE OF PEACEaKAABAaMOSQUEaSYNAGOGUEaMENORAH WITH NINE BRANCHES
  aBOWL OF HYGIEIAaCLOCK FACE ONE OCLOCKcTWO OCLOCKcTHREE OCLOCKcFOUR OCLOCKcFIVE OCLOCKcSIX OCLOCK
  cSEVEN OCLOCKcEIGHT OCLOCKcNINE OCLOCKcTEN OCLOCKcELEVEN OCLOCKcTWELVE OCLOCKcONE-THIRTY
  cTWO-THIRTYcTHREE-THIRTYcFOUR-THIRTYcFIVE-THIRTYcSIX-THIRTYcSEVEN-THIRTYcEIGHT-THIRTYcNINE-THIRTY
  cTEN-THIRTYcELEVEN-THIRTYcTWELVE-THIRTYaRIGHT SPEAKERcWITH ONE SOUND WAVEdTHREE SOUND WAVES
  aBULLHORNbWITH SOUND WAVESaRINGING BELLaBOOKaCANDLEaMANTELPIECE CLOCKaBLACK SKULL AND CROSSBONES
  aNO PIRACYaHOLEaMAN IN BUSINESS SUIT LEVITATINGaSLEUTH OR SPYaDARK SUNGLASSESaSPIDERbWEBaJOYSTICK
  aMAN DANCINGaLEFT HAND TELEPHONE RECEIVERaTELEPHONE RECEIVER WITH PAGE
  aRIGHT HAND TELEPHONE RECEIVERaWHITE TOUCHTONE TELEPHONEaBLACK TOUCHTONE TELEPHONE
  aTELEPHONE ON TOP OF MODEMaCLAMSHELL MOBILE PHONEaBACK OF ENVELOPEaSTAMPED ENVELOPE
  aENVELOPE WITH LIGHTNINGaFLYING ENVELOPEaPEN OVER STAMPED ENVELOPEaLINKED PAPERCLIPS
  aBLACK PUSHPINaLOWER LEFT PENCILcBALLPOINT PENcFOUNTAIN PENcPAINTBRUSHcCRAYONaLEFT WRITING HAND
  aTURNED OK HAND SIGNaRAISED HAND WITH FINGERS SPLAYEDaREVERSED RAISED HAND WITH FINGERS SPLAYED
  bTHUMBS UP SIGNcDOWN SIGNbVICTORY HANDbHAND WITH MIDDLE FINGER EXTENDED
  aRAISED HAND WITH PART BETWEEN MIDDLE AND RING FINGERSaWHITE DOWN POINTING LEFT HAND INDEX
  aSIDEWAYS WHITE LEFT POINTING INDEXcRIGHT POINTING INDEXbBLACK LEFT POINTING INDEX
  cRIGHT POINTING INDEXaBLACK LEFT POINTING BACKHAND INDEXbRIGHT POINTING BACKHAND INDEX
  aSIDEWAYS WHITE UP POINTING INDEXcDOWN POINTING INDEXbBLACK UP POINTING INDEXcDOWN POINTING INDEX
  aBLACK UP POINTING BACKHAND INDEXbDOWN POINTING BACKHAND INDEXbHEARTaDESKTOP COMPUTER
  aKEYBOARD AND MOUSEaTHREE NETWORKED COMPUTERSaPRINTERaPOCKET CALCULATOR
  aBLACK HARD SHELL FLOPPY DISKaWHITE HARD SHELL FLOPPY DISKaSOFT SHELL FLOPPY DISKaTAPE CARTRIDGE
  aWIRED KEYBOARDaONE BUTTON MOUSEaTWO BUTTON MOUSEaTHREE BUTTON MOUSEaTRACKBALL
  aOLD PERSONAL COMPUTERaHARD DISKaSCREENaPRINTER ICONaFAX ICONaOPTICAL DISC ICON
  aDOCUMENT WITH TEXTdAND PICTUREcPICTUREaFRAME WITH PICTUREcTILEScAN XaBLACK FOLDERaFOLDER
  aOPEN FOLDERaCARD INDEX DIVIDERSbFILE BOXaFILE CABINETaEMPTY NOTEcPAGEcPADaNOTEbPAGEbPAD
  aEMPTY DOCUMENTbPAGEbPAGESaDOCUMENTaPAGEaPAGESaWASTEBASKETaSPIRAL NOTE PADbCALENDAR PAD
  aDESKTOP WINDOWaMINIMIZEaMAXIMIZEaOVERLAPaCLOCKWISE RIGHT AND LEFT SEMICIRCLE ARROWS
  aCANCELLATION XaINCREASE FONT SIZE SYMBOLaDECREASE FONT SIZE SYMBOLaCOMPRESSIONaOLD KEY
  aROLLED-UP NEWSPAPERaPAGE WITH CIRCLED TEXTaSTOCK CHARTaDAGGER KNIFEaLIPS
  aSPEAKING HEAD IN SILHOUETTEaTHREE RAYS ABOVEcBELOWcLEFTcRIGHTaLEFT SPEECH BUBBLE
  aRIGHT SPEECH BUBBLEaTWO SPEECH BUBBLESaTHREE SPEECH BUBBLESaLEFT THOUGHT BUBBLE
  aRIGHT THOUGHT BUBBLEaLEFT ANGER BUBBLEaRIGHT ANGER BUBBLEaMOOD BUBBLEaLIGHTNING MOOD BUBBLEc
  aBALLOT BOX WITH BALLOTbSCRIPT XbBOX WITH SCRIPT XbBOLD SCRIPT XbBOX WITH BOLD SCRIPT X
  aLIGHT CHECK MARKaBALLOT BOX WITH BOLD CHECKaWORLD MAPaMOUNT FUJIaTOKYO TOWERaSTATUE OF LIBERTY
  aSILHOUETTE OF JAPANaMOYAIaGRINNING FACEcWITH SMILING EYESaFACE WITH TEARS OF JOY
  aSMILING FACE WITH OPEN MOUTHfAND SMILING EYESgCOLD SWEATgTIGHTLY-CLOSED EYESdHALOdHORNS
  aWINKING FACEaSMILING FACE WITH SMILING EYESaFACE SAVOURING DELICIOUS FOODaRELIEVED FACE
  aSMILING FACE WITH HEART-SHAPED EYESdSUNGLASSESaSMIRKING FACEaNEUTRAL FACEaEXPRESSIONLESS FACE
  aUNAMUSED FACEaFACE WITH COLD SWEATaPENSIVE FACEaCONFUSED FACEaCONFOUNDED FACEaKISSING FACE
  aFACE THROWING A KISSaKISSING FACE WITH SMILING EYESdCLOSED EYESaFACE WITH STUCK-OUT TONGUE
  eAND WINKING EYEfTIGHTLY-CLOSED EYESaDISAPPOINTED FACEaWORRIED FACEaANGRY FACEaPOUTING FACE
  aCRYING FACEaPERSEVERING FACEaFACE WITH LOOK OF TRIUMPHaDISAPPOINTED BUT RELIEVED FACE
  aFROWNING FACE WITH OPEN MOUTHaANGUISHED FACEaFEARFUL FACEaWEARY FACEaSLEEPY FACEaTIRED FACE
  aGRIMACING FACEaLOUDLY CRYING FACEaFACE WITH OPEN MOUTHaHUSHED FACE
  aFACE WITH OPEN MOUTH AND COLD SWEATbSCREAMING IN FEARaASTONISHED FACEaFLUSHED FACEaSLEEPING FACE
  aDIZZY FACEaFACE WITHOUT MOUTHbWITH MEDICAL MASKaGRINNING CAT FACE WITH SMILING EYES
  aCAT FACE WITH TEARS OF JOYaSMILING CAT FACE WITH OPEN MOUTHeHEART-SHAPED EYES
  aCAT FACE WITH WRY SMILEaKISSING CAT FACE WITH CLOSED EYESaPOUTING CAT FACEaCRYING CAT FACE
  aWEARY CAT FACEaSLIGHTLY FROWNING FACEbSMILING FACEaUPSIDE-DOWN FACEaFACE WITH ROLLING EYES
  cNO GOOD GESTUREcOK GESTUREaPERSON BOWING DEEPLYaSEE-NO-EVIL MONKEYaHEAR-NO-EVIL MONKEY
  aSPEAK-NO-EVIL MONKEYaHAPPY PERSON RAISING ONE HANDaPERSON RAISING BOTH HANDS IN CELEBRATION
  bFROWNINGbWITH POUTING FACEcFOLDED HANDSaNORTH WEST POINTING LEAFaSOUTH WEST POINTING LEAF
  aNORTH EAST POINTING LEAFaSOUTH EAST POINTING LEAFaTURNED NORTH WEST POINTING LEAF
  bSOUTH WEST POINTING LEAFbNORTH EAST POINTING LEAFbSOUTH EAST POINTING LEAF
  aNORTH WEST POINTING VINE LEAFaSOUTH WEST POINTING VINE LEAFaNORTH EAST POINTING VINE LEAF
  aSOUTH EAST POINTING VINE LEAFaHEAVY NORTH WEST POINTING VINE LEAFbSOUTH WEST POINTING VINE LEAF
  bNORTH EAST POINTING VINE LEAFbSOUTH EAST POINTING VINE LEAFaNORTH WEST POINTING BUD
  aSOUTH WEST POINTING BUDaNORTH EAST POINTING BUDaSOUTH EAST POINTING BUD
  aHEAVY NORTH WEST POINTING BUDbSOUTH WEST POINTING BUDbNORTH EAST POINTING BUD
  bSOUTH EAST POINTING BUDaHOLLOW QUILT SQUARE ORNAMENTeIN BLACK SQUAREaSOLID QUILT SQUARE ORNAMENT
  eIN BLACK SQUAREaLEFTWARDS ROCKETaUPWARDS ROCKETaRIGHTWARDS ROCKETaDOWNWARDS ROCKET
  aSCRIPT LIGATURE ET ORNAMENTaHEAVY SCRIPT LIGATURE ET ORNAMENTaLIGATURE OPEN ET ORNAMENT
  aHEAVY LIGATURE OPEN ET ORNAMENTbAMPERSAND ORNAMENTaSWASH AMPERSAND ORNAMENT
  aSANS-SERIF HEAVY DOUBLE TURNED COMMA QUOTATION MARK ORNAMENTdCOMMA QUOTATION MARK ORNAMENT
  cLOW DOUBLE COMMA QUOTATION MARK ORNAMENTaHEAVY INTERROBANG ORNAMENT
  aSANS-SERIF INTERROBANG ORNAMENTaHEAVY SANS-SERIF INTERROBANG ORNAMENTaVERY HEAVY SOLIDUS
  cREVERSE SOLIDUSaCHECKER BOARDaREVERSE CHECKER BOARDaROCKETaHELICOPTERaSTEAM LOCOMOTIVE
  aRAILWAY CARaHIGH-SPEED TRAINcWITH BULLET NOSEaTRAINaMETROaLIGHT RAILaSTATIONaTRAMbCARaBUS
  aONCOMING BUSaTROLLEYBUSaBUS STOPaMINIBUSaAMBULANCEaFIRE ENGINEaPOLICE CARaONCOMING POLICE CAR
  aTAXIaONCOMING TAXIaAUTOMOBILEaONCOMING AUTOMOBILEaRECREATIONAL VEHICLEaDELIVERY TRUCK
  aARTICULATED LORRYaTRACTORaMONORAILaMOUNTAIN RAILWAYaSUSPENSION RAILWAYaMOUNTAIN CABLEWAY
  aAERIAL TRAMWAYaSHIPaROWBOATaSPEEDBOATaHORIZONTAL TRAFFIC LIGHTaVERTICAL TRAFFIC LIGHT
  aCONSTRUCTION SIGNaPOLICE CARS REVOLVING LIGHTaTRIANGULAR FLAG ON POSTaDOORaNO ENTRY SIGN
  aSMOKING SYMBOLaNO SMOKING SYMBOLaPUT LITTER IN ITS PLACE SYMBOLaDO NOT LITTER SYMBOL
  aPOTABLE WATER SYMBOLaNON-POTABLE WATER SYMBOLaBICYCLEaNO BICYCLESaBICYCLISTaMOUNTAIN BICYCLIST
  aPEDESTRIANaNO PEDESTRIANSaCHILDREN CROSSINGaMENS SYMBOLaWOMENS SYMBOLaRESTROOMaBABY SYMBOL
  aTOILETaWATER CLOSETaSHOWERaBATHaBATHTUBaPASSPORT CONTROLaCUSTOMSaBAGGAGE CLAIMaLEFT LUGGAGE
  aTRIANGLE WITH ROUNDED CORNERSaPROHIBITED SIGNaCIRCLED INFORMATION SOURCEaBOYS SYMBOL
  aGIRLS SYMBOLaCOUCH AND LAMPaSLEEPING ACCOMMODATIONaSHOPPING BAGSaBELLHOP BELLaBED
  aPLACE OF WORSHIPaOCTAGONAL SIGNaSHOPPING TROLLEYaSTUPAaPAGODAaHINDU TEMPLEaHUTaELEVATOR
  @1F6DCaWIRELESSaPLAYGROUND SLIDEaWHEELaRING BUOYaHAMMER AND WRENCHaSHIELDaOIL DRUMaMOTORWAY
  aRAILWAY TRACKaMOTOR BOATaUP-POINTING MILITARY AIRPLANEbAIRPLANEbSMALL AIRPLANEaSMALL AIRPLANE
  aNORTHEAST-POINTING AIRPLANEaAIRPLANE DEPARTUREbARRIVING@1F6F0aSATELLITEaONCOMING FIRE ENGINE
  aDIESEL LOCOMOTIVEaPASSENGER SHIPaSCOOTERaMOTOR SCOOTERaCANOEaSLEDaFLYING SAUCERaSKATEBOARD
  aAUTO RICKSHAWaPICKUP TRUCKaROLLER SKATE@1F700aALCHEMICAL SYMBOL FOR QUINTESSENCEdAIRdFIREdEARTH
  dWATERdAQUAFORTISdAQUA REGIAeREGIA-2eVITAEeVITAE-2dVINEGARdVINEGAR-2dVINEGAR-3dSULFUR
  dPHILOSOPHERS SULFURdBLACK SULFURdMERCURY SUBLIMATEeSUBLIMATE-2eSUBLIMATE-3dCINNABARdSALTdNITRE
  dVITRIOLdVITRIOL-2dROCK SALTeSALT-2dGOLDdSILVERdIRON OREeORE-2dCROCUS OF IRONdREGULUS OF IRON
  dCOPPER OREdIRON-COPPER OREdSUBLIMATE OF COPPERdCROCUS OF COPPERfCOPPER-2dCOPPER ANTIMONIATE
  dSALT OF COPPER ANTIMONIATEdSUBLIMATE OF SALT OF COPPERdVERDIGRISdTIN OREdLEAD OREdANTIMONY ORE
  dSUBLIMATE OF ANTIMONYdSALT OF ANTIMONYdSUBLIMATE OF SALT OF ANTIMONYdVINEGAR OF ANTIMONY
  dREGULUS OF ANTIMONYfANTIMONY-2edREGULUS-2dREGULUS-3dREGULUS-4dALKALIdALKALI-2dMARCASITE
  dSAL-AMMONIACdARSENICdREALGARdREALGAR-2dAURIPIGMENTdBISMUTH OREdTARTARdTARTAR-2dQUICK LIMEdBORAX
  dBORAX-2dBORAX-3dALUMdOILdSPIRITdTINCTUREdGUMdWAXdPOWDERdCALXdTUTTYdCAPUT MORTUUMdSCEPTER OF JOVE
  dCADUCEUSdTRIDENTdSTARRED TRIDENTdLODESTONEdSOAPdURINEdHORSE DUNGdASHESdPOT ASHESdBRICK
  dPOWDERED BRICKdAMALGAMdSTRATUM SUPER STRATUMfSTRATUM-2dSUBLIMATIONdPRECIPITATEdDISTILLdDISSOLVE
  dDISSOLVE-2dPURIFYdPUTREFACTIONdCRUCIBLEdCRUCIBLE-2dCRUCIBLE-3dCRUCIBLE-4dCRUCIBLE-5dALEMBIC
  dBATH OF MARYfVAPOURSdRETORTdHOURdNIGHTdDAY-NIGHTdMONTHdHALF DRAMeOUNCEaLOT OF FORTUNE
  aOCCULTATIONaLUNAR ECLIPSE@1F77BaHAUMEAaMAKEMAKEaGONGGONGaQUAOARaORCUS
  aBLACK LEFT-POINTING ISOSCELES RIGHT TRIANGLEbUP-POINTING ISOSCELES RIGHT TRIANGLE
  bRIGHT-POINTING ISOSCELES RIGHT TRIANGLEbDOWN-POINTING ISOSCELES RIGHT TRIANGLE
  bSLIGHTLY SMALL CIRCLEaMEDIUM BOLD WHITE CIRCLEaBOLD WHITE CIRCLEaHEAVY WHITE CIRCLE
  aVERY HEAVY WHITE CIRCLEaEXTREMELY HEAVY WHITE CIRCLEaWHITE CIRCLE CONTAINING BLACK SMALL CIRCLE
  aROUND TARGETaBLACK TINY SQUAREbSLIGHTLY SMALL SQUAREaLIGHT WHITE SQUAREaMEDIUM WHITE SQUARE
  aBOLD WHITE SQUAREaHEAVY WHITE SQUAREaVERY HEAVY WHITE SQUAREaEXTREMELY HEAVY WHITE SQUARE
  aWHITE SQUARE CONTAINING BLACK VERY SMALL SQUAREeMEDIUM SQUAREaSQUARE TARGETaBLACK TINY DIAMOND
  bVERY SMALL DIAMONDbMEDIUM SMALL DIAMONDaWHITE DIAMOND CONTAINING BLACK VERY SMALL DIAMOND
  eMEDIUM DIAMONDaDIAMOND TARGETaBLACK TINY LOZENGEbVERY SMALL LOZENGEbMEDIUM SMALL LOZENGE
  aWHITE LOZENGE CONTAINING BLACK SMALL LOZENGEaTHIN GREEK CROSSaLIGHT GREEK CROSS
  aMEDIUM GREEK CROSSaBOLD GREEK CROSSaVERY BOLD GREEK CROSSbHEAVY GREEK CROSS
  aEXTREMELY HEAVY GREEK CROSSaTHIN SALTIREaLIGHT SALTIREaMEDIUM SALTIREaBOLD SALTIREaHEAVY SALTIRE
  aVERY HEAVY SALTIREaEXTREMELY HEAVY SALTIREaLIGHT FIVE SPOKED ASTERISK
  aMEDIUM FIVE SPOKED ASTERISKaBOLD FIVE SPOKED ASTERISKaHEAVY FIVE SPOKED ASTERISK
  aVERY HEAVY FIVE SPOKED ASTERISKaEXTREMELY HEAVY FIVE SPOKED ASTERISKaLIGHT SIX SPOKED ASTERISK
  aMEDIUM SIX SPOKED ASTERISKaBOLD SIX SPOKED ASTERISKaHEAVY SIX SPOKED ASTERISK
  aVERY HEAVY SIX SPOKED ASTERISKaEXTREMELY HEAVY SIX SPOKED ASTERISKaLIGHT EIGHT SPOKED ASTERISK
  aMEDIUM EIGHT SPOKED ASTERISKaBOLD EIGHT SPOKED ASTERISKaHEAVY EIGHT SPOKED ASTERISK
  aVERY HEAVY EIGHT SPOKED ASTERISKaLIGHT THREE POINTED BLACK STARaMEDIUM THREE POINTED BLACK STAR
  aTHREE POINTED BLACK STARaMEDIUM THREE POINTED PINWHEEL STARaLIGHT FOUR POINTED BLACK STAR
  aMEDIUM FOUR POINTED BLACK STARaFOUR POINTED BLACK STARaMEDIUM FOUR POINTED PINWHEEL STAR
  aREVERSE LIGHT FOUR POINTED PINWHEEL STARaLIGHT FIVE POINTED BLACK STAR
  aHEAVY FIVE POINTED BLACK STARaMEDIUM SIX POINTED BLACK STARaHEAVY SIX POINTED BLACK STAR
  aSIX POINTED PINWHEEL STARaMEDIUM EIGHT POINTED BLACK STARaHEAVY EIGHT POINTED BLACK STAR
  aVERY HEAVY EIGHT POINTED BLACK STARaHEAVY EIGHT POINTED PINWHEEL STAR
  aLIGHT TWELVE POINTED BLACK STARaHEAVY TWELVE POINTED BLACK STARdPINWHEEL STARaCIRCLED TRIANGLE
  aNEGATIVE CIRCLED TRIANGLEaCIRCLED SQUAREaNEGATIVE CIRCLED SQUAREaNINE POINTED WHITE STAR
  @1F7E0aLARGE ORANGE CIRCLEbYELLOW CIRCLEbGREEN CIRCLEbPURPLE CIRCLEbBROWN CIRCLEbRED SQUARE
  bBLUE SQUAREbORANGE SQUAREbYELLOW SQUAREbGREEN SQUAREbPURPLE SQUAREbBROWN SQUARE
  @1F7F0aHEAVY EQUALS SIGN@1F800aLEFTWARDS ARROW WITH SMALL TRIANGLE ARROWHEAD
  aUPWARDS ARROW WITH SMALL TRIANGLE ARROWHEADaRIGHTWARDS ARROW WITH SMALL TRIANGLE ARROWHEAD
  aDOWNWARDS ARROW WITH SMALL TRIANGLE ARROWHEADaLEFTWARDS ARROW WITH MEDIUM TRIANGLE ARROWHEAD
  aUPWARDS ARROW WITH MEDIUM TRIANGLE ARROWHEADaRIGHTWARDS ARROW WITH MEDIUM TRIANGLE ARROWHEAD
  aDOWNWARDS ARROW WITH MEDIUM TRIANGLE ARROWHEADaLEFTWARDS ARROW WITH LARGE TRIANGLE ARROWHEAD
  aUPWARDS ARROW WITH LARGE TRIANGLE ARROWHEADaRIGHTWARDS ARROW WITH LARGE TRIANGLE ARROWHEAD
  aDOWNWARDS ARROW WITH LARGE TRIANGLE ARROWHEAD
  @1F810aLEFTWARDS ARROW WITH SMALL EQUILATERAL ARROWHEAD
  aUPWARDS ARROW WITH SMALL EQUILATERAL ARROWHEADaRIGHTWARDS ARROW WITH SMALL EQUILATERAL ARROWHEAD
  aDOWNWARDS ARROW WITH SMALL EQUILATERAL ARROWHEADaLEFTWARDS ARROW WITH EQUILATERAL ARROWHEAD
  aUPWARDS ARROW WITH EQUILATERAL ARROWHEADaRIGHTWARDS ARROW WITH EQUILATERAL ARROWHEAD
  aDOWNWARDS ARROW WITH EQUILATERAL ARROWHEADaHEAVY LEFTWARDS ARROW WITH EQUILATERAL ARROWHEAD
  bUPWARDS ARROW WITH EQUILATERAL ARROWHEADbRIGHTWARDS ARROW WITH EQUILATERAL ARROWHEAD
  bDOWNWARDS ARROW WITH EQUILATERAL ARROWHEADbLEFTWARDS ARROW WITH LARGE EQUILATERAL ARROWHEAD
  bUPWARDS ARROW WITH LARGE EQUILATERAL ARROWHEADbRIGHTWARDS ARROW WITH LARGE EQUILATERAL ARROWHEAD
  bDOWNWARDS ARROW WITH LARGE EQUILATERAL ARROWHEAD
  aLEFTWARDS TRIANGLE-HEADED ARROW WITH NARROW SHAFT
  aUPWARDS TRIANGLE-HEADED ARROW WITH NARROW SHAFT
  aRIGHTWARDS TRIANGLE-HEADED ARROW WITH NARROW SHAFT
  aDOWNWARDS TRIANGLE-HEADED ARROW WITH NARROW SHAFT
  aLEFTWARDS TRIANGLE-HEADED ARROW WITH MEDIUM SHAFT
  aUPWARDS TRIANGLE-HEADED ARROW WITH MEDIUM SHAFT
  aRIGHTWARDS TRIANGLE-HEADED ARROW WITH MEDIUM SHAFT
  aDOWNWARDS TRIANGLE-HEADED ARROW WITH MEDIUM SHAFT
  aLEFTWARDS TRIANGLE-HEADED ARROW WITH BOLD SHAFTaUPWARDS TRIANGLE-HEADED ARROW WITH BOLD SHAFT
  aRIGHTWARDS TRIANGLE-HEADED ARROW WITH BOLD SHAFTaDOWNWARDS TRIANGLE-HEADED ARROW WITH BOLD SHAFT
  aLEFTWARDS TRIANGLE-HEADED ARROW WITH HEAVY SHAFTaUPWARDS TRIANGLE-HEADED ARROW WITH HEAVY SHAFT
  aRIGHTWARDS TRIANGLE-HEADED ARROW WITH HEAVY SHAFT
  aDOWNWARDS TRIANGLE-HEADED ARROW WITH HEAVY SHAFT
  aLEFTWARDS TRIANGLE-HEADED ARROW WITH VERY HEAVY SHAFT
  aUPWARDS TRIANGLE-HEADED ARROW WITH VERY HEAVY SHAFT
  aRIGHTWARDS TRIANGLE-HEADED ARROW WITH VERY HEAVY SHAFT
  aDOWNWARDS TRIANGLE-HEADED ARROW WITH VERY HEAVY SHAFTaLEFTWARDS FINGER-POST ARROW
  aUPWARDS FINGER-POST ARROWaRIGHTWARDS FINGER-POST ARROWaDOWNWARDS FINGER-POST ARROW
  aLEFTWARDS SQUARED ARROWaUPWARDS SQUARED ARROWaRIGHTWARDS SQUARED ARROWaDOWNWARDS SQUARED ARROW
  aLEFTWARDS COMPRESSED ARROWaUPWARDS COMPRESSED ARROWaRIGHTWARDS COMPRESSED ARROW
  aDOWNWARDS COMPRESSED ARROWaLEFTWARDS HEAVY COMPRESSED ARROWaUPWARDS HEAVY COMPRESSED ARROW
  aRIGHTWARDS HEAVY COMPRESSED ARROWaDOWNWARDS HEAVY COMPRESSED ARROWaLEFTWARDS HEAVY ARROW
  aUPWARDS HEAVY ARROWaRIGHTWARDS HEAVY ARROWaDOWNWARDS HEAVY ARROW
  @1F850aLEFTWARDS SANS-SERIF ARROWaUPWARDS SANS-SERIF ARROWaRIGHTWARDS SANS-SERIF ARROW
  aDOWNWARDS SANS-SERIF ARROWaNORTH WEST SANS-SERIF ARROWbEAST SANS-SERIF ARROW
  aSOUTH EAST SANS-SERIF ARROWbWEST SANS-SERIF ARROWaLEFT RIGHT SANS-SERIF ARROW
  aUP DOWN SANS-SERIF ARROW@1F860aWIDE-HEADED LEFTWARDS LIGHT BARB ARROWbUPWARDS LIGHT BARB ARROW
  bRIGHTWARDS LIGHT BARB ARROWbDOWNWARDS LIGHT BARB ARROWbNORTH WEST LIGHT BARB ARROW
  cEAST LIGHT BARB ARROWbSOUTH EAST LIGHT BARB ARROWcWEST LIGHT BARB ARROWbLEFTWARDS BARB ARROW
  bUPWARDS BARB ARROWbRIGHTWARDS BARB ARROWbDOWNWARDS BARB ARROWbNORTH WEST BARB ARROW
  cEAST BARB ARROWbSOUTH EAST BARB ARROWcWEST BARB ARROWbLEFTWARDS MEDIUM BARB ARROW
  bUPWARDS MEDIUM BARB ARROWbRIGHTWARDS MEDIUM BARB ARROWbDOWNWARDS MEDIUM BARB ARROW
  bNORTH WEST MEDIUM BARB ARROWcEAST MEDIUM BARB ARROWbSOUTH EAST MEDIUM BARB ARROW
  cWEST MEDIUM BARB ARROWbLEFTWARDS HEAVY BARB ARROWbUPWARDS HEAVY BARB ARROW
  bRIGHTWARDS HEAVY BARB ARROWbDOWNWARDS HEAVY BARB ARROWbNORTH WEST HEAVY BARB ARROW
  cEAST HEAVY BARB ARROWbSOUTH EAST HEAVY BARB ARROWcWEST HEAVY BARB ARROW
  bLEFTWARDS VERY HEAVY BARB ARROWbUPWARDS VERY HEAVY BARB ARROWbRIGHTWARDS VERY HEAVY BARB ARROW
  bDOWNWARDS VERY HEAVY BARB ARROWbNORTH WEST VERY HEAVY BARB ARROWcEAST VERY HEAVY BARB ARROW
  bSOUTH EAST VERY HEAVY BARB ARROWcWEST VERY HEAVY BARB ARROW@1F890aLEFTWARDS TRIANGLE ARROWHEAD
  aUPWARDS TRIANGLE ARROWHEADaRIGHTWARDS TRIANGLE ARROWHEADaDOWNWARDS TRIANGLE ARROWHEAD
  aLEFTWARDS WHITE ARROW WITHIN TRIANGLE ARROWHEADaUPWARDS WHITE ARROW WITHIN TRIANGLE ARROWHEAD
  aRIGHTWARDS WHITE ARROW WITHIN TRIANGLE ARROWHEADaDOWNWARDS WHITE ARROW WITHIN TRIANGLE ARROWHEAD
  aLEFTWARDS ARROW WITH NOTCHED TAILaUPWARDS ARROW WITH NOTCHED TAIL
  aRIGHTWARDS ARROW WITH NOTCHED TAILaDOWNWARDS ARROW WITH NOTCHED TAILaHEAVY ARROW SHAFT WIDTH ONE
  eTWO THIRDSeONE HALFfTHIRDaLEFTWARDS BOTTOM-SHADED WHITE ARROW
  aRIGHTWARDS BOTTOM SHADED WHITE ARROWaLEFTWARDS TOP SHADED WHITE ARROW
  aRIGHTWARDS TOP SHADED WHITE ARROWaLEFTWARDS LEFT-SHADED WHITE ARROW
  aRIGHTWARDS RIGHT-SHADED WHITE ARROWaLEFTWARDS RIGHT-SHADED WHITE ARROW
  aRIGHTWARDS LEFT-SHADED WHITE ARROWaLEFTWARDS BACK-TILTED SHADOWED WHITE ARROW
  aRIGHTWARDS BACK-TILTED SHADOWED WHITE ARROWaLEFTWARDS FRONT-TILTED SHADOWED WHITE ARROW
  aRIGHTWARDS FRONT-TILTED SHADOWED WHITE ARROWaWHITE ARROW SHAFT WIDTH ONEeTWO THIRDS
  @1F8B0aARROW POINTING UPWARDS THEN NORTH WESTcRIGHTWARDS THEN CURVING SOUTH WEST
  aRIGHTWARDS ARROW WITH LOWER HOOKaDOWNWARDS BLACK ARROW TO BARaNEGATIVE SQUARED LEFTWARDS ARROW
  cUPWARDS ARROWcRIGHTWARDS ARROWcDOWNWARDS ARROWaNORTH WEST ARROW FROM BARbEAST ARROW FROM BAR
  aSOUTH EAST ARROW FROM BARbWEST ARROW FROM BAR@1F8C0aLEFTWARDS ARROW FROM DOWNWARDS ARROW
  aRIGHTWARDS ARROW FROM DOWNWARDS ARROW@1F900aCIRCLED CROSS FORMEE WITH FOUR DOTSeTWO DOTSd
  aLEFT HALF CIRCLE WITH FOUR DOTSeTHREE DOTSeTWO DOTSeDOTdaDOWNWARD FACING HOOKcNOTCHED HOOK
  cHOOK WITH DOTcNOTCHED HOOK WITH DOTaPINCHED FINGERSaWHITE HEARTaBROWN HEARTaPINCHING HAND
  aZIPPER-MOUTH FACEaMONEY-MOUTH FACEaFACE WITH THERMOMETERaNERD FACEaTHINKING FACE
  aFACE WITH HEAD-BANDAGEaROBOT FACEaHUGGING FACEaSIGN OF THE HORNSaCALL ME HAND
  aRAISED BACK OF HANDaLEFT-FACING FISTaRIGHT-FACING FISTaHANDSHAKE
  aHAND WITH INDEX AND MIDDLE FINGERS CROSSEDaI LOVE YOU HAND SIGNaFACE WITH COWBOY HATaCLOWN FACE
  aNAUSEATED FACEaROLLING ON THE FLOOR LAUGHINGaDROOLING FACEaLYING FACEaFACE PALMaSNEEZING FACE
  aFACE WITH ONE EYEBROW RAISEDaGRINNING FACE WITH STAR EYESdONE LARGE AND ONE SMALL EYE
  aFACE WITH FINGER COVERING CLOSED LIPSaSERIOUS FACE WITH SYMBOLS COVERING MOUTH
  aSMILING FACE WITH SMILING EYES AND HAND COVERING MOUTHaFACE WITH OPEN MOUTH VOMITING
  aSHOCKED FACE WITH EXPLODING HEADaPREGNANT WOMANaBREAST-FEEDINGaPALMS UP TOGETHERaSELFIEaPRINCE
  aMAN IN TUXEDOaMOTHER CHRISTMASaSHRUGaPERSON DOING CARTWHEELaJUGGLINGaFENCERaMODERN PENTATHLON
  aWRESTLERSaWATER POLOaHANDBALLaDIVING MASKaWILTED FLOWERaDRUM WITH DRUMSTICKSaCLINKING GLASSES
  aTUMBLER GLASSaSPOONaGOAL NETaRIFLEaFIRST PLACE MEDALaSECOND PLACE MEDALaTHIRD PLACE MEDAL
  aBOXING GLOVEaMARTIAL ARTS UNIFORMaCURLING STONEaLACROSSE STICK AND BALLaSOFTBALLaFLYING DISC
  aCROISSANTaAVOCADOaCUCUMBERaBACONaPOTATOaCARROTaBAGUETTE BREADaGREEN SALADaSHALLOW PAN OF FOOD
  aSTUFFED FLATBREADaEGGaGLASS OF MILKaPEANUTSaKIWIFRUITaPANCAKESaDUMPLINGaFORTUNE COOKIE
  aTAKEOUT BOXaCHOPSTICKSaBOWL WITH SPOONaCUP WITH STRAWaCOCONUTaBROCCOLIaPIEaPRETZELaCUT OF MEAT
  aSANDWICHaCANNED FOODaLEAFY GREENaMANGOaMOON CAKEaBAGEL
  aSMILING FACE WITH SMILING EYES AND THREE HEARTSaYAWNING FACEaSMILING FACE WITH TEAR
  aFACE WITH PARTY HORN AND PARTY HATcUNEVEN EYES AND WAVY MOUTHaOVERHEATED FACEaFREEZING FACE
  aNINJAaDISGUISED FACEaFACE HOLDING BACK TEARSbWITH PLEADING EYESaSARIaLAB COATaGOGGLES
  aHIKING BOOTaFLAT SHOEaCRABaLION FACEaSCORPIONaTURKEYaUNICORN FACEaEAGLEaDUCKaBATaSHARKaOWL
  aFOX FACEaBUTTERFLYaDEERaGORILLAaLIZARDaRHINOCEROSaSHRIMPaSQUIDaGIRAFFE FACEaZEBRA FACEaHEDGEHOG
  aSAUROPODaT-REXaCRICKETaKANGAROOaLLAMAaPEACOCKaHIPPOPOTAMUSaPARROTaRACCOONaLOBSTERaMOSQUITO
  aMICROBEaBADGERaSWANaMAMMOTHaDODOaSLOTHaOTTERaORANGUTANaSKUNKaFLAMINGOaOYSTERaBEAVERaBISONaSEAL
  aGUIDE DOGaPROBING CANEaEMOJI COMPONENT RED HAIRcCURLY HAIRcBALDcWHITE HAIRaBONEaLEGaFOOTaTOOTH
  aSUPERHEROaSUPERVILLAINaSAFETY VESTaEAR WITH HEARING AIDaMOTORIZED WHEELCHAIRaMANUAL WHEELCHAIR
  aMECHANICAL ARMbLEGaCHEESE WEDGEaCUPCAKEaSALT SHAKERaBEVERAGE BOXaGARLICaONIONaFALAFELaWAFFLE
  aBUTTERaMATE DRINKaICE CUBEaBUBBLE TEAaTROLLaSTANDING PERSONaKNEELING PERSONaDEAF PERSON
  aFACE WITH MONOCLEaADULTaCHILDaOLDER ADULTaBEARDED PERSONaPERSON WITH HEADSCARFbIN STEAMY ROOM
  bCLIMBINGbIN LOTUS POSITIONaMAGEaFAIRYaVAMPIREaMERPERSONaELFaGENIEaZOMBIEaBRAINaORANGE HEART
  aBILLED CAPaSCARFaGLOVESaCOATaSOCKSaRED GIFT ENVELOPEaFIRECRACKERaJIGSAW PUZZLE PIECEaTEST TUBE
  aPETRI DISHaDNA DOUBLE HELIXaCOMPASSaABACUSaFIRE EXTINGUISHERaTOOLBOXaBRICKaMAGNETaLUGGAGE
  aLOTION BOTTLEaSPOOL OF THREADaBALL OF YARNaSAFETY PINaTEDDY BEARaBROOMaBASKETaROLL OF PAPER
  aBAR OF SOAPaSPONGEaRECEIPTaNAZAR AMULETaNEUTRAL CHESS KINGcQUEENcROOKcBISHOPcKNIGHTcPAWN
  aWHITE CHESS KNIGHT ROTATED FORTY-FIVE DEGREESaBLACK CHESS KNIGHT ROTATED FORTY-FIVE DEGREES
  aNEUTRAL CHESS KNIGHT ROTATED FORTY-FIVE DEGREESaWHITE CHESS KING ROTATED NINETY DEGREES
  cQUEEN ROTATED NINETY DEGREEScROOK ROTATED NINETY DEGREEScBISHOP ROTATED NINETY DEGREES
  cKNIGHT ROTATED NINETY DEGREEScPAWN ROTATED NINETY DEGREES
  aBLACK CHESS KING ROTATED NINETY DEGREEScQUEEN ROTATED NINETY DEGREEScROOK ROTATED NINETY DEGREES
  cBISHOP ROTATED NINETY DEGREEScKNIGHT ROTATED NINETY DEGREEScPAWN ROTATED NINETY DEGREES
  aNEUTRAL CHESS KING ROTATED NINETY DEGREEScQUEEN ROTATED NINETY DEGREES
  cROOK ROTATED NINETY DEGREEScBISHOP ROTATED NINETY DEGREEScKNIGHT ROTATED NINETY DEGREES
  cPAWN ROTATED NINETY DEGREESaWHITE CHESS KNIGHT ROTATED ONE HUNDRED THIRTY-FIVE DEGREES
  aBLACK CHESS KNIGHT ROTATED ONE HUNDRED THIRTY-FIVE DEGREES
  aNEUTRAL CHESS KNIGHT ROTATED ONE HUNDRED THIRTY-FIVE DEGREESaWHITE CHESS TURNED KINGdQUEENdROOK
  dBISHOPdKNIGHTdPAWNaBLACK CHESS TURNED KINGdQUEENdROOKdBISHOPdKNIGHTdPAWN
  aNEUTRAL CHESS TURNED KINGdQUEENdROOKdBISHOPdKNIGHTdPAWN
  aWHITE CHESS KNIGHT ROTATED TWO HUNDRED TWENTY-FIVE DEGREES
  aBLACK CHESS KNIGHT ROTATED TWO HUNDRED TWENTY-FIVE DEGREES
  aNEUTRAL CHESS KNIGHT ROTATED TWO HUNDRED TWENTY-FIVE DEGREES
  aWHITE CHESS KING ROTATED TWO HUNDRED SEVENTY DEGREEScQUEEN ROTATED TWO HUNDRED SEVENTY DEGREES
  cROOK ROTATED TWO HUNDRED SEVENTY DEGREEScBISHOP ROTATED TWO HUNDRED SEVENTY DEGREES
  cKNIGHT ROTATED TWO HUNDRED SEVENTY DEGREEScPAWN ROTATED TWO HUNDRED SEVENTY DEGREES
  aBLACK CHESS KING ROTATED TWO HUNDRED SEVENTY DEGREEScQUEEN ROTATED TWO HUNDRED SEVENTY DEGREES
  cROOK ROTATED TWO HUNDRED SEVENTY DEGREEScBISHOP ROTATED TWO HUNDRED SEVENTY DEGREES
  cKNIGHT ROTATED TWO HUNDRED SEVENTY DEGREEScPAWN ROTATED TWO HUNDRED SEVENTY DEGREES
  aNEUTRAL CHESS KING ROTATED TWO HUNDRED SEVENTY DEGREEScQUEEN ROTATED TWO HUNDRED SEVENTY DEGREES
  cROOK ROTATED TWO HUNDRED SEVENTY DEGREEScBISHOP ROTATED TWO HUNDRED SEVENTY DEGREES
  cKNIGHT ROTATED TWO HUNDRED SEVENTY DEGREEScPAWN ROTATED TWO HUNDRED SEVENTY DEGREES
  aWHITE CHESS KNIGHT ROTATED THREE HUNDRED FIFTEEN DEGREES
  aBLACK CHESS KNIGHT ROTATED THREE HUNDRED FIFTEEN DEGREES
  aNEUTRAL CHESS KNIGHT ROTATED THREE HUNDRED FIFTEEN DEGREESaWHITE CHESS EQUIHOPPER
  aBLACK CHESS EQUIHOPPERaNEUTRAL CHESS EQUIHOPPERaWHITE CHESS EQUIHOPPER ROTATED NINETY DEGREES
  aBLACK CHESS EQUIHOPPER ROTATED NINETY DEGREESaNEUTRAL CHESS EQUIHOPPER ROTATED NINETY DEGREES
  aWHITE CHESS KNIGHT-QUEENcKNIGHT-ROOKcKNIGHT-BISHOPaBLACK CHESS KNIGHT-QUEENcKNIGHT-ROOK
  cKNIGHT-BISHOP@1FA60aXIANGQI RED GENERALcMANDARINcELEPHANTcHORSEcCHARIOTcCANNONcSOLDIER
  bBLACK GENERALcMANDARINcELEPHANTcHORSEcCHARIOTcCANNONcSOLDIER@1FA70aBALLET SHOES
  aONE-PIECE SWIMSUITaBRIEFSaSHORTSaTHONG SANDALaLIGHT BLUE HEARTaGREY HEARTaPINK HEART
  aDROP OF BLOODaADHESIVE BANDAGEaSTETHOSCOPEaX-RAYaCRUTCH@1FA80aYO-YOaKITEaPARACHUTEaBOOMERANG
  aMAGIC WANDaPINATAaNESTING DOLLSaMARACASaFLUTEaHARP@1FA8FaSHOVELaRINGED PLANETaCHAIRaRAZORaAXE
  aDIYA LAMPaBANJOaMILITARY HELMETaACCORDIONaLONG DRUMaCOINaCARPENTRY SAWaSCREWDRIVERaLADDERaHOOK
  aMIRRORaWINDOWaPLUNGERaSEWING NEEDLEaKNOTaBUCKETaMOUSE TRAPaTOOTHBRUSHaHEADSTONEaPLACARDaROCK
  aMIRROR BALLaIDENTIFICATION CARDaLOW BATTERYaHAMSAaFOLDING HAND FANaHAIR PICKaKHANDAaFLYaWORM
  aBEETLEaCOCKROACHaPOTTED PLANTaWOODaFEATHERaLOTUSaCORALaEMPTY NESTaNEST WITH EGGSaHYACINTH
  aJELLYFISHaWINGaLEAFLESS TREEaGOOSEaANATOMICAL HEARTaLUNGSaPEOPLE HUGGINGaPREGNANT MANbPERSON
  aPERSON WITH CROWNaFINGERPRINT@1FACEaMOOSEaDONKEYaBLUEBERRIESaBELL PEPPERaOLIVEaFLATBREADaTAMALE
  aFONDUEaTEAPOTaPOURING LIQUIDaBEANSaJARaGINGER ROOTaPEA PODaROOT VEGETABLE@1FADFaSPLATTER
  aMELTING FACEaSALUTING FACEaFACE WITH OPEN EYES AND HAND OVER MOUTHcPEEKING EYEcDIAGONAL MOUTH
  aDOTTED LINE FACEaBITING LIPaBUBBLESaSHAKING FACEaFACE WITH BAGS UNDER EYES
  @1FAF0aHAND WITH INDEX FINGER AND THUMB CROSSEDaRIGHTWARDS HANDaLEFTWARDS HANDaPALM DOWN HAND
  bUP HANDaINDEX POINTING AT THE VIEWERaHEART HANDSaLEFTWARDS PUSHING HANDaRIGHTWARDS PUSHING HAND
  @1FB00aBLOCK SEXTANT-1bSEXTANT-2bSEXTANT-12bSEXTANT-3bSEXTANT-13bSEXTANT-23bSEXTANT-123bSEXTANT-4
  bSEXTANT-14bSEXTANT-24bSEXTANT-124bSEXTANT-34bSEXTANT-134bSEXTANT-234bSEXTANT-1234bSEXTANT-5
  bSEXTANT-15bSEXTANT-25bSEXTANT-125bSEXTANT-35bSEXTANT-235bSEXTANT-1235bSEXTANT-45bSEXTANT-145
  bSEXTANT-245bSEXTANT-1245bSEXTANT-345bSEXTANT-1345bSEXTANT-2345bSEXTANT-12345bSEXTANT-6
  bSEXTANT-16bSEXTANT-26bSEXTANT-126bSEXTANT-36bSEXTANT-136bSEXTANT-236bSEXTANT-1236bSEXTANT-46
  bSEXTANT-146bSEXTANT-1246bSEXTANT-346bSEXTANT-1346bSEXTANT-2346bSEXTANT-12346bSEXTANT-56
  bSEXTANT-156bSEXTANT-256bSEXTANT-1256bSEXTANT-356bSEXTANT-1356bSEXTANT-2356bSEXTANT-12356
  bSEXTANT-456bSEXTANT-1456bSEXTANT-2456bSEXTANT-12456bSEXTANT-3456bSEXTANT-13456bSEXTANT-23456
  aLOWER LEFT BLOCK DIAGONAL LOWER MIDDLE LEFT TO LOWER CENTREjRIGHT
  eUPPER MIDDLE LEFT TO LOWER CENTREjRIGHTfLEFT TO LOWER CENTRE
  bRIGHT BLOCK DIAGONAL UPPER MIDDLE LEFT TO UPPER CENTREjRIGHTeLOWER MIDDLE LEFT TO UPPER CENTRE
  jRIGHTfLEFT TO UPPER CENTREfMIDDLE LEFT TO UPPER MIDDLE RIGHTfCENTRE TO LOWER MIDDLE RIGHT
  fLEFT TO LOWER MIDDLE RIGHTfCENTRE TO UPPER MIDDLE RIGHTfLEFT TO UPPER MIDDLE RIGHT
  fCENTRE TO UPPER RIGHTbLEFT BLOCK DIAGONAL UPPER CENTRE TO UPPER MIDDLE RIGHT
  fLEFT TO UPPER MIDDLE RIGHTfCENTRE TO LOWER MIDDLE RIGHTfLEFT TO LOWER MIDDLE RIGHT
  fCENTRE TO LOWER RIGHTfMIDDLE LEFT TO LOWER MIDDLE RIGHT
  aUPPER RIGHT BLOCK DIAGONAL LOWER MIDDLE LEFT TO LOWER CENTREjRIGHT
  eUPPER MIDDLE LEFT TO LOWER CENTREjRIGHTfLEFT TO LOWER CENTRE
  bLEFT BLOCK DIAGONAL UPPER MIDDLE LEFT TO UPPER CENTREjRIGHTeLOWER MIDDLE LEFT TO UPPER CENTRE
  jRIGHTfLEFT TO UPPER CENTREfMIDDLE LEFT TO UPPER MIDDLE RIGHTfCENTRE TO LOWER MIDDLE RIGHT
  fLEFT TO LOWER MIDDLE RIGHTfCENTRE TO UPPER MIDDLE RIGHTfLEFT TO UPPER MIDDLE RIGHT
  fCENTRE TO UPPER RIGHTbRIGHT BLOCK DIAGONAL UPPER CENTRE TO UPPER MIDDLE RIGHT
  fLEFT TO UPPER MIDDLE RIGHTfCENTRE TO LOWER MIDDLE RIGHTfLEFT TO LOWER MIDDLE RIGHT
  fCENTRE TO LOWER RIGHTfMIDDLE LEFT TO LOWER MIDDLE RIGHT
  bAND RIGHT AND LOWER TRIANGULAR THREE QUARTERS BLOCK
  aLEFT AND LOWER AND RIGHT TRIANGULAR THREE QUARTERS BLOCK
  aUPPER AND LEFT AND LOWER TRIANGULAR THREE QUARTERS BLOCK
  aLEFT AND UPPER AND RIGHT TRIANGULAR THREE QUARTERS BLOCKbTRIANGULAR ONE QUARTER BLOCK
  aUPPER TRIANGULAR ONE QUARTER BLOCKaRIGHT TRIANGULAR ONE QUARTER BLOCK
  aLOWER TRIANGULAR ONE QUARTER BLOCKaVERTICAL ONE EIGHTH BLOCK-2dBLOCK-3dBLOCK-4dBLOCK-5dBLOCK-6
  dBLOCK-7aHORIZONTAL ONE EIGHTH BLOCK-2dBLOCK-3dBLOCK-4dBLOCK-5dBLOCK-6dBLOCK-7
  aLEFT AND LOWER ONE EIGHTH BLOCKcUPPER ONE EIGHTH BLOCKaRIGHT AND UPPER ONE EIGHTH BLOCK
  cLOWER ONE EIGHTH BLOCKaUPPER AND LOWER ONE EIGHTH BLOCKaHORIZONTAL ONE EIGHTH BLOCK-1358
  aUPPER ONE QUARTER BLOCKbTHREE EIGHTHS BLOCKbFIVE EIGHTHS BLOCKbTHREE QUARTERS BLOCK
  bSEVEN EIGHTHS BLOCKaRIGHT ONE QUARTER BLOCKbTHREE EIGHTHS BLOCKbFIVE EIGHTHS BLOCK
  bTHREE QUARTERS BLOCKbSEVEN EIGHTHS BLOCKaLEFT HALF MEDIUM SHADEaRIGHT HALF MEDIUM SHADE
  aUPPER HALF MEDIUM SHADEaLOWER HALF MEDIUM SHADEaINVERSE MEDIUM SHADE
  aUPPER HALF BLOCK AND LOWER HALF INVERSE MEDIUM SHADEcINVERSE MEDIUM SHADE AND LOWER HALF BLOCK
  @1FB94aLEFT HALF INVERSE MEDIUM SHADE AND RIGHT HALF BLOCKaCHECKER BOARD FILL
  aINVERSE CHECKER BOARD FILLaHEAVY HORIZONTAL FILLaUPPER LEFT TO LOWER RIGHT FILL
  bRIGHT TO LOWER LEFT FILLbAND LOWER TRIANGULAR HALF BLOCKaLEFT AND RIGHT TRIANGULAR HALF BLOCK
  aUPPER LEFT TRIANGULAR MEDIUM SHADEbRIGHT TRIANGULAR MEDIUM SHADE
  aLOWER RIGHT TRIANGULAR MEDIUM SHADEbLEFT TRIANGULAR MEDIUM SHADE
  aBOX DRAWINGS LIGHT DIAGONAL UPPER CENTRE TO MIDDLE LEFTiRIGHTeMIDDLE LEFT TO LOWER CENTRE
  fRIGHT TO LOWER CENTREeUPPER CENTRE TO MIDDLE LEFT TO LOWER CENTREiRIGHT TO LOWER CENTRE
  eMIDDLE LEFT TO LOWER CENTRE TO MIDDLE RIGHThUPPER CENTRE TO MIDDLE RIGHT
  eUPPER CENTRE TO MIDDLE LEFT AND MIDDLE RIGHT TO LOWER CENTRE
  iRIGHT AND MIDDLE LEFT TO LOWER CENTREjTO LOWER CENTRE TO MIDDLE LEFT
  iLEFT TO LOWER CENTRE TO MIDDLE RIGHTeMIDDLE LEFT TO UPPER CENTRE TO MIDDLE RIGHT TO LOWER CENTRE
  fRIGHT TO UPPER CENTRE TO MIDDLE LEFT TO LOWER CENTREeDIAMONDdHORIZONTAL WITH VERTICAL STROKE
  aARROWHEAD-SHAPED POINTERaINVERSE CHECK MARKaLEFT HALF RUNNING MANaRIGHT HALF RUNNING MAN
  aINVERSE DOWNWARDS ARROW WITH TIP LEFTWARDSaLEFTWARDS ARROW AND UPPER AND LOWER ONE EIGHTH BLOCK
  aRIGHTWARDS ARROW AND UPPER AND LOWER ONE EIGHTH BLOCKaDOWNWARDS ARROW AND RIGHT ONE EIGHTH BLOCK
  aUPWARDS ARROW AND RIGHT ONE EIGHTH BLOCKaLEFT HALF FOLDERaRIGHT HALF FOLDERaVOIDED GREEK CROSS
  aRIGHT OPEN SQUARED DOTaNEGATIVE DIAGONAL CROSScMIDDLE RIGHT TO LOWER CENTREcDIAMOND
  aWHITE HEAVY SALTIRE WITH ROUNDED CORNERSaLEFT THIRD WHITE RIGHT POINTING INDEX
  aMIDDLE THIRD WHITE RIGHT POINTING INDEXaRIGHT THIRD WHITE RIGHT POINTING INDEX
  aNEGATIVE SQUARED QUESTION MARKaSTICK FIGUREcWITH ARMS RAISEDcLEANING LEFTdRIGHTcWITH DRESS
  aWHITE UP-POINTING CHEVRONbCROSS MARKaRAISED SMALL LEFT SQUARE BRACKET
  aBLACK SMALL UP-POINTING CHEVRONaLEFT TWO THIRDS BLOCKbONE THIRD BLOCK
  aBOX DRAWINGS LIGHT DIAGONAL MIDDLE RIGHT TO LOWER LEFTeUPPER RIGHT TO MIDDLE LEFT
  fLEFT TO MIDDLE RIGHTeMIDDLE LEFT TO LOWER RIGHTeUPPER LEFT TO LOWER CENTREfCENTRE TO LOWER RIGHT
  fRIGHT TO LOWER CENTREfCENTRE TO LOWER LEFTfLEFT TO MIDDLE CENTRE TO UPPER RIGHT
  fRIGHT TO MIDDLE CENTRE TO LOWER RIGHTeLOWER LEFT TO MIDDLE CENTRE TO LOWER RIGHT
  eUPPER LEFT TO MIDDLE CENTRE TO LOWER LEFThLOWER CENTRE TO UPPER RIGHT
  fRIGHT TO MIDDLE LEFT TO LOWER RIGHTeLOWER LEFT TO UPPER CENTRE TO LOWER RIGHT
  eUPPER LEFT TO MIDDLE RIGHT TO LOWER LEFTaTOP JUSTIFIED LOWER HALF WHITE CIRCLE
  aRIGHT JUSTIFIED LEFT HALF WHITE CIRCLEaBOTTOM JUSTIFIED UPPER HALF WHITE CIRCLE
  aLEFT JUSTIFIED RIGHT HALF WHITE CIRCLEaUPPER CENTRE ONE QUARTER BLOCK
  aLOWER CENTRE ONE QUARTER BLOCKaMIDDLE LEFT ONE QUARTER BLOCKbRIGHT ONE QUARTER BLOCK
  aTOP JUSTIFIED LOWER HALF BLACK CIRCLEaRIGHT JUSTIFIED LEFT HALF BLACK CIRCLE
  aBOTTOM JUSTIFIED UPPER HALF BLACK CIRCLEaLEFT JUSTIFIED RIGHT HALF BLACK CIRCLE
  aTOP RIGHT JUSTIFIED LOWER LEFT QUARTER BLACK CIRCLE
  aBOTTOM LEFT JUSTIFIED UPPER RIGHT QUARTER BLACK CIRCLE
  bRIGHT JUSTIFIED UPPER LEFT QUARTER BLACK CIRCLE
  aTOP LEFT JUSTIFIED LOWER RIGHT QUARTER BLACK CIRCLEaSEGMENTED DIGIT ZEROcONEcTWOcTHREEcFOURcFIVE
  cSIXcSEVENcEIGHTcNINE@E0001aLANGUAGE TAG@E0020aTAG SPACEbEXCLAMATION MARKbQUOTATION MARK
  bNUMBER SIGNbDOLLAR SIGNbPERCENT SIGNbAMPERSANDbAPOSTROPHEbLEFT PARENTHESISbRIGHT PARENTHESIS
  bASTERISKbPLUS SIGNbCOMMAbHYPHEN-MINUSbFULL STOPbSOLIDUSbDIGIT ZEROcONEcTWOcTHREEcFOURcFIVEcSIX
  cSEVENcEIGHTcNINEbCOLONbSEMICOLONbLESS-THAN SIGNbEQUALS SIGNbGREATER-THAN SIGNbQUESTION MARK
  bCOMMERCIAL ATbLATIN CAPITAL LETTER AeBeCeDeEeFeGeHeIeJeKeLeMeNeOePeQeReSeTeUeVeWeXeYeZ
  bLEFT SQUARE BRACKETbREVERSE SOLIDUSbRIGHT SQUARE BRACKETbCIRCUMFLEX ACCENTbLOW LINEbGRAVE ACCENT
  bLATIN SMALL LETTER AeBeCeDeEeFeGeHeIeJeKeLeMeNeOePeQeReSeTeUeVeWeXeYeZbLEFT CURLY BRACKET
  bVERTICAL LINEbRIGHT CURLY BRACKETbTILDEaCANCEL TAG@E0100aVARIATION SELECTOR-17@E0100aVS17
  aVARIATION SELECTOR-18@E0101aVS18aVARIATION SELECTOR-19@E0102aVS19aVARIATION SELECTOR-20
  @E0103aVS20aVARIATION SELECTOR-21@E0104aVS21aVARIATION SELECTOR-22@E0105aVS22
  aVARIATION SELECTOR-23@E0106aVS23aVARIATION SELECTOR-24@E0107aVS24aVARIATION SELECTOR-25
  @E0108aVS25aVARIATION SELECTOR-26@E0109aVS26aVARIATION SELECTOR-27@E010AaVS27
  aVARIATION SELECTOR-28@E010BaVS28aVARIATION SELECTOR-29@E010CaVS29aVARIATION SELECTOR-30
  @E010DaVS30aVARIATION SELECTOR-31@E010EaVS31aVARIATION SELECTOR-32@E010FaVS32
  aVARIATION SELECTOR-33@E0110aVS33aVARIATION SELECTOR-34@E0111aVS34aVARIATION SELECTOR-35
  @E0112aVS35aVARIATION SELECTOR-36@E0113aVS36aVARIATION SELECTOR-37@E0114aVS37
  aVARIATION SELECTOR-38@E0115aVS38aVARIATION SELECTOR-39@E0116aVS39aVARIATION SELECTOR-40
  @E0117aVS40aVARIATION SELECTOR-41@E0118aVS41aVARIATION SELECTOR-42@E0119aVS42
  aVARIATION SELECTOR-43@E011AaVS43aVARIATION SELECTOR-44@E011BaVS44aVARIATION SELECTOR-45
  @E011CaVS45aVARIATION SELECTOR-46@E011DaVS46aVARIATION SELECTOR-47@E011EaVS47
  aVARIATION SELECTOR-48@E011FaVS48aVARIATION SELECTOR-49@E0120aVS49aVARIATION SELECTOR-50
  @E0121aVS50aVARIATION SELECTOR-51@E0122aVS51aVARIATION SELECTOR-52@E0123aVS52
  aVARIATION SELECTOR-53@E0124aVS53aVARIATION SELECTOR-54@E0125aVS54aVARIATION SELECTOR-55
  @E0126aVS55aVARIATION SELECTOR-56@E0127aVS56aVARIATION SELECTOR-57@E0128aVS57
  aVARIATION SELECTOR-58@E0129aVS58aVARIATION SELECTOR-59@E012AaVS59aVARIATION SELECTOR-60
  @E012BaVS60aVARIATION SELECTOR-61@E012CaVS61aVARIATION SELECTOR-62@E012DaVS62
  aVARIATION SELECTOR-63@E012EaVS63aVARIATION SELECTOR-64@E012FaVS64aVARIATION SELECTOR-65
  @E0130aVS65aVARIATION SELECTOR-66@E0131aVS66aVARIATION SELECTOR-67@E0132aVS67
  aVARIATION SELECTOR-68@E0133aVS68aVARIATION SELECTOR-69@E0134aVS69aVARIATION SELECTOR-70
  @E0135aVS70aVARIATION SELECTOR-71@E0136aVS71aVARIATION SELECTOR-72@E0137aVS72
  aVARIATION SELECTOR-73@E0138aVS73aVARIATION SELECTOR-74@E0139aVS74aVARIATION SELECTOR-75
  @E013AaVS75aVARIATION SELECTOR-76@E013BaVS76aVARIATION SELECTOR-77@E013CaVS77
  aVARIATION SELECTOR-78@E013DaVS78aVARIATION SELECTOR-79@E013EaVS79aVARIATION SELECTOR-80
  @E013FaVS80aVARIATION SELECTOR-81@E0140aVS81aVARIATION SELECTOR-82@E0141aVS82
  aVARIATION SELECTOR-83@E0142aVS83aVARIATION SELECTOR-84@E0143aVS84aVARIATION SELECTOR-85
  @E0144aVS85aVARIATION SELECTOR-86@E0145aVS86aVARIATION SELECTOR-87@E0146aVS87
  aVARIATION SELECTOR-88@E0147aVS88aVARIATION SELECTOR-89@E0148aVS89aVARIATION SELECTOR-90
  @E0149aVS90aVARIATION SELECTOR-91@E014AaVS91aVARIATION SELECTOR-92@E014BaVS92
  aVARIATION SELECTOR-93@E014CaVS93aVARIATION SELECTOR-94@E014DaVS94aVARIATION SELECTOR-95
  @E014EaVS95aVARIATION SELECTOR-96@E014FaVS96aVARIATION SELECTOR-97@E0150aVS97
  aVARIATION SELECTOR-98@E0151aVS98aVARIATION SELECTOR-99@E0152aVS99aVARIATION SELECTOR-100
  @E0153aVS100aVARIATION SELECTOR-101@E0154aVS101aVARIATION SELECTOR-102@E0155aVS102
  aVARIATION SELECTOR-103@E0156aVS103aVARIATION SELECTOR-104@E0157aVS104aVARIATION SELECTOR-105
  @E0158aVS105aVARIATION SELECTOR-106@E0159aVS106aVARIATION SELECTOR-107@E015AaVS107
  aVARIATION SELECTOR-108@E015BaVS108aVARIATION SELECTOR-109@E015CaVS109aVARIATION SELECTOR-110
  @E015DaVS110aVARIATION SELECTOR-111@E015EaVS111aVARIATION SELECTOR-112@E015FaVS112
  aVARIATION SELECTOR-113@E0160aVS113aVARIATION SELECTOR-114@E0161aVS114aVARIATION SELECTOR-115
  @E0162aVS115aVARIATION SELECTOR-116@E0163aVS116aVARIATION SELECTOR-117@E0164aVS117
  aVARIATION SELECTOR-118@E0165aVS118aVARIATION SELECTOR-119@E0166aVS119aVARIATION SELECTOR-120
  @E0167aVS120aVARIATION SELECTOR-121@E0168aVS121aVARIATION SELECTOR-122@E0169aVS122
  aVARIATION SELECTOR-123@E016AaVS123aVARIATION SELECTOR-124@E016BaVS124aVARIATION SELECTOR-125
  @E016CaVS125aVARIATION SELECTOR-126@E016DaVS126aVARIATION SELECTOR-127@E016EaVS127
  aVARIATION SELECTOR-128@E016FaVS128aVARIATION SELECTOR-129@E0170aVS129aVARIATION SELECTOR-130
  @E0171aVS130aVARIATION SELECTOR-131@E0172aVS131aVARIATION SELECTOR-132@E0173aVS132
  aVARIATION SELECTOR-133@E0174aVS133aVARIATION SELECTOR-134@E0175aVS134aVARIATION SELECTOR-135
  @E0176aVS135aVARIATION SELECTOR-136@E0177aVS136aVARIATION SELECTOR-137@E0178aVS137
  aVARIATION SELECTOR-138@E0179aVS138aVARIATION SELECTOR-139@E017AaVS139aVARIATION SELECTOR-140
  @E017BaVS140aVARIATION SELECTOR-141@E017CaVS141aVARIATION SELECTOR-142@E017DaVS142
  aVARIATION SELECTOR-143@E017EaVS143aVARIATION SELECTOR-144@E017FaVS144aVARIATION SELECTOR-145
  @E0180aVS145aVARIATION SELECTOR-146@E0181aVS146aVARIATION SELECTOR-147@E0182aVS147
  aVARIATION SELECTOR-148@E0183aVS148aVARIATION SELECTOR-149@E0184aVS149aVARIATION SELECTOR-150
  @E0185aVS150aVARIATION SELECTOR-151@E0186aVS151aVARIATION SELECTOR-152@E0187aVS152
  aVARIATION SELECTOR-153@E0188aVS153aVARIATION SELECTOR-154@E0189aVS154aVARIATION SELECTOR-155
  @E018AaVS155aVARIATION SELECTOR-156@E018BaVS156aVARIATION SELECTOR-157@E018CaVS157
  aVARIATION SELECTOR-158@E018DaVS158aVARIATION SELECTOR-159@E018EaVS159aVARIATION SELECTOR-160
  @E018FaVS160aVARIATION SELECTOR-161@E0190aVS161aVARIATION SELECTOR-162@E0191aVS162
  aVARIATION SELECTOR-163@E0192aVS163aVARIATION SELECTOR-164@E0193aVS164aVARIATION SELECTOR-165
  @E0194aVS165aVARIATION SELECTOR-166@E0195aVS166aVARIATION SELECTOR-167@E0196aVS167
  aVARIATION SELECTOR-168@E0197aVS168aVARIATION SELECTOR-169@E0198aVS169aVARIATION SELECTOR-170
  @E0199aVS170aVARIATION SELECTOR-171@E019AaVS171aVARIATION SELECTOR-172@E019BaVS172
  aVARIATION SELECTOR-173@E019CaVS173aVARIATION SELECTOR-174@E019DaVS174aVARIATION SELECTOR-175
  @E019EaVS175aVARIATION SELECTOR-176@E019FaVS176aVARIATION SELECTOR-177@E01A0aVS177
  aVARIATION SELECTOR-178@E01A1aVS178aVARIATION SELECTOR-179@E01A2aVS179aVARIATION SELECTOR-180
  @E01A3aVS180aVARIATION SELECTOR-181@E01A4aVS181aVARIATION SELECTOR-182@E01A5aVS182
  aVARIATION SELECTOR-183@E01A6aVS183aVARIATION SELECTOR-184@E01A7aVS184aVARIATION SELECTOR-185
  @E01A8aVS185aVARIATION SELECTOR-186@E01A9aVS186aVARIATION SELECTOR-187@E01AAaVS187
  aVARIATION SELECTOR-188@E01ABaVS188aVARIATION SELECTOR-189@E01ACaVS189aVARIATION SELECTOR-190
  @E01ADaVS190aVARIATION SELECTOR-191@E01AEaVS191aVARIATION SELECTOR-192@E01AFaVS192
  aVARIATION SELECTOR-193@E01B0aVS193aVARIATION SELECTOR-194@E01B1aVS194aVARIATION SELECTOR-195
  @E01B2aVS195aVARIATION SELECTOR-196@E01B3aVS196aVARIATION SELECTOR-197@E01B4aVS197
  aVARIATION SELECTOR-198@E01B5aVS198aVARIATION SELECTOR-199@E01B6aVS199aVARIATION SELECTOR-200
  @E01B7aVS200aVARIATION SELECTOR-201@E01B8aVS201aVARIATION SELECTOR-202@E01B9aVS202
  aVARIATION SELECTOR-203@E01BAaVS203aVARIATION SELECTOR-204@E01BBaVS204aVARIATION SELECTOR-205
  @E01BCaVS205aVARIATION SELECTOR-206@E01BDaVS206aVARIATION SELECTOR-207@E01BEaVS207
  aVARIATION SELECTOR-208@E01BFaVS208aVARIATION SELECTOR-209@E01C0aVS209aVARIATION SELECTOR-210
  @E01C1aVS210aVARIATION SELECTOR-211@E01C2aVS211aVARIATION SELECTOR-212@E01C3aVS212
  aVARIATION SELECTOR-213@E01C4aVS213aVARIATION SELECTOR-214@E01C5aVS214aVARIATION SELECTOR-215
  @E01C6aVS215aVARIATION SELECTOR-216@E01C7aVS216aVARIATION SELECTOR-217@E01C8aVS217
  aVARIATION SELECTOR-218@E01C9aVS218aVARIATION SELECTOR-219@E01CAaVS219aVARIATION SELECTOR-220
  @E01CBaVS220aVARIATION SELECTOR-221@E01CCaVS221aVARIATION SELECTOR-222@E01CDaVS222
  aVARIATION SELECTOR-223@E01CEaVS223aVARIATION SELECTOR-224@E01CFaVS224aVARIATION SELECTOR-225
  @E01D0aVS225aVARIATION SELECTOR-226@E01D1aVS226aVARIATION SELECTOR-227@E01D2aVS227
  aVARIATION SELECTOR-228@E01D3aVS228aVARIATION SELECTOR-229@E01D4aVS229aVARIATION SELECTOR-230
  @E01D5aVS230aVARIATION SELECTOR-231@E01D6aVS231aVARIATION SELECTOR-232@E01D7aVS232
  aVARIATION SELECTOR-233@E01D8aVS233aVARIATION SELECTOR-234@E01D9aVS234aVARIATION SELECTOR-235
  @E01DAaVS235aVARIATION SELECTOR-236@E01DBaVS236aVARIATION SELECTOR-237@E01DCaVS237
  aVARIATION SELECTOR-238@E01DDaVS238aVARIATION SELECTOR-239@E01DEaVS239aVARIATION SELECTOR-240
  @E01DFaVS240aVARIATION SELECTOR-241@E01E0aVS241aVARIATION SELECTOR-242@E01E1aVS242
  aVARIATION SELECTOR-243@E01E2aVS243aVARIATION SELECTOR-244@E01E3aVS244aVARIATION SELECTOR-245
  @E01E4aVS245aVARIATION SELECTOR-246@E01E5aVS246aVARIATION SELECTOR-247@E01E6aVS247
  aVARIATION SELECTOR-248@E01E7aVS248aVARIATION SELECTOR-249@E01E8aVS249aVARIATION SELECTOR-250
  @E01E9aVS250aVARIATION SELECTOR-251@E01EAaVS251aVARIATION SELECTOR-252@E01EBaVS252
  aVARIATION SELECTOR-253@E01ECaVS253aVARIATION SELECTOR-254@E01EDaVS254aVARIATION SELECTOR-255
  @E01EEaVS255aVARIATION SELECTOR-256@E01EFaVS256"

end SourceGate.Unicode.Name
