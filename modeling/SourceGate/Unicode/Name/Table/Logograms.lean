/-!
# Names of Anatolian hieroglyphs, the scripts and the components that follow

The names of the characters from U+14000 to U+1CFFF, in the shortened form that
the reading of the tables explains.
-/

namespace SourceGate.Unicode.Name

/-- The names of Anatolian hieroglyphs, the scripts and the components that follow. -/
def logograms : String := "
  @14400aANATOLIAN HIEROGLYPH A001cA002cA003cA004cA005cA006cA007cA008cA009cA010cA010AcA011cA012
  cA013cA014cA015cA016cA017cA018cA019cA020cA021cA022cA023cA024cA025cA026cA026AcA027cA028cA029cA030
  cA031cA032cA033cA034cA035cA036cA037cA038cA039cA039AcA040cA041cA041AcA042cA043cA044cA045cA045A
  cA046cA046AcA046BcA047cA048cA049cA050cA051cA052cA053cA054cA055cA056cA057cA058cA059cA060cA061cA062
  cA063cA064cA065cA066cA066AcA066BcA066CcA067cA068cA069cA070cA071cA072cA073cA074cA075cA076cA077
  cA078cA079cA080cA081cA082cA083cA084cA085cA086cA087cA088cA089cA090cA091cA092cA093cA094cA095cA096
  cA097cA097AcA098cA098AcA099cA100cA100AcA101cA101AcA102cA102AcA103cA104cA104AcA104BcA104CcA105
  cA105AcA105BcA106cA107cA107AcA107BcA107CcA108cA109cA110cA110AcA110BcA111cA112cA113cA114cA115
  cA115AcA116cA117cA118cA119cA120cA121cA122cA123cA124cA125cA125AcA126cA127cA128cA129cA130cA131cA132
  cA133cA134cA135cA135AcA136cA137cA138cA139cA140cA141cA142cA143cA144cA145cA146cA147cA148cA149cA150
  cA151cA152cA153cA154cA155cA156cA157cA158cA159cA160cA161cA162cA163cA164cA165cA166cA167cA168cA169
  cA170cA171cA172cA173cA174cA175cA176cA177cA178cA179cA180cA181cA182cA183cA184cA185cA186cA187cA188
  cA189cA190cA191cA192cA193cA194cA195cA196cA197cA198cA199cA200cA201cA202cA202AcA202BcA203cA204cA205
  cA206cA207cA207AcA208cA209cA209AcA210cA211cA212cA213cA214cA215cA215AcA216cA216AcA217cA218cA219
  cA220cA221cA222cA223cA224cA225cA226cA227cA227AcA228cA229cA230cA231cA232cA233cA234cA235cA236cA237
  cA238cA239cA240cA241cA242cA243cA244cA245cA246cA247cA248cA249cA250cA251cA252cA253cA254cA255cA256
  cA257cA258cA259cA260cA261cA262cA263cA264cA265cA266cA267cA267AcA268cA269cA270cA271cA272cA273cA274
  cA275cA276cA277cA278cA279cA280cA281cA282cA283cA284cA285cA286cA287cA288cA289cA289AcA290cA291cA292
  cA293cA294cA294AcA295cA296cA297cA298cA299cA299AcA300cA301cA302cA303cA304cA305cA306cA307cA308cA309
  cA309AcA310cA311cA312cA313cA314cA315cA316cA317cA318cA319cA320cA321cA322cA323cA324cA325cA326cA327
  cA328cA329cA329AcA330cA331cA332AcA332BcA332CcA333cA334cA335cA336cA336AcA336BcA336CcA337cA338cA339
  cA340cA341cA342cA343cA344cA345cA346cA347cA348cA349cA350cA351cA352cA353cA354cA355cA356cA357cA358
  cA359cA359AcA360cA361cA362cA363cA364cA364AcA365cA366cA367cA368cA368AcA369cA370cA371cA371AcA372
  cA373cA374cA375cA376cA377cA378cA379cA380cA381cA381AcA382cA383 RA OR RIcA383AcA384cA385cA386cA386A
  cA387cA388cA389cA390cA391cA392cA393 EIGHTcA394cA395cA396cA397cA398cA399cA400cA401cA402cA403cA404
  cA405cA406cA407cA408cA409cA410 BEGIN LOGOGRAM MARKcA410A END LOGOGRAM MARKcA411cA412cA413cA414
  cA415cA416cA417cA418cA419cA420cA421cA422cA423cA424cA425cA426cA427cA428cA429cA430cA431cA432cA433
  cA434cA435cA436cA437cA438cA439cA440cA441cA442cA443cA444cA445cA446cA447cA448cA449cA450cA450AcA451
  cA452cA453cA454cA455cA456cA457cA457AcA458cA459cA460cA461cA462cA463cA464cA465cA466cA467cA468cA469
  cA470cA471cA472cA473cA474cA475cA476cA477cA478cA479cA480cA481cA482cA483cA484cA485cA486cA487cA488
  cA489cA490cA491cA492cA493cA494cA495cA496cA497cA501cA502cA503cA504cA505cA506cA507cA508cA509cA510
  cA511cA512cA513cA514cA515cA516cA517cA518cA519cA520cA521cA522cA523cA524cA525cA526cA527cA528cA529
  cA530@16100aGURUNG KHEMA LETTER AdKAdKHAdGAdGHAdNGAdCAdCHAdJAdJHAdHAdTTAdTTHAdDDAdDDHAdVAdTAdTHA
  dDAdDHAdNAdPAdPHAdBAdBHAdMAdYAdRAdLAdSAcVOWEL SIGN AAeIeIIeUeUUeEeEEeAIeOeOOeAUdLENGTH MARK
  cCONSONANT SIGN MEDIAL YAfVAfHAcSIGN ANUSVARAcCONSONANT SIGN MEDIAL RAcSIGN THOLHOMAcDIGIT ZERO
  dONEdTWOdTHREEdFOURdFIVEdSIXdSEVENdEIGHTdNINE@16800aBAMUM LETTER PHASE-A NGKUE MFONdGBIEE FON
  dPON MFON PIPAEMGBIEEfPIPAEMBAdNAA MFONdSHUENSHUETdTITA MFONdNZA MFONdSHINDA PA NJI
  dPON PA NJI PIPAEMGBIEEgPIPAEMBAdMAEMBGBIEE@1680BdMAEMGBIEEdTU MAEMBAdNGANGUdMAEMVEUXdMANSUAE
  dMVEUAENGAMdSEUNYAMdNTOQPENdKEUKEUTNDAdNKINDIdSUUdNGKUENZEUMdLAPAQdLET KUTdNTAP MFAAdMAEKEUP
  dPASHAEdGHEUAERAEdPAMSHAEdMON NGGEUAETdNZUN MEUTdU YUQ NAEdGHEUAEGHEUAEdNTAP NTAAdSISAdMGBASA
  dMEUNJOMNDEUQdMOOMPUQdKAFAdPA LEERAEWAdNDA LEERAEWAdPETdMAEMKPENdNIKAdPUPdTUAEPdLUAEPdSONJAM
  dTEUTEUWENdMAENYIdKETdNDAANGGEUAETdKUOQdMOOMEUTdSHUMdLOMMAEdFIRIdROMdKPOQdSOQdMAP PIEETdSHIRAE
  dNTAPdSHOQ NSHUT YUMdNYIT MONGKEUAEQdPAARAEdNKAARAEdUNKNOWNdNGGENdMAESIdNJAMdMBANYIdNYETdTEUAEN
  dSOTdPAAMdNSHIEEdMAEMdNYIdKAQdNSHAdVEEdLUdNENdNAQdMBAQcPHASE-B NSHUETdTU MAEMGBIEEdSIEEdSET TU
  dLOM NTEUMdMBA MAELEEdKIEEMdYEURAEdMBAARAEdKAMdPEESHIdYAFU LEERAEWAdLAM NSHUT NYAMdNTIEE SHEUOQ
  dNDU NJAAdGHEUGHEUAEMdPITdTU NSIEEdSHET NJAQdSHEUAEQTUdMFON TEUAEQdMBIT MBAAKETdNYI NTEUMdKEUPUQ
  dGHEUGHENdKEUYEUXdLAANAEdPARUMdVEUMdNGKINDI MVOPdNGGEU MBUdWUAETdSAKEUAEdTAAMdMEUQdNGGUOQeLARGE
  dMFIYAQdSUEdMBEURIdMONTIEENdNYAEMAEdPUNGAAM@16881dPUNGGAAMdMEUT NGGEETdFEUXdMBUOQdFEEdKEUAEM
  dMA NJEUAENAeNJUQAdLETdNGGAAMdNSENdMAdKIQdNGOM@1688EdNGGOMcPHASE-C NGKUE MAEMBAdNZAdYUMdWANGKUOQ
  dNGGENdNDEUAEREEdNGKAQdGHARAEdMBEEKEETdGBAYIdNYIR MKPARAQ MEUNdNTU MBITdMBEUMdPIRIEENdNDOMBU
  dMBAA CABBAGE-TREEdKEUSHEUAEPdGHAPdKEUKAQdYU MUOMAEdNZEUMdMBUEdNSEUAENdMBITdYEUQdKPARAQdKAAdSEUX
  dNDIDAdTAASHAEdNJUEQdTITA YUEdSUAETdNGGUAEN NYAMdVEUXdNANSANAQdMA KEUAERIdNTAAdNGGUONdLAP
  dMBIRIEENdMGBASAQdNTEUNGBAdTEUTEUXdNGGUMdFUEdNDEUTdNSAdNSHAQdBUNGdVEUAEPENdMBERAEdRUdNJAEMdLAM
  dTITUAEPdNSUOT NGOMdNJEEEEdKETdNGGUdMAESIdMBUAEMdLUdKUTdNJAMdNGOMdWUPdNGGUEETdNSOMdNTEN
  dKUOP NKAARAEdNSUNdNDAMdMA NSIEEdYAAdNDAPdSHUEQdSETFON@168DCdSHETFONdMBIdMAEMBAdMBANYIdKEUSEUX
  dMBEUXdKEUMdMBAA PICKETdYUWOQdNJEUXdMIEEdMUAEdSHIQdKEN LAWeFATIGUEdNGAQdNAQdLIQdPINdPENdTET
  cPHASE-D MBUOdWAPdNJIdMFONdNJIEEdLIEEdNJEUTdNSHEEdNGGAAMAEdNYAMdWUAENdNGKUNdSHEEdNGKAPdKEUAETMEUN
  dTEUTdSHEUAEdNJAPdSUEdKETdYAEMMAEdKUOMdSAPdMFEUTdNDEUXdMALEERIdMEUTdSEUAEQdYENdNJEUAEM
  dKEUOT MBUAEdNGKEURIdTUdGHAAdNGKYEEdFEUFEUAETdNDEEdMGBOFUMdLEUAEPdNDONdMONIdMGBEUNdPUUTdMGBIEE
  dMFOdLUMdNSIEEPdMBAAdKWAETdNYETdTEUAENdSOTdYUWOQdKEUMdRAEMdTEEEEdNGKEUAEQdMFEUAEdNSIEETdKEUPdPIP
  dPEUTAEdNYUEdLETdNGGAAMdMFIEEdNGGWAENdYUOMdPAPdYUOPdNDAMdNTEUMdSUAEdKUNdNGGEUXdNGKIEEdTUOTdMEUN
  dKUQdNSUMdTEUNdMAENJETdNGGAPdLEUMdNGGUOMdNSHUTdNJUEQdGHEUAEdKUdREN OLDdTAEdTOQdNYIdRIIdLEEEE
  dMEEEEdMdSUUdMUdSHIIdSHEUXdKYEEdNUdSHUdNTEEdPEEdNIdSHOQdPUQdMVOPdLOQdREN MUCHdTIdNTUUdMBAA SEVEN
  dSAQdFAAcPHASE-E NDAPdTOONdMBEUMdLAPdVOMdLOONdPAAdSOMdRAQdNSHUOPdNDUNdPUAEdTAMdNGKAdKPEUXdWUOdSEE
  dNGGEUAETdPAAMdTOOdKUOPdLOMdNSHIEEdNGOP@1697DdNGGOPdMAEMdNGKEUXdNGOQdNSHUEdRIMGBAdNJEUXdPEEMdSAA
  dNGGURAEdMGBAdGHEUXdNGKEUAEMdNJAEMLIdMAPdLOOTdNGGEEEEdNDIQdTAEN NTEUMdSETdPUMdNDAA SOFTNESS
  dNGGUAESHAE NYAMdYIEEdGHEUNdTUAEdYEUAEdPOdTUMAEdKEUAEdSUAENdTEUAEQdVEUAEdWEUXdLAAMdPUdTAAQ
  dGHAAMAEdNGEUREUTdSHEUAEQdMGBENdMBEEdNZAQdNKOMdGBETdTUMdKUETdYAPdNYI CLEAVERdYITdMFEUQdNDIAQ
  dPIEEQdYUEQdLEUAEMdFUEdGBEUXdNGKUPdKETdMAEdNGKAAMIdGHETdFAdNTUMdPEUTdYEUMdNGGEUAEdNYI BETWEEN
  dNZUQdPOONdMIEEdFUETdNAEdMUAEdGHEUAEdFU IdMVIdPUAQdNGKUMdKUTdPIETdNTAPdYEUAETdNGGUPdPA PEOPLE
  dFU CALLdFOMdNJEEdAdTOQdOdIdLAQdPA PLURALdTAAdTAQdNDAA MY HOUSEdSHIQdYEUXdNGUAEdYUAEN
  dYOQ SWIMMINGeCOVERdYUQdYUNdKEUXdPEUXdNJEE EPOCHdPUEdWUEdFEEdVEEdLUdMIdREUXdRAEdNGUAETdNGAdSHO
  dSHOQdFU REMEDYdNAdPIdLOQdKOdMENdMAdMAQdTEUdKIdMONdTENdFAQdGHOMcPHASE-F KAdUdKUdEEdREEdTAEdNYIdLA
  dRIIdRIEEdMEEEEdTAAdNDAAdNJAEMdMdSUUdSHIIdSIdSEUXdKYEEdKETdNUAEdNUdNJUAEdYOQdSHUdYAdNSHAdPEUX
  dNTEEdWUEdPEEdRUdNIdREUXdKENdNGKWAENdNGGAdSHOdPUAEdFOMdWAdLIdLOQdKOdMBENdRENdMAdMOdMBAAdTETdKPA
  dSAMBAdVUEQ@16A40aMRO LETTER TAcNGIcYOcMIMcBAcDAcAcPHIcKHAIcHAOcDAIcCHUcKEAAEcOLcMAEMcNINcPAcOOcO
  cROcSHIcTHEAcEAcWAcEcKOcLANcLAcHAIcRIcTEK@16A60bDIGIT ZEROcONEcTWOcTHREEcFOURcFIVEcSIXcSEVEN
  cEIGHTcNINE@16A6EbDANDAbDOUBLE DANDAaTANGSA LETTER OZcOCcOQcOXcAZcACcAQcAXcVZcVCcVQcVXcEZcECcEQ
  cEXcIZcICcIQcIXcUZcUCcUQcUXcAWZcAWCcAWQcAWXcUIZcUICcUIQcUIXcFINAL NGcLONG UEXcSHORT UEZdAWXcUEC
  cUEZcUEQcUEXcUIUZcUIUCcUIUQcUIUXcMZcMCcMQcMXcKAcKHAcGAcNGAcSAcYAcWAcPAcNYAcPHAcBAcMAcNAcHAcLAcHTA
  cTAcDAcRAcNHAcSHAcCAcTSAcGHAcHTTAcTHAcXAcFAcDHAcCHAcZA@16AC0bDIGIT ZEROcONEcTWOcTHREEcFOURcFIVE
  cSIXcSEVENcEIGHTcNINE@16AD0aBASSA VAH LETTER ENNIdKAdSEdFAdMBEdYIEdGAHdDHIIdKPAHdJOdHWAHdWAdZO
  dGBUdDOdCEdUWUdTOdBAdVUdYEINdPAdWADDAdAdOdOOdUdEEdEdI@16AF0cCOMBINING HIGH TONEdLOW TONEdMID TONE
  dLOW-MID TONEdHIGH-LOW TONEcFULL STOP@16B00aPAHAWH HMONG VOWEL KEEBdKEEVdKIBdKIVdKAUBdKAUVdKUB
  dKUVdKEBdKEVdKAIBdKAIVdKOOBdKOOVdKAWBdKAWVdKUABdKUAVdKOBdKOVdKIABdKIAVdKABdKAVdKWBdKWVdKAABdKAAV
  cCONSONANT VAUdNTSAUdLAUdHAUdNLAUdRAUdNKAUdQHAUdYAUdHLAUdMAUdCHAUdNCHAUdHNAUdPLHAUdNTHAUdNAUdAU
  dXAUdCAUcMARK CIM TUBeSOeKESeKHAVeSUAMeHOMeTAUMcSIGN VOS THOMeTSHAB CEEBdCIM CHEEMdVOS THIABeFEEM
  dXYEEM NTXIVeRHOeTOVeFAIBdVOS SEEVdMEEJ SUABdVOS NRUAdIB YAMdXAUSdCIM TSOV ROG@16B50cDIGIT ZERO
  dONEdTWOdTHREEdFOURdFIVEdSIXdSEVENdEIGHTdNINE@16B5BcNUMBER TENSdHUNDREDSdTEN THOUSANDSdMILLIONS
  dHUNDRED MILLIONSdTEN BILLIONSdTRILLIONS@16B63cSIGN VOS LUBdXYOOdHLIdTHIRD-STAGE HLIdZWJ THAJ
  dHNUBdNQIGdXIABdNTUJdAVdTXHEEJ CEEVdMEEJ TSEEBdTAUdLOSdMUSdCIM HAIS LUS NTOG NTOGeCUAM TSHOOJ
  eTXWVfCHWVePUB DAWBeNRES TOS@16B7DcCLAN SIGN TSHEEJeYEEGeLISeLAUJeXYOOJeKOOeHAWJeMUASeTHOJeTSAB
  ePHABeKHABeHAMeVAJeFAJeYAJeTSWBeKWMeVWJ@16D40aKIRAT RAI SIGN ANUSVARAdTONPIdVISARGAcLETTER AdKA
  dKHAdGAdGHAdNGAdCAdCHAdJAdJHAdNYAdTTAdTTHAdDDAdDDHAdTAdTHAdDAdDHAdNAdPAdPHAdBAdBHAdMAdYAdRAdLAdVA
  dSAdSHAdHAcVOWEL SIGN AAeIeUeUEeEeAIeOeAUcSIGN VIRAMAdSAATdYUPIcDANDAcDOUBLE DANDAcDIGIT ZEROdONE
  dTWOdTHREEdFOURdFIVEdSIXdSEVENdEIGHTdNINE@16E40aMEDEFAIDRIN CAPITAL LETTER MdSdVdWdATIUdZdKPdPdT
  dGdFdIdKdAdJdEdBdCdUdYUdLdQdHP@16E56dHdNY@16E57dNGdXdDdOEdNdRdOdAIdYbSMALL LETTER MdSdVdWdATIUdZ
  dKPdPdTdGdFdIdKdAdJdEdBdCdUdYUdLdQdHP@16E76dHdNY@16E77dNGdXdDdOEdNdRdOdAIdYbDIGIT ZEROcONEcTWO
  cTHREEcFOURcFIVEcSIXcSEVENcEIGHTcNINEbNUMBER TENcELEVENcTWELVEcTHIRTEENcFOURTEENcFIFTEENcSIXTEEN
  cSEVENTEENcEIGHTEENcNINETEENbDIGIT ONE ALTERNATE FORMcTWO ALTERNATE FORMcTHREE ALTERNATE FORM
  bCOMMAbFULL STOPbSYMBOL AIVAbEXCLAMATION OH@16F00aMIAO LETTER PAcBAcYI PAcPLAcMAcMHAcARCHAIC MA
  cFAcVAcVFAcTAcDAcYI TTAdTAcTTAcDDAcNAcNHAcYI NNAcARCHAIC NAcNNAcNNHAcLAcLYAcLHAcLHYAcTLHAcDLHA
  cTLHYAcDLHYAcKAcGAcYI KAcQAcQGAcNGAcNGHAcARCHAIC NGAcHAcXAcGHAcGHHAcTSSAcDZZAcNYAcNYHAcTSHAcDZHA
  cYI TSHAdDZHAcREFORMED TSHAcSHAcSSAcZHAcZSHAcTSAcDZAcYI TSAcSAcZAcZSAcZZAcZZSAcARCHAIC ZZAcZZYA
  cZZSYAcWAcAHcHHAcBRIcSYIcDZYIcTEcTSEcRTE@16F4FbSIGN CONSONANT MODIFIER BARbLETTER NASALIZATION
  bSIGN ASPIRATIONcREFORMED VOICINGdASPIRATIONbVOWEL SIGN AdAAdAHHdANdANGdOdOOdWOdWdEdENdENGdOEYdI
  dIAdIANdIANGdIOdIEdIIdIUdINGdUdUAdUANdUANGdUUdUEIdUNGdYdYIdAEdAEEdERRdROUNDED ERRdERdROUNDED ER
  dAIdEIdAUdOUdNdNGdUOGdYUIdOGdOERdVWdIGdEAdIONGdUI@16F8FbTONE RIGHTcTOP RIGHTcABOVEcBELOW
  bLETTER TONE-2cTONE-3cTONE-4cTONE-5cTONE-6cTONE-7cTONE-8cREFORMED TONE-1dTONE-2dTONE-4dTONE-5
  dTONE-6dTONE-8@16FE0aTANGUT ITERATION MARKaNUSHU ITERATION MARKaOLD CHINESE HOOK MARK
  cITERATION MARKaKHITAN SMALL SCRIPT FILLER@16FF0aVIETNAMESE ALTERNATE READING MARK CAeNHAY
  @18800aTANGUT COMPONENT-001bCOMPONENT-002bCOMPONENT-003bCOMPONENT-004bCOMPONENT-005bCOMPONENT-006
  bCOMPONENT-007bCOMPONENT-008bCOMPONENT-009bCOMPONENT-010bCOMPONENT-011bCOMPONENT-012
  bCOMPONENT-013bCOMPONENT-014bCOMPONENT-015bCOMPONENT-016bCOMPONENT-017bCOMPONENT-018
  bCOMPONENT-019bCOMPONENT-020bCOMPONENT-021bCOMPONENT-022bCOMPONENT-023bCOMPONENT-024
  bCOMPONENT-025bCOMPONENT-026bCOMPONENT-027bCOMPONENT-028bCOMPONENT-029bCOMPONENT-030
  bCOMPONENT-031bCOMPONENT-032bCOMPONENT-033bCOMPONENT-034bCOMPONENT-035bCOMPONENT-036
  bCOMPONENT-037bCOMPONENT-038bCOMPONENT-039bCOMPONENT-040bCOMPONENT-041bCOMPONENT-042
  bCOMPONENT-043bCOMPONENT-044bCOMPONENT-045bCOMPONENT-046bCOMPONENT-047bCOMPONENT-048
  bCOMPONENT-049bCOMPONENT-050bCOMPONENT-051bCOMPONENT-052bCOMPONENT-053bCOMPONENT-054
  bCOMPONENT-055bCOMPONENT-056bCOMPONENT-057bCOMPONENT-058bCOMPONENT-059bCOMPONENT-060
  bCOMPONENT-061bCOMPONENT-062bCOMPONENT-063bCOMPONENT-064bCOMPONENT-065bCOMPONENT-066
  bCOMPONENT-067bCOMPONENT-068bCOMPONENT-069bCOMPONENT-070bCOMPONENT-071bCOMPONENT-072
  bCOMPONENT-073bCOMPONENT-074bCOMPONENT-075bCOMPONENT-076bCOMPONENT-077bCOMPONENT-078
  bCOMPONENT-079bCOMPONENT-080bCOMPONENT-081bCOMPONENT-082bCOMPONENT-083bCOMPONENT-084
  bCOMPONENT-085bCOMPONENT-086bCOMPONENT-087bCOMPONENT-088bCOMPONENT-089bCOMPONENT-090
  bCOMPONENT-091bCOMPONENT-092bCOMPONENT-093bCOMPONENT-094bCOMPONENT-095bCOMPONENT-096
  bCOMPONENT-097bCOMPONENT-098bCOMPONENT-099bCOMPONENT-100bCOMPONENT-101bCOMPONENT-102
  bCOMPONENT-103bCOMPONENT-104bCOMPONENT-105bCOMPONENT-106bCOMPONENT-107bCOMPONENT-108
  bCOMPONENT-109bCOMPONENT-110bCOMPONENT-111bCOMPONENT-112bCOMPONENT-113bCOMPONENT-114
  bCOMPONENT-115bCOMPONENT-116bCOMPONENT-117bCOMPONENT-118bCOMPONENT-119bCOMPONENT-120
  bCOMPONENT-121bCOMPONENT-122bCOMPONENT-123bCOMPONENT-124bCOMPONENT-125bCOMPONENT-126
  bCOMPONENT-127bCOMPONENT-128bCOMPONENT-129bCOMPONENT-130bCOMPONENT-131bCOMPONENT-132
  bCOMPONENT-133bCOMPONENT-134bCOMPONENT-135bCOMPONENT-136bCOMPONENT-137bCOMPONENT-138
  bCOMPONENT-139bCOMPONENT-140bCOMPONENT-141bCOMPONENT-142bCOMPONENT-143bCOMPONENT-144
  bCOMPONENT-145bCOMPONENT-146bCOMPONENT-147bCOMPONENT-148bCOMPONENT-149bCOMPONENT-150
  bCOMPONENT-151bCOMPONENT-152bCOMPONENT-153bCOMPONENT-154bCOMPONENT-155bCOMPONENT-156
  bCOMPONENT-157bCOMPONENT-158bCOMPONENT-159bCOMPONENT-160bCOMPONENT-161bCOMPONENT-162
  bCOMPONENT-163bCOMPONENT-164bCOMPONENT-165bCOMPONENT-166bCOMPONENT-167bCOMPONENT-168
  bCOMPONENT-169bCOMPONENT-170bCOMPONENT-171bCOMPONENT-172bCOMPONENT-173bCOMPONENT-174
  bCOMPONENT-175bCOMPONENT-176bCOMPONENT-177bCOMPONENT-178bCOMPONENT-179bCOMPONENT-180
  bCOMPONENT-181bCOMPONENT-182bCOMPONENT-183bCOMPONENT-184bCOMPONENT-185bCOMPONENT-186
  bCOMPONENT-187bCOMPONENT-188bCOMPONENT-189bCOMPONENT-190bCOMPONENT-191bCOMPONENT-192
  bCOMPONENT-193bCOMPONENT-194bCOMPONENT-195bCOMPONENT-196bCOMPONENT-197bCOMPONENT-198
  bCOMPONENT-199bCOMPONENT-200bCOMPONENT-201bCOMPONENT-202bCOMPONENT-203bCOMPONENT-204
  bCOMPONENT-205bCOMPONENT-206bCOMPONENT-207bCOMPONENT-208bCOMPONENT-209bCOMPONENT-210
  bCOMPONENT-211bCOMPONENT-212bCOMPONENT-213bCOMPONENT-214bCOMPONENT-215bCOMPONENT-216
  bCOMPONENT-217bCOMPONENT-218bCOMPONENT-219bCOMPONENT-220bCOMPONENT-221bCOMPONENT-222
  bCOMPONENT-223bCOMPONENT-224bCOMPONENT-225bCOMPONENT-226bCOMPONENT-227bCOMPONENT-228
  bCOMPONENT-229bCOMPONENT-230bCOMPONENT-231bCOMPONENT-232bCOMPONENT-233bCOMPONENT-234
  bCOMPONENT-235bCOMPONENT-236bCOMPONENT-237bCOMPONENT-238bCOMPONENT-239bCOMPONENT-240
  bCOMPONENT-241bCOMPONENT-242bCOMPONENT-243bCOMPONENT-244bCOMPONENT-245bCOMPONENT-246
  bCOMPONENT-247bCOMPONENT-248bCOMPONENT-249bCOMPONENT-250bCOMPONENT-251bCOMPONENT-252
  bCOMPONENT-253bCOMPONENT-254bCOMPONENT-255bCOMPONENT-256bCOMPONENT-257bCOMPONENT-258
  bCOMPONENT-259bCOMPONENT-260bCOMPONENT-261bCOMPONENT-262bCOMPONENT-263bCOMPONENT-264
  bCOMPONENT-265bCOMPONENT-266bCOMPONENT-267bCOMPONENT-268bCOMPONENT-269bCOMPONENT-270
  bCOMPONENT-271bCOMPONENT-272bCOMPONENT-273bCOMPONENT-274bCOMPONENT-275bCOMPONENT-276
  bCOMPONENT-277bCOMPONENT-278bCOMPONENT-279bCOMPONENT-280bCOMPONENT-281bCOMPONENT-282
  bCOMPONENT-283bCOMPONENT-284bCOMPONENT-285bCOMPONENT-286bCOMPONENT-287bCOMPONENT-288
  bCOMPONENT-289bCOMPONENT-290bCOMPONENT-291bCOMPONENT-292bCOMPONENT-293bCOMPONENT-294
  bCOMPONENT-295bCOMPONENT-296bCOMPONENT-297bCOMPONENT-298bCOMPONENT-299bCOMPONENT-300
  bCOMPONENT-301bCOMPONENT-302bCOMPONENT-303bCOMPONENT-304bCOMPONENT-305bCOMPONENT-306
  bCOMPONENT-307bCOMPONENT-308bCOMPONENT-309bCOMPONENT-310bCOMPONENT-311bCOMPONENT-312
  bCOMPONENT-313bCOMPONENT-314bCOMPONENT-315bCOMPONENT-316bCOMPONENT-317bCOMPONENT-318
  bCOMPONENT-319bCOMPONENT-320bCOMPONENT-321bCOMPONENT-322bCOMPONENT-323bCOMPONENT-324
  bCOMPONENT-325bCOMPONENT-326bCOMPONENT-327bCOMPONENT-328bCOMPONENT-329bCOMPONENT-330
  bCOMPONENT-331bCOMPONENT-332bCOMPONENT-333bCOMPONENT-334bCOMPONENT-335bCOMPONENT-336
  bCOMPONENT-337bCOMPONENT-338bCOMPONENT-339bCOMPONENT-340bCOMPONENT-341bCOMPONENT-342
  bCOMPONENT-343bCOMPONENT-344bCOMPONENT-345bCOMPONENT-346bCOMPONENT-347bCOMPONENT-348
  bCOMPONENT-349bCOMPONENT-350bCOMPONENT-351bCOMPONENT-352bCOMPONENT-353bCOMPONENT-354
  bCOMPONENT-355bCOMPONENT-356bCOMPONENT-357bCOMPONENT-358bCOMPONENT-359bCOMPONENT-360
  bCOMPONENT-361bCOMPONENT-362bCOMPONENT-363bCOMPONENT-364bCOMPONENT-365bCOMPONENT-366
  bCOMPONENT-367bCOMPONENT-368bCOMPONENT-369bCOMPONENT-370bCOMPONENT-371bCOMPONENT-372
  bCOMPONENT-373bCOMPONENT-374bCOMPONENT-375bCOMPONENT-376bCOMPONENT-377bCOMPONENT-378
  bCOMPONENT-379bCOMPONENT-380bCOMPONENT-381bCOMPONENT-382bCOMPONENT-383bCOMPONENT-384
  bCOMPONENT-385bCOMPONENT-386bCOMPONENT-387bCOMPONENT-388bCOMPONENT-389bCOMPONENT-390
  bCOMPONENT-391bCOMPONENT-392bCOMPONENT-393bCOMPONENT-394bCOMPONENT-395bCOMPONENT-396
  bCOMPONENT-397bCOMPONENT-398bCOMPONENT-399bCOMPONENT-400bCOMPONENT-401bCOMPONENT-402
  bCOMPONENT-403bCOMPONENT-404bCOMPONENT-405bCOMPONENT-406bCOMPONENT-407bCOMPONENT-408
  bCOMPONENT-409bCOMPONENT-410bCOMPONENT-411bCOMPONENT-412bCOMPONENT-413bCOMPONENT-414
  bCOMPONENT-415bCOMPONENT-416bCOMPONENT-417bCOMPONENT-418bCOMPONENT-419bCOMPONENT-420
  bCOMPONENT-421bCOMPONENT-422bCOMPONENT-423bCOMPONENT-424bCOMPONENT-425bCOMPONENT-426
  bCOMPONENT-427bCOMPONENT-428bCOMPONENT-429bCOMPONENT-430bCOMPONENT-431bCOMPONENT-432
  bCOMPONENT-433bCOMPONENT-434bCOMPONENT-435bCOMPONENT-436bCOMPONENT-437bCOMPONENT-438
  bCOMPONENT-439bCOMPONENT-440bCOMPONENT-441bCOMPONENT-442bCOMPONENT-443bCOMPONENT-444
  bCOMPONENT-445bCOMPONENT-446bCOMPONENT-447bCOMPONENT-448bCOMPONENT-449bCOMPONENT-450
  bCOMPONENT-451bCOMPONENT-452bCOMPONENT-453bCOMPONENT-454bCOMPONENT-455bCOMPONENT-456
  bCOMPONENT-457bCOMPONENT-458bCOMPONENT-459bCOMPONENT-460bCOMPONENT-461bCOMPONENT-462
  bCOMPONENT-463bCOMPONENT-464bCOMPONENT-465bCOMPONENT-466bCOMPONENT-467bCOMPONENT-468
  bCOMPONENT-469bCOMPONENT-470bCOMPONENT-471bCOMPONENT-472bCOMPONENT-473bCOMPONENT-474
  bCOMPONENT-475bCOMPONENT-476bCOMPONENT-477bCOMPONENT-478bCOMPONENT-479bCOMPONENT-480
  bCOMPONENT-481bCOMPONENT-482bCOMPONENT-483bCOMPONENT-484bCOMPONENT-485bCOMPONENT-486
  bCOMPONENT-487bCOMPONENT-488bCOMPONENT-489bCOMPONENT-490bCOMPONENT-491bCOMPONENT-492
  bCOMPONENT-493bCOMPONENT-494bCOMPONENT-495bCOMPONENT-496bCOMPONENT-497bCOMPONENT-498
  bCOMPONENT-499bCOMPONENT-500bCOMPONENT-501bCOMPONENT-502bCOMPONENT-503bCOMPONENT-504
  bCOMPONENT-505bCOMPONENT-506bCOMPONENT-507bCOMPONENT-508bCOMPONENT-509bCOMPONENT-510
  bCOMPONENT-511bCOMPONENT-512bCOMPONENT-513bCOMPONENT-514bCOMPONENT-515bCOMPONENT-516
  bCOMPONENT-517bCOMPONENT-518bCOMPONENT-519bCOMPONENT-520bCOMPONENT-521bCOMPONENT-522
  bCOMPONENT-523bCOMPONENT-524bCOMPONENT-525bCOMPONENT-526bCOMPONENT-527bCOMPONENT-528
  bCOMPONENT-529bCOMPONENT-530bCOMPONENT-531bCOMPONENT-532bCOMPONENT-533bCOMPONENT-534
  bCOMPONENT-535bCOMPONENT-536bCOMPONENT-537bCOMPONENT-538bCOMPONENT-539bCOMPONENT-540
  bCOMPONENT-541bCOMPONENT-542bCOMPONENT-543bCOMPONENT-544bCOMPONENT-545bCOMPONENT-546
  bCOMPONENT-547bCOMPONENT-548bCOMPONENT-549bCOMPONENT-550bCOMPONENT-551bCOMPONENT-552
  bCOMPONENT-553bCOMPONENT-554bCOMPONENT-555bCOMPONENT-556bCOMPONENT-557bCOMPONENT-558
  bCOMPONENT-559bCOMPONENT-560bCOMPONENT-561bCOMPONENT-562bCOMPONENT-563bCOMPONENT-564
  bCOMPONENT-565bCOMPONENT-566bCOMPONENT-567bCOMPONENT-568bCOMPONENT-569bCOMPONENT-570
  bCOMPONENT-571bCOMPONENT-572bCOMPONENT-573bCOMPONENT-574bCOMPONENT-575bCOMPONENT-576
  bCOMPONENT-577bCOMPONENT-578bCOMPONENT-579bCOMPONENT-580bCOMPONENT-581bCOMPONENT-582
  bCOMPONENT-583bCOMPONENT-584bCOMPONENT-585bCOMPONENT-586bCOMPONENT-587bCOMPONENT-588
  bCOMPONENT-589bCOMPONENT-590bCOMPONENT-591bCOMPONENT-592bCOMPONENT-593bCOMPONENT-594
  bCOMPONENT-595bCOMPONENT-596bCOMPONENT-597bCOMPONENT-598bCOMPONENT-599bCOMPONENT-600
  bCOMPONENT-601bCOMPONENT-602bCOMPONENT-603bCOMPONENT-604bCOMPONENT-605bCOMPONENT-606
  bCOMPONENT-607bCOMPONENT-608bCOMPONENT-609bCOMPONENT-610bCOMPONENT-611bCOMPONENT-612
  bCOMPONENT-613bCOMPONENT-614bCOMPONENT-615bCOMPONENT-616bCOMPONENT-617bCOMPONENT-618
  bCOMPONENT-619bCOMPONENT-620bCOMPONENT-621bCOMPONENT-622bCOMPONENT-623bCOMPONENT-624
  bCOMPONENT-625bCOMPONENT-626bCOMPONENT-627bCOMPONENT-628bCOMPONENT-629bCOMPONENT-630
  bCOMPONENT-631bCOMPONENT-632bCOMPONENT-633bCOMPONENT-634bCOMPONENT-635bCOMPONENT-636
  bCOMPONENT-637bCOMPONENT-638bCOMPONENT-639bCOMPONENT-640bCOMPONENT-641bCOMPONENT-642
  bCOMPONENT-643bCOMPONENT-644bCOMPONENT-645bCOMPONENT-646bCOMPONENT-647bCOMPONENT-648
  bCOMPONENT-649bCOMPONENT-650bCOMPONENT-651bCOMPONENT-652bCOMPONENT-653bCOMPONENT-654
  bCOMPONENT-655bCOMPONENT-656bCOMPONENT-657bCOMPONENT-658bCOMPONENT-659bCOMPONENT-660
  bCOMPONENT-661bCOMPONENT-662bCOMPONENT-663bCOMPONENT-664bCOMPONENT-665bCOMPONENT-666
  bCOMPONENT-667bCOMPONENT-668bCOMPONENT-669bCOMPONENT-670bCOMPONENT-671bCOMPONENT-672
  bCOMPONENT-673bCOMPONENT-674bCOMPONENT-675bCOMPONENT-676bCOMPONENT-677bCOMPONENT-678
  bCOMPONENT-679bCOMPONENT-680bCOMPONENT-681bCOMPONENT-682bCOMPONENT-683bCOMPONENT-684
  bCOMPONENT-685bCOMPONENT-686bCOMPONENT-687bCOMPONENT-688bCOMPONENT-689bCOMPONENT-690
  bCOMPONENT-691bCOMPONENT-692bCOMPONENT-693bCOMPONENT-694bCOMPONENT-695bCOMPONENT-696
  bCOMPONENT-697bCOMPONENT-698bCOMPONENT-699bCOMPONENT-700bCOMPONENT-701bCOMPONENT-702
  bCOMPONENT-703bCOMPONENT-704bCOMPONENT-705bCOMPONENT-706bCOMPONENT-707bCOMPONENT-708
  bCOMPONENT-709bCOMPONENT-710bCOMPONENT-711bCOMPONENT-712bCOMPONENT-713bCOMPONENT-714
  bCOMPONENT-715bCOMPONENT-716bCOMPONENT-717bCOMPONENT-718bCOMPONENT-719bCOMPONENT-720
  bCOMPONENT-721bCOMPONENT-722bCOMPONENT-723bCOMPONENT-724bCOMPONENT-725bCOMPONENT-726
  bCOMPONENT-727bCOMPONENT-728bCOMPONENT-729bCOMPONENT-730bCOMPONENT-731bCOMPONENT-732
  bCOMPONENT-733bCOMPONENT-734bCOMPONENT-735bCOMPONENT-736bCOMPONENT-737bCOMPONENT-738
  bCOMPONENT-739bCOMPONENT-740bCOMPONENT-741bCOMPONENT-742bCOMPONENT-743bCOMPONENT-744
  bCOMPONENT-745bCOMPONENT-746bCOMPONENT-747bCOMPONENT-748bCOMPONENT-749bCOMPONENT-750
  bCOMPONENT-751bCOMPONENT-752bCOMPONENT-753bCOMPONENT-754bCOMPONENT-755bCOMPONENT-756
  bCOMPONENT-757bCOMPONENT-758bCOMPONENT-759bCOMPONENT-760bCOMPONENT-761bCOMPONENT-762
  bCOMPONENT-763bCOMPONENT-764bCOMPONENT-765bCOMPONENT-766bCOMPONENT-767bCOMPONENT-768
  @1AFF0aKATAKANA LETTER MINNAN TONE-2dTONE-3dTONE-4dTONE-5@1AFF5dTONE-7dTONE-8dNASALIZED TONE-1
  eTONE-2eTONE-3eTONE-4eTONE-5@1AFFDeTONE-7eTONE-8@1B000cARCHAIC EaHIRAGANA LETTER ARCHAIC YE
  @1B001aHENTAIGANA LETTER E-1cA-1cA-2cA-3cA-WOcI-1cI-2cI-3cI-4cU-1cU-2cU-3cU-4cU-5cE-2cE-3cE-4cE-5
  cE-6cO-1cO-2cO-3cKA-1cKA-2cKA-3cKA-4cKA-5cKA-6cKA-7cKA-8cKA-9cKA-10cKA-11cKA-KEcKI-1cKI-2cKI-3
  cKI-4cKI-5cKI-6cKI-7cKI-8cKU-1cKU-2cKU-3cKU-4cKU-5cKU-6cKU-7cKE-1cKE-2cKE-3cKE-4cKE-5cKE-6cKO-1
  cKO-2cKO-3cKO-KIcSA-1cSA-2cSA-3cSA-4cSA-5cSA-6cSA-7cSA-8cSI-1cSI-2cSI-3cSI-4cSI-5cSI-6cSU-1cSU-2
  cSU-3cSU-4cSU-5cSU-6cSU-7cSU-8cSE-1cSE-2cSE-3cSE-4cSE-5cSO-1cSO-2cSO-3cSO-4cSO-5cSO-6cSO-7cTA-1
  cTA-2cTA-3cTA-4cTI-1cTI-2cTI-3cTI-4cTI-5cTI-6cTI-7cTU-1cTU-2cTU-3cTU-4cTU-TOcTE-1cTE-2cTE-3cTE-4
  cTE-5cTE-6cTE-7cTE-8cTE-9cTO-1cTO-2cTO-3cTO-4cTO-5cTO-6cTO-RAcNA-1cNA-2cNA-3cNA-4cNA-5cNA-6cNA-7
  cNA-8cNA-9cNI-1cNI-2cNI-3cNI-4cNI-5cNI-6cNI-7cNI-TEcNU-1cNU-2cNU-3cNE-1cNE-2cNE-3cNE-4cNE-5cNE-6
  cNE-KOcNO-1cNO-2cNO-3cNO-4cNO-5cHA-1cHA-2cHA-3cHA-4cHA-5cHA-6cHA-7cHA-8cHA-9cHA-10cHA-11cHI-1
  cHI-2cHI-3cHI-4cHI-5cHI-6cHI-7cHU-1cHU-2cHU-3cHE-1cHE-2cHE-3cHE-4cHE-5cHE-6cHE-7cHO-1cHO-2cHO-3
  cHO-4cHO-5cHO-6cHO-7cHO-8cMA-1cMA-2cMA-3cMA-4cMA-5cMA-6cMA-7cMI-1cMI-2cMI-3cMI-4cMI-5cMI-6cMI-7
  cMU-1cMU-2cMU-3cMU-4cME-1cME-2cME-MAcMO-1cMO-2cMO-3cMO-4cMO-5cMO-6cYA-1cYA-2cYA-3cYA-4cYA-5cYA-YO
  cYU-1cYU-2cYU-3cYU-4cYO-1cYO-2cYO-3cYO-4cYO-5cYO-6cRA-1cRA-2cRA-3cRA-4cRI-1cRI-2cRI-3cRI-4cRI-5
  cRI-6cRI-7cRU-1cRU-2cRU-3cRU-4cRU-5cRU-6cRE-1cRE-2cRE-3cRE-4cRO-1cRO-2cRO-3cRO-4cRO-5cRO-6cWA-1
  cWA-2cWA-3cWA-4cWA-5cWI-1cWI-2cWI-3cWI-4cWI-5cWE-1cWE-2cWE-3cWE-4cWO-1cWO-2cWO-3cWO-4cWO-5cWO-6
  cWO-7cN-MU-MO-1cN-MU-MO-2aHIRAGANA LETTER ARCHAIC WUaKATAKANA LETTER ARCHAIC YIdYEdWU
  @1B132aHIRAGANA LETTER SMALL KO@1B150dWIdWEdWO@1B155aKATAKANA LETTER SMALL KO@1B164dWIdWEdWOdN
  @1BC00aDUPLOYAN LETTER HcXcPcTcFcKcLcBcDcVcGcRcP NcD ScF NcK McR ScTHcSLOAN DHcDHcKKcSLOAN JcHL
  cLHcRHcMcNcJcScM NcN McJ McS JcM WITH DOTcN WITH DOTcJ WITH DOTeDOTS INSIDE AND ABOVEcS WITH DOT
  fBELOWcM ScN ScJ ScS ScM N ScN M ScJ M ScS J ScJ S WITH DOTdNeScS TeRdPeRcT SdR ScWcWHcW RcS NdM
  cK R ScG R ScS KeRcAcSLOAN OWcOAcOcAOUcIcEcIEcSHORT IcUIcEEcSLOAN EHcROMANIAN IcSLOAN EEcLONG I
  cYEcUcEUcXWcU NcLONG UcROMANIAN UcUHcSLOAN UcOOHcOWcOUcWAcWOcWIcWEIcWOWcNASAL UdOdIdAcPERNIN AN
  dAMcSLOAN ENdANdONcVOCALIC M@1BC70bAFFIX LEFT HORIZONTAL SECANTcMID HORIZONTAL SECANT
  cRIGHT HORIZONTAL SECANTcLOW VERTICAL SECANTcMID VERTICAL SECANTcHIGH VERTICAL SECANT
  cATTACHED SECANTdLEFT-TO-RIGHT SECANTdTANGENTdTAILdE HOOKdI HOOKdTANGENT HOOK@1BC80cHIGH ACUTE
  dTIGHT ACUTEdGRAVEdLONG GRAVEdDOTdCIRCLEdLINEdWAVEdVERTICAL@1BC90cLOW ACUTEdTIGHT ACUTEdGRAVE
  dLONG GRAVEdDOTdCIRCLEdLINEdWAVEdVERTICALdARROW@1BC9CbSIGN O WITH CROSSbTHICK LETTER SELECTOR
  bDOUBLE MARKbPUNCTUATION CHINOOK FULL STOPaSHORTHAND FORMAT LETTER OVERLAPcCONTINUING OVERLAP
  cDOWN STEPcUP STEP@1CC00aUP-POINTING GO-KARTaRIGHT-POINTING GO-KARTaLEFT-POINTING STICK FIGURE
  aRIGHT-POINTING STICK FIGUREaDOWN-POINTING STICK FIGUREaLOWER HORIZONTAL RULER SEGMENT
  aRIGHT VERTICAL RULER SEGMENTaLOWER RIGHT RULER SEGMENTaANTENNAaHORIZONTAL RESISTOR SEGMENT
  aVERTICAL RESISTOR SEGMENTaLEFT THIRD INDUCTORaMIDDLE THIRD INDUCTORaRIGHT THIRD INDUCTOR
  aLEFT-POINTING DIODEaRIGHT-POINTING DIODEaNPN TRANSISTORaPNP TRANSISTORaRECEPTACLE
  aHORIZONTAL CAPACITORaVERTICAL CAPACITORaLOGIC GATE ORcANDcINVERTED INPUTSdOUTPUTcBUFFER
  dWITH INVERTED INPUTaBOX DRAWINGS LIGHT HORIZONTAL AND UPPER RIGHTfLOWER RIGHTdTOP AND UPPER LEFT
  dBOTTOM AND LOWER LEFTcDOUBLE DIAGONAL UPPER RIGHT TO LOWER LEFTfLEFT TO LOWER RIGHT
  aSEPARATED BLOCK QUADRANT-1cQUADRANT-2cQUADRANT-12cQUADRANT-3cQUADRANT-13cQUADRANT-23
  cQUADRANT-123cQUADRANT-4cQUADRANT-14cQUADRANT-24cQUADRANT-124cQUADRANT-34cQUADRANT-134
  cQUADRANT-234cQUADRANT-1234aUPPER LEFT TWELFTH CIRCLEbCENTRE LEFT TWELFTH CIRCLE
  cRIGHT TWELFTH CIRCLEbRIGHT TWELFTH CIRCLEbMIDDLE LEFT TWELFTH CIRCLEbLEFT QUARTER CIRCLE
  bRIGHT QUARTER CIRCLEbMIDDLE RIGHT TWELFTH CIRCLEaLOWER MIDDLE LEFT TWELFTH CIRCLE
  bLEFT QUARTER CIRCLEbRIGHT QUARTER CIRCLEbMIDDLE RIGHT TWELFTH CIRCLEbLEFT TWELFTH CIRCLE
  bCENTRE LEFT TWELFTH CIRCLEcRIGHT TWELFTH CIRCLEbRIGHT TWELFTH CIRCLEaSPARSE HORIZONTAL FILL
  bVERTICAL FILLaORTHOGONAL CROSSHATCH FILLaDIAGONAL CROSSHATCH FILLaDENSE VERTICAL FILL
  bHORIZONTAL FILLaSPECKLE FILL FRAME-1cFRAME-2aLEFT-FACING BASSINETaRIGHT-FACING BASSINET
  aFLYING SAUCER WITH BEAMScWITHOUT BEAMSaALIEN MONSTER OPEN JAWScCLOSED JAWSbSQUID OPEN TENTACLES
  cCLOSED TENTACLESbCRAB STEPPING RIGHTdLEFTbSPIDER CROUCHINGcSPREADbMONSTER STEP-1cSTEP-2
  aLEFT-POINTING ROCKET SHIPaUP-POINTING ROCKET SHIPaRIGHT-POINTING ROCKET SHIP
  aDOWN-POINTING ROCKET SHIPaTOP HALF LEFT-FACING ROBOTcFORWARD-FACING ROBOTcRIGHT-FACING ROBOT
  aBOTTOM HALF LEFT-FACING ROBOTcFORWARD-FACING ROBOTcRIGHT-FACING ROBOTaLEFT-POINTING ATOMIC BOMB
  aUP-POINTING ATOMIC BOMBaRIGHT-POINTING ATOMIC BOMBaDOWN-POINTING ATOMIC BOMBaMUSHROOM CLOUD
  aLEFT-POINTING RIFLEaUP-POINTING RIFLEaRIGHT-POINTING RIFLEaDOWN-POINTING RIFLEaEIGHT RAYS INWARD
  cOUTWARDaBLACK LARGE CIRCLE MINUS LEFT QUARTER SECTIONeUPPER QUARTER SECTION
  eRIGHT QUARTER SECTIONeLOWER QUARTER SECTIONbNEUTRAL FACEaLEFT-FACING SNAKE HEAD WITH OPEN MOUTH
  aUP-FACING SNAKE HEAD WITH OPEN MOUTHaRIGHT-FACING SNAKE HEAD WITH OPEN MOUTH
  aDOWN-FACING SNAKE HEAD WITH OPEN MOUTHaLEFT-FACING SNAKE HEAD WITH CLOSED MOUTH
  aUP-FACING SNAKE HEAD WITH CLOSED MOUTHaRIGHT-FACING SNAKE HEAD WITH CLOSED MOUTH
  aDOWN-FACING SNAKE HEAD WITH CLOSED MOUTHaLEFT-POINTING ENERGY WAVEaUP-POINTING ENERGY WAVE
  aRIGHT-POINTING ENERGY WAVEaDOWN-POINTING ENERGY WAVEaSQUARE SPIRAL FROM TOP LEFTeRIGHT
  dBOTTOM RIGHTeLEFTaSTRIPED LEFT-POINTING TRIANGLEbUP-POINTING TRIANGLEbRIGHT-POINTING TRIANGLE
  bDOWN-POINTING TRIANGLEaVERTICAL LADDERaHORIZONTAL LADDERaWHITE LOWER LEFT POINTERcRIGHT POINTER
  aTWO RINGS ALIGNED HORIZONTALLYaSQUARE FOUR CORNER SALTIRESdDIAGONALSdBLACK TRIANGLESbAPERTURE
  aINVERSE BLACK DIAMONDaLEFT AND UPPER ONE EIGHTH BLOCK CONTAINING BLACK SMALL SQUARE
  aINVERSE BLACK SMALL SQUAREaVERTICAL LINE WITH FOUR TICK MARKS
  aHORIZONTAL LINE WITH FOUR TICK MARKSaLEFT-FACING FISHaRIGHT-FACING FISH
  aLEFT-FACING FISH WITH OPEN MOUTHaRIGHT-FACING FISH WITH OPEN MOUTHaFLAPPING BIRD
  aLEFT-POINTING RACING CARaUP-POINTING RACING CARaRIGHT-POINTING RACING CAR
  aDOWN-POINTING RACING CARaHORIZONTAL RACING CARaVERTICAL RACING CARbGO-KARTaLEFT-POINTING TANK
  aRIGHT-POINTING TANKaLEFT-POINTING ROCKET BOOSTERaRIGHT-POINTING ROCKET BOOSTER
  aLEFT-POINTING ROLLER COASTER CARaRIGHT-POINTING ROLLER COASTER CARaLEFT HALF FLYING SAUCER
  aRIGHT HALF FLYING SAUCERaUPPER LEFT QUADRANT FACE WITH OPEN EYES
  bRIGHT QUADRANT FACE WITH OPEN EYESbLEFT QUADRANT FACE WITH CLOSED EYES
  bRIGHT QUADRANT FACE WITH CLOSED EYESaLOWER LEFT QUADRANT SMILING FACE
  bRIGHT QUADRANT SMILING FACEbLEFT QUADRANT NEUTRAL FACEbRIGHT QUADRANT NEUTRAL FACE
  bLEFT QUADRANT FACE WITH OPEN MOUTHbRIGHT QUADRANT FACE WITH OPEN MOUTH
  bLEFT QUADRANT FROWNING FACEbRIGHT QUADRANT FROWNING FACEaUPPER LEFT QUADRANT TELEVISION
  bRIGHT QUADRANT TELEVISIONaLOWER LEFT QUADRANT TELEVISIONbRIGHT QUADRANT TELEVISION
  aUPPER LEFT QUADRANT MICROCOMPUTERbRIGHT QUADRANT MICROCOMPUTERaLOWER LEFT QUADRANT MICROCOMPUTER
  bRIGHT QUADRANT MICROCOMPUTERaUPPER LEFT QUADRANT CHESS KINGbRIGHT QUADRANT CHESS KING
  aLOWER LEFT QUADRANT CHESS KINGbRIGHT QUADRANT CHESS KINGaUPPER LEFT QUADRANT CHESS QUEEN
  bRIGHT QUADRANT CHESS QUEENaLOWER LEFT QUADRANT CHESS QUEENbRIGHT QUADRANT CHESS QUEEN
  aUPPER LEFT QUADRANT CHESS ROOKbRIGHT QUADRANT CHESS ROOKaLOWER LEFT QUADRANT CHESS ROOK
  bRIGHT QUADRANT CHESS ROOKaUPPER LEFT QUADRANT CHESS BISHOPbRIGHT QUADRANT CHESS BISHOP
  aLOWER LEFT QUADRANT CHESS BISHOPbRIGHT QUADRANT CHESS BISHOPaUPPER LEFT QUADRANT CHESS KNIGHT
  bRIGHT QUADRANT CHESS KNIGHTaLOWER LEFT QUADRANT CHESS KNIGHTbRIGHT QUADRANT CHESS KNIGHT
  aUPPER LEFT QUADRANT CHESS PAWNbRIGHT QUADRANT CHESS PAWNaLOWER LEFT QUADRANT CHESS PAWN
  bRIGHT QUADRANT CHESS PAWNaUPPER LEFT QUADRANT STANDING KNIGHTbRIGHT QUADRANT STANDING KNIGHT
  aLOWER LEFT QUADRANT STANDING KNIGHTbRIGHT QUADRANT STANDING KNIGHT
  aOUTLINED LATIN CAPITAL LETTER AeBeCeDeEeFeGeHeIeJeKeLeMeNeOePeQeReSeTeUeVeWeXeYeZbDIGIT ZEROcONE
  cTWOcTHREEcFOURcFIVEcSIXcSEVENcEIGHTcNINE@1CD00aBLOCK OCTANT-3bOCTANT-23bOCTANT-123bOCTANT-4
  bOCTANT-14bOCTANT-124bOCTANT-34bOCTANT-134bOCTANT-234bOCTANT-5bOCTANT-15bOCTANT-25bOCTANT-125
  bOCTANT-135bOCTANT-235bOCTANT-1235bOCTANT-45bOCTANT-145bOCTANT-245bOCTANT-1245bOCTANT-345
  bOCTANT-1345bOCTANT-2345bOCTANT-12345bOCTANT-6bOCTANT-16bOCTANT-26bOCTANT-126bOCTANT-36
  bOCTANT-136bOCTANT-236bOCTANT-1236bOCTANT-146bOCTANT-246bOCTANT-1246bOCTANT-346bOCTANT-1346
  bOCTANT-2346bOCTANT-12346bOCTANT-56bOCTANT-156bOCTANT-256bOCTANT-1256bOCTANT-356bOCTANT-1356
  bOCTANT-2356bOCTANT-12356bOCTANT-456bOCTANT-1456bOCTANT-2456bOCTANT-12456bOCTANT-3456
  bOCTANT-13456bOCTANT-23456bOCTANT-17bOCTANT-27bOCTANT-127bOCTANT-37bOCTANT-137bOCTANT-237
  bOCTANT-1237bOCTANT-47bOCTANT-147bOCTANT-247bOCTANT-1247bOCTANT-347bOCTANT-1347bOCTANT-2347
  bOCTANT-12347bOCTANT-157bOCTANT-257bOCTANT-1257bOCTANT-357bOCTANT-2357bOCTANT-12357bOCTANT-457
  bOCTANT-1457bOCTANT-12457bOCTANT-3457bOCTANT-13457bOCTANT-23457bOCTANT-67bOCTANT-167bOCTANT-267
  bOCTANT-1267bOCTANT-367bOCTANT-1367bOCTANT-2367bOCTANT-12367bOCTANT-467bOCTANT-1467bOCTANT-2467
  bOCTANT-12467bOCTANT-3467bOCTANT-13467bOCTANT-23467bOCTANT-123467bOCTANT-567bOCTANT-1567
  bOCTANT-2567bOCTANT-12567bOCTANT-3567bOCTANT-13567bOCTANT-23567bOCTANT-123567bOCTANT-4567
  bOCTANT-14567bOCTANT-24567bOCTANT-124567bOCTANT-34567bOCTANT-134567bOCTANT-234567bOCTANT-1234567
  bOCTANT-18bOCTANT-28bOCTANT-128bOCTANT-38bOCTANT-138bOCTANT-238bOCTANT-1238bOCTANT-48bOCTANT-148
  bOCTANT-248bOCTANT-1248bOCTANT-348bOCTANT-1348bOCTANT-2348bOCTANT-12348bOCTANT-58bOCTANT-158
  bOCTANT-258bOCTANT-1258bOCTANT-358bOCTANT-1358bOCTANT-2358bOCTANT-12358bOCTANT-458bOCTANT-1458
  bOCTANT-2458bOCTANT-12458bOCTANT-3458bOCTANT-13458bOCTANT-23458bOCTANT-123458bOCTANT-168
  bOCTANT-268bOCTANT-1268bOCTANT-368bOCTANT-2368bOCTANT-12368bOCTANT-468bOCTANT-1468bOCTANT-12468
  bOCTANT-3468bOCTANT-13468bOCTANT-23468bOCTANT-568bOCTANT-1568bOCTANT-2568bOCTANT-12568
  bOCTANT-3568bOCTANT-13568bOCTANT-23568bOCTANT-123568bOCTANT-4568bOCTANT-14568bOCTANT-24568
  bOCTANT-124568bOCTANT-34568bOCTANT-134568bOCTANT-234568bOCTANT-1234568bOCTANT-178bOCTANT-278
  bOCTANT-1278bOCTANT-378bOCTANT-1378bOCTANT-2378bOCTANT-12378bOCTANT-478bOCTANT-1478bOCTANT-2478
  bOCTANT-12478bOCTANT-3478bOCTANT-13478bOCTANT-23478bOCTANT-123478bOCTANT-578bOCTANT-1578
  bOCTANT-2578bOCTANT-12578bOCTANT-3578bOCTANT-13578bOCTANT-23578bOCTANT-123578bOCTANT-4578
  bOCTANT-14578bOCTANT-24578bOCTANT-124578bOCTANT-34578bOCTANT-134578bOCTANT-234578bOCTANT-1234578
  bOCTANT-678bOCTANT-1678bOCTANT-2678bOCTANT-12678bOCTANT-3678bOCTANT-13678bOCTANT-23678
  bOCTANT-123678bOCTANT-4678bOCTANT-14678bOCTANT-24678bOCTANT-124678bOCTANT-34678bOCTANT-134678
  bOCTANT-234678bOCTANT-1234678bOCTANT-15678bOCTANT-25678bOCTANT-125678bOCTANT-35678bOCTANT-235678
  bOCTANT-1235678bOCTANT-45678bOCTANT-145678bOCTANT-1245678bOCTANT-1345678bOCTANT-2345678
  aTOP HALF STANDING PERSONaBOTTOM HALF STANDING PERSONaTOP HALF RIGHT-FACING RUNNER FRAME-1
  aBOTTOM HALF RIGHT-FACING RUNNER FRAME-1aTOP HALF RIGHT-FACING RUNNER FRAME-2
  aBOTTOM HALF RIGHT-FACING RUNNER FRAME-2aTOP HALF LEFT-FACING RUNNER FRAME-1
  aBOTTOM HALF LEFT-FACING RUNNER FRAME-1aTOP HALF LEFT-FACING RUNNER FRAME-2
  aBOTTOM HALF LEFT-FACING RUNNER FRAME-2aTOP HALF FORWARD-FACING RUNNER
  aBOTTOM HALF FORWARD-FACING RUNNER FRAME-1eFRAME-2eFRAME-3eFRAME-4aMOON LANDER
  aTOP HALF FLAILING ROBOT FRAME-1eFRAME-2aDOWN-POINTING AIRPLANEaLEFT-POINTING AIRPLANE
  aSMALL UP-POINTING AIRPLANEaUP-POINTING FROGaDOWN-POINTING FROGaEXPLOSION FRAME-1bFRAME-2bFRAME-3
  aRIGHT HALF AND LEFT HALF WHITE CIRCLEaLOWER HALF AND UPPER HALF WHITE CIRCLE
  aEXPLOSION AT HORIZONaUPPER HALF HEAVY WHITE SQUAREaLOWER HALF HEAVY WHITE SQUARE
  aHEAVY WHITE SQUARE CONTAINING BLACK VERY SMALL SQUARE
  aWHITE VERTICAL RECTANGLE WITH HORIZONTAL BARaTOP LEFT BLACK LEFT-POINTING SMALL TRIANGLEaFUNNEL
  aBOX DRAWINGS DOUBLE DIAGONAL LOWER LEFT TO MIDDLE CENTRE TO LOWER RIGHT
  eUPPER LEFT TO MIDDLE CENTRE TO UPPER RIGHTaLEFT HALF WHITE ELLIPSEaRIGHT HALF WHITE ELLIPSE
  aLEFT HALF TRIPLE DASH HORIZONTALaRIGHT HALF TRIPLE DASH HORIZONTAL
  aHORIZONTAL LINE WITH TICK MARKaLEFT HALF HORIZONTAL LINE WITH THREE TICK MARKS
  aRIGHT HALF HORIZONTAL LINE WITH THREE TICK MARKSaHORIZONTAL LINE WITH THREE TICK MARKS
  aLOWER HALF VERTICAL LINE WITH THREE TICK MARKSaUPPER HALF VERTICAL LINE WITH THREE TICK MARKS
  aVERTICAL LINE WITH THREE TICK MARKSaBOX DRAWINGS LIGHT VERTICAL AND TOP RIGHTfBOTTOM RIGHT
  fTOP LEFTfBOTTOM LEFTaLARGE TYPE PIECE UPPER LEFT ARCfCORNEReTERMINALeLEFT CROTCHdLEFT ARM
  dCROSSBAReWITH LOWER STEMdUPPER HALF VERTEX OF MdDIAGONAL LOWER LEFTdSHORT UPPER TERMINAL
  dUPPER RIGHT ARCdRIGHT ARMdUPPER RIGHT CROTCHfCORNERdSTEM WITH RIGHT CROSSBARe
  dDIAGONAL UPPER RIGHT AND LOWER RIGHTgeLOWER RIGHTdSHORT LOWER TERMINAL
  dLOWER LEFT AND UPPER LEFT ARCdCENTRE OF KdLOWER HALF VERTEX OF MdUPPER HALF VERTEX OF W
  dCENTRE OF XfYfZ WITH CROSSBARdRAISED UPPER LEFT ARCdSTEM WITH LEFT CROSSBAR
  dLOWER RIGHT AND UPPER RIGHT ARCdDIAGONAL UPPER LEFT AND LOWER LEFTdSTEM WITH LEFT JOINTfCROSSBAR
  dDIAGONAL UPPER LEFTdLOWER TERMINALeLEFT CORNERfARCfCROTCHdCROSSBAR WITH UPPER STEMdVERTEX OF V
  dLOWER HALF VERTEX OF WeRIGHT ARCfCORNERfARC WITH TAILfCROTCHdSTEM-45dSTEM-2345dSTEM-4dSTEM-34
  dSTEM-234dSTEM-1234dSTEM-3dSTEM-23dSTEM-2dSTEM-12aSEPARATED BLOCK SEXTANT-1cSEXTANT-2cSEXTANT-12
  cSEXTANT-3cSEXTANT-13cSEXTANT-23cSEXTANT-123cSEXTANT-4cSEXTANT-14cSEXTANT-24cSEXTANT-124
  cSEXTANT-34cSEXTANT-134cSEXTANT-234cSEXTANT-1234cSEXTANT-5cSEXTANT-15cSEXTANT-25cSEXTANT-125
  cSEXTANT-35cSEXTANT-135cSEXTANT-235cSEXTANT-1235cSEXTANT-45cSEXTANT-145cSEXTANT-245cSEXTANT-1245
  cSEXTANT-345cSEXTANT-1345cSEXTANT-2345cSEXTANT-12345cSEXTANT-6cSEXTANT-16cSEXTANT-26cSEXTANT-126
  cSEXTANT-36cSEXTANT-136cSEXTANT-236cSEXTANT-1236cSEXTANT-46cSEXTANT-146cSEXTANT-246cSEXTANT-1246
  cSEXTANT-346cSEXTANT-1346cSEXTANT-2346cSEXTANT-12346cSEXTANT-56cSEXTANT-156cSEXTANT-256
  cSEXTANT-1256cSEXTANT-356cSEXTANT-1356cSEXTANT-2356cSEXTANT-12356cSEXTANT-456cSEXTANT-1456
  cSEXTANT-2456cSEXTANT-12456cSEXTANT-3456cSEXTANT-13456cSEXTANT-23456cSEXTANT-123456
  aUPPER LEFT ONE SIXTEENTH BLOCKbCENTRE LEFT ONE SIXTEENTH BLOCKcRIGHT ONE SIXTEENTH BLOCK
  bRIGHT ONE SIXTEENTH BLOCKbMIDDLE LEFT ONE SIXTEENTH BLOCKcCENTRE LEFT ONE SIXTEENTH BLOCK
  dRIGHT ONE SIXTEENTH BLOCKcRIGHT ONE SIXTEENTH BLOCKaLOWER MIDDLE LEFT ONE SIXTEENTH BLOCK
  cCENTRE LEFT ONE SIXTEENTH BLOCKdRIGHT ONE SIXTEENTH BLOCKcRIGHT ONE SIXTEENTH BLOCK
  bLEFT ONE SIXTEENTH BLOCKbCENTRE LEFT ONE SIXTEENTH BLOCKcRIGHT ONE SIXTEENTH BLOCK
  bRIGHT ONE SIXTEENTH BLOCKaRIGHT HALF LOWER ONE QUARTER BLOCK
  bTHREE QUARTERS LOWER ONE QUARTER BLOCKaLEFT THREE QUARTERS LOWER ONE QUARTER BLOCK
  bHALF LOWER ONE QUARTER BLOCKaLOWER HALF LEFT ONE QUARTER BLOCK
  bTHREE QUARTERS LEFT ONE QUARTER BLOCKaUPPER THREE QUARTERS LEFT ONE QUARTER BLOCK
  bHALF LEFT ONE QUARTER BLOCKaLEFT HALF UPPER ONE QUARTER BLOCK
  bTHREE QUARTERS UPPER ONE QUARTER BLOCKaRIGHT THREE QUARTERS UPPER ONE QUARTER BLOCK
  bHALF UPPER ONE QUARTER BLOCKaUPPER HALF RIGHT ONE QUARTER BLOCK
  bTHREE QUARTERS RIGHT ONE QUARTER BLOCKaLOWER THREE QUARTERS RIGHT ONE QUARTER BLOCK
  bHALF RIGHT ONE QUARTER BLOCKaHORIZONTAL ZIGZAG LINEaKEYHOLE
  aOLD PERSONAL COMPUTER WITH MONITOR IN PORTRAIT ORIENTATIONaBLACK RIGHT TRIANGLE CARET
  @1CF00aZNAMENNY COMBINING MARK GORAZDO NIZKO S KRYZHEM ON LEFTdNIZKO S KRYZHEM ON LEFT
  dTSATA ON LEFTdGORAZDO NIZKO ON LEFTdNIZKO ON LEFTdSREDNE ON LEFTdMALO POVYSHE ON LEFT
  dPOVYSHE ON LEFTdVYSOKO ON LEFTdMALO POVYSHE S KHOKHLOM ON LEFTdPOVYSHE S KHOKHLOM ON LEFT
  dVYSOKO S KHOKHLOM ON LEFTdGORAZDO NIZKO S KRYZHEM ON RIGHTdNIZKO S KRYZHEM ON RIGHT
  dTSATA ON RIGHTdGORAZDO NIZKO ON RIGHTdNIZKO ON RIGHTdSREDNE ON RIGHTdMALO POVYSHE ON RIGHT
  dPOVYSHE ON RIGHTdVYSOKO ON RIGHTdMALO POVYSHE S KHOKHLOM ON RIGHTdPOVYSHE S KHOKHLOM ON RIGHT
  dVYSOKO S KHOKHLOM ON RIGHTdTSATA S KRYZHEMdMALO POVYSHE S KRYZHEMdSTRANNO MALO POVYSHE
  dPOVYSHE S KRYZHEMeSTRANNOdVYSOKO S KRYZHEMdMALO POVYSHE STRANNOdGORAZDO VYSOKOdZELOdONdRAVNO
  dTIKHAYAdBORZAYAdUDARKAdPODVERTKAdLOMKAdKUPNAYAdKACHKAdZEVOKdSKOBAdRAZSEKAdKRYZH ON LEFT
  @1CF30cTONAL RANGE MARK MRACHNOfSVETLOfTRESVETLOcMARK ZADERZHKAdDEMESTVENNY ZADERZHKAdOTSECHKA
  dPODCHASHIEeWITH VERTICAL STROKEdCHASHKAePOLNAYAdOBLACHKOdSOROCHYA NOZHKAdTOCHKAdDVOETOCHIE
  cATTACHING VERTICAL OMETcMARK CURVED OMETdKRYZHcLOWER TONAL RANGE INDICATOR
  bPRIZNAK MODIFIER LEVEL-2dLEVEL-3dDIRECTION FLIPdKRYZHdROG@1CF50bNEUME KRYUKdTIKHYcPARAKLIT
  cDVA V CHELNUcKLYUCHcZANOZHEKcSTOPITSAdS OCHKOMcPEREVODKAdNEPOSTOYANNAYA
  cSTOPITSA WITH SOROCHYA NOZHKAcCHELYUSTKAcPALKAcZAPYATAYAcGOLUBCHIK BORZYdTIKHYdMRACHNYdSVETLY
  dTRESVETLYcVRAKHIYA PROSTAYAdMRACHNAYAdSVETLAYAdTRESVETLAYAdKLYUCHEVAYA PROSTAYAeMRACHNAYA
  eSVETLAYAeTRESVETLAYAcDOUBLE ZAPYATAYAcREVERSED CHELYUSTKAcDERBITSAcKHAMILOcCHASHKAcPODCHASHIE
  cSKAMEYTSA MRACHNAYAdSVETLAYAdTRESVETLAYAdTIKHAYAcDEMESTVENNY KLYUCH
  cSKAMEYTSA KLYUCHEVAYA SVETLAYAdKLYUCHENEPOSTOYANNAYAdKLYUCHEVAYA TIKHAYAdDVOECHELNAYA PROSTAYA
  eSVETLAYAeNEPOSTOYANNAYAeKLYUCHEVAYAcSLOZHITIEdS ZAPYATOYdZAKRYTOEdS KRYZHEMcKRYZHcROGcFITA
  cKOBYLAcZMEYTSAcSTATYAdS ZAPYATOYeKRYZHEMeZAPYATOY I KRYZHEMeKRYZHEM I ZAPYATOYdZAKRYTAYA
  eS ZAPYATOYdS ROGOMeDVUMYA ZAPYATYMIeZAPYATOY I PODCHASHIEMcPOLKULIZMYcSTATYA NEPOSTOYANNAYA
  cSTRELA PROSTAYAdMRACHNOTIKHAYAdKRYZHEVAYAdPOLUPOVODNAYAdPOVODNAYAdNEPOSTOYANNAYA
  dKLYUCHEPOVODNAYAdKLYUCHENEPOSTOYANNAYAdTIKHAYA PUTNAYAdDVOECHELNAYAdDVOECHELNOKRYZHEVAYA
  dDVOECHELNOPOVODNAYAdDVOECHELNAYA KLYUCHEVAYAdDVOECHELNOPOVODNAYA KLYUCHEVAYA
  dGROMNAYA WITH SINGLE ZAPYATAYAdGROMOPOVODNAYA WITH SINGLE ZAPYATAYAdGROMNAYAdGROMOPOVODNAYA
  eWITH DOUBLE ZAPYATAYAdGROMOKRYZHEVAYAePOVODNAYAcMECHIKdPOVODNYdKLYUCHEVOYdKLYUCHEPOVODNY
  dKLYUCHENEPOSTOYANNYcSTRELA TRYASOGLASNAYAdTRYASOPOVODNAYAdTRYASOSTRELNAYAcOSOKAdSVETLAYA
  dTRESVETLAYAdKRYUKOVAYA SVETLAYAdKLYUCHEVAYA SVETLAYAeNEPOSTOYANNAYAcSTRELA KRYUKOVAYAePOVODNAYA
  eGROMNAYA WITH SINGLE ZAPYATAYAeGROMOPOVODNAYA WITH SINGLE ZAPYATAYAeGROMNAYAeGROMOPOVODNAYA
  fWITH DOUBLE ZAPYATAYAeGROMOKRYZHEVAYAfPOVODNAYAeTRYASKAcKUFISMAcOBLAKOcDUDAcNEMKAcPAUK"

end SourceGate.Unicode.Name
