import FixGrader.Unicode.RangeTable

namespace FixGrader.Unicode

def scriptData : List (List String × List String) := [
  (["adlm", "adlam"],
   ["ai0DmCEKEC"]),
  (["ahom"],
   ["ayfC7CPEX"]),
  (["hluw", "anatolianhieroglyphs"],
   ["aarChS"]),
  (["arab", "arabic"],
   ["aqBFBGBOBDBaBBKL6BmDBcBqCqBqH-BCFlCB9qs2BtDQlLCqCCwBHBaBQqDFBhEd1D-dCDxBEayxBEB7BCBBCBBKBE",
    "BBBBGBEBBBBBBDBCBBCBBBBBBBBBBCBBCEBHBEBEBBBKBRFDBFBRuBC"]),
  (["armn", "armenian"],
   ["rjBgBCsBCDdm3BF"]),
  (["avst", "avestan"],
   ["aycCwBDH"]),
  (["bali", "balinese"],
   ["ayGnCBsB"]),
  (["bamu", "bamum"],
   ["avjByCiiqBzR"]),
  (["bass", "bassavah"],
   ["qw0C+CG"]),
  (["batk", "batak"],
   ["a4GuBIE"]),
  (["beng", "bengali"],
   ["amCEBICCCWBHBBDECJCCCEIBECBFCZ"]),
  (["bhks", "bhaiksuki"],
   ["aahCJBnBBOK9"]),
  (["bopo", "bopomofo"],
   ["kXCzqLlBqDaB"]),
  (["brah", "brahmi"],
   ["aaeCoCEeBJB"]),
  (["brai", "braille"],
   ["aaKaI"]),
  (["bugi", "buginese"],
   ["aqG8CC"]),
  (["buhd", "buhid"],
   ["a0FU"]),
  (["cans", "canadianaboriginal"],
   ["aaFaUqRgC0naCQ"]),
  (["cari", "carian"],
   ["avaCrB"]),
  (["aghb", "caucasianalbanian"],
   ["qjbCuBLB"]),
  (["cakm", "chakma"],
   ["aieCvBBS"]),
  (["cham"],
   ["aqkBxBJOCKCE"]),
  (["cher", "cherokee"],
   ["a3EwCCGs1fBqC"]),
  (["chrs", "chorasmian"],
   ["q3dC8"]),
  (["zyyy", "common"],
   ["AbC6G6pBBPBFXB-BbOhBFFCUuDBJBGBBB3TBGBOBDBaBB2EBeQBbECzgBBvMEcJBppBDhCClGCBBngBBNBHEBGBDCB",
    "fYMCxCBLDLBPRbB5BgBBDCGB7BRjBDE0UWLVa9aIuTCaBBjDaQ4CsMVBBBZPIEE1CCDB0CCtEQaBgBJBqBaC-rCpBB",
    "yCiFaoGaCaiWcBgDDfFKuHBaFBlMBOCsoUCqGKWdBBTBEtEBBaB6G6LKBnBCaCHBHKFcIDEnBDJqCNtBnBeH7enoBE",
    "20D0HGuN2EuD2BwHKhBC4BDRICH+E3BvGUMUMxCJZhEvCBhCBCCBCCCEBMBBBHBbCBECIBHB8BEBFBBDHBuKCeJCsB",
    "rdFeCmC3BcWmBEeDMPCPBPBfBKoFyB6BCNmBEJHCOG0Ey+ERDNDxDE5CGMEBPMEyBIKGiBI+CMEC4BuKMOCNDKFyBH",
    "PCLGJHtEBgDhabYB+aD"]),
  (["copt", "coptic", "qaac"],
   ["c-OqeKuDFH"]),
  (["xsux", "cuneiform"],
   ["aaiC08gDpDBFLeG"]),
  (["cprt", "cypriot"],
   ["aacCGCBBmBBCDBCB"]),
  (["cpmn", "cyprominoan"],
   ["q2lCdD"]),
  (["cyrl", "cyrillic"],
   ["aaBfECjFq0FLaFBmCBhdEaBac+aDo2VCaqyB4BbBB"]),
  (["dsrt", "deseret"],
   ["aabCqC"]),
  (["deva", "devanagari"],
   ["aiCrCEPC6a1hBaBaq8K"]),
  (["diak", "divesakuru"],
   ["aigCHCBCIBCB+BCCMJK"]),
  (["dogr", "dogra"],
   ["aagC2B"]),
  (["dupl", "duployan"],
   ["aapDlDFNDJHKCE"]),
  (["egyp", "egyptianhieroglyphs"],
   ["aamCwcBK12D"]),
  (["elba", "elbasan"],
   ["aibCiB"]),
  (["elym", "elymaic"],
   ["a5dCX"]),
  (["ethi", "ethiopic"],
   ["aqEjCBECHBBBECjBBECbBBECHBBBECPBzBBECdCCaBD6gpGXJHBHBHBHBHBHBHBHcj-GCGCGJHBHrfpCHBEBCBP"]),
  (["gara", "garay"],
   ["akdCgBD9IC"]),
  (["geor", "georgian"],
   ["afEgBBBFBClBBEq2ClBCDacEgBBBFB"]),
  (["glag", "glagolitic"],
   ["aaLaDa3mDHBRCHBCBF"]),
  (["goth", "gothic"],
   ["qzaC7"]),
  (["gran", "grantha"],
   ["ayeCEBICCCWBHBCBFCJCCCDCBGBFHCHDF"]),
  (["grek", "greek"],
   ["q7EBDCEBBEBBBBDBBBUB5BOQgjGFsBFEFuCBaKWCGCgBCGCIBBBBBBB-CvBBPBOCGBTCDBJhJB4rcBB0oVpCRB5cuB",
    "gC"]),
  (["gujr", "gujarati"],
   ["buCDBJBDBWBHBCBFCKBDBDCBPECMHH"]),
  (["gong", "gunjalagondi"],
   ["alhCGBCBfBBCBGHK"]),
  (["guru", "gurmukhi"],
   ["bqCDBGECCWBHBCBCBCCBBFECCDDBHEBBHR"]),
  (["gukh", "gurungkhema"],
   ["aiyC0B"]),
  (["hani", "han"],
   ["auL6BzCMwGpBBBBZJOEe+aoGaCaqUaiWoLCkDii9CMCoaeBaxjBaB0bEG4GCcuFOrjHPoTcnC4QcpBl0EFadE"]),
  (["hang", "hangul"],
   ["aiEaIorHCbI4CrD-bC-bx99dUe3KMXErBe3J-DGCGCGCD"]),
  (["rohg", "hanifirohingya"],
   ["aidCiBIK"]),
  (["hano", "hanunoo"],
   ["azFV"]),
  (["hatr", "hatran"],
   ["ahcCTBCFF"]),
  (["hebr", "hebrew"],
   ["rmBxBI7EGij3B6BFBBBCBCBK"]),
  (["hira", "hiragana"],
   ["bcMwCGDb15C5ISB9DnfQB"]),
  (["armi", "imperialaramaic"],
   ["accCWBJ"]),
  (["zinh", "inherited", "qaai"],
   ["aYqDvICeOL6BaXE1kE-bQDBNBHEBGBDCgGaCmQCcGbBzzDElDCfltBQQOp+BcHB0cEBe4oBoBCXaRDRICH+Es0lYqH"]),
  (["phli", "inscriptionalpahlavi"],
   ["a1cCTFI"]),
  (["prti", "inscriptionalparthian"],
   ["a0cCWCI"]),
  (["java", "javanese"],
   ["amkBoCCKEC"]),
  (["kthi", "kaithi"],
   ["aeeCdCKB"]),
  (["knda", "kannada"],
   ["aeDNBDBXBKBFCJBDBEHCGCBECKBD"]),
  (["kana", "katakana"],
   ["bfM0CCDqHQqGpBByCoatBKBnBscmBEBHBCBB5IDsBBOE"]),
  (["kawi"],
   ["ayhCRBjBD9"]),
  (["kali", "kayahli"],
   ["aikBoBBB"]),
  (["khar", "kharoshthi"],
   ["aqcCEBCFIBDB9CDEKHJ"]),
  (["kits", "khitansmallscript"],
   ["e51CB1yGwOjBB"]),
  (["khmr", "khmer"],
   ["a2F4CCKGKgPaB"]),
  (["khoj", "khojki"],
   ["aqeCSBpB"]),
  (["sind", "khudawadi"],
   ["qveC1BFK"]),
  (["krai", "kiratrai"],
   ["ak1C0B"]),
  (["laoo", "lao"],
   ["buDCBBBFBYBBBXCFBBBHBKCE"]),
  (["latn", "latin"],
   ["bC6G6pBBPBFXB-BbOhBF1qGgBGrBFEFNBgCbCaIrLBNBQNnECGB7BRjBxwCaBcv+gDDdCCCBBBIVOqZlBBJBEw2TH0",
    "aB6G6fbCGBkBBJf0vB-GG"]),
  (["lepc", "lepcha"],
   ["aaHyBDPDD"]),
  (["limb", "limbu"],
   ["aiG-BMEMEBDM"]),
  (["lina", "lineara"],
   ["aqbCxJJWKI"]),
  (["linb", "linearb"],
   ["aaaCMB6BTBCBPCOcB1D"]),
  (["lisu"],
   ["qgjBqBqv+B"]),
  (["lyci", "lycian"],
   ["auaC9"]),
  (["lydi", "lydian"],
   ["ajcC6FB"]),
  (["mahj", "mahajani"],
   ["qkeChB"]),
  (["maka", "makasar"],
   ["axhCZ"]),
  (["mlym", "malayalam"],
   ["aiDNBDBtBBDBGEQC6"]),
  (["mand", "mandaic"],
   ["acC8CB"]),
  (["mani", "manichaean"],
   ["awcChBEM"]),
  (["marc", "marchen"],
   ["qdhCaBCWBO"]),
  (["gonm", "masaramgondi"],
   ["aihCHBCBmBDBBCBJIK"]),
  (["medf", "medefaidrin"],
   ["as1C1C"]),
  (["mtei", "meeteimayek"],
   ["axkBXjGoBCK"]),
  (["mend", "mendekikakui"],
   ["aa0DfGCQ"]),
  (["merc", "meroiticcursive"],
   ["ancCYEUCoB"]),
  (["mero", "meroitichieroglyphs"],
   ["amcCaB"]),
  (["plrd", "miao"],
   ["ay1ClCEzBHR"]),
  (["modi"],
   ["aqfCfCLK"]),
  (["mong", "mongolian"],
   ["aaGCCBBUGzCHlBvn5BN"]),
  (["mroo", "mro"],
   ["as0C-BKEC"]),
  (["mult", "multani"],
   ["aueCHBBBEBPBL"]),
  (["mymr", "myanmar"],
   ["aaEaFakgB-bDaBqc7U"]),
  (["nbat", "nabataean"],
   ["aecC-IJ"]),
  (["nagm", "nagmundari"],
   ["qgzDkB"]),
  (["nand", "nandinagari"],
   ["angCICoBCL"]),
  (["newa"],
   ["aafC2CBF"]),
  (["talu", "newtailue"],
   ["amGmBE6GLDC"]),
  (["nkoo", "nko"],
   ["a4B1BCD"]),
  (["nshu", "nushu"],
   ["b51CBomQmM"]),
  (["hmnp", "nyiakengpuachuehmong"],
   ["aiyDnBDOCKEC"]),
  (["ogam", "ogham"],
   ["auF9"]),
  (["olck", "olchiki"],
   ["qcHqB"]),
  (["hung", "oldhungarian"],
   ["aedCtBNtBHG"]),
  (["ital", "olditalic"],
   ["ayaCeBJD"]),
  (["narb", "oldnortharabian"],
   ["aucCaB"]),
  (["perm", "oldpermic"],
   ["q0aClB"]),
  (["xpeo", "oldpersian"],
   ["a3aCeBEO"]),
  (["sogo", "oldsogdian"],
   ["aydCiB"]),
  (["sarb", "oldsoutharabian"],
   ["atcCaB"]),
  (["orkh", "oldturkic"],
   ["aadCjC"]),
  (["ougr", "olduyghur"],
   ["q1dC6"]),
  (["onao", "olonal"],
   ["qozDlBEB"]),
  (["orya", "oriya"],
   ["byCDBICCCWBHBCBFCJCCCDHDECBFCS"]),
  (["osge", "osage"],
   ["qfbCeBEeB"]),
  (["osma", "osmanya"],
   ["aebC+CK"]),
  (["hmng", "pahawhhmong"],
   ["ay0CgCKKBHBVFT"]),
  (["palm", "palmyrene"],
   ["adcCaB"]),
  (["pauc", "paucinhau"],
   ["awgCzB"]),
  (["phag", "phagspa"],
   ["ackByB"]),
  (["phnx", "phoenician"],
   ["aicC8DB"]),
  (["phlp", "psalterpahlavi"],
   ["a2cCSHEMH"]),
  (["rjng", "rejang"],
   ["qjkBeBLB"]),
  (["runr", "runic"],
   ["avFlCDL"]),
  (["samr", "samaritan"],
   ["aaCoBCP"]),
  (["saur", "saurashtra"],
   ["aekBgCIM"]),
  (["shrd", "sharada"],
   ["ameCaD"]),
  (["shaw", "shavian"],
   ["qcbCqB"]),
  (["sidd", "siddham"],
   ["amfCwBCgB"]),
  (["sgnw", "signwriting"],
   ["aawDmUPFBP"]),
  (["sinh", "sinhala"],
   ["bmDDBSDYBJBBCHDBEGBBBIGKCDm5aCU"]),
  (["sogd", "sogdian"],
   ["qzdCkB"]),
  (["sora", "sorasompeng"],
   ["qgeCZHK"]),
  (["soyo", "soyombo"],
   ["qsgCtC"]),
  (["sund", "sundanese"],
   ["a2GaCaII"]),
  (["sunu", "sunuwar"],
   ["a4gCcBOK"]),
  (["sylo", "sylotinagri"],
   ["aakBnB"]),
  (["syrc", "syriac"],
   ["ayBOB2BCDqIL"]),
  (["tglg", "tagalog"],
   ["ayFWJB"]),
  (["tagb", "tagbanwa"],
   ["a1FNBDBC"]),
  (["tale", "taile"],
   ["qkG+CF"]),
  (["lana", "taitham"],
   ["arG5BB9CLGKGO"]),
  (["tavt", "taiviet"],
   ["aukBdCYF"]),
  (["takr", "takri"],
   ["aufC0BGK"]),
  (["taml", "tamil"],
   ["c2CCBGDDBEDCBBBCDCDDDMEFDDBECBGBOVf4eCsBNB"]),
  (["tnsa", "tangsa"],
   ["qt0CpCBK"]),
  (["tang", "tangut"],
   ["a51CB-y5FIaYaQJ"]),
  (["telu", "telugu"],
   ["aaDNBDBXBQCJBDBEHCBDCBCECKHJ"]),
  (["thaa", "thaana"],
   ["a2BsB"]),
  (["thai"],
   ["bqD0BF8"]),
  (["tibt", "tibetan"],
   ["ayDiCBeBEhBBeBBPBHEC"]),
  (["tfng", "tifinagh"],
   ["qjLyBHCOB"]),
  (["tirh", "tirhuta"],
   ["aefCiCIK"]),
  (["todr", "todhri"],
   ["aobCuB"]),
  (["toto"],
   ["quyD-"]),
  (["tutg", "tulutigalari"],
   ["a2eCKBBCBBgBBKBBCBBEBKBCIC"]),
  (["ugar", "ugaritic"],
   ["a2aC+BB"]),
  (["vaii", "vai"],
   ["aijBmJ"]),
  (["vith", "vithkuqi"],
   ["qlbCLBPBHBCBLBPBHBC"]),
  (["wcho", "wancho"],
   ["awyD0BFB"]),
  (["wara", "warangciti"],
   ["afgCtCMB"]),
  (["yezi", "yezidi"],
   ["audCkBBDCC"]),
  (["yiii", "yi"],
   ["aaiBneBDxB"]),
  (["zanb", "zanabazarsquare"],
   ["aqgCiC"])]

/-- The code points that texts of a script use, for scripts where these are not its own. -/
def scriptUseData : List (List String × List String) := [
  (["adlm", "adlam"],
   ["5qBBaBBoqGBrpDB4voDmCEKEC"]),
  (["arab", "arabic"],
   ["aqBFBxGBcBqCqBqH-BCFlCB9p0FBrpDBoitBtDQ3NCwBHBaBQqDFBhEd-8e1C-dCDxBEayxBEB7BCBBCBBKBEBBBBG",
    "BEBBBBBBDBCBBCBBBBBBBBBBCBBCEBHBEBEBBBKBRFDBFBRuBC"]),
  (["armn", "armenian"],
   ["iYBiRgBCsBCDdm3BF"]),
  (["avst", "avestan"],
   ["xFBylLCogxBwBDH"]),
  (["beng", "bengali"],
   ["2VBuuBCRC6EBICCCWBHBBDECJCCCEIBECBFCZrwEBBBCCBBIBIBCBEBCDz5cBB"]),
  (["bopo", "bopomofo"],
   ["hWBBDNBQCviLDEKBNKECBGBdGBJlBqDaBfetBC0IF"]),
  (["bugi", "buginese"],
   ["aqG8CCp3dBB"]),
  (["buhd", "buhid"],
   ["vzFCJU"]),
  (["cari", "carian"],
   ["xFBc3HBCBtoDBodvBrB"]),
  (["aghb", "caucasianalbanian"],
   ["eYBmBBmBBroaCuBLB"]),
  (["cakm", "chakma"],
   ["gpCKqsBKwfaCvBBS"]),
  (["cher", "cherokee"],
   ["aYDBBGCWCLCodEwCCGs1fBqC"]),
  (["zyyy", "common"],
   ["AbC6G6pBBMBCBFXB-BbODBKBBDBBJBBBGFFCU4DBGBBB3TBxGBeQB2kBBvMEhbEMCbBB-BKBCBHBLDLBPRbB5BgBBD",
    "CGB7BRjBDE0UWLVa9aIuTCaBBjDaQXBYCKBEBBB6cNBDBNBNBVBrQY-BrBPMEbFKFaD-BaoGaCiiW6gDDq+BOCevUK",
    "WVCMBTBEtEBBaB6G6G5DHBHKFsMNtBnBdqsB0HGuN2EuD2BwHKhBC4BDRICH+E3BvGUMUMxC7HhEvCBhCBCCBCCCEB",
    "MBBBHBbCBECIBHB8BEBFBBDHBuKCeJCsBrdFeCmC3BcWmBEeDMPCPBPBfBKoFyB6BCNmBEJXG0Ey+ERDNDxDE5CGME",
    "BPMEyBIKGiBI+CMEC4BuKMOCNDKFyBHPCLGJHtEBgDhabYB+aD"]),
  (["copt", "coptic", "qaac"],
   ["xFBiSBDCBBmDCmDOqeKuDFHxIBigvB8"]),
  (["cprt", "cypriot"],
   ["aiaCDEnBDJawBGCBBmBBCDBCB"]),
  (["cpmn", "cyprominoan"],
   ["aiaCCouLdD"]),
  (["cyrl", "cyrillic"],
   ["2VBdCDBBBBBBCBFBoHqJq0FLaFBmCB5DBh5DaBdCB259aDo2VCaqyB4BbBB"]),
  (["deva", "devanagari"],
   ["2VBdsBtCClBq0EhBBCw-B5zbBKgFaBaq8K"]),
  (["dogr", "dogra"],
   ["elCMawhBKg472B"]),
  (["dupl", "duployan"],
   ["xFBpSCBBYCxyKBdodDlDFNDJHKCI"]),
  (["elba", "elbasan"],
   ["xFBnSB0paCiB"]),
  (["ethi", "ethiopic"],
   ["oYBrxDjCBECHBBBECjBBECbBBECHBBBECPBzBBECdCCaBD6gpGXJHBHBHBHBHBHBHBHcj-GCGCGJHBHrfpCHBEBCBP"]),
  (["gara", "garay"],
   ["mqBBOBDBazbCgBD9IC"]),
  (["geor", "georgian"],
   ["xFBrgBBwyCgBBBFBCqBq2ClBCD08BffDgBBBFBdIB"]),
  (["glag", "glagolitic"],
   ["xFBlSBBB4LBCBbIBr1CB40DBf3CaDdPBlb+BqmoCHBRCHBCBF"]),
  (["goth", "gothic"],
   ["xFBmSCCBiBB455B7"]),
  (["gran", "grantha"],
   ["rkCCRCaUO2gEBBC+DDCw-Bpq2BEBICCCWBHBCBFBKCCCDCBGBFHCHDF1cDCBB"]),
  (["grek", "greek"],
   ["xFBiSCCBBBBBKBoBBCBkBICEBBEBBBBDBBBUB5BOQgjGFsBFEFuCD4JWCGCgBCGCIBBBBBBB-CvBBPBOCGBTCDBJ4C",
    "BiGB4rcBB0oVpCRB5cuBgC"]),
  (["gujr", "gujarati"],
   ["rkCCRC1IDBJBDBWBHBCBFCKBDBDCBPECMHHqjhBK"]),
  (["gong", "gunjalagondi"],
   ["xFBmfCC05eCGBCBfBBCBGHK"]),
  (["guru", "gurmukhi"],
   ["rkCCRC1EDBGECCWBHBCBCBCCBBFECCDDBHEBBHRznhBK"]),
  (["gukh", "gurungkhema"],
   ["flCB02vC0B"]),
  (["hani", "han"],
   ["xFBioL6BzCMwG6QBDBNBNBNCBGJ1FBuEQaBgBJBqBiByBrBPMtBByCZKFaD-BaoGaCaqUayBIypUoLCkDl7C0IF2d8",
    "CMCo1YS4wHConDaxjBaB0bEG4GCcuFOrjHPoTcnC4QcpBl0EFadE"]),
  (["hang", "hangul"],
   ["aiEaIbqHDEKBNODGBdGBvB4CrD-bC-bx99dUe3KMXErBjsJC0IF0B-DGCGCGCD"]),
  (["rohg", "hanifirohingya"],
   ["mqBBOBDBaBBtEBlrbCiBIK"]),
  (["hano", "hanunoo"],
   ["azFX"]),
  (["hebr", "hebrew"],
   ["hYCiUxBI7EGij3B6BFBBBCBCBK"]),
  (["hira", "hiragana"],
   ["baMDEKBNQGBBECDwCCI0CCiktBC0IFKBnBCbdmB5ISB9DnfQB"]),
  (["zinh", "inherited", "qaai"],
   ["pYBCBBPDHCBCQBCBSBFBEqpBC1kE-tXwBBBBFmQCcGaBqixBQQOp+BcitBoBCXaRDRICH+Es0lYqH"]),
  (["java", "javanese"],
   ["amkBoCBLEC"]),
  (["kthi", "kaithi"],
   ["glCKbgJB4p+Kgc6dCKB"]),
  (["knda", "kannada"],
   ["rkCCRC0YNBDBXBKBFCJBDBEHCGCBECKBD24DBBCGBXBBB1zcBG"]),
  (["kana", "katakana"],
   ["fYB9B3gLDEKBNQGBBEC1CEDaDqHQqGpBByCnxsBC0I5BqcmBEBHBCBB5IDsBBOE"]),
  (["kali", "kayahli"],
   ["aikBqB"]),
  (["khoj", "khojki"],
   ["gxCKakhBKgo6SBpB"]),
  (["sind", "khudawadi"],
   ["elCCkwhBKwt61BFK"]),
  (["latn", "latin"],
   ["bC6G6pBBMBCBFXB-BbODBKBBDBBJBBBGF7PBCBBPDHCBCgBBFBENvICkgBCi3BBeaDgBGrBFEFNBgCzBBHaIpJBbCB",
    "NBQNtCBzBCGB7BRjBxwCaBxMBih+I6gDDdCCCBBBIVOoJBbQlBBJBEw2TH0aB6G6fbCGBkBBJf0vB-GG"]),
  (["limb", "limbu"],
   ["flCB02D-BMEMEBDM"]),
  (["lina", "lineara"],
   ["hiaCnBmgBxJJWKI"]),
  (["linb", "linearb"],
   ["aaaCMB6BTBCBPCOcB1DFDEnBDJ"]),
  (["lisu"],
   ["2VBQB2jLCeg9qBqv+B"]),
  (["lyci", "lycian"],
   ["0cIBfryB9"]),
  (["lydi", "lydian"],
   ["xFBzlLBoxwB6FB"]),
  (["mahj", "mahajani"],
   ["xFBmfCMawhBKwi6hB"]),
  (["mlym", "malayalam"],
   ["rkCCRC08NBDBtBBDBGEQC600DBXB3zcBD"]),
  (["mand", "mandaic"],
   ["asBB5P8CB"]),
  (["mani", "manichaean"],
   ["asBB5dbChBEM"]),
  (["gonm", "masaramgondi"],
   ["elCC02eCHBCBmBDBBCBJIK"]),
  (["mero", "meroitichieroglyphs"],
   ["3cIBcj0BaB"]),
  (["modi"],
   ["qbkBKgo7fCLK"]),
  (["mong", "mongolian"],
   ["aaG6GzCHlBe2BBr4DCFEuszBN"]),
  (["mult", "multani"],
   ["gtCKqacCHBBBEBPBL"]),
  (["mymr", "myanmar"],
   ["aaEaFoegBBrF-bDaBqc7U"]),
  (["nand", "nandinagari"],
   ["rkCBSCa8Kz5DBIBHBvzcBGkl8ICoBCL"]),
  (["newa"],
   ["rkCCc2EBBCJBGBBBBBsy3B2CBF"]),
  (["nkoo", "nko"],
   ["mqBBOBDBaN1BCD4j3BC"]),
  (["hung", "oldhungarian"],
   ["0cIBCBtoDBPB4rxBtBNtBHG"]),
  (["perm", "oldpermic"],
   ["xFBiSBFDKBpLBmw5BlB"]),
  (["orkh", "oldturkic"],
   ["0cIBvoDBpoxBjC"]),
  (["ougr", "olduyghur"],
   ["asBBrfbCB3dB6"]),
  (["onao", "olonal"],
   ["elCCkdxDlBEB"]),
  (["orya", "oriya"],
   ["rkCCRC1MDBICCCWBHBCBFCJCCCDHDECBFCSclEBXB"]),
  (["osge", "osage"],
   ["bYBCBGBmCBxkaCeBEeB"]),
  (["phag", "phagspa"],
   ["caGCBBjbCBs4DB3b+yB"]),
  (["phlp", "psalterpahlavi"],
   ["asBB5jbCSHEMH"]),
  (["runr", "runic"],
   ["avFzC"]),
  (["samr", "samaritan"],
   ["aaCoBCPspJB"]),
  (["shrd", "sharada"],
   ["rkCBf2EBBBCCCBJBCBc0cBGCBhk6aD"]),
  (["shaw", "shavian"],
   ["xFBy2aCqB"]),
  (["sinh", "sinhala"],
   ["elCC1aBDBSDYBJBBCHDBEGBBBIGKCD3xDBoh3BU"]),
  (["sogd", "sogdian"],
   ["asBBphcCkB"]),
  (["sunu", "sunuwar"],
   ["aYCBBJBCB8BDBoegCcBOK"]),
  (["sylo", "sylotinagri"],
   ["elCCaEKqqhBnB"]),
  (["syrc", "syriac"],
   ["dYCCCBBYDHCBC0WBOCCBaBBKL6BpEOB2BCDqILnmFBBB"]),
  (["tglg", "tagalog"],
   ["ayFWJBVC"]),
  (["tagb", "tagbanwa"],
   ["vzFCjBNBDBC"]),
  (["tale", "taile"],
   ["aYCFCDBtjDKgiC+CF"]),
  (["takr", "takri"],
   ["elCCkwhBKgs70BGK"]),
  (["taml", "tamil"],
   ["rkCCRC2QCBGDDBEDCBBBCDCDDDMEFDDBECBGBOV5gEByadBBnq6BBBxBCdeDsBNB"]),
  (["tang", "tangut"],
   ["q5LQpPBqppCB-y5FIaYaQJ"]),
  (["telu", "telugu"],
   ["rkCCRC0UNBDBXBQCJBDBEHCBDCBCECKHJvcECBBBBXB"]),
  (["thaa", "thaana"],
   ["mqBBOCCBaCKwIsBas3BBKB"]),
  (["thai"],
   ["2VB6BlBBnBBpwC0BF8"]),
  (["tibt", "tibetan"],
   ["ayDiCBeBEhBBeBBPBHECnbIE"]),
  (["tfng", "tifinagh"],
   ["cYBBBBEZBmqKyBHCOB"]),
  (["tirh", "tirhuta"],
   ["rkCCRCp1EBMBPB3zcBKgc7iCIK"]),
  (["todr", "todhri"],
   ["bYBCBCBJBBBkCBbtaCuB"]),
  (["toto"],
   ["2VBt4xD-"]),
  (["tutg", "tulutigalari"],
   ["ghDKcaEBBB1zcBG1FBou6KBBCBBgBBKBBCBBEBKBCIC"]),
  (["yezi", "yezidi"],
   ["mqBBOBDBaCKwacCkBBDCC"]),
  (["yiii", "yi"],
   ["baMCFKCI5GBey7neBDxB0uWF"])]

end FixGrader.Unicode
