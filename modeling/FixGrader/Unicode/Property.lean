import FixGrader.Unicode.RangeTable

namespace FixGrader.Unicode

/-- The code points that have each property, packed, under its names. -/
def propertyData : List (List String × List String) := [
  (["alpha", "alphabetic"],
   ["bC6G6pBBKBEBFXB-BkOEMOFHBBBwCB9SBCCEBBGBBDBBBUBtCBlEIgFBgBCBGjBhBOBBBCBCBBI7EE9LFyBBHOgDBI",
    "EIEDKDCBQqBNfDYbBJCEBFYCTTZHLFYBGIBIkBKMDHGmCBQBDEPNTBICCCWBHBBDEDICCCCBBIBECBFMCKBEDBGECC",
    "WBHBCBCBCEFECCCEBHEBBRGLDBJBDBWBHBCBFDJBDBCDBPEVEEDBICCCWBHBCBFDICCCCJCECBFNBQCBGDDBEDCBBB",
    "CDCDDDMEFDDBDDBGBiBNBDBXBQDIBDBDICBDCBCE8EBIBDBXBKBFDIBDBDICGCBENDMNBDBjBCIBDBDBBFEHFWGBDB",
    "SDYBJBBCHIGBBBISCN0BFHGBtBCBBBFBYBBBTBDCFBBGBOEaBB5BIBeBETEQBeBdCxBBBCFQaCKECgBBBFBClBBnKB",
    "ECHBBBECjBBECbBBECHBBBECPBzBBECdCfBQQwCCGDmTCRB6FlCDLHULVMUMNBDBCMuBCTOBEBdCzCHlBFgCK-BMEJ",
    "X+CFLmBE6wB8E5BCUsBBXCLDrBuBBPBItBkBCEKmBBLOxBWDKeBCLFlBCDjBEBGBCDBFaGTcBLwICGCgBCGCIBBBBB",
    "BB-CvBBHBBDDBHDECGENFDBHuDBNBQNfDBEBCKBBDFGBBBBBBEBLCEFFEBRjBnZuBwyBfHGEDCMgBBBFBCyBHBQXJH",
    "BHBHBHBHBHBHBHBaBpBBvODZJHFCFEwCGDB0CBEFlBB4CRaBqBQaQaoGaCnuVdCoBCnIDQKCUpBFIDrDhBJChDCdCC",
    "CBBBIVUBbBYuBMeCBBmBGDBBDKbBFdBN9DtBBMPBQQKFBxBJOSXDfCBBBBYDCQCELGCGCGJHBHBlBBOG1DVe3KMXEr",
    "BeiIoLCkDgBHMFFMBNBFBBBCBCBmDbBlLSaCCwBiBMuDFBhEeB6G6LzCDGCGCGCDdBMB6BTBCBPCOcB1DfCvBlI9Dr",
    "BpBaBN+FlBF+CeBEIBFkB4ESeBEeBEiBIuBMLBPBHBCBLBPBHBCDuBMxJJWKIYGBkBBJfCGCBBmBBCDBCXKXJ-bCTB",
    "CKWK6gCyBGCaCEBCFIBDB9kB9D9dBIB87wBKWKTNSoDjCxBtBNtBNiBcB8DBFX0HkBBCDCQDxBBD9KBIWkBSoBV7XJ",
    "gClBFKzBJBNZXtBREIdBDBJaCBEJCKBBBdBSBcBCBGE4BHBBBEBPBKHzBXEBICCCWBHBCBFDICCCCDBGBFH8KBBCBB",
    "gBBKBBCBBEBCDBBBmBcCBDBEUD+cCCCBByFwBCHZGcB5BBBDB1BwBCBhC7COVHzFzBhDaC-ICBCIBCB+BCCCCE3CIC",
    "oBCGBBBC7tBCKRiCFBSjChGbB-JBnBBHBBrB+CWBOjCHBCBmBDBBCBDBBCCYGBCBfBBCBEBBhKXJRBjBDDpDBpC08g",
    "DpDReGmsCbDPqbBRGZ12DFhSzvGpBrwBzRH-RpCR+SqBQE-VFTqNnBtGaCaElCEzBHRaCCBBMCOy5FIwgBjBKhxIEB",
    "HBCBdJPB9DCBOEImMeiClDFNDJHKEBb1FvCBhCBCCBCCCEBMBBBHBbCBECIBHB8BEBFBBDHBuKCZBZB-BZB-BZB-BZ",
    "B-BZBIuzB-GGvGHBRCHBCBFF4BbBBqDnBKHQBbK+SmBeP8eH+CBpPHBEBCBPBfG1BeCDBDBufBEB7BCBBCBBKBEBBB",
    "BGBEBBBBBBDBCBBCBBBBBBBBBBCBBCEBHBEBEBBBKBRFDBFBRuT6G6G6wtDaxjBaB0bEG4GCcuFOrjHPoTcnC4QcpB",
    "l0EFadE"]),
  (["ahex", "asciihexdigit"],
   ["qBKHG6G"]),
  (["bidic", "bidicontrol"],
   ["2qBBrpGC6FxBE"]),
  (["ci", "caseignorable"],
   ["hBBGBLBdBBBBhCBEBBBEBCCxPaGECEBJCBB1HHpGBFBrBnBBBBCBCBBmBBLGKLBBdBBKVQBfDIBKBEbBBBB+71CL0B",
    "LEBCBYYlBDmBBHCFJjB0BxBBBBEIEBDHKCNBPB0BBEEIBUC6BCCzBBECECCDDB+CDBLCzBBEFBCEBUCWGBB0BBCBBE",
    "IBHCLC+B3BBMBsBBDBxBBBDFDBEHCLC9B0BBCBGBFCUC8CzBCEEIBUC9BiCBHDBB0CBCHLJcDBCJJBBHjCC7BBBBBx",
    "BOBFBCFLBeBJBgDEBGBCCCZCEDQENBCCGBPB4CBaTDs9D9C+C+CaCCBHIBCLDBFBnBFtBBbCCcBBwDDECJBGD1GCCB",
    "0BBBHBBBBCIGKCBhBBI-rBEqBBBFBBFBiBJMCaBECCBDyBBBCDBBD0BICCaCGsCDBNBHEBGBDCsB5BNBcBfD3NBBDL",
    "DNDNDNCMFICKBCBCFrBFBKBBNBQNtBbBl2CCrDD3DBPBaDaBpBBvOBeBEDFFB3CG3CDwy7BchBGoIBcDEBKBB8EqCC",
    "OcBoCBXDhDDDCIBDBEBZCFBxEC6SNBgBIZLoBDqBBCECCRBVCcCGCCCCMBIBdBBLBtBBBDCCFCBB7BOCFCBBeDFJDz",
    "DBCBEBqzTBtER3RQDBMQcBBCBjFBHBGBLBdBBBBpBBnBCdCBVDbQBcHBvEFfaBGBkBBJgSDBCFEiBDEBfFC3REgBB6",
    "FBB1JCpCEgCLrBE1DBwBPjBBCCKDrBECCCBEBKBsBDeBFBI4BBMCuBJKECB5CDCBBCGBCB3EBDIVCzBCDBfBHDFgCG",
    "NBBBBBOCvCICDBBXBuCGBBECBCoHEGCBC7CvCICBBCkDBBBCGBBfDBBBCEBFdIJBCaICBBEBqEECCEBaBKiBGCEIBJ",
    "GCDoBNBCwMHBGBBsCWCHBCBC0DGDBBCBHBBiCCDBBB1KCLCuBFFBBBXBvgFRGPigLMDDaoCF1BHJE2PDiBCcPB5BRa",
    "CCBClaQEBHBC4eDCBE2sEoBCXaRDJQCH+EuED13BxBEsBIBOBWFBPqkBHBRCHBCBFF4BbBBaFOqLB3BE1PF4HCaXHn",
    "DIpvCFbadYB+aDaEqH"]),
  (["cased"],
   ["bC6G6pBBKBEBFXB-BdGBEEqGBeBHC+FaDBkBECCCEBBGBBDBBBUBtCBlEIgFBgBJjBxyCgBBBFBClBBEaVwCCGceCL",
    "FlBCDaCaGaCwICGCgBCGCIBBBBBBB-CvBBHBBDDBHDECGENFDBHuDBNBQNfDBEBCKBBDFGBBBBBBEBGEBCEFFEBRaB",
    "DCrZuBwyBfHGEDCMgBBBFBsi+oBS+eEgDDEB4BCCBBBIVFBDvZlBBOGqCa0THMFjaB6G6ffBqCaDeBEeBuDLBPBHBC",
    "BLBPBHBCdOBCDBkBBJfgBtBNtB3CWKW0yCaCalVaCamZvCBhCBCCBCCCEBMBBBHBbCBECIBHB8BEBFBBDHBuKCZBZB",
    "-BZB-BZB-BZB-BZBIuzBKBUGGfI4BseCeCm5B6G6G6"]),
  (["cwcf", "changeswhencasefolded"],
   ["bC60CBKXBIaBBBBBBBBBBBBBBBBBBBBBBBBBBBBBBBBBBBBBBBBBBBBBBBBBBBBBBBBCBBBBBBBBBBBBBBBBCBBBBB",
    "BBBBBBBBBBBBBBBBBBBBBBBBBBBBBBBBBBBBBBBBCBBBBBBBCBBBCBDCEBCBDDCBCBBBBBCBBCBBCBDBBBCDBHCBCB",
    "CBBBBBBBBBBBBBBBBCBBBBBBBBBBBBBBBBBCCBBBDBBBBBBBBBBBBBBBBBBBBBBBBBBBBBBBBBBBBBBBBBBBBBBBBB",
    "BBBBBBBBBHCBCCBBEBBBBBBBBwHBkBBBBDBIBGBBDBBBCBRBJWBMDDCBBBBBBBBBBBBBBBBBBBBBBBBBCCCBBBCCtB",
    "qBBBBBBBBBBBBBBBBBBBBBBBBBBBBBBBBBBJBBBBBBBBBBBBBBBBBBBBBBBBBBBBBBBBBBBBBBBBBBBBBBBBBBBBBB",
    "CBBBBBBBBBBBBCBBBBBBBBBBBBBBBBBBBBBBBBBBBBBBBBBBBBBBBBBBBBBBBBBBBBBBBBBBBBBBBBBBBBBBBBBBBB",
    "BBBBBBBBBBBBBBBBBBBCgBqBByyCgBBBFBkZGceCKGlBCDaKBBBBBBBBBBBBBBBBBBBBBBBBBBBBBBBBBBBBBBBBBB",
    "BBBBBBBBBBBBBBBBBBBBBBBBBBBBBBBBBBBBBBBBBBBBBBBBBBBBBBBBBBBBBBBBBBBBBBBBBBBBBBBBBBBBBBBBBB",
    "BBBBBBBBBBBBBBBBBFCCBBBBBBBBBBBBBBBBBBBBBBBBBBBBBBBBBBBBBBBBBBBBBBBBBBBBBBBBBBBBBBBBBBBBBB",
    "BBBBBBBBBBBBBBBBBBBBBBBBBBBJIIGKIIIIGLBBBBBBBIIQqBCDCGFDCGLEMFFDCGjJBDCGBnBQTBsZ6qzBqBqBBB",
    "DCBBBBBBEBBCBIDBBBBBBBBBBBBBBBBBBBBBBBBBBBBBBBBBBBBBBBBBBBBBBBBBBBBBBBBBBBBBBBBBBBBBBBBBBB",
    "BBBBBBBBBBBBBBBBBBBBBBBIBBBEBnk+BBBBBBBBBBBBBBBBBBBBBBBBBBBBBBBBBBBBBBBBBBBBBTBBBBBBBBBBBB",
    "BBBBBBBBBBBBBBBhEBBBBBBBBBBBBBDBBBBBBBBBBBBBBBBBBBBBBBBBBBBBBBBBBBBBBBBBBBBBBBBBBBBBBBBBBB",
    "BBKBBBBCBBBBBBBBEBBBCBBBDBBBBBBBBBBBBBBBBBBBBFBFBBBBBBBBBBBBBBBEBBBCDBFBBBBBBBYB07qCa0THMF",
    "jaB6fgBiBiEeB2ELBPBHBCkxBtB3EW0zCaBamVaBav+cB"]),
  (["cwcm", "changeswhencasemapped"],
   ["bC6G60BBKXB-BaCBuCB8COCCBBE3CBSG7BCBBBCDCBEBFCBBCCBHBCBBCDGFBKCgFBkBECCDDBBGBBDBBBUBpBDbBB",
    "FBfEIgFBgBKhByyCgBBBFBClBCDaVwCCGceCLFlBCDzFBDBQBrD2ECBBwDCGCgBCGCIBBBBBBB-CvBBHBBDDBHDECG",
    "ENFDBHjJBDCGB7BRaBDCrZuBwyBrDBCBCHgDHEDCMgBBBFBsi+oBS8gEOC4BJPDDCFBZB+CCEHYC26B8qCa0THMFja",
    "B6G6ffBqCaDeBEeBuDLBPBHBCBLBPBHBCdwBtBNtB3CWKW0yCaCalVaCau+eC"]),
  (["cwl", "changeswhenlowercased"],
   ["bC6fDXBHbBBBBBBBBBBBBBBBBBBBBBBBBBBBBBBBBBBBBBBBBBBBBBBBBBBBBBBBBCBBBBBBBBBBBBBBBCBBBBBBBB",
    "BBBBBBBBBBBBBBBBBBBBBBBBBBBBBBBBBBBBBBCBBBBDCBBBCBDCEBCBDDCBCBBBBBCBBCBBCBDBBBCDBHCBCBCBBB",
    "BBBBBBBBBBBBBCBBBBBBBBBBBBBBBBBCCBBBDBBBBBBBBBBBBBBBBBBBBBBBBBBBBBBBBBBBBBBBBBBBBBBBBBBBBB",
    "BBBBBHCBCCBBEBBBBBBBBbJBBBDBIBGBBDBBBCBRBJdBBIBBBBBBBBBBBBBBBBBBBBBBBFBCBBCCtBqBBBBBBBBBBB",
    "BBBBBBBBBBBBBBBBBBBBBBBJBBBBBBBBBBBBBBBBBBBBBBBBBBBBBBBBBBBBBBBBBBBBBBBBBBBBBBCBBBBBBBBBBB",
    "BCBBBBBBBBBBBBBBBBBBBBBBBBBBBBBBBBBBBBBBBBBBBBBBBBBBBBBBBBBBBBBBBBBBBBBBBBBBBBBBBBBBBBBBBB",
    "BBBBBBBCgBj0CgBBBFBsWwCteCBGlBCDaKBBBBBBBBBBBBBBBBBBBBBBBBBBBBBBBBBBBBBBBBBBBBBBBBBBBBBBBB",
    "BBBBBBBBBBBBBBBBBBBBBBBBBBBBBBBBBBBBBBBBBBBBBBBBBBBBBBBBBBBBBBBBBBBBBBBBBBBBBBBBBBBBBBBBBB",
    "BBBJBBBBBBBBBBBBBBBBBBBBBBBBBBBBBBBBBBBBBBBBBBBBBBBBBBBBBBBBBBBBBBBBBBBBBBBBBBBBBBBBBBBBBB",
    "BBBBBBBBBBBJIIGKIIIIGLBBBBBBBIIYIIIIIIFLFLEMFLFjJBDCGBnBQTBsZ6qzBqBqBBBDCBBBBBBEBBCBIDBBBB",
    "BBBBBBBBBBBBBBBBBBBBBBBBBBBBBBBBBBBBBBBBBBBBBBBBBBBBBBBBBBBBBBBBBBBBBBBBBBBBBBBBBBBBBBBBBB",
    "BBBBIBBBEBnk+BBBBBBBBBBBBBBBBBBBBBBBBBBBBBBBBBBBBBBBBBBBBBTBBBBBBBBBBBBBBBBBBBBBBBBBBBhEBB",
    "BBBBBBBBBBBDBBBBBBBBBBBBBBBBBBBBBBBBBBBBBBBBBBBBBBBBBBBBBBBBBBBBBBBBBBBBBKBBBBCBBBBBBBBEBB",
    "BCBBBDBBBBBBBBBBBBBBBBBBBBFBFBBBBBBBBBBBBBBBEBBBCDBFBBBBBBBYBlzV6fgBiBiEeB2ELBPBHBCkxBtB3E",
    "W0zCaBamVaBav+cB"]),
  (["cwt", "changeswhentitlecased"],
   ["bD60BBjBYBIBBBBBBBBBBBBBBBBBBBBBBBBBBBBBBBBBBBBBBBBBBBBBBBBBBBBBBBBCBBBBBBBBBBBBBBCBBBBBBB",
    "BBBBBBBBBBBBBBBBBBBBBBBBBBBBBBBBBBBBBBBCBBBBDCBBBCBDBFBCBDDCBCBBBBBCBEBCBDBBBCBDBBBEBBCBCB",
    "BBBBBBBBBBBBBBBBCBBBBBBBBBBBBBBBBBDBBBBDBBBBBBBBBBBBBBBBBBBBBBBBBBBBBBBBBBBBBBBDBBBBBBBBBB",
    "BBBBBBBIBCCBBEBBBBBBBBGBCBBBCDCBEBFCBBCCBHBCBBCDGFBKCgFBlBBBBDBDDSB7dBBCDDBBBBBBBBBBBBBBBB",
    "BBBBBBBFBBCBCBuBqBBBBBBBBBBBBBBBBBBBBBBBBBBBBBBBBBBBJBBBBBBBBBBBBBBBBBBBBBBBBBBBBBBBBBBBBB",
    "BBBBBBBBBBBBBBBBCBBBBBBBBBBBBCBBBBBBBBBBBBBBBBBBBBBBBBBBBBBBBBBBBBBBBBBBBBBBBBBBBBBBBBBBBB",
    "BBBBBBBBBBBBBBBBBBBBBBBBBBBBBBBBBBBBrBhBqtDGceCJBBoHBDBQBsDBBBBBBBBBBBBBBBBBBBBBBBBBBBBBBB",
    "BBBBBBBBBBBBBBBBBBBBBBBBBBBBBBBBBBBBBBBBBBBBBBBBBBBBBBBBBBBBBBBBBBBBBBBBBBBBBBBBBBBBBBBBBB",
    "BBBBBBBBBBBBBBBBBBBBBBBBBBBHFBBBBBBBBBBBBBBBBBBBBBBBBBBBBBBBBBBBBBBBBBBBBBBBBBBBBBBBBBBBBB",
    "BBBBBBBBBBBBBBBBBBBBBBBBBBBBBBBBBJIGKIIIIGKIIIIOCIIIIIIFBCGBDDBCIECCIIKDBCwKBbBQEBl66g0BqB",
    "BBDCBBBBBBGBCBKBBBBBBBBBBBBBBBBBBBBBBBBBBBBBBBBBBBBBBBBBBBBBBBBBBBBBBBBBBBBBBBBBBBBBBBBBBB",
    "BBBBBBBBBBBBBBBBBBBBBBBBIBBBEBMgBBBFBti+BBBBBBBBBBBBBBBBBBBBBBBBBBBBBBBBBBBBBBBBBBBBBTBBBB",
    "BBBBBBBBBBBBBBBBBBBBBBBhEBBBBBBBBBBBBBDBBBBBBBBBBBBBBBBBBBBBBBBBBBBBBBBBBBBBBBBBBBBBBBBBBB",
    "BBBBBBBBBBKBBBCBBBBBBBBBEBEBBCCBBBBBBBBBBBBBBBBBBBLBBBBBBBBBBBBBBBEBBBCBDBFBBBBB6B26B8qCa0",
    "THMFjbB6ngBiBiEeB1ELBPBHBCdyBtB3DW0zCaBamVaBcv+cB"]),
  (["cwu", "changeswhenuppercased"],
   ["bD60BBjBYBIBBBBBBBBBBBBBBBBBBBBBBBBBBBBBBBBBBBBBBBBBBBBBBBBBBBBBBBBCBBBBBBBBBBBBBBCBBBBBBB",
    "BBBBBBBBBBBBBBBBBBBBBBBBBBBBBBBBBBBBBBBCBBBBDCBBBCBDBFBCBDDCBCBBBBBCBEBCBDBBBCBDBBBFCBCBCB",
    "BBBBBBBBBBBBBBCBBBBBBBBBBBBBBBBBCBCBBDBBBBBBBBBBBBBBBBBBBBBBBBBBBBBBBBBBBBBBBDBBBBBBBBBBBB",
    "BBBBBIBCCBBEBBBBBBBBGBCBBBCDCBEBFCBBCCBHBCBBCDGFBKCgFBlBBBBDBDDSB7dBBCDDBBBBBBBBBBBBBBBBBB",
    "BBBBBFBBCBCBuBqBBBBBBBBBBBBBBBBBBBBBBBBBBBBBBBBBBBJBBBBBBBBBBBBBBBBBBBBBBBBBBBBBBBBBBBBBBB",
    "BBBBBBBBBBBBBBCBBBBBBBBBBBBCBBBBBBBBBBBBBBBBBBBBBBBBBBBBBBBBBBBBBBBBBBBBBBBBBBBBBBBBBBBBBB",
    "BBBBBBBBBBBBBBBBBBBBBBBBBBBBBBBBBBrBhBi0ClBCDyXGceCJBBoHBDBQBsDBBBBBBBBBBBBBBBBBBBBBBBBBBB",
    "BBBBBBBBBBBBBBBBBBBBBBBBBBBBBBBBBBBBBBBBBBBBBBBBBBBBBBBBBBBBBBBBBBBBBBBBBBBBBBBBBBBBBBBBBB",
    "BBBBBBBBBBBBBBBBBBBBBBBBBBBBBBBHFBBBBBBBBBBBBBBBBBBBBBBBBBBBBBBBBBBBBBBBBBBBBBBBBBBBBBBBBB",
    "BBBBBBBBBBBBBBBBBBBBBBBBBBBBBBBBBBBBBJIGKIIIIGKIIIIOCvBBCEBBBDDBCEBDECCIIKDBCEBrKBbBQEBl66",
    "g0BqBBBDCBBBBBBGBCBKBBBBBBBBBBBBBBBBBBBBBBBBBBBBBBBBBBBBBBBBBBBBBBBBBBBBBBBBBBBBBBBBBBBBBB",
    "BBBBBBBBBBBBBBBBBBBBBBBBBBBBBIBBBEBMgBBBFBti+BBBBBBBBBBBBBBBBBBBBBBBBBBBBBBBBBBBBBBBBBBBBB",
    "TBBBBBBBBBBBBBBBBBBBBBBBBBBBhEBBBBBBBBBBBBBDBBBBBBBBBBBBBBBBBBBBBBBBBBBBBBBBBBBBBBBBBBBBBB",
    "BBBBBBBBBBBBBBBKBBBCBBBBBBBBBEBEBBCCBBBBBBBBBBBBBBBBBBBLBBBBBBBBBBBBBBBEBBBCBDBFBBBBB6B26B",
    "8qCa0THMFjbB6ngBiBiEeB1ELBPBHBCdyBtB3DW0zCaBamVaBcv+cB"]),
  (["dash"],
   ["nBB2kBBtBBbsDBfaBBjaCG3BBhBBPBgMBeaDBCB-CEB8B4NBTBpDBqmtBCfBBKBjFBatDB4JB"]),
  (["di", "defaultignorablecodepoint"],
   ["nFBbVBmWBc0CCtsBCvCF15BF6FrBQuhEB1etBQpHBaFBpCJhfpBEpgFIfulYaaE"]),
  (["dep", "deprecated"],
   ["jKBjjBBdiCBBBjbCCfgCGzVCwgx7B"]),
  (["dia", "diacritic"],
   ["4CBBBhCBGBEBCCxP5EBIFGRCEBJC3HFrGBxBRB7BBBCBBgEIECgECECDDdC71CL0BLcBC4DIjBKQ83BBQBDE8BkCBQ",
    "BoDBQBoDBQBpBD2BBQBHBxDBoDBQBoDBQBnDCQB2DBpDBMGBBlDBNFlCC7BBBBBECcCDBC4BBqDBBCiBCEFZHBBKCb",
    "WDu9C+BuELJB1KDeJBUICBqBPCLiDBPBgBJwBC0BBLCcCCaCGsCZEBGBCDsB5BzCMfBL3NBBDLDNDNDNCqhDD3JB0P",
    "GjDE5CBsl9BMCBB8CsCCOcBgDDnDCMBfBBxEB7SzBEeBB5CBMBeBBvEDbCEtBBeDFJDaECqzTBbYQoIBBBpBBnBCdC",
    "B2XB5eBGBkBBJ3TDEBfFC1RGgBB6FpMDgCLrBEaGBjBBiCCyDC4BBmCBJDiDCsFCqCCQBYHDFzCDBCNC5CBDB1DC1H",
    "C4DBwDCtDBnICcICEB2EBtCBSBrCBfNBcIBBCrCBjNCXBmhFPzgLBaoCF1BHuRCcRRqCC45PEBHBCbyHoBCXaRDDGI",
    "ICH+EcuD4BcGHxLB3BE4XCaXHnDDBD"]),
  (["emoji"],
   ["dBBGBFKpDBEBn2HBMByGBWB0CGPCpLCMBgFBZLEDhGBhHCKBJB0BEBFJBCBCCCBEBCBBCCBDBDCIDFBBBFMLCCBBCB",
    "BSBCCSGBBBCDCFBCCECLCFCCBFCBBBCUCFGBECBEBCBCGBBCBBBBBGBDBGBKCPBCBEBBBEDBBLCqBDJBOBOBuLCpOD",
    "TCtBBEB0gBBMBzSBBBklpDBkGBaFCMCOBCKlC6BCXBUBCJVCoFcBCqDCCBDCtCCDBhIB5BLGBYHCCIMBCECBECNCCB",
    "ICJBFDMDIDCBBBEBGBDBGwCqBgCFICDEKDBBCDBCKdHMEB1IpBBKBzFqDNDKFyBHPCLGJ"]),
  (["ecomp", "emojicomponent"],
   ["dBBGBFKt4HBvGBljxBBw42B61PFqnBEmtbYaD"]),
  (["emod", "emojimodifier"],
   ["152DF"]),
  (["ebase", "emojimodifierbase"],
   ["3qJB1GBQExdtDB2BDCBCDvDCCLVTDBEDBDHBBBYBjGCEBVBECoFDDFtCBQDJBLB5RBCBIIGBJKCDyBB3BCBCBBRDBN",
    "fHDkBJ"]),
  (["epres", "emojipresentation"],
   ["0yICnGEDBCBjQCVCsBMlBBTBNBICRCFCIBFBVBHCBBEBCBHBEC8BdBBBBEDBB3BDYBOB16CtBBEBofrDBkGB4FBCKl",
    "C6BBYBUBCFBDVCoFbBMJBgCBWMlBEFMRDBDhCBBB1FC5BNEBYSB6CNBwCvCqBgCGBDDCDEELCHJdHMEB1IpBBKBzFq",
    "DNDKFyBHPCLGJ"]),
  (["extpict", "extendedpictographic"],
   ["jFBEBn2HBMByGBWB0CGPCpLCMB5CBgCBZLEDhGBhHCKBJB0BEBGBMBsDKwDCLBBBBGBDBGBKCPBCBEBBBEDBBLFnBD",
    "JBOBOBuLCpODTCtBBEB0gBBMBzSBBBglpDaIND-B2BGMCOBCKSzB7PKBUBCJBEJsNF4JIkIqBaEuDMvClBMEyBIKGi",
    "BI+EKEC4BMpBBKBzNaI4-"]),
  (["ext", "extender"],
   ["xFByQCo7BzNBwTBjEBzCBqXB5DBdkCByBBdTBoMBeCBj2EBlBFhDC3CDwy7BwpBBc+BWBjEBmDBVC1dVBqaCCloBB7",
    "BEBhgBBfJBuDCsPDpgBBjfUC2eBCBByk8CrfBBu6D"]),
  (["grbase", "graphemebase"],
   ["aB5CbBNBsSqDICGEHBBBUBaHHgFBgBCsBCDoBBBBCBCBJ7EGRKLBBoBVQBfDIBGCCBEaBCBB+9zCLBOlBJHDYEBJBD",
    "BHPBZFBBLF-RkBzBxBBBBEIEBDHKC9BCBICCCWBHBBDEDBBCGCCCBBNCBDEYFBBGECCWBHBCBCBCEDYEBBHKCDBBMB",
    "BJBDBWBHBCBFDEIBBCDBPCEMHBICBICCCWBHBCBFDBCBGCCCPCBDESLBBGDDBEDCBBBCDCDDDMFBBCDDBDDBVVGDBI",
    "BDBXBQDBDETDCBCCEKHKBLBDBXBKBFDCCBBCYCBCEKBDOLBDBjBCBBCFDBDBCEDBKE6CCBSDYBJBBCHJCGHHKCDMqB",
    "BCLIINfBCBBBFBYBBBKBCJBCFBBJKCEaBYC7BBBBBOBeBSBFBCFrBIBGBNfBnBEBGBCCCZCEDQENBCCGBPBiBBBFBC",
    "zLBECHBBBECjBBECbBBECHBBBECPBzBBECdCF9D6GwCCGC3UDzCHSNTDCJSONBDPuBCBHIBCLJDKGKGLFKGzCHFCcB",
    "BBFgCK-EECDECBGHBDkBCFLmBE6GLDzBCCDyBBBJBBCIGNKGKGOwCqBKEDIB9JMCaBECGyBBBCDBBNqBICFPD4BFlB",
    "CLLBNBHEBGBDCBFaGaCwICGCgBCGCIBBBBBBB-CvBBPBOCGBTCDBJBLFYHrBQCC7BNDbB5BmEE0UWLVuyBCaBByKDC",
    "FnBBBFBCyBHCPXJHBHBHBHBHBHBHBHbB4CcB6BzCMwG60BGQBwCEfDFlBB4CBwCJqBBnt8DxBJ2KUpBEBKaBCqCCGI",
    "oGCCBBBIVQBDBEBZCFEKGyBIeCKMYNBgBIZLBM+GqBBCECCCBNBLEHBZBjBGCCCLDBIBBCKCaBBtBBBDCCFCBBBYRC",
    "ILGCGCGJHBHB2BEvDBCBEDKGe3KMXErBeiIoLCkDgBHMFFBBYBFBBBCBCB3DQ3NCwBHBaBQQKWdBBTBEEFBhEE3EC-",
    "DGCGCGCDDHBHNCCMB6BTBCBPCOcB1DFDEnBDyCBNDBpBnBdE9DrBQ7EeBJ+FgBK+BfBEOkB4ECKGeBEeBEiBIuBLMB",
    "PBHBCBLBPBHBCDuBMxJJWKIYGBkBBJfCGCBBmBBCDBCXBiCIJqBTBCFbBD7FBaCyBEUCpBPEBDB9KJHJHaCaBfBGMJ",
    "wBD9C7F6HEMHqCjCxBtBNtBHkBMKGgBIYICqG-BkBDBCCQD1BiBIWLJWSEEgB8UXJBBwBPHE+BCCBMrBECCCBEOZHK",
    "JeBFBJSIdBBDLuBJBBIECBQBULSB8DCEGBC5BHBBBEBPBLGpBBDNKICBICCCWBHBCBFDBBBBECCCCDBMH8KBBCBBgB",
    "BBBCPBBCDBBDBChByBICDBBVBBBD+qBBCGBBCBBCBCEIKgFpBBCGECBC7eBtBICBBCELKGNTlBBBBCICGKGU87DBBC",
    "EBJXzFpBJBCBeDtCMICBCIBCBYBFBCGEBDJKgCICkBIEBE7BKiBGCEIJBGCDoBNBCJNjCHKwFcBOKGJBgBOBBGK9Da",
    "BZBHBCBlCHBCBgBVBJKGGBCBfBECBBBBHKwJTCEJPBeBICDXwCBPsBN18gDpDBFLeGmsCdDNqbBRGZ12DFhSzvG+MD",
    "DKgwBzRH-BKErCBKG+HBKqBHPKKBHBVFTqN0BgG1CfDlCFyBLNaCE8y5FIwgBjBKhxIEBHBCBdJPB9DCBOEImMeiCl",
    "DFNDJHKCBCBa1D0HGuN2EuD2BwHKhBC2BFDWCH+E3BVcCDB0DUMUMxCJZhEvCBhCBCCBCCCEBMBBBHBbCBECIBHB8B",
    "EBFBBDHBuKCeJCsRxBEsBIBOBHudB-GGfI4BsEnBKHCKECaK+SmBEKFBqO8EKwG+CLEBaPHBEBCBPBfGCJqBeCHBEK",
    "ECrYeCmC3BcGEB7BCBBCBBKBEBBBBGBEBBBBBBDBCBBCBBBBBBBBBBCBBCEBHBEBEBBBKBRFDBFBRuBCoImBEeDMPC",
    "PBPBfBKoFyB9NmBEJHCOG0Ey+ERDNDxDE5CGMEBPMEyBIKGiBI+CMEC4BuKMOCNDKFyBHPCLGJHtEBgDgaBaxjBaB0",
    "bEG4GCcuFOrjHPoTcnC4QcpBl0EFadE"]),
  (["grext", "graphemeextend"],
   ["aYqDtIHhInBBBBCBCBBiCLqBVQBfDHCGCCBEdBB+71CL0BJJBYEBJBDBFlBD1BJkBYBaBxBBBBEIEBDHKC9B0BBBBC",
    "EIBJBKC6BCCzBBECECCDDB+CDBLCzBBEFBCEBUCWGBB0BBBCBEIBHDKC+B1BBBBMBJBiBBDBxBBBDFDBEHCLC9B0BB",
    "CCBBDDBEHCLC8CzBCBBCEIBJBKC9BiCBEBCDBBIBrCBCHMIcDBCJLHjCC7BBBBBxBOBFBCFLBeBJBgDEBGBCCCZCED",
    "QENBCCGBPB5VDs9E8D9C+CaCCBHIBCLJBnBDBBvDCcBBwDDECJBGD1GCCB0BBBHBBBBCIGKCBqB-rBEqBKEDgBJMCa",
    "BECGyBBBCDBBFyBICCyEDBNBHEBGBDCgGaCmQBdGbB45CDnEBaDaBkRGjDCuo9EBKaBCqCCqIBDBEBZCFBxEC6SNBg",
    "BIZLBBmBDqBBCECCCBeBBdCGCCCCMBIBpBBtBBBDCCFCBBkBCIBoHBCBEBqzTBbXQQQoLC3SBcHBvEFguBDBCFEiBD",
    "EBfFC3REbCF3JCpCEgCLrBE1DBwBPjBBCCKDrBECCHB3BDeBFBI4BBMCuBJBBIECB5CDCEGBCB3EBDIVCzBCBBBBMB",
    "JBOHDFdCBCGBBCBBDEDBBOCvCICDBBXBrCBCGBBCBBCBClHBCEGCBC7CvCICBBCkDBBBCIfDBBBCEBFdIJBCvHBKEE",
    "BqEECCEBaBKiBGCEIBJGCDoBNBCwMHBGBBsCWCHBCBC0DGDBBCBHBBiCCDBBB1KCLCuBFFDXBfhFBGPigLMDDaoCF1",
    "BHyaBB5BErCBLClfTCbtEoBCX4QFDGIICH+EuED13BxBEsBIBOBWFBPqkBHBRCHBCBFeDBaFHxLB3BE2PE4HCaXHnD",
    "HvwfYaDaEqH"]),
  (["grlink", "graphemelink"],
   ["nkCB5DB5DB5DB5DB5DB5DB5DBnDCQB2DBpDB5DBjGBuFCzwBC+B3EBnUBdHBfDCgCClmEBgu+BfBBxEBoEBmDBvJBw",
    "HBrsXBgqBBjBBOBzBBzDClEBuDBuFBcDBaEDrDB5DB2HB5DBwDBuDBnIBdICbFBtCBSBrCBfNBeICrCBjNCmpQB"]),
  (["hex", "hexdigit"],
   ["qBKHG6Gjv5BKHG6G"]),
  (["hyphen"],
   ["nBB5DB2gBB1tEBjaCCfqDBdXBhltBBjFBxCB"]),
  (["idcompatmathcontinue"],
   ["sFCFBw3HBDLBPtLBEBWBcfnDBZB-BZB-BZB-BZB-BZB"]),
  (["idcompatmathstart"],
   ["cqIBEBWBcfnDBZB-BZB-BZB-BZB-BZB"]),
  (["idc", "idcontinue"],
   ["qBKH6EBB6pBBKBBBCBFXB-BkOEMOFHBBBRvDBCCEBBGFBBBUBtCBlEBFCgFBgBCBGjBInBBBBCBCBBI7EE9LFkCEgD",
    "BICKBTCBQ1BCfDOwBEBCBCoBS8ELFYBGIlCBbECKBTBICCCWBHBBDECJCCCEIBECBFCMKBBBCDBGECCWBHBCBCBCCB",
    "BFECCDDBHEBBHQLDBJBDBWBHBCBFCKBDBDCBPECKJHBDBICCCWBHBCBFCJCCCDHDECBFCKBBQCBGDDBEDCBBBCDCDD",
    "DMEFDDBECBGBOKQNBDBXBQCJBDBEHCBDCBCECKQEBIBDBXBKBFCJBDBEHCGCBECKBDMNBDBtBBDBFFEHFCKKGBDBSD",
    "YBJBBCHDBEGBBBIGKCCN0BFPBKhBCBBBFBYBBBXCFBBBHBKCEaBBXCGKLBBBBBEKBeBEUBSBeBJBzBkCGoCCgBBBFB",
    "ClBBnKBECHBBBECjBBECbBBECHBBBECPBzBBECdCCDJJOQQwCCGDmTCRB6FlCDLHWJWLUMNBDBCMuCDBECCKbBDBLG",
    "zCHlBFgCK-BMEMKiBCFLmBE6GLfB8E5BB9CLGKNBIOBQrBnCDKRJMuDMyBIKDrBCLFlBCDQDBhBFwQCGCgBCGCIBBB",
    "BBBB-CvBBHBBDDBHDECGENFDBHPCrBCTB8BNBQNtBNEBDMRBEBCKBBCGGBBBBBBQCEFFEBRjBxtCfHGJMgBBBFBCyB",
    "HBPYJHBHBHBHBHBHBHBHBaBfQDZPBFCFEwCCHB5CFlBB4CRaBqBQaQaoGaCnuVdCoBCnID8UqBEKBtDfBJChDCdCCC",
    "BBBIVwBEBTuBMgCKKGYDBBrBCeBM9DbCOLG-BxBJOCKGXDjCYDCQCFKGCGCGJHBHBlBBOG1DBCCKGe3KMXErBeiIoL",
    "CkDgBHMFFMBNBFBBBCBCBmDbBlLSaCCwBiBMEQQQDCYDaBFBhETKH6EBB6K0CDGCGCGCDdBMB6BTBCBPCOcB1DfCvB",
    "iEBcE9DrBPB-aBN+FlBF+CeBEIBFkB4ECKGeBEeBEiBIuBMLBPBHBCBLBPBHBCDuBMxJJWKIYGBkBBJfCGCBBmBBCD",
    "BCXKXJ-bCTBCKWK6gCyBGCaCEBCFIBDB9CDEBaB9D9dBIB+ZwBKWKTNSoDjCxBtBNtBNiBIKGgBDFBX0HkBBCDCQDx",
    "BbBKBIbB-WkBV7XJhC-QJ2BHBNZHKGvBBKEEIeBCBJfCEEBNBBdBSBfBGE4BHBBBEBPBKH1BFKGEBICCCWBHBCBFBK",
    "CCCDCBGBFHCHDFLKBBCBBgBBKBBCBBEBINC9lCFKEE+gCBBIKgFwBCJXGcBbCDBLKgBzBHKGU87CPEKGHzF1BfDkCV",
    "ICBCIBCB+BCCJMKgCICoBCIBC75BIBIkCDBSjChGbBPKGJBnBBJPKY+CWBOjCHBCBmBDBBCBJIKGGBCBfBBCBGHKwJ",
    "XJRBjBDFNLvCBpC08gDpDReGmsCbDPqbBQWK12DFhSzvG0BgwBzRH-BKGpCBKG+CFLxBJEMKJVFTqNnBDKgGaCaElC",
    "EzBHRaCCBCLCOy5FIwgBjBKhxIEBHBCBdJPB9DCBOEImMeiClDFNDJHKDCrcEKgQoBCX4QFDGIICH+EuED1NvCBhCB",
    "CCBCCCEBMBBBHBbCBECIBHB8BEBFBBDHBuKCZBZB-BZB-BZB-BZB-BZBICsBaQxBEsBIBOBWFBPqcB-GGvGHBRCHBC",
    "BFF4BbBBqDnBDOCKEBbK-R0BwOkBwGlBfPHBEBCBPBfGLHjBmCEKgfBEB7BCBBCBBKBEBBBBGBEBBBBBBDBCBBCBBB",
    "BBBBBBBCBBCEBHBEBEBBBKBRFDBFBRujDKgaBaxjBaB0bEG4GCcuFOrjHPoTcnC4QcpBl0EFadEqkxVqH"]),
  (["ids", "idstart"],
   ["bC6G6pBBKBEBFXB-BkOEMOFHBBBbEFBCCEBBGBBDBBBUBtCBlEIgFBgBCBGjBhC7EEnBlBdBCBdDBBPCHCKDCBQBB+",
    "9zCLBYbBJCEBFWEBJBDBXZHLFYBGRkB0BwBDBSBHKPQEICCCWBHBBDEDBQBNCBDOCKBIGECCWBHBCBCBC-EBBTDQJB",
    "DBWBHBCBFDBSBPCXBLICCCWBHBCBFDB+CBDPBRBBGDDBEDCBBBCDCDDDMWBuBIBDBXBQDB6DCBCC+BEIBDBXBKBFDB",
    "-CBCPCRJBDBjBCBQBFDIDYGFSDYBJBBCH0BqBBCMH0BCBBBFBYBBBKBCJBCFBBVEaBB5BIBeB7FtDlBUBQGEEDBDCH",
    "DENMBRgBBBFBClBBnKBECHBBBECjBBECbBBECHBBBECPBzBBECdCfBQQwCCGDmTCRB6FlCDLHSNTOSONBDPuBdBBEB",
    "dCzCHjBBBFgCK-rB+CFLmBE6wBXJvBsCB3CpBRIwB+NCKmB6eBjBDKeBCLFlBCDjBEBGBCDBFaGaCwICGCgBCGCIBB",
    "BBBBB-CvBBHBBDDBHDECGENFDBHuDBNBQNfDBEBCKBBCGGBBBBBBQCEFFEBRjBxtCfHGEDCMgBBBFBCyBHBQXJHBHB",
    "HBHBHBHBHBHgRDZJHFCFEwCEFB0CBEFlBB4CRaBqBQaQaoGaCnuVdCoBCnIDQKCUpBQ-CqChBJChDCdCCCBBBIVQBD",
    "BEBX9uBOsB4BGDBBCL8KXZ9HpB8BQFBKKFBjBXDBIUXDBDsBBBDCCFCBBBYDCLHDMGCGCGJHBHBlBBOGtD9e3KMXEr",
    "BeiIoLCkDgBHMFFBBKBNBFBBBCBCBmDbBlLSaCCwBiBMuDFBhEeB6G6LzCDGCGCGCDdBMB6BTBCBPCOcB1DfCvBlI9",
    "DrBpBaBN+FgBK+CeBEIBFkB4ESeBEeBEiBIuBMLBPBHBCBLBPBHBCDuBMxJJWKIYGBkBBJfCGCBBmBBCDBCXKXJ-bC",
    "TBCKWK6gCyBGCaCBPEBDB9kB9D9dBIB87wBKWKTNSoDjCxBtBNtBNeBgB8JX0HkBGCQD1B9KBIWkBSoBV7XMvBzBCC",
    "BNnBaBZ6eB9BCBIdBDBMqBOEVBBBdBSBZTC5BHBBBEBPBKHpBgBICCCWBHBCBFDBSBMF+KBBCBBgBBBZBBBmBvBSEU",
    "D+qBUCBByFpBjBEeBqBUB1BlBNBhC7fBHzFmBuDaC-ICBCIBCBYPBBB4CIChBQBBB8BKiBHBVBLoBTBSjChGbB-JBf",
    "BRBrB+qDHBCBgBVBZGBCBaBOBhKTPBBNBcB2DBpC08gDpDReGmsCbDPqbBRGZ12DFhSzvG+cxBzRH-RpCR+SqBQE-V",
    "FTqNnBtGaCaElCFBcCNaCCBB8y5FIwgBjBKhxIEBHBCBdJPB9DCBOEImMeiClDFNDJHKg1FvCBhCBCCBCCCEBMBBBH",
    "BbCBECIBHB8BEBFBBDHBuKCZBZB-BZB-BZB-BZB-BZBIuzB-GGfI4BsEnBKHQBbK+SmBeP8eH+CBpPHBEBCBPBfG1B",
    "eCHBufBEB7BCBBCBBKBEBBBBGBEBBBBBBDBCBBCBBBBBBBBBBCBBCEBHBEBEBBBKBRFDBFBRekEaxjBaB0bEG4GCcu",
    "FOrjHPoTcnC4QcpBl0EFadE"]),
  (["ideo", "ideographic"],
   ["gaMCZJODf+aoGaCaqUaiWoLCkDki9B7y5FIwgBjBKhdJmMeiTaxjBaB0bEG4GCcuFOrjHPoTcnC4QcpBl0EFadE"]),
  (["idsb", "idsbinaryoperator"],
   ["q5LCCKrPB"]),
  (["idst", "idstrinaryoperator"],
   ["s5LC"]),
  (["idsu", "idsunaryoperator"],
   ["45LC"]),
  (["joinc", "joincontrol"],
   ["maIC"]),
  (["loe", "logicalorderexception"],
   ["asDF1DFqxCDCB0heBCCBBC"]),
  (["lower", "lowercase"],
   ["bD6pBBKBEBeBYBIBBBBBBBBBBBBBBBBBBBBBBBBBBBBBBBBBBBBBBBBBBBBBBBBBBBBBBBCBBBBBBBBBBBBBBBCBBB",
    "BBBBBBBBBBBBBBBBBBBBBBBBBBBBBBBBBBBBBBBBBBBCBBBBDCBBBCBDCEBCBDDCBCBBBBBCBBCBBCBDBBBCCCDGBC",
    "BCBBBBBBBBBBBBBBBBCBBBBBBBBBBBBBBBBBCCBBBDBBBBBBBBBBBBBBBBBBBBBBBBBBBBBBBBBBBBBBBBBBBBBBBB",
    "BBBBBBBBBBHCBCCBBEBBBBBBBBfCBeBHC+FaDBlBBBBDBCESB7dBBCDDBBBBBBBBBBBBBBBBBBBBBBBFBBCBCCtBqB",
    "BBBBBBBBBBBBBBBBBBBBBBBBBBBBBBBBBBJBBBBBBBBBBBBBBBBBBBBBBBBBBBBBBBBBBBBBBBBBBBBBBBBBBBBBCB",
    "BBBBBBBBBBBCBBBBBBBBBBBBBBBBBBBBBBBBBBBBBBBBBBBBBBBBBBBBBBBBBBBBBBBBBBBBBBBBBBBBBBBBBBBBBB",
    "BBBBBBBBBBBBBBBBBBqBjBh0ClBBEyXGceCJBBvDaGbCBBBBBBBBBBBBBBBBBBBBBBBBBBBBBBBBBBBBBBBBBBBBBB",
    "BBBBBBBBBBBBBBBBBBBBBBBBBBBBBBBBBBBBBBBBBBBBBBBBBBBBBBBBBBBBBBBBBBBBBBBBBBBBBBBBBBBBBBBBBB",
    "BBBBBBBBBBBBJBBBBBBBBBBBBBBBBBBBBBBBBBBBBBBBBBBBBBBBBBBBBBBBBBBBBBBBBBBBBBBBBBBBBBBBBBBBBB",
    "BBBBBBBBBBBBBBBBBBBBJIGKIIIIGKIIIIOCIIIIIIFBCGBDDBCIECCIIKDBCzDBNBQNnDBDCDB7BEBEBCCIEEBbBQ",
    "EBl66g0BqBBBDCBBBBBBEBBCBIDBBBBBBBBBBBBBBBBBBBBBBBBBBBBBBBBBBBBBBBBBBBBBBBBBBBBBBBBBBBBBBB",
    "BBBBBBBBBBBBBBBBBBBBBBBBBBBBBBBBBBBCHBBBEBMgBBBFBti+BBBBBBBBBBBBBBBBBBBBBBBBBBBBBBBBBBBBBB",
    "BBBBBBBTBBBBBBBBBBBBBBBBBBBBBBBBBBDfEBBBBBBBBBBBBDBBBBBBBBBBBBBBBBBBBBBBBBBBBBBBBBBBBBBBBB",
    "BBBBBBBBBBBBBBBBBBBBBKBBBBCBBBBBBBBBEBBBCBBDBBBBBBBBBBBBBBBBBBBBFBFBBBBBBBBBBBBBBBEBBBCBDB",
    "BBBBBBBBBBWDBBBDvZlBBOGqCa0THMFjbB6ngBiBiEeB1ELBPBHBCdOBCDBkBBJfiBtB3DW0zCaBamVaB0mZ66HBS6",
    "66EBBBHBL6666666666666666688ZBG6ZBG6ZBG6ZBG6ZBGBBuzBKBUGGfI4BufCcB"]),
  (["math"],
   ["lBBQD-B9BBBnBBEBfBB-ByWDCB6CCDpQDnqGB7DLBDBNBOEVFLFbCNEBDCEFSBEBCKBBCGGBDCCCBDBGDOBBeCYBGB",
    "CECEaBBBGCOmIIEUC0CB+7BBYBLH3NCMKEGECCCDFOBBBCGLIFCzBBBB9EJDqKaCaIaQqBVCG24tBBxZGBBcFBQD9B",
    "BB9BBBdEBGEbnDCqtrBvCBhCBCCBCCCEBMBBBHBbCBECIBHB8BEBFBBDHBuKCeJCsBaqFEB7BCBBCBBKBEBBBBGBEB",
    "BBBBBDBCBBCBBBBBBBBBBCBBCEBHBEBEBBBKBRFDBFBRuBC"]),
  (["mcm", "modifiercombiningmark"],
   ["usBCCBdEBGBDCbPCBDDB-B"]),
  (["nchar", "noncharactercodepoint"],
   ["qo5BaBoQC455BC455BC455BC455BC455BC455BC455BC455BC455BC455BC455BC455BC455BC455BC455BC455BC"]),
  (["oalpha", "otheralphabetic"],
   ["f6B9NaSOBBBCBCBBiCLqBNBHQBfDHEECCEBdBB+QgDLfDCDJBDBEkDB2BMDHGUwBCCPBCFDKC9D0BHCCCCKBKC9D0B",
    "FECCCEB+CDBLD0BIBDBCVCWDED0BHCCCCJCKC+B1BFDDBDKBiBFzBHBDBDICLC9D0BHBDBDICLCPBME0BHBDBDKBKC",
    "9DlCGBBBISC3BBCHSBdDBCGBCQBdFTJLBeBoDMBBCEXEEDBDCHDENMBBKEutBC+C+C+CcCT2FCcBBwDMEJ4GFzBKCU",
    "kCCLDrBFqBP2BD+JCCzBLsBT2McBbwBuBwhCaBud+IcBCcLBIBXFyCCsBQBBzBBgBF8MnBEqBMfBBdCOMBICnBDsBB",
    "BDCCFBmBFFBnHItzTBxcCFguBDBCFEuYEbCBbKCpCBdIDvBOnBCLDnBJJB3BDeBMSCzBDqBNOC2CJCBGBCB3EKXE0B",
    "HCCCCKBKCuCJBBCBBEBChDNBDkDSnHHCH9CsCPBBkDLhDObINxHGBCCCDBBBoEHCGEB8KkBFBESLoBOxMIBHtCWBO0",
    "DGDBBCBDBBDBcCFBCBE2KEJCBBqBHDD3oQRarDBBxBHE3CCmfTBb1IHBRCHBCBFeDBxfCBi5B6G6G6"]),
  (["odi", "otherdefaultignorablecodepoint"],
   ["p6BpqDCtsBCpfCB4hEB1rtBBpCJhaa6BB+aDaEqHqqD"]),
  (["ogrext", "othergraphemeextend"],
   ["4nCBYBgLBYBgDBYBiHBBBECBCJChDBYBxDBPBvjCB+BaaBBFBBBFCfDBhCCyaBBbbECdj+BmDB3oVCarEBuDBiIBOB",
    "JBaDBJBCBBDFBaHBMBrHBgIBzTBMBdqBBofUCtlYCGGnvlYaD"]),
  (["oidc", "otheridcontinue"],
   ["xFBpWBb5DJitBBrrBCnhEBjttBB"]),
  (["oids", "otheridstart"],
   ["feGCreCBVBm1DC"]),
  (["olower", "otherlowercase"],
   ["kFBPBvPJHC+FaDBuBBbmDBpbD5BNBcBfBrVBNBQNtGQq66s2BC4q+CsGBbEDDCc7EJBwaXBCDBkBBJvdwB4B"]),
  (["omath", "othermath"],
   ["4CBr7DCB6CCCabHB7DLBaBEYCOCbCNEBDCEFSBEBCKBBDFGBDCCCBDBGDEFFlCFCEBCBCBBBFCCECESCCBBBHBBGCc",
    "JEiFCBBYBRB3NCMJFFFCCCDFOBBBCGYCzBBBB9EJCwKC-KtMW5BEaBCddvBBBBEBtGBBBbgvBvCBhCBCCBCCCEBMBB",
    "BHBbCBECIBHB8BEBFBBDHBuKCZBZB-BZB-BZB-BZB-BZBICsBaqFEB7BCBBCBBKBEBBBBGBEBBBBBBDBCBBCBBBBBB",
    "BBBBCBBCEBHBEBEBBBKBRFDBFBR"]),
  (["oupper", "otheruppercase"],
   ["alIQg66adtD6G6G6"]),
  (["patsyn", "patternsyntax"],
   ["bBPKH6EBB6EcBHBBBCBBBCEBEBDBXB-ByyHYIPCTBKrJqWaFwT+mdBaQaEbMDEZPBnitBCfIC"]),
  (["patws", "patternwhitespace"],
   ["JFSBeDBi2HCYC"]),
  (["pcm", "prependedconcatenationmark"],
   ["aqBGxGBrBBaMCqCB04bCBPB"]),
  (["qmark", "quotationmark"],
   ["cBBEBdEBPB20HIZChqDBjOENDbrtBE3FBEB0CC"]),
  (["radical"],
   ["auL6BzCMwG"]),
  (["ri", "regionalindicator"],
   ["gp2D6"]),
  (["sterm", "sentenceterminal"],
   ["bBBMBQBjkBBtEDuFBlBDwHB3BBBBDCfJCexBCwYBECfYBgGC3ECnBBFB0JCcLEcFCKCCC9D1FCbCCe9BXCJDpfDDsJ",
    "BNBWCnNB2h9BoICdHBDB4LCwCC5CByECtEDqECzHBgrUBCC1BBDCjFBMBQBbCBuxCC3hBFmBE3FCvDE5DDbECGBQCy",
    "CCBCmDBkJCvDCvLCFPjDCzHDfQBBB1HCxCCeNCuVCkCCjzSCfEBbCCLBjRCiJBgqTBipHB"]),
  (["sd", "softdotted"],
   ["jDCeGBzIB+BuBBUBaKBcDBBBjiGBtBBNBDBeEB3EBfNBwGCszCBf3jDCsBCsBCsBCsBCsBCsBCsBCsBCsBCsBCsBCs",
    "BCgeCBrJC6B"]),
  (["term", "terminalpunctuation"],
   ["bBBKBBBLCDB4ZBIBbQBzBBiCBOBBDuFBlBLBBlHCwBGBI-BfICuhBCmFBEGxJCvYIfYB2DDhCC3EDDBhBECC0JCcLE",
    "cFCKCBD9D1FF4BCe9BXCJDpfDDsJBNBEBKBBCDCmNC1h9CnIDdHF4LCwCC5CBxEDtED5DBQCzHBgrUBCCzBDBEjFBK",
    "BBBLCDBbCBCB0bBBqBBgeBBhGBwJCyEGeCGzCEy9FmBE3FHqDE5DDbECGBQCyCFmDBkJCvDDMCgLEDPjDCzHDfQBBB",
    "1HCxCCEC4MDnBBfUCkCCljBFzpRCfEBbCDKBjRChJCgqTBhpHE"]),
  (["uideo", "unifiedideograph"],
   ["aaNaoGaCaqUoqWCBBBCKBBBBCCDwobCaxjBaB0bEG4GCcuFOrjHPoTcnEl0EFadE"]),
  (["upper", "uppercase"],
   ["bC6fDXBHbBBBBBBBBBBBBBBBBBBBBBBBBBBBBBBBBBBBBBBBBBBBBBBBBBBBBBBBBCBBBBBBBBBBBBBBBCBBBBBBBB",
    "BBBBBBBBBBBBBBBBBBBBBBBBBBBBBBBBBBBBBBCBBBBDCBBBCBDCEBCBDDCBCBBBBBCBBCBBCBDBBBCDBHBCBCBCBB",
    "BBBBBBBBBBBBBCBBBBBBBBBBBBBBBBBCBCBBDBBBBBBBBBBBBBBBBBBBBBBBBBBBBBBBBBBBBBBBBBBBBBBBBBBBBB",
    "BBBBBHCBCCBBEBBBBBBBBbJBBBDBIBGBBDBBBCBRBJdBBCDDBBBBBBBBBBBBBBBBBBBBBBBFBCBBCCtBqBBBBBBBBB",
    "BBBBBBBBBBBBBBBBBBBBBBBBBJBBBBBBBBBBBBBBBBBBBBBBBBBBBBBBBBBBBBBBBBBBBBBBBBBBBBBBCBBBBBBBBB",
    "BBBCBBBBBBBBBBBBBBBBBBBBBBBBBBBBBBBBBBBBBBBBBBBBBBBBBBBBBBBBBBBBBBBBBBBBBBBBBBBBBBBBBBBBBB",
    "BBBBBBBBBCgBj0CgBBBFBsWwCteCBGlBCDaKBBBBBBBBBBBBBBBBBBBBBBBBBBBBBBBBBBBBBBBBBBBBBBBBBBBBBB",
    "BBBBBBBBBBBBBBBBBBBBBBBBBBBBBBBBBBBBBBBBBBBBBBBBBBBBBBBBBBBBBBBBBBBBBBBBBBBBBBBBBBBBBBBBBB",
    "BBBBBJBBBBBBBBBBBBBBBBBBBBBBBBBBBBBBBBBBBBBBBBBBBBBBBBBBBBBBBBBBBBBBBBBBBBBBBBBBBBBBBBBBBB",
    "BBBBBBBBBBBBBJIIGKIIIIGLBBBBBBBIIiCEMEMEMFLEgIBEBDDCDCBDFGBBBBBBECEKCFB6QTBsZ6qzBqBqBBBDCB",
    "BBBBBEBBCBIDBBBBBBBBBBBBBBBBBBBBBBBBBBBBBBBBBBBBBBBBBBBBBBBBBBBBBBBBBBBBBBBBBBBBBBBBBBBBBB",
    "BBBBBBBBBBBBBBBBBBBBIBBBEBnk+BBBBBBBBBBBBBBBBBBBBBBBBBBBBBBBBBBBBBBBBBBBBBTBBBBBBBBBBBBBBB",
    "BBBBBBBBBBBBhEBBBBBBBBBBBBBDBBBBBBBBBBBBBBBBBBBBBBBBBBBBBBBBBBBBBBBBBBBBBBBBBBBBBBBBBBBBBK",
    "BBBBCBBBBBBBBEBBBCBBBDBBBBBBBBBBBBBBBBBBBBFBFBBBBBBBBBBBBBBBEBBBCDBFBBBBBBBYBlzV6fgBiBiEeB",
    "2ELBPBHBCkxBtB3EW0zCaBamVaBanZ666666BBCCBCCCEBI666CBECIBH7CBEBFBBDH766666666666+ZbBZbBZbBZ",
    "bBZbBBvjEcBoaC6G6G6"]),
  (["vs", "variationselector"],
   ["laGDBBqpzBQqxa6qH"]),
  (["wspace", "whitespace", "space"],
   ["JFSBeDB6B5oFB5lCL9CFBpBBa3DB"]),
  (["xidc", "xidcontinue"],
   ["qBKH6EBB6pBBKBBBCBFXB-BkOEMOFHBBBRvDBCDDBBGFBBBUBtCBlEBFCgFBgBCBGjBInBBBBCBCBBI7EE9LFkCEgD",
    "BICKBTCBQ1BCfDOwBEBCBCoBS8ELFYBGIlCBbECKBTBICCCWBHBBDECJCCCEIBECBFCMKBBBCDBGECCWBHBCBCBCCB",
    "BFECCDDBHEBBHQLDBJBDBWBHBCBFCKBDBDCBPECKJHBDBICCCWBHBCBFCJCCCDHDECBFCKBBQCBGDDBEDCBBBCDCDD",
    "DMEFDDBECBGBOKQNBDBXBQCJBDBEHCBDCBCECKQEBIBDBXBKBFCJBDBEHCGCBECKBDMNBDBtBBDBFFEHFCKKGBDBSD",
    "YBJBBCHDBEGBBBIGKCCN0BFPBKhBCBBBFBYBBBXCFBBBHBKCEaBBXCGKLBBBBBEKBeBEUBSBeBJBzBkCGoCCgBBBFB",
    "ClBBnKBECHBBBECjBBECbBBECHBBBECPBzBBECdCCDJJOQQwCCGDmTCRB6FlCDLHWJWLUMNBDBCMuCDBECCKbBDBLG",
    "zCHlBFgCK-BMEMKiBCFLmBE6GLfB8E5BB9CLGKNBIOBQrBnCDKRJMuDMyBIKDrBCLFlBCDQDBhBFwQCGCgBCGCIBBB",
    "BBBB-CvBBHBBDDBHDECGENFDBHPCrBCTB8BNBQNtBNEBDMRBEBCKBBCGGBBBBBBQCEFFEBRjBxtCfHGJMgBBBFBCyB",
    "HBPYJHBHBHBHBHBHBHBHBaBfQDZPBFCFEwCCCCDB5CFlBB4CRaBqBQaQaoGaCnuVdCoBCnID8UqBEKBtDfBJChDCdC",
    "CCBBBIVwBEBTuBMgCKKGYDBBrBCeBM9DbCOLG-BxBJOCKGXDjCYDCQCFKGCGCGJHBHBlBBOG1DBCCKGe3KMXErBeiI",
    "oLCkDgBHMFFMBNBFBBBCBCBmDbBlEG0GSaCCwBiBKGQQQDCYDbBBBBDBBBBBBBB4DTKH6EBB6K0CDGCGCGCDdBMB6B",
    "TBCBPCOcB1DfCvBiEBcE9DrBPB-aBN+FlBF+CeBEIBFkB4ECKGeBEeBEiBIuBMLBPBHBCBLBPBHBCDuBMxJJWKIYGB",
    "kBBJfCGCBBmBBCDBCXKXJ-bCTBCKWK6gCyBGCaCEBCFIBDB9CDEBaB9D9dBIB+ZwBKWKTNSoDjCxBtBNtBNiBIKGgB",
    "DFBX0HkBBCDCQDxBbBKBIbB-WkBV7XJhC-QJ2BHBNZHKGvBBKEEIeBCBJfCEEBNBBdBSBfBGE4BHBBBEBPBKH1BFKG",
    "EBICCCWBHBCBFBKCCCDCBGBFHCHDFLKBBCBBgBBKBBCBBEBINC9lCFKEE+gCBBIKgFwBCJXGcBbCDBLKgBzBHKGU87",
    "CPEKGHzF1BfDkCVICBCIBCB+BCCJMKgCICoBCIBC75BIBIkCDBSjChGbBPKGJBnBBJPKY+CWBOjCHBCBmBDBBCBJIK",
    "GGBCBfBBCBGHKwJXJRBjBDFNLvCBpC08gDpDReGmsCbDPqbBQWK12DFhSzvG0BgwBzRH-BKGpCBKG+CFLxBJEMKJVF",
    "TqNnBDKgGaCaElCEzBHRaCCBCLCOy5FIwgBjBKhxIEBHBCBdJPB9DCBOEImMeiClDFNDJHKDCrcEKgQoBCX4QFDGII",
    "CH+EuED1NvCBhCBCCBCCCEBMBBBHBbCBECIBHB8BEBFBBDHBuKCZBZB-BZB-BZB-BZB-BZBICsBaQxBEsBIBOBWFBP",
    "qcB-GGvGHBRCHBCBFF4BbBBqDnBDOCKEBbK-R0BwOkBwGlBfPHBEBCBPBfGLHjBmCEKgfBEB7BCBBCBBKBEBBBBGBE",
    "BBBBBBDBCBBCBBBBBBBBBBCBBCEBHBEBEBBBKBRFDBFBRujDKgaBaxjBaB0bEG4GCcuFOrjHPoTcnC4QcpBl0EFadE",
    "qkxVqH"]),
  (["xids", "xidstart"],
   ["bC6G6pBBKBEBFXB-BkOEMOFHBBBbEFBCDDBBGBBDBBBUBtCBlEIgFBgBCBGjBhC7EEnBlBdBCBdDBBPCHCKDCBQBB+",
    "9zCLBYbBJCEBFWEBJBDBXZHLFYBGRkB0BwBDBSBHKPQEICCCWBHBBDEDBQBNCBDOCKBIGECCWBHBCBCBC-EBBTDQJB",
    "DBWBHBCBFDBSBPCXBLICCCWBHBCBFDB+CBDPBRBBGDDBEDCBBBCDCDDDMWBuBIBDBXBQDB6DCBCC+BEIBDBXBKBFDB",
    "-CBCPCRJBDBjBCBQBFDIDYGFSDYBJBBCH0BqBBBNH0BCBBBFBYBBBKBBKBCFBBVEaBB5BIBeB7FtDlBUBQGEEDBDCH",
    "DENMBRgBBBFBClBBnKBECHBBBECjBBECbBBECHBBBECPBzBBECdCfBQQwCCGDmTCRB6FlCDLHSNTOSONBDPuBdBBEB",
    "dCzCHjBBBFgCK-rB+CFLmBE6wBXJvBsCB3CpBRIwB+NCKmB6eBjBDKeBCLFlBCDjBEBGBCDBFaGaCwICGCgBCGCIBB",
    "BBBBB-CvBBHBBDDBHDECGENFDBHuDBNBQNfDBEBCKBBCGGBBBBBBQCEFFEBRjBxtCfHGEDCMgBBBFBCyBHBQXJHBHB",
    "HBHBHBHBHBHgRDZJHFCFEwCGDB0CBEFlBB4CRaBqBQaQaoGaCnuVdCoBCnIDQKCUpBQ-CqChBJChDCdCCCBBBIVQBD",
    "BEBX9uBOsB4BGDBBCL8KXZ9HpB8BQFBKKFBjBXDBIUXDBDsBBBDCCFCBBBYDCLHDMGCGCGJHBHBlBBOGtD9e3KMXEr",
    "BeiIoLCkDgBHMFFBBKBNBFBBBCBCBmDbBlEG0GSaCCwBiBKxDBBBDBBBBBBBB4DeB6G6LyBC-DGCGCGCDdBMB6BTBC",
    "BPCOcB1DfCvBlI9DrBpBaBN+FgBK+CeBEIBFkB4ESeBEeBEiBIuBMLBPBHBCBLBPBHBCDuBMxJJWKIYGBkBBJfCGCB",
    "BmBBCDBCXKXJ-bCTBCKWK6gCyBGCaCBPEBDB9kB9D9dBIB87wBKWKTNSoDjCxBtBNtBNeBgB8JX0HkBGCQD1B9KBIW",
    "kBSoBV7XMvBzBCCBNnBaBZ6eB9BCBIdBDBMqBOEVBBBdBSBZTC5BHBBBEBPBKHpBgBICCCWBHBCBFDBSBMF+KBBCBB",
    "gBBBZBBBmBvBSEUD+qBUCBByFpBjBEeBqBUB1BlBNBhC7fBHzFmBuDaC-ICBCIBCBYPBBB4CIChBQBBB8BKiBHBVBL",
    "oBTBSjChGbB-JBfBRBrB+qDHBCBgBVBZGBCBaBOBhKTPBBNBcB2DBpC08gDpDReGmsCbDPqbBRGZ12DFhSzvG+cxBz",
    "RH-RpCR+SqBQE-VFTqNnBtGaCaElCFBcCNaCCBB8y5FIwgBjBKhxIEBHBCBdJPB9DCBOEImMeiClDFNDJHKg1FvCBh",
    "CBCCBCCCEBMBBBHBbCBECIBHB8BEBFBBDHBuKCZBZB-BZB-BZB-BZB-BZBIuzB-GGfI4BsEnBKHQBbK+SmBeP8eH+C",
    "BpPHBEBCBPBfG1BeCHBufBEB7BCBBCBBKBEBBBBGBEBBBBBBDBCBBCBBBBBBBBBBCBBCEBHBEBEBBBKBRFDBFBRekE",
    "axjBaB0bEG4GCcuFOrjHPoTcnC4QcpBl0EFadE"])]

end FixGrader.Unicode
