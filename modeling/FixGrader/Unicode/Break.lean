import FixGrader.Unicode.RangeTable

namespace FixGrader.Unicode

def clusterBreakData : List (List String × List String) := [
  (["control", "cn"],
   ["AKBCBS5CbBNBolBBrpEB25BBCCYHrBQpuxBBqHMubNQadcBEpgFIfulYaBaDaEqHqqD"]),
  (["cr"],
   ["NB"]),
  (["extend", "ex"],
   ["aYqDtIHhInBBBBCBCBBiCLqBVQBfDHCGCCBEdBB+71CL0BJJBYEBJBDBFlBD1BJkBYBaBxBBBBEIEBDHKC9B0BBBBC",
    "EIBJBKC6BCCzBBECECCDDB+CDBLCzBBEFBCEBUCWGBB0BBBCBEIBHDKC+B1BBBBMBJBiBBDBxBBBDFDBEHCLC9B0BB",
    "CCBBDDBEHCLC8CzBCBBCEIBJBKC9BiCBEBCDBBIBrCBCHMIcDBCJLHjCC7BBBBBxBOBFBCFLBeBJBgDEBGBCCCZCED",
    "QENBCCGBPB5VDs9E8D9C+CaCCBHIBCLJBnBDBBvDCcBBwDDECJBGD1GCCB0BBBHBBBBCIGKCBqB-rBEqBKEDgBJMCa",
    "BECGyBBBCDBBFyBICCyEDBNBHEBGBDCgGaCmQBdGbB45CDnEBaDaBkRGjDCuo9EBKaBCqCCqIBDBEBZCFBxEC6SNBg",
    "BIZLBBmBDqBBCECCCBeBBdCGCCCCMBIBpBBtBBBDCCFCBBkBCIBoHBCBEBqzTBbXQQQoLC3SBcHBvEFguBDBCFEiBD",
    "EBfFC3REbCF3JCpCEgCLrBE1DBwBPjBBCCKDrBECCHB3BDeBFBI4BBMCuBJBBIECB5CDCEGBCB3EBDIVCzBCBBBBMB",
    "JBOHDFdCBCGBBCBBDEDBBOCvCICDBBXBrCBCGBBCBBCBClHBCEGCBC7CvCICBBCkDBBBCIfDBBBCEBFdIJBCvHBKEE",
    "BqEECCEBaBKiBGCEIBJGCDoBNBCwMHBGBBsCWCHBCBC0DGDBBCBHBBiCCDBBB1KCLCuBFFDXBfhFBGPigLMDDaoCF1",
    "BHyaBB5BErCBLClfTCbtEoBCX4QFDGIICH+EuED13BxBEsBIBOBWFBPqkBHBRCHBCBFeDBaFHxLB3BE2PE4HCaXHnD",
    "HqvCFabdYaDaEqH"]),
  (["l"],
   ["aiEaDaagB9"]),
  (["lf"],
   ["KB"]),
  (["lv"],
   ["aalBB7B7B7B7B7B7B7B7B7B7B7B7B7B7B7B7B7B7B7B7B7B7B7B7B7B7B7B7B7B7B7B7B7B7B7B7B7B7B7B7B7B7B7",
    "B7B7B7B7B7B7B7B7B7B7B7B7B7B7B7B7B7B7B7B7B7B7B7B7B7B7B7B7B7B7B7B7B7B7B7B7B7B7B7B7B7B7B7B7B7",
    "B7B7B7B7B7B7B7B7B7B7B7B7B7B7B7B7B7B7B7B7B7B7B7B7B7B7B7B7B7B7B7B7B7B7B7B7B7B7B7B7B7B7B7B7B7",
    "B7B7B7B7B7B7B7B7B7B7B7B7B7B7B7B7B7B7B7B7B7B7B7B7B7B7B7B7B7B7B7B7B7B7B7B7B7B7B7B7B7B7B7B7B7",
    "B7B7B7B7B7B7B7B7B7B7B7B7B7B7B7B7B7B7B7B7B7B7B7B7B7B7B7B7B7B7B7B7B7B7B7B7B7B7B7B7B7B7B7B7B7",
    "B7B7B7B7B7B7B7B7B7B7B7B7B7B7B7B7B7B7B7B7B7B7B7B7B7B7B7B7B7B7B7B7B7B7B7B7B7B7B7B7B7B7B7B7B7",
    "B7B7B7B7B7B7B7B7B7B7B7B7B7B7B7B7B7B7B7B7B7B7B7B7B7B7B7B7B7B7B7B7B7B7B7B7B7B7B7B7B7B7B7B7B7",
    "B7B7B7B7B7B7B7B7B7B7B7B7B7B7B7B7B7B7B7B7B7B7B7B7B7B7B7B7B7B7B7B7B7B7B7B7B7B7B7B7B7B7B7B7B7",
    "B7B7B7B7B7B7B7B7B7B7B7B7B7B7B7B7B7B7B7B7B7B7B7B7B7B7B7B7B7B7B7B7B7B7B7B7B7B7B7B7B"]),
  (["lvt"],
   ["balB7B7B7B7B7B7B7B7B7B7B7B7B7B7B7B7B7B7B7B7B7B7B7B7B7B7B7B7B7B7B7B7B7B7B7B7B7B7B7B7B7B7B7B",
    "7B7B7B7B7B7B7B7B7B7B7B7B7B7B7B7B7B7B7B7B7B7B7B7B7B7B7B7B7B7B7B7B7B7B7B7B7B7B7B7B7B7B7B7B7B",
    "7B7B7B7B7B7B7B7B7B7B7B7B7B7B7B7B7B7B7B7B7B7B7B7B7B7B7B7B7B7B7B7B7B7B7B7B7B7B7B7B7B7B7B7B7B",
    "7B7B7B7B7B7B7B7B7B7B7B7B7B7B7B7B7B7B7B7B7B7B7B7B7B7B7B7B7B7B7B7B7B7B7B7B7B7B7B7B7B7B7B7B7B",
    "7B7B7B7B7B7B7B7B7B7B7B7B7B7B7B7B7B7B7B7B7B7B7B7B7B7B7B7B7B7B7B7B7B7B7B7B7B7B7B7B7B7B7B7B7B",
    "7B7B7B7B7B7B7B7B7B7B7B7B7B7B7B7B7B7B7B7B7B7B7B7B7B7B7B7B7B7B7B7B7B7B7B7B7B7B7B7B7B7B7B7B7B",
    "7B7B7B7B7B7B7B7B7B7B7B7B7B7B7B7B7B7B7B7B7B7B7B7B7B7B7B7B7B7B7B7B7B7B7B7B7B7B7B7B7B7B7B7B7B",
    "7B7B7B7B7B7B7B7B7B7B7B7B7B7B7B7B7B7B7B7B7B7B7B7B7B7B7B7B7B7B7B7B7B7B7B7B7B7B7B7B7B7B7B7B7B",
    "7B7B7B7B7B7B7B7B7B7B7B7B7B7B7B7B7B7B7B7B7B7B7B7B7B7B7B7B7B7B7B7B7B7B7B7B7B7B7B7B7"]),
  (["prepend", "pp"],
   ["aqBGxGBrBBaMCqCBldBBo1aCBPBuHCnQBnlBBBByHBjCG2VB1NB"]),
  (["regionalindicator", "ri"],
   ["gp2D6"]),
  (["spacingmark", "sm"],
   ["diCBxBBCDIEBCsBC1BCGCCCwBB0BDcCB0BDIBBCvBC2BBGCCCsDBBCDDBDuBD3BE3BC0BBCBBCoBBOC1BCFDBDvBCm",
    "CCGHTC5BB5DBkEC5BBrFBJCZCmBBrzBBHIBC0KECDECBGaHC0BBBBVGrEBzBEaCB+BEC5BBCDBBvBIIClFBVBlzcBC",
    "CByCCsBQoEBqBBqBCECCCpDCCCYB3EBCCFBnHCBCBCBBtaZBBB5DBnBDECtDBYC1BBqBDJBOB3CDDCmFD-C1BBBECC",
    "CCVCvCCPBBChDDICDBlDCGBBCBBCBoHCGECBrDDICBBnDBBCoDBHBfIDJByHFBCHBBBoEDIEEBuCB9C4BBxMBOBkDB",
    "HBCBvGFECBB4KCMBqBCICkpQDerDxB"]),
  (["t"],
   ["inEyClorBrB"]),
  (["v"],
   ["alEiCiqrBX2mfBBDE"]),
  (["zwj"],
   ["naIB"])]

def wordBreakData : List (List String × List String) := [
  (["aletter", "le"],
   ["bC6G6pBBKBCBBBFXB-BaPGcBqDFBCCEBBGBBDBBBUBtCBlEIgFBgBCEBBBjBBBiDBmBlBdBCBdDBBPCHCKDCBPCB+9",
    "zCLBYbBJCEBFWEBJBDBXZHLFYBGRkB0BwBDBSBHKPQEICCCWBHBBDEDBQBNCBDOCKBIGECCWBHBCBCBC-EBBTDQJBD",
    "BWBHBCBFDBSBPCXBLICCCWBHBCBFDB+CBDPBRBBGDDBEDCBBBCDCDDDMWBuBIBDBXBQDB6DCBCC+BEIBDBXBKBFDB-",
    "CBCPCRJBDBjBCBQBFDIDYGFSDYBJBBCHzJB5BIBeB7FtIgBBBFBClBBnKBECHBBBECjBBECbBBECHBBBECPBzBBECd",
    "CfBQQwCCGDmTCRB6FlCDLHSNTOSONBDpFzCHFCcBBBFgCK-bHXoHpBRIwB+NCKmB6eBjBDKeBCLFlBCDjBEBGBCDBF",
    "aGaCwICGCgBCGCIBBBBBBB-CvBBHBBDDBHDECGENFDBHuDBNBQNfDBEBCKBBDFGBBBBBBEBLCEFFEBRjBnZuBwyBfH",
    "GEDCMgBBBFBCyBHBQXJHBHBHBHBHBHBHBHqCBvOBvBCiGlBB4CRaBas7neBdCoBCnIDQKCUpBQ-CqCYgGCCBBBIVQB",
    "DBEBX9uBOsB4BGDBBCL8KXZ9HpB8BqBjBXDBIuELHDMGCGCGJHBHB0BGtD9e3KMXErBeyIHMFyBcDbBlLSaCCwBiBM",
    "uDFBhEeB6G6fC-DGCGCGCDdBMB6BTBCBPCOcB1DfCvBlI9DrBpBaBN+FgBK+CeBEIBFkB4ESeBEeBEiBIuBMLBPBHB",
    "CBLBPBHBCDuBMxJJWKIYGBkBBJfCGCBBmBBCDBCXKXJ-bCTBCKWK6gCyBGCaCBPEBDB9kB9D9dBIB87wBKWKTNSoDj",
    "CxBtBNtBNeBgB8JX0HkBGCQD1B9KBIWkBSoBV7XMvBzBCCBNnBaBZ6eB9BCBIdBDBMqBOEVBBBdBSBZTC5BHBBBEBP",
    "BKHpBgBICCCWBHBCBFDBSBMF+KBBCBBgBBBZBBBmBvBSEUD+qBUCBByFpBjBEeBqBUB1BlBNBhKmBuDaC-ICBCIBCB",
    "YPBBB4CIChBQBBB8BKiBHBVBLoBTBSjChGbB-JBfBRBrB+qDHBCBgBVBZGBCBaBOBhKTPBBNBcB2DBpC08gDpDReGm",
    "sCbDPqbBRGZ12DFhSzvG+cxBzRH-RpCR+SqBQE-VFTqNnBtGaCaElCFBcCNaCCBB2aTlDFNDJHKg1FvCBhCBCCBCCC",
    "EBMBBBHBbCBECIBHB8BEBFBBDHBuKCZBZB-BZB-BZB-BZB-BZBIuzB-GGfI4BsEnBKHQBbK+SmBeP8eH+CBpPHBEBC",
    "BPBfG1BeCHBufBEB7BCBBCBBKBEBBBBGBEBBBBBBDBCBBCBBBBBBBBBBCBBCEBHBEBEBBBKBRFDBFBRuT6G6G6"]),
  (["cr"],
   ["NB"]),
  (["doublequote", "dq"],
   ["cBB"]),
  (["extend"],
   ["aYqDtIHhInBBBBCBCBBiCLqBVQBfDHCGCCBEdBB+71CL0BJJBYEBJBDBFlBD1BJkBYBbBwBDBSBHKC9DyBBBHCCCDJ",
    "BKC6BCDyBBBFECCDDB+CDBLDyBBBIBDBDUCWGBDyBBBHCCCDHDKC+B1BFDDBEJBiBFxBBBHBDBEHCLC9DyBBBHBDBE",
    "HCLCPBMExBCBHBDBEJBKC9DgCBEGBBBISC3BBCHMIcDBCJLHjCC7BBBBBECrBUBCFLBeBJBeDUXEEDBDCHDENMBBKE",
    "5VDs9E8D9C+CaCaBJBnBDBBvDCcBBwDMEM1GFzBKB9CBqB-rBFpBRgBJMD+NyBOqBUyEDBVEBGBCDgGaCmQBdGbB45",
    "CDnEBaDaBkRGjDCuo9EBKaBCqCCqIBDBEBXFEBtCCsBS6SNBgBIZNmBEpBOeBBdCOMBICnBDsBBBDCCFCBBjBFFCmH",
    "IBCqzTBbXQQQoLC3SBcHBvEFguBDBCFEiBDEBfFC3REbCF3JCpCEgCLrBE0DDvBPjBBCCKEnBLHB3BDeBOQCmBBMDq",
    "BOIEBC2CMGBCB3EMVExBCBHCCCDJBKCCHDFdCJBBCBBEBFBBOCsCSXBrCUlHHCJ7CsCRkDNfDPaIPvHGBCCEBBBCnE",
    "HCHDB8KiBHBEIBJLoBQvMIBIsCWBO0DGDBBCBHBBcCFBCBF1KEJCBBqBHDFXBfhFBGPigLSaoCF1BHyaBBBxBHErCB",
    "LClfTCbtEoBCX4QFDGIICH+EuED13BxBEsBIBOBWFBPqkBHBRCHBCBFeDBaFHxLB3BE2PE4HCaXHnDHqvCFabdYaDa",
    "EqH"]),
  (["extendnumlet", "ex"],
   ["5CBp4HBPCTB4oxBCYDpHB"]),
  (["format", "fo"],
   ["nFBolBBrpEB55BC6FrBFBKpuxBBzHDubNQadcBEpgFIgulYB"]),
  (["hebrewletter", "hl"],
   ["qoB7EEkj3BBBKBNBFBBBCBCBK"]),
  (["katakana", "ka"],
   ["rbMFfDCD1CBEqHQqGpBByCoatByBscmBEBHBCBB5IDsBBOE"]),
  (["lf"],
   ["KB"]),
  (["midletter", "ml"],
   ["0BB2DBpWBxOBuEBsrGBlpxBBbCBeGB"]),
  (["midnum", "mn"],
   ["mBBOBc6BkQBcEC4CBlMBlcGBloxBBDB1BBDBxFBOB"]),
  (["midnumlet", "mb"],
   ["oBBj5HCKBnrxBBuFBGB"]),
  (["newline", "nl"],
   ["LCyDBc3HC"]),
  (["numeric", "nu"],
   ["qBKgoBG0CKBBrDBSKgGKgGCqCBdEKwDKwDKwDKwDKwDKwDKwDKwDKwDKaDKwDKgCKwIKgCKg0BKgBKmJKaELfFKGKw",
    "FKwCKgEKGKgocBKgVKgBKgGKWKwCKwMKwyUKgmBKgeCKGK2YKnCBPBcBK2BKqEKwIKwKKwDKwLKgDKGUmCKgNKgDKw",
    "UKwCKwHKgCKgNKwoQKgjCKwCKgEKwQKw1XKuwCsBakCKgNKwPKxHKv6KwuEK"]),
  (["regionalindicator", "ri"],
   ["gp2D6"]),
  (["singlequote", "sq"],
   ["hBB"]),
  (["wsegspace"],
   ["aBB5sFB5lCHBDuCBa3DB"]),
  (["zwj"],
   ["naIB"])]

/-- The classes that decide where sentences end, packed, under their names. -/
def sentenceBreakData : List (List String × List String) := [
  (["aterm", "at"],
   ["oBBv5HBnrxBB1FB"]),
  (["close", "cl"],
   ["cBBEDrBBBB9BBBnBBPB4tDE30BC1lCIZCKCwBCOCzTE9CqbBGHOpCC-KtMW5BEaBCcaBOOCCKYBSIlNKCIBD4itBCx",
    "GC8QCCQGjFCrBBBB9BBBBCBCsy3BD"]),
  (["cr"],
   ["NB"]),
  (["extend", "ex"],
   ["aYqDtIHhInBBBBCBCBBiCLqBVQBfDHCGCCBEdBB+71CL0BJJBYEBJBDBFlBD1BJkBYBbBwBDBSBHKC9DyBBBHCCCDJ",
    "BKC6BCDyBBBFECCDDB+CDBLDyBBBIBDBDUCWGBDyBBBHCCCDHDKC+B1BFDDBEJBiBFxBBBHBDBEHCLC9DyBBBHBDBE",
    "HCLCPBMExBCBHBDBEJBKC9DgCBEGBBBISC3BBCHMIcDBCJLHjCC7BBBBBECrBUBCFLBeBJBeDUXEEDBDCHDENMBBKE",
    "5VDs9E8D9C+CaCaBJBnBDBBvDCcBBwDMEM1GFzBKB9CBqB-rBFpBRgBJMD+NyBOqBUyEDBVEBGBCDgGaCmQCcGbB45",
    "CDnEBaDaBkRGjDCuo9EBKaBCqCCqIBDBEBXFEBtCCsBS6SNBgBIZNmBEpBOeBBdCOMBICnBDsBBBDCCFCBBjBFFCmH",
    "IBCqzTBbXQQQoLC3SBcHBvEFguBDBCFEiBDEBfFC3REbCF3JCpCEgCLrBE0DDvBPjBBCCKEnBLHB3BDeBOQCmBBMDq",
    "BOIEBC2CMGBCB3EMVExBCBHCCCDJBKCCHDFdCJBBCBBEBFBBOCsCSXBrCUlHHCJ7CsCRkDNfDPaIPvHGBCCEBBBCnE",
    "HCHDB8KiBHBEIBJLoBQvMIBIsCWBO0DGDBBCBHBBcCFBCBF1KEJCBBqBHDFXBfhFBGPigLSaoCF1BHyaBBBxBHErCB",
    "LClfTCbtEoBCX4QFDGIICH+EuED13BxBEsBIBOBWFBPqkBHBRCHBCBFeDBaFHxLB3BE2PE4HCaXHnDHvwfYaDaEqH"]),
  (["format", "fo"],
   ["nFBolBBsHB4hEB25BBCC6FrBFBKpuxBBzHDubNQadcBEpgFIgulYB"]),
  (["lf"],
   ["KB"]),
  (["lower", "lo"],
   ["bD6pBBKBEBeBYBIBBBBBBBBBBBBBBBBBBBBBBBBBBBBBBBBBBBBBBBBBBBBBBBBBBBBBBBCBBBBBBBBBBBBBBBCBBB",
    "BBBBBBBBBBBBBBBBBBBBBBBBBBBBBBBBBBBBBBBBBBBCBBBBDCBBBCBDCEBCBDDCBCBBBBBCBBCBBCBDBBBCCCDGBC",
    "BCBBBBBBBBBBBBBBBBCBBBBBBBBBBBBBBBBBCCBBBDBBBBBBBBBBBBBBBBBBBBBBBBBBBBBBBBBBBBBBBBBBBBBBBB",
    "BBBBBBBBBBHCBCCBBEBBBBBBBBfCBeBHC+FmEBBBDBCESB7dBBCDDBBBBBBBBBBBBBBBBBBBBBBBFBBCBCCtBqBBBB",
    "BBBBBBBBBBBBBBBBBBBBBBBBBBBBBBBJBBBBBBBBBBBBBBBBBBBBBBBBBBBBBBBBBBBBBBBBBBBBBBBBBBBBBCBBBB",
    "BBBBBBBBCBBBBBBBBBBBBBBBBBBBBBBBBBBBBBBBBBBBBBBBBBBBBBBBBBBBBBBBBBBBBBBBBBBBBBBBBBBBBBBBBB",
    "BBBBBBBBBBBBBBBqBjBt1CB1XGceCJBBvDaGbCBBBBBBBBBBBBBBBBBBBBBBBBBBBBBBBBBBBBBBBBBBBBBBBBBBBB",
    "BBBBBBBBBBBBBBBBBBBBBBBBBBBBBBBBBBBBBBBBBBBBBBBBBBBBBBBBBBBBBBBBBBBBBBBBBBBBBBBBBBBBBBBBBB",
    "BBBBBBJBBBBBBBBBBBBBBBBBBBBBBBBBBBBBBBBBBBBBBBBBBBBBBBBBBBBBBBBBBBBBBBBBBBBBBBBBBBBBBBBBBB",
    "BBBBBBBBBBBBBBJIGKIIIIGKIIIIOCIIIIIIFBCGBDDBCIECCIIKDBCzDBNBQNnDBDCDB7BEBEBCCIEEBbBQEBl66g",
    "0BqBBBDCBBBBBBEBBCBIDBBBBBBBBBBBBBBBBBBBBBBBBBBBBBBBBBBBBBBBBBBBBBBBBBBBBBBBBBBBBBBBBBBBBB",
    "BBBBBBBBBBBBBBBBBBBBBBBBBBBBBCHBBBEBMgBBBFBti+BBBBBBBBBBBBBBBBBBBBBBBBBBBBBBBBBBBBBBBBBBBB",
    "BTBBBBBBBBBBBBBBBBBBBBBBBBBBDfEBBBBBBBBBBBBDBBBBBBBBBBBBBBBBBBBBBBBBBBBBBBBBBBBBBBBBBBBBBB",
    "BBBBBBBBBBBBBBBKBBBBCBBBBBBBBBEBBBCBBDBBBBBBBBBBBBBBBBBBBBFBFBBBBBBBBBBBBBBBEBBBCBDBBBBBBB",
    "BBBBWDBBBDvZlBBOGqCa0THMFjbB6ngBiBiEeB1ELBPBHBCdOBCDBkBBJfiBtB3DW0zCaBamVaB0mZ66HBS666EBBB",
    "HBL6666666666666666688ZBG6ZBG6ZBG6ZBG6ZBGBBuzBKBUGGfI4BufCcB"]),
  (["numeric", "nu"],
   ["qBKgoBG0CKBCqDBSKgGKgGCqCBdEKwDKwDKwDKwDKwDKwDKwDKwDKwDKaDKwDKgCKwIKgCKg0BKgBKmJKaELfFKGKw",
    "FKwCKgEKGKgocBKgVKgBKgGKWKwCKwMKwyUKgmBKgeCKGK2YKnCBPBcBK2BKqEKwIKwKKwDKwLKgDKGUmCKgNKgDKw",
    "UKwCKwHKgCKgNKwoQKgjCKwCKgEKwQKw1XKuwCsBakCKgNKwPKxHKv6KwuEK"]),
  (["oletter", "le"],
   ["1NBEEqGBeBHGM6BBBfEBePBwD7EFmBlBdBCBdDBBPCHCKDCBQBB+9zCLBYbBJCEBFWEBJBDBXZHLFYBGRkB0BwBDBS",
    "BHKPQEICCCWBHBBDEDBQBNCBDOCKBIGECCWBHBCBCBC-EBBTDQJBDBWBHBCBFDBSBPCXBLICCCWBHBCBFDB+CBDPBR",
    "BBGDDBEDCBBBCDCDDDMWBuBIBDBXBQDB6DCBCC+BEIBDBXBKBFDB-CBCPCRJBDBjBCBQBFDIDYGFSDYBJBBCH0BqBB",
    "CMH0BCBBBFBYBBBKBCJBCFBBVEaBB5BIBeB7FtDlBUBQGEEDBDCHDENMBbClBCmKBECHBBBECjBBECbBBECHBBBECP",
    "BzBBECdCfBQrDmTCRB6FlCDLHSNTOSONBDPuBdBBEBdCzCHFCcBBBFgCK-rB+CFLmBE6wBXJvBsCB3CpBRIwB+NCKm",
    "B6eBjBDKeBSlBCDjBEBGBCDB0bBEhCDCEh3CyBHBQXJHBHBHBHBHBHBHBHqCBvODZJHFCFEwCGDB0CBEFlBB4CRaBq",
    "BQaQaoGaCnuVdCoBCnIDQKCcCBQBaBqChBJiDBGBhDBDHBDBEBX9uBOsB4BGDBBCL8KXZ9HpB8BQFBKKFBjBXDBIUX",
    "DBDsBBBDCCFCBBBYDCLHDMGCGCGJHBHrEdB9e3KMXErBeiIoLCkDdCBBKBNBFBBBCBCBmDbBlLSaCCwBiBMuDFBhEj",
    "DyBC-DGCGCGCDdBMB6BTBCBPCOcB1DfCvBlI9DrBpBaBN+FgBK+CeBEIBF0DoCcDiBIuB2CuBMxJJWKIZC3DGCBBmB",
    "BCDBCXKXJ-bCTBCKWK6gCyBGCaCBPEBDB9kB9D9dBIB87wBKWKTNSoDjCxFeBgBG-BqIkBGCQD1B9KBIWkBSoBV7XM",
    "vBzBCCBNnBaBZ6eB9BCBIdBDBMqBOEVBBBdBSBZTC5BHBBBEBPBKHpBgBICCCWBHBCBFDBSBMF+KBBCBBgBBBZBBBm",
    "BvBSEUD+qBUCBByFpBjBEeBqBUB1BlBNBhC7fBHzFmBtGICBCIBCBYPBBB4CIChBQBBB8BKiBHBVBLoBTBSjChGbB-",
    "JBfBRBrB+qDHBCBgBVBZGBCBaBOBhKTPBBNBcB2DBpC08gDpDReGmsCbDPqbBRGZ12DFhSzvG+cxBzRH-RpCR+SqBQ",
    "E-VFTqNnBtMlCFBcCNaCCBB8y5FIwgBjBKhxIEBHBCBdJPB9DCBOEImMeiClDFNDJHKqtIBvPnBKHQBbK+SmBeP8eH",
    "+CBpPHBEBCBPBfGgEBufBEB7BCBBCBBKBEBBBBGBEBBBBBBDBCBBCBBBBBBBBBBCBBCEBHBEBEBBBKBRFDBFBRekEa",
    "xjBaB0bEG4GCcuFOrjHPoTcnC4QcpBl0EFadE"]),
  (["scontinue", "sc"],
   ["mBCMCc6B4OBoFCkPBjaEBFBkaCCm5DBoqtBCBC8C9CCCCBKBiFCMCiCB"]),
  (["sep", "se"],
   ["fEBc3HC"]),
  (["sp"],
   ["JBBCTB5DB5oFB5lCLeBBpBBa3DB"]),
  (["sterm", "st"],
   ["bBB9BjkBBtEDuFBlBDwHB3BBBBDCfJCexBCwYBECfYBgGC3ECnBBFB0JCcLEcFCKCCC9D1FCbCC29CJDpfDDsJBNBW",
    "CnNB2h9BoICdHBDB4LCwCC5CByECtEDqECzHBgrUBCC5BCjFB9BbCBuxCC3hBFmBE3FCvDE5DDbECGBQCyCCBCmDBk",
    "JCvDCvLCFPjDCzHDfQBBB1HCxCCeNCuVCkCCjzSCfEBbCCLBjRCiJBgqTBipHB"]),
  (["upper", "up"],
   ["bC6fDXBHbBBBBBBBBBBBBBBBBBBBBBBBBBBBBBBBBBBBBBBBBBBBBBBBBBBBBBBBBCBBBBBBBBBBBBBBBCBBBBBBBB",
    "BBBBBBBBBBBBBBBBBBBBBBBBBBBBBBBBBBBBBBCBBBBDCBBBCBDCEBCBDDCBCBBBBBCBBCBBCBDBBBCDBHCBCBCBBB",
    "BBBBBBBBBBBBBCBBBBBBBBBBBBBBBBBCCBBBDBBBBBBBBBBBBBBBBBBBBBBBBBBBBBBBBBBBBBBBBBBBBBBBBBBBBB",
    "BBBBBHCBCCBBEBBBBBBBBbJBBBDBIBGBBDBBBCBRBJdBBCDDBBBBBBBBBBBBBBBBBBBBBBBFBCBBCCtBqBBBBBBBBB",
    "BBBBBBBBBBBBBBBBBBBBBBBBBJBBBBBBBBBBBBBBBBBBBBBBBBBBBBBBBBBBBBBBBBBBBBBBBBBBBBBBCBBBBBBBBB",
    "BBBCBBBBBBBBBBBBBBBBBBBBBBBBBBBBBBBBBBBBBBBBBBBBBBBBBBBBBBBBBBBBBBBBBBBBBBBBBBBBBBBBBBBBBB",
    "BBBBBBBBBCgBj0CgBBBFBsWwCteCBwLBBBBBBBBBBBBBBBBBBBBBBBBBBBBBBBBBBBBBBBBBBBBBBBBBBBBBBBBBBB",
    "BBBBBBBBBBBBBBBBBBBBBBBBBBBBBBBBBBBBBBBBBBBBBBBBBBBBBBBBBBBBBBBBBBBBBBBBBBBBBBBBBBBBBBBBBB",
    "JBBBBBBBBBBBBBBBBBBBBBBBBBBBBBBBBBBBBBBBBBBBBBBBBBBBBBBBBBBBBBBBBBBBBBBBBBBBBBBBBBBBBBBBBB",
    "BBBBBBBBJIIGKIIIIGLBBBBBBBIIYIIIIIIFLFLEMFLFfIBEBDDCDCBDFGBBBBBBECEKCFB6QTBsZ6qzBqBqBBBDCB",
    "BBBBBEBBCBIDBBBBBBBBBBBBBBBBBBBBBBBBBBBBBBBBBBBBBBBBBBBBBBBBBBBBBBBBBBBBBBBBBBBBBBBBBBBBBB",
    "BBBBBBBBBBBBBBBBBBBBIBBBEBnk+BBBBBBBBBBBBBBBBBBBBBBBBBBBBBBBBBBBBBBBBBBBBBTBBBBBBBBBBBBBBB",
    "BBBBBBBBBBBBhEBBBBBBBBBBBBBDBBBBBBBBBBBBBBBBBBBBBBBBBBBBBBBBBBBBBBBBBBBBBBBBBBBBBBBBBBBBBK",
    "BBBBCBBBBBBBBEBBBCBBBDBBBBBBBBBBBBBBBBBBBBFBFBBBBBBBBBBBBBBBEBBBCDBFBBBBBBBYBlzV6fgBiBiEeB",
    "2ELBPBHBCkxBtB3EW0zCaBamVaBanZ666666BBCCBCCCEBI666CBECIBH7CBEBFBBDH766666666666+ZbBZbBZbBZ",
    "bBZbBBvjEcBoaC6G6G6"])]

end FixGrader.Unicode
