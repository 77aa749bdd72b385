import FixGrader.Unicode.RangeTable

namespace FixGrader.Unicode

/-- The code points of each general category, packed, under its names. -/
def categoryData : List (List String × List String) := [
  (["cc", "control", "cntrl"],
   ["AaB5CbB"]),
  (["cf", "format"],
   ["nFBskBGWBaGBrBBaMCqCBlzDB25BF6FrBFBKpuxBBzHDbgEBPBc1IQadcBEpgFIgulYB+aD"]),
  (["co", "privateuse"],
   ["aayBaiGayb8455BC455B"]),
  (["l", "letter"],
   ["bC6G6pBBKBEBFXB-BkOEMOFHBBBbEFBCCEBBGBBDBBBUBtCBlEIgFBgBCBGjBhC7EEnBlBdBCBdDBBPCHCKDCBQBB+",
    "9zCLBYbBJCEBFWEBJBDBXZHLFYBGRkB0BwBDBSBHKPQEICCCWBHBBDEDBQBNCBDOCKBIGECCWBHBCBCBC-EBBTDQJB",
    "DBWBHBCBFDBSBPCXBLICCCWBHBCBFDB+CBDPBRBBGDDBEDCBBBCDCDDDMWBuBIBDBXBQDB6DCBCC+BEIBDBXBKBFDB",
    "-CBCPCRJBDBjBCBQBFDIDYGFSDYBJBBCH0BqBBCMH0BCBBBFBYBBBKBCJBCFBBVEaBB5BIBeB7FtDlBUBQGEEDBDCH",
    "DENMBRgBBBFBClBBnKBECHBBBECjBBECbBBECHBBBECPBzBBECdCfBQQwCCGDmTCRB6FlCGIHSNTOSONBDPuBdBBEB",
    "dCzCHFCcBBBFgCK-rB+CFLmBE6wBXJvBsCB3CpBRIwB+NCKmB6eBjBDKeBCLFlBCDjBEBGBCDBFaGaCwICGCgBCGCI",
    "BBBBBBB-CvBBHBBDDBHDECGENFDBHuDBNBQNfDBEBCKBBDFGBBBBBBEBLCEFFEBuBC1tCfHGEDCMgBBBFBCyBHBQXJ",
    "HBHBHBHBHBHBHBHqCBvOCkBFFCEwCGDB0CBEFlBB4CRaBqBQaQaoGaCnuVdCoBCnIDQKCUpBQ-CgCrBJChDCdCCCBB",
    "BIVQBDBEBX9uBOsB4BGDBBCL8KXZ9HpB8BQFBKKFBjBXDBIUXDBDsBBBDCCFCBBBYDCLHDMGCGCGJHBHBlBBOGtD9e",
    "3KMXErBeiIoLCkDgBHMFFBBKBNBFBBBCBCBmDbBlLSaCCwBiBMuDFBhEeB6G6LzCDGCGCGCDdBMB6BTBCBPCOcB1Df",
    "M9DrBpBaBNUBIGgBK+CeBEIqB4ESeBEeBEiBIuBMLBPBHBCBLBPBHBCDuBMxJJWKIYGBkBBJfCGCBBmBBCDBCXKXJ-",
    "bCTBCKWK6gCyBGCaCBPEBDB9kB9D9dBIB87wBKWKTNSoDjCxBtBNtBNeBgB8JX0HkBGCQD1B9KBIWkBSoBV7XMvBzB",
    "CCBNnBaBZ6eB9BCBIdBDBMqBOEVBBBdBSBZTC5BHBBBEBPBKHpBgBICCCWBHBCBFDBSBMF+KBBCBBgBBBZBBBmBvBS",
    "EUD+qBUCBByFpBjBEeBqBUB1BlBNBhC7fBHzFmBuDaC-ICBCIBCBYPBBB4CIChBQBBB8BKiBHBVBLoBTBSjChGbB-J",
    "BfBRBrB+qDHBCBgBVBZGBCBaBOBhKTPBBNBcB2DBpC08gHeGmsCbDPqbBRGZ12DFhSzvG+cxBzRH-RpCR+SqBQE-VF",
    "TqNnBtGaCaElCFBcCNaCCBB8y5FIwgBjBKhxIEBHBCBdJPB9DCBOEImMeiClDFNDJHKg1FvCBhCBCCBCCCEBMBBBHB",
    "bCBECIBHB8BEBFBBDHBuKCZBZB-BZB-BZB-BZB-BZBIuzB-GGfI4BsEnBKHQBbK+SmBeP8eH+CBpPHBEBCBPBfG1Be",
    "CHBufBEB7BCBBCBBKBEBBBBGBEBBBBBBDBCBBCBBBBBBBBBBCBBCEBHBEBEBBBKBRFDBFBRekEaxjBaB0bEG4GCcuF",
    "OrjHPoTcnC4QcpBl0EFadE"]),
  (["lc", "casedletter"],
   ["bC6G60BBKXB-BdGBEEqGB7aGECCDDBBGBBDBBBUBtCBlEIgFBgBJjBxyCgBBBFBClBCDaVwCCGceCLFlBCDaCmB5BN",
    "BcBfDwICGCgBCGCIBBBBBBB-CvBBHBBDDBHDECGENFDBHfIBEBCKBBDFGBBBBBBEBGEBCEFFEBuBC1tC2DChDGEDCM",
    "gBBBFBsi+oBS8gEoCBXDEB4BCCBBBIYCDBvZlBFJHqCa0THMFjaB6G6ffBqCaDeBEeBuDLBPBHBCBLBPBHBCdwBtBN",
    "tB3CWKW0yCaCalVaCamZvCBhCBCCBCCCEBMBBBHBbCBECIBHB8BEBFBBDHBuKCZBZB-BZB-BZB-BZB-BZBIuzBKBUG",
    "GvoCeC"]),
  (["ll", "lowercaseletter"],
   ["bD60BBjBYBIBBBBBBBBBBBBBBBBBBBBBBBBBBBBBBBBBBBBBBBBBBBBBBBBBBBBBBBCBBBBBBBBBBBBBBBCBBBBBBB",
    "BBBBBBBBBBBBBBBBBBBBBBBBBBBBBBBBBBBBBBBCBBBBDCBBBCBDCEBCBDDCBCBBBBBCBBCBBCBDBBBCCCDGBCBCBB",
    "BBBBBBBBBBBBBBCBBBBBBBBBBBBBBBBBCCBBBDBBBBBBBBBBBBBBBBBBBBBBBBBBBBBBBBBBBBBBBBBBBBBBBBBBBB",
    "BBBBBBHCBCCBBEBBBBBBBBfCB7bGBBBDBDDSB7dBBCDDBBBBBBBBBBBBBBBBBBBBBBBFBBCBCCtBqBBBBBBBBBBBBB",
    "BBBBBBBBBBBBBBBBBBBBBBJBBBBBBBBBBBBBBBBBBBBBBBBBBBBBBBBBBBBBBBBBBBBBBBBBBBBBCBBBBBBBBBBBBC",
    "BBBBBBBBBBBBBBBBBBBBBBBBBBBBBBBBBBBBBBBBBBBBBBBBBBBBBBBBBBBBBBBBBBBBBBBBBBBBBBBBBBBBBBBBBB",
    "BBBBBBqBjBh0ClBCDyXGceCJBBvDmB5BNBcBgDBBBBBBBBBBBBBBBBBBBBBBBBBBBBBBBBBBBBBBBBBBBBBBBBBBBB",
    "BBBBBBBBBBBBBBBBBBBBBBBBBBBBBBBBBBBBBBBBBBBBBBBBBBBBBBBBBBBBBBBBBBBBBBBBBBBBBBBBBBBBBBBBBB",
    "BBBBBBJBBBBBBBBBBBBBBBBBBBBBBBBBBBBBBBBBBBBBBBBBBBBBBBBBBBBBBBBBBBBBBBBBBBBBBBBBBBBBBBBBBB",
    "BBBBBBBBBBBBBBJIGKIIIIGKIIIIOCIIIIIIFBCGBDDBCIECCIIKDBCsIBDCDB7BEBEBCCIEEBvBBlvCqBBBDCBBBB",
    "BBEBBCBGFBBBBBBBBBBBBBBBBBBBBBBBBBBBBBBBBBBBBBBBBBBBBBBBBBBBBBBBBBBBBBBBBBBBBBBBBBBBBBBBBB",
    "BBBBBBBBBBBBBBBBBCHBBBEBMgBBBFBti+BBBBBBBBBBBBBBBBBBBBBBBBBBBBBBBBBBBBBBBBBBBBBTBBBBBBBBBB",
    "BBBBBBBBBBBBBBBBBhEBBBBBBBBBBBBDBBBBBBBBBBBBBBBBBBBBBBBBBBBBBBBBBBBBBBBBBBBBBBBBBBBBBBBBBB",
    "BBBBBIBBBBCBBBBBBBBBEBBBCBBDBBBBBBBBBBBBBBBBBBBBFBFBBBBBBBBBBBBBBBEBBBCBDBBBBBBBBBBB6BDBvZ",
    "lBFJHqCa0THMFjbB6ngBiBiEeB1ELBPBHBCdyBtB3DW0zCaBamVaB0mZ66HBS666EBBBHBL6666666666666666688",
    "ZBG6ZBG6ZBG6ZBG6ZBGBBuzBKBUGGxpCcB"]),
  (["lm", "modifierletter"],
   ["qVSEMOFHBBBfEBFB4OBgHBeFCnICEB-BJBDBaFBhFBugBB5DBvRB0wBBlDBdTBqOGoF5BNBcBfBrVBNBQN54CCrHB5",
    "FBvOBlBFFBbDC3CDwy7BchBGoIBsDB8CzDJqCBXBjDDDCvOBWBjEBmDBVChDEJBgaVBnBCa5BGBkBBJtmBBaBBqoXE",
    "2PDiBCgRNaCCBBmaQEBHBCrbM4BjGHn9B5cBB"]),
  (["lo", "otherletter"],
   ["kFBPBaIBEEqGB1Z7EEnBaBBKdBCBdDBBYCKDCBQBB+9zCLBYbBVWkBZHLFYBGRjB1BwBDBSBHKQPEICCCWBHBBDEDB",
    "QBNCBDOCKBIGECCWBHBCBCBC-EBBTDQJBDBWBHBCBFDBSBPCXBLICCCWBHBCBFDB+CBDPBRBBGDDBEDCBBBCDCDDDM",
    "WBuBIBDBXBQDB6DCBCC+BEIBDBXBKBFDB-CBCPCRJBDBjBCBQBFDIDYGFSDYBJBBCH0BqBBCMG1BCBBBFBYBBBKBCJ",
    "BCFXEaBB5BIBeB7FtDlBUBQGEEDBDCHDENMBrDjKBECHBBBECjBBECbBBECHBBBECPBzBBECdCfBQrDmTCRB6FlCGI",
    "HSNTOSONBDPuBiBBdCdBBvBHFCcBBBFgCK-rB+CFLmBE6wBXJvBqFpBRIwB+NCKmB6eBjBDK+rDEBGBCDB0bBEx5Cy",
    "BYXJHBHBHBHBHBHBHBHhRBvBBEwCIBB0CEBFlBB4CRaBqBQaQaoGaCvqUBxdBdCiBImIEQKCcCBrBgCjFBhDBDHBDB",
    "EBX9uBOsB4BGDBBCL8KXZ9HpBnBFCJKFBjBXDBIUQBGDBDsBBBDCCFCBBBYCDLHBOGCGCGJHBHrEdB9e3KMXErBeiI",
    "oLCkDdCBBKBNBFBBBCBCBmDbBlLSaCCwBiBMuDFBhEjDKBnBC-DGCGCGCDdBMB6BTBCBPCOcB1DfM9DrBpBaBNUBIG",
    "gBK+CeBEIaEoCcDiBIuB2CuBMxJJWKIyEGCBBmBBCDBCXKXJ-bCTBCKWK6gCyBGCaCBPEBDB9kB9D9dBIB87wBKWKT",
    "NSoDjCxFeBgBEBBqJkBGCQD1B9KBIWkBSoBV7XMvBzBCCBNnBaBZ6eB9BCBIdBDBMqBOEVBBBdBSBZTC5BHBBBEBPB",
    "KHpBgBICCCWBHBCBFDBSBMF+KBBCBBgBBBZBBBmBvBSEUD+qBUCBByFpBjBEeBqBUB1BlBNBhC7fBHzFmBtGICBCIB",
    "CBYPBBB4CIChBQBBB8BKiBHBVBLoBTBSjChGbB-JBfBRBrB+qDHBCBgBVBZGBCBaBOBhKTPBBNBcB2DBpC08gHeGms",
    "CbDPqbBRGZ12DFhSzvG+cxBzRH-RpCR+SqBtBVFTtNiBvMlCFBpFy5FIwgBjBKxxIdJPB9DCBOEImMeiClDFNDJHKq",
    "tIBvPnBbBBbK+SmBeP7fH+CBpPHBEBCBPBfG1jBEB7BCBBCBBKBEBBBBGBEBBBBBBDBCBBCBBBBBBBBBBCBBCEBHBE",
    "BEBBBKBRFDBFBRekEaxjBaB0bEG4GCcuFOrjHPoTcnC4QcpBl0EFadE"]),
  (["lt", "titlecaseletter"],
   ["fOBCBCBgBBvmHIIIIIMBPBpBB"]),
  (["lu", "uppercaseletter"],
   ["bC6fDXBHbBBBBBBBBBBBBBBBBBBBBBBBBBBBBBBBBBBBBBBBBBBBBBBBBBBBBBBBBCBBBBBBBBBBBBBBBCBBBBBBBB",
    "BBBBBBBBBBBBBBBBBBBBBBBBBBBBBBBBBBBBBBCBBBBDCBBBCBDCEBCBDDCBCBBBBBCBBCBBCBDBBBCDBHBCBCBCBB",
    "BBBBBBBBBBBBBCBBBBBBBBBBBBBBBBBCBCBBDBBBBBBBBBBBBBBBBBBBBBBBBBBBBBBBBBBBBBBBBBBBBBBBBBBBBB",
    "BBBBBHCBCCBBEBBBBBBBBbJBBBDBIBGBBDBBBCBRBJdBBCDDBBBBBBBBBBBBBBBBBBBBBBBFBCBBCCtBqBBBBBBBBB",
    "BBBBBBBBBBBBBBBBBBBBBBBBBJBBBBBBBBBBBBBBBBBBBBBBBBBBBBBBBBBBBBBBBBBBBBBBBBBBBBBBCBBBBBBBBB",
    "BBBCBBBBBBBBBBBBBBBBBBBBBBBBBBBBBBBBBBBBBBBBBBBBBBBBBBBBBBBBBBBBBBBBBBBBBBBBBBBBBBBBBBBBBB",
    "BBBBBBBBBCgBj0CgBBBFBsWwCteCBGlBCDaKBBBBBBBBBBBBBBBBBBBBBBBBBBBBBBBBBBBBBBBBBBBBBBBBBBBBBB",
    "BBBBBBBBBBBBBBBBBBBBBBBBBBBBBBBBBBBBBBBBBBBBBBBBBBBBBBBBBBBBBBBBBBBBBBBBBBBBBBBBBBBBBBBBBB",
    "BBBBBJBBBBBBBBBBBBBBBBBBBBBBBBBBBBBBBBBBBBBBBBBBBBBBBBBBBBBBBBBBBBBBBBBBBBBBBBBBBBBBBBBBBB",
    "BBBBBBBBBBBBBJIIGKIIIIGLBBBBBBBIIiCEMEMEMFLEgIBEBDDCDCBDFGBBBBBBECEKCFB3BB2tCqBqBBBDCBBBBB",
    "BEBBCBIDBBBBBBBBBBBBBBBBBBBBBBBBBBBBBBBBBBBBBBBBBBBBBBBBBBBBBBBBBBBBBBBBBBBBBBBBBBBBBBBBBB",
    "BBBBBBBBBBBBBBBBIBBBEBnk+BBBBBBBBBBBBBBBBBBBBBBBBBBBBBBBBBBBBBBBBBBBBBTBBBBBBBBBBBBBBBBBBB",
    "BBBBBBBBhEBBBBBBBBBBBBBDBBBBBBBBBBBBBBBBBBBBBBBBBBBBBBBBBBBBBBBBBBBBBBBBBBBBBBBBBBBBBKBBBB",
    "CBBBBBBBBEBBBCBBBDBBBBBBBBBBBBBBBBBBBBFBFBBBBBBBBBBBBBBBEBBBCDBFBBBBBBBYBlzV6fgBiBiEeB2ELB",
    "PBHBCkxBtB3EW0zCaBamVaBanZ666666BBCCBCCCEBI666CBECIBH7CBEBFBBDH766666666666+ZbBZbBZbBZbBZb",
    "BBvjEcB"]),
  (["m", "mark", "combiningmark"],
   ["aYqDtIHhInBBBBCBCBBiCLqBVQBfDHCGCCBEdBB+71CL0BJJBYEBJBDBFlBD1BJkBYBbBwBDBSBHKC9DyBBBHCCCDJ",
    "BKC6BCDyBBBFECCDDB+CDBLDyBBBIBDBDUCWGBDyBBBHCCCDHDKC+B1BFDDBEJBiBFxBBBHBDBEHCLC9DyBBBHBDBE",
    "HCLCPBMExBCBHBDBEJBKC9DgCBEGBBBISC3BBCHMIcDBCJLHjCC7BBBBBECrBUBCFLBeBJBeDUXEEDBDCHDENMBBKE",
    "5VDs9E8D9C+CaCaBJBnBDBBvDCcBBwDMEM1GFzBKB9CBqB-rBFpBRgBJMD+NyBOqBUyEDBVEBGBCDgGaCqWbB45CDn",
    "EBaDaBkRGjDCuo9EBKaBCqCCqIBDBEBXFEBtCCsBS6SNBgBIZNmBEpBOeBBdCOMBICnBDsBBBDCCFCBBjBFFCmHIBC",
    "qzTBbXQQQn+BcHBvEFguBDBCFEiBDEBfFC3REbCF3JCpCEgCLrBE0DDvBPjBBCCKEnBLHB3BDeBOQCmBBMDqBOIEBC",
    "2CMGBCB3EMVExBCBHCCCDJBKCCHDFdCJBBCBBEBFBBOCsCSXBrCUlHHCJ7CsCRkDNfDPaIPvHGBCCEBBBCnEHCHDB8",
    "KiBHBEIBJLoBQvMIBIsCWBO0DGDBBCBHBBcCFBCBF1KEJCBBqBHDFXBfhFBGPigLSaoCF1BHyaBBBxBHErCBLClfTC",
    "btEoBCX4QFDGIICH+EuED13BxBEsBIBOBWFBPqkBHBRCHBCBFeDBaFHxLB3BE2PE4HCaXHnDHv3fYqH"]),
  (["mc", "spacingmark"],
   ["diCBxBBCDIEBCsBC0BDGCCCKBlBB0BDcCB0BDIBBCvBC0BBBBGCCCKBgDCBCDDBDKBjBD3BE3BC0BBBFCCBCJC8BOC",
    "0BDFDBDKBkBClCDGISCkKC5BBlFCEBGBCCZCKDCHVCCGCBKDytBB+BbEBHIBC0KECDECBGaHC0BBBBJBBCIGrEBqBB",
    "FBBFBC3BB+BECCB2BBCDBBDCqBIIClFBVBwzECt59CCByCCsBQoECpBBqBCECCDoDCCCYBnBBBBnDBCCFBnHCBCBCB",
    "BtaZBBB5DBnBDECtDBYC1BBqBDJCNB3CDDCBBkFD-C0BCBECCCDJBKCuCDHBCBBEBCBBfDDICDBkDDGBBECBnHDGEC",
    "BrDDICBBnDBBCGBhDBBCEBfIDJBxHGBCEBCBBBoEDIEEBuCB9C4BBxMBOBkDBHBCBvGFECBB4KCMBqBCICBBipQDer",
    "DxBiDCtlYCGG"]),
  (["me", "enclosingmark"],
   ["ieBCurFB4qBEBDlmbBD"]),
  (["mn", "nonspacingmark"],
   ["aYqDtIFjInBBBBCBCBBiCLqBVQBfDHCGCCBEdBB+71CL0BJJBYEBJBDBFlBD1BJkBYBaBxBBBBEIEBDHKC9B0BBEEI",
    "BUC6BCCzBBECECCDDB+CDBLCzBBEFBCEBUCWGBB0BBCBBEIBHCLC+B3BBMBsBBDBxBBBDFDBEHCLC9B0BBCBGBFCUC",
    "8CzBCEEIBUC9BiCBHDBB0CBCHMIcDBCJLHjCC7BBBBBxBOBFBCFLBeBJBgDEBGBCCCZCEDQENBCCGBPB5VDs9D9C+C",
    "+CaCCBHIBCLJBnBDBBvDCcBBwDDECJBGD1GCCB0BBBHBBBBCIGKCBqBOBQrBEqBBBFBBFBiBJMCaBECCBDyBBBCDBB",
    "D0BICCyEDBNBHEBGBDCgGaCqWNEBDM45CDnEBaDaBkRElDCuo9BEKaBCqCCqIBDBEBZCFBxEC6SNBgBIZLoBDqBBCE",
    "CChBBdCGCCCCMBIBpBBtBBBDCCFCBBkBCIBoHBCBEBqzTBbXQQQn+BcHBvEFguBDBCFEiBDEBfFC3REbCF3JCpCEgC",
    "LrBE1DBwBPjBBCCKDrBECCHB3BDeBFBI4BBMCuBJKECB5CDCBBCGBCB3EBDIVCzBCDBfBHDFgCGNBBBBBOCvCICDBB",
    "XBuCGBBECBCoHEGCBC7CvCICBBCkDBBBCGBBfDBBBCEBFdIJBCaICBBEBqEECCEBaBKiBGCEIBJGCDoBNBCwMHBGBB",
    "sCWCHBCBC0DGDBBCBHBBiCCDBBB1KCLCuBFFBBBXBfhFBGPigLMDDaoCF1BHyaBB5BErCByfTCbtEoBCXaRDRICH+E",
    "uED13BxBEsBIBOBWFBPqkBHBRCHBCBFeDBaFHxLB3BE2PE4HCaXHnDHv3fYqH"]),
  (["n", "number"],
   ["qBKyDCFBCDbnBKgEKgGK2MKwDKEGmDKwDKwDKCGoDNtDKIHhDKiDHHTnDKaDKwDKgCUmIKgCKpWUr7DpHKGKWKmJKa",
    "ELfFKGKwFKwCKgEKGKwaBBDGGKgGtBCFwW2BoCWwT+jlBBjYBZJODxKEkEK+IBPaBKhBPa18K2FKaKG0EKgBKgGKWK",
    "wCKwMKwyUKnPnBMzBRCvK7eBE9BIBgEFkGKo9IZHhBJlCFWGaFCCQCoBaCJuBC+DlCFiDIYIjBHkKGqBKGKwI-4EKk",
    "BEqDHgE+aEK2BKqEKHU1HKwKKwDKwLKgDKGUmCMeNT3CKwUKwC9dHKgCKgNKgDVlbBpDbgPKgjCKwCKgEKBHoQKgIX",
    "zsXKgoBUMUmDZvcBsBakCKgNKwPKxHKmWJaEKxY1BBDBEmCnBBPc+NdxCK"]),
  (["nd", "decimalnumber", "digit"],
   ["qBKgrBKgEKgGK2MKwDKwDKwDKwDKwDKwDKwDKwDKwDKaDKwDKgCKwIKgCKg0BKgBKmJKaEKgFKGKwFKwCKgEKGKgoc",
    "BKgVKgBKgGKWKwCKwMKwyUKgmBKgeCKGK2YKaEK2BKqEKwIKwKKwDKwLKgDKGUmCKgNKgDKwUKwCKwHKgCKgNKwoQK",
    "gjCKwCKgEKwQKw1XKuwCsBakCKgNKwPKxHKv6KwuEK"]),
  (["nl", "letternumber"],
   ["oxFDptCdBCE4tDBZJODlv9KqsWvBmOBIBgEFkbIpD"]),
  (["no", "othernumber"],
   ["sFCFBCDvjCGyLGyDDfEHzGHRJrNKvbBUtdBKaPBvuBBDGGKgGQjBBwW2BoCWwT+jlBBueBEkEK+IBPaBKhBPql9Grg",
    "WnBbCERCvK7eBEujBIZHhBJlCFWGaFCCQCoBaCJuBC+DlCFiDIYIjBHkKGaL-4EKkBEqDHgEU1LUfkBCoNJh7Tt6Vg",
    "2SH4YXjbZUMUmDZokFJb91BBDBEmCnBBPc+N"]),
  (["p", "punctuation", "punct"],
   ["bBDBGBEKCDC6DBB7BBBdBBFBDBKCDBDB4VBIBsOGjBCtBBBBCBCBmBCUCBCNBBDkCEgDBlBOjHDwBP-BfICKBmEByD",
    "BzDBgMBMBpLB0CBKCiFPBBfBEhCBkCFECpDGlFBeTJxEBnTBmBCoCDhCC3EDBDfBLzJCyGCaEHBGaFCKH8D2DE1BF4",
    "BCaCILB2ZYIUBNBM+COCzTE9C3bBOpCC-KtMW5BEaBC1XEBCqDBpEpBBaBCMdNDEKCMQBMBcDB0CBca9CnIDdDBKBt",
    "DG2LEwCCiBDBBrBCpBBbDNQC2DE4DCQCzHBskUCqGKWdBBOBBEBBCvEDBGBEKCDC6DBB7BBBBH0MD2UBqBB4MBhXBh",
    "GB-BqIJgBBqDHcCHzCErOB4JBhFFmBE3FHnDCBE4DEqBCpCEEBNBBDyCGlDBkJCBCsDFKCBBiDB0HXjDD8NmCBcED2",
    "HBiID1EB2CItCDBF3CKxGB5CFkBCfUCkCNpFBqdBF21CC1tOCfEBbCFIBiRDhJEhKB2fTBhpHFt1CB46C"]),
  (["pc", "connectorpunctuation"],
   ["5CB54HCTB4oxBCYDpHB"]),
  (["pd", "dashpunctuation"],
   ["nBB2kBBtBBbsDBfaBBjaCGbqDBCB-CEB8B4NBTBpDBqmtBCfBBKBjFBatDB4JB"]),
  (["pe", "closepunctuation"],
   ["jBBtBB-B3vDBBB40BBjnCBxBBPB0TBBB+B4bBBBBBBBBBBBBBBqCBaBBBBBBBBBBuMBBBBBBBBBBBBBBBBBBBBBaCB",
    "BBbBBfbBBBBBBBBmBBBBBBBBmNBBBBBBBBBDBBBBBBBCC4itBBzGB9BBBBBBBBBBBBBBBDBRBBBBBkFBtBB-BCBCB"]),
  (["pf", "finalpunctuation"],
   ["1FB30HBDB8BioDBBBEBCBPBDB"]),
  (["pi", "initialpunctuation"],
   ["lFBm1HBCCCBZBioDBBBEBCBPBDB"]),
  (["po", "otherpunctuation"],
   ["bBDBDCBBBBCKCDC7BeCBFBOCHB4VBIBsOGjBBwBBCBCBmBCUCBCNBBDkCEgDBlBOjHDwBP-BfICKBmEByDBzDBgMBM",
    "BpLB0CBKCiFPBBqDBkCFECpDGlFBeTJfYB2DDhCC3EDBDfBGBEzJCyGCaEHBGaFCKH8D2DE1BF4BCaCILBc6CIIIJC",
    "ECDDLBBBK0eDEBCqDBpECEDCBCJBCBBCCKFBKCEBBBNCDmNDzBB3FBca9CnIDdDBKBtDG2LEwCCiBDBBrBCpBBbDNQ",
    "C2DE4DCQCzHBerUHCBWBUCCEDDBEHDGBBCvEDBDCBBBBCKCDC7BeBBCC0MD2UBqBB4MBhXBhGB-BqIJgBBqDHcCHzC",
    "Ey9FmBE3FHnDCBE4DEqBCpCEEBNBBDyCGlDBkJCBCsDFKCBBiDB0HXjDD8NmCBcED2HBiID1EB2CItCDBF3CKxGB5C",
    "FkBCfUCkCNpFBqdBF21CC1tOCfEBbCFIBiRDhJEhKB2fTBhpHFt1CB46C"]),
  (["ps", "openpunctuation"],
   ["iBBsBB-B4vDBBB40BB4lCBDBgBBxBBPB0TBBB+B4bBBBBBBBBBBBBBBqCBaBBBBBBBBBBuMBBBBBBBBBBBBBBBBBBB",
    "BBaCBBBbBBfbBBBBBBBBZBSBBBBBBBmNBBBBBBBBBDBBBBBBBCBbjtBBxGB9BBBBBBBBBBBBBBBDBRBBBBBkFBsBB-",
    "BDBCB"]),
  (["s", "symbol"],
   ["eBBGBQD-BBB7BBBdBFBCCBBECBDB+B-BkOEMOFHBBBRvDBOCqDBlEBkIDwDDCBCCoGBKBTCxHBHCiEBjLCGCvHB4DB",
    "cEIeEBpGBjBBfGBbGDPBBDCGUBBBBBfEIBGBCFEfGCqXKtWBnLBeLB3EcBbLKJJacBBBDLDNDNDNCfCBNBhBDNDTbB",
    "5BCBEBCKBBDFGBBBBBBEBLCEFFEBB0BCEyLE9C5HWLrCoCWiTmBrBC-KtMW5BEaBCwLCaBBjDfHGfLCoB6BzCMwG6Q",
    "EBNCMBVCGC1CCtHCEKaBgBJBQ-L+IBPaBKhBPaKaoGaCquVxBzRXJChDC3EEKE3RDbHBOC33TBiER3LQ5DBmBEcDBB",
    "DCB0EBGBQD-BBB7BBBbEHBHNCzJJzBRCDBNDBpBnB0tBCpSBfWCpnCBveC9k0SEFBwkUBd1DqHQuN2EuD2BwHKhBC2",
    "BFDWCH+E3BVcCDB0FxCk7BZB-BZB-BZB-BZB-BZB2BaQxBEsBIBOBCiwBBpNBmnCBDB3DBbOCoImBEeDMPCPBPBfBX",
    "bFyB9NmBEJHCOG0Ey+ERDNDxDE5CGMEBPMEyBIKGiBI+CMEC4BuKMOCNDKFyBHPCLGJHtEB2C"]),
  (["sc", "currencysymbol"],
   ["eBB3DEjhBB1DBsPCsPCHBvHBhIBfSB1mCBegCbBx1bBBdoVBmDB0EB1GCDCw5HE4yqBBqnCB"]),
  (["sk", "modifiersymbol"],
   ["4CBBBhCBGBEBDBjQEMOFHBBBRvDBOCciBBuzFBBDLDNDNDNC2eECdt9XJChDCq+BOCgcUR17BBBcFBxa3BF"]),
  (["sm", "mathsymbol"],
   ["lBBQD3BBBBnBBEBfBB-B4XBpQD1rGBNBhBDNDlEBhBFGBeCFFCEBCBCBHB-CCBBB-mIaBC0CB+ZiBGvOBJBwBIpDBq",
    "KFC-KQaIdEW5BEaBCcIqBVCG24tBByZBBDeFBQD3BBBBdEBGEbnDCrjsBBZB-BZB-BZB-BZB-BZBmzFC"]),
  (["so", "othersymbol"],
   ["gFBCBEBBBr+BkIC5DCoGBKBTCxHBdQBvLBcEGBBeEBpGBjBBhMDPBBDCGUBBBBBfEIBGBCFEfGCqXKtWBsWB3EcBbL",
    "KJJdmBCBEBCKBBCGGBBBBBBEBLCOBBCBB0BCJFCEBCBCBHB-CCBBB-mIIEUCHCrCB+ZiBGiCWLrCoCWxFBJBwBIpDB",
    "yHmBmBaCaIaQqBVCGhBCaBBjDfHGfLCoB6BzCMwG6QEBNCMBVCGCqKCEKaBgBJBQ-L+IBPaBKhBPaKaoGaCquVxBb7",
    "EKCBB3RDgwUQ5DBnBDePBDBECNCzJJzBRCDBNDBpBnB0tBCpSBwdDBveCIERk0SEFBwkUBd1DqHQuN2EuD2BwHKhBC",
    "2BFDWCH+E3BVcCDB0FxCjfBaQxBEsBIBOBCiwBB20CBbEBrWmBEeDMPCPBPBfBXbFyB9NmBEJHCOG0E1HFyWERDNDx",
    "DE5CGMEBPMEyBIKGiBI+CMEC4BuKMOCNDKFyBHPCLGJHtEB2C"]),
  (["z", "separator"],
   ["aBB5DB5oFB5lCL9CFBpBBa3DB"]),
  (["zl", "lineseparator"],
   ["ibIB"]),
  (["zp", "paragraphseparator"],
   ["jbIB"]),
  (["zs", "spaceseparator"],
   ["aBB5DB5oFB5lCLeBBpBBa3DB"])]

def assignedData : List String := [
  "Ay7CGEHBBBUBnMBgBCsBCDBxBI7EGLoIB2BCfDO1BCrBCPB8CBBLF-BCFnHBICCCWBHBBDECJCCCEIBECBFCZCDBGECCWB",
  "HBCBCBCCBBFECCDDBHEBBHRKDBJBDBWBHBCBFCKBDBDCBPECMHHBDBICCCWBHBCBFCJCCCDHDECBFCSKCBGDDBEDCBBBCD",
  "CDDDMEFDDBECBGBOVFNBDBXBQCJBDBEHCBDCBCECKHWBDBXBKBFCJBDBEHCGCBECKBDMNBDBtBBDBGEQC6BDBSDYBJBBCH",
  "DBEGBBBIGKCDM0BE9fBCBBBFBYBBBXCFBBBHBKCEaBiCBeBEhBBeBBPBNfBgGBBFBCzLBECHBBBECjBBECbBBECHBBBECP",
  "BzBBECdCCaBD6GwCCGC3UDzCHWJYJUMNBDBCM4CCKGKG6GzCHlBFgCK-BMEMEBDkBCFLmBE6GLD4BCbCB9CLGKGOC-rBnC",
  "BgFI2BDPD4BFlBCLIlBFwQCGCgBCGCIBBBBBBB-CvBBPBOCGBTCDBJBfDBMC7BNDbBPbBPmEE0UWLVuyBCaBB3KFnBBBFB",
  "CyBHCOYJHBHBHBHBHBHBHBHB4DcB6BzCMwG6qCBwCChDFlBB4CBwCJqBBnt8DxBJ2KUyFIoGCCBBBIV1BDKGyBIgCIMGuD",
  "L+DoCBLEbBBxBJOCKChDY8KGCGCGJHBHB2BE4DCKGe3KMXErBeaCotGCkDgBHMFF6BFBBBCBCB3DQ3NCwBHBaBkBGtBBTB",
  "EEFBhECBB4FDGCGCGCDDHBHKFCMB6BTBCBPCOcB1DFDEnBDyCBNDBpBoBcE9DrBP8EeBJ+FlBF+BfBEOkB4ECKGeBEeBEi",
  "BIuBLMBPBHBCBLBPBHBCDuBMxJJWKIYGBkBBJfCGCBBmBBCDBCXBiCIJqBTBCFbBD7FBaCyBEUCsBBCFIBDB9CDEKHJHaC",
  "aBhBEMJwBD9C7F6HEMHqCjCxBtBNtBHoBIKGgBD9ICqG-BkBBDCCQDxBmBIkBW6gB8UXJoCEeBJeCKBCZHKGvBBSIhBJaD",
  "BULSBpB4BHBBBEBPBLG1BFKGEBICCCWBHBCBFBKCCCDCBGBFHCHDFLKBBCBBgBBKBBCBBEBKBCIC92CBF+iCIKgFwBCgBc",
  "BfCLKGNT0BGKGU87CPEXzF2BeDtCMICBCIBCB+BCCMJKgCICoBCL7iCItCNjCHKwFcBOKGJBnBBOK9DaBCWBOjCHBCBmBD",
  "BBCBJIKGGBCBfBBCBGHKwJZHRBjBD9vCBPsBN18gDpDBFLeGmsCdDNwcBK12DFhSzvG0BgwBzRH-BKErCBKG+CGKgCKKBH",
  "BVFTqN0BgG1CfDlCEzBHRaCFLCOy5FIwgBjBKhxIEBHBCBdJPB9DCBOEImMeiClDFNDJHKCI20D0HGuNmCoBCXJuD2BwHK",
  "hBCcGVgC0DUMUMxCJZhEvCBhCBCCBCCCEBMBBBHBbCBECIBHB8BEBFBBDHBuKCeJC4VPFBPqcB-GGvGHBRCHBCBFF4BbBB",
  "qDnBDOCKECaK-R0BFBqOkBwGlBEBaPHBEBCBPBfGCQjBmCEKECrYeCmC3BcGEB7BCBBCBBKBEBBBBGBEBBBBBBDBCBBCBB",
  "BBBBBBBBCBBCEBHBEBEBBBKBRFDBFBRuBCoImBEeDMPCPBPBfBKoFyB9NmBEJHCOG0Ey+ERDNDxDE5CGMEBPMEyBIKGiBI",
  "+CMEC4BuKMOCNDKFyBHPCLGJHtEBgDgaBaxjBaB0bEG4GCcuFOrjHPoTcnC4QcpBl0EFadErcxVB+aDaEqHqq5B455BC45",
  "5B"]

end FixGrader.Unicode
