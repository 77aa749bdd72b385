import FixGrader.Unicode.Word

namespace FixGrader.Unicode

def alphabeticTable : RangeTable := .ofPacked [
  "bC6G6pBBKBEBFXB-BkOEMOFHBBBwCB9SBCCEBBGBBDBBBUBtCBlEIgFBgBCBGjBhBOBBBCBCBBI7EE9LFyBBHOgDBIEIED",
  "KDCBQqBNfDYbBJCEBFYCTTZHLFYBHHBIkBKMDHGmCBQBDEPNTBICCCWBHBBDEDICCCCBBIBECBFMCKBEDBGECCWBHBCBCB",
  "CEFECCCEBHEBBRGLDBJBDBWBHBCBFDJBDBCDBPEVEEDBICCCWBHBCBFDICCCCJCECBFNBQCBGDDBEDCBBBCDCDDDMEFDDB",
  "DDBGBiBNBDBXBQDIBDBDICBDBCCE8EBIBDBXBKBFDIBDBDICFDBENDMNBDBjBCIBDBDBBFEHFWGBDBSDYBJBBCHIGBBBIS",
  "CN0BFHGBtBCBBBFBYBBBTBDCFBBGBOEaBB5BIBeBETEQBeBdCxBBBCFQaCKECgBBBFBClBBnKBECHBBBECjBBECbBBECHB",
  "BBECPBzBBECdCfBQQwCCGDmTCRB6FlCDLHULVMUMNBDBCMuBCTOBEBdCzCHlBFgCK-BMEJX+CFLmBE6wB8E5BCUsBBXCLD",
  "rBuBBPBItBkBCEKmBBLOxBWDKeBCLFlBCDjBEBGBCDBFaGTcBLwICGCgBCGCIBBBBBBB-CvBBHBBDDBHDECGENFDBHuDBN",
  "BQNfDBEBCKBBDFGBBBBBBEBLCEFFEBRjBnZuBwyBfHGEDCMgBBBFBCyBHBQXJHBHBHBHBHBHBHBHBaBpBBvODZJHFCFEwC",
  "GDB0CBEFlBB4CRaBqBQaQaoGaCnuVdCoBCnIDQKCUpBFIDrDhBJChDCsCUVBbBYuBMeCBBmBGDBBDKbBFdBN9DtBBMPBQQ",
  "KFBxBJOSXDfCBBBBYDCQCELGCGCGJHBHBlBBOG1DVe3KMXErBeiIoLCkDgBHMFFMBNBFBBBCBCBmDbBlLSaCCwBiBMuDFB",
  "hEeB6G6LzCDGCGCGCDdBMB6BTBCBPCOcB1DfCvBlI9DrBpBaBN+FlBF+CeBEIBFkB4ESeBEeBEiBIuBMLBPBHBCBLBPBHB",
  "CDuBMxJJWKIYGBkBBJfCGCBBmBBCDBCXKXJ-bCTBCKWK6G6gByBGCaCEBCFIBDB9kB9D9dBIB87wBKWKTNSoDjCxBtBNtB",
  "NiBcB8DBFX0HkBBCDCQGsBDD9KBIWkBSoBV7XJgClBFKzBJBNZXtBREIdBDBJaCBEJCKBBBdBSBcBCBGE4BHBBBEBPBKHz",
  "BXEBICCCWBHBCBFDICCCCDBGBFH8KBBCBBgBBKBBCBBEBCDBBBmBcCBDBEUD+cCCCBByFwBCHZGcB5BBBDB1BwBCBhC7CO",
  "VHzFzBhDaC-ICBCIBCB+BCCCCE3CICoBCGBBBC7tBCKRiCFBSjChDIyCbB-JBnBBHBBrB+CWBOjCHBCBmBDBBCBDBBCCYG",
  "BCBfBBCBEBBXmBeIXJRBjBDDpDBpC08gDpDReGmsCbDPqbBRGZ12DFhSzvGpBrwBzRH-RpCR+SqBQE-VFTqNnBtGaCaBZC",
  "ZmBlCEzBHRaCCBBMHJwgHjBaBbDtD3pIEBHBCBdJPB9DCBOEImMeiClDFNDJHKEBb1FvCBhCBCCBCCCEBMBBBHBbCBECIB",
  "HB8BEBFBBDHBuKCZBZB-BZB-BZB-BZB-BZBIuzB-GGvGHBRCHBCBFF4BbBBqDnBKHQBbK+SmBeP8eH+CBpG-BWICaHHBEB",
  "CBPBfG1BeCDBDBufBEB7BCBBCBBKBEBBBBGBEBBBBBBDBCBBCBBBBBBBBBBCBBCEBHBEBEBBBKBRFDBFBRuT6G6G6wtDax",
  "jBaB4iECouFCrjHPoTcnC4QcpBl0EFkjI"]

/-- The characters of the number categories. -/
def numericTable : RangeTable := .ofPacked [
  "qBKyDCFBCDbnBKgEKgGK2MKwDKEGmDKwDKwDKCGoDNtDKIHhDKiDHHTnDKaDKwDKgCUmIKgCKpWUr7DpHKGKWKmJKaELfF",
  "KGKwFKwCKgEKGKwaBBDGGKgGtBCFwW2BoCWwT+jlBBjYBZJODxKEkEK+IBPaBKhBPa18K2FKaKG0EKgBKgGKWKwCKwMKwy",
  "UKnPnBMzBRCvK7eBE9BIBgEFkGKo9IZHhBJlCFWGaFCCQCoBaCJuBC+DlCFiDIYIjBHkKGqBKGKwI-4EKkBEqDHgE+aEK2",
  "BKqEKHU1HKwKKwDKwLKgDKGUmCMeNT3CKwUKwC9dHKgCKwBKgLKgDVlbBpDbgPKgjCKwCKgEKBHoQKgIX3KDzhXKgoBUMU",
  "mDZvcBsBakCKgNKwPKxHKmWJaEKxY1BBDBEmCnBBPc+NdxCK"]

def isAlphabetic (c : Char) : Bool :=
  if isAscii c then c.isAlpha else alphabeticTable.contains c

def isAlphanumeric (c : Char) : Bool :=
  if isAscii c then c.isAlphanum else alphabeticTable.contains c || numericTable.contains c

end FixGrader.Unicode
