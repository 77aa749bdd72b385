import FixGrader.Unicode.RangeTable

namespace FixGrader.Unicode

/-- The word characters. -/
def wordTable : RangeTable := .ofPacked [
  "qBKH6EBB6pBBKBEBFXB-BkOEMOFHBBBRvDBCCEBBGBBDBBBUBtCBlEBnFBgBCBGjBInBBBBCBCBBI7EE9LFkCEgDBICKBT",
  "CBQ1BCfDOwBEBCBCoBS8ELFYBGIlCBbECKBTBICCCWBHBBDECJCCCEIBECBFCMKBBBCDBGECCWBHBCBCBCCBBFECCDDBHE",
  "BBHQLDBJBDBWBHBCBFCKBDBDCBPECKJHBDBICCCWBHBCBFCJCCCDHDECBFCKBBQCBGDDBEDCBBBCDCDDDMEFDDBECBGBOK",
  "QNBDBXBQCJBDBEHCBDCBCECKQEBIBDBXBKBFCJBDBEHCGCBECKBDMNBDBtBBDBFFEHFCKKGBDBSDYBJBBCHDBEGBBBIGKC",
  "CN0BFPBKhBCBBBFBYBBBXCFBBBHBKCEaBBXCGKLBBBBBEKBeBEUBSBeBJBzBkCGoCCgBBBFBClBBnKBECHBBBECjBBECbB",
  "BECHBBBECPBzBBECdCCDaBQQwCCGDmTCRB6FlCDLHWJWLUMNBDBCMuCDBECCKbBDBLGzCHlBFgCK-BMEMKiBCFLmBE6GKg",
  "B8E5BB9CLGKNBI-rBnCDKRJMuDMyBIKDrBCLFlBCDQDBhBFwQCGCgBCGCIBBBBBBB-CvBBHBBDDBHDECGENFDBHPCrBCTB",
  "8BNBQNtBbBRBEBCKBBDFGBBBBBBEBLCEFFEBRjBnZuBwyBfHGJMgBBBFBCyBHBPYJHBHBHBHBHBHBHBHBaBpBBvODZPBFC",
  "FEwCCCCDB0CBEFlBB4CRaBqBQaQaoGaCnuVdCoBCnID8UtBBKBtDfBJChDCdCCCBBBIVwBEBTuBMgCKKGYDBBrBCeBM9Db",
  "COLG-BxBJOCKGXDjCYDCQCFKGCGCGJHBHBlBBOG1DBCCKGe3KMXErBeiIoLCkDgBHMFFMBNBFBBBCBCBmDbBlLSaCCwBiB",
  "MEQQQDCYDaBFBhETKH6EBB6LzCDGCGCGCDdBMB6BTBCBPCOcB1DfCvBiEBcE9DrBPB-aBN+FlBF+CeBEIBFkB4ECKGeBEe",
  "BEiBIuBMLBPBHBCBLBPBHBCDuBMxJJWKIYGBkBBJfCGCBBmBBCDBCXKXJ-bCTBCKWK6gCyBGCaCEBCFIBDB9CDEBaB9D9d",
  "BIB+ZwBKWKTNSoDjCxBtBNtBNiBIKGgBDFBX0HkBBCDCQDxBbBKBIbB-WkBV7XJhC-QJ2BHBNZHKGvBBKEEIeBCBJfCEEB",
  "NBBdBSBfBGE4BHBBBEBPBKH1BFKGEBICCCWBHBCBFBKCCCDCBGBFHCHDFLKBBCBBgBBKBBCBBEBINC9lCFKEE+gCBBIKgF",
  "wBCJXGcBbCDBLKgBzBHKGU87CPEKGHzF1BfDkCVICBCIBCB+BCCJMKgCICoBCIBC75BIBIkCDBSjChGbBPKGJBnBBJPKY+",
  "CWBOjCHBCBmBDBBCBJIKGGBCBfBBCBGHKwJXJRBjBDFNLvCBpC08gDpDReGmsCbDPqbBQWK12DFhSzvG0BgwBzRH-BKGpC",
  "BKG+CFLxBJEMKJVFTqNnBDKgGaCaElCEzBHRaCCBCLCOy5FIwgBjBKhxIEBHBCBdJPB9DCBOEImMeiClDFNDJHKDCrcEKg",
  "QoBCX4QFDGIICH+EuED1NvCBhCBCCBCCCEBMBBBHBbCBECIBHB8BEBFBBDHBuKCZBZB-BZB-BZB-BZB-BZBICsBaQxBEsB",
  "IBOBWFBPqcB-GGvGHBRCHBCBFF4BbBBqDnBDOCKEBbK-R0BwOkBwGlBfPHBEBCBPBfGLHjBmCEKgfBEB7BCBBCBBKBEBBB",
  "BGBEBBBBBBDBCBBCBBBBBBBBBBCBBCEBHBEBEBBBKBRFDBFBRuT6G6G6gtCKgaBaxjBaB0bEG4GCcuFOrjHPoTcnC4QcpB",
  "l0EFadEqkxVqH"]

def digitTable : RangeTable := .ofPacked [
  "qBKgrBKgEKgGK2MKwDKwDKwDKwDKwDKwDKwDKwDKwDKaDKwDKgCKwIKgCKg0BKgBKmJKaEKgFKGKwFKwCKgEKGKgocBKgV",
  "KgBKgGKWKwCKwMKwyUKgmBKgeCKGK2YKaEK2BKqEKwIKwKKwDKwLKgDKGUmCKgNKgDKwUKwCKwHKgCKgNKwoQKgjCKwCKg",
  "EKwQKw1XKuwCsBakCKgNKwPKxHKv6KwuEK"]

def isAscii (c : Char) : Bool := c.toNat < 0x80

def isAsciiWord (c : Char) : Bool := c.isAlphanum || c == '_'

def isWord (c : Char) : Bool :=
  if isAscii c then isAsciiWord c else wordTable.contains c

def isDigit (c : Char) : Bool :=
  if isAscii c then c.isDigit else digitTable.contains c

end FixGrader.Unicode
