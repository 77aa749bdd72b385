import FixGrader.Unicode.CaseRuns
import FixGrader.Unicode.RangeTable

namespace FixGrader.Unicode

def lowerRuns : List CaseRun := packedRuns [
  "aGXBabaEYHBabaEiBYCbaaEsBDCbaaEHICbaaERXCbaaEoBBBh25DBDCbaaEIBBsgaEBCCbaaEEBBogaEBBBbaaECCBnga",
  "ECBBbaaEDBBpcaEBBBkgaEBBBlgaEBBBbaaECBBngaEBBBpgaECBBtgaEBBBrgaEBBBbaaEEBBtgaEBBBvgaECBBwgaEBD",
  "CbaaEGBB0gaEBBBbaaECBB0gaEDBBbaaECBB0gaEBBBbaaECCBzgaECCCbaaEEBB1gaEBBBbaaEEBBbaaEIBBcaaEBBBba",
  "aECBBcaaEBBBbaaECBBcaaEBJCbaaETJCbaaETBBcaaEBCCbaaEEBB525DBBBi45DBUCbaaEiBBB415DCJCbaaEYBBlrkE",
  "BBBbaaECBB305DBBBirkEDBBbaaECBB3z5DBBBfcaEBBBhcaEBFCbaaEkJCCbaaEGBBbaaEJBBudaEHBBgbaECDBfbaEEB",
  "BacaECCB5baEDRBabaESJBabaEmBBBiaaEJMCbaaE8BBe45DDBBbaaECBBz55DBBBbaaEDDB415DDQBqcaEQaBBabaEqCR",
  "CbaaEkB7CbaaEwBBBpaaEBHCbaaEPqBCbaaEbDgBBqbaEp1CgBBadhEhBBBadhEGBBadhEtWqCBq4fFqCGBiaaEzeCBBba",
  "aEHlBBac3DnBDBac3DdKlCCbaaE4EBBbsyDCqBCbaaEiDIBy55DQGBy55DQIBy55DQIBy55DQGBy55DRECy55DPIBy55Da",
  "BIBy55DQIBy55DQIBy55DQCBy55DCCBw35DCBBx55DMEBk35DEBBx55DMCBy55DCCB225DOCBy55DCCBq25DCBBz55DMCB",
  "a25DCCBc25DCBBx55DkJBBdvyDEBBb0xDBBB03xDHBB2aaEoBQBqaaEdBBBbaaEtZ6B0aaEk0BqBBqbaEaDBBbaaECBBjq",
  "vDBBB0i2DBBBzqvDDDCbaaEGBBepvDBBBdqvDBBBbpvDBBBcpvDCBBbaaEDBBbaaEJCBbovDCsBCbaaElDCCbaaEHBBbaa",
  "Eok+XCbaaEaCOCbaaEcFHCbaaEQ-CbaaEhCCCbaaEEBB2p3CBFCbaaENBBbaaECBBywwCDCCbaaEGKCbaaEUBB2vwCBBBr",
  "vwCBBBvvwCBBB5vwCBBB2vwCCBBoxwCBBBwwwCBBBlxwCBBBa3aEBICbaaEQBBq45DBBB3vwCBBBio3CBCCbaaEEBBzuwC",
  "BICbaaEQBB5nwCZBBbaaEmzV6BabaE5gBiBBibaEqFeBBibaEaGTChbaEBFChbaEMHChbaEQDChbaEIBBhbaElxBtBBaca",
  "EqGWBabaEq0CaBBabaEanVaBBabaEaDZB1aaEat+cBBcbaE"]

def upperRuns : List CaseRun := packedRuns [
  "vFBBhxaElBXBa55DYHBa55DHBBzdaECYC555DqBBByy5DCDC555DHIC555DRXC555DpBDC555DFBBuw5DBBBdgaEDCC555",
  "DFBB555DEBB555DGBB555DDBBbdaEEBB555DBBBdfaEBBBbsjFDBBceaEDDC555DHBB555DFBB555DDBB555DECC555DFB",
  "B555DEBB555DCBBybaEGBB555DBBB455DCBB555DBBB455DCBB555DBBB455DCIC555DPBBr35DCJC555DTBB555DBBB45",
  "5DCBB555DEUC555DkBJC555DZBB555DDCB5rkEDBB555DFFC555DJBB5qkEBBB2qkEBBB4qkEBBBoz5DBBBsz5DCCBtz5D",
  "DBBwz5DCBBvz5DBBBpkjFEBBtz5DBBBlkjFCBBrz5DBBBhljFBBBijjFBBBekjFCBBpz5DBBBnz5DBBBekjFBBBxpkEBBB",
  "bkjFDBBnz5DCBB3pkEBBBlz5DDBBkz5DIBBhpkEDBBgz5DCBBdkjFBBBgz5DEBBkjjFBBBgz5DBBB135DBCBhz5DCBBz35",
  "DGBBfz5DLBBvijFBBBsijFhFBBucaEmBCC555DGBB555DEDBceaErBBB045DBDB145DERBa55DRBBb55DBJBa55DJBBa45",
  "DBCBb45DDBBc45DBBBh45DEBBr45DBBBk45DBBBy55DCMC555DXBBk35DBBBq35DBBBhaaEBBBm25DCBBa35DDBB555DDB",
  "B555DvBaBBa55DaBQBq35DRRC555DkB7C555DxBHC555DNBBr55DCqBC555DqEgBBq45Dp1ClBBa4cEnBDBa4cE1XGBy55",
  "DieCBBs2zDBBBt2zDBBB22zDBCB42zDCBB32zDBBBe3zDBBB14zDBBBcocFCBB555DpHBBeqcFEBBgxdERBByrcFtDlCC5",
  "55D0EBBf45DGqBC555D5CIBiaaEQGBiaaEQIBiaaEQIBiaaEQGBiaaERECiaaEPIBiaaEQCBkcaECEBwcaEECBedaECCBa",
  "eaECCBqdaECCB4daEuBCBiaaEOBB14yDSCBiaaEQCBiaaEFBBhaaEjLBBe55DcBQBq55DUBB555Dm66Bg55Da1BqBBq45D",
  "rBBB555DEBBvovDBBByovDCDC555DLBB555DDBB555DLsBC555DlDCC555DHBB555DNgBBa3yDhBBBa3yDGBBa3yDui+XC",
  "555DaCOC555DcFHC555DQ-C555DhCCC555DFFC555DNBB555DFCC555DDBBqbaEDKC555D+IC555DTCC555DFIC555DjBB",
  "B555D36BBad5D9qCBqb0Cr4U6Ba55DhhBiBBy45DqFeBBy45D5FTCz45DBFCz45DMHCz45DQDCz45DIBBz45DeyBtBBa45",
  "DqFWBa55Dq0CaBBa55DanVaBBa55D1CZBf55Dht+cBB445D"]

def lowerExpansions : List (Nat × List Nat) := [
  (0x130, [0x69, 0x307])]

def upperExpansions : List (Nat × List Nat) := [
  (0xDF, [0x53, 0x53]), (0x149, [0x2BC, 0x4E]), (0x1F0, [0x4A, 0x30C]),
  (0x390, [0x399, 0x308, 0x301]), (0x3B0, [0x3A5, 0x308, 0x301]), (0x587, [0x535, 0x552]),
  (0x1E96, [0x48, 0x331]), (0x1E97, [0x54, 0x308]), (0x1E98, [0x57, 0x30A]),
  (0x1E99, [0x59, 0x30A]), (0x1E9A, [0x41, 0x2BE]), (0x1F50, [0x3A5, 0x313]),
  (0x1F52, [0x3A5, 0x313, 0x300]), (0x1F54, [0x3A5, 0x313, 0x301]),
  (0x1F56, [0x3A5, 0x313, 0x342]), (0x1F80, [0x1F08, 0x399]), (0x1F81, [0x1F09, 0x399]),
  (0x1F82, [0x1F0A, 0x399]), (0x1F83, [0x1F0B, 0x399]), (0x1F84, [0x1F0C, 0x399]),
  (0x1F85, [0x1F0D, 0x399]), (0x1F86, [0x1F0E, 0x399]), (0x1F87, [0x1F0F, 0x399]),
  (0x1F88, [0x1F08, 0x399]), (0x1F89, [0x1F09, 0x399]), (0x1F8A, [0x1F0A, 0x399]),
  (0x1F8B, [0x1F0B, 0x399]), (0x1F8C, [0x1F0C, 0x399]), (0x1F8D, [0x1F0D, 0x399]),
  (0x1F8E, [0x1F0E, 0x399]), (0x1F8F, [0x1F0F, 0x399]), (0x1F90, [0x1F28, 0x399]),
  (0x1F91, [0x1F29, 0x399]), (0x1F92, [0x1F2A, 0x399]), (0x1F93, [0x1F2B, 0x399]),
  (0x1F94, [0x1F2C, 0x399]), (0x1F95, [0x1F2D, 0x399]), (0x1F96, [0x1F2E, 0x399]),
  (0x1F97, [0x1F2F, 0x399]), (0x1F98, [0x1F28, 0x399]), (0x1F99, [0x1F29, 0x399]),
  (0x1F9A, [0x1F2A, 0x399]), (0x1F9B, [0x1F2B, 0x399]), (0x1F9C, [0x1F2C, 0x399]),
  (0x1F9D, [0x1F2D, 0x399]), (0x1F9E, [0x1F2E, 0x399]), (0x1F9F, [0x1F2F, 0x399]),
  (0x1FA0, [0x1F68, 0x399]), (0x1FA1, [0x1F69, 0x399]), (0x1FA2, [0x1F6A, 0x399]),
  (0x1FA3, [0x1F6B, 0x399]), (0x1FA4, [0x1F6C, 0x399]), (0x1FA5, [0x1F6D, 0x399]),
  (0x1FA6, [0x1F6E, 0x399]), (0x1FA7, [0x1F6F, 0x399]), (0x1FA8, [0x1F68, 0x399]),
  (0x1FA9, [0x1F69, 0x399]), (0x1FAA, [0x1F6A, 0x399]), (0x1FAB, [0x1F6B, 0x399]),
  (0x1FAC, [0x1F6C, 0x399]), (0x1FAD, [0x1F6D, 0x399]), (0x1FAE, [0x1F6E, 0x399]),
  (0x1FAF, [0x1F6F, 0x399]), (0x1FB2, [0x1FBA, 0x399]), (0x1FB3, [0x391, 0x399]),
  (0x1FB4, [0x386, 0x399]), (0x1FB6, [0x391, 0x342]), (0x1FB7, [0x391, 0x342, 0x399]),
  (0x1FBC, [0x391, 0x399]), (0x1FC2, [0x1FCA, 0x399]), (0x1FC3, [0x397, 0x399]),
  (0x1FC4, [0x389, 0x399]), (0x1FC6, [0x397, 0x342]), (0x1FC7, [0x397, 0x342, 0x399]),
  (0x1FCC, [0x397, 0x399]), (0x1FD2, [0x399, 0x308, 0x300]), (0x1FD3, [0x399, 0x308, 0x301]),
  (0x1FD6, [0x399, 0x342]), (0x1FD7, [0x399, 0x308, 0x342]), (0x1FE2, [0x3A5, 0x308, 0x300]),
  (0x1FE3, [0x3A5, 0x308, 0x301]), (0x1FE4, [0x3A1, 0x313]), (0x1FE6, [0x3A5, 0x342]),
  (0x1FE7, [0x3A5, 0x308, 0x342]), (0x1FF2, [0x1FFA, 0x399]), (0x1FF3, [0x3A9, 0x399]),
  (0x1FF4, [0x38F, 0x399]), (0x1FF6, [0x3A9, 0x342]), (0x1FF7, [0x3A9, 0x342, 0x399]),
  (0x1FFC, [0x3A9, 0x399]), (0xFB00, [0x46, 0x46]), (0xFB01, [0x46, 0x49]),
  (0xFB02, [0x46, 0x4C]), (0xFB03, [0x46, 0x46, 0x49]), (0xFB04, [0x46, 0x46, 0x4C]),
  (0xFB05, [0x53, 0x54]), (0xFB06, [0x53, 0x54]), (0xFB13, [0x544, 0x546]),
  (0xFB14, [0x544, 0x535]), (0xFB15, [0x544, 0x53B]), (0xFB16, [0x54E, 0x546]),
  (0xFB17, [0x544, 0x53D])]

def casedTable : RangeTable := .ofPacked [
  "bC6G6pBBKBEBFXB-BdGBEEqGCdBHC+FaDBkBECCCEBBGBBDBBBUBtCBlEIgFBgBJjBxyCgBBBFBClBBEaVwCCGceCLFlBC",
  "DaCaGaCwICGCgBCGCIBBBBBBB-CvBBHBBDDBHDECGENFDBHuDBNBQNfDBEBCKBBDFGBBBBBBEBGEBCEFFEBRaBDCrZuBwy",
  "BfHGEDCMgBBBFBsi+oBS+eEgDDEBnCUGBDvZlBBOGqCa0THMFjaB6G6ffBqCaDeBEeBuDLBPBHBCBLBPBHBCdOBCDBkBBJ",
  "fgBtBNtB3CWKW0yCaCalVaCaBZCZmjZvCBhCBCCBCCCEBMBBBHBbCBECIBHB8BEBFBBDHBuKCZBZB-BZB-BZB-BZB-BZBI",
  "uzBKBUGGfI4BseCeCm5B6G6G6"]

def caseIgnorableTable : RangeTable := .ofPacked [
  "hBBGBLBdBBBBhCBEBBBEBCCxPaGECEBJCBB1HHpGBFBrBnBBBBCBCBBmBBLGKLBBdBBKVQBfDIBKBEbBBBB+71CL0BLEBC",
  "BYYlBDmBBHCFJjB0BxBBBBEIEBDHKCNBPB0BBEEIBUC6BCCzBBECECCDDB+CDBLCzBBEFBCEBUCWGBB0BBCBBEIBHCLC+B",
  "3BBMBsBBDBxBBBDFDBEHCLC9B0BBCBGBFCUC8CzBCEEIBUC9BiCBHDBB0CBCHLJcDBCJJBBHjCC7BBBBBxBOBFBCFLBeBJ",
  "BgDEBGBCCCZCEDQENBCCGBPB4CBaTDs9D9C+C+CaCCBHIBCLDBFBnBFtBBbCCcBBwDDECJBGD1GCCB0BBBHBBBBCIGKCBh",
  "BBIoBCMUEqBBBFBBFBiBJMCaBECCBDyBBBCDBBD0BICCaCGsCDBNBHEBGBDCsB5BNBcBfD3NBBDLDNDNDNCMFICKBCBCFr",
  "BFBKBBNBQNtBbBl2CCrDD3DBPBaDaBpBBvOBeBEDFFB3CG3CDwy7BchBGoIBcDEBKBB8EqCCOcBoCBXDgDEDCIBDBEBZCF",
  "BxEC6SNBgBIZLoBDqBBCECCRBVCcCGCCCCMBIBdBBLBtBBBDCCFCBB7BOCFCBBeDFJDzDBCBEBqzTBtER3RQDBMQcBBCBj",
  "FBHBGBLBdBBBBpBBnBCdCBVDbQBcHBvEFfaBGBkBBJgSDBCFEiBDEBfFC3REgBB6FBB1JCYBuBGgCLrBE1DBwBPjBBCCKD",
  "rBECCCBEBKBsBDeBFBI4BBMCuBJKECB5CDCBBCGBCB3EBDIVCzBCDBfBHDFgCGNBBBBBOCvCICDBBXBuCGBBECBCoHEGCB",
  "C7CvCICBBCkDBBBCGBBfDBBBCEBFdIJBCaICBBEBqEECCEBaBKiBGCEIBJGCDoBNBCgGBBDBBjGHBGBBsCWCHBCBC0DGDB",
  "BCBHBBiCCDBBBbCBzICLCuBFFBBBXBvgFRGPigLMDDaoCF1BHJE2PDiBCcPB5BRaCCBCNC25PEBHBC4eDCBE2sEoBCXaRD",
  "JQCH+EuED13BxBEsBIBOBWFBPqkBHBRCHBCBFF4BbBBaFOqLB3BE1PF4HCtHBCBHCFBJBqOHnDIpvCFbadYB+aDaEqH"]

def lowerOf (c : Char) : List Char :=
  if c.toNat < 0x80 then [c.toLower]
  else match lowerExpansions.lookup c.toNat with
    | some cs => cs.map Char.ofNat
    | none => [Char.ofNat ((image? lowerRuns c.toNat).getD c.toNat)]

def upperOf (c : Char) : List Char :=
  if c.toNat < 0x80 then [c.toUpper]
  else match upperExpansions.lookup c.toNat with
    | some cs => cs.map Char.ofNat
    | none => [Char.ofNat ((image? upperRuns c.toNat).getD c.toNat)]

/-- A cased character stands next in `s`, case-ignorable ones skipped. -/
def casedNext (s : List Char) : Bool :=
  match s.dropWhile caseIgnorableTable.contains with
  | [] => false
  | c :: _ => casedTable.contains c

/-- Lower case of `s`, which `before` precedes, the nearest character first. A capital sigma that
ends a word has its own lower-case form. -/
def lowerFrom (before s : List Char) : List Char :=
  match s with
  | [] => []
  | c :: rest =>
    let low := if c == '\u03a3' then
        [if casedNext before && !casedNext rest then '\u03c2' else '\u03c3']
      else lowerOf c
    low ++ lowerFrom (c :: before) rest

def toLower (s : String) : String := String.ofList (lowerFrom [] s.toList)

def toUpper (s : String) : String := String.ofList (s.toList.flatMap upperOf)

end FixGrader.Unicode
