import FixGrader.Unicode.CaseRuns

namespace FixGrader.Unicode

def foldingRuns : List CaseRun := packedRuns [
  "bC6BabaE5DXBabaEYHBabaEiBYCbaaEsBDCbaaEHICbaaERXCbaaEoBBBh25DBDCbaaEGBBux5DCBBsgaEBCCbaaEEBBog",
  "aEBBBbaaECCBngaECBBbaaEDBBpcaEBBBkgaEBBBlgaEBBBbaaECBBngaEBBBpgaECBBtgaEBBBrgaEBBBbaaEEBBtgaEB",
  "BBvgaECBBwgaEBDCbaaEGBB0gaEBBBbaaECBB0gaEDBBbaaECBB0gaEBBBbaaECCBzgaECCCbaaEEBB1gaEBBBbaaEEBBb",
  "aaEIBBcaaEBBBbaaECBBcaaEBBBbaaECBBcaaEBJCbaaETJCbaaETBBcaaEBCCbaaEEBB525DBBBi45DBUCbaaEiBBB415",
  "DCJCbaaEYBBlrkEBBBbaaECBB305DBBBirkEDBBbaaECBB3z5DBBBfcaEBBBhcaEBFCbaaEkJCCbaaEGBBbaaEJBBudaEH",
  "BBgbaECDBfbaEEBBacaECCB5baEDIBabaEIBBm35DBCBabaECBBzi5DBFBabaEGBB5aaEBIBabaEVBBm25DDBBzh5DHBB5",
  "55DMBBiaaEBBBc55DBBBh55DEBBr55DBBBk55DCMCbaaEYBBk45DBBBq45DDBBe45DBBBa45DCBBbaaECBBz55DBBBbaaE",
  "DDB415DDQBqcaEQaBBabaEqCRCbaaEkB7CbaaEwBBBpaaEBHCbaaEPqBCbaaEbDgBBqbaEp1CgBBadhEhBBBadhEGBBadh",
  "EtWqCBq4fFqCGBiaaEqeCBBs3zDBBBt3zDBBB23zDBCB43zDCBB33zDBBBe4zDBBB24zDCBBbaaEHlBBac3DnBDBac3DdK",
  "lCCbaaE1EBBg45DDBBbsyDCqBCbaaEiDIBy55DQGBy55DQIBy55DQIBy55DQGBy55DRECy55DPIBy55DaBIBy55DQIBy55",
  "DQIBy55DQCBy55DCCBw35DCBBx55DCBBh2yDKEBk35DEBBx55DHBB33yDFCBy55DCCB225DJBBn4yDFCBy55DCCBq25DCB",
  "Bz55DMCBa25DCCBc25DCBBx55DkJBBdvyDEBBb0xDBBB03xDHBB2aaEoBQBqaaEdBBBbaaEtZ6B0aaEk0BqBBqbaEaDBBb",
  "aaECBBjqvDBBB0i2DBBBzqvDDDCbaaEGBBepvDBBBdqvDBBBbpvDBBBcpvDCBBbaaEDBBbaaEJCBbovDCsBCbaaElDCCba",
  "aEHBBbaaEok+FCbaaEKBB4r3CBBB3r3CBRCbaaEuBOCbaaEcFHCbaaEQ-CbaaEhCCCbaaEEBB2p3CBFCbaaENBBbaaECBB",
  "ywwCDCCbaaEGKCbaaEUBB2vwCBBBrvwCBBBvvwCBBB5vwCBBB2vwCCBBoxwCBBBwwwCBBBlxwCBBBa3aEBICbaaEQBBq45",
  "DBBB3vwCBBBio3CBCCbaaEEBBzuwCBBBbaaEEBBbaaEGDCbaaEGBB5nwCZBBbaaEryUBB555D1aB6BabaE5gBiBBibaEqF",
  "eBBibaEaGTChbaEBFChbaEMHChbaEQDChbaEIBBhbaElxBtBBacaEqGWBabaEq0CaBBabaEanVaBBabaEaw+cBBcbaE"]

def asciiVariants (c : Char) : List Char :=
  if c.isAlpha then
    let others := match c.toLower with
      | 's' => ['\u017f']
      | 'k' => ['\u212a']
      | _ => []
    c.toLower :: c.toUpper :: others
  else [c]

def caseVariants (c : Char) : List Char :=
  if c.toNat < 0x80 then asciiVariants c
  else
    let base := (image? foldingRuns c.toNat).getD c.toNat
    (base :: foldingRuns.filterMap (·.preimage? base)).map Char.ofNat

def foldingPairs : List (Nat × Nat) :=
  foldingRuns.flatMap fun r =>
    (List.range r.count).map fun k =>
      let n := r.first + k * r.stride
      (n, n + r.shift - shiftBias)

def foldOnce (t : RangeTable) : RangeTable :=
  let added := foldingPairs.flatMap fun (n, base) =>
    if t.holds n then [base] else if t.holds base then [n] else []
  if added.isEmpty then t else t.union (.ofPoints added)

/-- Adds to `t` all that differs from one of its characters only by case: the first step reaches the
representatives, the second the other members of their classes. -/
def foldedTable (t : RangeTable) : RangeTable := foldOnce (foldOnce t)

end FixGrader.Unicode
