import FixGrader.Unicode.RangeTable

namespace FixGrader.Unicode

/-- The code points that each version assigned, packed, under its names. -/
def ageData : List (List String × List String) := [
  (["1.1", "v11"],
   ["AwPE+yBzCHpBBKWgC6CSCEBDBFHBBBUBmBBHDBBBBBBBBSNMBcCBMBjBJvBCCCCD8CICCxBgBCHBhBBBgBKBJM7FFX",
    "BOBDBB6FTNOCiCCFBPB+CKhQDBvBCSCFDZQDBICCCWBHBBDECBBHCCCDJBECBFCVHBCGECCWBHBCBCBCCBBFECCDLE",
    "BBHPMDBHBBBDBWBHBCBFCKBDBDCBPBFKRDBICCCWBHBCCECIDCCDICECBDELRCBGDDBEDCBBBCDCDDDIBDEFDDBEJB",
    "PMODBIBDBXBKBFEHBDBEHCJCEKSCBIBDBXBKBFEHBDBEHCHBBCEKSCBIBDBXBQEGCDBEJBICEKrE0BE9fBCBBCCBBC",
    "BGEBHBDBBBBCCBNBDCFBBBGCKCCcOgBKhBEBE0CFeCFsCgaD1EF0CGWCGCgBCGCIBBBBBBB-CvBBPBOCGBTCDBJBpB",
    "BXdBHD7RLfBS+zB6qBN1CVsHOBBzDfEfB7LVlEVwEKqCQUGwCrEEBEC8BdBBBBEDBBHCHO-DYBObcCyBHBBuCEGC4C",
    "GiBE4CBQaD9DeB88DsBPMEpBBxDEdDC-bqGgnU0cQorGsGHMFGZBFBBBCBCBmDbBnLQaCCwBiBMeBEMVEKBTBEEDBB",
    "BhECBB4CC4CDGCGCGCDDHBHOD"]),
  (["2.0", "v20"],
   ["rmBRBNUB1jCiCBbBH7EGBBBVDHBBbxDBpQBu0cBe3K0ckCC455BC455BC455BC455BC455BC455BC455BC455BC455",
    "BC455BC455BC455BC455BcaaE"]),
  (["2.1", "v21"],
   ["mfIBp0xBB"]),
  (["3.0", "v30"],
   ["wPE+ICSvDFrBBKFxCJTBuDBDBBBBBBB+BMBcCBMBkBCCE2CC2EBiGDcDCFBPBkBFBOB+D7vBrBroBCBSDYBJBBCHDB",
    "EGBBBISDvLBlBBXDHBBDBPCBqBcBBFBCBHDEG6gNHB5BBBBECHBBBEChBBBBEC-BBBECHBBBECHBHBXB-BBBECHBhB",
    "BTG8dBvCMwTJ9DrCpE3CDKWPBKGyCIkBf2BBYG5CDsBCvCCiCBhDJnIBzDBB+kECjOIbBBwCCoMaIamB6BzCMwG6M2",
    "BDDBbLYiSwnGksUneBDSCQBMBDBBwsVB1gBD"]),
  (["3.1", "v31"],
   ["u-C0o4BaBqiB-BEM7vFgBCgBs3sBwHKhBDuFcRvCBhCBCCBCCCEBMBBBEBCBbCBECIBHB8BEBFBBDHBsKEcJEsBaaK",
    "xwjBjjU4QdpbWB+aD"]),
  (["3.2", "v32"],
   ["aRBoJBTNiDC8BtECzBCCCCCrBQ4KCbKBfkCChqBNBHLXJUMNBDBCtgCBGFEBHFNB4BCsBHsCPiFMsHO2DB+uB2IUxE",
    "KyCIWC0CMCK4GO0C8EQaIaQ1jBDxCCIC4CBqHQrCPrCPcp8CQBMBDBklV1Br8BDQvBCmBBlHC"]),
  (["4.0", "v40"],
   ["bRBSDxDC5BRqCIFDxEFeQEJJaCDvECPBnBD9DuNByFBdCBBBiEBuCDNBdCB1BBbEIbGC5yCBSKgI9DMEMEBDkBCFlD",
    "aBaYmDhXCgHBtUCoJBuICuDIOC4cBOpyBCrBBlBCoCEhFEdDC-BaoGaC35lBBjCCxNMB6BTBCBPCOcB1DFDEnBDJaS",
    "+BBgECgBqCCKw6GCBBmBBCDBCBawsBxCkLB4blYqH"]),
  (["4.1", "v41"],
   ["xRLwIF5EEwHCkFBcBDdCBSB0BGrH+pQBqCBhPBpBBj-ChJCBBkIB5BB5BBhBB-B-B-BPBhBBXC-6gpBkBG6GKECaB8",
    "CCm6yCrUCBHrBF9EvBBqCBPBeUL2RBfDCSLFQoIHh6GmHpBBpBbBlDOnBKwBJBQXJHBHBHBHBHBHBHBHbBYECc9QoF",
    "Bhj7We0BXjHmBesUkDwZKgZlCvQeBEOkrBEBCFIBDB7EDEJIJh3rBgC4cBC"]),
  (["5.0", "v50"],
   ["cSOlJDrKBkBGQEgFBfQ1BaMCBCc7CNCnqDmCEnBhSHtBCmXE3CCvBBxSMkWBuIEj6HFE2JNHE5u+EFC4IyBieY6FBa",
    "xFp7rEdDNEmxlBSycBC"]),
  (["5.1", "v51"],
   ["q7ECCxCBxFBmEQcHFLFaBFoJSrPC4GBdBBoGB9CmDBmDB6CICUI3FBGB9CMGDHlPCbDBDDnCBFBCBHDEG6aCECkaCB",
    "vWlBDMgCyBDPDtBlK8vFE0CGeLBlEB4CBvBEuiBBVKDEiIB-ElZFEjBDFyIDBDEGcLaBYECT2XBcFUyo7I2jBmJUaB",
    "CSI8dEFClDoDFaEfCJMgBuCLBaFxBJOCKCEe4UDj7MuBoBcE9DrBpsB6FBj5rBBwwHmBEeD"]),
  (["5.2", "v52"],
   ["ejBC0WoBCPbGBnCBGBdBCaEBzoBEbGE2FFeCFsCGaQBwTJqRgCuFCoBBfC5BB9CLGKGOcRdBkIByVDxEDwBB4SBvVC",
    "9DEKBTBBEYxCB3-FwIBNClDH5JBsaBMul7IeiBqBaNyCyJKgF8eD9DoCBLECaE8EdCYFaHoBCKw3KXErBptIDsoDWB",
    "J0FCeKaBaEwBD9C7FIaEjCxQ-bQcC4zHpbBrgpBLF-CBLBBBCBDBDFIBHBZBBCCBKECBpDBPcBOJxfnBvbE"]),
  (["6.0", "v60"],
   ["gjBCyHB4BBaP8CB1GCTBGC7F0PGrNBQBTB3REjCCc8CbdCuBIE2PByUI8BpZL0WBTBBE9BEC8BdBBBBEDJCuBDYBOB",
    "OCanBBOBybBDff9ClJCBCOKqCBgYGCGCGJHBHdeUQ4bFoCE+q2VzRhoRC4eQPCOCPBPqCBBLBBBCBDBDFIBHBKGJBB",
    "CCBKECBKlC6BCpBJVCoFbBPGBgCDUMfBBFVRP5BBBBwFBED4BSYtEFBQBDBBBBBBBDBGCEBBCEBMELqBgC0BuDm4pB",
    "4G"]),
  (["6.1", "v61"],
   ["pmBBuDB1UBBLxB7rPBn-ChPBFBpBDlvCDMGaIIlBEuwCBBBejBCtBBFByBCkGKqm8BhvBIdBBsHCWBnCCgXXxzTCq0",
    "DyBGCqyBZHKGvBBO2BjCHKgfByBIKwbWfCLpBQRat-EB7BCBBCBBKBEBBBBGBEBBBBBBDBCBBCBBBBBBBBBBCBBCEB",
    "HBEBEBBBKBRFDBFBRuBCyTCu+E2FBQBDBBBBBBBDBGCEBBCEB"]),
  (["6.2", "v62"],
   ["0fIB"]),
  (["6.3", "v63"],
   ["2qBBjsGE"]),
  (["7.0", "v70"],
   ["57BiNI3CCwDB1UBLGmCByDBHB5TBtBBmCB5DBeHKbiCIeRCrMPzRCnHPfWDwZHfYBmcBDK6CaBCcBDMBIkTHvc+GwH",
    "MLDCCfCBiP-3DEqFqBECbwUH36CTB5J8dBBqBlBfMiBIuBLBqExJJWKIyH5BIJqOaBaBhBEMjESHEMHpgBBqGhBwCB",
    "MBGULSBlBsD1BFKHDBICCCWBHBCBFCJCCCDJBFHCHDFlIiCIKgFwBCSwBfCLKgStCMBaOzBwdCkBkGMFBloR-BKECa",
    "D+CGKgCKKBHBVFTqdUlDFNDJHKCI20KfGCQi5BBaBWVCuQMJBgCBWMfBBFEFMRHhCBBBwFBEC5BCEH9SBjBBwCgCCN",
    "qBgCKQNDEmEvClBMEyBIKGiBI+"]),
  (["8.0", "v80"],
   ["tfCCoBBvQBaLBeIBvuBBCGagDBlGCatCE348JiwBBqHBcBGeKCcTEMqCotUCqvCTBCFF2FCCQCoBaUtBNtBHGjgBEO",
    "FaFHBBBEBPBLwCBpCBzTUcJ6DPEQzcDBgHeG2vHhSx2cBLxqBmUPFBP3dGDoCCpCFeBI5HBlCFtHClEB5RJhDF1BB5",
    "spBcuF"]),
  (["9.0", "v90"],
   ["wfCIWP38BoGBEDBHXDhyDJsLB5pBEesCCjl+BwIBhgWCbZeBEeBckDBbO0CBBBBcQNtmBJBnBBOK9DaBCWBOjzUB-n",
    "5FTtXniVHBRCHBCBFvgClCFKEC1bCSoEB4ZBjBBmJCbBDcRGBIIBCMBMEPgBN"]),
  (["10.0", "v100"],
   ["adCLrMC2HGaQB0BC03DB4HEfWB5ZBs4BBsTFeXBhv7Vc0YDqwFiCIuBCXBF3SHBCBmBDBBCBJIKhuUBabQ3IrCmMe1",
    "PGndBCcBChQMTBIIBCZBSNgBGyBXjgvBrjH"]),
  (["11.0", "v110"],
   ["alBBhBBgDBnQDtGBkJBxDBnMB5DBt5CBxaBlBCD0xDDWZEPlSFaXB1v7F53BBICeKCujYCSBxViBIKgOiBIkBtLBwD",
    "DuPBcJB1VBfH2BbTBcWGBCBfBBCBGHKwJZh0T1CskGFoxSU4DHyhGeC0dBBjoBB1GEuLD8FCEDBBEYLNKHCeBZaDO"]),
  (["12.0", "v120"],
   ["xdDBoQBCBCBBGEBHBHCCBNB5rDBowDBvBBpSBkl+GCF58CydZXidBBySBhXICoBCL5EC0jBsBNBqbFJmyOGEBpBJ0C",
    "CoaGGykKDREy2LnBDOCKECqL0BFBlsBBv93BobBBilBBeBBfHMbJDpBBrBBJBjBGDCKGDICDqBuC8EEDFDNG"]),
  (["12.1", "v121"],
   ["5xMB"]),
  (["13.0", "v130"],
   ["4fCKnUBoNB2DB3jDCwgEByVDi7Fw5GKqrUNk4BEkBCvBB1ZEqrVBdhDkBBDCC4H81LBgECkUBFC4eBHCBCIBCB+BCC",
    "MJKwsBBtbUBLCbyGdPkBJeaZD3CD3BBijBCdBCtNC0CBfDBECkBCGD9BiFBOEPTHHJDNHjBtEBxBfBK3wkBHcjWl0E"]),
  (["14.0", "v140"],
   ["3qBBsS-BCGIVBSLj7BaBB5DBprCBHBJBpHBrVO3DBqBC1TBfWBo1CBpBBtPL5m8Da4BCOCBBBFYDn4UB3LQ5DBoBCq",
    "1BLBPBHBCBLBPBHBCdOGBkBBJv3B6gHGmCBwpBBgEHj7QqgFdD3tOpCBKgjREBHBCaJE3oHoBCXJuDfRCviD-r7-rj",
    "BHBEBCBP4wDDqIBiMBsCBoFCmBEKEIDRDGIIHh5kBCvcEE"]),
  (["15.0", "v150"],
   ["thDB0OBobaCD5ZD4fCKw-RBjBD8vgFBJ92g-BcBBklIUrcDGfI4BbBBacBkBcpEBxEDEFzCB1UDPCeBDLDBBOCKCMB",
    "OCacpBBwaXadE"]),
  (["15.1", "v151"],
   ["25LEpPBaqoFoT"]),
  (["16.0", "v160"],
   ["xeCBwvECpBBjIC22BD0nDCfp9DMDdpXuBm0BgBD9ICsJDxBBdeBKBBCBBgBBKBBCBBEBKBCICnXU2gBcBOKa7BfiF1",
    "2DfiH0BgaD0Bf2HBayP0HGuN2yFlBEBsvEKEChOBFBoBBHBVBCBJBbHfB"])]

end FixGrader.Unicode
