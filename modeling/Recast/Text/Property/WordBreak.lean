import Recast.Text.Property.Table

/-!
How a character takes part in dividing text into words.
-/

namespace Recast.Text.Property

/-- The roles of characters at the edges of words. Characters without a role are not listed. -/
def wordBreaks : List Property :=
  [⟨["le", "aletter"],
    ["hCZGZvBAKAEAFWBeB.OGhBwDEBBCDBAGABCBABTByCBqEIlFBlBCDBABoBBAoDAsBqBjBBBiDBAPBHBKCCAPBBdd4C",
     "LAYgBJBEAFVEAJADAXYHKFXBFRpB6B1BDASAHJPPEHCBCVBGBADDDAQANBBCOBKAIFEBCVBGBBBBBBfDBATCQIBCBV",
     "BGBBBEDASAPBXALHCBCVBGBBBEDAeBBCPARABFDCBDDBBABBDBDCDLWA0BHBCBWBPDAaCCACBeAEHBCBWBJBEDAfBB",
     "BPBRIBCBoBCAQAFCICYFFRDXBIBACG5JA.BHBjBbEzIlBBAFACqBBsKBDCGBABDCoBBDCgBBDCGBABDCOB4BBDCiCl",
     "BPQ1CCFDrTCQBZFqCDKHRNSOROMBCvF4CHEChBBAFlCKehHWuHuBRH2BdNBKrBajBpBCKjBCKFqBCCpBDBFBBDAF.F",
     "gC1ICFClBCFCHBABABABeC0BBGBADCBGDDCFEMFCBG0DANAQMlDAEACJBADEGABABABDBKCDFEEARoBtZzB24BkHGD",
     "DBMlBBAFAC3BHAQWJGBGBGBGBGBGBGBGwCA1OA1BBoGqBB9CRfgybskBjCtBCsIDPKBUuBQeCvCYlGCBBABHVPBCBD",
     "BWdzBOxB_BFDABBLbKWZcHuBcAwBoBXCBH0EKHCMFCFCFJGBGB5BGyDdj9KMWEwBk4IGME4BhDhBqLS.BC1BoBL0DE",
     "BmEkBZGZlCeDFCFCFCCjBLBZBSBBBOCNiB6DlC0BrIcDwBvBfNdFlBKdCjBEHBEqB9ESjBEjBEnBIzBMKBOBGBBBKB",
     "OBGBBDzBM2JJVKHYFBpBBIlCFCABrBBBDACWKWJehCSBBKVKZmC3BGBgCAPDBCBcqBcDcjBHBbb1BKVKSNRuDoC3By",
     "BNyBNjBmBbJW6HpBGBQC7BcKAIVqBRuBUbWM0B5BBCANsBgBYajBdACAIiBDAMvBODVABAjBRBYTB.BGBABDBOBJHu",
     "BmBHCBCVBGBBBEDASAMEeJBACABlBBAZABAsB0BSDUCevBUBBA4FuBpBDkBvBUA7BqBNAnKrB0D.BfHCACHBBBXPAB",
     "A_CHCmBQABAcAKnBHAVALtBTASoCnGgBfIBkBRAxBdwDGBBBlBVAZFBBBfOAnKSPABMBhB8DAvC5cmDuDRjGsyCgDP",
     "vhBRFZ68DFmS51Gdi3B4RHeRuCRdSvBQDfUFSwNsBzG.BgEqCFAiCMgCBBA8gTqDFMDIHJm7F0CBmCBBCACBCDBLBA",
     "BGBgCBDCHBGBbBDBEBADGBzKCYBYBeBYBeBYBeBYBeBYBH05BeGFlI9ByEsBKGQAhKdSrBkPbkHdCAvPGBDBBBOBkG",
     "7BjCHA0lBDBaBBBACABJBDBABAGAEABABABCBBBACABABABABABBBACDBGBDBDBABJBQFCBEBQ0TZGZGZ"]⟩,
   ⟨["cr"], ["NA"]⟩,
   ⟨["dq", "doublequote"], ["iBA"]⟩,
   ⟨["extend"],
    ["gYvDzIGnIsBBABBBBBAoCKwBUQAlDGCFCBBDjBAea7CK6BIJAYDBIBCBErBC7BIqBXBgB2BCBRBGKBdC4BABGCBCCJ",
     "AKBaACC4BABEEBCCDAeBDALC4BABHBCBCUBWFBC4BABGCBCCHCKBeA7BEDCBDJAoBE3BABGBCBDHBLBdC4BABGBCBD",
     "HBLBPAMD3BBBGBCBDJAKBdCmCAEFBABHSB9BACGMHiDACILGpCBbABABAEBxBTBBFKBjBJAkDTXDECBCCGDDNLBAKD",
     ".VCydDcCdBeBgCfJAtBCBA1DBiBA2DLEL7GE5BJBcCAwBexBEvBQmBIMCeM4BNwBT4ECBUEAGACCmG.BsQAjGgB_.C",
     "CtEAgDfqRFpDB0udDBJgBBwCBwIADAEAXEEAzCByBRaRNAmBHZMsBDvBNkBAjCNMAIBtBCyBABCCBFBBApBEFBsHHB",
     "Bw5TAhXPQPuLB9SAiHA1EEm0BCBBFDoBCEAlFB9RDhCE9JBvCDmCKxBD6DC1BOpBACBKDtBKHA9BCkBNQBsBAMCwBN",
     "IDBB8CLGACA9ELVD3BBBGCBCCJAKBCGDEjCIBACABDBEBAOByCRXAxCTrHGCIbByCQqDMlDOgIO1HFBBCDBABBtEGC",
     "GDAcJoBGBDIAJKuBP1MHBHyCVBN6DFDABBBGBAiCEBBBE7KDJBBAwBGDEXAlnFAGOomLRguCE7BG4gBAB2BHDxCALB",
     "rlTBhzEtBCW_QEDFIHCGeD0EC79B2BExBIAOAWEBOwqBGBQCGBBBEkDAgFG3LA9BD8PD_HBgXGtDGw1CEghjY.CgEv",
     "H"]⟩,
   ⟨["ex", "extendnumlet"], [".CAv_HAPBTA_u3BBYCvHA"]⟩,
   ⟨["fo", "format"], ["tFAurBAxvEA..BBaExBEBJv03BA5HC0hNPgjiBDvmFHm0rYA"]⟩,
   ⟨["hl", "hebrewletter"], ["wuBaEDqp9BABJBMBEBABBBBBJ"]⟩,
   ⟨["ka", "katakana"], ["xhMElDBD6CBDwHPwGuBB3CugzB3ByisBDBGBBBA.ICyBAOD"]⟩,
   ⟨["lf"], ["KA"]⟩,
   ⟨["ml", "midletter"], ["6BA8DAvWA3OA0EAyxGArv3BAhCAkGA"]⟩,
   ⟨["mn", "midnum"], ["sBAOAiaAqQAiEB_CArMAriGArw3BADA3FAOA"]⟩,
   ⟨["mb", "midnumlet"], ["uBAp.HBKAtx3BA0FAGA"]⟩,
   ⟨["nl", "newline"], ["LB4DAi9HB"]⟩,
   ⟨["nu", "numeric"],
    ["wBJmuBF6CJBAxDASJmGJmGBwCAjEJ2DJ2DJ2DJ2DJ2DJ2DJ2DJ2DJ2DJgDJ2DJmCJ2IJmCJm6BJmBJsJJgEKlFJGJ2",
     "FJ2CJmEJGJmuiBJmVJmBJmGJWJ2CJ2MJ24UJmsBJmkCJGJ8YJtCAPAiBJ8BJwEJ2IJ2KJ2DJ2LJmDJGTsCJmNJmDJ2",
     "UJ2CJ2HJmCJmNJ2uQJmpCJ2CJmEJ2QJ27XJ02CxBgqCJmNJ2PJ3HJ1aJ20EJ"]⟩,
   ⟨["ri", "regionalindicator"], ["mv8DZ"]⟩,
   ⟨["sq", "singlequote"], ["nBA"]⟩,
   ⟨["wsegspace"], ["gBA.yFA.rCGBC0CAg9DA"]⟩,
   ⟨["zwj"], ["tgIA"]⟩]

end Recast.Text.Property
