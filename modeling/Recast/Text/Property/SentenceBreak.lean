import Recast.Text.Property.Table

/-!
How a character takes part in dividing text into sentences.
-/

namespace Recast.Text.Property

/-- The roles of characters at the edges of sentences. Characters without a role are not listed. -/
def sentenceBreaks : List Property :=
  [⟨["at", "aterm"], ["uBA1.HAtx3BA7FA"]⟩,
   ⟨["cr"], ["NA"]⟩,
   ⟨["cl", "close"],
    ["iBAECxBABAdABAtBAPA_zDD96BB7rCHZBKB2BBOB5TDdBwhBFHNvCBfJzMV.BDgBBigBNOBCJYASHrNJCHBC_ozBB3",
     "GBcPCBQFpFBxBABAdABABBBBy49BC"]⟩,
   ⟨["ex", "extend"],
    ["gYvDzIGnIsBBABBBBBAoCKwBUQAlDGCFCBBDjBAea7CK6BIJAYDBIBCBErBC7BIqBXBgB2BCBRBGKBdC4BABGCBCCJ",
     "AKBaACC4BABEEBCCDAeBDALC4BABHBCBCUBWFBC4BABGCBCCHCKBeA7BEDCBDJAoBE3BABGBCBDHBLBdC4BABGBCBD",
     "HBLBPAMD3BBBGBCBDJAKBdCmCAEFBABHSB9BACGMHiDACILGpCBbABABAEBxBTBBFKBjBJAkDTXDECBCCGDDNLBAKD",
     ".VCydDcCdBeBgCfJAtBCBA1DBiBA2DLEL7GE5BJBcCAwBexBEvBQmBIMCeM4BNwBT4ECBUEAGACCmG.BsQBiGgB_.C",
     "CtEAgDfqRFpDB0udDBJgBBwCBwIADAEAXEEAzCByBRaRNAmBHZMsBDvBNkBAjCNMAIBtBCyBABCCBFBBApBEFBsHHB",
     "Bw5TAhXPQPuLB9SAiHA1EEm0BCBBFDoBCEAlFB9RDhCE9JBvCDmCKxBD6DC1BOpBACBKDtBKHA9BCkBNQBsBAMCwBN",
     "IDBB8CLGACA9ELVD3BBBGCBCCJAKBCGDEjCIBACABDBEBAOByCRXAxCTrHGCIbByCQqDMlDOgIO1HFBBCDBABBtEGC",
     "GDAcJoBGBDIAJKuBP1MHBHyCVBN6DFDABBBGBAiCEBBBE7KDJBBAwBGDEXAlnFAGOomLRguCE7BG4gBAB2BHDxCALB",
     "rlTBhzEtBCW_QEDFIHCGeD0EC79B2BExBIAOAWEBOwqBGBQCGBBBEkDAgFG3LA9BD8PD_HBgXGtDG12lY.CgEvH"]⟩,
   ⟨["fo", "format"], ["tFAurBAyHA_nEA8.BACBaExBEBJv03BA5HC0hNPgjiBDvmFHm0rYA"]⟩,
   ⟨["lf"], ["KA"]⟩,
   ⟨["lo", "lower"],
    ["hDZvBAKAEAkBXBHBABABABABABABABABABABABABABABABABABABABABABABABABABABABBBABABABABABABABBBAB",
     "ABABABABABABABABABABABABABABABABABABABABABACABABCCABACADBEACADCCACABABACABBBACADABACBCCGAC",
     "ACABABABABABABABABBBABABABABABABABABBCABADABABABABABABABABABABABABABABABABABABABABABABABAB",
     "ABABABABABGCACBBAEABABABABkCBjBHBeEsEABADACDSAbiBBBDCBABABABABABABABABABABABEBACACBzBvBBAB",
     "ABABABABABABABABABABABABABABABAJABABABABABABABABABABABABABABABABABABABABABABABABABABACABAB",
     "ABABABABBBABABABABABABABABABABABABABABABABABABABABABABABABABABABABABABABABABABABABABABABAB",
     "ABABABABABABABAwBoBz7CA7XFikCIBA1D.FhCABABABABABABABABABABABABABABABABABABABABABABABABABAB",
     "ABABABABABABABABABABABABABABABABABABABABABABABABABABABABABABABABABABABABABABABABABABABABAB",
     "ABABABIBABABABABABABABABABABABABABABABABABABABABABABABABABABABABABABABABABABABABABABABABAB",
     "ABABABABABABABIIFKHIHIFKHIHINCHIHIHIEBBGADCBBIDCBIHKCBB5DANAQMtDADBDAbAEAEACBIDEAhBPEAraZm",
     "6BvBBADBBABABAEABBBHDABABABABABABABABABABABABABABABABABABABABABABABABABABABABABABABABABABA",
     "BABABABABABABABABABABABABABABBHABAEAMlBBAFAzoeABABABABABABABABABABABABABABABABABABABABABAB",
     "ATABABABABABABABABABABABABABClEABABABABABABCBABABABABABABABABABABABABABABABABABABABABABABA",
     "BABABABABABABABJBABACABABABABAEABACABCBABABABABABABABABABAFAFABABABABABABABAEABACADABABABA",
     "BABAWCBABC1ZqBBNGvCg6TGMEphBZtmBnBoEjB7EKBOBGBBjOACCBpBBIloByB9DV65CfgsVf6sZZaGBRaZaDBABGB",
     "KaZaZaZaZaZaZaZaZabcYBFaYBFaYBFaYBFaYBFBA05BJBTGFlI9B0lChB"]⟩,
   ⟨["nu", "numeric"],
    ["wBJmuBF6CJBBwDASJmGJmGBwCAjEJ2DJ2DJ2DJ2DJ2DJ2DJ2DJ2DJ2DJgDJ2DJmCJ2IJmCJm6BJmBJsJJgEKlFJGJ2",
     "FJ2CJmEJGJmuiBJmVJmBJmGJWJ2CJ2MJ24UJmsBJmkCJGJ8YJtCAPAiBJ8BJwEJ2IJ2KJ2DJ2LJmDJGTsCJmNJmDJ2",
     "UJ2CJ2HJmCJmNJ2uQJmpCJ2CJmEJ2QJ27XJ02CxBgqCJmNJ2PJ3HJ1aJ20EJ"]⟩,
   ⟨["le", "oletter"],
    ["7NAEDwGAkBGGLaABAlEAkPA2DaEEsBqBjBBBiDBAPBHBKCCAQABdd4CLAYgBJBEAFVEAJADAXYHKFXBFRpB6B1BDAS",
     "AHJPPEHCBCVBGBADDDAQANBBCOBKAIFEBCVBGBBBBBBfDBATCQIBCBVBGBBBEDASAPBXALHCBCVBGBBBEDAeBBCPAR",
     "ABFDCBDDBBABBDBDCDLWA0BHBCBWBPDAaCCACBeAEHBCBWBJBEDAfBBBPBRIBCBoBCAQAFCICYFFRDXBIBACG6BvBB",
     "BMG6BBBABEBXBABJBBJACEBAVDgBA.BHBjBbEzDqBUAQFEDDADBHCEMMAhCqBCrKBDCGBABDCoBBDCgBBDCGBABDCO",
     "B4BBDCiClBPxDrTCQBZFqCDKHRNSOROMBCPzBjBAEAjC4CHEChBBAFlCKexBdCELrBEZ2BWJ0ByCA9CuBRH2BdNBKr",
     "BajBpBCKjBSqBCCpBDBFBBDA6hBDnCCCDn9C3BHAQWJGBGBGBGBGBGBGBGwCA1OCZIHECEE1CGCB5CBDFqBB9CRfwB",
     "PgQ.tGgCs0VjCtBCsIDPKBiCAQAgBvCnBIoDAGAnDADGBCBDBWdzBOxB_BFDABBLbKWZcHuBcAQEBJKEBoBXCBHUWD",
     "ADxBBADBCECABAYCCKHCMFCFCFJGBGxEiBdj9KMWEwBkoItLCpDjCABJBMBEBABBBBBrDhBqLS.BC1BoBL0DEBmEpD",
     "3BCeDFCFCFCCjBLBZBSBBBOCNiB6DlC0BrIcDwBvBfNdFlBKdCjBEHBE6DtCiDnBIzB8CzBM2JJVKHZB9DFCABrBBB",
     "DACWKWJehCSBBKVKZmC3BGBgCAPDBCBcqBcDcjBHBbb1BKVKSNRuDoC3FjBmBFfAwIpBGBQC7BcKAIVqBRuBUbWM0B",
     "5BBCANsBgBYajBdACAIiBDAMvBODVABAjBRBYTB.BGBABDBOBJHuBmBHCBCVBGBBBEDASAMEeJBACABlBBAZABAsB0",
     "BSDUCevBUBBA4FuBpBDkBvBUA7BqBNAnCalBG5FrBzGHCACHBBBXPABA_CHCmBQABAcAKnBHAVALtBTASoCnGgBfIB",
     "kBRAxBdwDGBBBlBVAZFBBBfOAnKSPABMBhB8DAvC5cmDuDRjGsyCgDPvhBRFZ68DFmS51Gdi3B4RHeRuCRdSvBQDfU",
     "FSwNsBzMqCFAiCMgCBBAc3.FI1mBpBJn3IDBGBBBiJPAdCCAODIrMkoCqDFMDIHJwzIA1PsBKGQAhKdSrBkPbkHdCA",
     "vPGBDBBBOBkGmEA0lBDBaBBBACABJBDBABAGAEABABABCBBBACABABABABABBBACDBGBDBDBABJBQFCBEBQkqE.2pB",
     "gB5hEG9GCh0FOwpHPtTitC9QivBq6EF.iE"]⟩,
   ⟨["sc", "scontinue"], ["sBBMBiaA_OAuFBqPApgEAFAqgCBs.DAuwzBBBBcBdBCBCAKAoFBMBoCA"]⟩,
   ⟨["st", "sterm"],
    ["hBAdApqBAzEC0FArBC2HA9BABADBlJBk3BB2YAEBlYAmGB9EBtBAFA6JBiLDiFBKBCBdC7FBhCB8dBJCvlDCyJANAW",
     "BtNA8ndAuIBjHADA_LB2CB.CA4EBzECwEB5HAmxUACB.BBpFAdAhCA03CB9nBEsBD9FB1DD.DChEBGAQB4CBBBsDAq",
     "JB1DB1LBFOpDB5HClQABA7HB3CBkNB0VBqCBp5SBlEAhCBLApRBoJAmwTAovHA"]⟩,
   ⟨["se", "sep"], ["lEAi9HB"]⟩,
   ⟨["sp"], ["JABBTA.DA.uFA.rCKkBAvBAg9DA"]⟩,
   ⟨["up", "upper"],
    ["hCZlDWBGhBABABABABABABABABABABABABABABABABABABABABABABABABABABABACABABABABABABABACABABABAB",
     "ABABABABABABABABABABABABABABABABABABABBBABADBBABBBCCDBBBCDBBBBABABBBACABBBCBABBDAHBBBBBBAB",
     "ABABABABABABACABABABABABABABABACBBABCBABABABABABABABABABABABABABABABABABABABABABABABABABAB",
     "ABABAHBBBCABDBABABABAhJABADAIAGABCBABBBQBIjBACCDABABABABABABABABABABABAFACABBCyBwBABABABAB",
     "ABABABABABABABABABABABABAJABABABABABABABABABABABABABABABABABABABABABABABABABABABBBABABABAB",
     "ABACABABABABABABABABABABABABABABABABABABABABABABABABABABABABABABABABABABABABABABABABABABAB",
     "ABABABABAClBp6ClBBAFAyW1CzkCA2LABABABABABABABABABABABABABABABABABABABABABABABABABABABABABA",
     "BABABABABABABABABABABABABABABABABABABABABABABABABABABABABABABABABABABABABABABABABABABABABA",
     "JABABABABABABABABABABABABABABABABABABABABABABABABABABABABABABABABABABABABABABABABABABABABA",
     "BABABABAJHIFKHIHIFLABABABAIHYHIHIHIELELDMELElIAEADCCCCADEGABABABDCDKBFAaPTAyZZw5BvBwBABCCA",
     "BABABDBACAICBABABABABABABABABABABABABABABABABABABABABABABABABABABABABABABABABABABABABABABA",
     "BABABABABABABABABABAIABAEAtqeABABABABABABABABABABABABABABABABABABABABABABATABABABABABABABA",
     "BABABABABABAnEABABABABABABADABABABABABABABABABABABABABABABABABABABABABABABABABABABABABABAK",
     "ABABBBABABABAEABACABADABABABABABABABABABABEBEBABABABABABABABDBABBDAFABABABAYAr5VZlmBnBoEjB",
     "8EKBOBGBBq3ByB9EV65CfgsVfgtZZaZaZaABBCACBCDBHaZaBBDCHBGbBBDBEBADGbZaZaZaZaZaZeYhBYhBYhBYhB",
     "YhBA1pEhBugCZGZGZ"]⟩]

end Recast.Text.Property
