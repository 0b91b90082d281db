import Recast.Text.Property.Table

/-!
The editions of the character standard.
-/

namespace Recast.Text.Property

def editions : List Property :=
  [⟨["1.1", "v11"],
    ["A1PEd4B4CHuBBJWlCaBSBEADAFGBABTBrBBGDABABABABRNLBhCBLBoBJ0BCBCBDbCHCB3BlBCGBmBBAmBJBIMaFEX",
     "AOADABZFSNNCnCCEBOBdCJnQCB0BCRCEDYQCBHCBCVBGBADDCABGCBCCJAEBBECUHACFEBCVBGBBBBBBCABEEBCCLD",
     "BAHOMCBGBABCBVBGBBBECJBCBCCAPAFJRCBHCBCVBGBBCDCHDBCCIBEBBCEKRBBFDCBDDBBABBDBDCDHBCEEDCBDJA",
     "PLOCBHBCBWBJBEEGBCBDHBJBEJSBBHBCBWBJBEEGBCBDHBHABBEJSBBHBCBWBPEFCCBDJAIBEJxE5BEclBBBACBBAC",
     "AGDBGBCBABACBBMBCCEBABFCJCBiOlBKmBEAE5CFjCFxCmgD6EF5CGVCFClBCFCHBABABABeC0BBOBNCFBSCCBIBuB",
     "BWjBGDaRKlBRe4BavBN6CVxHOAB4DlEkBbKVqEV1EKvCQTG1CxEDBDCbBiBBABDDABGCGOeDXBNhiC3BHABzCEFC9C",
     "GnBE9CBPgDcDjBcbDxBPLEuBB2DEiDCehwGltU6iQtxGyGGMEGYBEBABBBBBrDhBsLQ.BC1BoBLkBDMUEJBSBDECBA",
     "BmECAB9CC9CDFCFCFCCDGBGOC"]⟩,
   ⟨["2.0", "v20"],
    ["xsBQBMUA7pCnCBgBHaEFBABUDGBAh3DAvQA06iBj9K6iqCB_..BB_..BB_..BB_..BB_..BB_..BB_..BB_..BB_..",
     "BB_..BB_..BB_..BB_..BhggE"]⟩,
   ⟨["2.1", "v21"], ["slIAv63BA"]⟩,
   ⟨["3.0", "v30"],
    ["2PDeHCR1DExBAKE3CITA0DADABABABAeAMAiCAMAqBBCD8CB8EAoGCiDBFAPAqBEBNBdDa1BwBxuBBBRDXBIBACGDA",
     "EFBABHSC1LArBAXCHABCBOCAwBhBBEBBBGDDGZmNGB_BBABDCGBABDCmBBABDCeBABDCGBABDCGBGBWBeBABDCGBmB",
     "BSGbjB0CM1TJcDwCvE8CDJWOBJG3CIpBl8BAYF.CCyBB1CBoCAnDItIA5DABdqEBpOHhBA2CBuM.HgsBZB4CM1GaL8",
     "BCDAhLXoS1tGqyUskBDRCPBLBCBA2yVA7mBC"]⟩,
   ⟨["3.1", "v31"],
    ["0fB6u_BfwoBeBDMa1FlBClBy9yB1HKmBDzFiR0CBmCBBCACBCDBLBABDBBBgCBDCHBGBbBDBEBADGBxKEhJExBggK2",
     "2pBppU9QjvhWAe.C"]⟩,
   ⟨["3.2", "v32"],
    ["gRAuJATMoDBcAzEB5BBCBCBxBP_KBhKAlqCBnwBMBGLWJTMMBCBBzmCAGEEAHENA_BByBGyCOoFLyHN8DAezB8IT3E",
     "J4CHWB6CLCJ_GN6CbEPgI.P7pBC3CBIB_CAwHPxCOxCOivcBQAMADAqrV6BxcADP1BBsBArHB"]⟩,
   ⟨["4.0", "v40"],
    ["hRASC3DB.BQwCHFC3EEkQDJIgCC1EBPAtBCdC0NA4FAjCABAoEA0CCNAjCA7BAhEHhGB.4CASJmIcDLELEADpBCErD",
     "fgYrDnXBmHAzUBuJA0IB0DHOB_iBNv4BBxBArBBuCDnFDjDBfAguG.B9.rBApCB3NLBZBSBBBOCNiB6DFCEsBDIgSd",
     "BAmEBmBvCCJ2aFCABrBBBDACAg2yB2CqLA_hrYvH"]⟩,
   ⟨["4.1", "v41"],
    ["3RK2IE.ED2HBqFAiBCjCASA6BFxHdvQAwCAnPAvBApfBnJBBAqIA.BA.BAnBAfAfAfAPAnBAXBfZmvBpBGZGJEBgBb",
     "CBsa3CxUBBGxBEdD1BAwCAPAkUK8RAlDBSKFPuIGnaFsHuBBuBhBqDOsBK1BJAQWJGBGBGBGBGBGBGBGhBXEBidPuF",
     "AnpbVk6BWpHrBkyUpD2ZJmZqC1QjBENqxBDBBFHBCBaECEIIIn9xBlC_iBB"]⟩,
   ⟨["5.0", "v50"],
    ["iSNrJCxKAqBFQDmFAlQ6BgMBBBibBNBtwDrCEsBnSGzBBsXD9CB1BA3SLqWA0IDpaGFD8JMHD.0eDFB_I3BokYZFAg",
     "3FubxEiDNDs3rBR4iBB"]⟩,
   ⟨["5.1", "v51"],
    ["wbDCB3CA3FAsEPiHELEgBEuJRxPB_GAjBAuGAdBsDAsDAaBIBUH9FAGAdBMFDGrPBhDADCtCAFACAHCEFa.BEBqgCA",
     "1WqBDLmC3BDODyBrKb1FD6CFkLArEA_CA1BD0oBAVJDDoIAfDrZEEoBDE4ICBCEFiLfYDCS8XAiFT4ubH8pBrJUfCR",
     "IbjEECqDuDEgEkCJLmBzCLAgF2BJNCJCDk_UCpbL0BtBiEcDwBvyBZFAp.xBA22HrBEjD"]⟩,
   ⟨["5.2", "v52"],
    ["kpBB6WtBCOhGAtCAGAjBBgEA5uBDhGD8FEkCEyCFgQA2TIwRlC0FBuBAlC_BBcCKGJGNiRiBqIA4VC3EC2BA_SA1VB",
     "dCEJBSBAEX3CA9fE2IANBrDG.JAygBL0rbHkoBvBgN3C4JJmFbkDcDtCBKEBgEbEiCYEgHtBCJ29KWEwBvzICyuDVB",
     "I6FBkKfgE1BDcCaFHgEoC3QehQhC_5HuhBxmvBKFeCALABACADADEIAHAZABBCAKDCAvDAPhBOI3ltB0hE"]⟩,
   ⟨["6.0", "v60"],
    ["mpBB4HA_BAgPbCA7GBTAGBbE6PFxNAQATA9RDpCBicBhjCzBID8PA4UHcAvZK6WATABDdAEBcAjBABAECJB0BCYAOA",
     "OBgtBAOA4hBClldBrJBBBOJwCAmYFCFCFJGBGjkUP_hFtCEdw8V4RnuRB_kQOCNCOBOwCABKBABBBCBCFHBGBJGIBA",
     "CBBJEBBJrCZBBvBIVBuFgBPFBlCDTMkBBEVQP_BBAB1FBDD9BSXzEEBPBCBABABABCBFCDBACDBLEKwBlC6BzDs_vB",
     "9G"]⟩,
   ⟨["6.1", "v61"],
    ["vsBA0DA7UABK3BaxPAtfBnPAFAvBCr1CCMFgIHrBD02CABAkpBBzBAFA4BBqGJwscAn1BHjBAyHBWAtCBmXW35TBw6",
     "D3BGBw4BYHJG0BBN8BoCHJmlB3BIJ2hWkCLuBQQgzfDBaBBBACABJBDBABAGAEABABABCBBBACABABABABABBBACDB",
     "GBDBDBABJBQFCBEBQ0BB4TB0eD8FAQADABABABADAGBEABBEA"]⟩,
   ⟨["6.2", "v62"], ["6lIA"]⟩,
   ⟨["6.3", "v63"], ["8wBApyGD"]⟩,
   ⟨["7.0", "v70"],
    [".bAoNH9CB2DA7UALFsCA4DAHA.TAzBAsCA.DAkHJhoCHkRBxMO5RBtHOlWC2ZGlYAsiBCKZCfChBDLBHqTG1ieF2HL",
     "LCCBlCAoPe9DDwFvBEBh2UG9aBTA.JbjBAwBqBlMnBIzBLAwE2JJVKH4H_BIIwOfgBmBELpERHDMGvmBAwGmB2CAMA",
     "GTLRBqByD6BFJHCBHCBCVBGBBBECICBCCJAFGCGDErInCIJmF1BCR2BkCLJmSyCMAgO4B2jCpBqGLFAruReBJEBgDd",
     "CFKlCKJBGBUFSwjUqDFMDIHJCH86KkGCPo.BAgBVVB0QLJAmCAWLlBAFDFLRGnCABA2FAEB.BBEGdRBoBB1CmCBNvB",
     "mCJQMDDsE0CrBLE3BIJGnBId"]⟩,
   ⟨["8.0", "v80"],
    ["zlCBuBA1QAgLAkIA10BACFgmDArGBgzCD9_cIo2BAwHAiBFkKBiTDMvCuzUBw1CSBBFE8FBCPCtBgUyBNyBHFpmBDO",
     "EgFGBABDBOBK2CAvCA5TTiJZDOEP5iDAmHjG81HmS38iBK3wBrUPEBO9jGCuCBvCEkBH.HArCEzHBrEA.RInDE7BA.",
     "yvBh0F"]⟩,
   ⟨["9.0", "v90"],
    ["2lCHWO9cAuGAECBGXCn4DIyLA.vBDkyCBpreA2IAnmWBhZjBEjBiqDAhO5CBABAiQMzsBIBsBBNKcDfCVBNp5UAfs.",
     "FTyXtoVGBQCGBBBE1mCqCFJEB7hCRuEA_ZApBAsJBhBCiRFBHIACLBLEOmBM"]⟩,
   ⟨["10.0", "v100"],
    ["gjCKxMB8HFgQA6BB69DA_HDlWA.ZAy_BAyTEkXAn1bUi6YCw2FnCIzBCWBE9SGBBBrBDABBBIIJn0UAghQ8IxCrMk7",
     "PFtjBBiBBnQLTAIHBBZASMmBF4BWpm1BwpH"]⟩,
   ⟨["11.0", "v110"],
    ["grBAnBAmDAtQCzGAqJA3DAtMA.DAz.CA3gBqBCC63DCWYEOrSEgXA71bE.9BAIBkKB0pYBSA3VnBIJmOnBIpBzLA2D",
     "C0PAiJA7VAlH7BhTAiWFBBBkBBBBFHJ2JYn6T6CyqGEu3ST_DG4nGjC6jBApuBA7GD0LCcECDDABDYKNJHBkBYgDN"]⟩,
   ⟨["12.0", "v120"],
    ["3jDAuQACACABFEAHAHBCANA.xDAu2DA1BAvSAqreFCE.cB4jZWojBA4SAnXHCtBCK.EB6pBxBNAwhFIs4OFEAvBI6C",
     "BugGF4qKCRD48LsBDNCJEBwL5BFAryBA1d8BuhBAorBAkBAlHLhJCvBAxBAJApBFDBKFDHCCwBzCcDECFCNF"]⟩,
   ⟨["12.1", "v121"], [".3MA"]⟩,
   ⟨["13.0", "v130"],
    ["_lCJtUAuNA8DA9pDB2mEA4VCobE2.GJwxUMq_BDqBB1BA7ZDwxVAjnDpBBCCB_Hb7LAmEBqUAFB_kBGCACHBBBdBBC",
     "LJJ2yBAzhUALBh4GiPqBIkgZC9CC9BAopBBjBBzNB6CAlDAEBqBBGCdAoFAODPSHGJCNGpByEB2BlBJ92qBGipWq6E"]⟩,
   ⟨["14.0", "v140"],
    ["9wBAySeBBGHVASKpbAgBA.DAvxCAHAJAvHAxVN9DAwBB7TAlWAu7CAvBAzPK.scCg_BBOBBABEYCt_UA9LP.DAuBBw",
     "7BKBOBGBBBKBOBGBBjOFBpBBI19BZmHFsCA2vBAmEGpbPwmFiD9zOuCBJmpRDBGBBgJD9uHtBCWJzDlRB1oDexbexp",
     "BGBDBBBO_2DCwIAoMAyCAuFBsBDKDICRCGHIGn.qBB1iED"]⟩,
   ⟨["15.0", "v150"],
    ["znDA6OAuhgCC.ZC_lCJ2fQBoBDb1mFAJc8mfAiBAqrITxiDFlI9BhBAgiBpBivEA3ECEE5CA7UCPBkBCLCBAOBKBMA",
     "OBgivBA2gX.iE"]⟩,
   ⟨["15.1", "v151"], ["8.LDvPAgwuFtT"]⟩,
   ⟨["16.0", "v160"],
    ["3kCA21EBvBApIB88BC6tDBlvdCMCjvXzBs6BlBDcIByJC3BAjkBJBACABlBBJBACABDBJBBIBtXT8mBhBOJgbAloF6",
     "8DloH5BmgD5Bl8HAg4P5HGzN84FqBEAy1EJEBnOAFAuBAHAVACAJAhHkB"]⟩]

end Recast.Text.Property
