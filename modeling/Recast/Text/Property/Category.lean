import Recast.Text.Property.Table

/-!
The general categories, which divide all characters that are not surrogates.
-/

namespace Recast.Text.Property

def categories : List Property :=
  [⟨["cc", "control", "cntrl"], ["Af.CgB"]⟩,
   ⟨["cf", "format"], ["tFAyqBFWAgGAxBAgMBwCAr5DA8.BEaExBEBJv03BA5HChmEAPAi7IPgjiBDvmFHm0rYAe.C"]⟩,
   ⟨["cn", "unassigned"],
    ["4bBGDHABAUAtMAmBByBBDA3BHbDGKuIA8BBlDN7BBxBBPAcBBALEfACEtHAIBCBWAHABCEBJBCBEHBDCAFBZBDAGDC",
     "BWAHACACACBBAFDCBDCBGEABGRJDAJADAWAHACAFBKADADBBOEBMGHADAIBCBWAHACAFBJBCBDGDDCAFBSJCAGCDAE",
     "CCABACCCCDCMDFCDAEBBFBNVENADAXAQBJADAEGCADBBBEBKGWADAXAKAFBJADAEGCFCAEBKADLNADAzBADAGDQBaA",
     "DASCYAJABBHCBDGABAIFKBDL6BDdkBCABAFAYABAXBFABAHAKBEfoCAkBDnBAkBAPANkBmGABEBB5LAEBHABAEBpBA",
     "EBhBAEBHABAEBPA5BAEBjCBgBCaF2CBGB9UC5CGWIYIULNADACL_CBKFKFaF5CGrBEmCJfAMDMDBCqBBFKsBDaFLC_",
     "BBhCAdBLFKFOBfwBtCAmFH8BCPC_BErBBLHrBE2QBGBmBBGBIABABABAfB1BAPAOBGATBDAJAlDAMBbANChBOhBOsE",
     "D6UVLU04BBgBA9KEtBABEBB4BGCNYIHAHAHAHAHAHAHAHA_DhBaA5CL2GZwCA2CBnDErBA_CA2CIwBAtzcC3BI8KT4",
     "FHuGBCABAIU7BCKF4BHmCHMF0DKeCuCALDhBA3BIOBKBnDXcJGBGBGIHAHA8BD_DBKFk9KLXDxBDuzIBqDlBHLFEaA",
     "FABACACA9DP9NB2BGBfqBFzBATAEDFAnEBBA_FCGBGBGBDCHAHJFBMAaATACAPBOhB7DEDDtBC4CANCBuBuBhEdCxB",
     "OcDkBIeErBEeAlBDOpB_EBKFkBDkBDoBH0BKMAPAHACALAPAHACC0BL3JIWJIXGAqBAJkCGBBAsBACCBBXAoCHJvBT",
     "ACEhBCbEB.B4BDUByBACEIADAdBDDKGJGgCfnBDMI2BCdBbEaGELHvCpC2BzBMzBGuBHKFmBCdHCvGfAqBADBCPD2B",
     "sBHqBValBcTXIuCDkBIkCJBBZGKF1BASHnBIgDAUKSAvB9BHABAEAPALF7BEKFEAIBCBWAHACAFAKBCBDBBFBEHBHC",
     "FKKABBBAmBAKABBBAEAKACHCc8CAFdoCHKlF2BBmBhBlCKKFNS6BFKFUbbBPDX4F8BjDzCLIBBBIACAeACBMIKlCIB",
     "uBBLaoCHzCMpCGK1FiBNKFJAtBAOJdCgBBWAOoCHACAsBCBACAJHKFGACAlBACAGGK1JZGRApBCd0CBOyBM7clDvDA",
     "FKkGryCjDM2iBJ78DEnS41G6Bl2B5RGfAKDxCAKFeBGJmCJKAHAVETvN6BlG7CkDrCD5BGR.BFKCN4.FH2mBoBKm3I",
     "EAHACAjJOBcDBBNEHsMjoCrDENCJGKBI76D6HF0NrCuBBXI0D7B2HJnBBiGUmC5DULUL3CIZmE1CAnCACBBBCBEAMA",
     "BAHAhCAEBIAHAcAEAFABCHA0KBkJB_VOFAPviBfFG0GHARBHACAFE_BgBBvDtBCOBKDC.JfQ6BEBvOqB1GrBDB.OHA",
     "EACAPAlGBQoBsCDKDCwYkCrC9BhGEAbACABBBAKAEABABFBDBABABADACABBBABABABABACABBEAHAEAEABAKAREDA",
     "FARzBCtIsBDkDLPBPAPAlBJuF3BdMsBDJGCNG5E4eDRCNC3DD.CFMDBOMD4BHKFoBHeBMDC9B0KLOBNCKE4BGPBLFJ",
     "GzEAmDlgBg3pBf6hEF_GBi0FNxpHOuThtC_QhvBr6EEgjEwi3VBdgD.DwHvw.B_..BB_..BB"]⟩,
   ⟨["co", "privateuse"], ["gg4B.nGg4hc9..BC9..B"]⟩,
   ⟨["ll", "lowercaseletter"],
    ["hDZ6BApBXBHBABABABABABABABABABABABABABABABABABABABABABABABABABABABBBABABABABABABABBBABABAB",
     "ABABABABABABABABABABABABABABABABABABABACABABCCABACADBEACADCCACABABACABBBACADABACBCCGACACAB",
     "ABABABABABABABBBABABABABABABABABBCABADABABABABABABABABABABABABABABABABABABABABABABABABABAB",
     "ABABABGCACBBAEABABABABkCBahGABADADCSAbiBBBDCBABABABABABABABABABABABEBACACBzBvBBABABABABABA",
     "BABABABABABABABABABABAJABABABABABABABABABABABABABABABABABABABABABABABABABABACABABABABABABB",
     "BABABABABABABABABABABABABABABABABABABABABABABABABABABABABABABABABABABABABABABABABABABABABA",
     "BABABAwBoBn6CqBCC4XFikCIBA1DrB.BMBhBmDABABABABABABABABABABABABABABABABABABABABABABABABABAB",
     "ABABABABABABABABABABABABABABABABABABABABABABABABABABABABABABABABABABABABABABABABABABABABAB",
     "ABABABIBABABABABABABABABABABABABABABABABABABABABABABABABABABABABABABABABABABABABABABABABAB",
     "ABABABABABABABIIFKHIHIFKHIHINCHIHIHIEBBGADCBBIDCBIHKCBByIADBDAbAEAEACBIDEA1BAr1CvBBADBBABA",
     "BAEABBBFFABABABABABABABABABABABABABABABABABABABABABABABABABABABABABABABABABABABABABABABABA",
     "BABABABABABABABABBHABAEAMlBBAFAzoeABABABABABABABABABABABABABABABABABABABABABABATABABABABAB",
     "ABABABABABABABABAnEABABABABABABCBABABABABABABABABABABABABABABABABABABABABABABABABABABABABA",
     "BABABHBABACABABABABAEABACABCBABABABABABABABABABAFAFABABABABABABABAEABACADABABABABABAaADA1Z",
     "qBFIHvCg6TGMEphBZtmBnBoEjB7EKBOBGBBj4ByB9DV65CfgsVf6sZZaGBRaZaDBABGBKaZaZaZaZaZaZaZaZabcYB",
     "FaYBFaYBFaYBFaYBFBA05BJBTGF3vChB"]⟩,
   ⟨["lm", "modifierletter"],
    ["wVRELOEHABAlEAFA_OAmHAkFBtIBEAfAJADAgFAnFA0mBA.DA1RA62BArDAjTAwOFuF_BNAiBkBxVANAQM._CBxHA.",
     "FA1OArBEFAhDB9CC24bAinBFuIAyDAcB5DIwCAXApDCDB1OAWApEAsDAVBnDDJAmgVAtBBg.BFBpBBIzsBAgBAwuXD",
     "8PCoBBmRMgCBBAsgQDBGBBxhM9BpGGtdA.iBA"]⟩,
   ⟨["lo", "otherletter"],
    ["qFAPAgIAEDwGA7ZaEDtBfBJjBBBiDBAYBKCCAQABdd4CLAYgBVVqBYHKFXBFRoB7B1BDASAHJQOEHCBCVBGBADDDAQ",
     "ANBBCOBKAIFEBCVBGBBBBBBfDBATCQIBCBVBGBBBEDASAPBXALHCBCVBGBBBEDAeBBCPARABFDCBDDBBABBDBDCDLW",
     "A0BHBCBWBPDAaCCACBeAEHBCBWBJBEDAfBBBPBRIBCBoBCAQAFCICYFFRDXBIBACG6BvBBBMF7BBBABEBXBABJBBJA",
     "CEXDgBA.BHBjBbEzDqBUAQFEDDADBHCEMMAxDoKBDCGBABDCoBBDCgBBDCGBABDCOB4BBDCiClBPxDrTCQBZFqCGHH",
     "RNSOROMBCPzBoBAjCiBB0BHEChBBAFlCKexBdCELrBEZ2BWJ0BwFuBRH2BdNBKrBajBpBCKdxDDBFBBDA6hBD3.C3B",
     "YWJGBGBGBGBGBGBGBGnRA1BAE1CIAB5CEAFqBB9CRfwBPgQ.tGgC0wUB2jBjCnBIrIEPKBiCAxBlCpFAnDADGBCBDB",
     "WdzBOxB_BFDABBLbKWZcHuBtBECIKEBoBXCBHUPBFDADxBBADBCECABAYBDKHAOFCFCFJGBGxEiBdj9KMWEwBkoItL",
     "CpDjCABJBMBEBABBBBBrDhBqLS.BC1BoBL0DEBmEpDJBsBCeDFCFCFCCjBLBZBSBBBOCNiB6DlMcDwBvBfNTBHGlBK",
     "dCjBEHgEtCiDnBIzB8CzBM2JJVKH4EFCABrBBBDACWKWJehCSBBKVKZmC3BGBgCAPDBCBcqBcDcjBHBbb1BKVKSNRu",
     "DoC3FjBmBDBAwJpBGBQC7BcKAIVqBRuBUbWM0B5BBCANsBgBYajBdACAIiBDAMvBODVABAjBRBYTB.BGBABDBOBJHu",
     "BmBHCBCVBGBBBEDASAMEeJBACABlBBAZABAsB0BSDUCevBUBBA4FuBpBDkBvBUA7BqBNAnCalBG5FrBzGHCACHBBBX",
     "PABA_CHCmBQABAcAKnBHAVALtBTASoCnGgBfIBkBRAxBdwDGBBBlBVAZFBBBfOAnKSPABMBhB8DAvC5cmHjGsyCgDP",
     "vhBRFZ68DFmS51Gdi3B4RHeRuCRdSvBzBUFSzNnB1MqCFAvF3.FI1mBpBJ33IiJPAdCCAODIrMkoCqDFMDIHJwzIA1",
     "PsBhBAhKdSrBkPalHdCAvPGBDBBBOBkG7pBDBaBBBACABJBDBABAGAEABABABCBBBACABABABABABBBACDBGBDBDBA",
     "BJBQFCBEBQkqE.2pBgB5hEG9GCh0FOwpHPtTitC9QivBq6EF.iE"]⟩,
   ⟨["lt", "titlecaseletter"], ["lOACACAmBA1sHHIHIHMAPAvBA"]⟩,
   ⟨["lu", "uppercaseletter"],
    ["hCZlDWBGhBABABABABABABABABABABABABABABABABABABABABABABABABABABABACABABABABABABABACABABABAB",
     "ABABABABABABABABABABABABABABABABABABABBBABADBBABBBCCDBBBCDBBBBABABBBACABBBCBABBDAHACACACAB",
     "ABABABABABABACABABABABABABABABACACABCBABABABABABABABABABABABABABABABABABABABABABABABABABAB",
     "ABABAHBBBCABDBABABABAhJABADAIAGABCBABBBQBIjBACCDABABABABABABABABABABABAFACABBCyBwBABABABAB",
     "ABABABABABABABABABABABABAJABABABABABABABABABABABABABABABABABABABABABABABABABABABBBABABABAB",
     "ABACABABABABABABABABABABABABABABABABABABABABABABABABABABABABABABABABABABABABABABABABABABAB",
     "ABABABABAClBp6ClBBAFAyW1CzkCAGqBCCgKABABABABABABABABABABABABABABABABABABABABABABABABABABAB",
     "ABABABABABABABABABABABABABABABABABABABABABABABABABABABABABABABABABABABABABABABABABABABABAB",
     "ABABAJABABABABABABABABABABABABABABABABABABABABABABABABABABABABABABABABABABABABABABABABABAB",
     "ABABABABABABAJHIFKHIHIFLABABABAIHoCDMDMDMELDmIAEADCCCCADEGABABABDCDKBFA9BA8zCvBwBABCCABABA",
     "BDBACAICBABABABABABABABABABABABABABABABABABABABABABABABABABABABABABABABABABABABABABABABABA",
     "BABABABABABABABAIABAEAtqeABABABABABABABABABABABABABABABABABABABABABABATABABABABABABABABABA",
     "BABABABAnEABABABABABABADABABABABABABABABABABABABABABABABABABABABABABABABABABABABABABAKABAB",
     "BBABABABAEABACABADABABABABABABABABABABEBEBABABABABABABABDBABBDAFABABABAYAr5VZlmBnBoEjB8EKB",
     "OBGBBq3ByB9EV65CfgsVfgtZZaZaZaABBCACBCDBHaZaBBDCHBGbBBDBEBADGbZaZaZaZaZaZeYhBYhBYhBYhBYhBA",
     "1pEhB"]⟩,
   ⟨["mc", "spacingmark"],
    ["joCA3BACCIDBByBB6BCGBCBKArBA6BCiCA6BCIABB1BB6BABAGBCBKAmDBBBDCBCKApBC9BD9BB6BABECBBBJBcAOB",
     "6BCFCBCKAqBBrCCGHSBqKB.BArFBEAGACBZBKCCGVBCFCAKC4zBAeAhEAHHBB6KDCCEBBFgHB6BABAJABBIFxEAwBA",
     "FABEBB9BAeAEBCA8BACCBADBwBHIBrFAVA25EBz.dBCA4CByBPuEBvBAwBBEBCCuDBCBYAtBABAtDACBFAtHBBBBBB",
     "AzgZABA.DAtBCEBzDAYB7BAwBCJBNA9CCDBBAqFCfB6BBBDCBCCJAKB0CCHACABDBBBAlDCIBDAqDCGABDCAtHCGDC",
     "AxDCIBBAtDABBGAnDABBEAlICJA3HFBBEACABAuECIDEA0CAdB_BA3MAOAqDAHACA1GEEBBA_KBMAwBBIBBAovQCkx",
     "D2BoDBzrYBGF"]⟩,
   ⟨["me", "enclosingmark"], ["okBB0xFA_wBDBCrshBC"]⟩,
   ⟨["mn", "nonspacingmark"],
    ["gYvDzIEpIsBBABBBBBAoCKwBUQAlDGCFCBBDjBAea7CK6BIJAYDBIBCBErBC7BIqBXBf3BABAEHEADGKBdA6BAEDIA",
     "UBaACB5BAEBEBCCDAeBDALB5BAEEBBEAUBWFBA6BACABDIAHBLBeA9BAMAyBADA3BABCFCBDHBLBdA6BACAGAFBUBc",
     "B5BBEDIAUBdAoCAHCBA6CACGMHiDACILGpCBbABABA3BNBEBBFKBjBJAmDDBFBBCBZBECQDNACBGAPA.VCydCdBeBe",
     "BgCBBGIACKJAtBCBA1DBiBA2DCEBJAGC7GBCA6BABGBABACHGJCAwBNBPxBDwBABEBAFAoBIMBgBDCBBC4BABBDABC",
     "6BHCB4ECBMBGEAGADBmG.BwWMEADL_.CCtEAgDfqRDrDB0udAEJgBBwCBwIADAEAZBFA3EBaRNAmBHZKuBCwBACDCB",
     "nBAjCFCBCBMAIAvBAzBABCCBFBBAqBBIAuHACAEAw5TAhXPQPteAiHA1EEm0BCBBFDoBCEAlFB9RDhCE9JBvCDmCKx",
     "BD7DA2BOpBACBKCxBDCBHA9BCkBEBH_BAMB0BIKDCA.CCCABBGACA9EADHVB5BBDAlBGDEmCFNABABAOB1CHCCBAXA",
     "0CFBAEBBBuHDGBBBbB1CHCABBqDABACFBAlDABACDBEjIIBBgIBBAEAwEDCBEAgBJoBFCDIAJFCCuBMBB2MGBFBAyC",
     "VCGBBBB6DFDABBBGBAoCBDABA7KBLB0BEFABAXAlnFAGOomLLDCguCE7BG4gBA.BDxCA4lTBhzEtBCWgRCRHCGeD0E",
     "C79B2BExBIAOAWEBOwqBGBQCGBBBEkDAgFG3LA9BD8PD_HBgXGtDG19lYvH"]⟩,
   ⟨["nd", "decimalnumber", "digit"],
    ["wBJmxBJmEJmGJ8MJ2DJ2DJ2DJ2DJ2DJ2DJ2DJ2DJ2DJgDJ2DJmCJ2IJmCJm6BJmBJsJJgEJmFJGJ2FJ2CJmEJGJmui",
     "BJmVJmBJmGJWJ2CJ2MJ24UJmsBJmkCJGJ8YJgEJ8BJwEJ2IJ2KJ2DJ2LJmDJGTsCJmNJmDJ2UJ2CJ2HJmCJmNJ2uQJ",
     "mpCJ2CJmEJ2QJ27XJ02CxBgqCJmNJ2PJ3HJ1aJ20EJ"]⟩,
   ⟨["nl", "letternumber"], ["u3FCvzCiBCD_zDAZIOCr1dJwyW0BsOAIAmEEqhIuD"]⟩,
   ⟨["no", "othernumber"],
    ["yFBFACC1pCF4LF4DClEG5GGRIxNJ1hBTzjBJgPA10BADFGJmGPpBA2W7BuCV2TdprBA0kBDqEJeHBOgBJnBOwrdFxm",
     "WsBhCDRB1KakBD0pBHZGnBIrCEWFgFBCPCtBgCI0BBeCrCEoDHYHpBGqKFgLe_EJqBDwDGmET7LTlqBBuNInbSzaUm",
     "8SG_YWphZTMTsDYuqFIhd6BBCBDsCsBBOieM"]⟩,
   ⟨["pc", "connectorpunctuation"], [".CA._HBTA_u3BBYCvHA"]⟩,
   ⟨["pd", "dashpunctuation"], ["tBA8qBAzBAhyDAlgBApgCFhwDACAfBEAcA_NATAvDAwszBBlBAKApFAgzDA_JA"]⟩,
   ⟨["pe", "closepunctuation"],
    ["pBAzBAfA91DABA_6BAptCA3BAPA6TABAeA_hBABABABABABABAwCAgBABABABABA0MABABABABABABABABABABAgCA",
     "BAhBAlhBABABABAsBABABABAsNABABABABADABABABACB_ozBA5GAdABABABABABABABADARABABAqFAzBAfACACA"]⟩,
   ⟨["pf", "finalpunctuation"], ["7FA96HADAcAouDABAEACAPADA"]⟩,
   ⟨["pi", "initialpunctuation"], ["rFAs7HACBCAZAouDABAEACAPADA"]⟩,
   ⟨["po", "otherpunctuation"],
    ["hBCBCCABABBKBDBbAkCAFAOBHA_VAIAyOFpBA2BACACAsBBUBBBNABCqCDmDArBNpHC2BOfAlIBKAsEA4DA5DAmMAM",
     "AvLA6CAKBoFOBAwDAqCEEBvDFrFAkTIlYA8DCnCB9ECBClBFBD5JB4GBgEGBFgFBKGcC8DD7BE_BBgCHLAiaBIHIIC",
     "DCCDKBABJ6kDDBBwDAvEBECCACIBBBACBKEBJCDBABMCCsNC5BA9FAigdBtICjDAKAzDF8LD2CBoBCBAxBBvBAhDMQ",
     "B8DD_DBQB5HAkxUGCAWAUBCDDCBDHCGABB1ECBCCABABBKBDBbAkBACB6MC8UAwBA_MAnXAnGAfAwIImBAwDGiCG5C",
     "D4dEsBD9FGtDBBD_DDwBBvCDEANABC4CFrDAqJBBByDEKBBAoDA6HWpDCcMsCAiEC8HAoIC7EA8CHzCCBE9CJ3GA.C",
     "EqBBlUBqCMvFAwjBE87CB7zOBlEAhCEIAoRCnJDnKA8lTAnvHEz7CA_aB"]⟩,
   ⟨["ps", "openpunctuation"],
    ["oBAyBAfA_1DABA_6BA_rCADAmBA3BAPA6TABAeA_hBABABABABABABAwCAgBABABABABA0MABABABABABABABABABA",
     "BAgCABAhBAlhBABABABAZASABABABAsNABABABABADABABABACAhpzBA3GAdABABABABABABABADARABABAqFAyBAf",
     "ADACA"]⟩,
   ⟨["sc", "currencysymbol"],
    ["kBA9DDpnBA7DAyPByPBHA1HAnIAlSA7sCAkmCgB37hBAjuVAsDA6EA7GBDB2.HD_4wBAwtCA"]⟩,
   ⟨["sk", "modifiersymbol"],
    ["_CABAnCAGAEADApQDMNFGBABQ1DAOBioBA05FABCLCNCNCNB8kEBjzdWJBnDBweAOBmiUQ7bABAiFA3g9BE"]⟩,
   ⟨["sm", "mathsymbol"],
    ["rBAQC9BABAtBAEAlBAfA_XAvQC7xGANAnBCNCrEAnBEGAkCEFBEACACAHAfBCABAfrIgBB6CAeYoBF1OAJA2BHvDAw",
     "KECeKPgIiEW_BEfChIwBUCF8_zBA4ZABCkFAQC9BABAjEAGDhtDBxpyBAZAfAZAfAZAfAZAfAZAs5FB"]⟩,
   ⟨["so", "othersymbol"],
    ["mFACAEABAxeAqIB.DBuGAKATB3HAjQA1LAiEFBAkEAvGApBAnMCPABCCFUABABAlEHBFBBFDlGBwXJzWAyWA9EhBhL",
     "JJIjsBBBDBBKABBGFBABABAEALBOABBBA6BBJECDBBBBBGBeCBBABesIHETCGCwCBdZnBGnCWKxCtCW2FBIB1BIuDB",
     "3HsBrBgC.HgQvBVBGmBCfBoDlHFlLBuBZB4CM1GaPEANBMAVBGBwKBEJgBlBJAQeLdIAPfKmBP.JguG.Bw0V2BhbDK",
     "BBA9RCm2UP.DAtBCkPADAEBNB5JI5BQCCBMDAvBsB6zBBvSA2jDA1kCHEQq6SDFA2qUAj7DvHQzN8EzD8B1HKmBC7B",
     "FCWBHdE8BVhCDA6F2CplB.P3BDyBHBNBBo2BA86CAhEAxWrBEjDMOCOBOBkBXgF4BcNrBEIHBOF6E6HF3WEQDMD2DE",
     "_CGLEAPLE3BIJGnBIdCLEB_BzKMNCMDJF3BHOCKGIHyEB7C"]⟩,
   ⟨["zl", "lineseparator"], ["ohIA"]⟩,
   ⟨["zp", "paragraphseparator"], ["phIA"]⟩,
   ⟨["zs", "spaceseparator"], ["gBA.DA.uFA.rCKkBAvBAg9DA"]⟩]

end Recast.Text.Property
