import Recast.Text.Property.Table

/-!
Traits of characters that cut across the categories.
-/

namespace Recast.Text.Property

def traits : List Property :=
  [⟨["ahex", "asciihexdigit"], ["wBJHFaF"]⟩,
   ⟨["alpha", "alphabetic"],
    ["hCZGZvBAKAEAFWBeBpOELOEHABA2CAdRBBCDBAGABCBABTByCBqEIlFBlBCAGoBnBNBABBBBBAIaEDdKF3BBGOlDBH",
     "EHECKCCAQvBNkDYgBJBEAFXCSTYHKFXBFIAIpBKLDGGrCBPBCEONSBHCBCVBGBADDDHCBCBBAIAEBBEMBKAECBFEBC",
     "VBGBBBBBBEEEBCBEAHDBARFLCBIBCBVBGBBBEDIBCBBDAPDVDECBHCBCVBGBBBEDHCBCBJBEBBENAQBBFDCBDDBBAB",
     "BDBDCDLEEDCBCDAGAoBMBCBWBPDHBCBCIBBCCACDcDBHBCBWBJBEDHBCBCIBGBBDNCMMBCBoBCHBCBCBAFDHEWFBCB",
     "RDXBIBACGIFBABHSBN5BFGGAzBBBABEBXBABSBCCEBAGAODgBA.BHBjBESEPBjBjC2BBACEQ.BKDClBBAFACqBBsKB",
     "DCGBABDCoBBDCgBBDCGBABDCOB4BBDCiClBPQ1CCFDrTCQBZFqCDKHTLUMTMMBCBBMzBCSOAEAjC4CHqBFlCKeBLEI",
     "XdCELrBEZ2BbE_BCTyBAXBLCxBzBBOBHzBpBCDKrBBKO2BWCKjBCKFqBCCpBDBFBBDAF.FThBL1ICFClBCFCHBABAB",
     "ABeC0BBGBADCBGDDCFEMFCBG0DANAQMlDAEACJBADEGABABABDBKCDFEEARoBtZzB24BkHGDDBMlBBAFAC3BHAQWJG",
     "BGBGBGBGBGBGBGBfvBA1OCZIHECEE1CGCB5CBDFqBB9CRfwBPgQ.tGgCs0VjCtBCsIDPKBUuBFHDwDnBICmDCiCCBB",
     "ABHVTBgBYzBMjCBAsBFDABCKgBFiBNcDyBBLPAQPKEB2BJNSWDkCBABAYCCPCDLFCFCFJGBGBqBBNG6DVj9KMWEwBk",
     "oItLCpDmBGMEFLBMBEBABBBBBrDhBqLS.BC1BoBL0DEBmEkBZGZL4CDFCFCFCCjBLBZBSBBBOCNiB6DlC0BrIcDwBv",
     "BfNdFqBFdCjBEHBEqB9ESjBEjBEnBIzBMKBOBGBBBKBOBGBBDzBM2JJVKHYFBpBBIlCFCABrBBBDACWKWJehCSBBKV",
     "KZmC3BGBgCDBBFHBCBcqBcDcjBHBbb1BKVKSNRuDoC3ByBNyBNnBiBbDAFW6HpBBBDBQC3BADcKAIVqBRuBUbWJlCr",
     "BEK4BJANYXyBRDIiBDAJ.BBDJBKABAjBRBhBCAGD_BGBABDBOBJH4BXDBHCBCVBGBBBEDHCBCBDAGAFGcJBACABlBB",
     "JBACABDBBDABAsBhCBCBDUCehCCBBA4F1BCGZFiB_BBADA7B1BCAnCaCNVG5F4BnD.BfHCACHBBBdBBCBCD9CHCtBC",
     "FBABBbyBCJRnCFASoCnGgBfIBsBBGBAxBdCVBNpCGBBBrBDABBBCBACBYFBBBkBBBBDBAnKWJQBoBDCvDAvC5cmDuD",
     "RjGsyCgDPvhBRFZ68DFmS51GuBx2B4RHeRuCRdSvBQDfUFSwNsBzG.BgEqCE4BHQgCBBAMBO3.FI1mBpBJn3IDBGBB",
     "BiJPAdCCAODIrMkoCqDFMDIHJEAh7F0CBmCBBCACBCDBLBABGBgCBDCHBGBbBDBEBADGBzKCYBYBeBYBeBYBeBYBeB",
     "YBH05BeGF1GGBQCGBBBEF9BhBAwDsBKGQAhKdSrBkPbkHdCAvPGBDBBBOBkG7BjCDADA0lBDBaBBBACABJBDBABAGA",
     "EABABABCBBBACABABABABABBBACDBGBDBDBABJBQFCBEBQ0TZGZGZ2zD.2pBgB5hEG9GCh0FOwpHPtTitC9QivBq6E",
     "F.iE"]⟩,
   ⟨["bidic", "bidicontrol"], ["8wBAxvGBaE3BD"]⟩,
   ⟨["bidim", "bidimirrored"],
    ["oBBSABAcABAdABAtBAPA_zDD96BB8sCBKB2BBOBxFAgGDDFDADBDDBDBABAEIFABRFDJBBABHBfCDFAJBCSFBJECBE",
     "XCPIDUBHB9hBNqCACDBBBCFDFCDNzMVCFBNIAHFDAEEBBCEEABCCBKFCBMSBDCABACABDFBGCYBLBEDBBCBEqBCHBn",
     "BFABADEFCEADEBAgIAjQDDBBBOBCJrBHrNJCH9xzBFFBiFBSABAcABAdABABBBB371BA5BA5BA5BA5BA"]⟩,
   ⟨["ci", "caseignorable"],
    ["nBAGALAjBABAnCAEABAEACB3P.FEBEAJBBA7HGvGAFAxBsBBABBBBBAsBALFKKBAjBAKUQAlDHBJBDhBABAea7CK6B",
     "KEACAYXrBCsBAHBFIpB5B3BABAEHEADGKBNAPA6BAEDIAUBaACB5BAEBEBCCDAeBDALB5BAEEBBEAUBWFBA6BACABD",
     "IAHBLBeA9BAMAyBADA3BABCFCBDHBLBdA6BACAGAFBUBcB5BBEDIAUBdAoCAHCBA6CACGLIiDACIJABGpCBbABABA3",
     "BNBEBBFKBjBJAmDDBFBBCBZBECQDNACBGAPA_CAgTCydCdBeBeBgCBBGIACKDAFAtBEzBAhCBiBA2DCEBJAGC7GBCA",
     "6BABGBABACHGJCAnBAIexBDwBABEBAFAoBIMBgBDCBBC4BABBDABC6BHCBgCFyCCBMBGEAGADByB_BNAiBkD9NABCL",
     "CNCNCNBMEIBKACACExBEBJBANAQMzBgBr8CBxDC9DAPAgDfvBA1OAkBDDEFA9CF9CC24bAinBFuIAiDDBJBAcDwCBO",
     "hBuCAXCnDCDBIADAEAZBFA3EBaRNAmBHZKuBCwBACDCBRAVBiCFCBCBMAIAjBALAzBABCCBFBBAbAOBFBBAkDEJC5D",
     "ACAEAw5TAzEQ9RPDAMPiBACApFAHAGALAjBABAvBAtBBjCAVChQAiHA1EElgBFBpBBImSCBBFDoBCEAlFB9RDmBAaE",
     "BA7JBvCDmCKxBD7DA2BOpBACBKCxBDCBCAEAKAyBCkBEBH_BAMB0BIKDCA.CCCABBGACA9EADHVB5BBDAlBGDEmCFN",
     "ABABAOB1CHCCBAXA0CFBAEBBBuHDGBBBbB1CHCABBqDABACFBAlDABACDBEjIIBBgIBBAEAwEDCBEAgBJoBFCDIAJF",
     "CCuBMBB2MGBFBAyCVCGBBBB6DFDABBBGBAoCBDABA7KBLB0BEFABAXA1mFQGOomLLDCguCE7BGJD8PCoBBiPA.BQgC",
     "BBBrgQDBGBB_kDBBD8yEtBCWgRCJPCGeD0EC79B2BExBIAOAWEBOwqBGBQCGBBBEF9BhBAgFNwLA9BD7PE_HBgXGtD",
     "Hv1CEhgjYAe.CgEvH"]⟩,
   ⟨["cased"],
    ["hCZGZvBAKAEAFWBeBiGBDEvGBjBHBeEgDAqBDCBCDBAGABCBABTByCBqEIlFBlBJoB34ClBBAFACqBBDgV1CCFikCK",
     "FqBCCgC.FgC1ICFClBCFCHBABABABeC0BBGBADCBGDDCFEMFCBG0DANAQMlDAEACJBADEGABABABDBFEACDFEEARfD",
     "BxZzB24BkHGDDBMlBBAFAyoetBSdkElDDDB9BCBBABHVEBC1ZqBBNGvCg6TGMEpgBZGZllBvCgDjBEjB0DKBOBGBBB",
     "KBOBGBBjOACCBpBBIlmByBNyB9CVKV64C.BgrV.BgsZ0CBmCBBCACBCDBLBABGBgCBDCHBGBbBDBEBADGBzKCYBYBe",
     "BYBeBYBeBYBeBYBH05BJBTGFlI9BykCjCs.BZGZGZ"]⟩,
   ⟨["cwcf", "changeswhencasefolded"],
    ["hCZ6CAKWBHgBABABABABABABABABABABABABABABABABABABABABABABABABABABABACABABABABABABABABBBABAB",
     "ABABABABABABABABABABABABABABABABABABABABBBABABABBBABBBCCDBBBCDBBBBABABBBACABBBCBABBDAHBBBB",
     "BBABABABABABABABACABABABABABABABABACBBABCBABABABABABABABABABABABABABABABABABABABABABABABAB",
     "ABABABABAHBBBCABDBABABABA2HAqBABADAIAGABCBABBBQBIWAMCDBBABABABABABABABABABABABABBCBBABBCyB",
     "wBABABABABABABABABABABABABABABABABAJABABABABABABABABABABABABABABABABABABABABABABABABABABAB",
     "BBABABABABABACABABABABABABABABABABABABABABABABABABABABABABABABABABABABABABABABABABABABABAB",
     "ABABABABABABABABABAClBwBA44ClBBAFAqZFikCJGqBCCgKABABABABABABABABABABABABABABABABABABABABAB",
     "ABABABABABABABABABABABABABABABABABABABABABABABABABABABABABABABABABABABABABABABABABABABABAB",
     "ABABABABABABABABAFBCABABABABABABABABABABABABABABABABABABABABABABABABABABABABABABABABABABAB",
     "ABABABABABABABABABABABABABAJHIFKHIHIFLABABABAIHQvBCCCFFCCFLDMEFCCFpJADBGAtBPTAyZZw5BvBwBAB",
     "CCABABABDBACAICBABABABABABABABABABABABABABABABABABABABABABABABABABABABABABABABABABABABABAB",
     "ABABABABABABABABABABABAIABAEAtqeABABABABABABABABABABABABABABABABABABABABABABATABABABABABAB",
     "ABABABABABABABAnEABABABABABABADABABABABABABABABABABABABABABABABABABABABABABABABABABABABABA",
     "BAKABABBBABABABAEABACABADABABABABABABABABABABEBEBABABABABABABABDBABBDAFABABABAYA6bvCg6TGME",
     "pgBZlmBnBoEjB8EKBOBGBBq3ByB9EV65CfgsVfg1ehB"]⟩,
   ⟨["cwcm", "changeswhencasemapped"],
    ["hCZGZ6BAKWBeB.BBzCBbCNCBBAE8CBRGaBBBABBDBBDBECABBCAHACABBDFFAKBmFAqBDCBDCBAGABCBABTBuBDgBB",
     "EBkEIlFBlBKmB44ClBBAFACqBCCgV1CCFikCKFqBCC5FADAQAxD7ECAB1DCFClBCFCHBABABABeC0BBGBADCBGDDCF",
     "EMFCBGpJADBGAbARfDBxZzB24BwDBBBBHlDHDDBMlBBAFAyoetBSbmENC9BJODCCEBYBdCBEGYB8aAcvCg6TGMEpgB",
     "ZGZllBvCgDjBEjB0DKBOBGBBBKBOBGBBj2ByBNyB9CVKV64C.BgrV.Bg0ejC"]⟩,
   ⟨["cwl", "changeswhenlowercased"],
    ["hCZlDWBGhBABABABABABABABABABABABABABABABABABABABABABABABABABABABACABABABABABABABACABABABAB",
     "ABABABABABABABABABABABABABABABABABABABBBABADBBABBBCCDBBBCDBBBBABABBBACABBBCBABBDAHBBBBBBAB",
     "ABABABABABABACABABABABABABABABACBBABCBABABABABABABABABABABABABABABABABABABABABABABABABABAB",
     "ABABAHBBBCABDBABABABAhJABADAIAGABCBABBBQBIjBAIABABABABABABABABABABABAFACABBCyBwBABABABABAB",
     "ABABABABABABABABABABABAJABABABABABABABABABABABABABABABABABABABABABABABABABABABBBABABABABAB",
     "ACABABABABABABABABABABABABABABABABABABABABABABABABABABABABABABABABABABABABABABABABABABABAB",
     "ABABABAClBp6ClBBAFAyW1CzkCAGqBCCgKABABABABABABABABABABABABABABABABABABABABABABABABABABABAB",
     "ABABABABABABABABABABABABABABABABABABABABABABABABABABABABABABABABABABABABABABABABABABABABAB",
     "ABAJABABABABABABABABABABABABABABABABABABABABABABABABABABABABABABABABABABABABABABABABABABAB",
     "ABABABABABAJHIFKHIHIFLABABABAIHYHIHIHIELELDMELEpJADBGAtBPTAyZZw5BvBwBABCCABABABDBACAICBABA",
     "BABABABABABABABABABABABABABABABABABABABABABABABABABABABABABABABABABABABABABABABABABABABABA",
     "BABAIABAEAtqeABABABABABABABABABABABABABABABABABABABABABABATABABABABABABABABABABABABABAnEAB",
     "ABABABABABADABABABABABABABABABABABABABABABABABABABABABABABABABABABABABABAKABABBBABABABAEAB",
     "ACABADABABABABABABABABABABEBEBABABABABABABABDBABBDAFABABABAYAr5VZlmBnBoEjB8EKBOBGBBq3ByB9E",
     "V65CfgsVfg1ehB"]⟩,
   ⟨["cwt", "changeswhentitlecased"],
    ["hDZ6BApBXBHBABABABABABABABABABABABABABABABABABABABABABABABABABABABACABABABABABABABBBABABAB",
     "ABABABABABABABABABABABABABABABABABABABACABABCCABACADAFACADCCACABABACAEACADABACADABAEABBBBB",
     "ABABABABABABABABBBABABABABABABABABCBABADABABABABABABABABABABABABABABABABABABABADABABABABAB",
     "ABABABAIACBBAEABABABABFBBBABBDBBDBECABBCAHACABBDFFAKBmFArBABADADCSAbiBBBDCBABABABABABABABA",
     "BABABABEBACACA0BvBBABABABABABABABABABABABABABABABABAJABABABABABABABABABABABABABABABABABABA",
     "BABABABABABABABACABABABABABABBBABABABABABABABABABABABABABABABABABABABABABABABABABABABABABA",
     "BABABABABABABABABABABABABABABABABABAxBmBwzDFikCIBAuHADAQAyDABABABABABABABABABABABABABABABA",
     "BABABABABABABABABABABABABABABABABABABABABABABABABABABABABABABABABABABABABABABABABABABABABA",
     "BABABABABABABABABABABABABABGFABABABABABABABABABABABABABABABABABABABABABABABABABABABABABABA",
     "BABABABABABABABABABABABABABABABABIIFKHIHIFKHIHINCHIHIHIEBBGADCBBIDCBIHKCBB2KAhBPEAraZm6BvB",
     "BADBBABABAGACAKABABABABABABABABABABABABABABABABABABABABABABABABABABABABABABABABABABABABABA",
     "BABABABABABABABABABABABAIABAEAMlBBAFAzoeABABABABABABABABABABABABABABABABABABABABABABATABAB",
     "ABABABABABABABABABABABAnEABABABABABABADABABABABABABABABABABABABABABABABABABABABABABABABABA",
     "BABABABABAKABACABABABABAEAEABBCABABABABABABABABABALABABABABABABABAEABACADAFABABAaA8aAcvCg6",
     "TGMEphBZtmBnBoEjB7EKBOBGBBj4ByB9DV65CfgsVfi1ehB"]⟩,
   ⟨["cwu", "changeswhenuppercased"],
    ["hDZ6BApBXBHBABABABABABABABABABABABABABABABABABABABABABABABABABABABACABABABABABABABBBABABAB",
     "ABABABABABABABABABABABABABABABABABABABACABABCCABACADAFACADCCACABABACAEACADABACADABAFBBBBBB",
     "ABABABABABABABBBABABABABABABABABBBBBADABABABABABABABABABABABABABABABABABABABADABABABABABAB",
     "ABABAIACBBAEABABABABFBBBABBDBBDBECABBCAHACABBDFFAKBmFArBABADADCSAbiBBBDCBABABABABABABABABA",
     "BABABEBACACA0BvBBABABABABABABABABABABABABABABABABAJABABABABABABABABABABABABABABABABABABABA",
     "BABABABABABABACABABABABABABBBABABABABABABABABABABABABABABABABABABABABABABABABABABABABABABA",
     "BABABABABABABABABABABABABABABABABAxBmBo6CqBCC4XFikCIBAuHADAQAyDABABABABABABABABABABABABABA",
     "BABABABABABABABABABABABABABABABABABABABABABABABABABABABABABABABABABABABABABABABABABABABABA",
     "BABABABABABABABABABABABABABABABGFABABABABABABABABABABABABABABABABABABABABABABABABABABABABA",
     "BABABABABABABABABABABABABABABABABABABIIFKHIHIFKHIHINC0BBBEABADCBBEADDCBIHKCBBEAxKAhBPEAraZ",
     "m6BvBBADBBABABAGACAKABABABABABABABABABABABABABABABABABABABABABABABABABABABABABABABABABABAB",
     "ABABABABABABABABABABABABABABAIABAEAMlBBAFAzoeABABABABABABABABABABABABABABABABABABABABABABA",
     "TABABABABABABABABABABABABABAnEABABABABABABADABABABABABABABABABABABABABABABABABABABABABABAB",
     "ABABABABABABABAKABACABABABABAEAEABBCABABABABABABABABABALABABABABABABABAEABACADAFABABAaA8aA",
     "cvCg6TGMEphBZtmBnBoEjB7EKBOBGBBj4ByB9DV65CfgsVfi1ehB"]⟩,
   ⟨["dash"], ["tBA8qBAzBAhyDAlgBApgCF9BAnBAPAmMAkgDACAfBEAcA_NATAvDAwszBBlBAKApFAgzDA_JA"]⟩,
   ⟨["di", "defaultignorablecodepoint"],
    ["tFAhVAsWAi6CBzyBB1CE7.BEaExBP0nEA7kzBPvHAgFAvCInlvBDvmFHl0rY..D"]⟩,
   ⟨["dep", "deprecated"], ["pKAppBAjoCABAphCBlmCF5VB2m3bA"]⟩,
   ⟨["dia", "diacritic"],
    ["_CABAnCAGAEACB3P_EBHFFRBEAJB9HExGA3BQBaBABBBAmEHEBmEBEBDCjCa7CK6BKiBB_DHpBJQb9BAQADDcAqCAQ",
     "AuDAQAuDAQAvBC8BAQAHA3DAuDAQAuDAQAtDBQA8DAvDAMFBArDANErCBbABABAEBiCCBB_BAwDABBoBBEEZGBAKBh",
     "WC0dBeA0EKJA7KCkJAUHCAwBOCKoDAPAmBI2BB6BALBiCBgCFyCYEAGACCyB_B5CLlBK9NABCLCNCNCNBwnDC9JA6P",
     "FpDD.CAyrdAMBBAcByCBOhBmDCtDBMAlBA3EAbR5BDkBA.CAMAkBA1EChCDzBAkDEJCgEBw5TAhYPuIABAvBAtBBjC",
     "A8XA.kBFBpBBI9TCEAlFB7RFmBAaEvMCmCKxBDgGApBAoCB4DB_BAsCAJCoDByFBwCBQAYGDE5CCBBNB.CADA7DB7H",
     "B_DA2DBzDAtIBiIBEA8EAzCASAxCAlNAiIABBxCApNBXAsnFO5mLAguCE7BG0RBiRQwCB_.PDBGBBh4HtBCWgRCDFI",
     "HCGeDi0D9BiGG3LA9BD_XBgXGtDCBC"]⟩,
   ⟨["emoji"],
    ["jBAGAFJvDAEAt8HAMA4GAWA6CFPBvLBMAmFAZKECnGAnHBKAJA6BDBEJACACBCAEACABBCADADBICFABAFLLBCABBB",
     "ASACBSFBABBDBFACBEBLBFBCAFBBABBUBFFBDCAEACACFBACABABAGADAGAKBPACAEABAECBALBwBCJAOAOA0LBvOC",
     "TBzBAEA6mBAMA5SABAqrvDAqGAgFBMBOACJrCZBBXAUACIVBuFhBCvDCBBCCyCCCBmIB_BLFBXHBCHMACDCAEBNBCA",
     "IBJAFCMCICCABAEAGADAG1CwBlCFHCCEJDABBDACJjHLEA7IuBBJB4FwDMDJF3BHOCKGI"]⟩,
   ⟨["ecomp", "emojicomponent"], ["jBAGAFJz_HA1GArp3BA2_8BZ7PEwtBDszhY.C"]⟩,
   ⟨["emod", "emojimodifier"], ["7.8DE"]⟩,
   ⟨["ebase", "emojimodifierbase"],
    ["9wJA7GAQD3jzDA8BCCACC1DBCKVSDAECBCHABAYApGBEAVAEBuFCDEzCAQCJALA.RACAIHGAJJCC4BA9BBBBBARCBM",
     "lHCqBI"]⟩,
   ⟨["epres", "emojipresentation"],
    ["64IBtGDDACApQBVByBLrBATANAIBRBFBIAFAVAHBBAEACAHAEBcAjBABAECBA9BCYAOA7aBzBAEAulxDAqGA_FACJr",
     "CZBAYAUACEBCVBuFgBMIBlCBVMqBEEMQDADmCBAB6FC_BNDBXSAaBNA2C0CwBlCGADCCCEDLBHIjHLEA7IuBBJB4Fw",
     "DMDJF3BHOCKGI"]⟩,
   ⟨["extpict", "extendedpictographic"],
    ["pFAEAt8HAMA4GAWA6CFPBvLBMA.CAmCAZKECnGAnHBKAJA6BDBFBLBxDK1DCKBABAGADAGAKBPACAEABAECBALEtBC",
     "JAOAOA0LBvOCTBzBAEA6mBAMA5SABAmrvD.HNCfA8BFMBOACJS4BbOKAUACIBDJxNF9JIpIwB.D0DL1CqBMD4BHKFo",
     "BHexCMuBBJB4NgI9f"]⟩,
   ⟨["ext", "extender"],
    ["3FA4QBubA5NA2TApEA5CAwXA.DAjqCA4BAjTAuMAkCAp8EArBEnDB9CC24bA2vBAieAWApEAsDAVB7jVAwgCBruBAb",
     "AEAnmBAlJA0DByPCvmBAplUB8kBBBA4qcBxlBA0aC"]⟩,
   ⟨["grbase", "graphemebase"],
    ["gB_ChBMBxSwDHCFEGBABTB.GHlFBlBCxBCCuBABACACAJaEFRJLABtBVPBkDIAGBCAEfCABdd4CLAOqBJGDXEAJADA",
     "HOBYFABKFeRpB5B2BBABDIDBCHJCcBBBHCBCVBGBADDDABBGBCBBANBBCEXFABFEBCVBGBBBBBBECYDBAHJCCBAMAB",
     "IBCBVBGBBBEDDIABBDAPBELHAIBBHCBCVBGBBBEDACAGBCBPBBCERLABFDCBDDBBABBDBDCDLFABBDCBCDAVUGCBHB",
     "CBWBPDADDTCCACBEJHJBKBCBWBJBEDBCABBYBBBEJBCOKBCBoBCABBFCBCBBECBJEZCBBRDXBIBACGJBGGHJCCMvBB",
     "BLHIMlBBBABEBXBABJBBJACEBAJJCDgBXCaBABABNBjBSAFACExBHBFBMlBsBEAGACBCYCDDPEMBBCFBOBnBBAFAC4",
     "LBDCGBABDCoBBDCgBBDCGBABDCOB4BBDCiCFcDZG1CCFC8UD4CHRNSDBJROMBCPzBCAHHBBLIDJGJGKFJG4CHEChBB",
     "AFlCKeEDCCEBBFHADpBCELrBEZGKD4BCBD3BBAJABBIFNJGJGN2CvBKDDHBcJLCfEBG3BBACCBANvBIBFOD9BFqBCK",
     "LANAHDBFBCCAF.FgC1ICFClBCFCHBABABABeC0BBOBNCFBSCCBIBKFXHwBQBCaBMDgB.BrEE5UWKVz4BCfB3KDBFsB",
     "BAFAC3BHBPWJGBGBGBGBGBGBGBGhB9CiBZB4CM1Ga5BGPB1CEkDFqBB9CB1CJvBBszcD2BJ7KUuBEAKfCvCCFItGCB",
     "BABHVPBCBDBYCEEJG3BIjCKLYMBlBIYLAMdGvBBBEBCBBMBKEGBYBoBGBCBLCBHBACJCfByBBADBCECABAYQCHLFCF",
     "CFJGBGB7BE0DBBBDDJGj9KMWEwBkoItLCpDmBGMEFABXBEBABBBBB8DQ8NC1BHAgBPQJWiBBSBDEEBmEE8ECeDFCFC",
     "FCCDGBGNBCLBZBSBBBOCNiB6DFCEsBD3CBMDAvBsBjEcDwBQaEjBJdFlBKdBkBENqB9ECJGjBEjBEnBIzBLLBOBGBB",
     "BKBOBGBBDzBM2JJVKHYFBpBBIlCFCABrBBBDACWBnCIIwBSBBFgBDaFAgC3BETCuBPDBCBcKIHIH.BgBkBGLJ1BDcC",
     "aFZHDMGwCoC3ByBNyBHpBMJGlBIXIBwGeBpBDACBQC7BnBIVLIWREDmBbUWJAB1BPGEdBBCAMwBEBCBBDOYHJJjBFA",
     "JRIiBBCLzBJABHEBBPBTLRBbDBEFBB.BGBABDBOBKGuBBCNJIBBHCBCVBGBBBEDABABDCBCBDAMGcJBACABlBBABBP",
     "ABBDABCBBnB3BIBDABUBABCevBBBGABBBACACDIJmFuBBBGDCACakByBIBBACDLJGMTqBBABBIBGJGTcaDABBEAJW5",
     "FuBJACAkDyCMHCACHBBBXBEBBGDBCJJmCHCpBIDBDbAKnBGBEHJAGBDtBNACINoCHJ2FhBOJGIBlBOABFKcDfZAHAC",
     "ArCGBBBlBVAJJGFBBBkBEBBABAHJ2JSCDJOBjBIBDW2CAPxBN6cmDuDBELjGsyCiDNvhBRFZ68DFmS51GdMCDJm2B4",
     "RHeBJEwCBJGdHAKvBHOKJBGBUFSwN5BmG6ClDqCF3BLMgCDc3.FI1mBpBJn3IDBGBBBiJPAdCCAODIrMkoCqDFMDIH",
     "JCACAg7D5HGzN8EzD8B1HKmBC7BFCWBHdE8BVhCDA6DTMTM2CJYnE0CBmCBBCACBCDBLBABGBgCBDCHBGBbBDBEBAD",
     "GBzKCjJCxR3BDyBHBNBG0jBeGFlI9ByEsBKGCJEBgKdSrBEJFAwObEJ2GdCKEAgPGBDBBBOBkGCIwBjCHAEJEBxYjC",
     "sC8BiGDBaBBBACABJBDBABAGAEABABABCBBBACABABABABABBBACDBGBDBDBABJBQFCBEBQ0BBuIrBEjDMOCOBOBkB",
     "KtF4BcNrBEIHBOF6E3eEQDMD2DE_CGLEAPLE3BIJGnBIdCLEB_BzKMNCMDJF3BHOCKGIHyEBlDmgB.2pBgB5hEG9GC",
     "h0FOwpHPtTitC9QivBq6EF.iE"]⟩,
   ⟨["grext", "graphemeextend"],
    ["gYvDzIGnIsBBABBBBBAoCKwBUQAlDGCFCBBDjBAea7CK6BIJAYDBIBCBErBC7BIqBXBf3BABAEHEADGKBdA6BABACD",
     "IAJAKBaACB5BAEBEBCCDAeBDALB5BAEEBBEAUBWFBA6BABBBDIAHCKBeA7BABAMAJAoBADA3BABCFCBDHBLBdA6BAC",
     "BBADCBDHBLBcB5BBBACDIAJAKBdAoCAEACCBAIAxCACGMHiDACILGpCBbABABA3BNBEBBFKBjBJAmDDBFBBCBZBECQ",
     "DNACBGAPA.VCydDcCdBeBgCBBGIACKJAtBCBA1DBiBA2DCEBJAGC7GBCA6BABGBABACHGJCAwBexBDwBJECmBIMBgB",
     "DCF4BABBDABE4BHCB4ECBMBGEAGADBmG.BsQAjGgB_.CCtEAgDfqRFpDB0udDBJgBBwCBwIADAEAZBFA3EBaRNAmBH",
     "ZKBAsBCwBACDCBCAkBAjCFCBCBMAIAvBAzBABCCBFBBAqBBIAuHACAEAw5TAhXPQPuLB9SAiHA1EEm0BCBBFDoBCEA",
     "lFB9RDhCE9JBvCDmCKxBD7DA2BOpBACBKCxBDCBHA9BCkBEBH_BAMB0BIBAIDCA.CCCDGACA9EADHVB5BBBABAMAJA",
     "OGDEjCACFBACABCECBAOB1CHCCBAXAxCACFBACABBBBrHACDGBBBbB1CHCABBqDABACHlDABACDBEjIIBB1HAKDEAw",
     "EDCBEAgBJoBFCDIAJFCCuBMBB2MGBFBAyCVCGBBBB6DFDABBBGBAoCBDABA7KBLB0BEFCXAlnFAGOomLLDCguCE7BG",
     "4gBA.BDxCALBrlTBhzEtBCW_QEDFIHCGeD0EC79B2BExBIAOAWEBOwqBGBQCGBBBEkDAgFG3LA9BD8PD_HBgXGtDG1",
     "2lY.CgEvH"]⟩,
   ⟨["grlink", "graphemelink"],
    ["tqCA.DA.DA.DA.DA.DA.DA.DAtDBQA8DAvDA.DApGA0FB52BBeA9EAtUAjHAlDBmCBrsEAm0eAlBA3EAuEAsDA1JA2",
     "HAxyXAmwBApBAOA5BA5DBrEA0DA0FAiDAgECxDA.DA8HA.DA2DA0DAtIAjIBhFAzCASAxCAlNAkIBxCApNBsvQA"]⟩,
   ⟨["hex", "hexdigit"], ["wBJHFaFp1.BJHFaF"]⟩,
   ⟨["hyphen"], ["tBA.DA8mBA7zEApgCBlwDAjXAnrzBApFA3CA"]⟩,
   ⟨["idsb", "idsbinaryoperator"], ["w.LBCJxPA"]⟩,
   ⟨["idst", "idstrinaryoperator"], ["y.LB"]⟩,
   ⟨["idsu", "idsunaryoperator"], ["_.LB"]⟩,
   ⟨["idcompatmathcontinue"], ["yFBFA29HADKBOzLAEAWAiltDAZAfAZAfAZAfAZAfAZA"]⟩,
   ⟨["idcompatmathstart"], ["iwIAEAWAiltDAZAfAZAfAZAfAZAfAZA"]⟩,
   ⟨["idc", "idcontinue"],
    ["wBJHZEABZvBAKABACAFWBeBpOELOEHABAR0DBBCDBAGEBABTByCBqEBEClFBlBCAGoBIsBBABBBBBAIaEDdKFpCElD",
     "BHCJBSCAQ6BCkDO1BEACACtBSbEKFXBFIqCBgECJBSBHCBCVBGBADDCICBCDIAEBBECLKABACCBFEBCVBGBBBBBBCA",
     "BEEBCCDAHDBAHPLCBIBCBVBGBBBECJBCBCCAPDCJJGBCBHCBCVBGBBBECICBCCHCEBBECJBAQBBFDCBDDBBABBDBDC",
     "DLEEDCBDCAGAOJQMBCBWBPCIBCBDHBBCCACDCJQDBHBCBWBJBECIBCBDHBGBBDCJBCMMBCByBBCBEFDHECJKFBCBRD",
     "XBIBACGDAEFBABHGJCBN5BFOBJnBBBABEBXBABWCEBABGBJCDgBAXBGJLABABAEJBjBETBRBjBJA5BpCGtCClBBAFA",
     "CqBBsKBDCGBABDCoBBDCgBBDCGBABDCOB4BBDCiCCCJIOPQ1CCFDrTCQBZFqCDKHVJVLTMMBCBBMzCDAEBCJhBCBKG",
     "4CHqBFlCKeBLELKnBCELrBEZGKlBbE_BBcCKGJNAINBPxBsCDJRIMzDM3BIJDwBCKFqBCCQCBmBF1QCFClBCFCHBAB",
     "ABABeC0BBGBADCBGDDCFEMFCBGPBxBBTAcANAQMzBMEADLRAEACJBACFGABABABPCDFEEARoB3zCkHGIMlBBAFAC3B",
     "HAPXJGBGBGBGBGBGBGBGBflQCZOBECEE1CCGB_CFqBB9CRfwBPgQ.tGgCs0VjCtBCsIDbUvBEJByDlBICmDCiCCBBA",
     "BHV1BEATzBMlCKJGXDABwBCjBMcDgCOKGeB2BJNCJGWDoCYCCPCEKFCFCFJGBGBqBBNG6DBBCJGj9KMWEwBkoItLCp",
     "DmBGMEFLBMBEBABBBBBrDhBqLS.BC1BoBLEPQPDBYCgBEBmETJHZEABZK5CDFCFCFCCjBLBZBSBBBOCNiB6DlC0BoE",
     "AiEcDwBPAffNdFqBFdCjBEHBEqB9ECJGjBEjBEnBIzBMKBOBGBBBKBOBGBBDzBM2JJVKHYFBpBBIlCFCABrBBBDACW",
     "KWJehCSBBKVKZmC3BGBgCDBBFHBCBcCCEAgBcDcjBHBdZ1BKVKSNRuDoC3ByBNyBNnBIJGlBDEBW6HpBBBDBQC3BgB",
     "KAIgBfVqBUbWJmCfPJ7BHANYHJG0BBJEDIjBCAJkCEDBMBAjBRBkBGD_BGBABDBOBJH6BFJGDBHCBCVBGBBBEBJCBC",
     "CCAGAFGCGDELJBACABlBBJBACABDBHNBdqCFJEDelCBAIJmF1BCIXFiBgCDALJmB4BHJGTcaCOEJGG5F6BlDpCVHCA",
     "CHBBBdBBCIMJmCHCtBCHBBb_BIAIpCDASoCnGgBPJGIBsBBIPJYdCVBNpCGBBBrBDABBBIIJGFBBBkBBBBFHJ2JWJQ",
     "BoBDENK1CAvC5cmDuDRjGsyCgDPvhBQVK68DFmS51G5Bm2B4RHeBJGuCBJGdCEL2BJDMJJUFSwNsBDJmG.BgEqCE4B",
     "HQgCBBBLBO3.FI1mBpBJn3IDBGBBBiJPAdCCAODIrMkoCqDFMDIHJDBxiEJmQtBCW_QEDFIHCGeD0EC7N0CBmCBBCA",
     "CBCDBLBABGBgCBDCHBGBbBDBEBADGBzKCYBYBeBYBeBYBeBYBeBYBHCxBgQ2BExBIAOAWEBOwiBeGF1GGBQCGBBBEF",
     "9BhBAwDsBDNCJEAhKeR5B2OpB2GqBlPGBDBBBOBkGLGpBrCEJmlBDBaBBBACABJBDBABAGAEABABABCBBBACABABAB",
     "ABABBBACDBGBDBDBABJBQFCBEBQ0pDJmgB.2pBgB5hEG9GCh0FOwpHPtTitC9QivBq6EF.iEwq3VvH"]⟩,
   ⟨["ids", "idstart"],
    ["hCZGZvBAKAEAFWBeBpOELOEHABAhEEBBCDBAGABCBABTByCBqEIlFBlBCAGoBnCaEDtBqBjBBBiDBAPBHBKCCAQABd",
     "d4CLAYgBJBEAFVEAJADAXYHKFXBFRpB6B1BDASAHJPPEHCBCVBGBADDDAQANBBCOBKAIFEBCVBGBBBBBBfDBATCQIB",
     "CBVBGBBBEDASAPBXALHCBCVBGBBBEDAeBBCPARABFDCBDDBBABBDBDCDLWA0BHBCBWBPDAaCCACBeAEHBCBWBJBEDA",
     "fBBBPBRIBCBoBCAQAFCICYFFRDXBIBACG6BvBBBMG6BBBABEBXBABJBBJACEBAVDgBA.BHBjBbEzDqBUAQFEDDADBH",
     "CEMMARlBBAFACqBBsKBDCGBABDCoBBDCgBBDCGBABDCOB4BBDCiClBPQ1CCFDrTCQBZFqCDKHRNSOROMBCPzBjBAEA",
     "jC4CHoBBAFlCKexBdCELrBEZ2BWJ0ByCA9CuBRH2BdNBKrBajBpBCKjBCKFqBCCpBDBFBBDAF.FgC1ICFClBCFCHBA",
     "BABABeC0BBGBADCBGDDCFEMFCBG0DANAQMlDAEACJBACFGABABABPCDFEEARoB3zCkHGDDBMlBBAFAC3BHAQWJGBGB",
     "GBGBGBGBGBGmRCZIHECEE1CEEB5CBDFqBB9CRfwBPgQ.tGgCs0VjCtBCsIDPKBUuBQeCvCnBICmDCiCCBBABHVPBCB",
     "DBWdzBOxB_BFDABBLbKWZcHuBcAQEBJKEBoBXCBHUWDADxBBADBCECABAYCCKHCMFCFCFJGBGBqBBNGyDdj9KMWEwB",
     "koItLCpDmBGMEFABJBMBEBABBBBBrDhBqLS.BC1BoBL0DEBmEkBZGZL4CDFCFCFCCjBLBZBSBBBOCNiB6DlC0BrIcD",
     "wBvBfNdFlBKdCjBEHBEqB9ESjBEjBEnBIzBMKBOBGBBBKBOBGBBDzBM2JJVKHYFBpBBIlCFCABrBBBDACWKWJehCSB",
     "BKVKZmC3BGBgCAPDBCBcqBcDcjBHBbb1BKVKSNRuDoC3ByBNyBNjBmBbJW6HpBGBQC7BcKAIVqBRuBUbWM0B5BBCAN",
     "sBgBYajBdACAIiBDAMvBODVABAjBRBYTB.BGBABDBOBJHuBmBHCBCVBGBBBEDASAMEeJBACABlBBAZABAsB0BSDUCe",
     "vBUBBA4FuBpBDkBvBUA7BqBNAnCalBG5FrB0D.BfHCACHBBBXPABA_CHCmBQABAcAKnBHAVALtBTASoCnGgBfIBkBR",
     "AxBdwDGBBBlBVAZFBBBfOAnKSPABMBhB8DAvC5cmDuDRjGsyCgDPvhBRFZ68DFmS51Gdi3B4RHeRuCRdSvBQDfUFSw",
     "NsBzG.BgEqCFAiCMgCBBAc3.FI1mBpBJn3IDBGBBBiJPAdCCAODIrMkoCqDFMDIHJm7F0CBmCBBCACBCDBLBABGBgC",
     "BDCHBGBbBDBEBADGBzKCYBYBeBYBeBYBeBYBeBYBH05BeGFlI9ByEsBKGQAhKdSrBkPbkHdCAvPGBDBBBOBkG7BjCH",
     "A0lBDBaBBBACABJBDBABAGAEABABABCBBBACABABABABABBBACDBGBDBDBABJBQFCBEBQkqE.2pBgB5hEG9GCh0FOw",
     "pHPtTitC9QivBq6EF.iE"]⟩,
   ⟨["ideo", "ideographic"],
    ["mgMBZIOCle.tGgC.vUgoWtLCpDqodAb3.FI1mBpBJnjJrMkoT.2pBgB5hEG9GCh0FOwpHPtTitC9QivBq6EF.iE"]⟩,
   ⟨["joinc", "joincontrol"], ["sgIB"]⟩,
   ⟨["loe", "logicalorderexception"], ["gyDE7DEw3CCCA6nkBBCABB"]⟩,
   ⟨["lower", "lowercase"],
    ["hDZvBAKAEAkBXBHBABABABABABABABABABABABABABABABABABABABABABABABABABABABBBABABABABABABABBBAB",
     "ABABABABABABABABABABABABABABABABABABABABABACABABCCABACADBEACADCCACABABACABBBACADABACBCCGAC",
     "ACABABABABABABABABBBABABABABABABABABBCABADABABABABABABABABABABABABABABABABABABABABABABABAB",
     "ABABABABABGCACBBAEABABABABkCBjBHBeEgDArBABADACDSAbiBBBDCBABABABABABABABABABABABEBACACBzBvB",
     "BABABABABABABABABABABABABABABABABAJABABABABABABABABABABABABABABABABABABABABABABABABABABACA",
     "BABABABABABBBABABABABABABABABABABABABABABABABABABABABABABABABABABABABABABABABABABABABABABA",
     "BABABABABABABABABAwBoBn6CqBBD4XFikCIBA1D.FhCABABABABABABABABABABABABABABABABABABABABABABAB",
     "ABABABABABABABABABABABABABABABABABABABABABABABABABABABABABABABABABABABABABABABABABABABABAB",
     "ABABABABABABIBABABABABABABABABABABABABABABABABABABABABABABABABABABABABABABABABABABABABABAB",
     "ABABABABABABABABABABIIFKHIHIFKHIHINCHIHIHIEBBGADCBBIDCBIHKCBB5DANAQMtDADBDAbAEAEACBIDEAhBP",
     "EAraZm6BvBBADBBABABAEABBBHDABABABABABABABABABABABABABABABABABABABABABABABABABABABABABABABA",
     "BABABABABABABABABABABABABABABABABABBHABAEAMlBBAFAzoeABABABABABABABABABABABABABABABABABABAB",
     "ABABABATABABABABABABABABABABABABABClEABABABABABABCBABABABABABABABABABABABABABABABABABABABA",
     "BABABABABABABABABABABJBABACABABABABAEABACABCBABABABABABABABABABAFAFABABABABABABABAEABACADA",
     "BABABABABAWCBABC1ZqBBNGvCg6TGMEphBZtmBnBoEjB7EKBOBGBBjOACCBpBBIloByB9DV65CfgsVf6sZZaGBRaZa",
     "DBABGBKaZaZaZaZaZaZaZaZabcYBFaYBFaYBFaYBFaYBFBA05BJBTGFlI9B0lChB"]⟩,
   ⟨["math"],
    ["rBAQCfAdABAtBAEAlBAfA4WCCAaBCCvQCtwGAbCLADANAODVELEhCMEADBEESAEACJBACFGADBCBBCBFDNBAkCXBFB",
     "BEBEfBAGBOrIIDUB6CAeaBAYALG9NBMJEFEBCBDEOABACFLHFB5BABAdDJCwK.BgI.PwBUCF8_zBA3ZFBAiFAQCdAB",
     "AdABAjEAGDhtDBwzxB0CBmCBBCACBCDBLBABGBgCBDCHBGBbBDBEBADGBzKCjJCxBgwFDBaBBBACABJBDBABAGAEAB",
     "ABABCBBBACABABABABABBBACDBGBDBDBABJBQFCBEBQ0BB"]⟩,
   ⟨["mcm", "modifiercombiningmark"], ["0yBBCAjEAGADBhPBBCDAfA"]⟩,
   ⟨["nchar", "noncharactercodepoint"],
    ["wu.BfuQB_..BB_..BB_..BB_..BB_..BB_..BB_..BB_..BB_..BB_..BB_..BB_..BB_..BB_..BB_..BB_..BB"]⟩,
   ⟨["oalpha", "otheralphabetic"],
    ["laAdMgSNBABBBBBAoCKwBMBGQAlDGEDCBEAjBAePmDKlDBDIBCBDqDA8BLDGGT2BBCOBBFCKBdC6BGCBCBKAKBdC6B",
     "EEBCBEAeBDALC6BHBCBBVBWCEC6BGCBCBJBKBeA7BEDCBCKAoBE5BGBCBCIBLBdC6BGBCBCIBLBPAMD6BGBCBCKAKB",
     "dCrCFBABHSB9BACGSAjDACFBBQAjFSJKBjBuDLBACDXDECBCCGDDNLBAKD0zBBeBeBeBiCS8FBiBA2DLEI_GE5BJCT",
     "qCBLCxBEwBO8BCeICB5BKyBS8MhBh2BzB2nCf0jeHiBBiLAIAXE4CByBPBA5BAmBEcLtBDwBLlBAjCNMAIBtBCyBAB",
     "CCBFAsBEFAtHHz5TA3iCEm0BCBBFD0YDhCAhKBvCAjIC1BNtBBLCtBIJA9BCkBLSB5BCwBMOB8CICAGACA9EJXD6BG",
     "CBCBKAKB0CIBACABDBBnDMBCqDRtHGCGdByCOBAqDKnDNhIM3HFBBCBDABAuEGCFEAcJqBEBDSKuBN3MHBGzCVBN6D",
     "FDABBBCBADAiCEBBBD8KDJBBAwBGDC9uQQgxDAB2BHD9CBslTAh7IGBQCGBBBEkDA3lCAo.BZGZGZ"]⟩,
   ⟨["odi", "otherdefaultignorablecodepoint"], ["vaAvwDBzyBBvlCA_nEA7xzBAvCInggaABdgD.DwHvwD"]⟩,
   ⟨["ogrext", "othergraphemeextend"],
    ["_tCAYAmLAYAmDAYAoHABAEBBBJBnDAYA3DAPA1pCAeAggBAFABAFBlDAnCB4gBAhhEBjpeAsDA9uVBgxEA0DAoIAOA",
     "JAgDAJACABCFAgHAMAxHAmIA5TAMAjwBAulUBzrYBGFt1rY.C"]⟩,
   ⟨["oidc", "otheridcontinue"], ["3FAvWAh.DIozBAxxBBtnEApzzBA"]⟩,
   ⟨["oids", "otheridstart"], ["lkGBxkCAVAs7DB"]⟩,
   ⟨["olower", "otherlowercase"],
    ["qFAPA1PIHBeEgDA0BAhsDAvhD_BNAiBkBxVANAQMzGPwaZy8BB_weByGAhECDBibDJA2gXACCBpBBI1j2B9B"]⟩,
   ⟨["omath", "othermath"],
    ["_CAxbCCAaBCBghHAbCLAgBDYBOBhCMEADBEESAEACJBADEGADBCBBCBFDDFErCECDBBBBBABECBEBERCBBABGBAGBi",
     "JDoFBBAYARA9NBMIFEFBCBDEOABACFYB5BABAdDJB2KBfJzMV.BDgBBjj1BABAEAzGABAhm1B0CBmCBBCACBCDBLBA",
     "BGBgCBDCHBGBbBDBEBADGBzKCYBYBeBYBeBYBeBYBeBYBHCxBgwFDBaBBBACABJBDBABAGAEABABABCBBBACABABAB",
     "ABABBBACDBGBDBDBABJBQFCBEBQ"]⟩,
   ⟨["oupper", "otheruppercase"], ["grIPmaZgjzDZGZGZ"]⟩,
   ⟨["patsyn", "patternsyntax"],
    ["hBOKGaDBAaDiBGBABBBABBEAEADAXAfA44HXIOCSBJxJvWgF1TerjBgQ.DhMCEYPAtozBBlIB"]⟩,
   ⟨["patws", "patternwhitespace"], ["JESAkDAo8HBYB"]⟩,
   ⟨["pcm", "prependedconcatenationmark"], ["gwBF3GAxBAgMBwCA6_hCAPA"]⟩,
   ⟨["qmark", "quotationmark"], ["iBAEAjEAPA86HHZBnwDApODNChxzBD9FAEA6CB"]⟩,
   ⟨["radical"], ["g0LZB4CM1G"]⟩,
   ⟨["ri", "regionalindicator"], ["mv8DZ"]⟩,
   ⟨["sterm", "sentenceterminal"],
    ["hBAMAQApqBAzEC0FArBC2HA9BABADBlJBk3BB2YAEBlYAmGB9EBtBAFA6JBiLDiFBKBCBdC7FBhCBkdAXBJCvlDCyJ",
     "ANAWBtNA8ndAuIBjHADA_LB2CB.CA4EBzECwEB5HAmxUACB7BADBpFAMAQAhCA03CB9nBEsBD9FB1DD.DChEBGAQB4",
     "CBBBsDAqJB1DB1LBFOpDB5HClQABA7HB3CBkNB0VBqCBp5SBlEAhCBLApRBoJAmwTAovHA"]⟩,
   ⟨["sd", "softdotted"],
    ["pDBkGA5IAeA0BAUAgKAiDABApoGAzBANADAkEA9EAlNA2GBy5CAl9pDByBByBByBByBByBByBByBByBByBByBByBBy",
     "BBmkCAxJBaA"]⟩,
   ⟨["term", "terminalpunctuation"],
    ["hBAKABALBDA_ZAIAhQA5BAoCAOABC0FArBKBArHB2BFBHfAlIB0nBBsFAEF3JB1YHlYA8DCnCB9ECDAnBDCB6JBiLD",
     "iFBKBBCdC7FE_BBkdAXBJCvlDCyJANAEAKABBDBsNB7ndBtICjHE_LB2CB.CA3ECzEC.DAQB5HAmxUACB5BCBDpFAK",
     "ABALBDAhCACA6hBAwBAmkBAnGA2JB4EFkCF5CD4dEsBD9FGwDD.DChEBGAQB4CEsDAqJB1DCMBmLDDOpDB5HClQABA",
     "7HB3CBEB_MCtBAlUBqCBrpBE5vRBlEAhCCKApRBnJBmwTAnvHD"]⟩,
   ⟨["uideo", "unifiedideograph"],
    ["ggN.tGgC.vUuwWBBABBKABABBCC2uhC.2pBgB5hEG9GCh0FOwpHPtTitEq6EF.iE"]⟩,
   ⟨["upper", "uppercase"],
    ["hCZlDWBGhBABABABABABABABABABABABABABABABABABABABABABABABABABABABACABABABABABABABACABABABAB",
     "ABABABABABABABABABABABABABABABABABABABBBABADBBABBBCCDBBBCDBBBBABABBBACABBBCBABBDAHACACACAB",
     "ABABABABABABACABABABABABABABABACACABCBABABABABABABABABABABABABABABABABABABABABABABABABABAB",
     "ABABAHBBBCABDBABABABAhJABADAIAGABCBABBBQBIjBACCDABABABABABABABABABABABAFACABBCyBwBABABABAB",
     "ABABABABABABABABABABABABAJABABABABABABABABABABABABABABABABABABABABABABABABABABABBBABABABAB",
     "ABACABABABABABABABABABABABABABABABABABABABABABABABABABABABABABABABABABABABABABABABABABABAB",
     "ABABABABAClBp6ClBBAFAyW1CzkCAGqBCCgKABABABABABABABABABABABABABABABABABABABABABABABABABABAB",
     "ABABABABABABABABABABABABABABABABABABABABABABABABABABABABABABABABABABABABABABABABABABABABAB",
     "ABABAJABABABABABABABABABABABABABABABABABABABABABABABABABABABABABABABABABABABABABABABABABAB",
     "ABABABABABABAJHIFKHIHIFLABABABAIHoCDMDMDMELDmIAEADCCCCADEGABABABDCDKBFAaPTAyZZw5BvBwBABCCA",
     "BABABDBACAICBABABABABABABABABABABABABABABABABABABABABABABABABABABABABABABABABABABABABABABA",
     "BABABABABABABABABABAIABAEAtqeABABABABABABABABABABABABABABABABABABABABABABATABABABABABABABA",
     "BABABABABABAnEABABABABABABADABABABABABABABABABABABABABABABABABABABABABABABABABABABABABABAK",
     "ABABBBABABABAEABACABADABABABABABABABABABABEBEBABABABABABABABDBABBDAFABABABAYAr5VZlmBnBoEjB",
     "8EKBOBGBBq3ByB9EV65CfgsVfgtZZaZaZaABBCACBCDBHaZaBBDCHBGbBBDBEBADGbZaZaZaZaZaZeYhBYhBYhBYhB",
     "YhBA1pEhBugCZGZGZ"]⟩,
   ⟨["vs", "variationselector"], ["rgGCBAwv5BPw3gavH"]⟩,
   ⟨["wspace", "whitespace", "space"], ["JESAkDAaA.uFA.rCKdBFAvBAg9DA"]⟩,
   ⟨["xidc", "xidcontinue"],
    ["wBJHZEABZvBAKABACAFWBeBpOELOEHABAR0DBBDCBAGEBABTByCBqEBEClFBlBCAGoBIsBBABBBBBAIaEDdKFpCElD",
     "BHCJBSCAQ6BCkDO1BEACACtBSbEKFXBFIqCBgECJBSBHCBCVBGBADDCICBCDIAEBBECLKABACCBFEBCVBGBBBBBBCA",
     "BEEBCCDAHDBAHPLCBIBCBVBGBBBECJBCBCCAPDCJJGBCBHCBCVBGBBBECICBCCHCEBBECJBAQBBFDCBDDBBABBDBDC",
     "DLEEDCBDCAGAOJQMBCBWBPCIBCBDHBBCCACDCJQDBHBCBWBJBECIBCBDHBGBBDCJBCMMBCByBBCBEFDHECJKFBCBRD",
     "XBIBACGDAEFBABHGJCBN5BFOBJnBBBABEBXBABWCEBABGBJCDgBAXBGJLABABAEJBjBETBRBjBJA5BpCGtCClBBAFA",
     "CqBBsKBDCGBABDCoBBDCgBBDCGBABDCOB4BBDCiCCCJIOPQ1CCFDrTCQBZFqCDKHVJVLTMMBCBBMzCDAEBCJhBCBKG",
     "4CHqBFlCKeBLELKnBCELrBEZGKlBbE_BBcCKGJNAINBPxBsCDJRIMzDM3BIJDwBCKFqBCCQCBmBF1QCFClBCFCHBAB",
     "ABABeC0BBGBADCBGDDCFEMFCBGPBxBBTAcANAQMzBMEADLRAEACJBACFGABABABPCDFEEARoB3zCkHGIMlBBAFAC3B",
     "HAPXJGBGBGBGBGBGBGBGBflQCZOBECEE1CCBCCB_CFqBB9CRfwBPgQ.tGgCs0VjCtBCsIDbUvBEJByDlBICmDCiCCB",
     "BABHV1BEATzBMlCKJGXDABwBCjBMcDgCOKGeB2BJNCJGWDoCYCCPCEKFCFCFJGBGBqBBNG6DBBCJGj9KMWEwBkoItL",
     "CpDmBGMEFLBMBEBABBBBBrDhBqEG5GS.BC1BoBJGPQPDBYChBABADABABABAB9DTJHZEABZK5CDFCFCFCCjBLBZBSB",
     "BBOCNiB6DlC0BoEAiEcDwBPAffNdFqBFdCjBEHBEqB9ECJGjBEjBEnBIzBMKBOBGBBBKBOBGBBDzBM2JJVKHYFBpBB",
     "IlCFCABrBBBDACWKWJehCSBBKVKZmC3BGBgCDBBFHBCBcCCEAgBcDcjBHBdZ1BKVKSNRuDoC3ByBNyBNnBIJGlBDEB",
     "W6HpBBBDBQC3BgBKAIgBfVqBUbWJmCfPJ7BHANYHJG0BBJEDIjBCAJkCEDBMBAjBRBkBGD_BGBABDBOBJH6BFJGDBH",
     "CBCVBGBBBEBJCBCCCAGAFGCGDELJBACABlBBJBACABDBHNBdqCFJEDelCBAIJmF1BCIXFiBgCDALJmB4BHJGTcaCOE",
     "JGG5F6BlDpCVHCACHBBBdBBCIMJmCHCtBCHBBb_BIAIpCDASoCnGgBPJGIBsBBIPJYdCVBNpCGBBBrBDABBBIIJGFB",
     "BBkBBBBFHJ2JWJQBoBDENK1CAvC5cmDuDRjGsyCgDPvhBQVK68DFmS51G5Bm2B4RHeBJGuCBJGdCEL2BJDMJJUFSwN",
     "sBDJmG.BgEqCE4BHQgCBBBLBO3.FI1mBpBJn3IDBGBBBiJPAdCCAODIrMkoCqDFMDIHJDBxiEJmQtBCW_QEDFIHCGe",
     "D0EC7N0CBmCBBCACBCDBLBABGBgCBDCHBGBbBDBEBADGBzKCYBYBeBYBeBYBeBYBeBYBHCxBgQ2BExBIAOAWEBOwiB",
     "eGF1GGBQCGBBBEF9BhBAwDsBDNCJEAhKeR5B2OpB2GqBlPGBDBBBOBkGLGpBrCEJmlBDBaBBBACABJBDBABAGAEABA",
     "BABCBBBACABABABABABBBACDBGBDBDBABJBQFCBEBQ0pDJmgB.2pBgB5hEG9GCh0FOwpHPtTitC9QivBq6EF.iEwq3",
     "VvH"]⟩,
   ⟨["xids", "xidstart"],
    ["hCZGZvBAKAEAFWBeBpOELOEHABAhEEBBDCBAGABCBABTByCBqEIlFBlBCAGoBnCaEDtBqBjBBBiDBAPBHBKCCAQABd",
     "d4CLAYgBJBEAFVEAJADAXYHKFXBFRpB6B1BDASAHJPPEHCBCVBGBADDDAQANBBCOBKAIFEBCVBGBBBBBBfDBATCQIB",
     "CBVBGBBBEDASAPBXALHCBCVBGBBBEDAeBBCPARABFDCBDDBBABBDBDCDLWA0BHBCBWBPDAaCCACBeAEHBCBWBJBEDA",
     "fBBBPBRIBCBoBCAQAFCICYFFRDXBIBACG6BvBBANG6BBBABEBXBABJBAKACEBAVDgBA.BHBjBbEzDqBUAQFEDDADBH",
     "CEMMARlBBAFACqBBsKBDCGBABDCoBBDCgBBDCGBABDCOB4BBDCiClBPQ1CCFDrTCQBZFqCDKHRNSOROMBCPzBjBAEA",
     "jC4CHoBBAFlCKexBdCELrBEZ2BWJ0ByCA9CuBRH2BdNBKrBajBpBCKjBCKFqBCCpBDBFBBDAF.FgC1ICFClBCFCHBA",
     "BABABeC0BBGBADCBGDDCFEMFCBG0DANAQMlDAEACJBACFGABABABPCDFEEARoB3zCkHGDDBMlBBAFAC3BHAQWJGBGB",
     "GBGBGBGBGBGmRCZIHECEE1CGCB5CBDFqBB9CRfwBPgQ.tGgCs0VjCtBCsIDPKBUuBQeCvCnBICmDCiCCBBABHVPBCB",
     "DBWdzBOxB_BFDABBLbKWZcHuBcAQEBJKEBoBXCBHUWDADxBBADBCECABAYCCKHCMFCFCFJGBGBqBBNGyDdj9KMWEwB",
     "koItLCpDmBGMEFABJBMBEBABBBBBrDhBqEG5GS.BC1BoBJ3DABADABABABAB9DkBZGZL3BCeDFCFCFCCjBLBZBSBBB",
     "OCNiB6DlC0BrIcDwBvBfNdFlBKdCjBEHBEqB9ESjBEjBEnBIzBMKBOBGBBBKBOBGBBDzBM2JJVKHYFBpBBIlCFCABr",
     "BBBDACWKWJehCSBBKVKZmC3BGBgCAPDBCBcqBcDcjBHBbb1BKVKSNRuDoC3ByBNyBNjBmBbJW6HpBGBQC7BcKAIVqB",
     "RuBUbWM0B5BBCANsBgBYajBdACAIiBDAMvBODVABAjBRBYTB.BGBABDBOBJHuBmBHCBCVBGBBBEDASAMEeJBACABlB",
     "BAZABAsB0BSDUCevBUBBA4FuBpBDkBvBUA7BqBNAnCalBG5FrB0D.BfHCACHBBBXPABA_CHCmBQABAcAKnBHAVALtB",
     "TASoCnGgBfIBkBRAxBdwDGBBBlBVAZFBBBfOAnKSPABMBhB8DAvC5cmDuDRjGsyCgDPvhBRFZ68DFmS51Gdi3B4RHe",
     "RuCRdSvBQDfUFSwNsBzG.BgEqCFAiCMgCBBAc3.FI1mBpBJn3IDBGBBBiJPAdCCAODIrMkoCqDFMDIHJm7F0CBmCBB",
     "CACBCDBLBABGBgCBDCHBGBbBDBEBADGBzKCYBYBeBYBeBYBeBYBeBYBH05BeGFlI9ByEsBKGQAhKdSrBkPbkHdCAvP",
     "GBDBBBOBkG7BjCHA0lBDBaBBBACABJBDBABAGAEABABABCBBBACABABABABABBBACDBGBDBDBABJBQFCBEBQkqE.2p",
     "BgB5hEG9GCh0FOwpHPtTitC9QivBq6EF.iE"]⟩]

end Recast.Text.Property
