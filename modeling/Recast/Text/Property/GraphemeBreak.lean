import Recast.Text.Property.Table

/-!
How a character takes part in dividing text into the signs that readers see.
-/

namespace Recast.Text.Property

/-- The roles of characters at the edges of signs. Characters without a role are not listed. -/
def graphemeBreaks : List Property :=
  [⟨["cr"], ["NA"]⟩,
   ⟨["cn", "control"], ["AJBBBR.CgBNAurBAxvEA8.BACBYGxBPv03BAwHL0hNPgjiBDvmFHl0rYfgD.DwHvwD"]⟩,
   ⟨["ex", "extend"],
    ["gYvDzIGnIsBBABBBBBAoCKwBUQAlDGCFCBBDjBAea7CK6BIJAYDBIBCBErBC7BIqBXBf3BABAEHEADGKBdA6BABACD",
     "IAJAKBaACB5BAEBEBCCDAeBDALB5BAEEBBEAUBWFBA6BABBBDIAHCKBeA7BABAMAJAoBADA3BABCFCBDHBLBdA6BAC",
     "BBADCBDHBLBcB5BBBACDIAJAKBdAoCAEACCBAIAxCACGMHiDACILGpCBbABABA3BNBEBBFKBjBJAmDDBFBBCBZBECQ",
     "DNACBGAPA.VCydDcCdBeBgCBBGIACKJAtBCBA1DBiBA2DCEBJAGC7GBCA6BABGBABACHGJCAwBexBDwBJECmBIMBgB",
     "DCF4BABBDABE4BHCB4ECBMBGEAGADBmG.BsQAjGgB_.CCtEAgDfqRFpDB0udDBJgBBwCBwIADAEAZBFA3EBaRNAmBH",
     "ZKBAsBCwBACDCBCAkBAjCFCBCBMAIAvBAzBABCCBFBBAqBBIAuHACAEAw5TAhXPQPuLB9SAiHA1EEm0BCBBFDoBCEA",
     "lFB9RDhCE9JBvCDmCKxBD7DA2BOpBACBKCxBDCBHA9BCkBEBH_BAMB0BIBAIDCA.CCCDGACA9EADHVB5BBBABAMAJA",
     "OGDEjCACFBACABCECBAOB1CHCCBAXAxCACFBACABBBBrHACDGBBBbB1CHCABBqDABACHlDABACDBEjIIBB1HAKDEAw",
     "EDCBEAgBJoBFCDIAJFCCuBMBB2MGBFBAyCVCGBBBB6DFDABBBGBAoCBDABA7KBLB0BEFCXAlnFAGOomLLDCguCE7BG",
     "4gBA.BDxCALBrlTBhzEtBCW_QEDFIHCGeD0EC79B2BExBIAOAWEBOwqBGBQCGBBBEkDAgFG3LA9BD8PD_HBgXGtDGw",
     "1CEghjY.CgEvH"]⟩,
   ⟨["l"], ["goE.CggmBc"]⟩,
   ⟨["lf"], ["KA"]⟩,
   ⟨["lv"],
    ["ggrBAbAbAbAbAbAbAbAbAbAbAbAbAbAbAbAbAbAbAbAbAbAbAbAbAbAbAbAbAbAbAbAbAbAbAbAbAbAbAbAbAbAbAb",
     "AbAbAbAbAbAbAbAbAbAbAbAbAbAbAbAbAbAbAbAbAbAbAbAbAbAbAbAbAbAbAbAbAbAbAbAbAbAbAbAbAbAbAbAbAb",
     "AbAbAbAbAbAbAbAbAbAbAbAbAbAbAbAbAbAbAbAbAbAbAbAbAbAbAbAbAbAbAbAbAbAbAbAbAbAbAbAbAbAbAbAbAb",
     "AbAbAbAbAbAbAbAbAbAbAbAbAbAbAbAbAbAbAbAbAbAbAbAbAbAbAbAbAbAbAbAbAbAbAbAbAbAbAbAbAbAbAbAbAb",
     "AbAbAbAbAbAbAbAbAbAbAbAbAbAbAbAbAbAbAbAbAbAbAbAbAbAbAbAbAbAbAbAbAbAbAbAbAbAbAbAbAbAbAbAbAb",
     "AbAbAbAbAbAbAbAbAbAbAbAbAbAbAbAbAbAbAbAbAbAbAbAbAbAbAbAbAbAbAbAbAbAbAbAbAbAbAbAbAbAbAbAbAb",
     "AbAbAbAbAbAbAbAbAbAbAbAbAbAbAbAbAbAbAbAbAbAbAbAbAbAbAbAbAbAbAbAbAbAbAbAbAbAbAbAbAbAbAbAbAb",
     "AbAbAbAbAbAbAbAbAbAbAbAbAbAbAbAbAbAbAbAbAbAbAbAbAbAbAbAbAbAbAbAbAbAbAbAbAbAbAbAbAbAbAbAbAb",
     "AbAbAbAbAbAbAbAbAbAbAbAbAbAbAbAbAbAbAbAbAbAbAbAbAbAbAbAbAbAbAbAbAbAbAbAbAbAbAbAbA"]⟩,
   ⟨["lvt"],
    ["hgrBaBaBaBaBaBaBaBaBaBaBaBaBaBaBaBaBaBaBaBaBaBaBaBaBaBaBaBaBaBaBaBaBaBaBaBaBaBaBaBaBaBaBaB",
     "aBaBaBaBaBaBaBaBaBaBaBaBaBaBaBaBaBaBaBaBaBaBaBaBaBaBaBaBaBaBaBaBaBaBaBaBaBaBaBaBaBaBaBaBaB",
     "aBaBaBaBaBaBaBaBaBaBaBaBaBaBaBaBaBaBaBaBaBaBaBaBaBaBaBaBaBaBaBaBaBaBaBaBaBaBaBaBaBaBaBaBaB",
     "aBaBaBaBaBaBaBaBaBaBaBaBaBaBaBaBaBaBaBaBaBaBaBaBaBaBaBaBaBaBaBaBaBaBaBaBaBaBaBaBaBaBaBaBaB",
     "aBaBaBaBaBaBaBaBaBaBaBaBaBaBaBaBaBaBaBaBaBaBaBaBaBaBaBaBaBaBaBaBaBaBaBaBaBaBaBaBaBaBaBaBaB",
     "aBaBaBaBaBaBaBaBaBaBaBaBaBaBaBaBaBaBaBaBaBaBaBaBaBaBaBaBaBaBaBaBaBaBaBaBaBaBaBaBaBaBaBaBaB",
     "aBaBaBaBaBaBaBaBaBaBaBaBaBaBaBaBaBaBaBaBaBaBaBaBaBaBaBaBaBaBaBaBaBaBaBaBaBaBaBaBaBaBaBaBaB",
     "aBaBaBaBaBaBaBaBaBaBaBaBaBaBaBaBaBaBaBaBaBaBaBaBaBaBaBaBaBaBaBaBaBaBaBaBaBaBaBaBaBaBaBaBaB",
     "aBaBaBaBaBaBaBaBaBaBaBaBaBaBaBaBaBaBaBaBaBaBaBaBaBaBaBaBaBaBaBaBaBaBaBaBaBaBaBaBa"]⟩,
   ⟨["pp", "prepend"], ["gwBF3GAxBAgMBwCArjBAu7gCAPA0HBtQAtrBABA4HApCF8VA7NA"]⟩,
   ⟨["ri", "regionalindicator"], ["mv8DZ"]⟩,
   ⟨["sm", "spacingmark"],
    ["joCA3BACCIDBByBB7BBGBCB2BA6BCiCA6BCIABB1BB8BAGBCByDABBDCBC0BC9BD9BB6BACABBuBAOB7BBFCBC1BBs",
     "CBGGTB.BA.DAqEB.BAxFAJBZBsBAx5BAHHBB6KDCCEBBFgHB6BABAVFxEA5BDgCAeAEB.BACCBA1BHIBrFAVAr5iBB",
     "CA4CByBPuEAwBAwBBEBCBvDBCBYA9EACBFAtHBBBBBBAzgZABA.DAtBCEBzDAYB7BAwBCJAOA9CCDBsFCfB7BABDCB",
     "CBVB1CBPABBnDCIBDArDBGABBBACAuHBGDCAxDCIBBAtDABBuDAHAlICJA4HEBBHABAuECIDEA0CAdB_BA3MAOAqDA",
     "HACA1GEEBBA_KBMAwBBIBqvQCkxD2B"]⟩,
   ⟨["t"], ["otE3CruxBwB"]⟩,
   ⟨["v"], ["grEnCowxBW8slBADD"]⟩,
   ⟨["zwj"], ["tgIA"]⟩]

end Recast.Text.Property
