import Recast.Text.Property.Table

/-!
The characters whose use does not follow from their script: those that some scripts share, and
those of one script that another one uses.
-/

namespace Recast.Text.Property

/-- Characters with the scripts that use them, by the short names of these. No character stands in
two rows. -/
def borrowed : List Property :=
  [⟨["avst", "cari", "copt", "dupl", "elba", "geor", "glag", "gong", "goth", "grek", "hani",
     "latn", "lydi", "mahj", "perm", "shaw"],
    ["3FA"]⟩,
   ⟨["beng", "cyrl", "deva", "latn", "lisu", "thai", "toto"], ["8VA"]⟩,
   ⟨["bopo", "latn"], ["nWABCNA"]⟩,
   ⟨["latn", "lisu"], ["tWA"]⟩,
   ⟨["latn", "thai"], ["3WA"]⟩,
   ⟨["cher", "copt", "cyrl", "grek", "latn", "perm", "sunu", "tale"], ["gYA"]⟩,
   ⟨["cher", "cyrl", "grek", "latn", "osge", "sunu", "tale", "todr"], ["hYA"]⟩,
   ⟨["cher", "cyrl", "latn", "tfng"], ["iYA"]⟩,
   ⟨["glag", "latn", "sunu", "syrc", "thai"], ["jYA"]⟩,
   ⟨["aghb", "cher", "copt", "cyrl", "goth", "grek", "latn", "osge", "syrc", "tfng", "todr"],
    ["kYA"]⟩,
   ⟨["copt", "elba", "glag", "goth", "kana", "latn"], ["lYA"]⟩,
   ⟨["cyrl", "grek", "latn", "perm"], ["mYA"]⟩,
   ⟨["copt", "dupl", "hebr", "latn", "perm", "syrc", "tale", "tfng", "todr"], ["nYA"]⟩,
   ⟨["armn", "cyrl", "dupl", "goth", "grek", "hebr", "latn", "perm", "syrc", "tale"], ["oYA"]⟩,
   ⟨["latn", "tfng"], ["pYA"]⟩,
   ⟨["dupl", "latn", "syrc"], ["qYA"]⟩,
   ⟨["cher", "cyrl", "latn", "osge"], ["rYA"]⟩,
   ⟨["cher", "latn", "tale"], ["sYA"]⟩,
   ⟨["latn", "sunu"], ["tYACA"]⟩,
   ⟨["ethi", "latn"], ["uYA"]⟩,
   ⟨["cyrl", "latn", "todr"], ["xYA"]⟩,
   ⟨["grek", "latn", "perm", "todr"], ["zYA"]⟩,
   ⟨["latn", "syrc"], ["gZAEAIA"]⟩,
   ⟨["cher", "dupl", "kana", "latn", "syrc"], ["jZA"]⟩,
   ⟨["cher", "dupl", "latn", "syrc"], ["kZA"]⟩,
   ⟨["latn", "sunu", "syrc"], ["tZA"]⟩,
   ⟨["cher", "latn", "syrc"], ["wZA"]⟩,
   ⟨["aghb", "cher", "goth", "latn", "sunu", "thai"], ["xZA"]⟩,
   ⟨["grek"], ["iaACA6zGB"]⟩,
   ⟨["latn", "osge"], ["4aA"]⟩,
   ⟨["aghb", "latn", "todr"], ["_aA"]⟩,
   ⟨["latn"], ["jbM"]⟩,
   ⟨["copt", "grek"], ["0bB"]⟩,
   ⟨["cyrl", "perm"], ["jkBA"]⟩,
   ⟨["cyrl", "glag"], ["kkBACA7tKArheA"]⟩,
   ⟨["cyrl", "latn"], ["lkBB"]⟩,
   ⟨["armn", "geor", "glag"], ["psBA"]⟩,
   ⟨["arab", "gara", "nkoo", "rohg", "syrc", "thaa", "yezi"], ["swBAOA"]⟩,
   ⟨["arab", "syrc", "thaa"], ["8wBA"]⟩,
   ⟨["adlm", "arab", "gara", "nkoo", "rohg", "syrc", "thaa", "yezi"], [".wBA"]⟩,
   ⟨["adlm", "arab", "mand", "mani", "ougr", "phlp", "rohg", "sogd", "syrc"], ["gyBA"]⟩,
   ⟨["arab", "syrc"], ["ryBKaA"]⟩,
   ⟨["arab", "thaa", "yezi"], ["gzBJ"]⟩,
   ⟨["arab", "rohg"], ["02BA"]⟩,
   ⟨["beng", "deva", "gran", "gujr", "guru", "knda", "latn", "mlym", "orya", "shrd", "taml",
     "telu", "tirh"],
    ["xqCA"]⟩,
   ⟨["beng", "deva", "gran", "gujr", "guru", "knda", "latn", "mlym", "orya", "taml", "telu",
     "tirh"],
    ["yqCA"]⟩,
   ⟨["beng", "deva", "dogr", "gong", "gonm", "gran", "gujr", "guru", "knda", "mahj", "mlym",
     "nand", "onao", "orya", "sind", "sinh", "sylo", "takr", "taml", "telu", "tirh"],
    ["krCA"]⟩,
   ⟨["beng", "deva", "dogr", "gong", "gonm", "gran", "gujr", "gukh", "guru", "knda", "limb",
     "mahj", "mlym", "nand", "onao", "orya", "sind", "sinh", "sylo", "takr", "taml", "telu",
     "tirh"],
    ["lrCA"]⟩,
   ⟨["deva", "dogr", "kthi", "mahj"], ["mrCJ"]⟩,
   ⟨["beng", "cakm", "sylo"], ["mvCJ"]⟩,
   ⟨["guru", "mult"], ["mzCJ"]⟩,
   ⟨["gujr", "khoj"], ["m3CJ"]⟩,
   ⟨["gran", "taml"], ["m.CNt4hCABA3BBzkDBBA"]⟩,
   ⟨["knda", "nand", "tutg"], ["mnDJ"]⟩,
   ⟨["cakm", "mymr", "tale"], ["giEJ"]⟩,
   ⟨["geor", "glag", "latn"], ["7nEA"]⟩,
   ⟨["runr"], ["r3FC"]⟩,
   ⟨["buhd", "hano", "tagb", "tglg"], ["15FB"]⟩,
   ⟨["mong", "phag"], ["igGBBA"]⟩,
   ⟨["beng", "deva", "gran", "knda"], ["wmHABA"]⟩,
   ⟨["deva"], ["xmHACAGACBCGCBBD"]⟩,
   ⟨["deva", "gran", "knda"], ["zmHA"]⟩,
   ⟨["beng", "deva"], ["1mHBBAIAIACAHB"]⟩,
   ⟨["deva", "shrd"], ["3mHABACBCA"]⟩,
   ⟨["deva", "knda", "mlym", "orya", "taml", "telu"], ["6mHA"]⟩,
   ⟨["deva", "nand"], ["pnHA"]⟩,
   ⟨["beng", "deva", "gran", "knda", "mlym", "nand", "orya", "sinh", "telu", "tirh", "tutg"],
    ["ynHA"]⟩,
   ⟨["deva", "gran"], ["znHAEB"]⟩,
   ⟨["deva", "gran", "knda", "tutg"], ["0nHA"]⟩,
   ⟨["beng"], ["3nHA"]⟩,
   ⟨["nand"], ["6nHA"]⟩,
   ⟨["cyrl", "latn", "syrc"], ["4vHA"]⟩,
   ⟨["syrc"], ["6vHA"]⟩,
   ⟨["latn", "mong", "phag"], ["vhIA"]⟩,
   ⟨["adlm", "arab"], ["viIA"]⟩,
   ⟨["cari", "geor", "glag", "hung", "lyci", "orkh"], ["6iIA"]⟩,
   ⟨["cari", "grek", "hung", "mero"], ["9iIA"]⟩,
   ⟨["deva", "gran", "latn"], ["wnIA"]⟩,
   ⟨["copt", "latn"], ["3wLA"]⟩,
   ⟨["avst", "orkh"], ["wxLA"]⟩,
   ⟨["avst", "cari", "geor", "hung", "kthi", "lydi", "samr"], ["xxLA"]⟩,
   ⟨["dupl"], ["8xLAjzjDD"]⟩,
   ⟨["adlm", "arab", "hung"], ["hyLA"]⟩,
   ⟨["hani", "tang"], ["w.LPvPA"]⟩,
   ⟨["bopo", "hang", "hani", "hira", "kana", "mong", "yiii"], ["hgMA"]⟩,
   ⟨["bopo", "hang", "hani", "hira", "kana", "mong", "phag", "yiii"], ["igMA"]⟩,
   ⟨["bopo", "hang", "hani", "hira", "kana"], ["jgMAPAIDQAGAtwzBB"]⟩,
   ⟨["hani"], ["mgMA3BBwKPgBlB6BnB4BwBPLzBA4CYKEgDeh7nDR_2HB"]⟩,
   ⟨["bopo", "hang", "hani", "hira", "kana", "mong", "tibt", "yiii"], ["ogMB"]⟩,
   ⟨["bopo", "hang", "hani", "hira", "kana", "lisu", "mong", "tibt", "yiii"], ["qgMB"]⟩,
   ⟨["bopo", "hang", "hani", "hira", "kana", "yiii"], ["sgMFCH.GAlzzBE"]⟩,
   ⟨["bopo", "hani"], ["qhMD"]⟩,
   ⟨["hira", "kana"], ["xhMEjDDDA7CAzzzBAtBB"]⟩,
   ⟨["hani", "hira", "kana"], ["8hMB"]⟩,
   ⟨["hani", "latn"], ["g4pBH"]⟩,
   ⟨["deva", "dogr", "gujr", "guru", "khoj", "knda", "kthi", "mahj", "mlym", "modi", "nand",
     "shrd", "sind", "takr", "tirh", "tutg"],
    ["whqBC"]⟩,
   ⟨["deva", "dogr", "gujr", "guru", "khoj", "knda", "kthi", "mahj", "modi", "nand", "shrd",
     "sind", "takr", "tirh", "tutg"],
    ["zhqBC"]⟩,
   ⟨["deva", "dogr", "gujr", "guru", "khoj", "kthi", "mahj", "modi", "sind", "takr", "tirh"],
    ["2hqBBBA"]⟩,
   ⟨["deva", "dogr", "gujr", "guru", "khoj", "kthi", "mahj", "modi", "shrd", "sind", "takr",
     "tirh"],
    ["4hqBA"]⟩,
   ⟨["beng", "deva", "tutg"], ["xnqBA"]⟩,
   ⟨["deva", "taml"], ["znqBA"]⟩,
   ⟨["kali", "latn", "mymr"], ["upqBA"]⟩,
   ⟨["bugi", "java"], ["vuqBA"]⟩,
   ⟨["arab", "nkoo"], ["_p.BB"]⟩,
   ⟨["arab", "thaa"], ["yv.BAKA"]⟩,
   ⟨["cpmn", "cprt", "linb"], ["gogCB"]⟩,
   ⟨["cprt", "linb"], ["iogCA0BI"]⟩,
   ⟨["cprt", "lina", "linb"], ["nogCsB"]⟩,
   ⟨["arab", "copt"], ["g3gCb"]⟩,
   ⟨["mani", "ougr"], ["y3iCA"]⟩]

end Recast.Text.Property
