import Recast.Catalog.Handlers

/-!
From one parameter with the shared state back to separate parameters for pool and auth. A handler
gets an auth parameter exactly when its body still reaches auth through the shared state.
-/

namespace Recast.Catalog

def poolParam : Text := "Extension(pool): Extension<Arc<PgPool>>".toList

def authParam : Text := "Extension(auth): Extension<Arc<Auth>>".toList

/-- `Auth` is the type of a parameter and imported neither on its own nor in a group. -/
def authUnimported : Guard :=
  .all
    [.contains "Arc<Auth>".toList,
      .unmatched (.regex (.ofText "use crate::auth::(?:Auth\\b|\\\x7b[^\x7d]*\\bAuth\\b)".toList))]

/-- Adds the auth parameter behind the pool parameter of a handler whose body reaches auth through
the shared state and whose signature has no auth parameter yet. The signature is what stands
before the first opening brace. -/
def injectAuth (item : Text) : Text :=
  let (signature, body) := (Text.splitBefore? ['\x7b'] item).getD (item, [])
  if !Text.within "state.auth.".toList body
      || Text.within "Extension(auth)".toList signature then item
  else
    match Text.splitOnce? poolParam signature with
    | none => item
    | some (before, after) =>
      before ++ poolParam ++ ",\n    ".toList ++ authParam ++ after ++ body

def dropAppStateImport : Rule := .remove "drop-app-state-import" appStateImportLine

/-- Handlers that extract the shared state, in a file that does not know `Extension`. -/
def extensionUnknown : List Guard :=
  [.lacks "Extension".toList, .contains "State(state)".toList]

def revertExtensionGrouped : Rule :=
  ((Rule.compute "import-extension-grouped" (.braced frameworkGroup)
    appendExtension).firstOnly).guardedBy (.all extensionUnknown)

def revertExtension : Rule :=
  ((Rule.insertAfter "import-extension" frameworkImport extensionImportLine).guardedBy
    (.all (extensionUnknown ++ [.unmatched (.regex frameworkGroup)]))).following
      "import-extension-grouped"

def extractPoolExtension : Rule :=
  (Rule.replace "extract-pool-extension"
    (.regex (.ofText "State\\(state\\):\\s*State<AppState>".toList)) poolParam).following
      "import-extension"

def injectAuthExtension : Rule :=
  ((Rule.compute "inject-auth-extension"
    (.braced (.ofText "pub async fn \\w+".toList)) injectAuth).guardedBy
      (.contains "state.auth.".toList)).following "extract-pool-extension"

def poolDirect : Rule :=
  .replace "pool-direct" (.regex (.ofText "&\\*state\\.pool\\b".toList)) "&*pool".toList

def authDirect : Rule :=
  (Rule.replace "auth-direct" (.regex (.ofText "\\bstate\\.auth\\.".toList))
    "auth.".toList).following "inject-auth-extension"

def importPgPool : Rule :=
  ((Rule.insertAfter "import-pg-pool" frameworkImport (poolImport ++ ['\n'])).guardedBy
    (.all
      [.any [.contains "&*pool".toList, .contains "Arc<PgPool>".toList],
        .lacks poolImport])).following "pool-direct"

def importArc : Rule :=
  ((Rule.insertAfter "import-arc" (.regex (.ofText "use sqlx::PgPool;[ \\t]*\\n".toList))
    (arcImport ++ ['\n'])).guardedBy
      (.all [.contains "Arc<".toList, .lacks arcImport])).following "import-pg-pool"

def authIntoGroup : Rule :=
  (((Rule.replace "auth-into-group" authGroup
    "use crate::auth::\x7bAuth, ".toList).firstOnly).guardedBy
      authUnimported).following "inject-auth-extension"

def authIntoSingle : Rule :=
  (((Rule.replace "auth-into-single" authSingle
    "use crate::auth::\x7bAuth, $\x7b1\x7d\x7d;".toList).firstOnly).guardedBy
      authUnimported).following "auth-into-group"

def importAuth : Rule :=
  (((Rule.insertAfter "import-auth" (.regex (.ofText "use std::sync::Arc;[ \\t]*\\n".toList))
    "use crate::auth::Auth;\n".toList).guardedBy
      (.all [authUnimported, .lacks "use crate::auth::".toList])).following
        "import-arc").following "auth-into-single"

def revertHandlers : RuleSet :=
  .ofRules "revert-handlers"
    [dropAppStateImport, revertExtensionGrouped, revertExtension, extractPoolExtension,
      injectAuthExtension, poolDirect, authDirect, importPgPool, importArc, authIntoGroup,
      authIntoSingle, importAuth]

def revertHandlersTransformation : Transformation :=
  ⟨.revertHandlers, handlerDir,
    handlerModules.map fun module => ⟨handlerPath module, revertHandlers⟩, []⟩

end Recast.Catalog
