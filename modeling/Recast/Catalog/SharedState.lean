import Recast.Catalog.Handlers

/-!
From separate pool and auth parameters to one parameter with the shared state. The rules work on
raw text and rely on the layout that the service's own files have.
-/

namespace Recast.Catalog

/-- `Extension` is imported from the framework neither on its own nor inside a group; one level of
nested groups is looked through. -/
def extensionUnimported : Guard :=
  .unmatched (.regex (.ofText
    ("use axum::(?:Extension\\b|".toList
      ++ "\\\x7b(?:[^\x7b\x7d]|\\\x7b[^\x7b\x7d]*\\\x7d)*\\bExtension\\b)".toList)))

def claimsUnimported : Guard :=
  .all
    [.any [.contains "claims: Claims".toList, .contains "Claims,".toList],
      .unmatched (.regex (.ofText
        "use crate::auth::(?:Claims\\b|\\\x7b[^\x7d]*\\bClaims\\b)".toList))]

/-- Reaches auth through the shared state. Auth with a receiver is a field access already. -/
def routeAuth (found : Text) : Text :=
  if found = "auth.".toList then "state.auth.".toList else found

def appStateParam : Text := "State(state): State<AppState>".toList

def dropRawPoolImports : Rule :=
  .remove "drop-raw-pool-imports"
    (.regex (.ofText "use sqlx::PgPool;\\s*\\n\\s*use std::sync::Arc;[ \\t]*\\n".toList))

def importAppState : Rule :=
  (Rule.insertAfter "import-app-state" frameworkImport (appStateImport ++ ['\n'])).guardedBy
    (.lacks appStateImport)

def extractAppState : Rule :=
  .replace "extract-app-state"
    (.regex (.ofText "State\\(pool\\):\\s*State<Arc<PgPool>>".toList)) appStateParam

def dropAuthParam : Rule :=
  .remove "drop-auth-param"
    (.regex (.ofText ",\\s*State\\(auth\\):\\s*State<Arc<Auth>>".toList))

def poolViaState : Rule :=
  .replace "pool-via-state" (.regex (.ofText "&\\*\\*?pool\\b".toList)) "&*state.pool".toList

def authViaState : Rule :=
  .compute "auth-via-state" (.regex (.ofText "(?:\\b\\w+\\.)?\\bauth\\.".toList)) routeAuth

/-- Extracts the shared state whatever type arguments the pool has, to a depth of three. -/
def extractAppStateAny : Rule :=
  (Rule.replace "extract-app-state-any"
    (.regex (.ofText "State\\(pool\\):\\s*State<(?:[^<>]|<(?:[^<>]|<[^<>]*>)*>)*>".toList))
    appStateParam).following "extract-app-state"

/-- Drops the import of `Auth` unless `Auth` seems to be used as a struct literal, that is, an
opening brace follows it before the next semicolon. -/
def dropAuthImport : Rule :=
  ((Rule.remove "drop-auth-import"
    (.regex (.ofText "use crate::auth::Auth;[ \\t]*\\n".toList))).guardedBy
      (.all
        [.contains "state.auth".toList, .contains "Auth;".toList,
          .unmatched (.regex (.ofText "Auth[^;]*\\\x7b".toList))])).following "auth-via-state"

def importExtensionGrouped : Rule :=
  ((Rule.compute "import-extension-grouped" (.braced frameworkGroup)
    appendExtension).firstOnly).guardedBy
      (.all [.contains "Extension(".toList, extensionUnimported])

def importExtension : Rule :=
  ((Rule.insertAfter "import-extension" frameworkImport extensionImportLine).guardedBy
    (.all
      [.contains "Extension(".toList, extensionUnimported,
        .unmatched (.regex frameworkGroup)])).following "import-extension-grouped"

def claimsIntoGroup : Rule :=
  (((Rule.replace "claims-into-group" authGroup
    "use crate::auth::\x7bClaims, ".toList).firstOnly).guardedBy
      claimsUnimported).following "drop-auth-import"

def claimsIntoSingle : Rule :=
  (((Rule.replace "claims-into-single" authSingle
    "use crate::auth::\x7bClaims, $\x7b1\x7d\x7d;".toList).firstOnly).guardedBy
      claimsUnimported).following "claims-into-group"

def importClaims : Rule :=
  (((Rule.insertAfter "import-claims" appStateImportLine
    "use crate::auth::Claims;\n".toList).guardedBy
      (.all [claimsUnimported, .lacks "use crate::auth::".toList])).following
        "import-app-state").following "claims-into-single"

/-- The rules for every handler file but that of the auth handler. -/
def fixHandlers : RuleSet :=
  .ofRules "fix-handlers"
    [dropRawPoolImports, importAppState, extractAppState, dropAuthParam, poolViaState, authViaState,
      extractAppStateAny, dropAuthImport, importExtensionGrouped, importExtension, claimsIntoGroup,
      claimsIntoSingle, importClaims]

/-- The auth handler keeps its own pool; only a double dereference is made single. -/
def fixAuthHandler : RuleSet :=
  .ofRules "fix-auth-handler"
    [.replace "pool-deref-normalize" (.regex (.ofText "&\\*\\*pool\\b".toList)) "&*pool".toList]

/-- The module file of the handlers, for a project without one. -/
def handlersManifest : Manifest :=
  ⟨handlerDir ++ "/mod.rs".toList,
    (("auth" :: handlerModules).flatMap fun module =>
      "pub mod ".toList ++ module.toList ++ ";\n".toList)⟩

def fixHandlersTransformation : Transformation :=
  ⟨.fixHandlers, handlerDir,
    (handlerModules.map fun module => ⟨handlerPath module, fixHandlers⟩)
      ++ [⟨handlerPath "auth", fixAuthHandler⟩],
    [handlersManifest]⟩

end Recast.Catalog
