import Recast.Text.Blank
import Recast.Transformation

/-!
What the two conventions for request handlers share: where the handler files are, how they import
from the web framework, and how an entry is added to an import group.
-/

namespace Recast.Catalog

/-- The handler modules that follow a convention, in the order in which they are processed. -/
def handlerModules : List String := ["user", "vulnerability", "team", "asset", "report", "plugin"]

def handlerDir : Text := "src/handlers".toList

def handlerPath (module : String) : Text :=
  handlerDir ++ "/".toList ++ module.toList ++ ".rs".toList

def frameworkImport : Matcher := .regex (.ofText "use axum::[^;]+;[ \\t]*\\n".toList)

def frameworkGroup : Regex := .ofText "use axum::\\\x7b".toList

def appStateImport : Text := "use crate::api::AppState;".toList

def appStateImportLine : Matcher :=
  .regex (.ofText "use crate::api::AppState;[ \\t]*\\n".toList)

def poolImport : Text := "use sqlx::PgPool;".toList

def arcImport : Text := "use std::sync::Arc;".toList

def extensionImportLine : Text := "use axum::Extension;\n".toList

def authGroup : Matcher := .regex (.ofText "use crate::auth::\\\x7b".toList)

def authSingle : Matcher := .regex (.ofText "use crate::auth::(\\w+);".toList)

/-- Adds an entry behind the last one of an import group, in the layout of the group: on a line of
its own where the group has several lines. Text that does not end in a closing brace is no group
and stays as it is. -/
def appendToGroup (item group : Text) : Text :=
  match Text.stripLast? '\x7d' group with
  | none => group
  | some inner =>
    let inner := Text.trimEnd inner
    let inner := (Text.stripLast? ',' inner).getD inner
    if inner.contains '\n' then inner ++ ",\n    ".toList ++ item ++ ",\n\x7d".toList
    else inner ++ ", ".toList ++ item ++ "\x7d".toList

def appendExtension : Text → Text := appendToGroup "Extension".toList

end Recast.Catalog
