import Recast.Catalog.Handlers

/-!
Model enums and counts as the database has them: enums are given their column type, and a count
that may be null falls back to zero.
-/

namespace Recast.Catalog

def snakeCase : Text → Text
  | [] => []
  | c :: rest =>
    c.toLower :: rest.flatMap fun c => if c.isUpper then ['_', c.toLower] else [c]

/-- Derive attribute, further attributes on lines of their own, and the head of the enum. -/
def enumPattern (name : String) : Text :=
  "#\\[derive\\([^)]*\\)\\][ \\t]*\\r?\\n".toList
    ++ "(?:[ \\t]*#\\[[^\\n]*\\][ \\t]*\\r?\\n)*[ \\t]*pub enum ".toList
    ++ Regex.escape name.toList ++ "\\b".toList

/-- Adds the column type as the last argument of a derive, given the text up to and behind its
closing brackets, unless it is there already. Blanks and commas before the brackets are lost. -/
def addColumnType (derives rest : Text) : Text :=
  let derives := Text.dropEndWhile (· = ',') (Text.trimEnd derives)
  let separator := if derives.getLast? = some '(' then [] else ", ".toList
  derives ++ separator ++ "sqlx::Type)]".toList ++ rest

/-- Derives the column type on an enum and names it on the line before the enum. Attributes between
the derive and the enum stay in place. -/
def deriveColumnType (item : Text) : Text :=
  match Text.splitLast? '\n' item with
  | none => item
  | some (head, decl) =>
    let trimmed := Text.trimStart decl
    match Text.stripStart? "pub enum ".toList trimmed with
    | none => item
    | some name =>
      let indent := decl.take (decl.length - trimmed.length)
      let head :=
        match Text.splitOnce? ")]".toList head with
        | some (derives, rest) =>
          if Text.within "sqlx::Type".toList derives then head else addColumnType derives rest
        | none => head
      head ++ ['\n'] ++ indent ++ "#[sqlx(type_name = \"".toList ++ snakeCase name
        ++ "\", rename_all = \"snake_case\")]\n".toList ++ decl

/-- The rule for one enum. The type name, once written, keeps the rule from applying again. -/
def enumRule (name : String)
    (valid : (Regex.read? (enumPattern name)).isSome = true := by decide +kernel) : Rule :=
  (Rule.compute ("derive-sqlx-type:" ++ name) (.regex (.ofText (enumPattern name) valid))
    deriveColumnType).guardedBy
      (.lacks ("type_name = \"".toList ++ snakeCase name.toList ++ "\"".toList))

def countPattern (binding : String) : Text :=
  "let ".toList ++ Regex.escape binding.toList
    ++ ": i64 = (sqlx::query_scalar!\\([^;]*?\\))\\s*\\.fetch_one\\(([^;]*?)\\)".toList
    ++ "\\s*\\.await([^;]*?)\\?;".toList

def countTemplate (binding : String) : Text :=
  "let ".toList ++ binding.toList
    ++ " = $\x7b1\x7d\n    .fetch_one($\x7b2\x7d)\n    .await$\x7b3\x7d?\n    .unwrap_or(0);".toList

def countRule (binding : String)
    (valid : (Regex.read? (countPattern binding)).isSome = true := by decide +kernel) : Rule :=
  .replace ("nullable-count:" ++ binding) (.regex (.ofText (countPattern binding) valid))
    (countTemplate binding)

def modelPath (model : String) : Text :=
  "src/models/".toList ++ model.toList ++ ".rs".toList

def vulnerabilityTypes : RuleSet :=
  .ofRules "sqlx-type-fix/vulnerability"
    [enumRule "VulnerabilityStatus", enumRule "VulnerabilitySeverity"]

def assetTypes : RuleSet := .ofRules "sqlx-type-fix/asset" [enumRule "AssetType"]

def reportTypes : RuleSet :=
  .ofRules "sqlx-type-fix/report"
    [enumRule "ReportType", enumRule "ReportStatus", enumRule "ReportFormat"]

def pluginTypes : RuleSet := .ofRules "sqlx-type-fix/plugin" [enumRule "PluginType"]

def teamCount : RuleSet := .ofRules "sqlx-type-fix/team-count" [countRule "assigned_vulns"]

def assetCount : RuleSet := .ofRules "sqlx-type-fix/asset-count" [countRule "associated_vulns"]

def migrationCall : Regex :=
  .ofText
    ("(?m)^([ \\t]*)sqlx::migrate!\\(\"\\./migrations\"\\)".toList
      ++ "\\s*\\.run\\(&pool\\)\\s*\\.await\\?;".toList)

/-- Turns the call that runs the migrations into a comment. -/
def disableMigrations : RuleSet :=
  .ofRules "sqlx-type-fix/main"
    [.replace "disable-migrations" (.regex migrationCall)
      "$\x7b1\x7d// sqlx::migrate!(\"./migrations\").run(&pool).await?;".toList]

def sqlxTypeTransformation : Transformation :=
  ⟨.sqlxTypeFix, "src".toList,
    [⟨modelPath "vulnerability", vulnerabilityTypes⟩, ⟨modelPath "asset", assetTypes⟩,
      ⟨modelPath "report", reportTypes⟩, ⟨modelPath "plugin", pluginTypes⟩,
      ⟨handlerPath "team", teamCount⟩, ⟨handlerPath "asset", assetCount⟩,
      ⟨"src/main.rs".toList, disableMigrations⟩],
    []⟩

end Recast.Catalog
