import Recast.Catalog.Handlers

/-!
One-shot repairs of what a change of convention leaves behind in single files.
-/

namespace Recast.Catalog

/-- Handlers extract through `Extension` and nothing is extracted through `State`. -/
def stateUnused : Guard :=
  .all [.contains "Extension(".toList, .lacks "State(".toList]

/-- Drops `State` from imports where it is unused. Any entry of that name counts as an import. -/
def unusedStateImport : List Rule :=
  [(Rule.replace "drop-state-import" (.literal ", State,".toList) ",".toList).guardedBy stateUnused,
    (Rule.replace "drop-state-import-last" (.literal ", State\x7d".toList)
      "\x7d".toList).guardedBy stateUnused]

def dropUnusedStateImport : RuleSet := .ofRules "drop-unused-state-import" unusedStateImport

def missingImportComma : Rule :=
  .replace "missing-import-comma" (.lines ["    Json".toList, "    Extension,".toList])
    "    Json,\n    Extension,".toList

def finalFixReport : RuleSet :=
  .ofRules "final-fix/report" (missingImportComma :: unusedStateImport)

def finalFixUser : RuleSet :=
  .ofRules "final-fix/user"
    [.replace "stale-get-user-call"
      (.regex (.ofText "get_user\\(State\\(state\\), Path\\(user_id\\)\\)\\.await".toList))
      "get_user(Extension(pool), Path(user_id)).await".toList]

def hashMapImport : Text := "use std::collections::HashMap;".toList

def importHashMap : Rule :=
  (Rule.insertBefore "import-hash-map" (.regex (.ofText "\\A".toList))
    (hashMapImport ++ ['\n'])).guardedBy (.lacks hashMapImport)

def pluginManagerFields : Rule :=
  .replace "plugin-manager-fields"
    (.regex (.ofText
      "plugins: RwLock::new\\(HashMap::new\\(\\)\\),\\s*directory: config\\.directory,".toList))
    "config,".toList

def finalFixPlugins : RuleSet := .ofRules "final-fix/plugins" [importHashMap, pluginManagerFields]

def pluginManagerCall : Regex :=
  .ofText
    ("let plugin_manager = Arc::new\\(PluginManager::new".toList
      ++ "\\(&config\\.plugins\\.directory\\)\\);".toList)

def finalFixMain : RuleSet :=
  .ofRules "final-fix/main"
    [.replace "plugin-manager-ctor" (.regex pluginManagerCall)
      "let plugin_manager = Arc::new(PluginManager::new(config.plugins.clone()));".toList]

def finalFixTransformation : Transformation :=
  ⟨.finalFix, "src".toList,
    [⟨handlerPath "report", finalFixReport⟩, ⟨handlerPath "user", finalFixUser⟩,
      ⟨"src/plugins/mod.rs".toList, finalFixPlugins⟩, ⟨"src/main.rs".toList, finalFixMain⟩]
      ++ (["vulnerability", "team", "asset", "plugin"].map fun module =>
        ⟨handlerPath module, dropUnusedStateImport⟩),
    []⟩

end Recast.Catalog
