import AnomalyWindows.Validation.Models
import AnomalyWindows.Yaml.Reader

namespace AnomalyWindows.Settings

abbrev Environment := List (String × String)

def Environment.find? (name : String) (env : Environment) : Option String :=
  env.lookup name

def fileVariable : String := "SW_CONFIG_FILE"

def usualFile : String := "config.yaml"

def overrides : List (String × String) :=
  [("REDIS_URL", "redis_url"), ("PROMETHEUS_URL", "prometheus_url"),
    ("SW_CATALOG_FILE", "catalog_file")]

def pathOf (env : Environment) (path : Option String) : String :=
  path.getD ((env.find? fileVariable).getD usualFile)

/-- The data of a file; data that count as nothing hold no setting. -/
def dataOf (content : String) : Except Fault Data :=
  match Yaml.ofText content with
  | .ok data => .ok (if data.isPresent then data else .map [])
  | .error .notYaml => .error .unreadableSettings
  | .error fault => .error fault

/-- The settings of a file with those of the environment in their place. An empty variable tells
nothing. -/
def overridden (env : Environment) (r : Record) : Record :=
  overrides.foldl (fun r (source, name) =>
    match (env.find? source).filter (· != "") with
    | some value => Data.put (.text name) (.text value) r
    | none => r) r

def load (files : String → Option String) (env : Environment) (path : Option String) :
    Except Fault Settings := do
  let data ← match files (pathOf env path) with
    | some content => dataOf content
    | none => pure (.map [])
  let r ← Record.ofEntry data
  (ofRecord .modelType (overridden env r)).toExcept

end AnomalyWindows.Settings
