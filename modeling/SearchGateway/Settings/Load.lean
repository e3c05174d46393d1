import SearchGateway.Rpc.Credentials
import SearchGateway.Settings.File
import SearchGateway.Settings.Layer
import SearchGateway.Settings.Section

/-!
# Loading settings

Three layers make up the settings: the file `base.yaml`, the file of the environment that
`APP_ENVIRONMENT` names, and the variables whose names start with `HYBRID_SEARCH_`, where two
underscores lead from a section to a setting. `Settings.load` merges them and decodes the sections.
-/

namespace SearchGateway

namespace Settings

/-- Where settings come from: the content of each file, and the variables. -/
structure Sources where
  files : List (String × Json)
  env : Variables

/-- The environments that there are files for. -/
def environments : List String := ["local", "production"]

/-- The environment that the variables name, `local` where they name none. -/
def environmentOf (env : Variables) : Except SettingsFault String :=
  match env.lookup "APP_ENVIRONMENT" with
  | none => .ok "local"
  | some name =>
    match environments.find? fun e => e.toList == name.toList.map Char.toLower with
    | some e => .ok e
    | none => .error .unknownEnvironment

/-- The layer of a file. -/
def fileLayer (sources : Sources) (name : String) :
    Except SettingsFault (List (String × Json)) :=
  match findFile? sources.files name with
  | none => .error (.missingFile name)
  | some (read, content) =>
    match read.table? content with
    | some fields => .ok fields
    | none => .error (.unreadable name)

/-- The text behind a given start. -/
def behind? : List Char → List Char → Option (List Char)
  | [], cs => some cs
  | p :: ps, c :: cs => if p = c then behind? ps cs else none
  | _ :: _, [] => none

/-- Two underscores as a point, from the left. -/
def pointed : List Char → List Char
  | '_' :: '_' :: rest => '.' :: pointed rest
  | c :: rest => c :: pointed rest
  | [] => []

/-- The entry of a variable, if it is a setting. -/
def settingOf? (v : String × String) : Option (String × Json) :=
  (behind? "hybrid_search_".toList (Text.lowerCase v.1).toList).map fun key =>
    (String.ofList (pointed key), .string v.2)

/-- The layer of the variables. -/
def variableLayer (env : Variables) : List (String × Json) :=
  env.filterMap settingOf?

/-- The layers of the sources, the lowest one first. -/
def layers (sources : Sources) : Except SettingsFault (List (List (String × Json))) := do
  let environment ← environmentOf sources.env
  let base ← fileLayer sources "base.yaml"
  let specific ← fileLayer sources (environment ++ ".yaml")
  return [base, specific, variableLayer sources.env]

/-- Loads the settings. -/
def load (sources : Sources) : Except SettingsFault Settings := do
  ofTree (merged (← layers sources))

end Settings

end SearchGateway
