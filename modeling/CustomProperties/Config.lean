import CustomProperties.Files.Tree
import CustomProperties.Json.Parser
import CustomProperties.Json.Printer
import CustomProperties.Pipeline

/-!
# Configurations

A configuration is a JSON file with the settings of a pipeline. It is an object with the members
`preserve`, `importFrom` and `exportTo`, all of which may be left out, or an array of their values
in this order. Relative paths in it are seen from the directory that the file is in.
-/

namespace CustomProperties

/-- An entry that says where to import from. -/
inductive ImportEntry where
  | path (path : String)
  /-- An object that holds definitions itself. -/
  | inline (members : List (String × Json))
  | location (path : String) (kind : Option String)
deriving Inhabited

/-- An entry that says where to export to. -/
inductive ExportEntry where
  | path (path : String)
  | location (path : String) (kind : Option String)
deriving DecidableEq, Repr, Inhabited

/-- A configuration. -/
structure Config where
  preserve : Bool := true
  importFrom : List ImportEntry := []
  exportTo : List ExportEntry := []
deriving Inhabited

/-! ### Reading -/

namespace Json

/-- The member of an object with a given name, if it is there. A name must not be there twice. -/
def single? (name : String) (members : List (String × Json)) : Option (Option Json) :=
  match members.filter (·.1 == name) with
  | [] => some none
  | [member] => some (some member.2)
  | _ => none

/-- A location: a path under the given name, and a kind that may be left out. -/
def location? (name : String) (members : List (String × Json)) :
    Option (String × Option String) := do
  let kind ← match ← single? "type" members with
    | none => some none
    | some .null => some none
    | some (.string kind) => some (some kind)
    | _ => none
  match ← single? name members with
  | some (.string path) => pure (path, kind)
  | _ => none

end Json

/-- The entry that a JSON value is. An object with definitions is never a location. -/
def ImportEntry.ofJson? : Json → Option ImportEntry
  | .string file => some (.path file)
  | .object members =>
    if definitionKeys.any (OrderedMap.contains · members) then
      (Json.object members).merged.members?.map inline
    else (Json.location? "from" members).map fun (file, kind) => location file kind
  | _ => none

/-- The entry that a JSON value is. -/
def ExportEntry.ofJson? : Json → Option ExportEntry
  | .string file => some (.path file)
  | .object members => (Json.location? "to" members).map fun (file, kind) => location file kind
  | _ => none

/-- The items of an array, all of the same sort. -/
def Json.itemsOf? {α : Type} (item? : Json → Option α) : Json → Option (List α)
  | .array items => items.mapM item?
  | _ => none

/-- The truth value that a JSON value is. -/
def Json.bool? : Json → Option Bool
  | .bool value => some value
  | _ => none

namespace Config

/-- The name of the file that holds a configuration. -/
def fileName : String := ".unvarrc.json"

/-- The names of the members that mean something. -/
def memberNames : List String := ["preserve", "importFrom", "exportTo"]

/-- The configuration of the given values, those left out having none. -/
def ofValues? (preserve importFrom exportTo : Option Json) : Option Config := do
  let preserve ← match preserve with
    | some value => value.bool?
    | none => some true
  let importFrom ← match importFrom with
    | some value => value.itemsOf? ImportEntry.ofJson?
    | none => some []
  let exportTo ← match exportTo with
    | some value => value.itemsOf? ExportEntry.ofJson?
    | none => some []
  pure { preserve, importFrom, exportTo }

/-- The configuration that a JSON value is. -/
def ofJson? : Json → Option Config
  | .object members => do
    ofValues? (← Json.single? "preserve" members) (← Json.single? "importFrom" members)
      (← Json.single? "exportTo" members)
  | .array items => if items.length ≤ 3 then ofValues? items[0]? items[1]? items[2]? else none
  | _ => none

/-- The configuration that a text is. Members that mean nothing are passed over. -/
def parse (text : String) : Option Config :=
  (Json.parseRaw (fun name => !memberNames.contains name) text).bind ofJson?

end Config

/-! ### Writing -/

/-- A location as a JSON value. -/
def Json.ofLocation (name path : String) (kind : Option String) : Json :=
  .object ((name, .string path) :: (kind.map fun kind => ("type", .string kind)).toList)

/-- An entry as a JSON value. -/
def ImportEntry.toJson : ImportEntry → Json
  | path file => .string file
  | inline members => .object members
  | location file kind => .ofLocation "from" file kind

/-- An entry as a JSON value. -/
def ExportEntry.toJson : ExportEntry → Json
  | path file => .string file
  | location file kind => .ofLocation "to" file kind

namespace Config

/-- A configuration as a JSON value. -/
def toJson (config : Config) : Json :=
  .object [("preserve", .bool config.preserve),
    ("importFrom", .array (config.importFrom.map (·.toJson))),
    ("exportTo", .array (config.exportTo.map (·.toJson)))]

/-- The text of the configuration that a new file gets. -/
def defaultText : String := (toJson {}).pretty

end Config

/-! ### Using -/

/-- The path of an entry, if it has one. -/
def ImportEntry.path? : ImportEntry → Option String
  | path file => some file
  | inline _ => none
  | location file _ => some file

/-- The path of an entry. -/
def ExportEntry.pathOf : ExportEntry → String
  | path file => file
  | location file _ => file

/-- The source that an entry means, seen from a directory. -/
def ImportEntry.source (base : String) : ImportEntry → Source
  | path file => .location (Path.join base file) none
  | inline members => .object (.object members)
  | location file kind => .location (Path.join base file) kind

/-- The destination that an entry means, seen from a directory. -/
def ExportEntry.destination (base : String) : ExportEntry → Destination
  | path file => .location (Path.join base file) none none
  | location file kind => .location (Path.join base file) kind none

namespace Config

/-- Fail if an entry has an empty path. -/
def validate (config : Config) : Except Failure Unit :=
  if config.importFrom.any (·.path? == some "") then .error (.emptyPath "importFrom")
  else if config.exportTo.any (·.pathOf == "") then .error (.emptyPath "exportTo")
  else .ok ()

/-- The settings that a configuration means, its paths seen from a directory. -/
def options (config : Config) (base : String) : Options where
  preserve := config.preserve
  importFrom := config.importFrom.map (·.source base)
  exportTo := config.exportTo.map (·.destination base)

end Config

/-! ### Finding -/

/-- A configuration, the directory that its paths are seen from, and the file it was read from. -/
structure LoadedConfig where
  config : Config
  base : String
  path : Option String
deriving Inhabited

namespace FileTree

/-- The first configuration file in some directories. Behind a directory with a repository in it
none is looked for. -/
def findConfigIn (tree : FileTree) : List String → Option String
  | [] => none
  | directory :: directories =>
    let path := Path.join directory Config.fileName
    if tree.pathExists path then some path
    else if tree.pathExists (Path.join directory ".git") then none
    else tree.findConfigIn directories

/-- The configuration file that holds in a directory: the nearest one, there or above. -/
def findConfig (tree : FileTree) (directory : String) : Option String :=
  tree.findConfigIn (Path.ancestors directory)

/-- Read a configuration file. -/
def loadConfigFile (tree : FileTree) (path : String) : Except Failure LoadedConfig := do
  let text ← (tree.read path).mapError (.readConfig path)
  match Config.parse text with
  | none => .error (.parseConfig path)
  | some config =>
    config.validate
    pure { config, base := (Path.parent? path).getD ".", path := some path }

/-- The configuration that holds in a directory, or the default one. -/
def loadConfig (tree : FileTree) (directory : String) : Except Failure LoadedConfig :=
  match tree.findConfig directory with
  | some path => tree.loadConfigFile path
  | none => .ok { config := {}, base := directory, path := none }

end FileTree

end CustomProperties
