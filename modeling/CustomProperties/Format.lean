import CustomProperties.Json.Printer
import CustomProperties.Table
import CustomProperties.Files.Path

/-!
# Formats of definition files

Definitions are read from style sheets, JSON files and modules, and written as style sheets, in the
syntax of Sass, as JSON, and as modules of two kinds. The format of a file is told by its kind: the
extension of its path, or a kind given explicitly, in letters of either case.
-/

namespace CustomProperties

/-- The names of the members of an object that hold definitions, in the order they are read. -/
def definitionKeys : List String := ["customProperties", "custom-properties"]

/-- The kind of a file in lower case. Only ASCII letters are lowered: no other letter has a lower
case that occurs in a known kind. -/
def kindOf (path : String) (kind : Option String) : String :=
  match kind with
  | some kind => kind.map Char.toLower
  | none => ((Path.extension? path).getD "").map Char.toLower

/-- A format that definitions are read from. -/
inductive SourceFormat where
  | stylesheet
  | json
  | module
deriving DecidableEq, Repr

/-- The format that files of a kind are read in. -/
def SourceFormat.ofKind? (kind : String) : Option SourceFormat :=
  if kind = "css" ∨ kind = "pcss" then some stylesheet
  else if kind = "json" then some json
  else if kind = "js" ∨ kind = "mjs" ∨ kind = "cjs" then some module
  else none

/-- A format that definitions are written in. -/
inductive Format where
  | css
  | scss
  | json
  /-- A module that assigns to `module.exports`. -/
  | commonModule
  /-- A module with an `export` declaration. -/
  | esModule
deriving DecidableEq, Repr

namespace Format

/-- The format that files of a kind are written in. -/
def ofKind? (kind : String) : Option Format :=
  if kind = "css" then some css
  else if kind = "scss" then some scss
  else if kind = "json" then some json
  else if kind = "js" then some commonModule
  else if kind = "mjs" then some esModule
  else none

/-- A character inside a string in single quotes. -/
def escapeChar (c : Char) : List Char :=
  if c = '\\' then ['\\', '\\']
  else if c = '\'' then ['\\', '\'']
  else if c = '\n' then ['\\', 'n']
  else if c = '\r' then ['\\', 'r']
  else [c]

/-- A text for a string in single quotes. -/
def escape (text : String) : String := String.ofList (text.toList.flatMap escapeChar)

/-- A text with its first two hyphens in a row replaced by a dollar sign. -/
def dollarName : List Char → List Char
  | '-' :: '-' :: rest => '$' :: rest
  | c :: rest => c :: dollarName rest
  | [] => []

/-- A member of an object literal, after some indentation. -/
def literalMember (indent : String) (property : String × String) : String :=
  indent ++ "'" ++ escape property.1 ++ "': '" ++ escape property.2 ++ "'"

/-- Definitions written in a format. -/
def render (properties : PlainProperties) : Format → String
  | css =>
    let lines := properties.map fun p => "\t" ++ p.1 ++ ": " ++ p.2 ++ ";"
    ":root \x7b\n" ++ "\n".intercalate lines ++ "\n\x7d\n"
  | scss =>
    let lines := properties.map fun p =>
      String.ofList (dollarName p.1.toList) ++ ": " ++ p.2 ++ ";"
    "\n".intercalate lines ++ "\n"
  | json =>
    let members := properties.map fun p => (p.1, Json.string p.2)
    (Json.object [("custom-properties", .object members)]).pretty ++ "\n"
  | commonModule =>
    let lines := properties.map (literalMember "\t\t")
    "module.exports = \x7b\n\tcustomProperties: \x7b\n" ++ ",\n".intercalate lines
      ++ "\n\t\x7d\n\x7d;\n"
  | esModule =>
    let lines := properties.map (literalMember "\t")
    "export const customProperties = \x7b\n" ++ ",\n".intercalate lines ++ "\n\x7d;\n"

end Format

/-- The text of a JSON value as the value of a property: a string's own text, and the JSON text of
everything else. -/
def Json.plainText : Json → String
  | .string text => text
  | other => other.compact

/-- The definitions that an object holds. -/
def PropertyTable.ofObject (value : Json) : PropertyTable :=
  definitionKeys.foldl (fun table key =>
    match value.get? key with
    | some (.object members) => table.extend (.ofPlain (members.map fun m => (m.1, m.2.plainText)))
    | _ => table) ∅

end CustomProperties
