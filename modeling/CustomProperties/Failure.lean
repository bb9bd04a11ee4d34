import CustomProperties.Files.Tree
import CustomProperties.Text.Quoted

/-!
# Failures

Everything that can go wrong, and the message for it.
-/

namespace CustomProperties

open Text (quoted)

/-- Why something failed. -/
inductive Failure where
  | readStylesheet (path : String) (error : FileError)
  | readJson (path : String) (error : FileError)
  | parseJson (path : String)
  | readModule (path : String) (error : FileError)
  | parseModule (path : String)
  | readConfig (path : String) (error : FileError)
  | parseConfig (path : String)
  /-- A setting holds an empty path. -/
  | emptyPath (setting : String)
  | write (path : String) (error : FileError)
  | createDirectory (path : String) (error : FileError)
  | noFileName (path : String)
  /-- A file operation failed that the message says nothing more about. -/
  | file (error : FileError)
  /-- Definitions were to be written into something that is no object. -/
  | notAnObject
  /-- A source or destination refused, in its own words. -/
  | refused (message : String)
  /-- A pass that may not wait was asked of a pipeline with sources or destinations. -/
  | mustWait
  | inputNotFound (path : String)
  | noStylesheets
  | alreadyExists (path : String)
deriving DecidableEq, Repr, Inhabited

/-- The message of a failure. -/
def Failure.message : Failure → String
  | readStylesheet path error => s!"Failed to read stylesheet: {quoted path}: {error.message}"
  | readJson path error => s!"Failed to read JSON file: {quoted path}: {error.message}"
  | parseJson path => s!"Failed to parse JSON file: {quoted path}"
  | readModule path error => s!"Failed to read module: {quoted path}: {error.message}"
  | parseModule path => s!"Failed to parse module {quoted path}"
  | readConfig path error => s!"Failed to read config file: {quoted path}: {error.message}"
  | parseConfig path => s!"Failed to parse config file: {quoted path}"
  | emptyPath setting => s!"Empty path in '{setting}'"
  | write path error => s!"Failed to write {quoted path}: {error.message}"
  | createDirectory path error => s!"Failed to create directory: {quoted path}: {error.message}"
  | noFileName path => s!"Input has no file name: {quoted path}"
  | file error => error.message
  | notAnObject => "Export target is not an object"
  | refused message => message
  | mustWait =>
    "Pipeline has import sources or export destinations and must run asynchronously"
  | inputNotFound path => s!"Input not found: {path}"
  | noStylesheets => "No .css or .pcss files found in the given inputs"
  | alreadyExists path => s!"{path} already exists"

end CustomProperties
