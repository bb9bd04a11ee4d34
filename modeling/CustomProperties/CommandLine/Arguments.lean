/-!
# Arguments of the command line

Words are read from left to right. An option takes its value from behind an equals sign or from the
next word, unless that starts like an option. The values of inputs and options are looked at only
when the next input or option begins, so that a word that means nothing is reported before an empty
value in front of it.
-/

namespace CustomProperties.CommandLine

/-- Why arguments name no command to run. -/
inductive Usage where
  | invalidSubcommand
  | missingArgument
  | unknownArgument
  | argumentConflict
  | invalidValue
  | tooManyValues
  /-- Help was asked for. -/
  | help
  /-- The version was asked for. -/
  | version
deriving DecidableEq, Repr, Inhabited

namespace Usage

/-- Whether something was asked for, so that there is nothing to blame. -/
def isRequest : Usage → Bool
  | help => true
  | version => true
  | _ => false

/-- The status that the program exits with. -/
def status (usage : Usage) : Nat := if usage.isRequest then 0 else 2

end Usage

/-- The arguments of the command that resolves references. -/
structure ResolveArguments where
  inputs : List String := []
  config : Option String := none
  verbose : Bool := false
  importFrom : List String := []
  exportTo : List String := []
  noPreserve : Bool := false
  outDir : Option String := none
  write : Bool := false
deriving DecidableEq, Repr, Inhabited

/-- A command. -/
inductive Command where
  | resolve (arguments : ResolveArguments)
  | init
deriving DecidableEq, Repr, Inhabited

namespace Command

/-- Whether a command is to tell what it does. -/
def verbose : Command → Bool
  | resolve arguments => arguments.verbose
  | init => false

end Command

/-! ### Words -/

/-- What a word is by its form. -/
inductive Word where
  /-- Two hyphens: all words behind them are values. -/
  | separator
  /-- A name behind two hyphens, and what stands behind an equals sign. -/
  | long (name : String) (value : Option String)
  /-- Letters behind a hyphen. -/
  | short (letters : List Char)
  | value (text : String)
deriving DecidableEq, Repr

/-- The form of a word. A hyphen alone is a value. -/
def Word.ofText (text : String) : Word :=
  match text.toList with
  | '-' :: '-' :: rest =>
    if rest.isEmpty then .separator
    else
      let name := String.ofList (rest.takeWhile (· ≠ '='))
      match rest.dropWhile (· ≠ '=') with
      | _ :: behind => .long name (some (String.ofList behind))
      | [] => .long name none
  | '-' :: letter :: letters => .short (letter :: letters)
  | _ => .value text

/-! ### The command that resolves references -/

/-- The options with values. -/
inductive Setting where
  | config
  | importFrom
  | exportTo
  | outDir
deriving DecidableEq, Repr

/-- The option with a value of a given name. -/
def Setting.ofName? (name : String) : Option Setting :=
  if name = "config" then some config
  else if name = "import-from" then some importFrom
  else if name = "export-to" then some exportTo
  else if name = "out-dir" then some outDir
  else none

/-- The options without values. -/
inductive Switch where
  | verbose
  | noPreserve
  | write
  | help
deriving DecidableEq, Repr

/-- The option without a value of a given name. -/
def Switch.ofName? (name : String) : Option Switch :=
  if name = "verbose" then some verbose
  else if name = "no-preserve" then some noPreserve
  else if name = "write" then some write
  else if name = "help" then some help
  else none

/-- The option without a value of a given letter. -/
def Switch.ofLetter? (letter : Char) : Option Switch :=
  if letter = 'v' then some verbose
  else if letter = 'h' then some help
  else none

/-- Values that were not looked at yet. -/
inductive Pending where
  | nothing
  | inputs (values : List String)
  | setting (setting : Setting) (value : Option String)
deriving DecidableEq, Repr

/-- The arguments read so far. -/
structure Draft where
  arguments : ResolveArguments := {}
  pending : Pending := .nothing

namespace Draft

/-- Give an option a value, which must not be empty. Two options may have only one value. -/
def set (arguments : ResolveArguments) (setting : Setting) (value : String) :
    Except Usage ResolveArguments :=
  let once (old : Option String) (arguments : ResolveArguments) :=
    if old.isSome then .error Usage.argumentConflict
    else if value.isEmpty then .error .invalidValue
    else .ok arguments
  match setting with
  | .config => once arguments.config { arguments with config := some value }
  | .outDir => once arguments.outDir { arguments with outDir := some value }
  | .importFrom => once none { arguments with importFrom := arguments.importFrom ++ [value] }
  | .exportTo => once none { arguments with exportTo := arguments.exportTo ++ [value] }

/-- Look at the values that were not looked at yet. -/
def settle (draft : Draft) : Except Usage Draft :=
  match draft.pending with
  | .nothing => .ok draft
  | .inputs values =>
    if values.contains "" then .error .invalidValue
    else .ok ⟨{ draft.arguments with inputs := draft.arguments.inputs ++ values }, .nothing⟩
  | .setting _ none => .error .invalidValue
  | .setting setting (some value) => do
    let arguments ← set draft.arguments setting value
    pure ⟨arguments, .nothing⟩

/-- Take an option without a value. It must not be given twice. -/
def turnOn (draft : Draft) (switch : Switch) : Except Usage Draft := do
  let ⟨arguments, pending⟩ ← draft.settle
  let once (old : Bool) (arguments : ResolveArguments) : Except Usage Draft :=
    if old then .error .argumentConflict else .ok ⟨arguments, pending⟩
  match switch with
  | .verbose => once arguments.verbose { arguments with verbose := true }
  | .noPreserve => once arguments.noPreserve { arguments with noPreserve := true }
  | .write => once arguments.write { arguments with write := true }
  | .help => .error .help

/-- Take letters that each are an option. -/
def turnOnAll (draft : Draft) : List Char → Except Usage Draft
  | [] => .ok draft
  | letter :: letters =>
    match Switch.ofLetter? letter with
    | some switch => do (← draft.turnOn switch).turnOnAll letters
    | none => .error .unknownArgument

/-- Take a name with two hyphens. -/
def takeLong (draft : Draft) (name : String) (value : Option String) : Except Usage Draft :=
  match Setting.ofName? name, Switch.ofName? name, value with
  | some setting, _, some value => do
    let draft ← draft.settle
    let arguments ← set draft.arguments setting value
    pure ⟨arguments, .nothing⟩
  | some setting, _, none => do
    let draft ← draft.settle
    pure { draft with pending := .setting setting none }
  | none, some switch, none => draft.turnOn switch
  | none, some _, some _ => .error .tooManyValues
  | none, none, _ => .error .unknownArgument

/-- Take an input. -/
def takeInput (draft : Draft) (text : String) : Except Usage Draft :=
  match draft.pending with
  | .inputs values => .ok { draft with pending := .inputs (values ++ [text]) }
  | _ => do
    let draft ← draft.settle
    pure { draft with pending := .inputs [text] }

/-- Take a word that is a value: of an option that waits for one, or an input. -/
def takeValue (draft : Draft) (text : String) : Except Usage Draft :=
  match draft.pending with
  | .setting setting none => .ok { draft with pending := .setting setting (some text) }
  | _ => draft.takeInput text

/-- Take words one by one. -/
def takeAll (draft : Draft) : List String → Except Usage Draft
  | [] => draft.settle
  | text :: texts =>
    match Word.ofText text with
    | .separator => do (← texts.foldlM takeInput draft).settle
    | .long name value => do (← draft.takeLong name value).takeAll texts
    | .short letters => do (← draft.turnOnAll letters).takeAll texts
    | .value text => do (← draft.takeValue text).takeAll texts

end Draft

namespace ResolveArguments

/-- The arguments with the configuration file that the environment names, unless the words named
one. -/
def withEnvironment (arguments : ResolveArguments) (configVariable : Option String) :
    Except Usage ResolveArguments :=
  match arguments.config, configVariable with
  | none, some path =>
    if path.isEmpty then .error .invalidValue else .ok { arguments with config := some path }
  | _, _ => .ok arguments

/-- Fail if arguments contradict each other, or if there are no inputs. -/
def check (arguments : ResolveArguments) : Except Usage ResolveArguments :=
  if arguments.outDir.isSome && arguments.write then .error .argumentConflict
  else if arguments.inputs.isEmpty then .error .missingArgument
  else .ok arguments

/-- The arguments that words write. -/
def parse (texts : List String) (configVariable : Option String) :
    Except Usage ResolveArguments := do
  let draft ← ({} : Draft).takeAll texts
  let arguments ← draft.arguments.withEnvironment configVariable
  arguments.check

end ResolveArguments

/-! ### Commands -/

/-- Whether words are fine behind the command that takes none. -/
def parseNone : List String → Except Usage Unit
  | [] => .ok ()
  | text :: texts =>
    match Word.ofText text with
    | .separator => if texts.isEmpty then .ok () else .error .unknownArgument
    | .long "help" none => .error .help
    | .long "help" (some _) => .error .tooManyValues
    | .short ('h' :: _) => .error .help
    | _ => .error .unknownArgument

/-- The names of the commands. -/
def commandNames : List String := ["resolve", "init", "help"]

/-- What help is asked for by the words behind `help`. -/
def parseHelp : List String → Usage
  | [] => .help
  | [name] => if commandNames.contains name then .help else .invalidSubcommand
  | _ => .invalidSubcommand

/-- The command that words write, if they write one at all. -/
def Command.parse (texts : List String) (configVariable : Option String) :
    Except Usage (Option Command) :=
  match texts with
  | [] => .ok none
  | text :: texts =>
    match Word.ofText text with
    | .separator =>
      match texts with
      | [] => .ok none
      | name :: _ =>
        if commandNames.contains name then .error .unknownArgument else .error .invalidSubcommand
    | .long "help" none => .error .help
    | .long "help" (some _) => .error .tooManyValues
    | .long "version" none => .error .version
    | .long "version" (some _) => .error .tooManyValues
    | .short ('h' :: _) => .error .help
    | .short ('V' :: _) => .error .version
    | .long .. => .error .unknownArgument
    | .short _ => .error .unknownArgument
    | .value "resolve" => do
      let arguments ← ResolveArguments.parse texts configVariable
      pure (some (.resolve arguments))
    | .value "init" => do
      parseNone texts
      pure (some .init)
    | .value "help" => .error (parseHelp texts)
    | .value _ => .error .invalidSubcommand

end CustomProperties.CommandLine
