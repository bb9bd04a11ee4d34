import CustomProperties.Proofs.CommandLine.Files
import Mathlib

/-!
# Printing files

A run that prints its files prints what runs over each of them alone print, in the same order, and
its status and its summary are put together from theirs. The disk may have another pace in each of
these runs.
-/

namespace CustomProperties.CommandLine

/-! ### Printed files -/

namespace Processed

/-- What is printed of a file: its new text, and nothing if it failed. -/
def printed (processed : Processed) : String :=
  match processed.result with
  | .ok (_, text) => text
  | .error _ => ""

/-- Whether a file failed. -/
def fails (processed : Processed) : Bool :=
  match processed.result with
  | .ok _ => false
  | .error _ => true

/-- The number of declarations that were updated in a file. -/
def updated (processed : Processed) : Nat :=
  match processed.result with
  | .ok (report, _) => report.updated
  | .error _ => 0

/-- A file that failed is not printed. -/
lemma printed_of_fails {processed : Processed} (h : processed.fails) : processed.printed = "" := by
  obtain ⟨path, result⟩ := processed
  cases result with
  | error failure => rfl
  | ok result => cases h

end Processed

/-- The line that a report ends in. -/
def Outcome.EndsIn (outcome : Outcome) (line : String) : Prop :=
  ∃ lines, outcome.report = lines ++ line

variable {tree : FileTree} {arguments : ResolveArguments} {loaded : LoadedConfig}
  {files : List String} {file : String}

/-- The pace of the disk decides neither whether a file fails nor what it comes to otherwise. -/
lemma printed_processAlone (pace pace' : Pace) (pipeline : Pipeline) :
    let processed := processAlone pace tree pipeline file
    let processed' := processAlone pace' tree pipeline file
    processed.printed = processed'.printed ∧ processed.fails = processed'.fails ∧
      processed.updated = processed'.updated := by
  intro processed processed'
  unfold Processed.printed Processed.fails Processed.updated
  cases hresult : processed.result with
  | ok result =>
    have hresult' : processed'.result = .ok result := processAlone_of_pace hresult
    simp [hresult']
  | error failure =>
    cases hresult' : processed'.result with
    | error failure' => exact ⟨rfl, rfl, rfl⟩
    | ok result =>
      have hok : processed.result = .ok result := processAlone_of_pace hresult'
      rw [hresult] at hok
      cases hok

section

variable (hwrite : arguments.write = false) (hout : arguments.outDir = none)

include hwrite hout

lemma writeNext_of_printing (written : Written) (processed : Processed) :
    let next := writeNext arguments written processed
    next.output = written.output ++ processed.printed ∧
    next.failed = written.failed + (if processed.fails then 1 else 0) ∧
    next.updated = written.updated + processed.updated := by
  obtain ⟨path, result⟩ := processed
  cases result with
  | error failure => simp [writeNext_of_error, Processed.printed, Processed.fails, Processed.updated]
  | ok result =>
    have hresult : writeResult arguments written.tree path result.2
        = .ok (written.tree, result.2) := by
      rw [writeResult, hwrite, hout]
      rfl
    simp only [writeNext_of_write_ok written hresult]
    exact ⟨rfl, rfl, rfl⟩

/-- What is printed of files is what is printed of each of them, in order. -/
lemma foldl_writeNext_of_printing (written : Written) (processed : List Processed) :
    let last := processed.foldl (writeNext arguments) written
    last.output = written.output ++ String.join (processed.map (·.printed)) ∧
    last.failed = written.failed + processed.countP (·.fails) ∧
    last.updated = written.updated + (processed.map (·.updated)).sum := by
  induction processed generalizing written with
  | nil => simp
  | cons first processed ih =>
    obtain ⟨houtput, hfailed, hupdated⟩ := writeNext_of_printing hwrite hout written first
    obtain ⟨ihoutput, ihfailed, ihupdated⟩ := ih (writeNext arguments written first)
    refine ⟨?_, ?_, ?_⟩
    · rw [List.foldl_cons, ihoutput, houtput, String.append_assoc]
      simp
    · rw [List.foldl_cons, ihfailed, hfailed, List.countP_cons, Nat.add_assoc, Nat.add_comm (List.countP ..)]
    · rw [List.foldl_cons, ihupdated, hupdated, List.map_cons, List.sum_cons, Nat.add_assoc]

end

/-! ### Runs that print -/

/-- A run that prints its files prints what comes of each of them, and counts those that failed. -/
lemma resolve_of_printing (paces : Nat → Pace) (arguments : ResolveArguments)
    (hconfig : configOf tree arguments = .ok loaded)
    (hfiles : findStylesheets tree arguments.inputs = .ok files)
    (hexport : (optionsOf loaded arguments (workingDirectory tree)).exportTo = [])
    (hwrite : arguments.write = false) (hout : arguments.outDir = none) :
    let outcome := resolve paces tree arguments
    ∃ pace,
      let processed := files.map (processAlone pace tree (pipelineOf loaded arguments tree))
      outcome.output = String.join (processed.map (·.printed)) ∧
      outcome.succeeded = (processed.countP (·.fails) == 0) ∧
      outcome.EndsIn (summaryLine files.length (processed.countP (·.fails))
        (processed.map (·.updated)).sum) := by
  intro outcome
  obtain ⟨pace, lines, hresolve⟩ := resolve_eq paces arguments hconfig hfiles hexport
  refine ⟨pace, ?_⟩
  intro processed
  obtain ⟨houtput, hfailed, hupdated⟩ :=
    foldl_writeNext_of_printing hwrite hout { tree } processed
  have houtcome : outcome = _ := hresolve
  rw [String.empty_append] at houtput
  rw [Nat.zero_add] at hfailed hupdated
  rw [← houtput, ← hfailed, ← hupdated, houtcome]
  exact ⟨rfl, rfl, _, rfl⟩

/-- A run over one file prints what comes of it, and reports on it alone. -/
lemma resolve_singleton (paces : Nat → Pace) (pace : Pace) (arguments : ResolveArguments)
    (hconfig : configOf tree arguments = .ok loaded) (hfile : tree.isFile file)
    (hexport : (optionsOf loaded arguments (workingDirectory tree)).exportTo = [])
    (hwrite : arguments.write = false) (hout : arguments.outDir = none) :
    let processed := processAlone pace tree (pipelineOf loaded arguments tree) file
    let alone := resolve paces tree { arguments with inputs := [file] }
    alone.output = processed.printed ∧ processed.fails = !alone.succeeded ∧
    alone.EndsIn (summaryLine 1 (if alone.succeeded then 0 else 1) processed.updated) := by
  intro processed alone
  obtain ⟨pace', houtput, hsucceeded, hreport⟩ := resolve_of_printing paces
    { arguments with inputs := [file] } hconfig (findStylesheets_singleton hfile) hexport hwrite hout
  let processed' := processAlone pace' tree (pipelineOf loaded arguments tree) file
  have hprocessed : [file].map (processAlone pace' tree
      (pipelineOf loaded { arguments with inputs := [file] } tree)) = [processed'] := rfl
  obtain ⟨hprinted, hsame, hcount⟩ : processed'.printed = processed.printed ∧
      processed'.fails = processed.fails ∧ processed'.updated = processed.updated :=
    printed_processAlone ..
  simp only [hprocessed, List.map_cons, List.map_nil, List.countP_cons, List.countP_nil, hprinted,
    hsame, hcount] at houtput hsucceeded hreport
  have hfails : alone.succeeded = !processed.fails := by
    refine hsucceeded.trans ?_
    cases processed.fails <;> simp
  refine ⟨?_, ?_, ?_⟩
  · simpa using houtput
  · rw [hfails, Bool.not_not]
  · rw [hfails]
    cases h : processed.fails <;> simpa [h] using hreport

/-- A run that prints its files and exports nothing, with a configuration that loads, over inputs
that are all there and mean some files: it prints what runs over each of these files alone print, in
order, where a file that fails prints nothing. Its status is 0 if they all succeed and 2 otherwise,
and its summary counts those that failed, or the declarations that they report as rewritten. The
pace of the disk has no say in this, neither in that run nor in the others. -/
theorem resolve_output_eq_join (paces : Nat → Pace) (pacesAlone : String → Nat → Pace)
    (hconfig : configOf tree arguments = .ok loaded)
    (hexist : ∀ input ∈ arguments.inputs, tree.pathExists input)
    (hsome : arguments.inputs.flatMap (filesIn tree) ≠ [])
    (hexport : (optionsOf loaded arguments (workingDirectory tree)).exportTo = [])
    (hwrite : arguments.write = false) (hout : arguments.outDir = none) :
    let files := arguments.inputs.flatMap (filesIn tree)
    let outcome := resolve paces tree arguments
    let alone := fun file => resolve (pacesAlone file) tree { arguments with inputs := [file] }
    outcome.output = String.join (files.map fun file => (alone file).output) ∧
    (∀ file ∈ files, ¬ (alone file).succeeded → (alone file).output = "") ∧
    outcome.status = (if ∀ file ∈ files, (alone file).succeeded then 0 else 2) ∧
    ∃ rewritten : String → Nat,
      (∀ file ∈ files, (alone file).EndsIn
        (summaryLine 1 (if (alone file).succeeded then 0 else 1) (rewritten file))) ∧
      outcome.EndsIn (summaryLine files.length (files.countP fun file => !(alone file).succeeded)
        (files.map rewritten).sum) := by
  intro files outcome alone
  have hfiles : findStylesheets tree arguments.inputs = .ok files :=
    findStylesheets_of_pathExists hexist hsome
  obtain ⟨pace, houtput, hsucceeded, hreport⟩ :=
    resolve_of_printing paces arguments hconfig hfiles hexport hwrite hout
  let processed := processAlone pace tree (pipelineOf loaded arguments tree)
  have halone (file : String) (hfile : file ∈ files) :=
    resolve_singleton (pacesAlone file) pace arguments hconfig
      (isFile_of_mem_findStylesheets hfiles hfile) hexport hwrite hout
  have hfails (file : String) (hfile : file ∈ files) :
      (processed file).fails = !(alone file).succeeded := (halone file hfile).2.1
  have hcount : (files.map processed).countP (·.fails)
      = files.countP fun file => !(alone file).succeeded := by
    rw [List.countP_map]
    apply List.countP_congr
    intro file hfile
    rw [← hfails file hfile]
    rfl
  rw [hcount] at hsucceeded hreport
  rw [List.map_map] at houtput hreport
  refine ⟨?_, ?_, ?_, fun file => (processed file).updated,
    fun file hfile => (halone file hfile).2.2, hreport⟩
  · rw [List.map_congr_left fun file hfile => (halone file hfile).1]
    exact houtput
  · intro file hfile hfailed
    have hprinted : (alone file).output = (processed file).printed := (halone file hfile).1
    rw [hprinted]
    apply Processed.printed_of_fails
    rw [hfails file hfile]
    simpa using hfailed
  · have hall : outcome.succeeded ↔ ∀ file ∈ files, (alone file).succeeded := by
      rw [hsucceeded, beq_iff_eq, List.countP_eq_zero]
      simp
    simp only [Outcome.status, hall]

/-- A style sheet, a file that is no text, and definitions to import. -/
def unreadableTree : FileTree where
  entries := [(["a.css"], .file (.text "x:var(--q,1)")), (["b.css"], .file (.binary [0xff])),
    (["t.json"], .file (.text "\x7b\"customProperties\":\x7b\"--q\":\"2\"\x7d\x7d"))]
  cwd := []

/-- Both files with the definitions. -/
def unreadableArguments : ResolveArguments where
  inputs := ["a.css", "b.css"]
  importFrom := ["t.json"]

/-- A disk that takes three turns to read and none to write. -/
def slowReading : Pace := ⟨fun _ => 3, fun _ => 0⟩

/-- The file that is no text takes nothing from what is printed, and fails the run. The disk is
slower where the other file is alone. -/
theorem resolve_output_eq_join_unreadable :
    (resolve (fun _ => .steady) unreadableTree unreadableArguments).output
      = (resolve (fun _ => slowReading) unreadableTree
          { unreadableArguments with inputs := ["a.css"] }).output ∧
    (resolve (fun _ => .steady) unreadableTree unreadableArguments).status = 2 := by
  have hconfig : configOf unreadableTree unreadableArguments = .ok ⟨{}, "/", none⟩ := rfl
  have hexist : ∀ input ∈ unreadableArguments.inputs, unreadableTree.pathExists input := by
    decide +kernel
  have hfiles : unreadableArguments.inputs.flatMap (filesIn unreadableTree)
      = ["a.css", "b.css"] := by decide +kernel
  have hfails : ¬ (resolve (fun _ => slowReading) unreadableTree
      { unreadableArguments with inputs := ["b.css"] }).succeeded := by decide +kernel
  obtain ⟨houtput, hnone, hstatus, -⟩ :=
    resolve_output_eq_join (fun _ => .steady) (fun _ _ => slowReading) hconfig hexist
      (by simp [hfiles]) rfl rfl rfl
  rw [hfiles] at houtput hnone hstatus
  have hempty := hnone "b.css" (by simp) hfails
  refine ⟨?_, ?_⟩
  · rw [houtput, List.map_cons, List.map_cons, List.map_nil, hempty]
    simp
  · rw [hstatus, if_neg]
    intro hall
    exact hfails (hall "b.css" (by simp))

end CustomProperties.CommandLine
