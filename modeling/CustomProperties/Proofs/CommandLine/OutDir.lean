import CustomProperties.Proofs.CommandLine.Printing
import CustomProperties.Proofs.Files.Names
import CustomProperties.Proofs.Reprint.Idempotence

/-!
# Writing files into a directory

A run with a directory to write into writes each file there under its own name, whatever directory
it comes from. So of the files with one name only the last one is left (`read_outDir`): where no two
files have the same name the directory holds what became of all of them, and otherwise it does not,
although the run succeeds (`resolve_outDir_sameName`).
-/

namespace CustomProperties.CommandLine

variable {paces : Nat → Pace} {tree after : FileTree} {arguments : ResolveArguments}
  {directory path text output : String}

section

variable (hwrite : arguments.write = false) (hout : arguments.outDir = some directory)

include hwrite hout

/-! ### One file -/

/-- A file is written under its name into the directory, which is created if it is not there. -/
lemma exists_of_writeResult (h : writeResult arguments tree path text = .ok (after, output)) :
    ∃ name made, Path.fileName? path = some name ∧ tree.createDirectories directory = .ok made ∧
      made.write (Path.join directory name) text = .ok after := by
  rw [writeResult, hwrite, hout] at h
  obtain ⟨made, hmade, h⟩ := exists_of_bind_eq_ok h
  cases hname : Path.fileName? path with
  | none =>
    rw [hname] at h
    cases h
  | some name =>
    rw [hname] at h
    obtain ⟨written, hwritten, h⟩ := exists_of_bind_eq_ok h
    cases h
    exact ⟨name, made, rfl, eq_ok_of_mapError hmade, eq_ok_of_mapError hwritten⟩

lemma read_of_writeResult (h : writeResult arguments tree path text = .ok (after, output)) :
    ∃ name, Path.fileName? path = some name ∧
      after.read (Path.join directory name) = .ok text := by
  obtain ⟨name, made, hname, -, hwritten⟩ := exists_of_writeResult hwrite hout h
  exact ⟨name, hname, FileTree.read_of_write hwritten⟩

/-- What the directory holds under another name stays. -/
lemma read_of_writeResult_of_ne {name other : String} (hname : Path.IsName name)
    (hne : Path.fileName? path ≠ some name)
    (h : writeResult arguments tree path text = .ok (after, output))
    (hread : tree.read (Path.join directory name) = .ok other) :
    after.read (Path.join directory name) = .ok other := by
  obtain ⟨name', made, hname', hmade, hwritten⟩ := exists_of_writeResult hwrite hout h
  have hnames : name ≠ name' := by
    rintro rfl
    exact hne hname'
  apply FileTree.read_of_write_join (Path.isName_of_fileName? hname') hname hnames hwritten
  exact (FileTree.keeps_of_createDirectories hmade).read hread

end

/-! ### All files -/

/-- A file that does not fail was processed and written. -/
lemma exists_of_failed_eq_zero {written : Written} {processed : Processed}
    (h : (writeNext arguments written processed).failed = 0) :
    written.failed = 0 ∧ ∃ report text after output, processed.result = .ok (report, text) ∧
      writeResult arguments written.tree processed.path text = .ok (after, output) ∧
      (writeNext arguments written processed).tree = after := by
  obtain ⟨path, result⟩ := processed
  cases result with
  | error failure =>
    rw [writeNext_of_error] at h
    cases h
  | ok result =>
    obtain ⟨report, text⟩ := result
    cases hresult : writeResult arguments written.tree path text with
    | error failure =>
      rw [writeNext_of_write_error written hresult] at h
      cases h
    | ok result =>
      obtain ⟨after, output⟩ := result
      rw [writeNext_of_write_ok written hresult] at h ⊢
      exact ⟨h, report, text, after, output, rfl, hresult, rfl⟩

lemma failed_eq_zero_of_foldl {written : Written} {processed : List Processed}
    (h : (processed.foldl (writeNext arguments) written).failed = 0) : written.failed = 0 := by
  induction processed generalizing written with
  | nil => exact h
  | cons first processed ih => exact (exists_of_failed_eq_zero (ih h)).1

/-- Files of other names leave what the directory holds. -/
lemma read_foldl_of_ne (hwrite : arguments.write = false)
    (hout : arguments.outDir = some directory) {name : String} (hname : Path.IsName name)
    {written : Written} {processed : List Processed}
    (hne : ∀ p ∈ processed, Path.fileName? p.path ≠ some name)
    (h : (processed.foldl (writeNext arguments) written).failed = 0)
    (hread : written.tree.read (Path.join directory name) = .ok text) :
    (processed.foldl (writeNext arguments) written).tree.read (Path.join directory name)
      = .ok text := by
  induction processed generalizing written with
  | nil => exact hread
  | cons first processed ih =>
    rw [List.forall_mem_cons] at hne
    rw [List.foldl_cons] at h ⊢
    obtain ⟨-, _, _, after, _, -, hresult, htree⟩ :=
      exists_of_failed_eq_zero (failed_eq_zero_of_foldl h)
    apply ih hne.2 h
    rw [htree]
    exact read_of_writeResult_of_ne hwrite hout hname hne.1 hresult hread

/-! ### Runs -/

/-- A run that succeeds has found a configuration and some files. -/
lemma exists_of_succeeded (h : (resolve paces tree arguments).succeeded) :
    ∃ loaded files, configOf tree arguments = .ok loaded ∧
      findStylesheets tree arguments.inputs = .ok files := by
  unfold resolve at h
  cases hconfig : configOf tree arguments with
  | error failure =>
    simp only [hconfig] at h
    cases h
  | ok loaded =>
    simp only [hconfig] at h
    cases hfiles : findStylesheets tree arguments.inputs with
    | error failure =>
      simp only [hfiles] at h
      cases h
    | ok files => exact ⟨loaded, files, rfl, rfl⟩

/-- Without a place to write to, a run over one file that does not fail prints its new text. -/
lemma output_of_processAlone {pace : Pace} {loaded : LoadedConfig} {report : PassReport}
    (hconfig : configOf tree arguments = .ok loaded) (hfile : tree.isFile path)
    (hexport : (optionsOf loaded arguments (workingDirectory tree)).exportTo = [])
    (hwrite : arguments.write = false)
    (halone : (processAlone pace tree (pipelineOf loaded arguments tree) path).result
      = .ok (report, text)) :
    (resolve paces tree { arguments with inputs := [path], outDir := none }).output = text := by
  have hprinted : (resolve paces tree { arguments with inputs := [path], outDir := none }).output
      = (processAlone pace tree (pipelineOf loaded arguments tree) path).printed :=
    (resolve_singleton paces pace { arguments with outDir := none } hconfig hfile hexport hwrite
      rfl).1
  rw [hprinted, Processed.printed, halone]

/-! ### Two files -/

section

variable {made last : FileTree} {first second output' : String} {loaded : LoadedConfig}
  {pipeline : Pipeline} {pace : Pace}

lemma processAlone_of_isSync {result : PassReport × String} (hread : readInput tree path = .ok text)
    (hsync : pipeline.isSync) (hresult : pipeline.processTextSync text = .ok result) :
    processAlone pace tree pipeline path = ⟨path, .ok result⟩ := by
  simp [processAlone, hread, hsync, hresult, Except.bind]

/-- A run over two files that are both processed and written. -/
lemma resolve_pair {text text' : String} {result result' : PassReport × String}
    (hconfig : configOf tree arguments = .ok loaded)
    (hfiles : findStylesheets tree arguments.inputs = .ok [first, second])
    (hexport : (optionsOf loaded arguments (workingDirectory tree)).exportTo = [])
    (hsync : (pipelineOf loaded arguments tree).isSync)
    (hfirst : readInput tree first = .ok text)
    (hsecond : readInput tree second = .ok text')
    (hresult : (pipelineOf loaded arguments tree).processTextSync text = .ok result)
    (hresult' : (pipelineOf loaded arguments tree).processTextSync text' = .ok result')
    (hmade : writeResult arguments tree first result.2 = .ok (made, output))
    (hlast : writeResult arguments made second result'.2 = .ok (last, output')) :
    (resolve paces tree arguments).succeeded ∧ (resolve paces tree arguments).tree = last := by
  obtain ⟨pace, lines, hresolve⟩ := resolve_eq paces arguments hconfig hfiles hexport
  let one := writeNext arguments { tree } ⟨first, .ok result⟩
  have hone : one.tree = made ∧ one.failed = 0 := by
    simp [one, writeNext_of_write_ok { tree } hmade]
  have hwritten : writtenOf loaded arguments pace tree [first, second]
      = writeNext arguments one ⟨second, .ok result'⟩ := by
    rw [writtenOf, List.map_cons, List.map_cons, processAlone_of_isSync hfirst hsync hresult,
      processAlone_of_isSync hsecond hsync hresult']
    rfl
  have hlast : writeResult arguments one.tree second result'.2 = .ok (last, output') := by
    rw [hone.1]
    exact hlast
  rw [writeNext_of_write_ok one hlast] at hwritten
  rw [hresolve, hwritten]
  simp [hone.2]

end

section

open Css.Component
open Pipeline (oneRule processTextSync)
open Stylesheet (parse_of_reads)

/-- A sheet of one declaration that is updated. -/
lemma processTextSync_oneRule {value resolved : String}
    (hparse : Stylesheet.parse text 0 = oneRule (colorOf 1 value))
    (hscan : IgnoreSet.scan (oneRule (colorOf 1 value)) = .empty) (hmay : mayRefer value)
    (hsplit : splitTrailingComment value = (value, "")) (hresolved : resolveText ∅ value = resolved)
    (hne : resolved ≠ value) :
    processTextSync { options := { preserve := false } } text
      = .ok ({ updated := 1 }, (oneRule (colorOf 1 resolved)).render) := by
  have hone := Pipeline.processSync_oneRule hscan (updated?_colorOf hmay hsplit hresolved hne)
  rw [processTextSync, hparse, hone]
  rfl

/-- One of two style sheets. -/
def firstSheet : String := ".x\x7bcolor:var(--b,1px)\x7d"

/-- The other one. -/
def secondSheet : String := ".x\x7bcolor:var(--b,2px)\x7d"

lemma processTextSync_firstSheet :
    processTextSync { options := { preserve := false } } firstSheet
      = .ok ({ updated := 1 }, ".x\x7bcolor:1px\x7d") := by
  have hparse : Stylesheet.parse firstSheet 0 = oneRule (colorOf 1 "var(--b,1px)") := by
    refine (parse_of_reads (by cbv) (reads_rule rfl rfl rfl rfl ?_ .nil) _).trans rfl
    simp [isSemicolon]
  exact (processTextSync_oneRule hparse rfl (by decide) (by decide) (by cbv) (by decide)).trans rfl

lemma processTextSync_secondSheet :
    processTextSync { options := { preserve := false } } secondSheet
      = .ok ({ updated := 1 }, ".x\x7bcolor:2px\x7d") := by
  have hparse : Stylesheet.parse secondSheet 0 = oneRule (colorOf 1 "var(--b,2px)") := by
    refine (parse_of_reads (by cbv) (reads_rule rfl rfl rfl rfl ?_ .nil) _).trans rfl
    simp [isSemicolon]
  exact (processTextSync_oneRule hparse rfl (by decide) (by decide) (by cbv) (by decide)).trans rfl

end

/-- Both style sheets, each under a name in a directory of its own. -/
def twoSheets (first second : String) : FileTree where
  entries := [(["a"], .directory), (["a", first], .file (.text firstSheet)),
    (["b"], .directory), (["b", second], .file (.text secondSheet))]
  cwd := []

/-- Both style sheets, to be written into a third directory. -/
def intoThird (first second : String) : ResolveArguments where
  inputs := ["a/" ++ first, "b/" ++ second]
  noPreserve := true
  outDir := some "out"

/-- The files with the third directory and what it holds. -/
def withThird (first second : String) (third : List (Place × Entry)) : FileTree where
  entries := (twoSheets first second).entries ++ (["out"], .directory) :: third
  cwd := []

/-! ### Runs that write into a directory -/

/-- A run that succeeds and exports nothing, with a directory to write into: of the files with one
name, the directory holds under this name what a run over the last of them prints, whatever the pace
of the disk in both runs. -/
theorem read_outDir {pacesAlone : Nat → Pace} {front behind : List String}
    (hrun : (resolve paces tree arguments).succeeded)
    (hfiles : findStylesheets tree arguments.inputs = .ok (front ++ path :: behind))
    (hexport : ∀ loaded, configOf tree arguments = .ok loaded →
      (optionsOf loaded arguments (workingDirectory tree)).exportTo = [])
    (hwrite : arguments.write = false) (hout : arguments.outDir = some directory)
    (hlast : ∀ later ∈ behind, Path.fileName? later ≠ Path.fileName? path) :
    ∃ name, Path.fileName? path = some name ∧
      (resolve paces tree arguments).tree.read (Path.join directory name)
        = .ok (resolve pacesAlone tree
            { arguments with inputs := [path], outDir := none }).output := by
  obtain ⟨loaded, -, hconfig, -⟩ := exists_of_succeeded hrun
  have hpath : tree.isFile path := isFile_of_mem_findStylesheets hfiles (by simp)
  obtain ⟨pace, lines, hresolve⟩ :=
    resolve_eq paces arguments hconfig hfiles (hexport loaded hconfig)
  let alone := processAlone pace tree (pipelineOf loaded arguments tree)
  let before := (front.map alone).foldl (writeNext arguments) { tree }
  have hwritten : writtenOf loaded arguments pace tree (front ++ path :: behind)
      = (behind.map alone).foldl (writeNext arguments) (writeNext arguments before (alone path)) := by
    rw [writtenOf, List.map_append, List.foldl_append]
    rfl
  rw [hresolve, hwritten] at hrun
  have hnone := eq_of_beq hrun
  obtain ⟨-, report, text, after, output, halone, hresult, htree⟩ :=
    exists_of_failed_eq_zero (failed_eq_zero_of_foldl hnone)
  obtain ⟨name, hname, hread⟩ := read_of_writeResult hwrite hout hresult
  have hname : Path.fileName? path = some name := hname
  refine ⟨name, hname, ?_⟩
  have hprinted : (resolve pacesAlone tree _).output = text :=
    output_of_processAlone hconfig hpath (hexport loaded hconfig) hwrite halone
  rw [hresolve, hwritten, hprinted]
  apply read_foldl_of_ne hwrite hout (Path.isName_of_fileName? hname) ?_ hnone
  · rw [htree]
    exact hread
  · intro p hp
    obtain ⟨later, hlater, rfl⟩ := List.mem_map.mp hp
    rw [← hname]
    exact hlast later hlater

/-- Two files of different names: the directory holds what became of both. -/
theorem read_outDir_twoNames :
    let tree := twoSheets "x.css" "y.css"
    let arguments := intoThird "x.css" "y.css"
    (resolve (fun _ => .steady) tree arguments).tree.read "out/x.css"
      = .ok (resolve (fun _ => slowReading) tree
          { arguments with inputs := ["a/x.css"], outDir := none }).output ∧
    (resolve (fun _ => .steady) tree arguments).tree.read "out/y.css"
      = .ok (resolve (fun _ => slowReading) tree
          { arguments with inputs := ["b/y.css"], outDir := none }).output := by
  intro tree arguments
  have hconfig : configOf (twoSheets "x.css" "y.css") (intoThird "x.css" "y.css")
      = .ok ⟨{}, "/", none⟩ := rfl
  have hfiles : findStylesheets tree arguments.inputs = .ok ["a/x.css", "b/y.css"] := rfl
  have hmade : writeResult arguments tree "a/x.css" ".x\x7bcolor:1px\x7d" = .ok
      (withThird "x.css" "y.css" [(["out", "x.css"], .file (.text ".x\x7bcolor:1px\x7d"))], "") := rfl
  have hlast : writeResult arguments
      (withThird "x.css" "y.css" [(["out", "x.css"], .file (.text ".x\x7bcolor:1px\x7d"))])
      "b/y.css" ".x\x7bcolor:2px\x7d" = .ok
      (withThird "x.css" "y.css" [(["out", "x.css"], .file (.text ".x\x7bcolor:1px\x7d")),
        (["out", "y.css"], .file (.text ".x\x7bcolor:2px\x7d"))], "") := rfl
  obtain ⟨hrun, -⟩ := resolve_pair hconfig hfiles rfl rfl rfl rfl
    processTextSync_firstSheet processTextSync_secondSheet hmade hlast
  have hexport : ∀ loaded, configOf tree arguments = .ok loaded →
      (optionsOf loaded arguments (workingDirectory tree)).exportTo = [] := by
    intro loaded hloaded
    rw [hconfig, Except.ok.injEq] at hloaded
    subst hloaded
    rfl
  have hfront : findStylesheets tree arguments.inputs
      = .ok ([] ++ "a/x.css" :: ["b/y.css"]) := hfiles
  have hback : findStylesheets tree arguments.inputs
      = .ok (["a/x.css"] ++ "b/y.css" :: []) := hfiles
  constructor
  · obtain ⟨name, hname, hread⟩ := read_outDir hrun hfront hexport rfl rfl (by decide +kernel)
    obtain rfl : "x.css" = name := Option.some.inj hname
    exact hread
  · obtain ⟨name, hname, hread⟩ := read_outDir hrun hback hexport rfl rfl (by simp)
    obtain rfl : "y.css" = name := Option.some.inj hname
    exact hread

/-- Two files of one name, neither of them in the directory that is written into: the run succeeds,
and what became of the first one is in no file at all. -/
theorem resolve_outDir_sameName :
    let tree := twoSheets "x.css" "x.css"
    let arguments := intoThird "x.css" "x.css"
    findStylesheets tree arguments.inputs = .ok ["a/x.css", "b/x.css"] ∧
    (resolve (fun _ => .steady) tree arguments).status = 0 ∧
    (resolve (fun _ => .steady) tree
      { arguments with inputs := ["a/x.css"], outDir := none }).output = ".x\x7bcolor:1px\x7d" ∧
    ∀ e ∈ (resolve (fun _ => .steady) tree arguments).tree.entries,
      e.2 ≠ .file (.text ".x\x7bcolor:1px\x7d") := by
  intro tree arguments
  have hmade : writeResult arguments tree "a/x.css" ".x\x7bcolor:1px\x7d" = .ok
      (withThird "x.css" "x.css" [(["out", "x.css"], .file (.text ".x\x7bcolor:1px\x7d"))], "") := rfl
  have hlast : writeResult arguments
      (withThird "x.css" "x.css" [(["out", "x.css"], .file (.text ".x\x7bcolor:1px\x7d"))])
      "b/x.css" ".x\x7bcolor:2px\x7d" = .ok
      (withThird "x.css" "x.css" [(["out", "x.css"], .file (.text ".x\x7bcolor:2px\x7d"))], "") := rfl
  have hconfig : configOf (twoSheets "x.css" "x.css") (intoThird "x.css" "x.css")
      = .ok ⟨{}, "/", none⟩ := rfl
  have hfiles : findStylesheets tree arguments.inputs = .ok ["a/x.css", "b/x.css"] := rfl
  obtain ⟨hsucceeded, htree⟩ := resolve_pair hconfig hfiles rfl rfl rfl rfl
    processTextSync_firstSheet processTextSync_secondSheet hmade hlast
  have hfirst : processAlone .steady tree (pipelineOf ⟨{}, "/", none⟩ arguments tree) "a/x.css"
      = ⟨"a/x.css", .ok ({ updated := 1 }, ".x\x7bcolor:1px\x7d")⟩ :=
    processAlone_of_isSync rfl rfl processTextSync_firstSheet
  refine ⟨hfiles, ?_, ?_, ?_⟩
  · rw [Outcome.status, if_pos hsucceeded]
  · exact output_of_processAlone hconfig (isFile_of_mem_findStylesheets hfiles List.mem_cons_self)
      rfl rfl (congrArg Processed.result hfirst)
  · rw [htree]
    decide

end CustomProperties.CommandLine
