import CustomProperties.Files.Tree
import Mathlib.Tactic.Common

/-!
# Writing and reading

What is written to a path is read from it (`read_of_write`). Writing to another place and creating
directories leave it there (`read_of_write_of_ne`, `read_of_createDirectories`): both keep every
directory where it is, so that a path leads to the same place as before.
-/

namespace CustomProperties

/-! ### Results -/

section

variable {ε ε' α β : Type}

lemma exists_of_bind_eq_ok {result : Except ε α} {next : α → Except ε β} {b : β}
    (h : (result >>= next) = .ok b) : ∃ a, result = .ok a ∧ next a = .ok b := by
  cases result with
  | error e => cases h
  | ok a => exact ⟨a, rfl, h⟩

lemma eq_ok_of_mapError {result : Except ε α} {message : ε → ε'} {a : α}
    (h : result.mapError message = .ok a) : result = .ok a := by
  cases result with
  | error e => cases h
  | ok b =>
    cases h
    rfl

end

namespace FileTree

variable {tree other : FileTree} {place : Place} {path text : String}

/-! ### Places -/

/-- Putting something at a place changes nothing elsewhere. -/
lemma found_put (hplace : place ≠ []) (entry : Entry) (q : Place) :
    FileTree.entry? (tree.put place entry) q = if q = place then some entry else tree.entry? q := by
  by_cases hq : q = []
  · simp [ entry?, hq, hplace.symm]
  rw [ entry?, entry?, if_neg hq, if_neg hq, put]
  split
  · next hany =>
    -- replacing keeps the places
    have hplaces : (fun e : Place × Entry => e.1 == q) ∘
        (fun e => if e.1 == place then (place, entry) else e) = fun e => e.1 == q := by
      funext e
      by_cases he : e.1 = place <;> simp [he]
    rw [List.find?_map, hplaces]
    cases hfound : tree.entries.find? (·.1 == q) with
    | none =>
      split
      · next heq =>
        subst heq
        simp only [List.any_eq_true] at hany
        obtain ⟨e, he, heq⟩ := hany
        exact absurd heq (List.find?_eq_none.mp hfound e he)
      · rfl
    | some e =>
      have he : e.1 = q := by simpa using List.find?_some hfound
      by_cases heq : q = place <;> simp [he, heq]
  · next hnone =>
    rw [List.find?_append]
    split
    · next heq =>
      subst heq
      have hfound : tree.entries.find? (·.1 == q) = none := by
        rw [List.find?_eq_none]
        intro e he heq
        exact hnone (List.any_eq_true.mpr ⟨e, he, heq⟩)
      simp [hfound]
    · next heq => simp [Ne.symm heq]

@[simp] lemma cwd_put (entry : Entry) : (tree.put place entry).cwd = tree.cwd := by
  unfold put
  split <;> rfl

/-- The place that a path leads to, whether something stands there or not. -/
def reach (tree : FileTree) (path : String) : Except FileError Place := do
  let (place, segments) ← tree.start path
  tree.walk place segments

lemma lookup_eq (tree : FileTree) (path : String) :
    tree.lookup path = tree.reach path >>= fun place =>
      match tree.entry? place with
      | some entry => pure (place, entry)
      | none => .error .notFound := by
  rw [lookup, reach]
  cases tree.start path <;> rfl

/-- A text is read from a path that leads to a file with this text. -/
lemma read_eq_ok_iff : tree.read path = .ok text ↔
    ∃ place, tree.reach path = .ok place ∧ tree.entry? place = some (.file (.text text)) := by
  rw [read, lookup_eq]
  constructor
  · intro h
    obtain ⟨found, hlookup, hfile⟩ := exists_of_bind_eq_ok h
    obtain ⟨place, hreach, hplace⟩ := exists_of_bind_eq_ok hlookup
    cases hentry : tree.entry? place with
    | none =>
      rw [hentry] at hplace
      cases hplace
    | some entry =>
      rw [hentry] at hplace
      cases hplace
      cases entry with
      | directory => cases hfile
      | file content =>
        cases content with
        | binary bytes => cases hfile
        | text text' =>
          cases hfile
          exact ⟨place, hreach, hentry⟩
  · rintro ⟨place, hreach, hentry⟩
    have hlookup : tree.lookup path = .ok (place, .file (.text text)) := by
      rw [lookup_eq, hreach]
      change (match tree.entry? place with
        | some entry => pure (place, entry)
        | none => Except.error FileError.notFound) = _
      rw [hentry]
      rfl
    rw [← lookup_eq, hlookup]
    rfl

/-- The place that a segment leads to from a directory. -/
def enter (place : Place) (segment : String) : Except FileError Place :=
  if segment = "" ∨ segment = "." then .ok place
  else if segment = ".." then .ok place.dropLast
  else if 255 < segment.utf8ByteSize then .error .nameTooLong
  else .ok (place ++ [segment])

lemma walk_nil (tree : FileTree) (place : Place) : tree.walk place [] = .ok place := rfl

lemma walk_cons (tree : FileTree) (place : Place) (segment : String) (rest : List String) :
    tree.walk place (segment :: rest)
      = tree.requireDirectory place >>= fun _ => enter place segment >>= (tree.walk · rest) := by
  rw [walk, enter]
  cases tree.requireDirectory place with
  | error e => rfl
  | ok =>
    change (if segment = "" ∨ segment = "." then _ else _) = _
    repeat' split
    all_goals rfl

lemma walk_append (tree : FileTree) (place : Place) (front behind : List String) :
    tree.walk place (front ++ behind) = tree.walk place front >>= (tree.walk · behind) := by
  induction front generalizing place with
  | nil => rfl
  | cons segment front ih =>
    rw [List.cons_append, walk_cons, walk_cons]
    cases tree.requireDirectory place with
    | error e => rfl
    | ok =>
      change (enter place segment >>= _) = (enter place segment >>= _) >>= _
      cases enter place segment with
      | error e => rfl
      | ok next => exact ih next

/-! ### Trees that keep their directories -/

/-- The directories of a tree stand in another one too, and relative paths start at the same
place. -/
structure KeepsDirectories (tree other : FileTree) : Prop where
  cwd : other.cwd = tree.cwd
  directory : ∀ place, tree.entry? place = some .directory → other.entry? place = some .directory

variable {segments : List String} {start : Place}

lemma requireDirectory_eq_ok_iff :
    tree.requireDirectory place = .ok () ↔ tree.entry? place = some .directory := by
  rw [requireDirectory]
  split <;> simp_all

namespace KeepsDirectories

lemma walk (h : tree.KeepsDirectories other) (hwalk : tree.walk start segments = .ok place) :
    other.walk start segments = .ok place := by
  induction segments generalizing start with
  | nil => exact hwalk
  | cons segment segments ih =>
    rw [walk_cons] at hwalk ⊢
    obtain ⟨⟨⟩, hstart, hwalk⟩ := exists_of_bind_eq_ok hwalk
    obtain ⟨next, hnext, hwalk⟩ := exists_of_bind_eq_ok hwalk
    rw [requireDirectory_eq_ok_iff] at hstart
    rw [requireDirectory_eq_ok_iff.mpr (h.directory start hstart), hnext]
    exact ih hwalk

/-- A path leads to the same place. -/
lemma reach (h : tree.KeepsDirectories other) (hreach : tree.reach path = .ok place) :
    other.reach path = .ok place := by
  rw [FileTree.reach] at hreach ⊢
  obtain ⟨from_, hstart, hwalk⟩ := exists_of_bind_eq_ok hreach
  have hother : other.start path = tree.start path := by rw [start, start, h.cwd]
  rw [hother, hstart]
  exact h.walk hwalk

end KeepsDirectories

/-! ### Writing a text -/

/-- What is created gets a name of its own in a directory, the last segment of the path. -/
lemma exists_of_target {slash : Bool} (h : tree.target path = .ok (some place, slash)) :
    ∃ start segments front last directory, tree.start path = .ok (start, segments) ∧
      segments.reverse.dropWhile (· == "") = last :: front ∧
      tree.walk start front.reverse = .ok directory ∧ tree.entry? directory = some .directory ∧
      enter directory last = .ok (directory ++ [last]) ∧ place = directory ++ [last] ∧
      slash = (segments.getLast? == some "") := by
  rw [target] at h
  obtain ⟨⟨start, segments⟩, hstart, h⟩ := exists_of_bind_eq_ok h
  simp only at h
  split at h
  · cases h
  · next last front hback =>
    obtain ⟨directory, hwalk, h⟩ := exists_of_bind_eq_ok h
    obtain ⟨found, hfound, hwalk⟩ := exists_of_bind_eq_ok hwalk
    obtain ⟨⟨⟩, hdirectory, hwalk⟩ := exists_of_bind_eq_ok hwalk
    cases hwalk
    have hname : last ≠ "" := by
      have hhead := List.head?_dropWhile_not (· == "") segments.reverse
      rw [hback] at hhead
      simpa using hhead
    split at h
    · cases h
    · next hdots =>
      split at h
      · cases h
      · next hlong =>
        cases h
        rw [not_or] at hdots
        refine ⟨start, segments, front, last, directory, hstart, hback, hfound,
          requireDirectory_eq_ok_iff.mp hdirectory, ?_, rfl, rfl⟩
        simp [enter, hname, hdots, hlong]

lemma ne_nil_of_target {slash : Bool} (h : tree.target path = .ok (some place, slash)) :
    place ≠ [] := by
  obtain ⟨_, _, _, _, _, -, -, -, -, -, rfl, -⟩ := exists_of_target h
  simp

/-- A path without a slash at its end leads to where it creates something. -/
lemma reach_of_target (h : tree.target path = .ok (some place, false)) :
    tree.reach path = .ok place := by
  obtain ⟨start, segments, front, last, directory, hstart, hback, hwalk, hdirectory, henter, rfl,
    hslash⟩ := exists_of_target h
  have hsegments : segments = front.reverse ++ [last] := by
    cases hreverse : segments.reverse with
    | nil => simp [hreverse] at hback
    | cons segment rest =>
      have hlast : segments.getLast? = some segment := by
        rw [← List.head?_reverse, hreverse]
        rfl
      have hname : segment ≠ "" := by
        rintro rfl
        simp [hlast] at hslash
      rw [hreverse, List.dropWhile_cons_of_neg (by simpa using hname)] at hback
      rw [← List.reverse_reverse segments, hreverse, hback, List.reverse_cons]
  rw [reach, hstart]
  change tree.walk start segments = _
  rw [hsegments, walk_append, hwalk]
  change tree.walk directory [last] = _
  rw [walk_cons, requireDirectory_eq_ok_iff.mpr hdirectory, henter]
  rfl

/-- A text is written to where the path leads, unless a directory is there. -/
lemma exists_of_write (h : tree.write path text = .ok other) :
    ∃ place, place ≠ [] ∧ tree.reach path = .ok place ∧ tree.entry? place ≠ some .directory ∧
      other = tree.put place (.file (.text text)) := by
  rw [write] at h
  obtain ⟨⟨found, slash⟩, htarget, h⟩ := exists_of_bind_eq_ok h
  split at h
  · next place heq =>
    cases heq
    split at h
    · cases h
    · next hnone =>
      cases h
      exact ⟨place, ne_nil_of_target htarget, reach_of_target htarget, hnone, rfl⟩
  · cases h

lemma keepsDirectories_put (hplace : place ≠ []) {entry : Entry}
    (h : tree.entry? place = some .directory → entry = .directory) :
    tree.KeepsDirectories (tree.put place entry) := by
  refine ⟨cwd_put entry, ?_⟩
  intro q hq
  rw [found_put hplace]
  split
  · next heq =>
    subst heq
    rw [h hq]
  · exact hq

lemma keepsDirectories_of_write (h : tree.write path text = .ok other) :
    tree.KeepsDirectories other := by
  obtain ⟨place, hplace, -, hnone, rfl⟩ := exists_of_write h
  exact keepsDirectories_put hplace fun hdirectory => absurd hdirectory hnone

/-- What is written to a path is read from it. -/
lemma read_of_write (h : tree.write path text = .ok other) : other.read path = .ok text := by
  have hkeeps := keepsDirectories_of_write h
  obtain ⟨place, hplace, hreach, -, rfl⟩ := exists_of_write h
  refine read_eq_ok_iff.mpr ⟨place, hkeeps.reach hreach, ?_⟩
  rw [found_put hplace, if_pos rfl]

/-- A text is still read after something was written to another place. -/
lemma read_of_write_of_ne {path' text' : String} (h : tree.write path text = .ok other)
    (hne : tree.reach path ≠ tree.reach path') (hread : tree.read path' = .ok text') :
    other.read path' = .ok text' := by
  have hkeeps := keepsDirectories_of_write h
  obtain ⟨place, hplace, hreach, -, rfl⟩ := exists_of_write h
  obtain ⟨place', hreach', hentry⟩ := read_eq_ok_iff.mp hread
  refine read_eq_ok_iff.mpr ⟨place', hkeeps.reach hreach', ?_⟩
  have hplaces : place' ≠ place := by
    rintro rfl
    exact hne (hreach.trans hreach'.symm)
  rw [found_put hplace, if_neg hplaces, hentry]

/-! ### Creating directories -/

/-- All that stands in a tree stands in another one too. -/
structure Keeps (tree other : FileTree) : Prop where
  cwd : other.cwd = tree.cwd
  entry : ∀ place entry, tree.entry? place = some entry → other.entry? place = some entry

namespace Keeps

variable {third : FileTree}

lemma refl (tree : FileTree) : tree.Keeps tree := ⟨rfl, fun _ _ h => h⟩

lemma trans (h : tree.Keeps other) (h' : other.Keeps third) : tree.Keeps third where
  cwd := h'.cwd.trans h.cwd
  entry place entry hentry := h'.entry place entry (h.entry place entry hentry)

lemma keepsDirectories (h : tree.Keeps other) : tree.KeepsDirectories other where
  cwd := h.cwd
  directory place := h.entry place .directory

lemma read (h : tree.Keeps other) (hread : tree.read path = .ok text) :
    other.read path = .ok text := by
  obtain ⟨place, hreach, hentry⟩ := read_eq_ok_iff.mp hread
  exact read_eq_ok_iff.mpr ⟨place, h.keepsDirectories.reach hreach, h.entry place _ hentry⟩

end Keeps

lemma keeps_of_createDirectory (h : tree.createDirectory path = .ok other) : tree.Keeps other := by
  rw [createDirectory] at h
  obtain ⟨⟨found, slash⟩, htarget, h⟩ := exists_of_bind_eq_ok h
  split at h
  · next place _ heq =>
    cases heq
    split at h
    · cases h
    · next hnone =>
      cases h
      refine ⟨cwd_put _, ?_⟩
      intro q entry hq
      rw [found_put (ne_nil_of_target htarget)]
      split
      · next heq =>
        subst heq
        simp [hq] at hnone
      · exact hq
  · cases h

lemma keeps_of_createDirectoriesWithin {depth : Nat}
    (h : createDirectoriesWithin depth tree path = .ok other) : tree.Keeps other := by
  fun_induction createDirectoriesWithin depth tree path generalizing other with
  | case1 =>
    cases h
    exact .refl _
  | case2 _ _ _ _ _ hcreate =>
    cases h
    exact keeps_of_createDirectory hcreate
  | case3 => cases h
  | case4 tree path _ _ _ parent _ ih =>
    -- first the directories above, then the one itself, if it is not there yet
    obtain ⟨above, habove, h⟩ := exists_of_bind_eq_ok h
    refine (ih habove).trans ?_
    split at h
    · next hcreate =>
      cases h
      exact keeps_of_createDirectory hcreate
    · split at h
      · cases h
        exact .refl _
      · cases h
  | case5 =>
    cases h
    exact .refl _
  | case6 => cases h

/-- Creating directories leaves all that is there. -/
lemma keeps_of_createDirectories (h : tree.createDirectories path = .ok other) :
    tree.Keeps other :=
  keeps_of_createDirectoriesWithin h

end FileTree

end CustomProperties
