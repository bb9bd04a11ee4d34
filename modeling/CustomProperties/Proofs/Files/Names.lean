import CustomProperties.Proofs.Files.Writing
import Mathlib.Data.List.Basic

/-!
# Names in a directory

A file name joined to a directory is the last segment of the path and leads to a place of that name,
if it leads to any. So files of different names in one directory stand at different places, and
writing one of them leaves the other (`read_of_write_join`).
-/

namespace CustomProperties

namespace Path

variable {path segment name : String}

/-! ### Segments -/

lemma not_mem_of_mem_splitOn {text front : List Char} (h : front ∈ text.splitOn '/') :
    '/' ∉ front := by
  by_cases hslash : '/' ∈ text
  · obtain ⟨first, rest, htext, hfirst⟩ := List.eq_append_cons_of_mem hslash
    rw [htext, List.splitOn_append_cons_self_of_not_mem hfirst, List.mem_cons] at h
    rcases h with rfl | h
    · exact hfirst
    · exact not_mem_of_mem_splitOn h
  · rw [List.splitOn_eq_singleton hslash, List.mem_singleton] at h
    rwa [h]
termination_by text.length
decreasing_by
  rw [htext, List.length_append, List.length_cons]
  omega

lemma not_mem_of_mem_segments (h : segment ∈ segments path) : '/' ∉ segment.toList := by
  obtain ⟨front, hfront, rfl⟩ := List.mem_map.mp h
  rw [String.toList_ofList]
  exact not_mem_of_mem_splitOn hfront

lemma segments_of_not_mem (h : '/' ∉ name.toList) : segments name = [name] := by
  rw [segments, List.splitOn_eq_singleton h, List.map_singleton, String.ofList_toList]

lemma segments_append_slash (front : List Char) (h : '/' ∉ name.toList) :
    segments (String.ofList (front ++ '/' :: name.toList))
      = segments (String.ofList front) ++ [name] := by
  rw [segments, String.toList_ofList, List.splitOn_append_cons_self, List.map_append,
    ← segments_of_not_mem h, segments, segments, String.toList_ofList]

/-- A name joined to a path is its last segment. -/
lemma segments_join (base : String) (h : '/' ∉ name.toList) :
    ∃ front, segments (join base name) = front ++ [name] := by
  rw [join]
  split
  · exact ⟨[], segments_of_not_mem h⟩
  · split
    · next hlast =>
      have hlast : base.toList.getLast? = some '/' := eq_of_beq hlast
      obtain ⟨front, hfront⟩ := List.getLast?_eq_some_iff.mp hlast
      refine ⟨segments (String.ofList front), ?_⟩
      rw [← segments_append_slash front h]
      congr 1
      rw [← String.toList_inj]
      simp [hfront]
    · refine ⟨segments base, ?_⟩
      rw [← String.ofList_toList (s := base), ← segments_append_slash base.toList h]
      congr 1
      rw [← String.toList_inj]
      simp

/-! ### Names -/

/-- A segment that names something in a directory. -/
structure IsName (name : String) : Prop where
  slash : '/' ∉ name.toList
  proper : name ≠ "" ∧ name ≠ "." ∧ name ≠ ".."

lemma subset_dropEmptyEnd (segments : List String) : dropEmptyEnd segments ⊆ segments := by
  fun_induction dropEmptyEnd segments with
  | case1 segment next rest _ ih => exact List.subset_cons_of_subset segment ih
  | case2 => exact List.Subset.refl _
  | case3 => exact List.Subset.refl _

lemma isName_of_fileName? (h : fileName? path = some name) : IsName name := by
  unfold fileName? at h
  split at h
  · next _ _ hdrop =>
    split at h
    · cases h
    · next hproper =>
      cases h
      have hmem : name ∈ segments path := by
        apply List.mem_reverse.mp
        apply subset_dropEmptyEnd
        rw [hdrop]
        exact List.mem_cons_self
      refine ⟨not_mem_of_mem_segments hmem, ?_⟩
      simpa [not_or, and_assoc] using hproper
  · cases h

end Path

namespace FileTree

variable {tree other : FileTree} {place : Place} {base name name' text text' : String}

lemma segments_of_start {path : String} {segments : List String}
    (h : tree.start path = .ok (place, segments)) : segments = Path.segments path := by
  rw [start] at h
  split at h
  · cases h
  · split at h
    · cases h
    · split at h
      · cases h
      · cases h
        rfl

/-- A name in a directory leads to a place of that name. -/
lemma getLast?_of_reach_join (hname : Path.IsName name) (h : tree.reach (Path.join base name) = .ok place) :
    place.getLast? = some name := by
  obtain ⟨⟨start, segments⟩, hstart, hwalk⟩ := exists_of_bind_eq_ok h
  change tree.walk start segments = _ at hwalk
  obtain ⟨front, hfront⟩ := Path.segments_join base hname.slash
  rw [segments_of_start hstart, hfront, walk_append] at hwalk
  obtain ⟨directory, -, hwalk⟩ := exists_of_bind_eq_ok hwalk
  change tree.walk directory [name] = _ at hwalk
  rw [walk_cons] at hwalk
  obtain ⟨-, -, hwalk⟩ := exists_of_bind_eq_ok hwalk
  obtain ⟨next, henter, hwalk⟩ := exists_of_bind_eq_ok hwalk
  obtain rfl : next = place := by
    change tree.walk next [] = _ at hwalk
    simpa [walk_nil] using hwalk
  obtain ⟨hempty, hdot, hdots⟩ := hname.proper
  rw [enter, if_neg (by simp [hempty, hdot]), if_neg hdots] at henter
  split at henter
  · cases henter
  · cases henter
    exact List.getLast?_concat ..

/-- Files of different names in one directory do not get into each other's way. -/
lemma read_of_write_join (hname : Path.IsName name) (hname' : Path.IsName name') (hne : name' ≠ name)
    (h : tree.write (Path.join base name) text = .ok other)
    (hread : tree.read (Path.join base name') = .ok text') :
    other.read (Path.join base name') = .ok text' := by
  apply read_of_write_of_ne h ?_ hread
  intro heq
  obtain ⟨place, -, hreach, -⟩ := exists_of_write h
  have hlast := getLast?_of_reach_join hname hreach
  rw [heq] at hreach
  rw [getLast?_of_reach_join hname' hreach, Option.some.injEq] at hlast
  exact hne hlast

end FileTree

end CustomProperties
