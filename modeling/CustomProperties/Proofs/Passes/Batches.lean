import CustomProperties.Destination
import CustomProperties.Source
import Mathlib.Data.List.Nodup
import Mathlib.Data.Prod.Basic
import Mathlib.Tactic.Common

/-!
# The order in which tasks end

How many turns the disk takes decides which of two failures comes first, and nothing else. A batch
in which no task fails finishes with the results of all tasks, in the order of the tasks
(`BatchEnd.ofEndings_eq_finished_iff`). So sources that all settle come to one table with the same
calls, and an export that succeeds leaves and delivers the same, whatever the pace of the disk. No
callable is called twice, whether all sources settle or not.
-/

namespace CustomProperties

/-- A disk without files. -/
def emptyDisk : Disk := ⟨⟨[], []⟩, .steady⟩

/-! ### Batches -/

namespace BatchEnd

variable {ε α : Type} {turns turns' : Nat → Nat} {endings : List (Ending ε α)} {all : List α}

lemma results_eq_iff_of_forall (h : ∀ ending ∈ endings, ∃ a, ending.result = .ok a) :
    results endings = all ↔ endings.map (·.result) = all.map .ok := by
  induction endings generalizing all with
  | nil => cases all <;> simp [results]
  | cons ending endings ih =>
    rw [List.forall_mem_cons] at h
    obtain ⟨⟨a, ha⟩, hrest⟩ := h
    cases all with
    | nil => simp [results, ha]
    | cons b all => simp [results, ha, ih hrest]

lemma forall_exists_ok_of_map_eq (h : endings.map (·.result) = all.map .ok) :
    ∀ ending ∈ endings, ∃ a, ending.result = .ok a := by
  intro ending hending
  have hmem : ending.result ∈ all.map .ok := by
    rw [← h]
    exact List.mem_map_of_mem hending
  obtain ⟨a, -, ha⟩ := List.mem_map.mp hmem
  exact ⟨a, ha.symm⟩

lemma earliest?_eq_none_iff {size task : Nat} :
    earliest? turns size task endings = none ↔ ∀ ending ∈ endings, ∃ a, ending.result = .ok a := by
  induction endings generalizing task with
  | nil => simp [earliest?]
  | cons ending endings ih =>
    rw [List.forall_mem_cons, earliest?]
    cases hresult : ending.result with
    | ok a => simp [ih]
    | error failure =>
      -- a failure is never passed over
      simp only [reduceCtorEq, exists_false, false_and, iff_false]
      split
      · split <;> simp
      · simp

lemma firstInOrder?_eq_none_iff {size task : Nat} :
    firstInOrder? turns size task endings = none
      ↔ ∀ ending ∈ endings, ∃ a, ending.result = .ok a := by
  induction endings generalizing task with
  | nil => simp [firstInOrder?]
  | cons ending endings ih =>
    rw [List.forall_mem_cons, firstInOrder?]
    cases hresult : ending.result with
    | ok a => simp [ih]
    | error failure => simp

/-- A batch finishes if all tasks succeed, with their results in the order of the tasks. -/
lemma ofEndings_eq_finished_iff :
    ofEndings turns endings = .finished all ↔ endings.map (·.result) = all.map .ok := by
  have hnone : (if endings.length ≤ smallBatch then earliest? turns endings.length 0 endings
      else firstInOrder? turns endings.length 0 endings) = none
        ↔ ∀ ending ∈ endings, ∃ a, ending.result = .ok a := by
    split
    · exact earliest?_eq_none_iff
    · exact firstInOrder?_eq_none_iff
  unfold ofEndings
  simp only
  split
  · next hsome =>
    -- some task fails
    refine ⟨nofun, fun h => ?_⟩
    rw [hnone.mpr (forall_exists_ok_of_map_eq h)] at hsome
    cases hsome
  · next h =>
    rw [finished.injEq]
    exact results_eq_iff_of_forall (hnone.mp h)

/-- Whether a batch finishes, and with what, does not depend on the turns that the disk takes. -/
lemma ofEndings_of_finished (h : ofEndings turns endings = .finished all) :
    ofEndings turns' endings = .finished all := by
  rw [ofEndings_eq_finished_iff] at h ⊢
  exact h

end BatchEnd

/-! ### Sources -/

variable {tree : FileTree} {pace pace' : Pace}

/-- Sources that all settle come to the same table with the same calls, whatever the pace of the
disk. -/
lemma aggregate_of_result_eq_ok {sources : List Source} {table : PropertyTable}
    (h : (aggregate ⟨tree, pace⟩ sources).result = .ok table) :
    aggregate ⟨tree, pace'⟩ sources = aggregate ⟨tree, pace⟩ sources := by
  cases hbatch : settleAll ⟨tree, pace⟩ sources with
  | finished tables =>
    have hbatch' : settleAll ⟨tree, pace'⟩ sources = .finished tables :=
      BatchEnd.ofEndings_of_finished hbatch
    simp only [aggregate, hbatch, hbatch']
  | failed failure moment =>
    simp only [aggregate, hbatch] at h
    cases h

/-- The callables that are called before a batch of `size` tasks ends, `task` being the place of the
first source. Each is told by the place of its source and the number of callables around it
there. -/
def calledBefore (batch : BatchEnd Failure PropertyTable) (size task : Nat) :
    List Source → List (Nat × Nat)
  | [] => []
  | source :: sources =>
    (((source.callTurns 0).zipIdx.filter fun call =>
        batch.reaches (.ofTask size call.1 task)).map fun call => (task, call.2))
      ++ calledBefore batch size (task + 1) sources

/-- The callables that are called when the sources of a list are aggregated. -/
def callsMade (disk : Disk) (sources : List Source) : List (Nat × Nat) :=
  calledBefore (settleAll disk sources) sources.length 0 sources

lemma length_calledBefore (batch : BatchEnd Failure PropertyTable) (size task : Nat)
    (sources : List Source) :
    (calledBefore batch size task sources).length = callsBefore batch size task sources := by
  induction sources generalizing task with
  | nil => rfl
  | cons source sources ih =>
    -- numbering the calls does not change which of them are made
    have hcalls := List.zipIdx_map_fst 0 (source.callTurns 0)
    rw [calledBefore, callsBefore, List.length_append, ih, List.length_map]
    conv_rhs => rw [← hcalls, List.filter_map, List.length_map]
    rfl

lemma length_callsMade (disk : Disk) (sources : List Source) :
    (callsMade disk sources).length = (aggregate disk sources).calls :=
  length_calledBefore ..

lemma le_fst_of_mem_calledBefore {batch : BatchEnd Failure PropertyTable} {size task : Nat}
    {sources : List Source} {call : Nat × Nat} (h : call ∈ calledBefore batch size task sources) :
    task ≤ call.1 := by
  induction sources generalizing task with
  | nil => cases h
  | cons source sources ih =>
    rw [calledBefore, List.mem_append] at h
    rcases h with h | h
    · obtain ⟨_, -, rfl⟩ := List.mem_map.mp h
      exact Nat.le_refl task
    · exact Nat.le_of_succ_le (ih h)

lemma nodup_calledBefore (batch : BatchEnd Failure PropertyTable) (size task : Nat)
    (sources : List Source) : (calledBefore batch size task sources).Nodup := by
  induction sources generalizing task with
  | nil => exact List.nodup_nil
  | cons source sources ih =>
    rw [calledBefore, List.nodup_append]
    refine ⟨?_, ih (task + 1), ?_⟩
    · -- the calls of one source have different numbers
      have hnumbers : ((source.callTurns 0).zipIdx.map (·.2)).Nodup := by
        rw [List.zipIdx_map_snd]
        exact List.nodup_range'
      have hsub := (List.filter_sublist (l := (source.callTurns 0).zipIdx)
        (p := fun call => batch.reaches (.ofTask size call.1 task))).map (·.2)
      have hpairs := (hsub.nodup hnumbers).map (Prod.mk_right_injective task)
      rwa [List.map_map] at hpairs
    · rintro call hcall other hother rfl
      obtain ⟨_, -, rfl⟩ := List.mem_map.mp hcall
      exact Nat.not_succ_le_self task (le_fst_of_mem_calledBefore hother)

/-- No callable is called twice in one aggregation, whatever comes of it. -/
lemma nodup_callsMade (disk : Disk) (sources : List Source) : (callsMade disk sources).Nodup :=
  nodup_calledBefore ..

/-! ### Destinations -/

/-- An export that succeeds leaves and delivers the same, whatever the pace of the disk. -/
lemma exportTable_of_result_eq_ok {table : PropertyTable} {destinations : List Destination}
    {count : Nat} (h : (exportTable ⟨tree, pace⟩ table destinations).result = .ok count) :
    exportTable ⟨tree, pace'⟩ table destinations = exportTable ⟨tree, pace⟩ table destinations := by
  cases hbatch : BatchEnd.ofEndings pace.writing (destinations.map (·.ending tree table)) with
  | finished written =>
    have hbatch' : BatchEnd.ofEndings pace'.writing (destinations.map (·.ending tree table))
        = .finished written := BatchEnd.ofEndings_of_finished hbatch
    simp only [exportTable, hbatch, hbatch']
  | failed failure moment =>
    simp only [exportTable, hbatch] at h
    cases h

end CustomProperties
