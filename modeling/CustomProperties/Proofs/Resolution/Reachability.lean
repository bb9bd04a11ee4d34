import CustomProperties.Proofs.Resolution.Remaining
import CustomProperties.Proofs.Resolution.Spacing

/-!
# What is out of reach

From a sequence of tokens the names mentioned in it can be reached, and those mentioned in the
stored tokens of a name that can be reached. Resolution of the sequence looks up no other name,
whatever is hidden and however often it begins again. So two tables resolve the sequence alike if
they have the same entries for the names that can be reached: all other definitions, and the order
of all of them, have no part in it.
-/

namespace CustomProperties

open ValueNode

namespace PropertyTable

variable {table other : PropertyTable} {names : String → Prop} {hidden : List String}
  {args nodes : List ValueNode} {name : String}

/-- A name can be reached from a sequence of tokens: it is mentioned in it, or in the stored tokens
of a name that can be reached. -/
inductive ReachedFrom (table : PropertyTable) (nodes : List ValueNode) : String → Prop
  | mentioned {name : String} : name ∈ mentionedAll nodes → ReachedFrom table nodes name
  | stored {n m : String} : ReachedFrom table nodes n → table.Refers n m →
    ReachedFrom table nodes m

lemma closed_reachedFrom (table : PropertyTable) (nodes : List ValueNode) :
    table.Closed (table.ReachedFrom nodes) :=
  fun _ _ => .stored

/-- Two tables have the same entries for the names of a set. -/
def AgreeOn (names : String → Prop) (table other : PropertyTable) : Prop :=
  ∀ name, names name → table.get? name = other.get? name

/-- A reference to a name for which two tables have the same entry gives way to the same in
both. -/
lemma AgreeOn.substitution_eq (h : AgreeOn names table other)
    (hargs : ∀ name, referent? args = some name → names name) :
    other.substitution hidden args = table.substitution hidden args := by
  obtain ⟨name, nodes, hname, hvisible, hget, hs⟩ | ⟨hunknown, -, -⟩ | ⟨hunknown, -, -⟩ :=
    table.substitution_cases hidden args
  · rw [hs, substitution_stored_iff, ← h name (hargs name hname)]
    exact ⟨hname, hvisible, hget⟩
  all_goals
    have hunknown' : other.Unknown hidden args := by
      intro name hname
      rw [← h name (hargs name hname)]
      exact hunknown name hname
    rw [hunknown.substitution_eq, hunknown'.substitution_eq]

end PropertyTable

open PropertyTable (AgreeOn)

variable {table other : PropertyTable} {names : String → Prop}

/-- Two tables that have the same entries for a set of names which their stored tokens do not leave
resolve a sequence alike that mentions only names of the set. -/
lemma resolveFrom_congr (hclosed : table.Closed names) (hagree : AgreeOn names table other)
    (hidden : List String) (done : Settled) (todo : List ValueNode)
    (hdone : MentionsOnly names done.1) (htodo : MentionsOnly names todo) :
    resolveFrom other hidden done todo = resolveFrom table hidden done todo := by
  have hreference {hidden : List String} {n : ValueNode} (href : n.isReference)
      (hn : ∀ name ∈ n.mentioned, names name) :
      other.substitution hidden n.children = table.substitution hidden n.children :=
    hagree.substitution_eq fun name hname => hn name (referent_mem_mentioned href hname)
  -- The induction follows the run with `table`. By `hreference` the other run takes the same branch,
  -- so what is left to show is that nothing but names of the set comes into the sequence.
  induction hidden, done, todo using resolveFrom_induct table with
  | nil hidden done => rw [resolveFrom_nil, resolveFrom_nil]
  | stored hidden done n rest name nodes href hs ihstored ihrest =>
    obtain ⟨hn, hrest⟩ := mentionsOnly_cons.1 htodo
    have hnodes : MentionsOnly names (withLeading n.before nodes) :=
      mentionsOnly_withLeading.2 (mentionsOnly_stored hclosed (names_of_stored hn href hs)
        (PropertyTable.of_substitution_eq_stored hs).2.2)
    have hinner : resolveHiding other (name :: hidden) (withLeading n.before nodes)
        = resolveHiding table (name :: hidden) (withLeading n.before nodes) :=
      ihstored mentionsOnly_nil hnodes
    rw [resolveFrom_stored href hs, resolveFrom_stored href ((hreference href hn).trans hs), hinner]
    exact ihrest
      (mentionsOnly_append.2 ⟨hdone, mentionsOnly_resolveHiding hclosed _ _ hnodes⟩) hrest
  | fallback hidden done n rest nodes href hs ih =>
    obtain ⟨hn, hrest⟩ := mentionsOnly_cons.1 htodo
    rw [resolveFrom_fallback href hs, resolveFrom_fallback href ((hreference href hn).trans hs)]
    refine ih mentionsOnly_nil ?_
    simp only [mentionsOnly_append, mentionsOnly_withLeading]
    exact ⟨hdone, mentionsOnly_fallback hn href hs, hrest⟩
  | stays hidden done n rest href hs ih =>
    obtain ⟨hn, hrest⟩ := mentionsOnly_cons.1 htodo
    rw [resolveFrom_stays href hs, resolveFrom_stays href ((hreference href hn).trans hs)]
    exact ih (mentionsOnly_append.2 ⟨hdone, mentionsOnly_cons.2 ⟨hn, mentionsOnly_nil⟩⟩) hrest
  | other hidden done n rest hother ihchildren ih =>
    obtain ⟨hn, hrest⟩ := mentionsOnly_cons.1 htodo
    have hchildren := mentionsOnly_children hother hn
    have hinner : resolveHiding other hidden n.children = resolveHiding table hidden n.children :=
      ihchildren mentionsOnly_nil hchildren
    have haround : resolvedAround other hidden n hother = resolvedAround table hidden n hother :=
      Subtype.ext (by rw [val_resolvedAround, val_resolvedAround, hinner])
    have hhead := mentionsOnly_withChildren (not_isReference_around hother)
      (mentionsOnly_resolveHiding hclosed hidden _ hchildren)
    rw [resolveFrom_other hother, resolveFrom_other hother, haround]
    exact ih (mentionsOnly_append.2 ⟨hdone, hhead⟩) hrest

/-- Two tables that have the same entries for all names that can be reached from a sequence of
tokens resolve it alike. -/
theorem resolve_eq_of_agreeOn_reached {nodes : List ValueNode}
    (h : AgreeOn (table.ReachedFrom nodes) table other) :
    resolve table nodes = resolve other nodes := by
  have hnodes : MentionsOnly (table.ReachedFrom nodes) nodes := fun _ => .mentioned
  have hresolved := resolveFrom_congr (table.closed_reachedFrom nodes) h [] .nil nodes
    mentionsOnly_nil hnodes
  rw [resolve_eq, resolve_eq]
  exact congrArg Subtype.val hresolved.symm

/-- The two entries of `circular` the other way round, and an entry that neither of them refers
to. -/
def circularBeside : PropertyTable where
  entries := [("--b", [.function "" "var" [.word "" "--a"] "" true]), ("--c", [.word "" "red"]),
    ("--a", [.word "" "x", .function " " "var" [.word "" "--b"] "" true])]

/-- The tokens of `calc(var(--a) var(--m,1px))`. -/
def circularSum : List ValueNode :=
  [.function "" "calc" [.function "" "var" [.word "" "--a"] "" true,
    .function " " "var" [.word "" "--m", .comma "", .word "" "1px"] "" true] "" true]

lemma refers_circular {n m : String} (h : circular.Refers n m) : m = "--a" ∨ m = "--b" := by
  obtain ⟨stored, hget, hm⟩ := h
  simp only [PropertyTable.get?, circular, OrderedMap.get?_cons, OrderedMap.get?_nil] at hget
  split_ifs at hget with ha hb
  · cases hget
    have hnames : mentionedAll [.word "" "x", .function " " "var" [.word "" "--b"] "" true]
        = ["--b"] := by cbv
    exact .inr (List.mem_singleton.1 (hnames ▸ hm))
  · cases hget
    have hnames : mentionedAll [.function "" "var" [.word "" "--a"] "" true] = ["--a"] := by cbv
    exact .inl (List.mem_singleton.1 (hnames ▸ hm))

/-- Two entries that refer to each other resolve a sequence alike with and without an entry beside
them. -/
theorem resolve_eq_of_agreeOn_reached_circular :
    AgreeOn (circular.ReachedFrom circularSum) circular circularBeside ∧
      circular.get? "--c" ≠ circularBeside.get? "--c" ∧
      resolve circular circularSum = resolve circularBeside circularSum := by
  have hmentioned : mentionedAll circularSum = ["--a", "--m"] := by cbv
  have hreached : ∀ name, circular.ReachedFrom circularSum name →
      name = "--a" ∨ name = "--b" ∨ name = "--m" := by
    rintro name (hname | ⟨-, hedge⟩)
    · rw [hmentioned, List.mem_cons, List.mem_singleton] at hname
      tauto
    · have := refers_circular hedge
      tauto
  have hagree : AgreeOn (circular.ReachedFrom circularSum) circular circularBeside := by
    intro name hname
    rcases hreached name hname with rfl | rfl | rfl <;> rfl
  have hmissing : circular.get? "--c" = none := rfl
  have hbeside : circularBeside.get? "--c" = some [.word "" "red"] := rfl
  refine ⟨hagree, ?_, resolve_eq_of_agreeOn_reached hagree⟩
  rw [hmissing, hbeside]
  exact (Option.some_ne_none _).symm

end CustomProperties
