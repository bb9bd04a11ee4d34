import CustomProperties.Proofs.Json.Parts
import CustomProperties.Proofs.Json.Written

/-!
# Limits of read JSON

Integers are read as such only if they have 64 bits, and only so many arrays and objects may be open
at a time. Every token that the machine takes keeps its state within these limits
(`Sound.step`), so that they hold of all that is read (`within_of_parseRaw`). What is passed over
has no limits.
-/

namespace CustomProperties.Json

variable {level : Nat} {value : Json} {items : List Json} {members : List (String × Json)}

/-! ### Values -/

/-- A value read inside of so many arrays and objects: its integers have 64 bits, and no more arrays
and objects are open in it than may be. -/
structure Within (level : Nat) (value : Json) : Prop where
  integers : ∀ n, integer n ∈ value.scalars → -2 ^ 63 ≤ n ∧ n < 2 ^ 64
  nesting : level + value.nesting ≤ maxDepth

lemma nesting_of_isScalar (h : value.isScalar) : value.nesting = 0 := by
  cases value with
  | array | object => cases h
  | _ => rw [nesting]

lemma nesting_le_iff {k : Nat} (h : value.isScalar = false) :
    value.nesting ≤ k + 1 ↔ ∀ part ∈ value.parts, part.nesting ≤ k := by
  cases value with
  | array items =>
    rw [nesting, parts, Nat.add_le_add_iff_right]
    induction items with
    | nil => simp [nestingItems]
    | cons item items ih => simp [nestingItems, ih rfl]
  | object members =>
    rw [nesting, parts, Nat.add_le_add_iff_right]
    induction members with
    | nil => simp [nestingMembers]
    | cons m members ih => simp [nestingMembers, ih rfl]
  | _ => cases h

lemma nesting_pos (h : value.isScalar = false) : 0 < value.nesting := by
  cases value with
  | array | object => simp [nesting]
  | _ => cases h

/-- An array or object keeps the limits if what it holds does one level further in. -/
lemma within_iff (h : value.isScalar = false) :
    value.Within level ↔ level < maxDepth ∧ ∀ part ∈ value.parts, part.Within (level + 1) := by
  have hpos := nesting_pos h
  constructor
  · rintro ⟨hintegers, hnesting⟩
    have hparts : ∀ part ∈ value.parts, part.nesting ≤ maxDepth - (level + 1) :=
      (nesting_le_iff h).1 (by omega)
    refine ⟨by omega, fun part hpart => ⟨fun n hn => ?_, ?_⟩⟩
    · exact hintegers n ((mem_scalars_iff h).2 ⟨part, hpart, hn⟩)
    · have hle := hparts part hpart
      omega
  · rintro ⟨hlevel, hparts⟩
    have hnesting : value.nesting ≤ maxDepth - (level + 1) + 1 := by
      refine (nesting_le_iff h).2 fun part hpart => ?_
      have hle := (hparts part hpart).nesting
      omega
    refine ⟨fun n hn => ?_, by omega⟩
    obtain ⟨part, hpart, hn⟩ := (mem_scalars_iff h).1 hn
    exact (hparts part hpart).integers n hn

lemma within_array_iff :
    (array items).Within level ↔ level < maxDepth ∧ ∀ item ∈ items, item.Within (level + 1) :=
  within_iff rfl

lemma within_object_iff :
    (object members).Within level ↔ level < maxDepth ∧ ∀ m ∈ members, m.2.Within (level + 1) := by
  rw [within_iff rfl, parts, List.forall_mem_map]

/-- Merging repeated names keeps the limits. -/
lemma Within.merged (h : value.Within level) : value.merged.Within level := by
  induction value using induct generalizing level with
  | scalar value hscalar => rwa [merged_of_isScalar hscalar]
  | array items ih =>
    rw [within_array_iff] at h
    rw [merged_array, within_array_iff, List.forall_mem_map]
    exact ⟨h.1, fun item hitem => ih item hitem (h.2 item hitem)⟩
  | object members ih =>
    rw [within_object_iff] at h
    rw [merged_object, within_object_iff]
    refine ⟨h.1, fun m hm => ?_⟩
    rcases OrderedMap.mem_insertAll hm with hm | hm
    · cases hm
    · obtain ⟨old, hold, rfl⟩ := List.mem_map.1 hm
      exact ih old hold (h.2 old hold)

lemma areExact_iff : AreExact items ↔ ∀ item ∈ items, item.IsExact := by
  induction items with
  | nil => simp [AreExact]
  | cons item items ih => simp [AreExact, ih]

lemma hasExactMembers_iff : HasExactMembers members ↔ ∀ m ∈ members, m.2.IsExact := by
  induction members with
  | nil => simp [HasExactMembers]
  | cons m members ih =>
    obtain ⟨name, value⟩ := m
    simp [HasExactMembers, ih]

/-- A value within the limits is exact if there are no doubles in it. -/
lemma Within.isExact (h : value.Within level) (hdoubles : ∀ x, double x ∉ value.scalars) :
    value.IsExact := by
  induction value using induct generalizing level with
  | scalar value hscalar =>
    have hself : value ∈ value.scalars := by simp [scalars_of_isScalar hscalar]
    cases value with
    | array | object => cases hscalar
    | double x => exact absurd hself (hdoubles x)
    | integer n => exact h.integers n hself
    | _ => trivial
  | array items ih =>
    rw [within_array_iff] at h
    refine areExact_iff.2 fun item hitem => ih item hitem (h.2 item hitem) fun x hx => ?_
    exact hdoubles x ((mem_scalars_iff rfl).2 ⟨item, hitem, hx⟩)
  | object members ih =>
    rw [within_object_iff] at h
    refine hasExactMembers_iff.2 fun m hm => ih m hm (h.2 m hm) fun x hx => ?_
    exact hdoubles x ((mem_scalars_iff rfl).2 ⟨m.2, List.mem_map_of_mem hm, hx⟩)

/-! ### Numbers -/

lemma takeDigits_le {n taken : Nat} {digits : List Char} (h : n ≤ maxNatural) :
    (takeDigits n taken digits).1 ≤ maxNatural := by
  induction digits generalizing n taken with
  | nil => exact h
  | cons c digits ih =>
    rw [takeDigits]
    split
    · exact h
    · next hfits => exact ih (Nat.le_of_not_lt hfits)

/-- A scalar the integer of which, if it is one, has 64 bits. -/
def IsNarrow (value : Json) : Prop :=
  value.isScalar ∧ ∀ n, value = integer n → -2 ^ 63 ≤ n ∧ n < 2 ^ 64

lemma within_of_isNarrow (h : value.IsNarrow) (hlevel : level ≤ maxDepth) : value.Within level where
  integers n hn := by
    rw [scalars_of_isScalar h.1, List.mem_singleton] at hn
    exact h.2 n hn.symm
  nesting := by rwa [nesting_of_isScalar h.1]

lemma isNarrow_double (x : Double) : (double x).IsNarrow := ⟨rfl, nofun⟩

lemma isNarrow_integer {n : Int} (hlow : -2 ^ 63 ≤ n) (hhigh : n < 2 ^ 64) :
    (integer n).IsNarrow := by
  refine ⟨rfl, ?_⟩
  rintro m ⟨⟩
  exact ⟨hlow, hhigh⟩

/-- A number with a point or an exponent is a double. -/
lemma isNarrow_of_readExponent {tail rest : List Char} {scaled : Int × List Char → Option Double}
    {sign : Double → Double}
    (h : (do
      let exponent ← readExponent tail
      pure ((scaled exponent).map fun x => double (sign x), exponent.2))
        = some (some value, rest)) : value.IsNarrow := by
  obtain ⟨exponent, -, hvalue⟩ := Option.bind_eq_some_iff.1 h
  obtain ⟨hscaled, -⟩ := Prod.mk.inj (Option.some.inj hvalue)
  obtain ⟨x, -, rfl⟩ := Option.map_eq_some_iff.1 hscaled
  exact isNarrow_double _

lemma isNarrow_of_readMagnitude {negative : Bool} {text rest : List Char}
    (h : readMagnitude negative text = some (some value, rest)) : value.IsNarrow := by
  have hmax : maxNatural = 2 ^ 64 - 1 := rfl
  unfold readMagnitude at h
  -- No digit is left over where an integer is made, so its digits are those that fit in 64 bits.
  have hfits : (takeDigits 0 0 (text.takeWhile isDigit)).1 ≤ maxNatural :=
    takeDigits_le (Nat.zero_le _)
  simp only at h
  generalize takeDigits 0 0 (text.takeWhile isDigit) = taken at h hfits
  split at h
  · cases h
  split at h
  · split at h
    · cases h
    · exact isNarrow_of_readExponent h
  · exact isNarrow_of_readExponent h
  · exact isNarrow_of_readExponent h
  · split at h
    · exact isNarrow_of_readExponent h
    split at h
    · split at h
      · cases h
        exact isNarrow_double _
      · next hsmall =>
        cases h
        have hle : taken.1 ≤ 2 ^ 63 := by
          simp only [Bool.or_eq_true, decide_eq_true_eq, not_or, not_lt] at hsmall
          exact hsmall.2
        exact isNarrow_integer (by omega) (by omega)
    · cases h
      exact isNarrow_integer (by omega) (by omega)

/-! ### Tokens -/

/-- Nothing but narrow scalars are taken for tokens. -/
def Token.IsNarrow : Token → Prop
  | .scalar (some value) => value.IsNarrow
  | _ => True

lemma isNarrow_of_readToken {text rest : List Char} {t : Token}
    (h : readToken text = some (t, rest)) : t.IsNarrow := by
  have hword (value : Json) (hvalue : value.IsNarrow) (rest' : List Char)
      (h : some (Token.scalar (some value), rest') = some (t, rest)) : t.IsNarrow := by
    cases h
    exact hvalue
  unfold readToken at h
  split at h
  case h_7 =>
    obtain ⟨_, -, heq⟩ := Option.map_eq_some_iff.1 h
    cases heq
    trivial
  case h_8 | h_9 | h_10 =>
    cases h
    exact ⟨rfl, nofun⟩
  case h_11 =>
    obtain ⟨⟨number, _⟩, hnumber, heq⟩ := Option.map_eq_some_iff.1 h
    cases heq
    cases number with
    | none => trivial
    | some value =>
      unfold readNumber at hnumber
      split at hnumber <;> exact isNarrow_of_readMagnitude hnumber
  all_goals
    cases h
    trivial

lemma isNarrow_of_mem_tokensWithin {bound : Nat} {text : List Char} {ts : List Token}
    (h : tokensWithin bound text = some ts) : ∀ t ∈ ts, t.IsNarrow := by
  fun_induction tokensWithin bound text generalizing ts with
  | case1 =>
    cases h
    simp
  | case2 => cases h
  | case3 text bound _ ih =>
    obtain ⟨⟨t, rest⟩, hread, h⟩ := Option.bind_eq_some_iff.1 h
    obtain ⟨ts, hrest, heq⟩ := Option.bind_eq_some_iff.1 h
    cases heq
    exact List.forall_mem_cons.2 ⟨isNarrow_of_readToken hread, ih _ hrest⟩

/-! ### The machine -/

variable {passOver : String → Bool} {frames : List Frame} {name : String}

/-- A value without those of its members that are passed over. -/
def kept (passOver : String → Bool) : Json → Json
  | object members => object (members.filter fun m => !passOver m.1)
  | value => value

/-- A value read inside of some frames keeps the limits, apart from what is passed over. -/
def Admits (passOver : String → Bool) : List Frame → Json → Prop
  | [], value => (value.kept passOver).Within 0
  | frame :: frames, value =>
    isPassedOver passOver (frame :: frames) = false → value.Within (frames.length + 1)

/-- One more array or object may be opened inside of some frames. -/
def Opens (passOver : String → Bool) (frames : List Frame) : Prop :=
  isPassedOver passOver frames = false → frames.length < maxDepth

/-- All that was read into some frames keeps the limits. -/
def Sound (passOver : String → Bool) : List Frame → Prop
  | [] => True
  | .array items :: frames =>
    Sound passOver frames ∧ Opens passOver frames ∧
      ∀ item ∈ items, Admits passOver (.array [] :: frames) item
  | .object members _ :: frames =>
    Sound passOver frames ∧ Opens passOver frames ∧
      ∀ m ∈ members, Admits passOver (.object [] m.1 :: frames) m.2

/-- All that was read keeps the limits. -/
def State.Sound (passOver : String → Bool) : State → Prop
  | .value frames => Json.Sound passOver frames
  | .item frames => Json.Sound passOver (.array [] :: frames)
  | .name frames members => Json.Sound passOver (.object members "" :: frames)
  | .colon frames members name => Json.Sound passOver (.object members name :: frames)
  | .next frames value => Json.Sound passOver frames ∧ Admits passOver frames value

lemma isPassedOver_array (items : List Json) (frames : List Frame) :
    isPassedOver passOver (.array items :: frames) = isPassedOver passOver frames := by
  cases frames <;> rfl

lemma isPassedOver_object (members : List (String × Json)) (name : String) (frames : List Frame) :
    isPassedOver passOver (.object members name :: frames)
      = isPassedOver passOver (.object [] name :: frames) := by
  cases frames <;> rfl

/-- What is inside of something passed over is passed over. -/
lemma isPassedOver_tail {frame : Frame}
    (h : isPassedOver passOver (frame :: frames) = false) :
    isPassedOver passOver frames = false := by
  cases frames with
  | nil => rfl
  | cons next frames => cases frame <;> exact h

lemma Sound.length_le (h : Sound passOver frames) (hkept : isPassedOver passOver frames = false) :
    frames.length ≤ maxDepth := by
  match frames with
  | [] => exact Nat.zero_le _
  | .array _ :: _ | .object _ _ :: _ => exact h.2.1 (isPassedOver_tail hkept)

lemma kept_of_isScalar (h : value.isScalar) : value.kept passOver = value := by
  cases value with
  | array | object => cases h
  | _ => rfl

lemma Sound.admits (h : Sound passOver frames) (hvalue : value.IsNarrow) :
    Admits passOver frames value := by
  cases frames with
  | nil =>
    rw [Admits, kept_of_isScalar hvalue.1]
    exact within_of_isNarrow hvalue (Nat.zero_le _)
  | cons frame frames => exact fun hkept => within_of_isNarrow hvalue (h.length_le hkept)

lemma admits_array (hopens : Opens passOver frames)
    (h : ∀ item ∈ items, Admits passOver (.array [] :: frames) item) :
    Admits passOver frames (.array items) := by
  cases frames with
  | nil => exact within_array_iff.2 ⟨hopens rfl, fun item hitem => h item hitem rfl⟩
  | cons frame frames =>
    exact fun hkept => within_array_iff.2 ⟨hopens hkept, fun item hitem => h item hitem hkept⟩

lemma admits_object (hopens : Opens passOver frames)
    (h : ∀ m ∈ members, Admits passOver (.object [] m.1 :: frames) m.2) :
    Admits passOver frames (.object members) := by
  cases frames with
  | nil =>
    refine within_object_iff.2 ⟨hopens rfl, fun m hm => ?_⟩
    obtain ⟨hm, hkept⟩ := List.mem_filter.1 hm
    rw [Bool.not_eq_true'] at hkept
    exact h m hm hkept
  | cons frame frames =>
    exact fun hkept => within_object_iff.2 ⟨hopens hkept, fun m hm => h m hm hkept⟩

/-- An array goes on with one more value. -/
lemma Sound.addItem (h : Sound passOver (.array items :: frames))
    (hvalue : Admits passOver (.array items :: frames) value) :
    Sound passOver (.array (value :: items) :: frames) := by
  obtain ⟨hframes, hopens, hitems⟩ := h
  rw [Admits, isPassedOver_array, ← isPassedOver_array []] at hvalue
  exact ⟨hframes, hopens, List.forall_mem_cons.2 ⟨hvalue, hitems⟩⟩

/-- An array is closed. -/
lemma Sound.closeArray (h : Sound passOver (.array items :: frames)) :
    State.Sound passOver (.next frames (.array items.reverse)) := by
  obtain ⟨hframes, hopens, hitems⟩ := h
  exact ⟨hframes, admits_array hopens fun item hitem => hitems item (List.mem_reverse.1 hitem)⟩

/-- An object goes on with one more member. -/
lemma Sound.addMember (h : Sound passOver (.object members name :: frames))
    (hvalue : Admits passOver (.object members name :: frames) value) :
    Sound passOver (.object ((name, value) :: members) name :: frames) := by
  obtain ⟨hframes, hopens, hmembers⟩ := h
  rw [Admits, isPassedOver_object] at hvalue
  exact ⟨hframes, hopens, List.forall_mem_cons.2 ⟨hvalue, hmembers⟩⟩

/-- An object is closed. -/
lemma Sound.closeObject (h : Sound passOver (.object members name :: frames)) :
    State.Sound passOver (.next frames (.object members.reverse)) := by
  obtain ⟨hframes, hopens, hmembers⟩ := h
  exact ⟨hframes, admits_object hopens fun m hm => hmembers m (List.mem_reverse.1 hm)⟩

lemma opens_of_or (h : (decide (frames.length < maxDepth) || isPassedOver passOver frames) = true) :
    Opens passOver frames := by
  intro hkept
  simpa [hkept] using h

lemma Sound.stepValue {state : State} {t : Token} (h : Sound passOver frames) (ht : t.IsNarrow)
    (hstep : stepValue passOver frames t = some state) : state.Sound passOver := by
  unfold Json.stepValue at hstep
  split at hstep
  · cases hstep
    exact ⟨h, h.admits ht⟩
  · cases hstep
    exact ⟨h, h.admits ⟨rfl, nofun⟩⟩
  · cases Option.ite_none_right_eq_some.1 hstep |>.2
    exact ⟨h, h.admits ⟨rfl, nofun⟩⟩
  · cases Option.ite_none_right_eq_some.1 hstep |>.2
    exact ⟨h, h.admits ⟨rfl, nofun⟩⟩
  · obtain ⟨hopens, heq⟩ := Option.ite_none_right_eq_some.1 hstep
    cases heq
    exact ⟨h, opens_of_or hopens, by simp⟩
  · obtain ⟨hopens, heq⟩ := Option.ite_none_right_eq_some.1 hstep
    cases heq
    exact ⟨h, opens_of_or hopens, by simp⟩
  · cases hstep

/-- A token keeps all that was read within the limits. -/
lemma State.Sound.step {state state' : State} {t : Token} (h : state.Sound passOver)
    (ht : t.IsNarrow) (hstep : Json.step passOver state t = some state') :
    state'.Sound passOver := by
  unfold Json.step at hstep
  split at hstep
  · exact Json.Sound.stepValue h ht hstep
  · cases hstep
    exact Json.Sound.closeArray h
  · exact Json.Sound.stepValue h ht hstep
  · cases hstep
    exact h
  · cases Option.ite_none_right_eq_some.1 hstep |>.2
    exact h
  · cases hstep
    have hopened : Json.Sound passOver (.object [] "" :: _) := h
    exact hopened.closeObject
  · cases hstep
    exact h
  · cases hstep
    exact h.1.addItem h.2
  · cases hstep
    exact (h.1.addItem h.2).closeArray
  · cases hstep
    exact h.1.addMember h.2
  · cases hstep
    exact (h.1.addMember h.2).closeObject
  · cases hstep

lemma State.Sound.run {state state' : State} {ts : List Token} (h : state.Sound passOver)
    (hts : ∀ t ∈ ts, t.IsNarrow) (hrun : Json.run passOver state ts = some state') :
    state'.Sound passOver := by
  induction ts generalizing state with
  | nil =>
    cases hrun
    exact h
  | cons t ts ih =>
    rw [List.forall_mem_cons] at hts
    obtain ⟨next, hstep, hrun⟩ := Option.bind_eq_some_iff.1 hrun
    exact ih (h.step hts.1 hstep) hts.2 hrun

/-- What is read keeps the limits, apart from what is passed over. -/
theorem within_of_parseRaw {text : String} (h : parseRaw passOver text = some value) :
    (value.kept passOver).Within 0 := by
  obtain ⟨ts, hts, h⟩ := Option.bind_eq_some_iff.1 h
  obtain ⟨state, hrun, h⟩ := Option.bind_eq_some_iff.1 h
  have hstart : State.Sound passOver (.value []) := trivial
  have hsound := hstart.run (isNarrow_of_mem_tokensWithin hts) hrun
  split at h
  · cases h
    exact hsound.2
  · cases h

end CustomProperties.Json
