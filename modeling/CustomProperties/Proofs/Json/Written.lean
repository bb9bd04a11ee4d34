import CustomProperties.Proofs.Json.Tokens

/-!
# Reading written JSON

A value is written as its tokens, on one line or with blanks between them (`scans_compact`,
`scans_prettyAt`), and the machine that takes these tokens comes to that value (`run_spelling`). So
a value is read back from its text, if that text tells its numbers exactly and no more arrays and
objects stand around one another than may be open at a time (`parseRaw_compact`,
`parseRaw_pretty`).
-/

namespace CustomProperties.Json

variable {rest : List Char} {ts : List Token}

/-! ### Tokens of values -/

mutual

/-- The tokens that a value is written as. -/
def spelling : Json → List Token
  | null => [.scalar (some null)]
  | bool value => [.scalar (some (bool value))]
  | integer value => [.scalar (some (integer value))]
  | double value => [.scalar (some (double value))]
  | string value => [.string (some value)]
  | array items => .openArray :: (spellingItems items ++ [.closeArray])
  | object members => .openObject :: (spellingMembers members ++ [.closeObject])

/-- The tokens that the values of an array are written as. -/
def spellingItems : List Json → List Token
  | [] => []
  | [item] => item.spelling
  | item :: items => item.spelling ++ .comma :: spellingItems items

/-- The tokens that the members of an object are written as. -/
def spellingMembers : List (String × Json) → List Token
  | [] => []
  | [(name, value)] => .string (some name) :: .colon :: value.spelling
  | (name, value) :: members =>
    .string (some name) :: .colon :: (value.spelling ++ .comma :: spellingMembers members)

end

mutual

/-- There are no doubles in a value, and its integers have 64 bits. -/
def IsExact : Json → Prop
  | null | bool _ | string _ => True
  | integer value => -2 ^ 63 ≤ value ∧ value < 2 ^ 64
  | double _ => False
  | array items => AreExact items
  | object members => HasExactMembers members

/-- All values of an array are exact. -/
def AreExact : List Json → Prop
  | [] => True
  | item :: items => item.IsExact ∧ AreExact items

/-- All values of the members of an object are exact. -/
def HasExactMembers : List (String × Json) → Prop
  | [] => True
  | (_, value) :: members => value.IsExact ∧ HasExactMembers members

end

mutual

/-- How many arrays and objects stand around one another in a value. -/
def nesting : Json → Nat
  | null | bool _ | integer _ | double _ | string _ => 0
  | array items => nestingItems items + 1
  | object members => nestingMembers members + 1

/-- How many arrays and objects stand around one another in the values of an array. -/
def nestingItems : List Json → Nat
  | [] => 0
  | item :: items => max item.nesting (nestingItems items)

/-- How many arrays and objects stand around one another in the members of an object. -/
def nestingMembers : List (String × Json) → Nat
  | [] => 0
  | (_, value) :: members => max value.nesting (nestingMembers members)

end

/-! ### From texts to tokens -/

lemma endsNumber_newline (level : Nat) (rest : List Char) :
    EndsNumber ((newline level).toList ++ rest) := by
  rintro c hc
  have hhead : c = '\n' := by simpa [newline] using hc.symm
  subst hhead
  decide

lemma isGap_of_mem_newline (level : Nat) : ∀ c ∈ (newline level).toList, isGap c := by
  intro c hc
  simp only [newline, String.toList_ofList, List.mem_cons, List.mem_replicate] at hc
  rcases hc with rfl | ⟨-, rfl⟩ <;> rfl

lemma endsNumber_cons {c : Char} (h : isDigit c = false ∧ c ≠ '.' ∧ c ≠ 'e' ∧ c ≠ 'E')
    (rest : List Char) : EndsNumber (c :: rest) := by
  rintro d hd
  cases hd
  exact h

lemma Scans.newline (h : Scans rest ts) (level : Nat) :
    Scans ((newline level).toList ++ rest) ts := h.skip _ (isGap_of_mem_newline level)

lemma Scans.quote (h : Scans rest ts) (value : String) :
    Scans ((quote value).toList ++ rest) (.string (some value) :: ts) :=
  h.add _ (readToken_quote value rest) (by simp [Json.quote, isGap])

lemma Scans.integer (h : Scans rest ts) {value : Int} (hvalue : (integer value).IsExact)
    (hend : EndsNumber rest) :
    Scans ((toString value).toList ++ rest) (.scalar (some (Json.integer value)) :: ts) := by
  have hread := readNumber_toString hvalue.1 hvalue.2 hend
  obtain ⟨c, text, htext, hc⟩ := exists_toString_eq_cons value
  rw [htext] at hread ⊢
  apply h.add
  · rw [List.cons_append] at hread ⊢
    rw [readToken_of_number hc, hread]
    rfl
  · rcases hc with hc | rfl
    · simp [isGap_of_isDigit hc]
    · rfl

lemma endsNumber_comma (rest : List Char) : EndsNumber (',' :: rest) :=
  endsNumber_cons (by decide) rest

mutual

/-- A value written on one line is cut into its tokens. -/
lemma scans_compact {rest : List Char} {ts : List Token} {value : Json} (h : value.IsExact)
    (hrest : Scans rest ts) (hend : EndsNumber rest) :
    Scans (value.compact.toList ++ rest) (value.spelling ++ ts) := by
  match value with
  | null =>
    have hword := hrest.add ['n', 'u', 'l', 'l'] rfl rfl
    simpa [compact, spelling] using hword
  | bool true =>
    have hword := hrest.add ['t', 'r', 'u', 'e'] rfl rfl
    simpa [compact, spelling] using hword
  | bool false =>
    have hword := hrest.add ['f', 'a', 'l', 's', 'e'] rfl rfl
    simpa [compact, spelling] using hword
  | integer value =>
    rw [compact, spelling]
    exact hrest.integer h hend
  | string value =>
    rw [compact, spelling]
    exact hrest.quote value
  | array items =>
    have hclose := hrest.add [']'] rfl rfl
    have hitems := scans_compactItems h hclose (endsNumber_cons (by decide) _)
    have hopen := hitems.add ['['] rfl rfl
    simpa [compact, spelling] using hopen
  | object members =>
    have hclose := hrest.add ['\x7d'] rfl rfl
    have hmembers := scans_compactMembers h hclose (endsNumber_cons (by decide) _)
    have hopen := hmembers.add ['\x7b'] rfl rfl
    simpa [compact, spelling] using hopen

/-- The values of an array, written on one line, are cut into their tokens. -/
lemma scans_compactItems {rest : List Char} {ts : List Token} {items : List Json}
    (h : AreExact items) (hrest : Scans rest ts) (hend : EndsNumber rest) :
    Scans ((compactItems items).toList ++ rest) (spellingItems items ++ ts) := by
  match items with
  | [] => exact hrest
  | [item] => exact scans_compact h.1 hrest hend
  | item :: next :: items =>
    have hcomma := (scans_compactItems h.2 hrest hend).add [','] rfl rfl
    have hitem := scans_compact h.1 hcomma (endsNumber_comma _)
    simpa [compactItems, spellingItems] using hitem

/-- The members of an object, written on one line, are cut into their tokens. -/
lemma scans_compactMembers {rest : List Char} {ts : List Token} {members : List (String × Json)}
    (h : HasExactMembers members) (hrest : Scans rest ts) (hend : EndsNumber rest) :
    Scans ((compactMembers members).toList ++ rest) (spellingMembers members ++ ts) := by
  match members with
  | [] => exact hrest
  | [(name, value)] =>
    have hvalue := scans_compact h.1 hrest hend
    have hname := (hvalue.add [':'] rfl rfl).quote name
    simpa [compactMembers, spellingMembers] using hname
  | (name, value) :: next :: members =>
    have hcomma := (scans_compactMembers h.2 hrest hend).add [','] rfl rfl
    have hvalue := scans_compact h.1 hcomma (endsNumber_comma _)
    have hname := (hvalue.add [':'] rfl rfl).quote name
    simpa [compactMembers, spellingMembers] using hname

end

mutual

/-- A value written over several lines is cut into its tokens. -/
lemma scans_prettyAt {rest : List Char} {ts : List Token} {value : Json} (h : value.IsExact)
    (level : Nat) (hrest : Scans rest ts) (hend : EndsNumber rest) :
    Scans ((value.prettyAt level).toList ++ rest) (value.spelling ++ ts) := by
  match value with
  | null | bool _ | integer _ | string _ =>
    rw [prettyAt]
    exact scans_compact h hrest hend
  | array [] =>
    have hopen := (hrest.add [']'] rfl rfl).add ['['] rfl rfl
    simpa [prettyAt, spelling, spellingItems] using hopen
  | array (item :: items) =>
    have hclose := (hrest.add [']'] rfl rfl).newline level
    have hitems := scans_prettyItems h (level + 1) hclose (endsNumber_newline level _)
    have hopen := hitems.add ['['] rfl rfl
    simpa [prettyAt, spelling] using hopen
  | object [] =>
    have hopen := (hrest.add ['\x7d'] rfl rfl).add ['\x7b'] rfl rfl
    simpa [prettyAt, spelling, spellingMembers] using hopen
  | object (member :: members) =>
    have hclose := (hrest.add ['\x7d'] rfl rfl).newline level
    have hmembers := scans_prettyMembers h (level + 1) hclose (endsNumber_newline level _)
    have hopen := hmembers.add ['\x7b'] rfl rfl
    simpa [prettyAt, spelling] using hopen

/-- The values of an array are cut into their tokens. -/
lemma scans_prettyItems {rest : List Char} {ts : List Token} {items : List Json}
    (h : AreExact items) (level : Nat) (hrest : Scans rest ts) (hend : EndsNumber rest) :
    Scans ((prettyItems level items).toList ++ rest) (spellingItems items ++ ts) := by
  match items with
  | [] => exact hrest
  | [item] =>
    have hitem := scans_prettyAt h.1 level hrest hend
    simpa [prettyItems, spellingItems] using hitem.newline level
  | item :: next :: items =>
    have hcomma := (scans_prettyItems h.2 level hrest hend).add [','] rfl rfl
    have hitem := scans_prettyAt h.1 level hcomma (endsNumber_comma _)
    simpa [prettyItems, spellingItems] using hitem.newline level

/-- The members of an object are cut into their tokens. -/
lemma scans_prettyMembers {rest : List Char} {ts : List Token} {members : List (String × Json)}
    (h : HasExactMembers members) (level : Nat) (hrest : Scans rest ts) (hend : EndsNumber rest) :
    Scans ((prettyMembers level members).toList ++ rest) (spellingMembers members ++ ts) := by
  match members with
  | [] => exact hrest
  | [(name, value)] =>
    have hvalue := (scans_prettyAt h.1 level hrest hend).skip [' ']
      (List.forall_mem_singleton.mpr rfl)
    have hname := (hvalue.add [':'] rfl rfl).quote name
    simpa [prettyMembers, spellingMembers] using hname.newline level
  | (name, value) :: next :: members =>
    have hcomma := (scans_prettyMembers h.2 level hrest hend).add [','] rfl rfl
    have hvalue := (scans_prettyAt h.1 level hcomma (endsNumber_comma _)).skip [' ']
      (List.forall_mem_singleton.mpr rfl)
    have hname := (hvalue.add [':'] rfl rfl).quote name
    simpa [prettyMembers, spellingMembers] using hname.newline level

end

lemma endsNumber_of_isGap {gap : List Char} (h : ∀ c ∈ gap, isGap c) : EndsNumber gap := by
  intro c hc
  have hgap := h c (List.mem_of_mem_head? hc)
  simp only [isGap, Bool.or_eq_true, beq_iff_eq] at hgap
  rcases hgap with ((rfl | rfl) | rfl) | rfl <;> decide

lemma tokens_pretty {value : Json} (h : value.IsExact) {gap : List Char}
    (hgap : ∀ c ∈ gap, isGap c) : tokens (value.pretty.toList ++ gap) = some value.spelling := by
  have hend : Scans gap [] := by
    simpa using scans_nil.skip gap hgap
  have hscans := scans_prettyAt h 0 hend (endsNumber_of_isGap hgap)
  rw [List.append_nil] at hscans
  exact hscans.tokens_eq

lemma tokens_compact {value : Json} (h : value.IsExact) :
    tokens value.compact.toList = some value.spelling := by
  have hscans := scans_compact h scans_nil (by simp [EndsNumber])
  rw [List.append_nil, List.append_nil] at hscans
  exact hscans.tokens_eq

/-! ### From tokens to values -/

variable {passOver : String → Bool} {frames : List Frame}

@[simp] lemma run_cons (state : State) (t : Token) (ts : List Token) :
    run passOver state (t :: ts) = (step passOver state t).bind (run passOver · ts) := rfl

lemma step_openArray (passOver : String → Bool) (h : frames.length < maxDepth) :
    step passOver (.value frames) .openArray = some (.item frames) := by
  rw [step, stepValue, decide_eq_true h]
  rfl

lemma step_openObject (passOver : String → Bool) (h : frames.length < maxDepth) :
    step passOver (.value frames) .openObject = some (.name frames []) := by
  rw [step, stepValue, decide_eq_true h]
  rfl

/-- The first value of an array is taken as any other. -/
lemma run_item_spelling (value : Json) (ts : List Token) :
    run passOver (.item frames) (value.spelling ++ ts)
      = run passOver (.value (.array [] :: frames)) (value.spelling ++ ts) := by
  cases value <;> rfl

lemma run_item_spellingItems (item : Json) (items : List Json) (ts : List Token) :
    run passOver (.item frames) (spellingItems (item :: items) ++ ts)
      = run passOver (.value (.array [] :: frames)) (spellingItems (item :: items) ++ ts) := by
  cases items with
  | nil => exact run_item_spelling item ts
  | cons next items =>
    rw [spellingItems, List.append_assoc]
    · exact run_item_spelling item _
    · simp

mutual

/-- The machine takes the tokens of a value and comes to that value. -/
lemma run_spelling (passOver : String → Bool) (frames : List Frame) (value : Json)
    (h : frames.length + value.nesting ≤ maxDepth) (ts : List Token) :
    run passOver (.value frames) (value.spelling ++ ts) = run passOver (.next frames value) ts := by
  match value with
  | null => rfl
  | bool _ => rfl
  | integer _ => rfl
  | double _ => rfl
  | string _ => rfl
  | array [] =>
    rw [nesting] at h
    have hopen : step passOver (.value frames) _ = _ := step_openArray passOver (by omega)
    simp only [spelling, spellingItems, List.nil_append, List.cons_append, run_cons, hopen]
    rfl
  | array (item :: items) =>
    rw [nesting] at h
    have hopen : step passOver (.value frames) _ = _ := step_openArray passOver (by omega)
    have hitems := run_spellingItems passOver frames (item :: items) h (by simp) [] ts
    rw [spelling, List.cons_append, List.append_assoc, run_cons, hopen]
    exact (run_item_spellingItems item items _).trans hitems
  | object [] =>
    rw [nesting] at h
    have hopen : step passOver (.value frames) _ = _ := step_openObject passOver (by omega)
    simp only [spelling, spellingMembers, List.nil_append, List.cons_append, run_cons, hopen]
    rfl
  | object (member :: members) =>
    rw [nesting] at h
    have hopen : step passOver (.value frames) _ = _ := step_openObject passOver (by omega)
    have hmembers := run_spellingMembers passOver frames (member :: members) h (by simp) [] ts
    rw [spelling, List.cons_append, List.append_assoc, run_cons, hopen]
    exact hmembers

/-- The machine takes the tokens of further values of an array and then its closing bracket. -/
lemma run_spellingItems (passOver : String → Bool) (frames : List Frame) (items : List Json)
    (h : frames.length + (nestingItems items + 1) ≤ maxDepth) (hitems : items ≠ [])
    (before : List Json) (ts : List Token) :
    run passOver (.value (.array before :: frames)) (spellingItems items ++ .closeArray :: ts)
      = run passOver (.next frames (.array (before.reverse ++ items))) ts := by
  match items with
  | [item] =>
    rw [nestingItems, nestingItems] at h
    have hitem := run_spelling passOver (.array before :: frames) item
      (by rw [List.length_cons]; omega) (.closeArray :: ts)
    rw [spellingItems, hitem, run_cons, ← List.reverse_cons]
    rfl
  | item :: next :: items =>
    rw [nestingItems] at h
    have hitem := run_spelling passOver (.array before :: frames) item
      (by rw [List.length_cons]; omega) (.comma :: (spellingItems (next :: items) ++ .closeArray :: ts))
    have hitems := run_spellingItems passOver frames (next :: items) (by omega) (by simp)
      (item :: before) ts
    rw [List.reverse_cons, List.append_assoc] at hitems
    rw [spellingItems, List.append_assoc, List.cons_append, hitem, run_cons]
    · exact hitems
    · simp

/-- The machine takes the tokens of further members of an object and then its closing bracket. -/
lemma run_spellingMembers (passOver : String → Bool) (frames : List Frame)
    (members : List (String × Json)) (h : frames.length + (nestingMembers members + 1) ≤ maxDepth)
    (hmembers : members ≠ []) (before : List (String × Json)) (ts : List Token) :
    run passOver (.name frames before) (spellingMembers members ++ .closeObject :: ts)
      = run passOver (.next frames (.object (before.reverse ++ members))) ts := by
  match members with
  | [(name, value)] =>
    rw [nestingMembers, nestingMembers] at h
    have hvalue := run_spelling passOver (.object before name :: frames) value
      (by rw [List.length_cons]; omega) (.closeObject :: ts)
    rw [← List.reverse_cons, spellingMembers, List.cons_append, List.cons_append, run_cons]
    refine Eq.trans ?_ hvalue
    rfl
  | (name, value) :: next :: members =>
    rw [nestingMembers] at h
    have hvalue := run_spelling passOver (.object before name :: frames) value
      (by rw [List.length_cons]; omega)
      (.comma :: (spellingMembers (next :: members) ++ .closeObject :: ts))
    have hmembers := run_spellingMembers passOver frames (next :: members) (by omega) (by simp)
      ((name, value) :: before) ts
    rw [List.reverse_cons, List.append_assoc] at hmembers
    rw [spellingMembers, List.cons_append, List.cons_append, List.append_assoc, List.cons_append,
      run_cons]
    · exact hvalue.trans hmembers
    · simp

end

/-! ### Reading back -/

/-- The tokens of a value are read as that value, if not too many arrays and objects stand around
one another in it. -/
lemma parseRaw_of_tokens {value : Json} {text : String}
    (htokens : tokens text.toList = some value.spelling) (hnesting : value.nesting ≤ maxDepth)
    (passOver : String → Bool) : parseRaw passOver text = some value := by
  have hrun := run_spelling passOver [] value (by simpa using hnesting) []
  rw [List.append_nil] at hrun
  rw [parseRaw, htokens]
  simp only [Option.bind_eq_bind, Option.bind_some, hrun]
  rfl

/-- A value is read back from its text, if that tells its numbers exactly and not too many arrays
and objects stand around one another. Blanks behind it change nothing. -/
theorem parseRaw_pretty {value : Json} (hexact : value.IsExact)
    (hnesting : value.nesting ≤ maxDepth) (gap : String) (hgap : ∀ c ∈ gap.toList, isGap c) (passOver : String → Bool) :
    parseRaw passOver (value.pretty ++ gap) = some value := by
  refine parseRaw_of_tokens ?_ hnesting passOver
  rw [String.toList_append, tokens_pretty hexact hgap]

/-- A value is also read back from its text on one line. -/
theorem parseRaw_compact {value : Json} (hexact : value.IsExact)
    (hnesting : value.nesting ≤ maxDepth) (passOver : String → Bool) :
    parseRaw passOver value.compact = some value :=
  parseRaw_of_tokens (tokens_compact hexact) hnesting passOver

end CustomProperties.Json
