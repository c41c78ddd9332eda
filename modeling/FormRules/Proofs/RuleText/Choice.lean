import FormRules.Proofs.RuleText.Image

/-!
What the alternatives of the grammar read. A reader is guarded by the characters that its
texts begin with and refuses all others; alternatives with different guards do not get in
each other's way, so a choice reads a text exactly where one of them does. Words need more
care: a call is told from a literal, and a compared field from a negation, by the whole
word.
-/

namespace FormRules.RuleText

open Reader

variable {α β γ : Type}

/-- Refuses every text that does not begin with one of the characters. -/
def GuardedBy (accept : Char → Bool) (p : Reader α) : Prop :=
  ∀ text : List Char, (∀ c ∈ text.head?, accept c = false) → Refuses p text

section Guards

variable {accept other : Char → Bool} {p q : Reader α} {text rest : List Char} {v : α}

theorem GuardedBy.head (h : GuardedBy accept p) (hdone : p text = .done v rest) :
    ∃ c tail, text = c :: tail ∧ accept c = true := by
  cases text with
  | nil => exact absurd hdone (h [] (by simp)).ne_done
  | cons c tail =>
    cases hc : accept c with
    | true => exact ⟨c, tail, rfl, hc⟩
    | false => exact absurd hdone (h (c :: tail) (by simpa using hc)).ne_done

/-- What the second reader reads is refused by the first one when their guards are apart. -/
theorem GuardedBy.refuses (hp : GuardedBy accept p) (hq : GuardedBy other q)
    (hapart : ∀ c, other c = true → accept c = false) (hdone : q text = .done v rest) :
    Refuses p text := by
  obtain ⟨c, tail, rfl, hc⟩ := hq.head hdone
  exact hp _ (by simpa using hapart c hc)

theorem orElse_eq_done_of_guards (hp : GuardedBy accept p) (hq : GuardedBy other q)
    (hapart : ∀ c, other c = true → accept c = false) :
    orElse p q text = .done v rest ↔ p text = .done v rest ∨ q text = .done v rest := by
  rw [orElse_eq_done]
  refine or_congr_right ⟨And.right, fun h => ⟨hp.refuses hq hapart h, h⟩⟩

/-- A single character is apart from the characters that it is none of. -/
theorem apart_of_eq_false {d : Char} (h : other d = false) :
    ∀ c, other c = true → (c == d) = false :=
  fun _ hc => beq_false_of_ne (ne_of_apart hc h)

theorem guardedBy_char {c : Char} : GuardedBy (· == c) (char c) := by
  intro text h
  refine refuses_char.mpr fun hc => ?_
  simpa using h c hc

theorem guardedBy_bind {f : α → Reader β} (h : GuardedBy accept p) :
    GuardedBy accept (Reader.bind p f) :=
  fun text htext => refuses_bind.mpr (.inl (h text htext))

theorem guardedBy_map {f : α → β} (h : GuardedBy accept p) : GuardedBy accept (map f p) :=
  fun text htext => refuses_map.mpr (h text htext)

theorem guardedBy_orElse (hp : GuardedBy accept p) (hq : GuardedBy other q) :
    GuardedBy (fun c => accept c || other c) (orElse p q) := by
  intro text h
  have hboth : ∀ c ∈ text.head?, accept c = false ∧ other c = false := fun c hc => by
    simpa using h c hc
  exact refuses_orElse.mpr
    ⟨hp text fun c hc => (hboth c hc).1, hq text fun c hc => (hboth c hc).2⟩

theorem guardedBy_keyword {word : String} {c : Char} {tail : List Char}
    (h : word.toList = c :: tail) : GuardedBy (· == c) (keyword word) := by
  intro text htext
  refine refuses_keyword_of_head (c := c) (by rw [h]; rfl) fun hc => ?_
  simpa using htext c hc

theorem guardedBy_ident : GuardedBy isIdentStart ident := fun _ => refuses_ident.mpr

theorem guardedBy_name : GuardedBy isIdentStart name := fun text h =>
  refuses_name.mpr (.inl (guardedBy_ident text h))

theorem guardedBy_quotedString : GuardedBy (· == '"') quotedString := by
  unfold quotedString
  exact guardedBy_bind guardedBy_char

/-- The characters that numbers begin with. -/
def isNumberStart (c : Char) : Bool := c.isDigit || c == '-'

theorem guardedBy_number : GuardedBy isNumberStart number := by
  intro text h
  refine refuses_number fun c hc => ?_
  have hstart := h c hc
  simp only [isNumberStart, Bool.or_eq_false_iff, beq_eq_false_iff_ne] at hstart
  exact ⟨hstart.2, hstart.1⟩

end Guards

section Literals

variable {p : Reader Value} {text rest : List Char} {value : Value}

/-- The items of a list literal, in brackets. -/
def listItems (p : Reader Value) : Reader (List Value) :=
  between (opening '[') (listEnd ']') (separated (spaced ',') p)

/-- The entries of a map literal, in braces. -/
def mapEntries (p : Reader Value) : Reader (List (String × Value)) :=
  between (opening '\x7b') (listEnd '\x7d') (separated (spaced ',') (mapEntry p))

theorem guardedBy_between {c : Char} {closing : Reader γ} {p : Reader α} :
    GuardedBy (· == c) (between (opening c) closing p) := by
  refine guardedBy_bind ?_
  unfold opening
  exact guardedBy_bind guardedBy_char

/-- A literal is read as one of its kinds. -/
theorem literalWith_eq_done :
    literalWith p text = .done value rest ↔
      (∃ word, quotedString text = .done word rest ∧ .string word = value) ∨
      (∃ u, keyword "true" text = .done u rest ∧ .bool true = value) ∨
      (∃ u, keyword "false" text = .done u rest ∧ .bool false = value) ∨
      (∃ u, keyword "null" text = .done u rest ∧ .null = value) ∨
      number text = .done value rest ∨
      (∃ items, listItems p text = .done items rest ∧ .array items = value) ∨
      (∃ entries, mapEntries p text = .done entries rest ∧
        .map (Entries.ofList entries) = value) := by
  have hstring : GuardedBy (· == '"') (map Value.string quotedString) :=
    guardedBy_map guardedBy_quotedString
  have htrue : GuardedBy (· == 't') (map (fun _ => Value.bool true) (keyword "true")) :=
    guardedBy_map (guardedBy_keyword rfl)
  have hfalse : GuardedBy (· == 'f') (map (fun _ => Value.bool false) (keyword "false")) :=
    guardedBy_map (guardedBy_keyword rfl)
  have hnull : GuardedBy (· == 'n') (map (fun _ => Value.null) (keyword "null")) :=
    guardedBy_map (guardedBy_keyword rfl)
  have hlist : GuardedBy (· == '[') (map Value.array (listItems p)) :=
    guardedBy_map guardedBy_between
  have hmap : GuardedBy (· == '\x7b')
      (map (fun entries => Value.map (Entries.ofList entries)) (mapEntries p)) :=
    guardedBy_map guardedBy_between
  -- The guard of what is left after each alternative.
  have hbrackets := guardedBy_orElse hlist hmap
  have hnumber := guardedBy_orElse guardedBy_number hbrackets
  have hnulls := guardedBy_orElse hnull hnumber
  have hfalses := guardedBy_orElse hfalse hnulls
  have htrues := guardedBy_orElse htrue hfalses
  have hdef : literalWith p = label .literal
      (orElse (map Value.string quotedString)
        (orElse (map (fun _ => Value.bool true) (keyword "true"))
          (orElse (map (fun _ => Value.bool false) (keyword "false"))
            (orElse (map (fun _ => Value.null) (keyword "null"))
              (orElse number (orElse (map Value.array (listItems p))
                (map (fun entries => Value.map (Entries.ofList entries)) (mapEntries p)))))))) :=
    rfl
  have hapart : ∀ c, (c == '[' || c == '\x7b') = true → isNumberStart c = false := by
    intro c hc
    rw [Bool.or_eq_true, beq_iff_eq, beq_iff_eq] at hc
    rcases hc with rfl | rfl <;> decide
  rw [hdef, label_eq_done, orElse_eq_done_of_guards hstring htrues (apart_of_eq_false (by decide)),
    orElse_eq_done_of_guards htrue hfalses (apart_of_eq_false (by decide)),
    orElse_eq_done_of_guards hfalse hnulls (apart_of_eq_false (by decide)),
    orElse_eq_done_of_guards hnull hnumber (apart_of_eq_false (by decide)),
    orElse_eq_done_of_guards guardedBy_number hbrackets hapart,
    orElse_eq_done_of_guards hlist hmap (apart_of_eq_false (by decide))]
  simp only [map_eq_done]

/-- The characters that literals begin with. -/
def isLiteralStart (c : Char) : Bool :=
  c == '"' || (c == 't' || (c == 'f' || (c == 'n' || (isNumberStart c || (c == '[' ||
    c == '\x7b')))))

theorem guardedBy_literal : GuardedBy isLiteralStart literal := by
  have hwords : ∀ word c tail, word.toList = c :: tail → ∀ value : Value,
      GuardedBy (· == c) (map (fun _ => value) (keyword word)) :=
    fun _ _ _ h _ => guardedBy_map (guardedBy_keyword h)
  rw [literal_eq]
  intro text h
  refine refuses_label.mpr ?_
  refine guardedBy_orElse (guardedBy_map guardedBy_quotedString) ?_ text h
  refine guardedBy_orElse (hwords "true" _ _ rfl _) ?_
  refine guardedBy_orElse (hwords "false" _ _ rfl _) ?_
  refine guardedBy_orElse (hwords "null" _ _ rfl _) ?_
  refine guardedBy_orElse guardedBy_number ?_
  exact guardedBy_orElse (guardedBy_map guardedBy_between) (guardedBy_map guardedBy_between)

end Literals

section Expressions

variable {p : Reader Expr} {text rest : List Char} {e : Expr}

theorem not_isDigit_of_isIdentStart {c : Char} (h : isIdentStart c = true) :
    c.isDigit = false := by
  cases hdigit : c.isDigit with
  | false => rfl
  | true =>
    simp only [Char.isDigit, Bool.and_eq_true, decide_eq_true_eq] at hdigit
    have hhigh : c.toNat ≤ 57 := hdigit.2
    have hcode := code_of_isIdentStart h
    omega

/-- Where a word stands that is none of theirs, no literal is read. -/
theorem refuses_literal_of_ident {word : String} (hword : ident text = .done word rest)
    (hnot : word ∉ literalWords) : Refuses literal text := by
  have hkeyword : ∀ other ∈ literalWords, Refuses (keyword other) text := by
    intro other hother
    have hchars : ∀ other ∈ literalWords, other.toList.all isIdentChar = true := by decide
    exact refuses_keyword_of_ident (hchars other hother) hword fun heq => hnot (heq ▸ hother)
  obtain ⟨c, tail, rfl, hc⟩ := guardedBy_ident.head hword
  have hhead : ∀ d, isIdentStart d = false → ∀ x ∈ (c :: tail).head?, (x == d) = false := by
    intro d hd x hx
    cases hx
    exact beq_false_of_ne (ne_of_apart hc hd)
  have hnumber : ∀ x ∈ (c :: tail).head?, x ≠ '-' ∧ x.isDigit = false := by
    intro x hx
    cases hx
    exact ⟨ne_of_apart hc (by decide), not_isDigit_of_isIdentStart hc⟩
  rw [literal_eq, literalWith, refuses_label]
  simp only [refuses_orElse, refuses_map]
  exact ⟨guardedBy_quotedString _ (hhead _ (by decide)), hkeyword "true" (by decide),
    hkeyword "false" (by decide), hkeyword "null" (by decide), refuses_number hnumber,
    guardedBy_between _ (hhead _ (by decide)), guardedBy_between _ (hhead _ (by decide))⟩

theorem guardedBy_fieldReference : GuardedBy (· == '$') fieldReference := by
  unfold fieldReference
  exact guardedBy_bind guardedBy_char

theorem guardedBy_contextReference : GuardedBy (· == '@') contextReference := by
  unfold contextReference
  exact guardedBy_bind guardedBy_char

theorem guardedBy_functionCall : GuardedBy isIdentStart (functionCall p) := by
  unfold functionCall
  exact guardedBy_bind guardedBy_ident

/-- The arguments of a call, in parentheses. -/
def callArgs (p : Reader Expr) : Reader (List Expr) :=
  between (opening '(') (closing ')') (separated (spaced ',') p)

/-- An expression is read as one of its kinds, after blanks. -/
theorem exprWith_eq_done :
    exprWith p text = .done e rest ↔
      fieldReference (dropBlanks text) = .done e rest ∨
      contextReference (dropBlanks text) = .done e rest ∨
      (∃ value, literal (dropBlanks text) = .done value rest ∧ .literal value = e) ∨
      ∃ name mid args, ident (dropBlanks text) = .done name mid ∧ name ∉ literalWords ∧
        callArgs p mid = .done args rest ∧ .call name args = e := by
  have hliteral : GuardedBy isLiteralStart (map Expr.literal literal) :=
    guardedBy_map guardedBy_literal
  have hcalls := guardedBy_orElse hliteral (guardedBy_functionCall (p := p))
  have hcontexts := guardedBy_orElse guardedBy_contextReference hcalls
  have hdef : exprWith p text = label .value (orElse fieldReference (orElse contextReference
      (orElse (map Expr.literal literal) (functionCall p)))) (dropBlanks text) := rfl
  rw [hdef, label_eq_done,
    orElse_eq_done_of_guards guardedBy_fieldReference hcontexts (apart_of_eq_false (by decide)),
    orElse_eq_done_of_guards guardedBy_contextReference hcalls (apart_of_eq_false (by decide)),
    orElse_eq_done, map_eq_done, refuses_map]
  refine or_congr_right (or_congr_right (or_congr_right ?_))
  rw [functionCall_eq_done]
  constructor
  · rintro ⟨hrefuses, name, mid, args, hname, hargs, rfl⟩
    refine ⟨name, mid, args, hname, fun hmem => ?_, hargs, rfl⟩
    have hends := (ident_eq_done.mp hname).2
    rw [hends.1] at hrefuses
    exact (refuses_keyword_of_refuses_literal hmem hrefuses).ne_done (keyword_append _ hends.2)
  · rintro ⟨name, mid, args, hname, hnot, hargs, rfl⟩
    exact ⟨refuses_literal_of_ident hname hnot, name, mid, args, hname, hargs, rfl⟩

end Expressions

section Conditions

variable {p : Reader Condition} {text rest : List Char} {result : Condition}

theorem guardedBy_grouped : GuardedBy (· == '(') (grouped p) := by
  unfold grouped
  exact guardedBy_bind guardedBy_char

theorem guardedBy_comparison : GuardedBy isIdentStart comparison := by
  unfold comparison
  exact guardedBy_bind guardedBy_name

theorem spaced_apply (c : Char) (text : List Char) :
    spaced c text = Reader.bind (char c) (fun _ => blanks) (dropBlanks text) := rfl

theorem spaced_eq_done {c : Char} {u : Unit} :
    spaced c text = .done u rest ↔ ∃ mid, dropBlanks text = c :: mid ∧ dropBlanks mid = rest := by
  rw [spaced_apply, bind_eq_done]
  simp only [blanks_eq, Reply.done.injEq, char_eq_done]
  constructor
  · rintro ⟨_, mid, ⟨hmid, rfl⟩, _, hrest⟩
    exact ⟨mid, hmid, hrest⟩
  · rintro ⟨mid, hmid, hrest⟩
    exact ⟨c, mid, ⟨hmid, rfl⟩, trivial, hrest⟩

theorem refuses_spaced {c : Char} : Refuses (spaced c) text ↔ (dropBlanks text).head? ≠ some c := by
  rw [refuses_congr (spaced_apply c text), refuses_bind, refuses_char]
  refine or_iff_left ?_
  rintro ⟨_, mid, _, _, h, _⟩
  cases h

theorem mark_eq_done {c : Char} :
    Reader.bind (commit (char c)) (fun _ => give ()) text = .done () rest ↔ text = c :: rest := by
  refine bind_eq_done.trans ⟨?_, ?_⟩
  · rintro ⟨_, mid, hchar, hgive⟩
    obtain ⟨_, rfl⟩ := give_eq_done.mp hgive
    exact (char_eq_done.mp (commit_eq_done.mp hchar)).1
  · rintro rfl
    exact ⟨c, rest, commit_eq_done.mpr (char_cons c rest), rfl⟩

theorem closing_eq_done {c : Char} :
    closing c text = .done () rest ↔ dropBlanks text = c :: rest := mark_eq_done

/-- A transform after a bar. -/
def transformName : Reader String := after (spaced '|') (commit ident)

theorem refuses_transformName (h : (dropBlanks text).head? ≠ some '|') :
    Refuses transformName text :=
  refuses_bind.mpr (.inl (refuses_spaced.mpr h))

/-- The operand that an operator takes. -/
def operandOf (op : Operator) : Reader Expr :=
  if op.isUnary then give (.literal .null) else expr

/-- The operator of a comparison and what follows it. -/
def comparisonTail (field : String) (transform : Option String) : Reader Condition := do
  blanks
  let op ← commit operator
  if op.isUnary then
    return .comparison ⟨field, op, .literal .null, transform⟩
  else
    let operand ← commit expr
    return .comparison ⟨field, op, operand, transform⟩

theorem comparisonTail_eq_done {field : String} {transform : Option String} :
    comparisonTail field transform text = .done result rest ↔
      ∃ op mid operand, operator (dropBlanks text) = .done op mid ∧
        operandOf op mid = .done operand rest ∧
        .comparison ⟨field, op, operand, transform⟩ = result := by
  have hdef : comparisonTail field transform text =
      Reader.bind (commit operator) (fun op =>
        if op.isUnary then give (.comparison ⟨field, op, .literal .null, transform⟩)
        else Reader.bind (commit expr) fun operand =>
          give (.comparison ⟨field, op, operand, transform⟩)) (dropBlanks text) := rfl
  rw [hdef, bind_eq_done]
  refine exists_congr fun op => exists_congr fun mid => ?_
  rw [commit_eq_done]
  cases hunary : op.isUnary with
  | true =>
    simp only [operandOf, hunary, if_true, give_eq_done]
    constructor
    · rintro ⟨hop, rfl, rfl⟩
      exact ⟨_, hop, ⟨rfl, rfl⟩, rfl⟩
    · rintro ⟨_, hop, ⟨rfl, rfl⟩, rfl⟩
      exact ⟨hop, rfl, rfl⟩
  | false =>
    simp only [operandOf, hunary, Bool.false_eq_true, if_false, bind_eq_done, commit_eq_done,
      give_eq_done]
    constructor
    · rintro ⟨hop, operand, tail, hoperand, rfl, rfl⟩
      exact ⟨operand, hop, hoperand, rfl⟩
    · rintro ⟨operand, hop, hoperand, rfl⟩
      exact ⟨hop, operand, rest, hoperand, rfl, rfl⟩

/-- A comparison is read part by part. Without a transform the operator stands next. -/
theorem comparison_eq_done :
    comparison text = .done result rest ↔
      ∃ field mid, name text = .done field mid ∧
        ((∃ word mid', transformName mid = .done word mid' ∧
            comparisonTail field (some word) mid' = .done result rest) ∨
          comparisonTail field none mid = .done result rest) := by
  have hdef : comparison = Reader.bind name fun field =>
      Reader.bind (optional transformName) (comparisonTail field) := rfl
  rw [hdef, bind_eq_done]
  refine exists_congr fun field => exists_congr fun mid => and_congr_right fun _ => ?_
  rw [bind_eq_done]
  constructor
  · rintro ⟨transform, mid', htransform, htail⟩
    rcases optional_eq_done.mp htransform with ⟨word, hword, rfl⟩ | ⟨_, rfl, rfl⟩
    · exact .inl ⟨word, mid', hword, htail⟩
    · exact .inr htail
  · rintro (⟨word, mid', hword, htail⟩ | htail)
    · exact ⟨some word, mid', optional_of_done hword, htail⟩
    · refine ⟨none, mid, optional_of_refuses (refuses_transformName ?_), htail⟩
      obtain ⟨op, tail, _, hop, _⟩ := comparisonTail_eq_done.mp htail
      obtain ⟨hne, hchars⟩ := operator_name_chars op
      rw [(operator_eq_done.mp hop).1]
      cases hname : op.name.toList with
      | nil => exact absurd hname hne
      | cons c chars =>
        have hc : isOperatorChar c = true := hchars c (hname ▸ List.mem_cons_self)
        simpa using ne_of_apart hc (by decide)

/-- Either spelling of a word is read. -/
theorem spelling_append {upper lower spelling : String} {u l : Char} {us ls more : List Char}
    (hupper : upper.toList = u :: us) (hlower : lower.toList = l :: ls) (hne : (u == l) = false)
    (hspelling : spelling ∈ [upper, lower]) (hends : EndsWord more) :
    orElse (keyword upper) (keyword lower) (spelling.toList ++ more) = .done () more := by
  have hread := keyword_append spelling hends
  rw [orElse_eq_done_of_guards (guardedBy_keyword hupper) (guardedBy_keyword hlower)
    (apart_of_eq_false hne)]
  simp only [List.mem_cons, List.not_mem_nil, or_false] at hspelling
  rcases hspelling with rfl | rfl
  · exact .inl hread
  · exact .inr hread

/-- One of the two spellings of the word of a negation. -/
def negationWord : Reader Unit := orElse (keyword "NOT") (keyword "not")

theorem negationWord_eq_done {u : Unit} :
    negationWord text = .done u rest ↔
      keyword "NOT" text = .done u rest ∨ keyword "not" text = .done u rest :=
  orElse_eq_done_of_guards (guardedBy_keyword rfl) (guardedBy_keyword rfl)
    (apart_of_eq_false (by decide))

theorem refuses_negationWord_of_name {field : String} (h : name text = .done field rest) :
    Refuses negationWord text :=
  refuses_orElse.mpr ⟨refuses_keyword_of_name (by decide) h, refuses_keyword_of_name (by decide) h⟩

theorem refuses_negationWord_of_paren (tail : List Char) : Refuses negationWord ('(' :: tail) := by
  have hword : ∀ word d rest', word.toList = d :: rest' → ('(' == d) = false →
      Refuses (keyword word) ('(' :: tail) := fun word d rest' hword hd =>
    guardedBy_keyword hword _ (by simpa using hd)
  exact refuses_orElse.mpr ⟨hword "NOT" _ _ rfl (by decide), hword "not" _ _ rfl (by decide)⟩

theorem primary_apply (p : Reader Condition) (text : List Char) :
    primary p text = label .condition (orElse (grouped p) comparison) (dropBlanks text) := rfl

/-- What is read behind the word of a negation, or where it is missing. -/
def afterNegation (p : Reader Condition) : Option Unit → Reader Condition
  | some _ => map Condition.negate (commit p)
  | none => primary p

theorem unaryWith_apply (p : Reader Condition) (text : List Char) :
    unaryWith p text = Reader.bind (optional negationWord) (afterNegation p) (dropBlanks text) := by
  unfold unaryWith afterNegation
  refine congrArg (fun f => Reader.bind (optional negationWord) f (dropBlanks text)) ?_
  funext negation
  cases negation <;> rfl

/-- What `NOT`, `AND` and `OR` connect is a negation, a group or a comparison, after
blanks. -/
theorem unaryWith_eq_done :
    unaryWith p text = .done result rest ↔
      (∃ u mid inner, negationWord (dropBlanks text) = .done u mid ∧ p mid = .done inner rest ∧
        inner.negate = result) ∨
      grouped p (dropBlanks text) = .done result rest ∨
      comparison (dropBlanks text) = .done result rest := by
  have hchoice : primary p (dropBlanks text) = .done result rest ↔
      grouped p (dropBlanks text) = .done result rest ∨
        comparison (dropBlanks text) = .done result rest := by
    rw [primary_apply, dropBlanks_idem, label_eq_done]
    exact orElse_eq_done_of_guards guardedBy_grouped guardedBy_comparison
      (apart_of_eq_false (by decide))
  rw [unaryWith_apply, bind_eq_done, ← hchoice]
  constructor
  · rintro ⟨negation, mid, hnegation, hresult⟩
    rcases optional_eq_done.mp hnegation with ⟨u, hword, rfl⟩ | ⟨_, rfl, rfl⟩
    · obtain ⟨inner, hinner, rfl⟩ := map_eq_done.mp hresult
      exact .inl ⟨u, mid, inner, hword, commit_eq_done.mp hinner, rfl⟩
    · exact .inr hresult
  · rintro (⟨u, mid, inner, hword, hinner, rfl⟩ | hresult)
    · exact ⟨some u, mid, optional_of_done hword, map_of_done (commit_eq_done.mpr hinner)⟩
    · refine ⟨none, dropBlanks text, optional_of_refuses ?_, hresult⟩
      rcases hchoice.mp hresult with hgrouped | hcomparison
      · obtain ⟨c, tail, heq, hc⟩ := guardedBy_grouped.head hgrouped
        rw [beq_iff_eq] at hc
        subst hc
        rw [heq]
        exact refuses_negationWord_of_paren tail
      · obtain ⟨field, mid, hname, _⟩ := comparison_eq_done.mp hcomparison
        exact refuses_negationWord_of_name hname

end Conditions

end FormRules.RuleText
