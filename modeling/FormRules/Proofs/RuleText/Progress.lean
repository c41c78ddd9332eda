import FormRules.Proofs.RuleText.Concatenation
import FormRules.Proofs.RuleText.Within

/-!
Reading makes progress. What the grammar reads over and over takes up text (`Step.consumes`),
and what uses itself does so only where text has been taken up (`Descent.descends`). Therefore
reading needs none of the guards that `many` and `fix` put on their recursion: without them the
recursion ends by itself, at a depth that the length of the text bounds (`Recursion.ends`).
-/

namespace FormRules.RuleText

open Reader

variable {α β : Type}

section Recursions

/-- A body of a recursion within itself, to a depth. A final failure at the bottom is passed on
by everything around it, so a reply that is the same for every bottom has not got there. -/
def unroll (body : Reader α → Reader α) (bottom : Reader α) : Nat → Reader α
  | 0 => bottom
  | depth + 1 => body (unroll body bottom depth)

/-- Uses the reader inside it only behind some text. -/
def Descends (body : Reader α → Reader β) : Prop :=
  ∀ n p q, Within p → AgreeBelow n p q → AgreeBelow (n + 1) (body p) (body q)

/-- One round of a repetition, given the reader of the rounds after it. -/
def repeating (item : Reader α) (more : Reader (List α)) : Reader (List α) :=
  Reader.bind (Reader.optional item) fun
    | some v => map (v :: ·) more
    | none => give []

variable {body : Reader α → Reader α} {p : Reader α} {item : Reader α}

/-- Down to a depth the recursion is not told from its fixed point on shorter texts. -/
theorem agree_unroll (hbody : Descends body) (hp : Within p) (hfix : p = body p)
    (bottom : Reader α) (depth : Nat) : AgreeBelow depth p (unroll body bottom depth) := by
  induction depth with
  | zero => exact fun _ hlt => absurd hlt (Nat.not_lt_zero _)
  | succ depth ih =>
    have hagree := hbody depth p _ hp ih
    rw [← hfix] at hagree
    exact hagree

/-- Where the items take up text, a repetition is not held up. -/
theorem many_eq_repeating (h : Consumes item) : many item = repeating item (many item) := by
  funext text
  rw [many]
  unfold repeating Reader.bind Reader.optional
  cases hv : item text with
  | done v rest =>
    simp only [h text v rest hv, if_true, map]
    cases many item rest <;> rfl
  | failed failure => cases hfinal : failure.isFinal <;> simp [hfinal, give]

theorem descends_repeating (h : Consumes item) : Descends (repeating item) := by
  intro n p q _ hagree
  exact agree_bind_optional h (fun _ => agree_map hagree) (.refl _ _)

end Recursions

section Consuming

variable {p : Reader α}

theorem consumes_map {f : α → β} (h : Consumes p) : Consumes (map f p) := by
  intro text w rest hdone
  obtain ⟨v, hv, _⟩ := map_eq_done.mp hdone
  exact h text v rest hv

theorem consumes_run1 {accept : Char → Bool} : Consumes (run1 accept) := by
  intro text taken rest hdone
  obtain ⟨⟨hne, _⟩, rfl, _⟩ := run1_eq_done_iff.mp hdone
  have hpos := List.length_pos_iff.mpr hne
  rw [List.length_append]
  omega

/-- A reader that takes up text behind another one does so for the whole. -/
theorem consumes_behind {f : α → Reader β} (hp : Within p) (hf : ∀ v, Consumes (f v)) :
    Consumes (Reader.bind p f) := by
  intro text w rest hdone
  obtain ⟨v, mid, hv, hw⟩ := bind_eq_done.mp hdone
  have hmid := (hp.of_done hv).length_le
  have hrest := hf v mid w rest hw
  omega

theorem consumes_after {q : Reader β} (hp : Consumes p) (hq : Within q) : Consumes (after p q) :=
  consumes_bind hp fun _ => hq.yields

end Consuming

section Gaps

/-- A run of blanks. -/
def blankRun : Reader Unit := map (fun _ => ()) (run1 isBlank)

/-- The words of a comment, up to the end of its line. -/
def commentWords : Reader Unit := fun text =>
  match afterComment? text with
  | some rest => .done () rest
  | none => .failed { rest := text }

def comment : Reader Unit := after (char '#') commentWords

theorem comment_eq_done {text rest : List Char} :
    comment text = .done () rest ↔ ∃ tail, text = '#' :: tail ∧ afterComment? tail = some rest := by
  rw [comment, after, bind_eq_done]
  simp only [char_eq_done, commentWords]
  constructor
  · rintro ⟨_, tail, ⟨rfl, _⟩, h⟩
    refine ⟨tail, rfl, ?_⟩
    cases hwords : afterComment? tail <;> simp_all
  · rintro ⟨tail, rfl, h⟩
    exact ⟨'#', tail, ⟨rfl, rfl⟩, by rw [h]⟩

theorem blankRun_of_blank {c : Char} {tail : List Char} (h : isBlank c = true) :
    blankRun (c :: tail) = .done () ((c :: tail).dropWhile isBlank) :=
  map_of_done (run1_eq_done.mpr ⟨by simp [h], rfl, rfl⟩)

theorem dropBlanks_dropWhile (text : List Char) :
    dropBlanks (text.dropWhile isBlank) = dropBlanks text := by
  have hdrop : dropBlanks (text.takeWhile isBlank ++ text.dropWhile isBlank) =
      dropBlanks (text.dropWhile isBlank) := dropBlanks_append List.all_takeWhile
  rw [List.takeWhile_append_dropWhile] at hdrop
  exact hdrop.symm

theorem consumes_blankRun : Consumes blankRun := consumes_map consumes_run1

theorem consumes_comment : Consumes comment := by
  rintro text ⟨⟩ rest hdone
  obtain ⟨tail, rfl, hwords⟩ := comment_eq_done.mp hdone
  have hle := length_afterComment? hwords
  rw [List.length_cons]
  omega

theorem refuses_comment {text : List Char} (h : ∀ tail, text = '#' :: tail →
    afterComment? tail = none) : Refuses comment text := by
  refine refuses_bind.mpr ?_
  by_cases hhead : text.head? = some '#'
  · obtain ⟨tail, rfl⟩ := List.head?_eq_some_iff.mp hhead
    refine .inr ⟨'#', tail, char_cons '#' tail, { rest := tail }, ?_, rfl⟩
    rw [commentWords, h tail rfl]
  · exact .inl (refuses_char.mpr hhead)

theorem refuses_gap {text : List Char} (hblank : ∀ c ∈ text.head?, isBlank c = false)
    (hcomment : ∀ tail, text = '#' :: tail → afterComment? tail = none) :
    Refuses (orElse blankRun comment) text :=
  refuses_orElse.mpr ⟨refuses_map.mpr (refuses_run1.mpr hblank), refuses_comment hcomment⟩

theorem consumes_gap : Consumes (orElse blankRun comment) :=
  consumes_orElse consumes_blankRun consumes_comment

/-- Blanks are dropped part by part. -/
theorem many_gap (text : List Char) :
    ∃ parts, many (orElse blankRun comment) text = .done parts (dropBlanks text) := by
  induction hlen : text.length using Nat.strongRecOn generalizing text with
  | ind n ih =>
    subst hlen
    have hnext : ∀ rest, orElse blankRun comment text = .done () rest →
        dropBlanks rest = dropBlanks text →
        ∃ parts, many (orElse blankRun comment) text = .done parts (dropBlanks text) := by
      intro rest hpart hdrop
      have hlt := consumes_gap text () rest hpart
      obtain ⟨parts, hparts⟩ := ih rest.length hlt rest rfl
      rw [hdrop] at hparts
      exact ⟨() :: parts, many_of_done hpart hlt hparts⟩
    have hstop : Refuses (orElse blankRun comment) text → dropBlanks text = text →
        ∃ parts, many (orElse blankRun comment) text = .done parts (dropBlanks text) := by
      intro hrefuses hdrop
      rw [hdrop]
      exact ⟨[], many_of_refuses hrefuses⟩
    cases text with
    | nil => exact hstop (refuses_gap (by simp) (by simp)) dropBlanks_nil
    | cons c tail =>
      by_cases hblank : isBlank c = true
      · exact hnext _ (orElse_of_done (blankRun_of_blank hblank)) (dropBlanks_dropWhile _)
      · have hhead : ∀ d ∈ (c :: tail).head?, isBlank d = false := by
          rintro d ⟨⟩
          exact Bool.eq_false_iff.mpr hblank
        have hrefuses : Refuses blankRun (c :: tail) := refuses_map.mpr (refuses_run1.mpr hhead)
        by_cases hhash : c = '#'
        · subst hhash
          cases hwords : afterComment? tail with
          | some rest =>
            have hcomment := comment_eq_done.mpr ⟨tail, rfl, hwords⟩
            exact hnext rest (orElse_eq_done.mpr (.inr ⟨hrefuses, hcomment⟩))
              (dropBlanks_comment hwords).symm
          | none =>
            refine hstop (refuses_gap hhead ?_) (dropBlanks_no_comment hwords)
            rintro _ ⟨⟩
            exact hwords
        · refine hstop (refuses_gap hhead fun _ heq => ?_) (dropBlanks_cons ?_)
          · exact absurd (List.cons.inj heq).1 hhash
          · exact isTokenStart_iff.mpr ⟨Bool.eq_false_iff.mpr hblank, hhash⟩

/-- Blanks are runs of blanks and comments, as many as there are. -/
theorem blanks_eq_many : blanks = map (fun _ => ()) (many (orElse blankRun comment)) := by
  funext text
  obtain ⟨parts, hparts⟩ := many_gap text
  rw [map_of_done hparts, blanks_eq]

end Gaps

section Grammar

theorem consumes_spaced {c : Char} : Consumes (spaced c) := by
  unfold spaced
  exact consumes_behind within_blanks fun _ => consumes_bind consumes_satisfy fun _ => yields_blanks

theorem consumes_comma : Consumes comma := by
  unfold comma
  exact consumes_behind within_blanks fun _ =>
    consumes_bind consumes_satisfy fun _ => within_give.yields

theorem consumes_spellings {upper lower : String} (hupper : upper.toList ≠ [])
    (hlower : lower.toList ≠ []) : Consumes (orElse (keyword upper) (keyword lower)) :=
  consumes_orElse (consumes_keyword hupper) (consumes_keyword hlower)

theorem consumes_connectiveWord {upper lower : String} (hupper : upper.toList ≠ [])
    (hlower : lower.toList ≠ []) : Consumes (connectiveWord upper lower) := by
  unfold connectiveWord
  exact consumes_behind within_blanks fun _ => consumes_spellings hupper hlower

theorem consumes_literal : Consumes literal := (local_literal (F := Anyhow)).consumes

theorem consumes_expr : Consumes expr := (local_expr (F := Anyhow)).consumes

theorem consumes_unary : Consumes unary := (local_unary (F := Anyhow)).consumes

theorem consumes_key : Consumes (orElse quotedString ident) :=
  consumes_orElse (local_quotedString (F := Anyhow)).consumes consumes_ident

theorem consumes_mapEntry : Consumes (mapEntry literal) :=
  (local_mapEntry (F := Anyhow) local_literal).consumes

theorem consumes_andChain : Consumes andChain :=
  consumes_bind consumes_unary fun _ =>
    (within_bind (within_many (within_after within_connectiveWord (within_commit within_unary)))
      fun _ => within_give).yields

/-- What is read over and over, as long as it is there. -/
inductive Repeated : {α : Type} → Reader α → Prop where
  | gap : Repeated (orElse blankRun comment)
  | item : Repeated (after (spaced ',') literal)
  | entry : Repeated (after (spaced ',') (mapEntry literal))
  | argument : Repeated (after (spaced ',') expr)
  | conjunct : Repeated (after (connectiveWord "AND" "and") (commit unary))
  | disjunct : Repeated (after (connectiveWord "OR" "or") (commit andChain))
  | note : Repeated ruleNote
  | action : Repeated (after comma action)
  | rule : Repeated rule

/-- What the grammar takes up between one recursion and the next. -/
inductive Step : {α : Type} → Reader α → Prop where
  -- the alternatives of blanks
  | blankRun : Step blankRun
  | comment : Step comment
  -- elements and separators of lists, and the parts of chains
  | literal : Step literal
  | entry : Step (mapEntry literal)
  | argument : Step expr
  | action : Step action
  | unary : Step unary
  | andChain : Step andChain
  | spacedComma : Step (spaced ',')
  | comma : Step comma
  -- notes and rules, and whatever a list or a chain goes on with
  | repeated {α : Type} {item : Reader α} : Repeated item → Step item
  -- what stands before a literal, an expression or a condition inside another one
  | bracket : Step (opening '[')
  | brace : Step (opening '\x7b')
  | key : Step (orElse quotedString ident)
  | function : Step ident
  | argumentsParen : Step (opening '(')
  | paren : Step (char '(')
  | negation : Step negationWord
  | and : Step (connectiveWord "AND" "and")
  | or : Step (connectiveWord "OR" "or")
  -- what stands before the operand of a comparison, before the expression or the literals of an
  -- action, and before the condition of a rule
  | field : Step name
  | operator : Step operator
  | equals : Step (spaced '=')
  | params : Step (spaced '(')
  | when : Step (keyword "when")

theorem Repeated.consumes {item : Reader α} (h : Repeated item) : Consumes item := by
  cases h with
  | gap => exact consumes_gap
  | item => exact consumes_after consumes_spaced within_literal
  | entry => exact consumes_after consumes_spaced (within_mapEntry within_literal)
  | argument => exact consumes_after consumes_spaced within_expr
  | conjunct =>
    exact consumes_after (consumes_connectiveWord (by decide) (by decide))
      (within_commit within_unary)
  | disjunct =>
    exact consumes_after (consumes_connectiveWord (by decide) (by decide))
      (within_commit within_andChain)
  | note => exact (local_ruleNote (F := Anyhow)).consumes
  | action => exact consumes_after consumes_comma within_action
  | rule => exact consumes_rule

theorem Step.consumes {p : Reader α} (h : Step p) : Consumes p := by
  cases h with
  | blankRun => exact consumes_blankRun
  | comment => exact consumes_comment
  | literal => exact consumes_literal
  | entry => exact consumes_mapEntry
  | argument => exact consumes_expr
  | action => exact local_action.consumes
  | unary => exact consumes_unary
  | andChain => exact consumes_andChain
  | spacedComma | equals | params => exact consumes_spaced
  | comma => exact consumes_comma
  | repeated h => exact h.consumes
  | bracket | brace | argumentsParen => exact consumes_opening
  | key => exact consumes_key
  | function => exact consumes_ident
  | paren => exact consumes_satisfy
  | negation => exact consumes_spellings (by decide) (by decide)
  | and | or => exact consumes_connectiveWord (by decide) (by decide)
  | field => exact (local_name (F := Anyhow)).consumes
  | operator => exact (local_operator (F := Anyhow)).consumes
  | when => exact consumes_keyword (by decide)

/-- What uses a reader inside it, as the grammar does where it goes into itself. -/
inductive Descent : {α β : Type} → (Reader α → Reader β) → Prop where
  | entry : Descent mapEntry
  | literal : Descent literalWith
  | call : Descent functionCall
  | expr : Descent exprWith
  | grouped : Descent grouped
  | primary : Descent primary
  | unary : Descent unaryWith
  | conjuncts : Descent fun part : Reader Condition =>
    many (after (connectiveWord "AND" "and") (commit part))
  | disjuncts : Descent fun part : Reader Condition =>
    many (after (connectiveWord "OR" "or") (commit part))

theorem descends_others {upper lower : String} (hupper : upper.toList ≠ [])
    (hlower : lower.toList ≠ []) :
    Descends fun part : Reader Condition =>
      many (after (connectiveWord upper lower) (commit part)) := by
  intro n p q _ hagree
  have hword : Consumes (connectiveWord upper lower) := consumes_connectiveWord hupper hlower
  exact agree_many (agree_bind_of_consumes hword fun _ => agree_commit hagree)

theorem descends_mapEntry : Descends mapEntry := by
  intro n p q hp hagree
  refine agree_bind_of_consumes consumes_key fun _ => ?_
  refine agree_bind yields_blanks (.refl _ _) fun _ => ?_
  refine agree_bind (yields_commit yields_char) (.refl _ _) fun _ => ?_
  refine agree_bind yields_blanks (.refl _ _) fun _ => ?_
  exact agree_bind (yields_commit hp.yields) (agree_commit hagree) fun _ => .refl _ _

theorem Descent.descends {body : Reader α → Reader β} (h : Descent body) : Descends body := by
  cases h with
  | entry => exact descends_mapEntry
  | literal => exact fun _ _ _ hp => agree_literalWith hp.yields
  | call => exact fun _ _ _ hp => agree_functionCall hp.yields
  | expr => exact fun _ _ _ hp => agree_exprWith hp.yields
  | grouped => exact fun _ _ _ hp => agree_grouped hp.yields
  | primary => exact fun _ _ _ hp => agree_primary hp.yields
  | unary => exact fun _ _ _ hp => agree_unaryWith hp.yields
  | conjuncts | disjuncts => refine descends_others ?_ ?_ <;> decide

/-- The recursions of the grammar: what is read inside itself, and the repetitions. -/
inductive Recursion : {α : Type} → (Reader α → Reader α) → Reader α → Prop where
  | literal : Recursion literalWith literal
  | expr : Recursion exprWith expr
  | unary : Recursion unaryWith unary
  | repetition {α : Type} {item : Reader α} :
    Repeated item → Recursion (repeating item) (many item)

theorem Repeated.within {item : Reader α} (h : Repeated item) : Within item := by
  cases h with
  | gap =>
    have hwords : Within commentWords := by
      intro text
      unfold commentWords
      split
      · exact suffix_of_afterComment? ‹_›
      · exact List.suffix_refl text
    exact within_orElse (within_map within_run1) (within_after within_char hwords)
  | item => exact within_after within_spaced within_literal
  | entry => exact within_after within_spaced (within_mapEntry within_literal)
  | argument => exact within_after within_spaced within_expr
  | conjunct => exact within_after within_connectiveWord (within_commit within_unary)
  | disjunct => exact within_after within_connectiveWord (within_commit within_andChain)
  | note => exact within_ruleNote
  | action => exact within_after within_comma within_action
  | rule => exact within_rule

namespace Recursion

variable {body : Reader α → Reader α} {p : Reader α}

theorem descends (h : Recursion body p) : Descends body := by
  cases h with
  | literal => exact Descent.literal.descends
  | expr => exact Descent.expr.descends
  | unary => exact Descent.unary.descends
  | repetition hitem => exact descends_repeating hitem.consumes

theorem within (h : Recursion body p) : Within p := by
  cases h with
  | literal => exact within_literal
  | expr => exact within_expr
  | unary => exact within_unary
  | repetition hitem => exact within_many hitem.within

/-- The guards that the recursion is defined with are never in its way. -/
theorem fixed (h : Recursion body p) : p = body p := by
  cases h with
  | literal => exact literal_eq
  | expr => exact expr_eq
  | unary => exact unary_eq
  | repetition hitem => exact many_eq_repeating hitem.consumes

/-- Without guards the recursion ends no deeper than the text is long. -/
theorem agree (h : Recursion body p) (bottom : Reader α) (depth : Nat) :
    AgreeBelow depth p (unroll body bottom depth) :=
  agree_unroll h.descends h.within h.fixed bottom depth

end Recursion

/-- The readers of the grammar. -/
inductive Production : {α : Type} → Reader α → Prop where
  | blanks : Production blanks
  | keyword (word : String) : Production (keyword word)
  | ident : Production ident
  | name : Production name
  | quotedString : Production quotedString
  | number : Production number
  | listItems : Production (listItems literal)
  | mapEntries : Production (mapEntries literal)
  | mapEntry : Production (mapEntry literal)
  | literal : Production literal
  | fieldReference : Production fieldReference
  | contextReference : Production contextReference
  | functionCall : Production (functionCall expr)
  | expr : Production expr
  | operator : Production operator
  | comparison : Production comparison
  | primary : Production (primary unary)
  | unary : Production unary
  | andChain : Production andChain
  | orChain : Production (chain (connectiveWord "OR" "or") Condition.or andChain)
  | condition : Production condition
  | wholeCondition : Production wholeCondition
  | target : Production target
  | assigned : Production assigned
  | quoted : Production quoted
  | params : Production params
  | action : Production action
  | ruleNote : Production ruleNote
  | rule : Production rule
  | rules : Production rules

theorem Production.within {p : Reader α} (h : Production p) : Within p := by
  cases h with
  | blanks => exact within_blanks
  | keyword word => exact within_keyword
  | ident => exact within_ident
  | name => exact within_name
  | quotedString => exact within_quotedString
  | number => exact within_number
  | listItems => exact within_listItems within_literal
  | mapEntries => exact within_mapEntries within_literal
  | mapEntry => exact within_mapEntry within_literal
  | literal => exact within_literal
  | fieldReference => exact within_fieldReference
  | contextReference => exact within_contextReference
  | functionCall => exact within_functionCall within_expr
  | expr => exact within_expr
  | operator => exact within_operator
  | comparison => exact within_comparison
  | primary => exact within_primary within_unary
  | unary => exact within_unary
  | andChain => exact within_andChain
  | orChain => exact within_chain within_connectiveWord within_andChain
  | condition => exact within_condition
  | wholeCondition => exact within_wholeCondition
  | target => exact within_target
  | assigned => exact within_assigned
  | quoted => exact within_quoted
  | params => exact within_params
  | action => exact within_action
  | ruleNote => exact within_ruleNote
  | rule => exact within_rule
  | rules => exact within_rules

/-- A file of rules, given the reader of the list of them. -/
def rulesWith (list : Reader (List Rule)) : Reader (List Rule) := do
  let rules ← list
  blanks
  return rules

/-- A condition with blanks around it, given the reader of what `NOT`, `AND` and `OR` connect. -/
def wholeConditionWith (unary : Reader Condition) : Reader Condition := do
  let condition ← conditionWith unary
  blanks
  return condition

theorem agree_rulesWith {n : Nat} {p q : Reader (List Rule)} (hp : Within p)
    (h : AgreeBelow n p q) : AgreeBelow n (rulesWith p) (rulesWith q) :=
  agree_bind hp.yields h fun _ => .refl _ _

theorem agree_wholeConditionWith {n : Nat} {p q : Reader Condition} (hp : Within p)
    (h : AgreeBelow n p q) : AgreeBelow n (wholeConditionWith p) (wholeConditionWith q) :=
  agree_bind (within_conditionWith hp).yields (agree_conditionWith hp.yields h) fun _ => .refl _ _

theorem whole_congr {p q : Reader α} {text : String} (h : p text.toList = q text.toList) :
    p.whole text = q.whole text := by
  unfold whole
  rw [h]

end Grammar

/-- Every reader of the grammar leaves an end of its text, and what is read between one recursion
and the next takes up text. So every recursion ends by itself: from a depth above the length of
the text it gives what is read, whatever is put at its bottom. -/
theorem grammar_progresses :
    (∀ {α : Type} {p : Reader α}, Production p → Within p) ∧
    blanks = map (fun _ => ()) (many (orElse blankRun comment)) ∧
    (∀ {α : Type} {p : Reader α}, Step p → Consumes p) ∧
    (∀ {α β : Type} {body : Reader α → Reader β}, Descent body → Descends body) ∧
    (∀ {α : Type} {body : Reader α → Reader α} {p : Reader α}, Recursion body p →
      ∀ bottom text depth, text.length < depth → unroll body bottom depth text = p text) ∧
    ∀ (text : String) (depth : Nat), text.length < depth →
      (∀ bottom, (rulesWith (unroll (repeating rule) bottom depth)).whole text =
        readRules text) ∧
      (∀ bottom, (wholeConditionWith (unroll unaryWith bottom depth)).whole text =
        readCondition text) := by
  refine ⟨Production.within, blanks_eq_many, Step.consumes, Descent.descends, ?ends, ?whole⟩
  case ends =>
    intro _ body p hrecursion bottom text depth hlt
    exact (hrecursion.agree bottom depth text hlt).symm
  case whole =>
    intro text depth hlt
    rw [← String.length_toList] at hlt
    constructor
    · intro bottom
      have hlist := (Recursion.repetition .rule).agree bottom depth
      exact whole_congr (agree_rulesWith (within_many within_rule) hlist _ hlt).symm
    · intro bottom
      have hunary := Recursion.unary.agree bottom depth
      exact whole_congr (agree_wholeConditionWith within_unary hunary _ hlt).symm

/-- Groups inside one another need no more depth than the text is long. -/
theorem nested_groups_end :
    let text := "((((name is_empty))))"
    (condition text.toList).rest <:+ text.toList ∧
      "(((name is_empty))))".toList.length < text.toList.length ∧
      unroll unaryWith abort 22 text.toList = unary text.toList ∧
      (wholeConditionWith (unroll unaryWith abort 22)).whole text =
        .ok (.comparison ⟨"name", .isEmpty, .literal .null, none⟩) := by
  have hparen : char '(' "((((name is_empty))))".toList =
      .done '(' "(((name is_empty))))".toList := by with_unfolding_all rfl
  have hread : readCondition "((((name is_empty))))" =
      .ok (.comparison ⟨"name", .isEmpty, .literal .null, none⟩) := by with_unfolding_all rfl
  intro text
  obtain ⟨hwithin, _, hconsumes, _, hends, hwhole⟩ := grammar_progresses
  refine ⟨hwithin .condition text.toList, hconsumes .paren text.toList '(' _ hparen, ?_, ?_⟩
  · exact hends .unary abort text.toList 22 (by decide)
  · exact ((hwhole text 22 (by decide)).2 abort).trans hread

end FormRules.RuleText
