import FormRules.Proofs.RuleText.ActionReadback

/-!
Reading files of rules back (`readRules_writeRules`). Behind a rule stands the end of the
text or the next rule, whose first word is reserved, so an action at the end of a rule does
not take it for its target.
-/

namespace FormRules

open RuleText

/-- A rule that rule text can express. It has an id, which is a name, no description, and at
least one action. -/
structure Rule.Writable (rule : Rule) : Prop where
  id : ∃ id, rule.id = some id ∧ IsName id
  description : rule.description = none
  subject : ∀ name ∈ rule.subject, IsName name
  readable : rule.condition.Readable
  literals : rule.condition.Literals Value.Writable
  actions : rule.actions ≠ []
  writable : ∀ action ∈ rule.actions, action.Writable

namespace RuleText

open Reader

variable {rest : List Char}

section Notes

theorem spaced_paren {inner : List Char} (h : StartsToken inner) :
    spaced '(' (' ' :: '(' :: inner) = .done () inner :=
  spaced_eq_done.mpr ⟨inner, dropBlanks_space (by decide), h.dropBlanks⟩

theorem keyword_number {α : Type} (word : String) {p : Reader α} {digits : List Char} {v : α}
    (hstart : StartsToken digits) (hread : p digits = .done v rest) :
    after (keyword word) (after blanks p) (word.toList ++ ' ' :: digits) = .done v rest := by
  have hword : keyword word (word.toList ++ ' ' :: digits) = .done () (' ' :: digits) :=
    keyword_append word (endsWord_space)
  refine (bind_of_done hword).trans ?_
  rw [after_blanks, hstart.dropBlanks_space]
  exact hread

/-- What a note says inside its parentheses. -/
def noteReader : Reader RuleNote :=
  orElse (map RuleNote.priority (after (keyword "priority") (after blanks int32)))
    (orElse (map RuleNote.debounce (after (keyword "debounce") (after blanks uint64)))
      (map (fun _ => RuleNote.disabled) (keyword "disabled")))

/-- A note begins with the keyword of its kind. -/
theorem noteReader_eq_done {text : List Char} {note : RuleNote} :
    noteReader text = .done note rest ↔
      (∃ n, after (keyword "priority") (after blanks int32) text = .done n rest ∧
        .priority n = note) ∨
      (∃ millis, after (keyword "debounce") (after blanks uint64) text = .done millis rest ∧
        .debounce millis = note) ∨
      ∃ u, keyword "disabled" text = .done u rest ∧ .disabled = note := by
  have hpriority : GuardedBy (· == 'p')
      (map RuleNote.priority (after (keyword "priority") (after blanks int32))) :=
    guardedBy_map (guardedBy_bind (guardedBy_keyword rfl))
  have hdebounce : GuardedBy (· == 'd')
      (map RuleNote.debounce (after (keyword "debounce") (after blanks uint64))) :=
    guardedBy_map (guardedBy_bind (guardedBy_keyword rfl))
  have hdisabled : GuardedBy (· == 'd') (map (fun _ => RuleNote.disabled) (keyword "disabled")) :=
    guardedBy_map (guardedBy_keyword rfl)
  unfold noteReader
  rw [orElse_eq_done_of_guards hpriority (guardedBy_orElse hdebounce hdisabled)
    (apart_of_eq_false (by decide)), orElse_eq_done, map_eq_done, map_eq_done, map_eq_done]
  refine or_congr_right (or_congr_right ⟨And.right, fun ⟨u, hword, hnote⟩ => ⟨?_, u, hword, hnote⟩⟩)
  -- Both words begin with the same letter, so they are told apart as wholes.
  obtain ⟨rfl, hends⟩ := keyword_eq_done.mp hword
  refine refuses_map.mpr (refuses_bind.mpr (.inl ?_))
  exact refuses_keyword_of_ident (by decide) (ident_append (by decide) hends) (by decide)

/-- What a note says is read back. -/
theorem noteReader_words (note : RuleNote) (hends : EndsWord rest) :
    noteReader (note.words ++ rest) = .done note rest := by
  rw [noteReader_eq_done]
  cases note with
  | priority n =>
    have hread := keyword_number "priority" ((startsToken_writeInt n.toInt).append rest)
      (int32_writeInt n hends)
    exact .inl ⟨n, hread, rfl⟩
  | debounce millis =>
    have hread := keyword_number "debounce" ((startsToken_writeInt millis.toNat).append rest)
      (uint64_writeNat millis hends)
    exact .inr (.inl ⟨millis, hread, rfl⟩)
  | disabled => exact .inr (.inr ⟨(), keyword_append "disabled" hends, rfl⟩)

theorem startsToken_words (note : RuleNote) : StartsToken note.words := by
  have hstart : ∀ word, isIdentifier word = true → ∀ more, StartsToken (word.toList ++ more) :=
    fun _ h more => (startsToken_of_isIdentifier h).append more
  cases note with
  | priority n => exact hstart "priority" (by decide) _
  | debounce millis => exact hstart "debounce" (by decide) _
  | disabled => exact startsToken_of_isIdentifier (by decide)

/-- A note is read back. -/
theorem ruleNote_source (note : RuleNote) : ruleNote (note.source ++ rest) = .done note rest := by
  have hend : StartsToken (')' :: rest) := startsToken_cons.mpr (by decide)
  have hopening := spaced_paren ((startsToken_words note).append (')' :: rest))
  have hread : label .ruleNote (commit noteReader) (note.words ++ ')' :: rest) =
      .done note (')' :: rest) :=
    label_eq_done.mpr (commit_eq_done.mpr
      (noteReader_words note (endsWord_cons.mpr (by decide))))
  rw [RuleNote.source, List.cons_append, List.cons_append, List.append_assoc]
  unfold ruleNote between
  refine (bind_of_done hopening).trans ((bind_of_done hread).trans ?_)
  exact (bind_of_done (closing_cons hend)).trans rfl

theorem refuses_ruleNote (h : (dropBlanks rest).head? ≠ some '(') : Refuses ruleNote rest :=
  refuses_bind.mpr (.inl (refuses_spaced.mpr h))

/-- Notes are read back before a colon. -/
theorem many_ruleNote (notes : List RuleNote) :
    many ruleNote (notes.flatMap RuleNote.source ++ ':' :: rest) = .done notes (':' :: rest) := by
  refine many_flatMap (F := fun _ => True) (fun note _ _ _ => ruleNote_source note) ?_
    (fun _ _ _ => trivial) trivial (refuses_ruleNote ?_)
  · simp [RuleNote.source]
  · rw [dropBlanks_cons (by decide)]
    simp

/-- The notes of a rule put back its priority, its debounce time and whether it is enabled. -/
theorem foldl_notes (r base : Rule) (hpriority : base.priority = none)
    (hdebounce : base.debounce = none) (henabled : base.enabled = true) :
    r.notes.foldl RuleNote.apply base =
      { base with priority := r.priority, debounce := r.debounce, enabled := r.enabled } := by
  obtain ⟨_, _, _, _, _, _, priority, enabled, debounce⟩ := base
  dsimp only at hpriority hdebounce henabled
  subst hpriority hdebounce henabled
  unfold Rule.notes
  cases r.priority <;> cases r.debounce <;> cases r.enabled <;> rfl

end Notes

section Body

/-- Nothing follows that would belong to the rule. -/
structure EndsRule (rest : List Char) : Prop extends EndsAction rest where
  noComma : (dropBlanks rest).head? ≠ some ','

/-- A comma after blanks. -/
def comma : Reader Unit := do
  blanks
  let _ ← char ','

theorem comma_cons (rest : List Char) : comma (',' :: rest) = .done () rest := by
  have hdef : ∀ text, comma text = Reader.bind (char ',') (fun _ => give ()) (dropBlanks text) :=
    fun _ => rfl
  rw [hdef, dropBlanks_cons (by decide), bind_of_done (char_cons _ _)]
  rfl

theorem refuses_comma (h : (dropBlanks rest).head? ≠ some ',') : Refuses comma rest := by
  unfold comma
  rw [bind_eq, refuses_bind]
  exact .inr ⟨(), dropBlanks rest, rfl, refuses_bind.mpr (.inl (refuses_char.mpr h))⟩

theorem action_blank (text : List Char) : action (' ' :: text) = action text := by
  rw [action_eq, action_eq, dropBlanks_blank (by decide)]

theorem endsAction_comma (rest : List Char) : EndsAction (',' :: rest) := by
  have hdrop : dropBlanks (',' :: rest) = ',' :: rest :=
    dropBlanks_cons (by decide)
  refine ⟨endsWord_cons.mpr (by decide), refuses_name_of_head hdrop (by decide), ?_, ?_⟩
  · simp [hdrop]
  · simp [hdrop]

/-- The actions of a rule are read back. -/
theorem actions_source {actions : List Action} (hne : actions ≠ [])
    (h : ∀ action ∈ actions, action.Writable) (hends : EndsRule rest) :
    separated1 comma action (joinCommas (actions.map Action.source) ++ rest) =
      .done actions rest := by
  cases actions with
  | nil => exact absurd rfl hne
  | cons first others =>
    rw [List.forall_mem_cons] at h
    have hfollow : EndsAction (others.flatMap (fun a => ',' :: ' ' :: a.source) ++ rest) := by
      cases others with
      | nil => exact hends.toEndsAction
      | cons next tail => exact endsAction_comma _
    have hothers : many (after comma action)
        (others.flatMap (fun a => ',' :: ' ' :: a.source) ++ rest) = .done others rest := by
      refine many_flatMap (F := EndsAction) ?_ (by simp) (fun _ _ _ => endsAction_comma _)
        hends.toEndsAction (refuses_bind.mpr (.inl (refuses_comma hends.noComma)))
      intro a ha more hmore
      rw [List.cons_append, List.cons_append]
      refine (bind_of_done (comma_cons _)).trans ?_
      rw [action_blank]
      exact action_source (h.2 a ha) hmore
    rw [List.map_cons, joinCommas, joinWith_cons, List.flatMap_map, List.append_assoc]
    exact (bind_of_done (action_source h.1 hfollow)).trans (map_of_done hothers)

/-- A word after a line break. -/
theorem dropBlanks_line {word text : List Char} (h : StartsToken word) :
    dropBlanks ("\n    ".toList ++ (word ++ text)) = word ++ text := by
  rw [dropBlanks_append (by decide), (h.append text).dropBlanks]

/-- The condition and the actions of a rule, and the rule they finish. -/
def ruleBody (finish : Condition → List Action → Rule) : Reader Rule := do
  blanks
  let _ ← commit (char ':')
  blanks
  label (.keyword "when") (commit (keyword "when"))
  let condition ← commit condition
  label (.keyword "then") (do blanks; commit (keyword "then"))
  let actions ← commit (separated1 comma action)
  return finish condition actions

theorem endsCondition_then (text : List Char) :
    EndsCondition ("\n    ".toList ++ ("then".toList ++ ' ' :: text)) := by
  have hhead : ∀ c ∈ (dropBlanks ("\n    ".toList ++ ("then".toList ++ ' ' :: text))).head?,
      c = 't' := by
    rw [dropBlanks_line (startsToken_of_isIdentifier (by decide))]
    intro c hc
    exact (Option.some.inj hc).symm
  refine ⟨endsWord_cons.mpr (by decide), ?_, ?_⟩
  · refine refuses_connectiveWord_of_head rfl rfl fun c hc => ?_
    rw [hhead c hc]
    decide
  · refine refuses_connectiveWord_of_head rfl rfl fun c hc => ?_
    rw [hhead c hc]
    decide

theorem bodySource_append (r : Rule) (rest : List Char) :
    r.bodySource ++ rest =
      ':' :: ("\n    ".toList ++ ("when".toList ++ ' ' :: (r.condition.source ++
        ("\n    ".toList ++ ("then".toList ++
          ' ' :: (joinCommas (r.actions.map Action.source) ++ rest)))))) := by
  rw [Rule.bodySource, List.cons_append, List.append_assoc, List.append_assoc, List.cons_append,
    List.append_assoc, List.append_assoc, List.append_assoc, List.cons_append]

theorem blanks_token {text : List Char} (h : StartsToken text) :
    blanks text = .done () text := by
  rw [blanks_eq, h.dropBlanks]

theorem keyword_space (word : String) (rest : List Char) :
    keyword word (word.toList ++ ' ' :: rest) = .done () (' ' :: rest) :=
  keyword_append word (endsWord_space)

/-- A condition is read back between a blank and the next line. -/
theorem condition_line {c : Condition} (hreadable : c.Readable)
    (hliterals : c.Literals Value.Writable) (text : List Char) :
    condition (' ' :: (c.source ++ ("\n    ".toList ++ ("then".toList ++ ' ' :: text)))) =
      .done c ("\n    ".toList ++ ("then".toList ++ ' ' :: text)) := by
  have hsource := condition_source hreadable hliterals (endsCondition_then text)
  rw [condition_eq] at hsource ⊢
  rw [dropBlanks_blank (by decide)]
  exact hsource

theorem then_line (text : List Char) :
    label (.keyword "then") (do blanks; commit (keyword "then"))
      ("\n    ".toList ++ ("then".toList ++ ' ' :: text)) = .done () (' ' :: text) := by
  refine label_eq_done.mpr ((bind_of_done (blanks_eq _)).trans (commit_eq_done.mpr ?_))
  rw [dropBlanks_line (startsToken_of_isIdentifier (by decide))]
  exact keyword_space "then" text

theorem actions_blank (text : List Char) :
    separated1 comma action (' ' :: text) = separated1 comma action text :=
  bind_of_eq (action_blank text)

/-- The body of a rule is read back. -/
theorem ruleBody_source {r : Rule} (h : r.Writable) (hends : EndsRule rest)
    (finish : Condition → List Action → Rule) :
    ruleBody finish (r.bodySource ++ rest) = .done (finish r.condition r.actions) rest := by
  have hactions : commit (separated1 comma action)
      (' ' :: (joinCommas (r.actions.map Action.source) ++ rest)) = .done r.actions rest :=
    commit_eq_done.mpr ((actions_blank _).trans (actions_source h.actions h.writable hends))
  unfold ruleBody
  simp only [bind_eq]
  rw [bodySource_append, bind_of_done (blanks_token (startsToken_cons.mpr (by decide))),
    bind_of_done (commit_eq_done.mpr (char_cons ':' _)), bind_of_done (blanks_eq _),
    dropBlanks_line (startsToken_of_isIdentifier (by decide)),
    bind_of_done (label_eq_done.mpr (commit_eq_done.mpr (keyword_space "when" _))),
    bind_of_done (commit_eq_done.mpr (condition_line h.readable h.literals _))]
  exact (bind_of_done (then_line _)).trans ((bind_of_done hactions).trans rfl)

end Body

section Header

/-- A text for display of a rule. -/
def titleReader : Reader String := after blanks quotedString

/-- The word before a subject. -/
def onWord : Reader Unit := do
  blanks
  keyword "on"
  blanks

theorem onWord_eq (text : List Char) :
    onWord text = Reader.bind (keyword "on") (fun _ => blanks) (dropBlanks text) := rfl

/-- The field that a rule is about. -/
def subjectReader : Reader String := after onWord (commit name)

/-- A part that begins with a blank, or nothing. -/
theorem endsWord_optionSource {α : Type} {lead : String} {tail : List Char}
    {source : α → List Char} (hlead : lead.toList = ' ' :: tail) (item : Option α)
    (hrest : EndsWord rest) : EndsWord (optionSource lead source item ++ rest) := by
  cases item with
  | none => exact hrest
  | some item =>
    rw [optionSource, hlead]
    exact endsWord_space

/-- A title is read back, if none can be read where it is missing. -/
theorem title_source (title : Option String) (h : (dropBlanks rest).head? ≠ some '"') :
    optional titleReader (optionSource " " quote title ++ rest) = .done title rest := by
  cases title with
  | none => exact optional_of_refuses (refuses_after_blanks (refuses_quotedString h))
  | some text =>
    refine optional_of_done ?_
    have hdrop : dropBlanks (optionSource " " quote (some text) ++ rest) = quote text ++ rest := by
      have hcons : optionSource " " quote (some text) ++ rest = ' ' :: (quote text ++ rest) := rfl
      rw [hcons, ((startsToken_quote text).append rest).dropBlanks_space]
    rw [titleReader, after_blanks, hdrop]
    exact quotedString_quote text rest

/-- A subject is read back, if its word cannot be read where it is missing. -/
theorem subject_source {subject : Option String} (hsubject : ∀ name ∈ subject, IsName name)
    (hends : EndsWord rest) (h : (dropBlanks rest).head? ≠ some 'o') :
    optional subjectReader (optionSource " on " String.toList subject ++ rest) =
      .done subject rest := by
  cases subject with
  | none =>
    refine optional_of_refuses (refuses_bind.mpr (.inl ?_))
    have hon : Refuses (keyword "on") (dropBlanks rest) := refuses_keyword_of_head rfl h
    exact refuses_bind.mpr (.inl hon)
  | some word =>
    have hword := hsubject word rfl
    have hstart : StartsToken (word.toList ++ rest) :=
      (startsToken_of_isIdentifier hword.1).append rest
    have hsplit : optionSource " on " String.toList (some word) ++ rest =
        ' ' :: ("on".toList ++ ' ' :: (word.toList ++ rest)) := rfl
    have hon : onWord (' ' :: ("on".toList ++ ' ' :: (word.toList ++ rest))) =
        .done () (word.toList ++ rest) := by
      rw [onWord_eq, ((@startsToken_of_isIdentifier "on" (by decide)).append _).dropBlanks_space,
        bind_of_done (keyword_space "on" _), blanks_eq, hstart.dropBlanks_space]
    rw [hsplit]
    exact optional_of_done ((bind_of_done hon).trans
      (commit_eq_done.mpr (name_eq_done.mpr ⟨hword, rfl, hends⟩)))

/-- The parts of a rule before its body. -/
theorem head_notes (r : Rule) (rest : List Char) :
    EndsWord (r.notes.flatMap RuleNote.source ++ ':' :: rest) ∧
      ∀ c ∈ (dropBlanks (r.notes.flatMap RuleNote.source ++ ':' :: rest)).head?,
        c = '(' ∨ c = ':' := by
  cases r.notes with
  | nil =>
    rw [List.flatMap_nil, List.nil_append,
      dropBlanks_cons (by decide)]
    exact ⟨endsWord_cons.mpr (by decide), by simp⟩
  | cons note others =>
    rw [List.flatMap_cons, RuleNote.source, List.cons_append, List.cons_append, List.cons_append,
      List.cons_append, dropBlanks_space (by decide)]
    exact ⟨endsWord_space, by simp⟩

/-- What stands after the title of a rule. -/
theorem subject_notes (r : Rule) (rest : List Char) :
    EndsWord (optionSource " on " String.toList r.subject ++
        (r.notes.flatMap RuleNote.source ++ ':' :: rest)) ∧
      (dropBlanks (optionSource " on " String.toList r.subject ++
        (r.notes.flatMap RuleNote.source ++ ':' :: rest))).head? ≠ some '"' := by
  obtain ⟨hends, hhead⟩ := head_notes r rest
  refine ⟨endsWord_optionSource rfl _ hends, ?_⟩
  cases r.subject with
  | none =>
    intro hquote
    rcases hhead '"' hquote with h | h <;> exact absurd h (by decide)
  | some word =>
    have hsplit : optionSource " on " String.toList (some word) ++
        (r.notes.flatMap RuleNote.source ++ ':' :: rest) = ' ' :: 'o' :: ("n ".toList ++
          (word.toList ++ (r.notes.flatMap RuleNote.source ++ ':' :: rest))) := rfl
    rw [hsplit, dropBlanks_space (by decide)]
    simp

/-- What a rule says after its word, from its id on. -/
def ruleAfter : Reader Rule := do
  let id ← label .ruleId (commit name)
  let title ← optional titleReader
  let subject ← optional subjectReader
  let notes ← many ruleNote
  ruleBody fun condition actions => notes.foldl RuleNote.apply
    { id := some id, title, subject, condition, actions }

theorem rule_eq (text : List Char) :
    rule text = Reader.bind (keyword "rule") (fun _ => after blanks ruleAfter) (dropBlanks text) :=
  rfl

/-- The parts of a rule after its word are read back and put together. -/
theorem ruleAfter_source {r : Rule} (h : r.Writable) (hends : EndsRule rest) :
    ruleAfter ((r.id.getD "").toList ++ (optionSource " " quote r.title ++
      (optionSource " on " String.toList r.subject ++
        (r.notes.flatMap RuleNote.source ++ (r.bodySource ++ rest))))) = .done r rest := by
  obtain ⟨id, hid, hname⟩ := h.id
  obtain ⟨body, hbody⟩ : ∃ body, r.bodySource ++ rest = ':' :: body := ⟨_, rfl⟩
  obtain ⟨hendsNotes, hheadNotes⟩ := head_notes r body
  obtain ⟨hendsSubject, hheadSubject⟩ := subject_notes r body
  have hnotO : (dropBlanks (r.notes.flatMap RuleNote.source ++ ':' :: body)).head? ≠ some 'o' := by
    intro ho
    rcases hheadNotes 'o' ho with h | h <;> exact absurd h (by decide)
  have hread := ruleBody_source h hends fun condition actions =>
    r.notes.foldl RuleNote.apply
      { id := some id, title := r.title, subject := r.subject, condition, actions }
  have hrule : r.notes.foldl RuleNote.apply
      { id := some id, title := r.title, subject := r.subject, condition := r.condition,
        actions := r.actions } = r := by
    rw [foldl_notes r _ rfl rfl rfl, ← hid, ← h.description]
  rw [hrule, hbody] at hread
  rw [hid, hbody, Option.getD_some]
  refine (bind_of_done (label_eq_done.mpr (commit_eq_done.mpr
    (name_eq_done.mpr ⟨hname, rfl, endsWord_optionSource rfl _ hendsSubject⟩)))).trans ?_
  refine (bind_of_done (title_source r.title hheadSubject)).trans ?_
  refine (bind_of_done (subject_source h.subject hendsNotes hnotO)).trans ?_
  exact (bind_of_done (many_ruleNote r.notes)).trans hread

end Header

section File

/-- A rule is read back, with blanks before it. -/
theorem rule_source {r : Rule} (h : r.Writable) {gap : List Char}
    (hgap : gap.all isBlank = true) (hends : EndsRule rest) :
    rule (gap ++ (r.source ++ rest)) = .done r rest := by
  obtain ⟨id, hid, hname⟩ := h.id
  have hstart : StartsToken ((r.id.getD "").toList ++ (optionSource " " quote r.title ++
      (optionSource " on " String.toList r.subject ++
        (r.notes.flatMap RuleNote.source ++ (r.bodySource ++ rest))))) := by
    rw [hid]
    exact (startsToken_of_isIdentifier hname.1).append _
  have hsource : r.source ++ rest = "rule".toList ++ ' ' :: ((r.id.getD "").toList ++
      (optionSource " " quote r.title ++ (optionSource " on " String.toList r.subject ++
        (r.notes.flatMap RuleNote.source ++ (r.bodySource ++ rest))))) := by
    rw [Rule.source, List.append_assoc, List.cons_append, List.append_assoc, List.append_assoc,
      List.append_assoc, List.append_assoc]
  rw [rule_eq, dropBlanks_append hgap, hsource,
    ((@startsToken_of_isIdentifier "rule" (by decide)).append _).dropBlanks,
    bind_of_done (keyword_space "rule" _), after_blanks, hstart.dropBlanks_space]
  exact ruleAfter_source h hends

theorem endsRule_nil : EndsRule [] := by
  refine ⟨⟨endsWord_nil, ?_, ?_, ?_⟩, ?_⟩
  · rw [dropBlanks_nil]
    exact refuses_name.mpr (.inl (refuses_ident.mpr (by simp)))
  all_goals simp [dropBlanks_nil]

/-- The next rule ends a rule: its first word is not taken for the target of an action. -/
theorem endsRule_next (r : Rule) (rest : List Char) :
    EndsRule (['\n', '\n'] ++ r.source ++ rest) := by
  obtain ⟨tail, htail⟩ : ∃ tail, r.source ++ rest = "rule".toList ++ ' ' :: tail := ⟨_, rfl⟩
  have hdrop : dropBlanks (['\n', '\n'] ++ r.source ++ rest) = "rule".toList ++ ' ' :: tail := by
    rw [List.append_assoc, dropBlanks_append (by decide), htail,
      ((@startsToken_of_isIdentifier "rule" (by decide)).append _).dropBlanks]
  refine ⟨⟨endsWord_cons.mpr (by decide), ?_, ?_, ?_⟩, ?_⟩
  · rw [hdrop, refuses_name]
    exact .inr ⟨"rule", ' ' :: tail,
      ident_append (by decide) (endsWord_space), by decide⟩
  all_goals rw [hdrop]; simp

theorem refuses_rule_nil : Refuses rule [] := by
  rw [refuses_congr (rule_eq []), dropBlanks_nil]
  exact refuses_bind.mpr (.inl (refuses_keyword_of_head rfl (by simp)))

/-- Rules with lines between them are read back. -/
theorem many_rule (rules : List Rule) (h : ∀ r ∈ rules, r.Writable) :
    many rule (joinWith ['\n', '\n'] (rules.map Rule.source)) = .done rules [] := by
  cases rules with
  | nil => exact many_of_refuses refuses_rule_nil
  | cons first others =>
    rw [List.forall_mem_cons] at h
    have hothers : many rule (others.flatMap (fun r => ['\n', '\n'] ++ r.source) ++ []) =
        .done others [] := by
      refine many_flatMap (F := EndsRule) ?_ (by simp) (fun r _ more => endsRule_next r more)
        endsRule_nil refuses_rule_nil
      intro r hr more hmore
      rw [List.append_assoc]
      exact rule_source (h.2 r hr) (by decide) hmore
    have hfollow : EndsRule (others.flatMap fun r => ['\n', '\n'] ++ r.source) := by
      cases others with
      | nil => exact endsRule_nil
      | cons next tail => exact endsRule_next next _
    rw [List.append_nil] at hothers
    rw [List.map_cons, joinWith_cons, List.flatMap_map]
    refine many_of_done (@rule_source _ first h.1 [] (by simp) hfollow) ?_ hothers
    have hpos : 0 < first.source.length := by simp [Rule.source]
    rw [List.length_append]
    omega

/-- A file is read where nothing but blanks is left behind its rules. -/
theorem readRules_eq_ok {text : String} {list : List Rule} :
    readRules text = .ok list ↔
      ∃ rest, many rule text.toList = .done list rest ∧ dropBlanks rest = [] :=
  whole_trailing

/-- What is written for a list of rules is read back as this list. -/
theorem readRules_writeRules (list : List Rule) (h : ∀ r ∈ list, r.Writable) :
    readRules (writeRules list) = .ok list := by
  have hdef : rules = Reader.bind (many rule) fun list => Reader.bind blanks fun _ =>
      give list := rfl
  rw [readRules, whole_eq_ok, writeRules, String.toList_ofList, hdef,
    bind_of_done (many_rule list h), bind_of_done (blanks_eq []), dropBlanks_nil]
  rfl

/-- A rule with all that a rule can have. Its last action names no field. -/
def surcharge : Rule where
  id := some "surcharge"
  title := some "a \"b\" \\ c"
  subject := some "fee"
  condition := .group .or [
    .group .and [
      .comparison ⟨"age", .lessThan, .literal (.int (-5)), some "trim"⟩,
      .negate (.comparison ⟨"name", .isEmpty, .literal .null, none⟩)],
    .comparison ⟨"plan", .isIn,
      .call "pick" [.field "x" (some "y"), .literal (.map [("a b", .array [.string "\n"])])], none⟩]
  actions := [
    ⟨.setValue (some (.context "user.id")) none, some "on"⟩,
    ⟨.custom "notify" (some (.literal .null)) (Dict.ofList [("to", .bool true)]), none⟩,
    ⟨.show, none⟩]
  priority := some (-2)
  enabled := false
  debounce := some 300

/-- A rule with no more than a rule must have. -/
def waiver : Rule where
  id := some "waiver"
  condition := .comparison ⟨"fee", .isEmpty, .literal .null, none⟩
  actions := [⟨.showError "no fee", none⟩]

theorem writable_surcharge : surcharge.Writable := by
  have hname : ∀ word ∈ ["age", "name", "plan", "fee", "on"], IsName word := by decide
  have hage : (Comparison.mk "age" .lessThan (.literal (.int (-5))) (some "trim")).Readable :=
    ⟨hname _ (by simp), by decide, trivial⟩
  have hempty : (Comparison.mk "name" .isEmpty (.literal .null) none).Readable :=
    ⟨hname _ (by simp), by simp, rfl⟩
  have hplan : (Comparison.mk "plan" .isIn (.call "pick" [.field "x" (some "y"),
      .literal (.map [("a b", .array [.string "\n"])])]) none).Readable := by
    refine ⟨hname _ (by simp), by simp, Expr.every_call.mpr ⟨⟨by decide, by decide⟩, ?_⟩⟩
    simp only [List.forall_mem_cons]
    have hproperty : ∀ path ∈ some "y", ∀ c ∈ path.toList, isIdentChar c = true := by
      rintro path ⟨⟩
      exact List.all_eq_true.mp (by decide)
    exact ⟨⟨by decide, by decide, hproperty⟩, trivial, by simp⟩
  have hreadable : surcharge.condition.Readable := by
    simp [surcharge, Condition.Readable, Condition.negate, Condition.Every, Condition.EveryChild,
      Condition.WellShaped, Condition.connective?, hage, hempty, hplan]
  have hliterals : surcharge.condition.Literals Value.Writable := by
    simp [surcharge, Condition.Literals, Condition.negate, Condition.Every, Condition.EveryChild,
      Condition.OfComparison, Expr.Literals, Expr.Every, Expr.EveryArg, Expr.OfLiteral,
      Value.Writable, Value.Every, Value.EveryItem, Value.EveryEntry, Value.WritableNode,
      Entries.Sorted]
  have hcustom : (ActionKind.custom "notify" (some (.literal .null))
      (Dict.ofList [("to", .bool true)])).Writable := by
    refine ⟨by decide, ?_, ?_⟩
    · rintro e ⟨⟩
      exact ⟨trivial, trivial⟩
    · have hentries : (Dict.ofList [("to", Value.bool true)]).toList = [("to", .bool true)] := rfl
      simp [hentries, Value.Writable, Value.Every, Value.WritableNode]
  have hactions : ∀ action ∈ surcharge.actions, action.Writable := by
    have huser : isIdentifier "user.id" = true := by decide
    simp only [surcharge, List.forall_mem_cons]
    have hset : ¬(ActionKind.setValue (some (.context "user.id")) none).isCustom = true :=
      Bool.false_ne_true
    refine ⟨⟨⟨⟨huser, trivial⟩, rfl⟩, ?_, fun h => absurd h hset⟩,
      ⟨hcustom, by simp, fun _ => rfl⟩, ⟨trivial, by simp, fun _ => rfl⟩, by simp⟩
    rintro word ⟨⟩
    exact hname _ (by simp)
  exact ⟨⟨_, rfl, by decide, by decide⟩, rfl, by simp [surcharge, hname], hreadable,
    hliterals, by simp [surcharge], hactions⟩

theorem surcharge_read_again :
    (∀ r ∈ [surcharge, waiver], r.Writable) ∧
      readRules (writeRules [surcharge, waiver]) = .ok [surcharge, waiver] := by
  have hwaiver : waiver.Writable := by
    have hempty : (Comparison.mk "fee" .isEmpty (.literal .null) none).Readable :=
      ⟨by decide, by simp, rfl⟩
    have hactions : ∀ action ∈ waiver.actions, action.Writable := by
      simp only [waiver, List.forall_mem_cons]
      exact ⟨⟨trivial, nofun, nofun⟩, by simp⟩
    exact ⟨⟨_, rfl, by decide, by decide⟩, rfl, nofun, hempty, trivial, by simp [waiver], hactions⟩
  have hwritable : ∀ r ∈ [surcharge, waiver], r.Writable := by
    simp [writable_surcharge, hwaiver]
  exact ⟨hwritable, readRules_writeRules _ hwritable⟩

end File

end RuleText

end FormRules
