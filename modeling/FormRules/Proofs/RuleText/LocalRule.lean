import FormRules.Proofs.RuleText.LocalGrammar
import FormRules.Proofs.RuleText.RuleImage

/-!
Actions and rules are read locally (`local_rule`). Their optional parts are told apart by the
character that each begins with behind blanks, so no part takes up text of the next one. What
follows an action or a rule must not be read as one of the parts that it may end in
(`StopsAction`, `StopsRule`).
-/

namespace FormRules.RuleText

open Reader

variable {α β γ : Type} {F : List Char → Prop}

section Beginnings

variable {accept other : Char → Bool} {p : Reader α} {f : α → Reader β}

/-- Reads only texts that begin with one of the characters. -/
def StartsWith (accept : Char → Bool) (p : Reader α) : Prop :=
  Ensures (fun text _ _ => ∃ c ∈ text.head?, accept c = true) p

/-- Reads only texts that begin with one of the characters behind blanks. -/
def BeginsBy (accept : Char → Bool) (p : Reader α) : Prop :=
  Ensures (fun text _ _ => ∃ c ∈ (dropBlanks text).head?, accept c = true) p

theorem GuardedBy.startsWith (h : GuardedBy accept p) : StartsWith accept p := by
  intro text v rest hdone
  obtain ⟨c, tail, rfl, hc⟩ := h.head hdone
  exact ⟨c, rfl, hc⟩

theorem StartsWith.commit (h : StartsWith accept p) : StartsWith accept (commit p) :=
  fun text v rest hdone => h text v rest (commit_eq_done.mp hdone)

theorem StartsWith.bind (h : StartsWith accept p) : StartsWith accept (Reader.bind p f) := by
  intro text w rest hdone
  obtain ⟨v, mid, hv, _⟩ := bind_eq_done.mp hdone
  exact h text v mid hv

theorem StartsWith.blanks (h : StartsWith accept p) : BeginsBy accept (after blanks p) :=
  fun text v rest hdone => h (dropBlanks text) v rest hdone

theorem BeginsBy.label {l : Label} (h : BeginsBy accept p) : BeginsBy accept (label l p) :=
  fun text v rest hdone => h text v rest (label_eq_done.mp hdone)

theorem BeginsBy.bind (h : BeginsBy accept p) : BeginsBy accept (Reader.bind p f) := by
  intro text w rest hdone
  obtain ⟨v, mid, hv, _⟩ := bind_eq_done.mp hdone
  exact h text v mid hv

theorem BeginsBy.mono (h : BeginsBy accept p) (himp : ∀ c, accept c = true → other c = true) :
    BeginsBy other p :=
  Ensures.mono h fun _ _ _ ⟨c, hc, haccept⟩ => ⟨c, hc, himp c haccept⟩

/-- An optional part may be missing. -/
theorem beginsBy_optional {f : Option α → Reader β} (hp : BeginsBy accept p)
    (hf : ∀ o, BeginsBy accept (f o)) : BeginsBy accept (Reader.bind (optional p) f) := by
  intro text w rest hdone
  obtain ⟨o, mid, ho, hw⟩ := bind_eq_done.mp hdone
  rcases optional_eq_done.mp ho with ⟨v, hv, _⟩ | ⟨_, _, rfl⟩
  · exact hp text v mid hv
  · exact hf o mid w rest hw

theorem beginsBy_many {f : List α → Reader β} (hp : BeginsBy accept p)
    (hf : ∀ vs, BeginsBy accept (f vs)) : BeginsBy accept (Reader.bind (many p) f) := by
  intro text w rest hdone
  obtain ⟨vs, mid, hvs, hw⟩ := bind_eq_done.mp hdone
  rcases many_eq_done.mp hvs with ⟨_, _, rfl⟩ | ⟨v, next, _, hv, _⟩
  · exact hf vs mid w rest hw
  · exact hp text v next hv

/-- An optional part is missing where something else begins behind the blanks. -/
theorem BeginsBy.refuses {q : Reader β} {text rest : List Char} {w : β} (hq : BeginsBy other q)
    (hp : GuardedBy accept p) (hapart : ∀ c, other c = true → accept c = false)
    (hdone : q text = .done w rest) : Refuses (after blanks p) text := by
  obtain ⟨c, hhead, hc⟩ := hq text w rest hdone
  refine refuses_after_blanks (hp _ fun d hd => ?_)
  rw [hhead] at hd
  cases hd
  exact hapart c hc

theorem BeginsBy.head_ne {text rest : List Char} {v : α} {c : Char} (h : BeginsBy accept p)
    (hc : accept c = false) (hdone : p text = .done v rest) :
    (dropBlanks text).head? ≠ some c := by
  obtain ⟨d, hhead, hd⟩ := h text v rest hdone
  rw [Option.mem_def.mp hhead]
  exact fun heq => ne_of_apart hd hc (Option.some.inj heq)

end Beginnings

section Actions

/-- Nothing follows that an action would go on with. -/
structure StopsAction (rest : List Char) : Prop where
  target : Refuses (after blanks name) rest
  params : Refuses params rest
  assigned : Refuses assigned rest

theorem between_spaced (c : Char) (close : Reader β) (p : Reader α) :
    between (spaced c) close p = after blanks (between (opening c) close p) := rfl

theorem local_target : Local false (Refuses (after blanks name)) target target :=
  (local_optional (local_blanks local_name)).mono fun _ h => ⟨trivial, h⟩

theorem local_assigned : Local true F assigned assigned :=
  local_spaced (by decide) (local_commit local_expr)

theorem local_quoted : Local true F quoted quoted :=
  local_label (local_blanks (local_commit local_quotedString))

theorem local_params : Local true F params params := by
  have hclosing : Local true F (closing ')') (closing ')') := local_closing (by decide)
  have hentries := local_items (c := '(') (by decide) (local_mapEntry local_literal) hclosing
    fun text rest hdone => ?_
  · unfold params
    rw [between_spaced]
    exact local_map (local_blanks hentries)
  · rw [closing_eq_done] at hdone
    refine ⟨refuses_of_guard guardedBy_mapEntry (by decide) (by decide) hdone,
      refuses_bind.mpr (.inl (refuses_spaced.mpr ?_))⟩
    rw [hdone]
    simp

theorem beginsBy_spaced {c : Char} {p : Reader α} : BeginsBy (· == c) (after (spaced c) p) := by
  rw [after_spaced]
  exact (guardedBy_bind guardedBy_char).startsWith.blanks

theorem beginsBy_assigned : BeginsBy (· == '=') assigned := beginsBy_spaced

theorem beginsBy_quoted : BeginsBy (· == '"') quoted :=
  (guardedBy_quotedString.startsWith.commit.blanks).label

/-- No name begins with a mark. -/
theorem apart_name {c : Char} (h : isIdentStart c = false) :
    ∀ d, (d == c) = true → isIdentStart d = false := by
  intro d hd
  rw [beq_iff_eq.mp hd]
  exact h

theorem ActionShape.local {p : Reader Action} (h : ActionShape p) :
    Local false StopsAction p p := by
  cases h with
  | targeted kind _ => exact (local_bind_give local_target).mono fun _ => StopsAction.target
  | withExpr kind _ =>
    refine local_bind local_target (fun target => (local_bind_give local_assigned).weaken)
      fun target text a rest hdone _ => ?_
    exact beginsBy_assigned.bind.refuses guardedBy_name (apart_name (by decide)) hdone
  | withText kind _ =>
    refine local_bind local_target (fun target => (local_bind_give local_quoted).weaken)
      fun target text a rest hdone _ => ?_
    exact beginsBy_quoted.bind.refuses guardedBy_name (apart_name (by decide)) hdone
  | custom =>
    have hvalue : Local false StopsAction (optional assigned) (optional assigned) :=
      (local_optional local_assigned).mono fun _ h => ⟨trivial, h.assigned⟩
    have hparams : Local false (Refuses params) (optional params) (optional params) :=
      (local_optional local_params).mono fun _ h => ⟨trivial, h⟩
    have hname : Local true Anyhow (after blanks (commit ident)) (after blanks (commit ident)) :=
      local_blanks (local_commit local_ident)
    refine (local_seq hname fun name => local_bind hparams
      (fun params => local_bind_give hvalue) ?_).weaken
    intro params text a rest hdone hrest
    obtain ⟨value, mid, hvalue, hgive⟩ := bind_eq_done.mp hdone
    obtain ⟨_, rfl⟩ := give_eq_done.mp hgive
    rcases optional_eq_done.mp hvalue with ⟨e, he, _⟩ | ⟨_, _, rfl⟩
    · exact refuses_params (beginsBy_assigned.head_ne (by decide) he)
    · exact hrest.params
  | unknown =>
    rintro text a rest ⟨⟩

theorem local_action : Local true StopsAction action action := by
  unfold action
  exact local_blanks (local_seq (local_label local_ident) fun word => (actionShape word).local)

end Actions

section Notes

theorem local_noteReader : Local true F noteReader noteReader := by
  have hpriority : Local true F (after (keyword "priority") (after blanks int32))
      (after (keyword "priority") (after blanks int32)) :=
    local_after (local_keyword (by decide)) (local_blanks local_int32)
  have hdebounce : Local true F (after (keyword "debounce") (after blanks uint64))
      (after (keyword "debounce") (after blanks uint64)) :=
    local_after (local_keyword (by decide)) (local_blanks local_uint64)
  have hdisabled : Local true F (keyword "disabled") (keyword "disabled") :=
    local_keyword (by decide)
  intro text note rest hdone
  rcases noteReader_eq_done.mp hdone with ⟨n, hread, rfl⟩ | ⟨millis, hread, rfl⟩ | ⟨u, hread, rfl⟩
  · exact hpriority.within hread fun _ _ h => noteReader_eq_done.mpr (.inl ⟨n, h, rfl⟩)
  · exact hdebounce.within hread fun _ _ h =>
      noteReader_eq_done.mpr (.inr (.inl ⟨millis, h, rfl⟩))
  · exact hdisabled.within hread fun _ _ h => noteReader_eq_done.mpr (.inr (.inr ⟨u, h, rfl⟩))

theorem ruleNote_eq : ruleNote =
    after blanks (between (opening '(') (closing ')') (label .ruleNote (commit noteReader))) := rfl

theorem local_ruleNote : Local true F ruleNote ruleNote := by
  have hnote : Local true Anyhow (label .ruleNote (commit noteReader))
      (label .ruleNote (commit noteReader)) := local_label (local_commit local_noteReader)
  rw [ruleNote_eq]
  exact local_blanks (local_between (by decide) hnote (local_closing (by decide))
    fun _ _ _ => trivial)

theorem beginsBy_ruleNote : BeginsBy (· == '(') ruleNote := by
  rw [ruleNote_eq]
  exact guardedBy_between.startsWith.blanks

end Notes

section Rules

/-- Nothing follows that a rule would go on with. -/
structure StopsRule (rest : List Char) : Prop extends StopsAction rest where
  comma : Refuses comma rest

theorem after_comma (p : Reader α) : after comma p = after blanks (after (char ',') p) := by
  funext text
  unfold after comma
  simp only [bind_eq, Reader.bind, blanks]
  cases char ',' (dropBlanks text) <;> rfl

theorem beginsBy_comma {p : Reader α} : BeginsBy (· == ',') (after comma p) := by
  rw [after_comma]
  exact (guardedBy_bind guardedBy_char).startsWith.blanks

/-- An action stops before a mark that neither a name nor one of its parts begins with. -/
theorem stopsAction_of_head {text : List Char} (hname : Refuses name (dropBlanks text))
    (hparen : (dropBlanks text).head? ≠ some '(') (hequals : (dropBlanks text).head? ≠ some '=') :
    StopsAction text :=
  ⟨refuses_after_blanks hname, refuses_params hparen, refuses_assigned hequals⟩

theorem stopsAction_of_comma {p : Reader α} {text rest : List Char} {v : α}
    (h : after comma p text = .done v rest) : StopsAction text :=
  ⟨beginsBy_comma.refuses guardedBy_name (apart_name (by decide)) h,
    refuses_params (beginsBy_comma.head_ne (by decide) h),
    refuses_assigned (beginsBy_comma.head_ne (by decide) h)⟩

theorem local_actions :
    Local true StopsRule (separated1 comma action) (separated1 comma action) := by
  have hitem : Local true StopsAction (after comma action) (after comma action) := by
    rw [after_comma]
    exact local_blanks (local_after (local_char (by decide)) local_action)
  have hothers : Local false StopsRule (many (after comma action)) (many (after comma action)) :=
    (local_many hitem fun _ _ _ => stopsAction_of_comma).mono fun _ h =>
      ⟨h.toStopsAction, refuses_bind.mpr (.inl h.comma)⟩
  refine local_bind local_action (fun first => local_map hothers)
    fun first text actions rest hdone hrest => ?_
  obtain ⟨others, hmany, _⟩ := map_eq_done.mp hdone
  rcases many_eq_done.mp hmany with ⟨_, _, rfl⟩ | ⟨next, _, _, hnext, _⟩
  · exact hrest.toStopsAction
  · exact stopsAction_of_comma hnext

theorem local_condition : Local true (fun more => Refuses (connectiveWord "AND" "and") more ∧
    Refuses (connectiveWord "OR" "or") more) condition condition :=
  local_conditionWith local_unary

/-- The word before the actions of a rule. -/
def thenWord : Reader Unit := label (.keyword "then") (after blanks (commit (keyword "then")))

theorem local_thenWord : Local true F thenWord thenWord :=
  local_label (local_blanks (local_commit (local_keyword (by decide))))

theorem beginsBy_thenWord : BeginsBy (· == 't') thenWord :=
  (guardedBy_keyword rfl).startsWith.commit.blanks.label

/-- No connective is read where the actions of a rule begin. -/
theorem refuses_connectives_of_then {text rest : List Char} {f : Unit → Reader α} {v : α}
    (h : Reader.bind thenWord f text = .done v rest) :
    Refuses (connectiveWord "AND" "and") text ∧ Refuses (connectiveWord "OR" "or") text := by
  obtain ⟨c, hhead, hc⟩ := beginsBy_thenWord.bind text v rest h
  have hword : ∀ d ∈ (dropBlanks text).head?, d = 't' := by
    intro d hd
    rw [hhead] at hd
    cases hd
    exact beq_iff_eq.mp hc
  constructor
  · refine refuses_connectiveWord_of_head rfl rfl fun d hd => ?_
    rw [hword d hd]
    decide
  · refine refuses_connectiveWord_of_head rfl rfl fun d hd => ?_
    rw [hword d hd]
    decide

theorem ruleBody_eq (finish : Condition → List Action → Rule) :
    ruleBody finish = after blanks (after (commit (char ':')) (after blanks
      (after (label (.keyword "when") (commit (keyword "when")))
        (Reader.bind (commit condition) fun condition => after thenWord
          (Reader.bind (commit (separated1 comma action)) fun actions =>
            give (finish condition actions)))))) := rfl

theorem local_ruleBody (finish : Condition → List Action → Rule) :
    Local true StopsRule (ruleBody finish) (ruleBody finish) := by
  have hwhen : Local true Anyhow (label (.keyword "when") (commit (keyword "when")))
      (label (.keyword "when") (commit (keyword "when"))) :=
    local_label (local_commit (local_keyword (by decide)))
  have hthen : ∀ condition, Local true StopsRule
      (after thenWord (Reader.bind (commit (separated1 comma action)) fun actions =>
        give (finish condition actions)))
      (after thenWord (Reader.bind (commit (separated1 comma action)) fun actions =>
        give (finish condition actions))) := fun condition =>
    local_after local_thenWord (local_bind_give (local_commit local_actions))
  rw [ruleBody_eq]
  refine local_blanks (local_after (local_commit (local_char (by decide)))
    (local_blanks (local_after hwhen (local_bind (local_commit local_condition) hthen ?_))))
  exact fun _ _ _ _ hdone _ => refuses_connectives_of_then hdone

theorem beginsBy_ruleBody (finish : Condition → List Action → Rule) :
    BeginsBy (· == ':') (ruleBody finish) := by
  rw [ruleBody_eq]
  exact guardedBy_char.startsWith.commit.bind.blanks

theorem subjectReader_eq : subjectReader =
    after blanks (after (keyword "on") (after blanks (commit name))) := by
  funext text
  unfold subjectReader after onWord
  simp only [bind_eq, Reader.bind, blanks]
  cases keyword "on" (dropBlanks text) <;> rfl

theorem local_subjectReader : Local true F subjectReader subjectReader := by
  rw [subjectReader_eq]
  exact local_blanks (local_after (local_keyword (by decide))
    (local_blanks (local_commit local_name)))

theorem guardedBy_on : GuardedBy (· == 'o') (after (keyword "on") (after blanks (commit name))) :=
  guardedBy_bind (guardedBy_keyword rfl)

theorem beginsBy_subjectReader : BeginsBy (· == 'o') subjectReader := by
  rw [subjectReader_eq]
  exact guardedBy_on.startsWith.blanks

theorem local_titleReader : Local true F titleReader titleReader :=
  local_blanks local_quotedString

/-- The notes and the body of a rule. -/
def notedBody (finish : List RuleNote → Condition → List Action → Rule) : Reader Rule :=
  Reader.bind (many ruleNote) fun notes => ruleBody (finish notes)

theorem beginsBy_notedBody (finish : List RuleNote → Condition → List Action → Rule) :
    BeginsBy (fun c => c == '(' || c == ':') (notedBody finish) :=
  beginsBy_many (beginsBy_ruleNote.mono fun _ h => by simp [h]) fun notes =>
    (beginsBy_ruleBody (finish notes)).mono fun _ h => by simp [h]

theorem local_notedBody (finish : List RuleNote → Condition → List Action → Rule) :
    Local true StopsRule (notedBody finish) (notedBody finish) := by
  have hnotes : Local false (Refuses ruleNote) (many ruleNote) (many ruleNote) :=
    (local_many local_ruleNote fun _ _ _ _ => trivial).mono fun _ h => ⟨trivial, h⟩
  refine local_bind hnotes (fun notes => local_ruleBody (finish notes))
    fun notes text r rest hdone _ => ?_
  exact refuses_ruleNote ((beginsBy_ruleBody _).head_ne (by decide) hdone)

/-- The subject, the notes and the body of a rule. -/
def subjectBody (finish : Option String → List RuleNote → Condition → List Action → Rule) :
    Reader Rule :=
  Reader.bind (optional subjectReader) fun subject => notedBody (finish subject)

theorem beginsBy_subjectBody
    (finish : Option String → List RuleNote → Condition → List Action → Rule) :
    BeginsBy (fun c => c == 'o' || (c == '(' || c == ':')) (subjectBody finish) :=
  beginsBy_optional (beginsBy_subjectReader.mono fun _ h => by simp [h]) fun subject =>
    (beginsBy_notedBody (finish subject)).mono fun _ h => by simp [h]

theorem local_subjectBody
    (finish : Option String → List RuleNote → Condition → List Action → Rule) :
    Local true StopsRule (subjectBody finish) (subjectBody finish) := by
  have hsubject : Local false (Refuses subjectReader) (optional subjectReader)
      (optional subjectReader) :=
    (local_optional local_subjectReader).mono fun _ h => ⟨trivial, h⟩
  refine local_bind hsubject (fun subject => local_notedBody (finish subject))
    fun subject text r rest hdone _ => ?_
  rw [subjectReader_eq]
  exact (beginsBy_notedBody _).refuses guardedBy_on (apart_of_eq_false (by decide)) hdone

theorem local_ruleAfter : Local true StopsRule ruleAfter ruleAfter := by
  have htitle : Local false (Refuses titleReader) (optional titleReader) (optional titleReader) :=
    (local_optional local_titleReader).mono fun _ h => ⟨trivial, h⟩
  have hdef : ruleAfter = Reader.bind (label .ruleId (commit name)) fun id =>
      Reader.bind (optional titleReader) fun title =>
        subjectBody fun subject notes condition actions => notes.foldl RuleNote.apply
          { id := some id, title, subject, condition, actions } := rfl
  rw [hdef]
  refine local_seq (local_label (local_commit local_name)) fun id =>
    local_bind htitle (fun title => local_subjectBody _) fun title text r rest hdone _ => ?_
  exact (beginsBy_subjectBody _).refuses guardedBy_quotedString (apart_of_eq_false (by decide))
    hdone

theorem rule_eq_after : rule = after blanks (after (keyword "rule") (after blanks ruleAfter)) := rfl

/-- A rule is read the same whatever follows it, unless it would go on with that. -/
theorem local_rule : Local true StopsRule rule rule := by
  rw [rule_eq_after]
  exact local_blanks (local_after (local_keyword (by decide)) (local_blanks local_ruleAfter))

end Rules

end FormRules.RuleText
