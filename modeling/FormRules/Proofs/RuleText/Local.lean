import FormRules.Proofs.RuleText.Choice

/-!
Readers read the same wherever a text goes on differently behind what they take up
(`Local`). They do look at the first character that they leave, since it may belong to the
word or the number before it; so what comes there instead either begins with the same
character or ends a word (`Follows`). A reader that may take up less or more where something
else follows says so by a condition on what follows.
-/

namespace FormRules.RuleText

open Reader

variable {α β γ : Type}

section Gaps

/-- Blanks and comments that are dropped whatever comes after them. -/
def Skipped (gap : List Char) : Prop := ∀ more, dropBlanks (gap ++ more) = dropBlanks more

theorem skipped_of_blank {gap : List Char} (h : gap.all isBlank = true) : Skipped gap :=
  fun _ => dropBlanks_append h

theorem Skipped.append {gap other : List Char} (h : Skipped gap) (hother : Skipped other) :
    Skipped (gap ++ other) := by
  intro more
  rw [List.append_assoc, h, hother]

/-- What is left behind a comment begins with the end of its line, and replacing what comes
after that leaves the comment as it is. -/
theorem afterComment?_append {text tail : List Char} (h : afterComment? text = some tail) :
    tail = [] ∨ ∃ comment line more, text = comment ++ tail ∧ tail = line ++ more ∧
      line.all isBlank = true ∧
      ∀ other, afterComment? (comment ++ (line ++ other)) = some (line ++ other) := by
  obtain ⟨words, rfl, hwords, htail⟩ := afterComment?_eq_some.mp h
  rcases htail with rfl | ⟨more, rfl⟩ | ⟨more, rfl⟩
  · exact .inl rfl
  · refine .inr ⟨words, ['\n'], more, rfl, rfl, by decide, fun other => ?_⟩
    exact afterComment?_eq_some.mpr ⟨words, rfl, hwords, .inr (.inl ⟨other, rfl⟩)⟩
  · refine .inr ⟨words, ['\r', '\n'], more, rfl, rfl, by decide, fun other => ?_⟩
    exact afterComment?_eq_some.mpr ⟨words, rfl, hwords, .inr (.inr ⟨other, rfl⟩)⟩

theorem skipped_comment {comment line : List Char} (hline : line.all isBlank = true)
    (h : ∀ other, afterComment? (comment ++ (line ++ other)) = some (line ++ other)) :
    Skipped ('#' :: (comment ++ line)) := by
  intro more
  rw [List.cons_append, List.append_assoc, dropBlanks_comment (h more), dropBlanks_append hline]

/-- What is dropped before a token is dropped whatever comes after it. -/
theorem exists_skipped {text rest : List Char} {c : Char} (h : dropBlanks text = c :: rest)
    (hhash : c ≠ '#') : ∃ gap, text = gap ++ c :: rest ∧ Skipped gap := by
  induction hlen : text.length using Nat.strongRecOn generalizing text with
  | ind n ih =>
    have hnil : text ≠ [] := by
      rintro rfl
      rw [dropBlanks_nil] at h
      cases h
    obtain ⟨d, tail, rfl⟩ := List.exists_cons_of_ne_nil hnil
    rw [List.length_cons] at hlen
    by_cases hblank : isBlank d = true
    · rw [dropBlanks_blank hblank] at h
      obtain ⟨gap, rfl, hgap⟩ := ih tail.length (by omega) h rfl
      have hd : Skipped [d] := skipped_of_blank (by simpa using hblank)
      exact ⟨d :: gap, rfl, hd.append hgap⟩
    · by_cases hd : d = '#'
      · subst hd
        cases hcomment : afterComment? tail with
        | none =>
          rw [dropBlanks_no_comment hcomment] at h
          cases h
          exact absurd rfl hhash
        | some left =>
          rw [dropBlanks_comment hcomment] at h
          rcases afterComment?_append hcomment with
            rfl | ⟨comment, line, more, rfl, rfl, hline, hother⟩
          · rw [dropBlanks_nil] at h
            cases h
          · rw [dropBlanks_append hline] at h
            simp only [List.length_append] at hlen
            obtain ⟨gap, rfl, hgap⟩ := ih more.length (by omega) h rfl
            refine ⟨'#' :: (comment ++ line) ++ gap, by simp, ?_⟩
            exact (skipped_comment hline hother).append hgap
      · rw [dropBlanks_cons (isTokenStart_iff.mpr ⟨Bool.eq_false_iff.mpr hblank, hd⟩)] at h
        exact ⟨[], h, fun _ => rfl⟩

end Gaps

section Extents

/-- What comes next may be replaced: the new text ends a word, or begins like the old one and
not with the point that a number might go on with. -/
def Follows (rest more : List Char) : Prop :=
  EndsWord more ∨ ∃ c, c ≠ '.' ∧ rest.head? = some c ∧ more.head? = some c

/-- A character that a part may begin with: it begins a token, and no number goes on with
it. -/
def isPartStart (c : Char) : Bool := isTokenStart c && c != '.'

theorem isPartStart_iff {c : Char} :
    isPartStart c = true ↔ isTokenStart c = true ∧ c ≠ '.' := by
  simp [isPartStart]

/-- Something is taken up: blanks and comments, if any, and a part. -/
def TakesUp (used : List Char) : Prop :=
  ∃ gap c tail, used = gap ++ c :: tail ∧ Skipped gap ∧ isPartStart c = true

variable {used other rest more : List Char}

theorem TakesUp.append (h : TakesUp used) (other : List Char) : TakesUp (used ++ other) := by
  obtain ⟨gap, c, tail, rfl, hgap, hc⟩ := h
  exact ⟨gap, c, tail ++ other, by simp, hgap, hc⟩

theorem TakesUp.ne_nil (h : TakesUp used) : used ≠ [] := by
  obtain ⟨gap, c, tail, rfl, _⟩ := h
  simp

/-- The first character of a part in front stays the same. -/
theorem TakesUp.follows (h : TakesUp used) (rest more : List Char) :
    Follows (used ++ rest) (used ++ more) := by
  obtain ⟨gap, c, tail, rfl, hgap, hc⟩ := h
  cases gap with
  | nil => exact .inr ⟨c, (isPartStart_iff.mp hc).2, rfl, rfl⟩
  | cons d gap =>
    refine .inr ⟨d, ?_, rfl, rfl⟩
    rintro rfl
    have hdrop := hgap []
    rw [List.append_nil, dropBlanks_nil, dropBlanks_cons (by decide)] at hdrop
    cases hdrop

theorem takesUp_cons {c : Char} {tail : List Char} (h : isPartStart c = true) :
    TakesUp (c :: tail) :=
  ⟨[], c, tail, rfl, fun _ => rfl, h⟩

theorem isPartStart_of_isIdentChar {c : Char} (h : isIdentChar c = true) (hpoint : c ≠ '.') :
    isPartStart c = true := by
  have hstart : isTokenStart c = true :=
    isTokenStart_iff.mpr ⟨not_isBlank_of_isIdentChar h, ne_of_apart h (by decide)⟩
  exact isPartStart_iff.mpr ⟨hstart, hpoint⟩

theorem takesUp_of_isIdentChar {c : Char} {tail : List Char} (h : isIdentChar c = true)
    (hpoint : c ≠ '.') : TakesUp (c :: tail) :=
  takesUp_cons (isPartStart_of_isIdentChar h hpoint)

/-- Where a run of word characters stopped, it stops again. -/
theorem Follows.stops {accept : Char → Bool} (h : Follows rest more)
    (haccept : ∀ c, accept c = true → isIdentChar c = true)
    (hrest : ∀ c ∈ rest.head?, accept c = false) : ∀ c ∈ more.head?, accept c = false := by
  intro c hc
  rcases h with hends | ⟨d, _, hold, hnew⟩
  · cases hchar : accept c with
    | false => rfl
    | true => exact absurd (haccept c hchar) (by simp [hends c hc])
  · rw [hnew] at hc
    cases hc
    exact hrest _ hold

/-- Something is taken up, or nothing where that is allowed. -/
def Extent (moves : Bool) (used : List Char) : Prop := TakesUp used ∨ moves = false ∧ used = []

theorem Extent.append {first second : Bool} (h : Extent first used)
    (hother : Extent second other) : Extent (first || second) (used ++ other) := by
  rcases h with h | ⟨rfl, rfl⟩
  · exact .inl (h.append other)
  · simpa using hother

theorem Extent.takesUp (h : Extent true used) : TakesUp used :=
  h.resolve_right fun hnone => Bool.noConfusion hnone.1

theorem Extent.follows {moves : Bool} (h : Extent moves used) (hfollows : Follows rest more) :
    Follows (used ++ rest) (used ++ more) := by
  rcases h with h | ⟨_, rfl⟩
  · exact h.follows rest more
  · exact hfollows

/-- Whatever the first reader reads the second one reads too where the text goes on
differently, provided the condition holds of how it goes on. -/
def Local (moves : Bool) (F : List Char → Prop) (p q : Reader α) : Prop :=
  Ensures (fun text v rest => ∃ used, text = used ++ rest ∧ Extent moves used ∧
    ∀ more, Follows rest more → F more → q (used ++ more) = .done v more) p

/-- No condition on how a text goes on. -/
def Anyhow (_ : List Char) : Prop := True

end Extents

section Combinators

variable {F G : List Char → Prop} {p q : Reader α} {moves : Bool}

theorem Local.mono (h : Local moves F p q) (himp : ∀ more, G more → F more) :
    Local moves G p q := by
  intro text v rest hdone
  obtain ⟨used, htext, hused, hmore⟩ := h text v rest hdone
  exact ⟨used, htext, hused, fun more hfollows hG => hmore more hfollows (himp more hG)⟩

theorem Local.anyhow (h : Local moves Anyhow p q) : Local moves F p q := h.mono fun _ _ => trivial

theorem Local.weaken (h : Local true F p q) : Local moves F p q := by
  intro text v rest hdone
  obtain ⟨used, htext, hused, hmore⟩ := h text v rest hdone
  exact ⟨used, htext, .inl hused.takesUp, hmore⟩

theorem Local.consumes (h : Local true F p q) : Consumes p := by
  intro text v rest hdone
  obtain ⟨used, rfl, hused, _⟩ := h text v rest hdone
  have hpos := List.length_pos_iff.mpr hused.takesUp.ne_nil
  rw [List.length_append]
  omega

theorem local_give {v : α} : Local false F (give v) (give v) := by
  intro text w rest hdone
  obtain ⟨rfl, rfl⟩ := give_eq_done.mp hdone
  exact ⟨[], rfl, .inr ⟨rfl, rfl⟩, fun _ _ _ => rfl⟩

/-- What the second reader leaves must not be what the first one would go on with. -/
theorem local_bind {second : Bool} {f g : α → Reader β} (hp : Local moves F p q)
    (hf : ∀ v, Local second G (f v) (g v))
    (hstop : ∀ v text w rest, g v text = .done w rest → G rest → F text) :
    Local (moves || second) G (Reader.bind p f) (Reader.bind q g) := by
  intro text w rest hdone
  obtain ⟨v, mid, hv, hw⟩ := bind_eq_done.mp hdone
  obtain ⟨used, rfl, hused, hmore⟩ := hp text v mid hv
  obtain ⟨other, rfl, hother, hmore'⟩ := hf v mid w rest hw
  refine ⟨used ++ other, (List.append_assoc _ _ _).symm, hused.append hother, ?_⟩
  intro more hfollows hG
  have hnext := hmore' more hfollows hG
  rw [List.append_assoc,
    bind_of_done (hmore _ (hother.follows hfollows) (hstop v _ w more hnext hG)), hnext]

/-- A part that is read locally, within a reader that reads it. -/
theorem Local.within {r : Reader β} {text rest : List Char} {v : α} {w : β}
    (h : Local moves F p q) (hdone : p text = .done v rest)
    (hr : ∀ text rest, q text = .done v rest → r text = .done w rest) :
    ∃ used, text = used ++ rest ∧ Extent moves used ∧
      ∀ more, Follows rest more → F more → r (used ++ more) = .done w more := by
  obtain ⟨used, htext, hused, hmore⟩ := h text v rest hdone
  exact ⟨used, htext, hused, fun more hfollows hF => hr _ more (hmore more hfollows hF)⟩

theorem local_map {f : α → β} (h : Local moves F p q) : Local moves F (map f p) (map f q) := by
  intro text w rest hdone
  obtain ⟨v, hv, rfl⟩ := map_eq_done.mp hdone
  exact h.within hv fun _ _ => map_of_done

theorem local_bind_give {f : α → β} (h : Local moves F p q) :
    Local moves F (Reader.bind p fun v => give (f v)) (Reader.bind q fun v => give (f v)) :=
  local_map h

theorem local_commit (h : Local moves F p q) : Local moves F (commit p) (commit q) := by
  intro text v rest hdone
  exact h.within (commit_eq_done.mp hdone) fun _ _ => commit_eq_done.mpr

theorem local_label {l : Label} (h : Local moves F p q) :
    Local moves F (label l p) (label l q) := by
  intro text v rest hdone
  exact h.within (label_eq_done.mp hdone) fun _ _ => label_eq_done.mpr

theorem local_refine {f : α → Except (Option EvalError) β} (h : Local moves F p q) :
    Local moves F (refine f p) (refine f q) := by
  intro text w rest hdone
  obtain ⟨v, hv, hw⟩ := refine_eq_done.mp hdone
  exact h.within hv fun _ _ h => refine_eq_done.mpr ⟨v, h, hw⟩

theorem local_seq {second : Bool} {f g : α → Reader β} (hp : Local moves Anyhow p q)
    (hf : ∀ v, Local second F (f v) (g v)) :
    Local (moves || second) F (Reader.bind p f) (Reader.bind q g) :=
  local_bind hp hf fun _ _ _ _ _ _ => trivial

theorem local_after {second : Bool} {f g : Reader β} (hp : Local moves Anyhow p q)
    (hf : Local second F f g) : Local (moves || second) F (after p f) (after q g) :=
  local_seq hp fun _ => hf

theorem local_orElse {p' q' : Reader α} {accept other : Char → Bool} (hp : Local moves F p q)
    (hp' : Local moves F p' q') (hq : GuardedBy accept q) (hq' : GuardedBy other q')
    (hapart : ∀ c, other c = true → accept c = false) :
    Local moves F (orElse p p') (orElse q q') := by
  intro text v rest hdone
  rcases orElse_eq_done.mp hdone with h | ⟨_, h⟩
  · exact hp.within h fun _ _ h => orElse_of_done h
  · exact hp'.within h fun _ _ h => (orElse_eq_done_of_guards hq hq' hapart).mpr (.inr h)

/-- Blanks before something that is taken up. -/
theorem local_blanks (h : Local true F p q) : Local true F (after blanks p) (after blanks q) := by
  intro text v rest hdone
  obtain ⟨used, hdrop, hused, hmore⟩ := h (dropBlanks text) v rest hdone
  obtain ⟨gap, c, tail, rfl, hgap, hc⟩ := hused.takesUp
  have htoken := (isPartStart_iff.mp hc).1
  have hstart : ∀ other, dropBlanks (gap ++ c :: tail ++ other) = c :: (tail ++ other) := by
    intro other
    rw [List.append_assoc, hgap]
    exact dropBlanks_cons htoken
  -- Nothing is dropped twice, so there is no gap behind the blanks.
  have hnil : gap = [] := by
    have hidem := dropBlanks_idem text
    rw [hdrop, hstart] at hidem
    have hlength := congrArg List.length hidem
    simp only [List.length_append, List.length_cons] at hlength
    exact List.length_eq_zero_iff.mp (by omega)
  subst hnil
  obtain ⟨skip, rfl, hskip⟩ := exists_skipped hdrop (isTokenStart_iff.mp htoken).2
  refine ⟨skip ++ c :: tail, by simp, .inl ⟨skip, c, tail, rfl, hskip, hc⟩, ?_⟩
  intro more hfollows hF
  have hdropped : dropBlanks (skip ++ c :: tail ++ more) = [] ++ c :: tail ++ more := by
    rw [List.append_assoc, hskip]
    exact hstart more
  exact (congrArg q hdropped).trans (hmore more hfollows hF)

/-- Something optional is missing where it cannot be read. -/
theorem local_optional (h : Local true F p q) :
    Local false (fun more => F more ∧ Refuses q more) (optional p) (optional q) := by
  intro text o rest hdone
  rcases optional_eq_done.mp hdone with ⟨v, hv, rfl⟩ | ⟨_, rfl, rfl⟩
  · obtain ⟨used, htext, hused, hmore⟩ := h text v rest hv
    exact ⟨used, htext, .inl hused.takesUp, fun more hfollows hF =>
      optional_of_done (hmore more hfollows hF.1)⟩
  · exact ⟨[], rfl, .inr ⟨rfl, rfl⟩, fun more _ hF => optional_of_refuses hF.2⟩

/-- A repetition goes on with what is read behind it. -/
theorem local_many_append (h : Local true F p q)
    (hnext : ∀ text v rest, q text = .done v rest → F text) {text mid : List Char} {vs : List α}
    (hdone : many p text = .done vs mid) :
    ∃ used, text = used ++ mid ∧ Extent false used ∧
      ∀ more ws rest, Follows mid more → F more → many q more = .done ws rest →
        many q (used ++ more) = .done (vs ++ ws) rest := by
  induction hlen : text.length using Nat.strongRecOn generalizing text vs with
  | ind n ih =>
    rcases many_eq_done.mp hdone with ⟨_, rfl, rfl⟩ | ⟨v, next, tail, hv, hlt, htail, rfl⟩
    · exact ⟨[], rfl, .inr ⟨rfl, rfl⟩, fun _ _ _ _ _ hmore => hmore⟩
    · obtain ⟨used, rfl, hused, hread⟩ := h text v next hv
      obtain ⟨other, rfl, hother, hothers⟩ := ih next.length (hlen ▸ hlt) htail rfl
      have htaken := hused.takesUp
      refine ⟨used ++ other, (List.append_assoc _ _ _).symm, .inl (htaken.append other), ?_⟩
      intro more ws rest hfollows hF hmore
      have hgoesOn := hothers more ws rest hfollows hF hmore
      have hstop : F (other ++ more) := by
        rcases many_eq_done.mp hgoesOn with ⟨_, hnil, _⟩ | ⟨w, _, _, hw, _⟩
        · -- Nothing is read at all, so the next value begins behind the first one.
          obtain ⟨rfl, rfl⟩ := List.append_eq_nil_iff.mp hnil
          rcases many_eq_done.mp htail with ⟨_, _, hmid⟩ | ⟨_, _, _, _, _, _, hcons⟩
          · rw [List.self_eq_append_left.mp hmid]
            exact hF
          · cases hcons
        · exact hnext _ w _ hw
      have hpos := List.length_pos_iff.mpr htaken.ne_nil
      rw [List.append_assoc]
      refine many_of_done (hread _ (hother.follows hfollows) hstop) ?_ hgoesOn
      simp only [List.length_append]
      omega

/-- A repetition stops where nothing more can be read. -/
theorem local_many (h : Local true F p q)
    (hnext : ∀ text v rest, q text = .done v rest → F text) :
    Local false (fun more => F more ∧ Refuses q more) (many p) (many q) := by
  intro text vs rest hdone
  obtain ⟨used, htext, hused, hmore⟩ := local_many_append h hnext hdone
  refine ⟨used, htext, hused, fun more hfollows hF => ?_⟩
  have hread := hmore more [] more hfollows hF.1 (many_of_refuses hF.2)
  rw [List.append_nil] at hread
  exact hread

/-- A list stops where neither an item nor a separator and an item can be read. -/
theorem local_separated {separator : Reader β} (h : Local true Anyhow p q)
    (hseparator : Local true Anyhow (after separator p) (after separator q)) :
    Local false (fun more => Refuses q more ∧ Refuses (after separator q) more)
      (separated separator p) (separated separator q) := by
  intro text vs rest hdone
  rcases separated_eq_done.mp hdone with ⟨_, rfl, rfl⟩ | ⟨v, mid, tail, hv, htail, rfl⟩
  · exact ⟨[], rfl, .inr ⟨rfl, rfl⟩, fun more _ hF =>
      separated_eq_done.mpr (.inl ⟨hF.1, rfl, rfl⟩)⟩
  · obtain ⟨used, rfl, hused, hmore⟩ := h text v mid hv
    obtain ⟨other, rfl, hother, hmore'⟩ :=
      local_many hseparator (fun _ _ _ _ => trivial) mid tail rest htail
    refine ⟨used ++ other, (List.append_assoc _ _ _).symm, .inl (hused.takesUp.append other), ?_⟩
    intro more hfollows hF
    rw [List.append_assoc]
    exact separated_eq_done.mpr (.inr ⟨v, _, tail, hmore _ (hother.follows hfollows) trivial,
      hmore' more hfollows ⟨trivial, hF.2⟩, rfl⟩)

end Combinators

end FormRules.RuleText
