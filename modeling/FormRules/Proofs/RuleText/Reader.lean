import FormRules.RuleText.Reader

/-!
The outcomes of composed readers. For every way of composing readers there is one lemma
that says when the result reads a text and, where that is needed to try something else,
one that says when it refuses a text. A reader that may fail for good is not said to
refuse.
-/

namespace FormRules.RuleText

/-- Two outcomes are the same when their values and their rests are. -/
theorem Reply.done_eq_done {α : Type} {v w : α} {rest other : List Char} :
    Reply.done v rest = .done w other ↔ w = v ∧ other = rest := by
  rw [Reply.done.injEq, eq_comm, @eq_comm _ rest]

namespace Reader

variable {α β γ : Type}

/-- Fails softly, so that something else may be tried. -/
def Refuses (p : Reader α) (text : List Char) : Prop :=
  ∃ failure, p text = .failed failure ∧ failure.isFinal = false

theorem bind_eq (p : Reader α) (f : α → Reader β) : (p >>= f) = bind p f := rfl

theorem pure_eq (v : α) : (pure v : Reader α) = give v := rfl

section Outcome

variable {p : Reader α} {q : Reader α} {f : α → Reader β} {text rest : List Char}
  {v : α} {w : β}

theorem Refuses.ne_done (h : Refuses p text) : p text ≠ .done v rest := by
  obtain ⟨failure, hp, _⟩ := h
  simp [hp]

theorem refuses_congr {q : Reader α} {other : List Char} (h : p text = q other) :
    Refuses p text ↔ Refuses q other := by
  rw [Refuses, Refuses, h]

theorem give_eq_done {u : α} : give v text = .done u rest ↔ u = v ∧ rest = text := by
  rw [give, Reply.done_eq_done]

theorem bind_eq_done :
    bind p f text = .done w rest ↔ ∃ v mid, p text = .done v mid ∧ f v mid = .done w rest := by
  unfold bind
  cases p text with
  | done v mid => simp [and_assoc]
  | failed => simp

theorem bind_of_done {mid : List Char} (h : p text = .done v mid) :
    bind p f text = f v mid := by
  simp [bind, h]

theorem bind_of_eq {other : List Char} (h : p text = p other) :
    bind p f text = bind p f other := by
  simp only [bind, h]

theorem refuses_bind :
    Refuses (bind p f) text ↔
      Refuses p text ∨ ∃ v mid, p text = .done v mid ∧ Refuses (f v) mid := by
  unfold Refuses bind
  cases p text with
  | done v mid => simp [and_assoc]
  | failed => simp

theorem map_eq_done {g : α → β} :
    map g p text = .done w rest ↔ ∃ v, p text = .done v rest ∧ g v = w := by
  unfold map
  cases p text with
  | done v mid =>
    constructor
    · rintro ⟨⟩
      exact ⟨v, rfl, rfl⟩
    · rintro ⟨_, ⟨⟩, rfl⟩
      rfl
  | failed => simp

theorem map_of_done {g : α → β} (h : p text = .done v rest) :
    map g p text = .done (g v) rest := by
  simp [map, h]

theorem refuses_map {g : α → β} : Refuses (map g p) text ↔ Refuses p text := by
  unfold Refuses map
  cases p text <;> simp

theorem satisfy_eq_done {accept : Char → Bool} {c : Char} :
    satisfy accept text = .done c rest ↔ text = c :: rest ∧ accept c = true := by
  cases text with
  | nil => simp [satisfy]
  | cons head tail =>
    simp only [satisfy]
    split <;> simp_all
    · intro h _
      exact h ▸ ‹_›
    · rintro rfl _
      assumption

theorem refuses_satisfy {accept : Char → Bool} :
    Refuses (satisfy accept) text ↔ ∀ c ∈ text.head?, accept c = false := by
  cases text with
  | nil => simp [Refuses, satisfy]
  | cons head tail => cases h : accept head <;> simp [Refuses, satisfy, h]

theorem char_eq_done {c d : Char} : char c text = .done d rest ↔ text = c :: rest ∧ d = c := by
  rw [char, satisfy_eq_done]
  constructor
  · rintro ⟨rfl, h⟩
    have hd : d = c := by simpa using h
    exact ⟨by rw [hd], hd⟩
  · rintro ⟨rfl, rfl⟩
    simp

theorem char_cons (c : Char) (rest : List Char) : char c (c :: rest) = .done c rest :=
  char_eq_done.mpr ⟨rfl, rfl⟩

theorem refuses_char {c : Char} : Refuses (char c) text ↔ text.head? ≠ some c := by
  rw [char, refuses_satisfy]
  cases text <;> simp

theorem exactly_eq_done {word : List Char} {u : Unit} :
    exactly word text = .done u rest ↔ text = word ++ rest := by
  unfold exactly
  split
  · rename_i h
    obtain ⟨tail, rfl⟩ := List.isPrefixOf_iff_prefix.mp h
    simp
  · rename_i h
    constructor
    · simp
    · rintro rfl
      exact absurd (List.isPrefixOf_iff_prefix.mpr (List.prefix_append _ _)) h

theorem refuses_exactly {word : List Char} :
    Refuses (exactly word) text ↔ ¬word <+: text := by
  unfold Refuses exactly
  rw [← List.isPrefixOf_iff_prefix]
  split <;> simp_all

theorem run1_eq_done {accept : Char → Bool} {taken : List Char} :
    run1 accept text = .done taken rest ↔
      taken ≠ [] ∧ text.takeWhile accept = taken ∧ text.dropWhile accept = rest := by
  unfold run1
  cases h : text.takeWhile accept with
  | nil => simp +contextual [eq_comm]
  | cons c tail =>
    constructor
    · rintro ⟨⟩
      simp
    · rintro ⟨_, rfl, rfl⟩
      rfl

theorem refuses_run1 {accept : Char → Bool} :
    Refuses (run1 accept) text ↔ ∀ c ∈ text.head?, accept c = false := by
  unfold Refuses run1
  cases text with
  | nil => simp
  | cons head tail => cases h : accept head <;> simp [h]

theorem orElse_eq_done :
    orElse p q text = .done v rest ↔
      p text = .done v rest ∨ Refuses p text ∧ q text = .done v rest := by
  unfold Refuses orElse
  cases p text with
  | done => simp
  | failed failure => cases h : failure.isFinal <;> simp [h]

theorem orElse_of_done (h : p text = .done v rest) : orElse p q text = .done v rest :=
  orElse_eq_done.mpr (.inl h)

theorem orElse_of_refuses (h : Refuses p text) : orElse p q text = q text := by
  obtain ⟨failure, hp, hsoft⟩ := h
  simp [orElse, hp, hsoft]

theorem refuses_orElse : Refuses (orElse p q) text ↔ Refuses p text ∧ Refuses q text := by
  unfold Refuses orElse
  cases p text with
  | done => simp
  | failed failure => cases h : failure.isFinal <;> simp [h]

theorem optional_eq_done {o : Option α} :
    optional p text = .done o rest ↔
      (∃ v, p text = .done v rest ∧ o = some v) ∨ Refuses p text ∧ o = none ∧ rest = text := by
  unfold Refuses optional
  cases p text with
  | done v mid =>
    constructor
    · rintro ⟨⟩
      exact .inl ⟨v, rfl, rfl⟩
    · rintro (⟨_, ⟨⟩, rfl⟩ | ⟨⟨_, ⟨⟩, _⟩, _⟩)
      rfl
  | failed failure =>
    cases h : failure.isFinal with
    | false => simpa [h] using Reply.done_eq_done
    | true => simp [h]

theorem optional_of_done (h : p text = .done v rest) :
    optional p text = .done (some v) rest :=
  optional_eq_done.mpr (.inl ⟨v, h, rfl⟩)

theorem optional_of_refuses (h : Refuses p text) : optional p text = .done none text :=
  optional_eq_done.mpr (.inr ⟨h, rfl, rfl⟩)

theorem notFollowedBy_eq_done {u : Unit} :
    notFollowedBy p text = .done u rest ↔ Refuses p text ∧ rest = text := by
  unfold Refuses notFollowedBy
  cases p text with
  | done => simp
  | failed failure =>
    cases h : failure.isFinal with
    | false => simp [h, Reply.done.injEq, @eq_comm _ rest]
    | true => simp [h]

theorem commit_eq_done : commit p text = .done v rest ↔ p text = .done v rest := by
  unfold commit
  cases p text <;> simp

theorem label_eq_done {l : Label} : label l p text = .done v rest ↔ p text = .done v rest := by
  unfold label
  cases p text <;> simp

theorem refuses_label {l : Label} : Refuses (label l p) text ↔ Refuses p text := by
  unfold Refuses label
  cases p text <;> simp

theorem refine_eq_done {g : α → Except (Option EvalError) β} :
    refine g p text = .done w rest ↔ ∃ v, p text = .done v rest ∧ g v = .ok w := by
  unfold refine
  cases p text with
  | done v tail =>
    cases h : g v with
    | ok result =>
      simp only [h]
      constructor
      · rintro ⟨⟩
        exact ⟨v, rfl, h⟩
      · rintro ⟨_, ⟨⟩, hw⟩
        rw [h] at hw
        cases hw
        rfl
    | error cause => simp_all
  | failed => simp

theorem refuses_refine {g : α → Except (Option EvalError) β} :
    Refuses (refine g p) text ↔
      Refuses p text ∨ ∃ v mid cause, p text = .done v mid ∧ g v = .error cause := by
  unfold Refuses refine
  cases p text with
  | done v tail => cases h : g v <;> simp [h]
  | failed => simp

theorem check_eq_done {accept : α → Bool} :
    check accept p text = .done v rest ↔ p text = .done v rest ∧ accept v = true := by
  rw [check, refine_eq_done]
  constructor
  · rintro ⟨w, hp, hw⟩
    split at hw <;> simp_all
  · rintro ⟨hp, hv⟩
    exact ⟨v, hp, by simp [hv]⟩

theorem refuses_check {accept : α → Bool} :
    Refuses (check accept p) text ↔
      Refuses p text ∨ ∃ v mid, p text = .done v mid ∧ accept v = false := by
  rw [check, refuses_refine]
  refine or_congr_right (exists_congr fun v => exists_congr fun mid => ?_)
  cases accept v <;> simp

end Outcome

section Repetition

variable {p : Reader α} {text rest mid : List Char} {v : α} {vs : List α}

theorem many_eq_done :
    many p text = .done vs rest ↔
      Refuses p text ∧ vs = [] ∧ rest = text ∨
        ∃ v mid tail, p text = .done v mid ∧ mid.length < text.length ∧
          many p mid = .done tail rest ∧ vs = v :: tail := by
  rw [many]
  unfold Refuses
  cases p text with
  | failed failure =>
    cases h : failure.isFinal with
    | false => simpa [h] using fun _ => eq_comm
    | true => simp [h]
  | done v mid =>
    by_cases hlt : mid.length < text.length
    · cases htail : many p mid with
      | done tail rest' =>
        simp only [htail, hlt, if_true]
        constructor
        · rintro ⟨⟩
          exact .inr ⟨v, mid, tail, rfl, hlt, htail, rfl⟩
        · rintro (⟨⟨_, ⟨⟩, _⟩, _⟩ | ⟨_, _, tail', ⟨⟩, _, hmid, rfl⟩)
          rw [htail] at hmid
          cases hmid
          rfl
      | failed failure => simp_all
    · simp +contextual [hlt]

theorem many_of_refuses (h : Refuses p text) : many p text = .done [] text :=
  many_eq_done.mpr (.inl ⟨h, rfl, rfl⟩)

theorem many_of_done (hv : p text = .done v mid) (hlt : mid.length < text.length)
    (hvs : many p mid = .done vs rest) : many p text = .done (v :: vs) rest :=
  many_eq_done.mpr (.inr ⟨v, mid, vs, hv, hlt, hvs, rfl⟩)

theorem separated_eq_done {separator : Reader β} :
    separated separator p text = .done vs rest ↔
      Refuses p text ∧ vs = [] ∧ rest = text ∨
        ∃ v mid tail, p text = .done v mid ∧
          many (after separator p) mid = .done tail rest ∧ vs = v :: tail := by
  unfold separated Refuses
  cases p text with
  | failed failure =>
    cases h : failure.isFinal with
    | false => simpa [h] using fun _ => eq_comm
    | true => simp [h]
  | done v mid =>
    constructor
    · intro h
      obtain ⟨tail, hmany, rfl⟩ := map_eq_done.mp h
      exact .inr ⟨v, mid, tail, rfl, hmany, rfl⟩
    · rintro (⟨⟨_, ⟨⟩, _⟩, _⟩ | ⟨_, _, tail, ⟨⟩, hmany, rfl⟩)
      exact map_eq_done.mpr ⟨tail, hmany, rfl⟩

end Repetition

end Reader

end FormRules.RuleText
