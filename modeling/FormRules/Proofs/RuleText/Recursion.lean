import FormRules.Proofs.RuleText.Reader

/-!
Readers that use themselves. A reader by `fix` may use itself only where the text has
become shorter. A body that asks for no more than that does not notice the restriction:
the reader is then a fixed point of its body (`fix_eq_body`). What a body passes on from
the reader inside it to the whole holds of the fixed point (`fix_ensures`).
-/

namespace FormRules.RuleText.Reader

variable {α β γ : Type}

/-- Whatever the reader reads is related to the text before it and the text after it. -/
def Ensures (R : List Char → α → List Char → Prop) (p : Reader α) : Prop :=
  ∀ text v rest, p text = .done v rest → R text v rest

/-- Reads only values with a property, and leaves an end of the text. -/
def Yields (G : α → Prop) (p : Reader α) : Prop :=
  Ensures (fun text v rest => rest <:+ text ∧ G v) p

/-- Takes up some of the text whenever it reads. -/
def Consumes (p : Reader α) : Prop :=
  Ensures (fun text _ rest => rest.length < text.length) p

/-- The two readers do the same on all texts below a length. -/
def AgreeBelow (n : Nat) (p q : Reader α) : Prop :=
  ∀ text, text.length < n → p text = q text

theorem Ensures.mono {R S : List Char → α → List Char → Prop} {p : Reader α}
    (h : Ensures R p) (himp : ∀ text v rest, R text v rest → S text v rest) : Ensures S p :=
  fun text v rest hdone => himp text v rest (h text v rest hdone)

theorem Yields.mono {G H : α → Prop} {p : Reader α} (h : Yields G p) (himp : ∀ v, G v → H v) :
    Yields H p :=
  Ensures.mono h fun _ v _ ⟨hsuffix, hv⟩ => ⟨hsuffix, himp v hv⟩

section Yielding

variable {G : α → Prop} {H : β → Prop} {p q : Reader α}

theorem yields_give {v : α} (hv : G v) : Yields G (give v) := by
  rintro text w rest hdone
  obtain ⟨rfl, rfl⟩ := give_eq_done.mp hdone
  exact ⟨List.suffix_refl _, hv⟩

theorem yields_abort : Yields G (abort : Reader α) := by
  rintro text v rest ⟨⟩

theorem yields_bind {f : α → Reader β} (hp : Yields G p) (hf : ∀ v, G v → Yields H (f v)) :
    Yields H (bind p f) := by
  intro text w rest hdone
  obtain ⟨v, mid, hv, hw⟩ := bind_eq_done.mp hdone
  obtain ⟨hmid, hgood⟩ := hp text v mid hv
  obtain ⟨hrest, hresult⟩ := hf v hgood mid w rest hw
  exact ⟨hrest.trans hmid, hresult⟩

theorem yields_map {g : α → β} (hp : Yields G p) (hg : ∀ v, G v → H (g v)) :
    Yields H (map g p) := by
  intro text w rest hdone
  obtain ⟨v, hv, rfl⟩ := map_eq_done.mp hdone
  obtain ⟨hrest, hgood⟩ := hp text v rest hv
  exact ⟨hrest, hg v hgood⟩

theorem yields_satisfy {accept : Char → Bool} :
    Yields (fun c => accept c = true) (satisfy accept) := by
  intro text c rest hdone
  obtain ⟨rfl, hc⟩ := satisfy_eq_done.mp hdone
  exact ⟨List.suffix_cons c rest, hc⟩

theorem yields_char {c : Char} : Yields (fun _ => True) (char c) :=
  yields_satisfy.mono fun _ _ => trivial

theorem yields_exactly {word : List Char} : Yields (fun _ => True) (exactly word) := by
  intro text u rest hdone
  rw [exactly_eq_done.mp hdone]
  exact ⟨List.suffix_append word rest, trivial⟩

theorem yields_run1 {accept : Char → Bool} :
    Yields (fun taken => taken ≠ [] ∧ taken.all accept = true) (run1 accept) := by
  intro text taken rest hdone
  obtain ⟨hne, rfl, rfl⟩ := run1_eq_done.mp hdone
  exact ⟨List.dropWhile_suffix accept, hne, by simp⟩

theorem yields_run {accept : Char → Bool} : Yields (fun _ => True) (run accept) := by
  rintro text taken rest ⟨⟩
  exact ⟨List.dropWhile_suffix accept, trivial⟩

theorem yields_orElse (hp : Yields G p) (hq : Yields G q) : Yields G (orElse p q) := by
  intro text v rest hdone
  rcases orElse_eq_done.mp hdone with h | ⟨_, h⟩
  · exact hp text v rest h
  · exact hq text v rest h

theorem yields_optional (hp : Yields G p) : Yields (fun o => ∀ v ∈ o, G v) (optional p) := by
  intro text o rest hdone
  rcases optional_eq_done.mp hdone with ⟨v, hv, rfl⟩ | ⟨_, rfl, rfl⟩
  · obtain ⟨hrest, hgood⟩ := hp text v rest hv
    exact ⟨hrest, by simpa using hgood⟩
  · exact ⟨List.suffix_refl _, by simp⟩

theorem yields_notFollowedBy : Yields (fun _ => True) (notFollowedBy p) := by
  intro text u rest hdone
  obtain ⟨_, rfl⟩ := notFollowedBy_eq_done.mp hdone
  exact ⟨List.suffix_refl _, trivial⟩

theorem yields_commit (hp : Yields G p) : Yields G (commit p) :=
  fun text v rest hdone => hp text v rest (commit_eq_done.mp hdone)

theorem yields_label {l : Label} (hp : Yields G p) : Yields G (label l p) :=
  fun text v rest hdone => hp text v rest (label_eq_done.mp hdone)

theorem yields_refine {f : α → Except (Option EvalError) β} (hp : Yields G p)
    (hf : ∀ v w, G v → f v = .ok w → H w) : Yields H (refine f p) := by
  intro text w rest hdone
  obtain ⟨v, hv, hw⟩ := refine_eq_done.mp hdone
  obtain ⟨hrest, hgood⟩ := hp text v rest hv
  exact ⟨hrest, hf v w hgood hw⟩

theorem yields_check {accept : α → Bool} (hp : Yields G p) :
    Yields (fun v => G v ∧ accept v = true) (check accept p) := by
  intro text v rest hdone
  obtain ⟨hv, haccept⟩ := check_eq_done.mp hdone
  obtain ⟨hrest, hgood⟩ := hp text v rest hv
  exact ⟨hrest, hgood, haccept⟩

theorem yields_after {opening : Reader β} (ho : Yields H opening) (hp : Yields G p) :
    Yields G (after opening p) :=
  yields_bind ho fun _ _ => hp

theorem yields_between {opening : Reader β} {closing : Reader γ} {K : γ → Prop}
    (ho : Yields H opening) (hc : Yields K closing) (hp : Yields G p) :
    Yields G (between opening closing p) :=
  yields_bind ho fun _ _ => yields_bind hp fun _ hv => yields_bind hc fun _ _ => yields_give hv

theorem yields_many (hp : Yields G p) : Yields (fun vs => ∀ v ∈ vs, G v) (many p) := by
  intro text vs rest hdone
  induction hlen : text.length using Nat.strongRecOn generalizing text vs with
  | ind n ih =>
    rcases many_eq_done.mp hdone with ⟨_, rfl, rfl⟩ | ⟨v, mid, tail, hv, hlt, htail, rfl⟩
    · exact ⟨List.suffix_refl _, by simp⟩
    · obtain ⟨hmid, hgood⟩ := hp text v mid hv
      obtain ⟨hrest, hothers⟩ := ih mid.length (hlen ▸ hlt) mid tail htail rfl
      exact ⟨hrest.trans hmid, by simpa using ⟨hgood, hothers⟩⟩

theorem yields_separated {separator : Reader β} (hs : Yields H separator) (hp : Yields G p) :
    Yields (fun vs => ∀ v ∈ vs, G v) (separated separator p) := by
  intro text vs rest hdone
  rcases separated_eq_done.mp hdone with ⟨_, rfl, rfl⟩ | ⟨v, mid, tail, hv, htail, rfl⟩
  · exact ⟨List.suffix_refl _, by simp⟩
  · obtain ⟨hmid, hgood⟩ := hp text v mid hv
    obtain ⟨hrest, hothers⟩ := yields_many (yields_after hs hp) mid tail rest htail
    exact ⟨hrest.trans hmid, by simpa using ⟨hgood, hothers⟩⟩

theorem yields_separated1 {separator : Reader β} (hs : Yields H separator) (hp : Yields G p) :
    Yields (fun vs => vs ≠ [] ∧ ∀ v ∈ vs, G v) (separated1 separator p) := by
  refine yields_bind hp fun first hfirst => ?_
  refine yields_map (yields_many (yields_after hs hp)) fun others hothers => ?_
  exact ⟨List.cons_ne_nil _ _, List.forall_mem_cons.mpr ⟨hfirst, hothers⟩⟩

end Yielding

section Consuming

variable {p : Reader α}

theorem consumes_satisfy {accept : Char → Bool} : Consumes (satisfy accept) := by
  intro text c rest hdone
  obtain ⟨rfl, _⟩ := satisfy_eq_done.mp hdone
  simp

theorem consumes_exactly {word : List Char} (hword : word ≠ []) : Consumes (exactly word) := by
  intro text u rest hdone
  rw [exactly_eq_done.mp hdone, List.length_append]
  have := List.length_pos_iff.mpr hword
  omega

/-- A first reader that takes up text does so for the whole. -/
theorem consumes_bind {f : α → Reader β} {G : β → Prop} (hp : Consumes p)
    (hf : ∀ v, Yields G (f v)) : Consumes (bind p f) := by
  intro text w rest hdone
  obtain ⟨v, mid, hv, hw⟩ := bind_eq_done.mp hdone
  have hmid := hp text v mid hv
  have hrest := (hf v mid w rest hw).1.length_le
  omega

theorem consumes_orElse {q : Reader α} (hp : Consumes p) (hq : Consumes q) :
    Consumes (orElse p q) := by
  intro text v rest hdone
  rcases orElse_eq_done.mp hdone with h | ⟨_, h⟩
  · exact hp text v rest h
  · exact hq text v rest h

end Consuming

section Agreement

variable {n : Nat} {p q : Reader α}

theorem AgreeBelow.refl (n : Nat) (p : Reader α) : AgreeBelow n p p := fun _ _ => rfl

theorem agree_bind {f g : α → Reader β} {G : α → Prop} (hp : Yields G p) (hpq : AgreeBelow n p q)
    (hfg : ∀ v, AgreeBelow n (f v) (g v)) : AgreeBelow n (bind p f) (bind q g) := by
  intro text hlt
  unfold bind
  rw [← hpq text hlt]
  cases hv : p text with
  | failed => rfl
  | done v rest =>
    have hle := (hp text v rest hv).1.length_le
    exact hfg v rest (by omega)

/-- Behind a reader that takes up text, agreement on shorter texts is enough. -/
theorem agree_bind_of_consumes {f g : α → Reader β} (hp : Consumes p)
    (hfg : ∀ v, AgreeBelow n (f v) (g v)) : AgreeBelow (n + 1) (bind p f) (bind p g) := by
  intro text hlt
  unfold bind
  cases hv : p text with
  | failed => rfl
  | done v rest =>
    have hless := hp text v rest hv
    exact hfg v rest (by omega)

/-- Behind something optional that takes up text where it stands, agreement on shorter texts
is enough unless it is missing. -/
theorem agree_bind_optional {p : Reader γ} {f g : Option γ → Reader β} (hp : Consumes p)
    (hsome : ∀ v, AgreeBelow n (f (some v)) (g (some v)))
    (hnone : AgreeBelow (n + 1) (f none) (g none)) :
    AgreeBelow (n + 1) (bind (optional p) f) (bind (optional p) g) := by
  intro text hlt
  cases hv : optional p text with
  | failed failure => simp [bind, hv]
  | done o rest =>
    rw [bind_of_done hv, bind_of_done hv]
    rcases optional_eq_done.mp hv with ⟨v, hdone, rfl⟩ | ⟨_, rfl, rfl⟩
    · have hless := hp text v rest hdone
      exact hsome v rest (by omega)
    · exact hnone rest hlt

theorem agree_map {g : α → β} (h : AgreeBelow n p q) : AgreeBelow n (map g p) (map g q) := by
  intro text hlt
  simp only [map, h text hlt]

theorem agree_orElse {p' q' : Reader α} (h : AgreeBelow n p q) (h' : AgreeBelow n p' q') :
    AgreeBelow n (orElse p p') (orElse q q') := by
  intro text hlt
  simp only [orElse, h text hlt, h' text hlt]

theorem agree_commit (h : AgreeBelow n p q) : AgreeBelow n (commit p) (commit q) := by
  intro text hlt
  simp only [commit, h text hlt]

theorem agree_label {l : Label} (h : AgreeBelow n p q) : AgreeBelow n (label l p) (label l q) := by
  intro text hlt
  simp only [label, h text hlt]

theorem agree_many (h : AgreeBelow n p q) : AgreeBelow n (many p) (many q) := by
  intro text hlt
  induction hlen : text.length using Nat.strongRecOn generalizing text with
  | ind m ih =>
    rw [many, many, h text hlt]
    cases q text with
    | failed => rfl
    | done v rest =>
      by_cases hshort : rest.length < text.length
      · simp only [hshort, if_true]
        rw [ih rest.length (hlen ▸ hshort) rest (by omega) rfl]
      · simp only [hshort, if_false]

theorem agree_separated {separator : Reader β} {G : α → Prop} {H : β → Prop}
    (hs : Yields H separator) (hp : Yields G p) (h : AgreeBelow n p q) :
    AgreeBelow n (separated separator p) (separated separator q) := by
  have hmany : AgreeBelow n (manyAfter separator p) (manyAfter separator q) :=
    agree_many (agree_bind hs (.refl n separator) fun _ => h)
  intro text hlt
  unfold separated
  rw [← h text hlt]
  cases hv : p text with
  | failed => rfl
  | done v rest =>
    have hle := (hp text v rest hv).1.length_le
    exact agree_map hmany rest (by omega)

end Agreement

section FixedPoint

variable {body : Reader α → Reader α}

/-- A reader kept to texts that are shorter than a given one. -/
def onShorter (p : Reader α) (text : List Char) : Reader α := fun rest =>
  if rest.length < text.length then p rest else fail rest

theorem onShorter_of_lt {p : Reader α} {text rest : List Char}
    (h : rest.length < text.length) : onShorter p text rest = p rest := if_pos h

theorem fix_apply (text : List Char) :
    fix body text = body (onShorter (fix body) text) text := by
  rw [fix]
  rfl

theorem ensures_onShorter {R : List Char → α → List Char → Prop} {p : Reader α}
    {text : List Char} (h : ∀ inner, inner.length < text.length →
      ∀ v rest, p inner = .done v rest → R inner v rest) : Ensures R (onShorter p text) := by
  intro inner v rest hdone
  by_cases hlt : inner.length < text.length
  · rw [onShorter_of_lt hlt] at hdone
    exact h inner hlt v rest hdone
  · simp [onShorter, hlt, fail] at hdone

/-- What the body passes on from the reader inside it holds of the whole. -/
theorem fix_ensures {R : List Char → α → List Char → Prop}
    (step : ∀ p, Ensures R p → Ensures R (body p)) : Ensures R (fix body) := by
  intro text v rest hdone
  induction hlen : text.length using Nat.strongRecOn generalizing text v rest with
  | ind n ih =>
    rw [fix_apply] at hdone
    refine step _ (ensures_onShorter ?_) text v rest hdone
    intro inner hlt w tail hinner
    exact ih inner.length (hlen ▸ hlt) inner w tail hinner rfl

/-- A reader that uses itself on shorter texts only is a fixed point of its body. -/
theorem fix_eq_body {G : α → Prop} (hyields : ∀ p, Yields G p → Yields G (body p))
    (hagree : ∀ n p q, Yields G p → AgreeBelow n p q → AgreeBelow (n + 1) (body p) (body q)) :
    fix body = body (fix body) := by
  have hfix : Yields G (fix body) := fix_ensures hyields
  funext text
  rw [fix_apply]
  have hinner : Yields G (onShorter (fix body) text) :=
    ensures_onShorter fun inner _ v rest hdone => hfix inner v rest hdone
  exact hagree text.length _ _ hinner (fun _ => onShorter_of_lt) text (Nat.lt_succ_self _)

end FixedPoint

end FormRules.RuleText.Reader
