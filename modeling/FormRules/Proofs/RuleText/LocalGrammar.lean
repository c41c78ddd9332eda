import FormRules.Proofs.RuleText.ConditionReadback
import FormRules.Proofs.RuleText.Local

/-!
The grammar is read locally: a literal, an expression and a condition between connectives
are read the same whatever follows them (`local_unary`).
-/

namespace FormRules.RuleText

open Reader

variable {α β : Type}

section Tokens

variable {F : List Char → Prop}

theorem local_satisfy {accept : Char → Bool} (h : ∀ c, accept c = true → isPartStart c = true) :
    Local true F (satisfy accept) (satisfy accept) := by
  intro text c rest hdone
  obtain ⟨rfl, hc⟩ := satisfy_eq_done.mp hdone
  exact ⟨[c], rfl, .inl (takesUp_cons (h c hc)), fun more _ _ => satisfy_eq_done.mpr ⟨rfl, hc⟩⟩

theorem local_char {c : Char} (hc : isPartStart c = true) : Local true F (char c) (char c) := by
  refine local_satisfy fun d hd => ?_
  rw [beq_iff_eq.mp hd]
  exact hc

/-- A run of word characters ends where it ended. -/
theorem local_run {accept : Char → Bool} (haccept : ∀ c, accept c = true → isIdentChar c = true)
    (hpoint : accept '.' = false) : Local false F (run accept) (run accept) := by
  rintro text taken rest ⟨⟩
  have hall : ∀ c ∈ text.takeWhile accept, accept c = true :=
    List.all_eq_true.mp List.all_takeWhile
  have hstop : ∀ c ∈ (text.dropWhile accept).head?, accept c = false := by
    intro c hc
    have hhead := List.head?_dropWhile_not accept text
    rw [Option.mem_def.mp hc] at hhead
    exact hhead
  refine ⟨text.takeWhile accept, List.takeWhile_append_dropWhile.symm, ?_, fun more hfollows _ =>
    run_append hall (hfollows.stops haccept hstop)⟩
  cases htaken : text.takeWhile accept with
  | nil => exact .inr ⟨rfl, rfl⟩
  | cons c tail =>
    have hc : accept c = true := hall c (htaken ▸ List.mem_cons_self)
    exact .inl (takesUp_of_isIdentChar (haccept c hc) (ne_of_apart hc hpoint))

/-- A reader of a given text that no character of a kind follows is local if this kind is one
of word characters. -/
theorem local_of_run {p : Reader α} {P : α → Prop} {source : α → List Char}
    {accept : Char → Bool}
    (hp : ∀ text v rest, p text = .done v rest ↔
      P v ∧ text = source v ++ rest ∧ ∀ c ∈ rest.head?, accept c = false)
    (haccept : ∀ c, accept c = true → isIdentChar c = true)
    (hsource : ∀ v, P v → TakesUp (source v)) : Local true F p p := by
  intro text v rest hdone
  obtain ⟨hv, rfl, hstop⟩ := (hp text v rest).mp hdone
  exact ⟨source v, rfl, .inl (hsource v hv), fun more hfollows _ =>
    (hp _ v more).mpr ⟨hv, rfl, hfollows.stops haccept hstop⟩⟩

theorem takesUp_of_isIdentifier {word : String} (h : isIdentifier word = true) :
    TakesUp word.toList := by
  obtain ⟨c, tail, hcons, hstart, _⟩ := isIdentifier_iff.mp h
  rw [hcons]
  exact takesUp_of_isIdentChar (isIdentChar_of_isIdentStart hstart)
    (ne_of_apart hstart (by decide))

theorem local_ident : Local true F ident ident :=
  local_of_run (fun _ _ _ => ident_eq_done) (fun _ => id) fun _ => takesUp_of_isIdentifier

theorem local_name : Local true F name name :=
  local_of_run (fun _ _ _ => name_eq_done) (fun _ => id) fun _ h => takesUp_of_isIdentifier h.1

theorem local_keyword {word : String} (h : isIdentifier word = true) :
    Local true F (keyword word) (keyword word) :=
  local_of_run (P := fun _ => True)
    (fun _ _ _ => keyword_eq_done.trans (iff_of_eq (true_and _).symm)) (fun _ => id)
    fun _ _ => takesUp_of_isIdentifier h

theorem local_operator : Local true F operator operator := by
  have hstart : ∀ op : Operator, isIdentifier op.name = true := by
    intro op
    cases op <;> decide
  refine local_of_run (P := fun _ => True) (fun text op rest => ?_)
    (fun _ => isIdentChar_of_isOperatorChar) fun op _ => takesUp_of_isIdentifier (hstart op)
  rw [operator_eq_done, true_and]

/-- The characters of a string are read the same whatever follows its closing quote. -/
theorem stringBody_local {text chars rest : List Char} (h : stringBody text = .done chars rest) :
    ∃ used, text = used ++ rest ∧ ∀ more, stringBody (used ++ more) = .done chars more := by
  fun_induction stringBody text generalizing chars rest with
  | case1 => cases h
  | case2 tail =>
    cases h
    exact ⟨['"'], rfl, stringBody_quote⟩
  | case3 => cases h
  | case4 escaped tail chars' rest' hbody _ ih =>
    cases h
    obtain ⟨used, rfl, hmore⟩ := ih hbody
    refine ⟨'\\' :: escaped :: used, rfl, fun more => ?_⟩
    simp [stringBody, hmore]
  | case5 => cases h
  | case6 c tail hquote hescape chars' rest' hbody ih =>
    cases h
    obtain ⟨used, rfl, hmore⟩ := ih hbody
    refine ⟨c :: used, rfl, fun more => ?_⟩
    rw [List.cons_append, stringBody.eq_def]
    simp only [hquote, hescape, if_false, hmore]
  | case7 => cases h

theorem local_quotedString : Local true F quotedString quotedString := by
  intro text word rest hdone
  obtain ⟨tail, chars, rfl, hbody, rfl⟩ := quotedString_eq_done.mp hdone
  obtain ⟨used, rfl, hmore⟩ := stringBody_local hbody
  refine ⟨'"' :: used, rfl, .inl (takesUp_cons (by decide)), fun more _ _ => ?_⟩
  exact quotedString_eq_done.mpr ⟨_, chars, rfl, hmore more, rfl⟩

/-- What the digits of a number stand for. -/
def numberOf (sign : Option Char) (whole : List Char) : Option (List Char) → Reader Value
  | some digits => give (.float (Binary64.ofDecimal sign.isSome
      (Nat.ofDigitChars 10 (whole ++ digits) 0) (-(digits.length : Int))))
  | none =>
    let magnitude : Int := Nat.ofDigitChars 10 whole 0
    match Numeral.toInt64? (if sign.isSome then -magnitude else magnitude) with
    | some n => give (.int n)
    | none => abort

/-- A number after its sign. -/
def magnitude (sign : Option Char) : Reader Value :=
  Reader.bind (run1 Char.isDigit) fun whole => Reader.bind (optional fraction) (numberOf sign whole)

theorem number_eq : number = Reader.bind (optional (char '-')) magnitude := by
  unfold number magnitude
  simp only [bind_eq, pure_eq]
  refine congrArg _ (funext fun sign => congrArg _ (funext fun whole => congrArg _ ?_))
  funext decimals
  cases decimals <;> rfl

/-- Nothing is read behind the digits of a number. -/
theorem numberOf_eq_done {sign : Option Char} {whole : List Char} {decimals : Option (List Char)}
    {text rest : List Char} {v : Value} (h : numberOf sign whole decimals text = .done v rest) :
    rest = text ∧ ∀ more, numberOf sign whole decimals more = .done v more := by
  cases decimals with
  | some digits =>
    obtain ⟨rfl, rfl⟩ := give_eq_done.mp h
    exact ⟨rfl, fun _ => rfl⟩
  | none =>
    unfold numberOf at h ⊢
    dsimp only at h ⊢
    generalize Numeral.toInt64? _ = n at h ⊢
    cases n with
    | some n =>
      obtain ⟨rfl, rfl⟩ := give_eq_done.mp h
      exact ⟨rfl, fun _ => rfl⟩
    | none => cases h

theorem fraction_eq_done {text digits rest : List Char} :
    fraction text = .done digits rest ↔
      ∃ tail, text = '.' :: tail ∧ run1 Char.isDigit tail = .done digits rest := by
  refine bind_eq_done.trans ⟨?_, ?_⟩
  · rintro ⟨_, tail, hpoint, hdigits⟩
    exact ⟨tail, (char_eq_done.mp hpoint).1, hdigits⟩
  · rintro ⟨tail, rfl, hdigits⟩
    exact ⟨'.', tail, char_cons '.' tail, hdigits⟩

theorem isIdentChar_of_isDigit {c : Char} (h : c.isDigit = true) : isIdentChar c = true := by
  simp [isIdentChar, Char.isAlphanum, h]

theorem local_magnitude (sign : Option Char) : Local true F (magnitude sign) (magnitude sign) := by
  have hdigit : ∀ c, Char.isDigit c = true → isIdentChar c = true :=
    fun _ => isIdentChar_of_isDigit
  intro text v rest hdone
  obtain ⟨whole, mid, hwhole, htail⟩ := bind_eq_done.mp hdone
  obtain ⟨decimals, last, hdecimals, hvalue⟩ := bind_eq_done.mp htail
  obtain ⟨rfl, hgive⟩ := numberOf_eq_done hvalue
  obtain ⟨⟨hne, hall⟩, rfl, hstop⟩ := run1_eq_done_iff.mp hwhole
  obtain ⟨c, tail, rfl⟩ := List.exists_cons_of_ne_nil hne
  have hc : Char.isDigit c = true := hall c List.mem_cons_self
  have htaken : TakesUp (c :: tail) :=
    takesUp_of_isIdentChar (hdigit c hc) (ne_of_apart hc (by decide))
  rcases optional_eq_done.mp hdecimals with ⟨digits, hdigits, rfl⟩ | ⟨hrefuses, rfl, rfl⟩
  · obtain ⟨_, rfl, hrun⟩ := fraction_eq_done.mp hdigits
    obtain ⟨hchars, rfl, hend⟩ := run1_eq_done_iff.mp hrun
    refine ⟨c :: tail ++ '.' :: digits, by simp, .inl (htaken.append _), ?_⟩
    intro more hfollows _
    have hfraction : fraction ('.' :: (digits ++ more)) = .done digits more :=
      fraction_eq_done.mpr
        ⟨_, rfl, run1_eq_done_iff.mpr ⟨hchars, rfl, hfollows.stops hdigit hend⟩⟩
    have hrest : ∀ d ∈ ('.' :: (digits ++ more)).head?, Char.isDigit d = false := by simp
    rw [List.append_assoc]
    exact (bind_of_done (run1_append hne hall hrest)).trans
      ((bind_of_done (optional_of_done hfraction)).trans (hgive more))
  · refine ⟨c :: tail, rfl, .inl htaken, ?_⟩
    intro more hfollows _
    have hpoint : more.head? ≠ some '.' := by
      intro hpoint
      rcases hfollows with hends | ⟨d, hd, _, hnew⟩
      · exact absurd (hends '.' hpoint) (by decide)
      · rw [hnew] at hpoint
        exact hd (Option.some.inj hpoint)
    exact (bind_of_done (run1_append hne hall (hfollows.stops hdigit hstop))).trans
      ((bind_of_done (optional_of_refuses (refuses_fraction hpoint))).trans (hgive more))

theorem local_number : Local true F number number := by
  rw [number_eq]
  refine local_bind (local_optional (local_char (by decide)))
    local_magnitude fun sign text v rest hdone _ => ⟨trivial, refuses_char.mpr fun hsign => ?_⟩
  obtain ⟨whole, mid, hwhole, _⟩ := bind_eq_done.mp hdone
  obtain ⟨⟨hne, hall⟩, rfl, _⟩ := run1_eq_done_iff.mp hwhole
  obtain ⟨c, tail, rfl⟩ := List.exists_cons_of_ne_nil hne
  cases hsign
  exact absurd (hall '-' List.mem_cons_self) (by decide)

theorem local_positiveDigits : Local true F positiveDigits positiveDigits := by
  unfold positiveDigits
  simp only [bind_eq, pure_eq]
  refine local_seq (local_satisfy fun c hc => ?_) fun head =>
    local_bind_give (local_run (fun _ => isIdentChar_of_isDigit) (by decide))
  simp only [Bool.and_eq_true] at hc
  exact isPartStart_of_isIdentChar (isIdentChar_of_isDigit hc.1) (ne_of_apart hc.1 (by decide))

/-- The characters that positive numbers begin with. -/
def isPositiveStart (c : Char) : Bool := c.isDigit && c != '0'

theorem guardedBy_positiveDigits : GuardedBy isPositiveStart positiveDigits := by
  unfold positiveDigits
  exact guardedBy_bind fun _ => refuses_satisfy.mpr

/-- Zero is read where no positive number begins. -/
theorem local_orZero {accept : Char → Bool} {zero : α} {p : Reader α} (hp : Local true F p p)
    (hguard : GuardedBy accept p) (hzero : accept '0' = false) :
    Local true F (orElse p (map (fun _ => zero) (char '0')))
      (orElse p (map (fun _ => zero) (char '0'))) := by
  refine local_orElse hp (local_map (local_char (by decide))) hguard
    (guardedBy_map guardedBy_char) fun c hc => ?_
  rw [beq_iff_eq.mp hc]
  exact hzero

theorem local_unsignedInteger : Local true F unsignedInteger unsignedInteger :=
  local_orZero local_positiveDigits guardedBy_positiveDigits (by decide)

/-- A positive number after an optional sign. -/
def signed : Reader Int :=
  Reader.bind (optional (satisfy fun c => c == '+' || c == '-')) fun sign =>
    Reader.bind positiveDigits fun n => give (if sign = some '-' then -(n : Int) else (n : Int))

theorem guardedBy_signed : GuardedBy (fun c => (c == '+' || c == '-') || isPositiveStart c)
    signed := by
  intro text h
  have hboth : ∀ c ∈ text.head?, (c == '+' || c == '-') = false ∧ isPositiveStart c = false :=
    fun c hc => by simpa only [Bool.or_eq_false_iff] using h c hc
  have hsign : optional (satisfy fun c => c == '+' || c == '-') text = .done none text :=
    optional_of_refuses (refuses_satisfy.mpr fun c hc => (hboth c hc).1)
  have hdigits : Refuses positiveDigits text :=
    guardedBy_positiveDigits text fun c hc => (hboth c hc).2
  exact refuses_bind.mpr (.inr ⟨none, text, hsign, refuses_bind.mpr (.inl hdigits)⟩)

theorem local_signed : Local true F signed signed := by
  have hsign : ∀ c, (c == '+' || c == '-') = true → isPartStart c = true ∧ c.isDigit = false := by
    intro c hc
    rw [Bool.or_eq_true, beq_iff_eq, beq_iff_eq] at hc
    rcases hc with rfl | rfl <;> decide
  refine local_bind (local_optional (local_satisfy fun c hc => (hsign c hc).1))
    (fun sign => local_bind_give local_positiveDigits)
    fun sign text n rest hdone _ => ⟨trivial, refuses_satisfy.mpr fun c hc => ?_⟩
  obtain ⟨_, _, hdigits, _⟩ := bind_eq_done.mp hdone
  obtain ⟨_, tail, rfl, hd⟩ := guardedBy_positiveDigits.head hdigits
  cases hc
  refine Bool.eq_false_iff.mpr fun hsigned => ?_
  rw [isPositiveStart, (hsign c hsigned).2, Bool.false_and] at hd
  cases hd

theorem local_int32 : Local true F int32 int32 := by
  have hsigned : Local true F signedInteger signedInteger :=
    local_orZero local_signed guardedBy_signed (by decide)
  exact local_refine hsigned

theorem local_uint64 : Local true F uint64 uint64 := local_refine local_unsignedInteger

end Tokens

section Lists

variable {F : List Char → Prop} {p q : Reader α} {close : Reader Unit} {text rest : List Char}

theorem after_spaced (c : Char) (p : Reader α) :
    after (spaced c) p = after blanks (after (char c) (after blanks p)) := by
  funext text
  have hdef : ∀ r : Reader α, after blanks r text = r (dropBlanks text) := fun _ => rfl
  rw [hdef]
  unfold after spaced
  simp only [bind_eq, Reader.bind, blanks]
  cases char c (dropBlanks text) <;> rfl

theorem local_spaced {c : Char} (hc : isPartStart c = true) (h : Local true F p q) :
    Local true F (after (spaced c) p) (after (spaced c) q) := by
  rw [after_spaced, after_spaced]
  exact local_blanks (local_after (local_char hc) (local_blanks h))

theorem local_comma (h : Local true F p q) :
    Local true F (after (spaced ',') p) (after (spaced ',') q) :=
  local_spaced (by decide) h

theorem between_opening (c : Char) (close : Reader β) (p : Reader α) :
    between (opening c) close p = after (char c) (after blanks
      (Reader.bind p fun v => Reader.bind close fun _ => give v)) := by
  funext text
  unfold between after opening
  simp only [bind_eq, Reader.bind]
  cases char c text <;> rfl

/-- What stands between marks is read locally if the reader of the closing mark stops it. -/
theorem local_between {c : Char} {moves : Bool} {G : List Char → Prop} (hc : isPartStart c = true)
    (hp : Local moves G p q) (hclose : Local true F close close)
    (hstop : ∀ text rest, close text = .done () rest → G text) :
    Local true F (between (opening c) close p) (between (opening c) close q) := by
  have hinside : Local (moves || true) F
      (Reader.bind p fun v => Reader.bind close fun _ => give v)
      (Reader.bind q fun v => Reader.bind close fun _ => give v) := by
    refine local_bind hp (fun v => local_bind_give hclose) fun v text w rest hdone _ => ?_
    obtain ⟨_, mid, hmark, _⟩ := bind_eq_done.mp hdone
    exact hstop text mid hmark
  rw [Bool.or_true] at hinside
  rw [between_opening, between_opening]
  exact local_after (local_char hc) (local_blanks hinside)

/-- Items between marks are read locally if the reader of the closing mark stops them. -/
theorem local_items {c : Char} (hc : isPartStart c = true) (hp : Local true Anyhow p q)
    (hclose : Local true F close close)
    (hstop : ∀ text rest, close text = .done () rest →
      Refuses q text ∧ Refuses (after (spaced ',') q) text) :
    Local true F (between (opening c) close (separated (spaced ',') p))
      (between (opening c) close (separated (spaced ',') q)) :=
  local_between hc (local_separated hp (local_comma hp)) hclose hstop

theorem local_closing {c : Char} (hc : isPartStart c = true) :
    Local true F (closing c) (closing c) :=
  local_blanks (local_bind_give (local_commit (local_char hc)))

theorem comma_closing_eq_done {c : Char} :
    after (spaced ',') (closing c) text = .done () rest ↔
      ∃ mid, dropBlanks text = ',' :: mid ∧ dropBlanks mid = c :: rest := by
  refine bind_eq_done.trans ⟨?_, ?_⟩
  · rintro ⟨_, mid, hcomma, hclosing⟩
    obtain ⟨tail, htail, rfl⟩ := spaced_eq_done.mp hcomma
    rw [closing_eq_done, dropBlanks_idem] at hclosing
    exact ⟨tail, htail, hclosing⟩
  · rintro ⟨mid, hmid, hrest⟩
    refine ⟨(), dropBlanks mid, spaced_eq_done.mpr ⟨mid, hmid, rfl⟩, ?_⟩
    rw [closing_eq_done, dropBlanks_idem, hrest]

/-- A list ends with its closing mark, perhaps after a comma. -/
theorem listEnd_eq_done {c : Char} (hc : c ≠ ',') :
    listEnd c text = .done () rest ↔
      closing c text = .done () rest ∨ after (spaced ',') (closing c) text = .done () rest := by
  have hdef : listEnd c text = Reader.bind (optional (after (char ',') blanks)) (fun _ =>
      Reader.bind (commit (char c)) fun _ => give ()) (dropBlanks text) := rfl
  rw [hdef, closing_eq_done, comma_closing_eq_done, bind_eq_done]
  simp only [mark_eq_done]
  constructor
  · rintro ⟨comma, mid, hcomma, rfl⟩
    rcases optional_eq_done.mp hcomma with ⟨u, hread, rfl⟩ | ⟨_, rfl, hnone⟩
    · obtain ⟨_, tail, hchar, hblanks⟩ := bind_eq_done.mp hread
      rw [blanks_eq, Reply.done_eq_done] at hblanks
      exact .inr ⟨tail, (char_eq_done.mp hchar).1, hblanks.2.symm⟩
    · exact .inl hnone.symm
  · rintro (hnone | ⟨mid, hcomma, hrest⟩)
    · refine ⟨none, c :: rest, ?_, rfl⟩
      rw [hnone]
      refine optional_of_refuses (refuses_bind.mpr (.inl (refuses_char.mpr ?_)))
      simpa using hc
    · refine ⟨some (), c :: rest, ?_, rfl⟩
      rw [hcomma]
      refine optional_of_done ((bind_of_done (char_cons ',' mid)).trans ?_)
      rw [blanks_eq, hrest]

theorem local_listEnd {c : Char} (hc : isPartStart c = true) (hcomma : c ≠ ',') :
    Local true F (listEnd c) (listEnd c) := by
  have hclosing : Local true F (closing c) (closing c) := local_closing hc
  intro text u rest hdone
  rcases (listEnd_eq_done hcomma).mp hdone with h | h
  · exact hclosing.within h fun _ _ h => (listEnd_eq_done hcomma).mpr (.inl h)
  · exact (local_comma hclosing).within h fun _ _ h => (listEnd_eq_done hcomma).mpr (.inr h)

/-- Nothing is read where other characters come behind the blanks. -/
theorem refuses_of_guard {c : Char} {accept : Char → Bool} (hguard : GuardedBy accept q)
    (hblanks : [' ', '\t', '\n', '\r', '\x0c'].any accept = false)
    (hmarks : ['#', c].any accept = false) (hdrop : dropBlanks text = c :: rest) :
    Refuses q text := by
  simp only [List.any_cons, List.any_nil, Bool.or_false, Bool.or_eq_false_iff] at hmarks
  obtain ⟨hhash, hc⟩ := hmarks
  refine hguard text fun d hd => ?_
  cases hchar : accept d with
  | false => rfl
  | true =>
    obtain ⟨others, rfl⟩ := List.head?_eq_some_iff.mp hd
    have hstart : isTokenStart d = true :=
      isTokenStart_iff.mpr ⟨not_isBlank_of_apart hchar hblanks, ne_of_apart hchar hhash⟩
    rw [dropBlanks_cons hstart] at hdrop
    cases hdrop
    rw [hchar] at hc
    cases hc

/-- At the end of a list nothing is read that begins with other characters. -/
theorem refuses_of_listEnd {c : Char} {accept : Char → Bool} (hguard : GuardedBy accept q)
    (hblanks : [' ', '\t', '\n', '\r', '\x0c'].any accept = false)
    (hmarks : ['#', ',', c].any accept = false) (hne : c ≠ ',')
    (hdone : listEnd c text = .done () rest) :
    Refuses q text ∧ Refuses (after (spaced ',') q) text := by
  simp only [List.any_cons, List.any_nil, Bool.or_false, Bool.or_eq_false_iff] at hmarks
  obtain ⟨hhash, hcomma, hc⟩ := hmarks
  rcases (listEnd_eq_done hne).mp hdone with h | h
  · rw [closing_eq_done] at h
    refine ⟨refuses_of_guard hguard hblanks (by simp [hhash, hc]) h,
      refuses_bind.mpr (.inl (refuses_spaced.mpr ?_))⟩
    rw [h]
    simpa using hne
  · obtain ⟨mid, hmid, hrest⟩ := comma_closing_eq_done.mp h
    refine ⟨refuses_of_guard hguard hblanks (by simp [hhash, hcomma]) hmid,
      refuses_bind.mpr (.inr ⟨(), c :: rest, ?_, ?_⟩)⟩
    · exact spaced_eq_done.mpr ⟨mid, hmid, hrest⟩
    · exact hguard _ (by simpa using hc)

end Lists

section Literals

variable {F : List Char → Prop} {p q : Reader Value}

theorem local_mapEntry (h : Local true Anyhow p q) :
    Local true F (mapEntry p) (mapEntry q) := by
  have hkey : Local true Anyhow (orElse quotedString ident) (orElse quotedString ident) :=
    local_orElse local_quotedString local_ident guardedBy_quotedString guardedBy_ident
      (apart_of_eq_false (by decide))
  have hcolon : Local true Anyhow (commit (char ':')) (commit (char ':')) :=
    local_commit (local_char (by decide))
  have hvalue : ∀ key : String, Local true F
      (after blanks (after (commit (char ':')) (after blanks
        (Reader.bind (commit p) fun value => give (key, value)))))
      (after blanks (after (commit (char ':')) (after blanks
        (Reader.bind (commit q) fun value => give (key, value))))) := fun key =>
    local_blanks (local_after hcolon (local_blanks (local_bind_give (local_commit h.anyhow))))
  exact local_seq hkey hvalue

/-- A literal is read locally if the literals inside it are. -/
theorem local_literalWith (h : Local true Anyhow p q) (hguard : GuardedBy isLiteralStart q) :
    Local true F (literalWith p) (literalWith q) := by
  have hitems : Local true F (listItems p) (listItems q) := by
    refine local_items (by decide) h (local_listEnd (by decide) (by decide))
      fun text rest hdone => ?_
    exact refuses_of_listEnd hguard (by decide) (by decide) (by decide) hdone
  have hentries : Local true F (mapEntries p) (mapEntries q) := by
    refine local_items (by decide) (local_mapEntry h) (local_listEnd (by decide) (by decide))
      fun text rest hdone => ?_
    exact refuses_of_listEnd guardedBy_mapEntry (by decide) (by decide) (by decide) hdone
  intro text value rest hdone
  rcases literalWith_eq_done.mp hdone with ⟨word, hread, rfl⟩ | ⟨u, hread, rfl⟩ |
    ⟨u, hread, rfl⟩ | ⟨u, hread, rfl⟩ | hread | ⟨items, hread, rfl⟩ | ⟨entries, hread, rfl⟩
  · exact local_quotedString.within hread fun _ _ h => literalWith_eq_done.mpr (.inl ⟨_, h, rfl⟩)
  · exact (local_keyword (by decide)).within hread fun _ _ h =>
      literalWith_eq_done.mpr (.inr (.inl ⟨_, h, rfl⟩))
  · exact (local_keyword (by decide)).within hread fun _ _ h =>
      literalWith_eq_done.mpr (.inr (.inr (.inl ⟨_, h, rfl⟩)))
  · exact (local_keyword (by decide)).within hread fun _ _ h =>
      literalWith_eq_done.mpr (.inr (.inr (.inr (.inl ⟨_, h, rfl⟩))))
  · exact local_number.within hread fun _ _ h =>
      literalWith_eq_done.mpr (.inr (.inr (.inr (.inr (.inl h)))))
  · exact hitems.within hread fun _ _ h =>
      literalWith_eq_done.mpr (.inr (.inr (.inr (.inr (.inr (.inl ⟨_, h, rfl⟩))))))
  · exact hentries.within hread fun _ _ h =>
      literalWith_eq_done.mpr (.inr (.inr (.inr (.inr (.inr (.inr ⟨_, h, rfl⟩))))))

theorem local_literal : Local true F literal literal := by
  have hanyhow : Local true Anyhow literal literal := by
    refine fix_ensures fun p hp => ?_
    have hread : Local true Anyhow (literalWith p) (literalWith literal) :=
      local_literalWith hp guardedBy_literal
    rw [← literal_eq] at hread
    exact hread
  exact hanyhow.anyhow

end Literals

section Expressions

variable {F : List Char → Prop} {p q : Reader Expr}

theorem local_fieldReference : Local true F fieldReference fieldReference := by
  have hident : Local true Anyhow (commit ident) (commit ident) := local_commit local_ident
  unfold fieldReference
  refine local_after (local_char (by decide)) (?_ : Local true F _ _)
  refine local_seq hident fun path => (?_ : Local false F _ _)
  split <;> exact local_give

theorem local_contextReference : Local true F contextReference contextReference :=
  local_after (local_char (by decide)) (local_bind_give (local_commit local_ident))

/-- A name and arguments in parentheses. -/
def namedArgs (p : Reader Expr) : Reader (String × List Expr) :=
  Reader.bind ident fun name => map (fun args => (name, args)) (callArgs p)

theorem namedArgs_eq_done {text rest : List Char} {name : String} {args : List Expr} :
    namedArgs p text = .done (name, args) rest ↔
      ∃ mid, ident text = .done name mid ∧ callArgs p mid = .done args rest := by
  refine bind_eq_done.trans ⟨?_, ?_⟩
  · rintro ⟨_, mid, hname, hargs⟩
    obtain ⟨_, hargs, heq⟩ := map_eq_done.mp hargs
    cases heq
    exact ⟨mid, hname, hargs⟩
  · rintro ⟨mid, hname, hargs⟩
    exact ⟨name, mid, hname, map_of_done hargs⟩

/-- An expression is read locally if the arguments inside it are. -/
theorem local_exprWith (h : Local true Anyhow p q)
    (hstop : ∀ text rest, dropBlanks text = ')' :: rest → Refuses q text) :
    Local true F (exprWith p) (exprWith q) := by
  have hargs : Local true F (callArgs p) (callArgs q) := by
    refine local_items (by decide) h (local_closing (by decide)) fun text rest hdone => ?_
    rw [closing_eq_done] at hdone
    refine ⟨hstop text rest hdone, refuses_bind.mpr (.inl (refuses_spaced.mpr ?_))⟩
    rw [hdone]
    simp
  have hcall : Local true F (after blanks (namedArgs p)) (after blanks (namedArgs q)) :=
    local_blanks (local_seq local_ident fun _ => local_map hargs)
  intro text e rest hdone
  rcases exprWith_eq_done.mp hdone with hread | hread | ⟨value, hread, rfl⟩ |
    ⟨name, mid, args, hname, hnot, hread, rfl⟩
  · exact (local_blanks local_fieldReference).within hread fun _ _ h =>
      exprWith_eq_done.mpr (.inl h)
  · exact (local_blanks local_contextReference).within hread fun _ _ h =>
      exprWith_eq_done.mpr (.inr (.inl h))
  · exact (local_blanks local_literal).within hread fun _ _ h =>
      exprWith_eq_done.mpr (.inr (.inr (.inl ⟨value, h, rfl⟩)))
  · refine hcall.within (namedArgs_eq_done.mpr ⟨mid, hname, hread⟩) fun _ _ h => ?_
    obtain ⟨mid, hname, hargs⟩ := namedArgs_eq_done.mp h
    exact exprWith_eq_done.mpr (.inr (.inr (.inr ⟨name, mid, args, hname, hnot, hargs, rfl⟩)))

theorem local_expr : Local true F expr expr := by
  have hanyhow : Local true Anyhow expr expr := by
    refine fix_ensures fun p hp => ?_
    have hread : Local true Anyhow (exprWith p) (exprWith expr) :=
      local_exprWith hp fun _ _ => refuses_expr_of_close
    rw [← expr_eq] at hread
    exact hread
  exact hanyhow.anyhow

end Expressions

section Conditions

variable {F : List Char → Prop} {p q : Reader Condition}

theorem local_operandOf (op : Operator) : Local false F (operandOf op) (operandOf op) := by
  unfold operandOf
  cases op.isUnary with
  | true => exact local_give
  | false => exact local_expr.weaken

theorem local_comparisonTail (field : String) (transform : Option String) :
    Local true F (comparisonTail field transform) (comparisonTail field transform) := by
  have hread : Local true F
      (after blanks (Reader.bind operator fun op => map (Prod.mk op) (operandOf op)))
      (after blanks (Reader.bind operator fun op => map (Prod.mk op) (operandOf op))) :=
    local_blanks (local_seq local_operator fun op => local_map (local_operandOf op))
  intro text c rest hdone
  obtain ⟨op, mid, operand, hop, hoperand, rfl⟩ := comparisonTail_eq_done.mp hdone
  refine hread.within ((bind_of_done hop).trans (map_of_done hoperand)) fun text rest h => ?_
  have htail : Reader.bind operator (fun op => map (Prod.mk op) (operandOf op)) (dropBlanks text) =
      .done (op, operand) rest := h
  obtain ⟨_, mid, hop, hpair⟩ := bind_eq_done.mp htail
  obtain ⟨_, hoperand, heq⟩ := map_eq_done.mp hpair
  cases heq
  exact comparisonTail_eq_done.mpr ⟨op, mid, operand, hop, hoperand, rfl⟩

theorem local_transformName : Local true F transformName transformName :=
  local_spaced (by decide) (local_commit local_ident)

theorem local_comparison : Local true F comparison comparison := by
  have hwith : Local true F
      (Reader.bind name fun field =>
        Reader.bind transformName fun word => comparisonTail field (some word))
      (Reader.bind name fun field =>
        Reader.bind transformName fun word => comparisonTail field (some word)) :=
    local_seq local_name fun field => local_seq local_transformName fun word =>
      local_comparisonTail field (some word)
  have hwithout : Local true F (Reader.bind name fun field => comparisonTail field none)
      (Reader.bind name fun field => comparisonTail field none) :=
    local_seq local_name fun field => local_comparisonTail field none
  intro text c rest hdone
  obtain ⟨field, mid, hname, ⟨word, mid', hword, htail⟩ | htail⟩ := comparison_eq_done.mp hdone
  · refine hwith.within ((bind_of_done hname).trans ((bind_of_done hword).trans htail))
      fun _ _ h => ?_
    obtain ⟨field, mid, hname, h⟩ := bind_eq_done.mp h
    obtain ⟨word, mid', hword, htail⟩ := bind_eq_done.mp h
    exact comparison_eq_done.mpr ⟨field, mid, hname, .inl ⟨word, mid', hword, htail⟩⟩
  · refine hwithout.within ((bind_of_done hname).trans htail) fun _ _ h => ?_
    obtain ⟨field, mid, hname, htail⟩ := bind_eq_done.mp h
    exact comparison_eq_done.mpr ⟨field, mid, hname, .inr htail⟩

/-- A chain is read locally where its connective does not follow. -/
theorem local_chain {word : Reader Unit} {join : Condition → Condition → Condition}
    (hword : Local true Anyhow word word) (h : Local true F p q)
    (hnext : ∀ text rest, word text = .done () rest → F text) :
    Local true (fun more => F more ∧ Refuses word more) (chain word join p)
      (chain word join q) := by
  have hitem : ∀ text v rest, after word (commit q) text = .done v rest → F text := by
    intro text v rest hdone
    obtain ⟨_, mid, hread, _⟩ := bind_eq_done.mp hdone
    exact hnext text mid hread
  have hothers : Local false (fun more => F more ∧ Refuses word more)
      (many (after word (commit p))) (many (after word (commit q))) :=
    (local_many (local_after hword (local_commit h)) hitem).mono fun _ hmore =>
      ⟨hmore.1, refuses_bind.mpr (.inl hmore.2)⟩
  refine local_bind h (fun first => local_bind_give hothers) fun first text c rest hdone hrest => ?_
  obtain ⟨_, mid, hmany, hgive⟩ := bind_eq_done.mp hdone
  obtain ⟨_, rfl⟩ := give_eq_done.mp hgive
  rcases many_eq_done.mp hmany with ⟨_, _, hnone⟩ | ⟨v, _, _, hv, _⟩
  · exact hnone ▸ hrest.1
  · exact hitem text v _ hv

/-- A connective that is read stands behind the blanks. -/
theorem dropBlanks_of_connectiveWord {upper lower : String} {text rest : List Char}
    (h : connectiveWord upper lower text = .done () rest) :
    ∃ word ∈ [upper, lower], dropBlanks text = word.toList ++ rest := by
  rcases orElse_eq_done.mp h with hupper | ⟨_, hlower⟩
  · exact ⟨upper, by simp, (keyword_eq_done.mp hupper).1⟩
  · exact ⟨lower, by simp, (keyword_eq_done.mp hlower).1⟩

/-- A word with two spellings is read locally. -/
theorem local_spellings {upper lower : String} {u l : Char} {us ls : List Char}
    (hupper : upper.toList = u :: us) (hlower : lower.toList = l :: ls) (hne : (u == l) = false)
    (hwords : isIdentifier upper = true ∧ isIdentifier lower = true) :
    Local true F (orElse (keyword upper) (keyword lower))
      (orElse (keyword upper) (keyword lower)) :=
  local_orElse (local_keyword hwords.1) (local_keyword hwords.2) (guardedBy_keyword hupper)
    (guardedBy_keyword hlower) (apart_of_eq_false hne)

/-- No `AND` is read where `OR` is. -/
theorem refuses_and_of_or {text rest : List Char}
    (h : connectiveWord "OR" "or" text = .done () rest) :
    Refuses (connectiveWord "AND" "and") text := by
  obtain ⟨word, hword, hdrop⟩ := dropBlanks_of_connectiveWord h
  refine refuses_connectiveWord_of_head rfl rfl fun c hc => ?_
  rw [hdrop] at hc
  simp only [List.mem_cons, List.not_mem_nil, or_false] at hword
  rcases hword with rfl | rfl <;> cases hc <;> decide

/-- No connective is read before a closing parenthesis. -/
theorem refuses_connectives_of_close {text rest : List Char} (h : dropBlanks text = ')' :: rest) :
    Refuses (connectiveWord "AND" "and") text ∧ Refuses (connectiveWord "OR" "or") text := by
  constructor
  · refine refuses_connectiveWord_of_head rfl rfl fun c hc => ?_
    rw [h] at hc
    cases hc
    decide
  · refine refuses_connectiveWord_of_head rfl rfl fun c hc => ?_
    rw [h] at hc
    cases hc
    decide

/-- A condition is read locally where no connective follows, if what it connects is. -/
theorem local_conditionWith (h : Local true Anyhow p q) :
    Local true (fun more => Refuses (connectiveWord "AND" "and") more ∧
      Refuses (connectiveWord "OR" "or") more) (conditionWith p) (conditionWith q) := by
  have hand : Local true Anyhow (connectiveWord "AND" "and") (connectiveWord "AND" "and") :=
    local_blanks (local_spellings rfl rfl (by decide) (by decide))
  have hor : Local true Anyhow (connectiveWord "OR" "or") (connectiveWord "OR" "or") :=
    local_blanks (local_spellings rfl rfl (by decide) (by decide))
  have hchain := @local_chain _ _ _ _ Condition.and hand h fun _ _ _ => trivial
  have hchains := @local_chain _ _ _ _ Condition.or hor hchain
    fun _ _ hword => ⟨trivial, refuses_and_of_or hword⟩
  exact (local_blanks hchains).mono fun _ hmore => ⟨⟨trivial, hmore.1⟩, hmore.2⟩

theorem local_grouped (h : Local true Anyhow p q) : Local true F (grouped p) (grouped q) := by
  have hclosing : Local true F (closing ')') (closing ')') := local_closing (by decide)
  refine local_after (local_char (by decide))
    (local_bind (local_conditionWith h) (fun c => local_bind_give hclosing) ?_)
  intro c text v rest hdone _
  obtain ⟨_, mid, hmark, _⟩ := bind_eq_done.mp hdone
  exact refuses_connectives_of_close (closing_eq_done.mp hmark)

/-- What connectives connect is read locally if that is so of what stands inside. -/
theorem local_unaryWith (h : Local true Anyhow p q) :
    Local true F (unaryWith p) (unaryWith q) := by
  have hword : Local true Anyhow negationWord negationWord :=
    local_spellings rfl rfl (by decide) (by decide)
  have hnegation : Local true F (after blanks (after negationWord (map Condition.negate p)))
      (after blanks (after negationWord (map Condition.negate q))) :=
    local_blanks (local_after hword (local_map h.anyhow))
  intro text c rest hdone
  rcases unaryWith_eq_done.mp hdone with ⟨u, mid, inner, hread, hinner, rfl⟩ | hread | hread
  · refine hnegation.within ((bind_of_done hread).trans (map_of_done hinner)) fun text rest h => ?_
    have htail : after negationWord (map Condition.negate q) (dropBlanks text) =
        .done inner.negate rest := h
    obtain ⟨u, mid, hread, hmap⟩ := bind_eq_done.mp htail
    obtain ⟨inner', hinner, heq⟩ := map_eq_done.mp hmap
    exact unaryWith_eq_done.mpr (.inl ⟨u, mid, inner', hread, hinner, heq⟩)
  · exact (local_blanks (local_grouped h)).within hread fun _ _ h =>
      unaryWith_eq_done.mpr (.inr (.inl h))
  · exact (local_blanks local_comparison).within hread fun _ _ h =>
      unaryWith_eq_done.mpr (.inr (.inr h))

theorem local_unary : Local true F unary unary := by
  have hanyhow : Local true Anyhow unary unary := by
    refine fix_ensures fun p hp => ?_
    have hread : Local true Anyhow (unaryWith p) (unaryWith unary) := local_unaryWith hp
    rw [← unary_eq] at hread
    exact hread
  exact hanyhow.anyhow

end Conditions

end FormRules.RuleText
