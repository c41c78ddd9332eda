import FormRules.Pattern.Basic
import Mathlib.Tactic.IntervalCases

/-!
What a pattern matches. A word stands between two characters of a text, which anchors may ask
about; `Matches` gives the words of a pattern by its parts, and a repetition matches a number of
words in a row. The search of a text goes by remainders instead, and finds out just whether some
part of the text is matched (`matchesIn_iff`).
-/

namespace FormRules.Pattern

/-! ### Words of a pattern -/

/-- Words between the character before them and the one after them. -/
abbrev Language := Option Char → List Char → Option Char → Prop

/-- A number of words in a row, each between its neighbours. -/
def Repeated (body : Language) : Nat → Language
  | 0, _, word, _ => word = []
  | n + 1, before, word, after => ∃ first rest, word = first ++ rest ∧
      body before first (rest.head?.or after) ∧
      Repeated body n (first.getLast?.or before) rest after

/-- The words that a pattern matches. -/
def Matches : Pattern → Language
  | empty, _, word, _ => word = []
  | one set, _, word, _ => ∃ c, word = [c] ∧ set.contains c = true
  | anchor a, before, word, after => word = [] ∧ a.holdsAt ⟨before, after⟩ = true
  | seq p q, before, word, after => ∃ first rest, word = first ++ rest ∧
      p.Matches before first (rest.head?.or after) ∧
      q.Matches (first.getLast?.or before) rest after
  | either p q, before, word, after => p.Matches before word after ∨ q.Matches before word after
  | times p least most, before, word, after => ∃ n, least ≤ n ∧ (∀ m ∈ most, n ≤ m) ∧
      Repeated p.Matches n before word after

/-- Whether no repetition asks for more than it allows. -/
def isCounted : Pattern → Bool
  | empty | one _ | anchor _ => true
  | seq p q | either p q => p.isCounted && q.isCounted
  | times p least most => p.isCounted && most.all fun m => least ≤ m

variable {before after : Option Char} {c : Char} {word text : List Char}

theorem getLast?_cons_or (c : Char) (word : List Char) (before : Option Char) :
    (c :: word).getLast?.or before = word.getLast?.or (some c) := by
  rw [List.getLast?_cons, Option.some_or]
  cases word.getLast? <;> rfl

section Repetition

variable {body : Language} {n : Nat}

theorem repeated_nil_iff :
    Repeated body n before [] after ↔ n = 0 ∨ body before [] after := by
  induction n with
  | zero => simp [Repeated]
  | succ n ih =>
    constructor
    · rintro ⟨first, rest, hword, hfirst, -⟩
      obtain ⟨rfl, rfl⟩ := List.append_eq_nil_iff.mp hword.symm
      exact .inr hfirst
    · rintro (h | h)
      · omega
      · exact ⟨[], [], rfl, h, ih.mpr (.inr h)⟩

/-- Words that may be empty can be added in front. -/
theorem Repeated.padded (hempty : body before [] (word.head?.or after))
    (h : Repeated body n before word after) (k : Nat) :
    Repeated body (n + k) before word after := by
  induction k with
  | zero => exact h
  | succ k ih => exact ⟨[], word, rfl, hempty, ih⟩

/-- The first character of a row of words is that of its first word that has one. Empty words
may stand before that. -/
theorem Repeated.cons_cases (h : Repeated body n before (c :: word) after) :
    ∃ skipped k first rest, n = skipped + 1 + k ∧ (skipped = 0 ∨ body before [] (some c)) ∧
      word = first ++ rest ∧ body before (c :: first) (rest.head?.or after) ∧
      Repeated body k (first.getLast?.or (some c)) rest after := by
  induction n with
  | zero => cases h
  | succ n ih =>
    obtain ⟨first, rest, hword, hfirst, hrest⟩ := h
    rcases List.cons_eq_append_iff.mp hword with ⟨rfl, rfl⟩ | ⟨first, rfl, rfl⟩
    · obtain ⟨skipped, k, first, rest, rfl, -, hword, hbody, hrepeated⟩ := ih hrest
      exact ⟨skipped + 1, k, first, rest, by omega, .inr hfirst, hword, hbody, hrepeated⟩
    · rw [getLast?_cons_or] at hrest
      exact ⟨0, n, first, rest, by omega, .inl rfl, rfl, hfirst, hrest⟩

/-- Where its words are written things, whatever their neighbours are, a repetition matches rows
of such things. -/
theorem repeated_iff {α : Type} {write : α → List Char} {isWord : α → Prop}
    (hbody : ∀ before word after, body before word after ↔ ∃ a, word = write a ∧ isWord a) :
    Repeated body n before word after ↔
      ∃ items : List α, items.length = n ∧ (∀ a ∈ items, isWord a) ∧
        word = items.flatMap write := by
  induction n generalizing before word with
  | zero =>
    constructor
    · rintro rfl
      exact ⟨[], rfl, by simp, rfl⟩
    · rintro ⟨items, hlength, -, rfl⟩
      rw [List.length_eq_zero_iff.mp hlength]
      rfl
  | succ n ih =>
    constructor
    · rintro ⟨first, rest, rfl, hfirst, hrest⟩
      obtain ⟨a, rfl, ha⟩ := (hbody ..).mp hfirst
      obtain ⟨items, rfl, hitems, rfl⟩ := ih.mp hrest
      exact ⟨a :: items, rfl, List.forall_mem_cons.mpr ⟨ha, hitems⟩, List.flatMap_cons.symm⟩
    · rintro ⟨items, hlength, hitems, rfl⟩
      cases items with
      | nil => cases hlength
      | cons a items =>
        rw [List.forall_mem_cons] at hitems
        exact ⟨write a, items.flatMap write, List.flatMap_cons, (hbody ..).mpr ⟨a, rfl, hitems.1⟩,
          ih.mpr ⟨items, Nat.succ.inj hlength, hitems.2, rfl⟩⟩

end Repetition

variable {p q r : Pattern}

theorem matches_optional_iff :
    (times p 0 (some 1)).Matches before word after ↔ word = [] ∨ p.Matches before word after := by
  constructor
  · rintro ⟨n, -, hmost, hrepeated⟩
    have hn : n ≤ 1 := hmost 1 rfl
    interval_cases n
    · exact .inl hrepeated
    · obtain ⟨first, rest, rfl, hfirst, rfl⟩ := hrepeated
      rw [List.append_nil]
      exact .inr hfirst
  · rintro (rfl | h)
    · exact ⟨0, Nat.le_refl 0, by simp, rfl⟩
    · exact ⟨1, by omega, by simp, word, [], (List.append_nil word).symm, h, rfl⟩

/-- Repetitions of one character are the words of so many characters of its set. -/
theorem matches_times_one_iff {set : Unicode.CharSet} {least : Nat} {most : Option Nat} :
    (times (one set) least most).Matches before word after ↔
      least ≤ word.length ∧ (∀ m ∈ most, word.length ≤ m) ∧
        ∀ c ∈ word, set.contains c = true := by
  have hrepeated (n : Nat) : Repeated (one set).Matches n before word after ↔
      ∃ items : List Char, items.length = n ∧ (∀ c ∈ items, set.contains c = true) ∧
        word = items := by
    have hone : ∀ before word after, (one set).Matches before word after ↔
        ∃ c, word = [c] ∧ set.contains c = true := fun _ _ _ => Iff.rfl
    rw [repeated_iff hone]
    simp only [List.flatMap_singleton']
  constructor
  · rintro ⟨n, hleast, hmost, hword⟩
    obtain ⟨word, rfl, hword, rfl⟩ := (hrepeated n).mp hword
    exact ⟨hleast, hmost, hword⟩
  · rintro ⟨hleast, hmost, hword⟩
    exact ⟨word.length, hleast, hmost, (hrepeated _).mpr ⟨word, rfl, hword, rfl⟩⟩

/-! ### Remainders -/

theorem matches_nil_iff (hp : p.isCounted = true) :
    p.Matches before [] after ↔ p.acceptsEmpty ⟨before, after⟩ = true := by
  induction p generalizing before after with
  | empty => simp [Matches, acceptsEmpty, acceptsEmptyIf]
  | one set => simp [Matches, acceptsEmpty, acceptsEmptyIf]
  | anchor a => simp [Matches, acceptsEmpty, acceptsEmptyIf]
  | seq p q ihp ihq =>
    rw [isCounted, Bool.and_eq_true] at hp
    rw [acceptsEmpty, acceptsEmptyIf, Bool.and_eq_true, ← acceptsEmpty, ← acceptsEmpty,
      ← ihp hp.1, ← ihq hp.2]
    constructor
    · rintro ⟨first, rest, hword, hfirst, hrest⟩
      obtain ⟨rfl, rfl⟩ := List.append_eq_nil_iff.mp hword.symm
      exact ⟨hfirst, hrest⟩
    · rintro ⟨hfirst, hrest⟩
      exact ⟨[], [], rfl, hfirst, hrest⟩
  | either p q ihp ihq =>
    rw [isCounted, Bool.and_eq_true] at hp
    rw [acceptsEmpty, acceptsEmptyIf, Bool.or_eq_true, ← acceptsEmpty, ← acceptsEmpty,
      ← ihp hp.1, ← ihq hp.2, Matches]
  | times p least most ih =>
    rw [isCounted, Bool.and_eq_true, Option.all_eq_true] at hp
    rw [acceptsEmpty, acceptsEmptyIf, Bool.or_eq_true, ← acceptsEmpty, ← ih hp.1, beq_iff_eq]
    constructor
    · rintro ⟨n, hleast, -, hrepeated⟩
      rcases repeated_nil_iff.mp hrepeated with rfl | hbody
      · exact .inl (by omega)
      · exact .inr hbody
    · intro h
      exact ⟨least, Nat.le_refl least, fun m hm => of_decide_eq_true (hp.2 m hm),
        repeated_nil_iff.mpr h⟩

theorem matches_andThen_iff :
    (p.andThen q).Matches before word after ↔ (seq p q).Matches before word after := by
  cases p with
  | empty =>
    constructor
    · intro h
      exact ⟨[], word, rfl, rfl, h⟩
    · rintro ⟨first, rest, rfl, rfl, h⟩
      exact h
  | _ => exact Iff.rfl

theorem isCounted_andThen (hp : p.isCounted = true) (hq : q.isCounted = true) :
    (p.andThen q).isCounted = true := by
  cases p with
  | empty => exact hq
  | _ => exact Bool.and_eq_true_iff.mpr ⟨hp, hq⟩

theorem isCounted_of_mem_remainders {place : Place} (hp : p.isCounted = true)
    (hr : r ∈ p.remainders place c) : r.isCounted = true := by
  induction p generalizing r with
  | empty => cases hr
  | one set =>
    rw [remainders] at hr
    split at hr
    · rw [List.mem_singleton.mp hr]
      rfl
    · cases hr
  | anchor a => cases hr
  | seq p q ihp ihq =>
    rw [isCounted, Bool.and_eq_true] at hp
    rw [remainders, List.mem_append] at hr
    rcases hr with hr | hr
    · obtain ⟨r, hrest, rfl⟩ := List.mem_map.mp hr
      exact isCounted_andThen (ihp hp.1 hrest) hp.2
    · split at hr
      · exact ihq hp.2 hr
      · cases hr
  | either p q ihp ihq =>
    rw [isCounted, Bool.and_eq_true] at hp
    rw [remainders, List.mem_append] at hr
    exact hr.elim (ihp hp.1) (ihq hp.2)
  | times p least most ih =>
    rw [isCounted, Bool.and_eq_true, Option.all_eq_true] at hp
    rw [remainders] at hr
    split at hr
    · cases hr
    · obtain ⟨r, hrest, rfl⟩ := List.mem_map.mp hr
      refine isCounted_andThen (ih hp.1 hrest) ?_
      rw [isCounted, Bool.and_eq_true, Option.all_eq_true]
      refine ⟨hp.1, fun m hm => decide_eq_true ?_⟩
      obtain ⟨k, hk, rfl⟩ := Option.map_eq_some_iff.mp hm
      have hleast : least ≤ k := of_decide_eq_true (hp.2 k hk)
      split <;> omega

/-- One of several patterns, and another pattern behind it. -/
theorem exists_mem_map_andThen_iff {patterns : List Pattern} :
    (∃ r ∈ patterns.map (fun p => p.andThen q), r.Matches before word after) ↔
      ∃ first rest, word = first ++ rest ∧
        (∃ p ∈ patterns, p.Matches before first (rest.head?.or after)) ∧
        q.Matches (first.getLast?.or before) rest after := by
  constructor
  · rintro ⟨r, hr, hmatches⟩
    obtain ⟨p, hp, rfl⟩ := List.mem_map.mp hr
    obtain ⟨first, rest, hword, hfirst, hrest⟩ := matches_andThen_iff.mp hmatches
    exact ⟨first, rest, hword, ⟨p, hp, hfirst⟩, hrest⟩
  · rintro ⟨first, rest, hword, ⟨p, hp, hfirst⟩, hrest⟩
    exact ⟨p.andThen q, List.mem_map.mpr ⟨p, hp, rfl⟩,
      matches_andThen_iff.mpr ⟨first, rest, hword, hfirst, hrest⟩⟩

/-- The first character of two words in a row is that of the first one, unless that is empty. -/
theorem matches_seq_cons_iff :
    (seq p q).Matches before (c :: word) after ↔
      (∃ first rest, word = first ++ rest ∧ p.Matches before (c :: first) (rest.head?.or after) ∧
        q.Matches (first.getLast?.or (some c)) rest after) ∨
      p.Matches before [] (some c) ∧ q.Matches before (c :: word) after := by
  constructor
  · rintro ⟨first, rest, hword, hfirst, hrest⟩
    rcases List.cons_eq_append_iff.mp hword with ⟨rfl, rfl⟩ | ⟨first, rfl, rfl⟩
    · exact .inr ⟨hfirst, hrest⟩
    · rw [getLast?_cons_or] at hrest
      exact .inl ⟨first, rest, rfl, hfirst, hrest⟩
  · rintro (⟨first, rest, rfl, hfirst, hrest⟩ | ⟨hfirst, hrest⟩)
    · refine ⟨c :: first, rest, rfl, hfirst, ?_⟩
      rwa [getLast?_cons_or]
    · exact ⟨[], c :: word, rfl, hfirst, hrest⟩

/-- A row of words is taken up after its first character: what is left of the first word that has
one, and the words behind that. -/
theorem matches_times_cons_iff {least : Nat} {most : Option Nat}
    (hp : (times p least most).isCounted = true) :
    (times p least most).Matches before (c :: word) after ↔
      most ≠ some 0 ∧ ∃ first rest, word = first ++ rest ∧
        p.Matches before (c :: first) (rest.head?.or after) ∧
        (times p (if p.acceptsEmpty ⟨before, some c⟩ then 0 else least - 1)
          (most.map (· - 1))).Matches (first.getLast?.or (some c)) rest after := by
  rw [isCounted, Bool.and_eq_true, Option.all_eq_true] at hp
  obtain ⟨hp, hmost⟩ := hp
  have hleast : ∀ m ∈ most, least ≤ m := fun m hm => of_decide_eq_true (hmost m hm)
  constructor
  · rintro ⟨n, hn, hbound, hrepeated⟩
    obtain ⟨skipped, k, first, rest, rfl, hskipped, hword, hfirst, hrest⟩ := hrepeated.cons_cases
    refine ⟨?_, first, rest, hword, hfirst, k, ?_, ?_, hrest⟩
    · rintro rfl
      have := hbound 0 rfl
      omega
    · split
      · exact Nat.zero_le k
      · rename_i hnotempty
        have : skipped = 0 := hskipped.resolve_right fun h => hnotempty ((matches_nil_iff hp).mp h)
        omega
    · intro m hm
      obtain ⟨l, hl, rfl⟩ := Option.map_eq_some_iff.mp hm
      have := hbound l hl
      omega
  · rintro ⟨hzero, first, rest, rfl, hfirst, k, hk, hbound, hrest⟩
    have hmore : ∀ m ∈ most, k + 1 ≤ m := by
      intro m hm
      have hpos : m ≠ 0 := by
        rintro rfl
        exact hzero hm
      have := hbound (m - 1) (Option.map_eq_some_iff.mpr ⟨m, hm, rfl⟩)
      omega
    have hrow : Repeated p.Matches (k + 1) before (c :: (first ++ rest)) after := by
      refine ⟨c :: first, rest, rfl, hfirst, ?_⟩
      rwa [getLast?_cons_or]
    split at hk
    · rename_i hempty
      refine ⟨k + 1 + (least - (k + 1)), by omega, fun m hm => ?_,
        hrow.padded ((matches_nil_iff hp).mpr hempty) _⟩
      have := hmore m hm
      have := hleast m hm
      omega
    · exact ⟨k + 1, by omega, hmore, hrow⟩

/-- The words of a pattern that begin with a character are those of its remainders. -/
theorem matches_cons_iff (hp : p.isCounted = true) :
    p.Matches before (c :: word) after ↔
      ∃ r ∈ p.remainders ⟨before, some c⟩ c, r.Matches (some c) word after := by
  induction p generalizing word after with
  | empty => simp [Matches, remainders]
  | one set =>
    by_cases h : set.contains c = true
    · simp [Matches, remainders, h, and_assoc]
    · simp [Matches, remainders, h]
  | anchor a => simp [Matches, remainders]
  | seq p q ihp ihq =>
    rw [isCounted, Bool.and_eq_true] at hp
    simp only [matches_seq_cons_iff, remainders, List.mem_append, or_and_right, exists_or,
      exists_mem_map_andThen_iff, ihp hp.1, ihq hp.2]
    by_cases hempty : p.acceptsEmpty ⟨before, some c⟩ = true
    · simp only [hempty, (matches_nil_iff hp.1).mpr hempty, if_true, true_and]
    · simp only [hempty, mt (matches_nil_iff hp.1).mp hempty]
      simp
  | either p q ihp ihq =>
    rw [isCounted, Bool.and_eq_true] at hp
    simp only [Matches, remainders, ihp hp.1, ihq hp.2, List.mem_append, or_and_right, exists_or]
  | times p least most ih =>
    rw [matches_times_cons_iff hp, remainders]
    rw [isCounted, Bool.and_eq_true] at hp
    by_cases hzero : most = some 0
    · simp [hzero]
    · simp only [hzero, if_false, ne_eq, not_false_eq_true, true_and, exists_mem_map_andThen_iff,
        ih hp.1]

/-! ### The search -/

/-- Whether a match stands at the beginning of a text. -/
def Begins (p : Pattern) (before : Option Char) (text : List Char) : Prop :=
  ∃ word rest, text = word ++ rest ∧ p.Matches before word rest.head?

/-- Whether some part of a text is matched. -/
def Occurs (p : Pattern) (before : Option Char) (text : List Char) : Prop :=
  ∃ skipped rest, text = skipped ++ rest ∧ p.Begins (skipped.getLast?.or before) rest

theorem begins_nil_iff (hp : p.isCounted = true) :
    p.Begins before [] ↔ p.acceptsEmpty ⟨before, none⟩ = true := by
  rw [← matches_nil_iff hp]
  constructor
  · rintro ⟨word, rest, htext, hmatches⟩
    obtain ⟨rfl, rfl⟩ := List.append_eq_nil_iff.mp htext.symm
    exact hmatches
  · intro h
    exact ⟨[], [], rfl, h⟩

theorem begins_cons_iff (hp : p.isCounted = true) :
    p.Begins before (c :: text) ↔ p.acceptsEmpty ⟨before, some c⟩ = true ∨
      ∃ r ∈ p.remainders ⟨before, some c⟩ c, r.Begins (some c) text := by
  rw [← matches_nil_iff hp]
  constructor
  · rintro ⟨word, rest, htext, hmatches⟩
    rcases List.cons_eq_append_iff.mp htext with ⟨rfl, rfl⟩ | ⟨word, rfl, rfl⟩
    · exact .inl hmatches
    · obtain ⟨r, hr, hrest⟩ := (matches_cons_iff hp).mp hmatches
      exact .inr ⟨r, hr, word, rest, rfl, hrest⟩
  · rintro (h | ⟨r, hr, word, rest, rfl, hrest⟩)
    · exact ⟨[], c :: text, rfl, h⟩
    · exact ⟨c :: word, rest, rfl, (matches_cons_iff hp).mpr ⟨r, hr, hrest⟩⟩

theorem occurs_nil_iff : p.Occurs before [] ↔ p.Begins before [] := by
  constructor
  · rintro ⟨skipped, rest, htext, hbegins⟩
    obtain ⟨rfl, rfl⟩ := List.append_eq_nil_iff.mp htext.symm
    exact hbegins
  · intro h
    exact ⟨[], [], rfl, h⟩

theorem occurs_cons_iff :
    p.Occurs before (c :: text) ↔ p.Begins before (c :: text) ∨ p.Occurs (some c) text := by
  constructor
  · rintro ⟨skipped, rest, htext, hbegins⟩
    rcases List.cons_eq_append_iff.mp htext with ⟨rfl, rfl⟩ | ⟨skipped, rfl, rfl⟩
    · exact .inl hbegins
    · rw [getLast?_cons_or] at hbegins
      exact .inr ⟨skipped, rest, rfl, hbegins⟩
  · rintro (h | ⟨skipped, rest, rfl, hbegins⟩)
    · exact ⟨[], c :: text, rfl, h⟩
    · refine ⟨c :: skipped, rest, rfl, ?_⟩
      rwa [getLast?_cons_or]

theorem mem_foldl_distinct {patterns kept : List Pattern} {seen : Std.HashSet Pattern}
    (hseen : ∀ q, seen.contains q = true ↔ q ∈ kept) :
    p ∈ (patterns.foldl (fun ((seen, kept) : Std.HashSet Pattern × List Pattern) p =>
      if seen.contains p then (seen, kept) else (seen.insert p, p :: kept)) (seen, kept)).2 ↔
      p ∈ kept ∨ p ∈ patterns := by
  induction patterns generalizing seen kept with
  | nil => simp
  | cons first patterns ih =>
    rw [List.foldl_cons, List.mem_cons]
    by_cases h : seen.contains first = true
    · have hfirst := (hseen first).mp h
      simp only [h, if_true, ih hseen]
      grind
    · have hinsert (q : Pattern) : (seen.insert first).contains q = true ↔ q ∈ first :: kept := by
        rw [Std.HashSet.contains_insert, Bool.or_eq_true, beq_iff_eq, hseen, List.mem_cons, eq_comm]
      rw [Bool.not_eq_true] at h
      simp only [h, Bool.false_eq_true, if_false, ih hinsert, List.mem_cons]
      grind

theorem mem_distinct (patterns : List Pattern) : p ∈ distinct patterns ↔ p ∈ patterns := by
  unfold distinct
  rw [List.mem_reverse, mem_foldl_distinct (by simp)]
  simp

/-- A search finds the patterns that began earlier, and those that begin here or later. -/
theorem matchFrom_iff {start : Pattern} {pending : List Pattern} (hstart : start.isCounted = true)
    (hpending : ∀ q ∈ pending, q.isCounted = true) :
    matchFrom false start pending before text = true ↔
      (∃ q ∈ pending, q.Begins before text) ∨ start.Occurs before text := by
  induction text generalizing pending before with
  | nil =>
    rw [matchFrom, List.any_cons, Bool.or_eq_true, List.any_eq_true, occurs_nil_iff,
      begins_nil_iff hstart, or_comm]
    refine or_congr_left (exists_congr fun q => and_congr_right fun hq => ?_)
    exact (begins_nil_iff (hpending q hq)).symm
  | cons c text ih =>
    have hcurrent : ∀ q ∈ start :: pending, q.isCounted = true :=
      List.forall_mem_cons.mpr ⟨hstart, hpending⟩
    have hnext : ∀ r ∈ distinct ((start :: pending).flatMap (remainders ⟨before, some c⟩ c)),
        r.isCounted = true := by
      intro r hr
      obtain ⟨q, hq, hr⟩ := List.mem_flatMap.mp ((mem_distinct _).mp hr)
      exact isCounted_of_mem_remainders (hcurrent q hq) hr
    have hfound : (∃ q ∈ start :: pending, q.Begins before (c :: text)) ↔
        (∃ q ∈ start :: pending, q.acceptsEmpty ⟨before, some c⟩ = true) ∨
          ∃ r ∈ distinct ((start :: pending).flatMap (remainders ⟨before, some c⟩ c)),
            r.Begins (some c) text := by
      simp only [mem_distinct, List.mem_flatMap]
      constructor
      · rintro ⟨q, hq, hbegins⟩
        rcases (begins_cons_iff (hcurrent q hq)).mp hbegins with h | ⟨r, hr, hrest⟩
        · exact .inl ⟨q, hq, h⟩
        · exact .inr ⟨r, ⟨q, hq, hr⟩, hrest⟩
      · rintro (⟨q, hq, h⟩ | ⟨r, ⟨q, hq, hr⟩, hrest⟩)
        · exact ⟨q, hq, (begins_cons_iff (hcurrent q hq)).mpr (.inl h)⟩
        · exact ⟨q, hq, (begins_cons_iff (hcurrent q hq)).mpr (.inr ⟨r, hr, hrest⟩)⟩
    rw [matchFrom, Bool.or_eq_true, List.any_eq_true, if_neg (by simp), ih hnext, ← or_assoc,
      ← hfound, occurs_cons_iff]
    simp only [List.mem_cons, or_and_right, exists_or, exists_eq_left]
    rw [or_assoc, or_left_comm]

/-- Searching finds out whether some part of a text is matched, if no anchor of the pattern holds
inside a character. -/
theorem matchesIn_iff {pattern : Pattern} {text : String} (hcounted : pattern.isCounted = true)
    (hinside : pattern.acceptsInside = false) :
    pattern.matchesIn text = true ↔ pattern.Occurs none text.toList := by
  rw [matchesIn, hinside, Bool.false_and, matchFrom_iff hcounted (by simp)]
  simp

end FormRules.Pattern
