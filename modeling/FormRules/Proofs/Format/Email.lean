import FormRules.Operator.Meaning
import FormRules.Proofs.Pattern.Language
import Mathlib.Data.List.Permutation

/-!
The language of e-mail addresses. The pattern takes a label apart into its first character and an
optional rest of bounded length, and a domain into labels behind dots; together with its anchors
it matches just the addresses (`matches_address_iff`), so the operator for e-mail addresses
accepts these and nothing else (`emailFormat_accepts_addresses`).
-/

namespace FormRules.Unicode.CharSet

variable {c : Char}

theorem contains_iff (set : CharSet) :
    set.contains c = true ↔ ∃ r ∈ set.ranges, r.1 ≤ c.toNat ∧ c.toNat ≤ r.2 := by
  simp [contains, containsPoint]

theorem contains_single_iff (d : Char) : (single d).contains c = true ↔ c = d := by
  rw [contains_iff, ← Char.toNat_inj]
  simp only [single, range, Nat.le_refl, if_true, List.mem_cons, List.not_mem_nil, or_false,
    exists_eq_left]
  omega

end FormRules.Unicode.CharSet

namespace FormRules.Format.Email

open Pattern Unicode

/-! ### Addresses -/

/-- The characters of local parts: ASCII letters and digits, and some signs. -/
def IsLocalSign (c : Char) : Prop :=
  c.isAlphanum = true ∨ c ∈ ".!#$%&'*+/=?^_\x60\x7b|\x7d~-".toList

/-- The characters of labels: ASCII letters and digits, and the hyphen. -/
def IsLabelSign (c : Char) : Prop :=
  c.isAlphanum = true ∨ c = '-'

/-- A label of a domain. -/
structure IsLabel (label : List Char) : Prop where
  nonempty : 1 ≤ label.length
  short : label.length ≤ 63
  signs : ∀ c ∈ label, IsLabelSign c
  first : label.head? ≠ some '-'
  last : label.getLast? ≠ some '-'

/-- Two or more labels, with dots between them. -/
def IsDomain (chars : List Char) : Prop :=
  ∃ labels : List (List Char), 2 ≤ labels.length ∧ (∀ label ∈ labels, IsLabel label) ∧
    chars = List.intercalate ['.'] labels

/-- One at sign, with a local part before it and a domain behind it. -/
structure IsAddress (chars : List Char) : Prop where
  oneAt : chars.count '@' = 1
  parts : ∃ name domain, chars = name ++ '@' :: domain ∧ name ≠ [] ∧
    (∀ c ∈ name, IsLocalSign c) ∧ IsDomain domain

/-! ### The pattern -/

def letters : CharSet := ⟨[(48, 57), (65, 90), (97, 122)]⟩

def labelSigns : CharSet := ⟨[(45, 45), (48, 57), (65, 90), (97, 122)]⟩

def localSigns : CharSet :=
  ⟨[(33, 33), (35, 39), (42, 43), (45, 57), (61, 61), (63, 63), (65, 90), (94, 126)]⟩

def character (c : Char) : Pattern := seq (one (.single c)) empty

/-- What follows the first character of a label, if the label is longer. -/
def labelRest : Pattern :=
  times (seq (times (one labelSigns) 0 (some 61)) (seq (one letters) empty)) 0 (some 1)

def labelThen (next : Pattern) : Pattern := seq (one letters) (seq labelRest next)

def dotLabel : Pattern := seq (character '.') (labelThen empty)

def address : Pattern :=
  seq (anchor .textStart) (seq (times (one localSigns) 1 none) (seq (character '@')
    (labelThen (seq (times dotLabel 1 none) (seq (anchor .textEnd) empty)))))

/-! ### The written pattern

Its text is read as a tree, the tree is brought into simple form, and that form gives the
pattern. -/

/-- The class of letters, digits and given signs. -/
def classTree (signs : String) : Tree :=
  .bracket (.union ([.range { char := 'a' } { char := 'z' }, .range { char := 'A' } { char := 'Z' },
    .range { char := '0' } { char := '9' }] ++
      signs.toList.map fun c => .literal { char := c })) false

def groupTree (parts : List Tree) : Tree := .group {} false (.concat parts)

def labelTrees : List Tree :=
  [classTree "",
    .times (groupTree [.times (classTree "-") false 0 (some 61), classTree ""]) false 0 (some 1)]

/-- What the text is read as. -/
def addressTree : Tree :=
  .concat ([.anchor .caret, .times (classTree ".!#$%&'*+/=?^_\x60\x7b|\x7d~-") false 1 none,
    .literal { char := '@' }] ++ labelTrees ++
      [.times (groupTree (.literal { char := '.' } :: labelTrees)) false 1 none, .anchor .dollar])

set_option maxRecDepth 10000 in
theorem read?_addressText : Tree.read? addressText = some addressTree := by
  with_unfolding_all rfl

theorem outline?_letters : (classTree "").outline? {} = some (.one letters, {}) := by cbv

theorem outline?_labelSigns : (classTree "-").outline? {} = some (.one labelSigns, {}) := by cbv

theorem outline?_localSigns :
    (classTree ".!#$%&'*+/=?^_\x60\x7b|\x7d~-").outline? {} = some (.one localSigns, {}) := by
  cbv

/-- A written character stands for itself, since it is no surrogate. -/
theorem literal?_eq {c : Char}
    (h : (CharSet.single c).difference Outline.surrogates = .single c) :
    Flags.literal? {} { char := c } = some (.text [c]) := by
  have hset : Outline.ofSet (.single c) = .text [c] := by
    rw [Outline.ofSet, h]
    simp [CharSet.single, CharSet.range]
  exact congrArg some hset

def labelOutlines : List Outline :=
  [.one letters,
    .times (.seq [.times (.one labelSigns) true 0 (some 61), .one letters]) true 0 (some 1)]

/-- The tree in simple form. -/
def addressOutline : Outline :=
  .seq ([.anchor .textStart, .times (.one localSigns) true 1 none, .text ['@']] ++
    labelOutlines ++ [.times (.seq (.text ['.'] :: labelOutlines)) true 1 none, .anchor .textEnd])

theorem outline?_addressTree : addressTree.outline? {} = some (addressOutline, {}) := by
  have hat : Flags.literal? {} { char := '@' } = some (.text ['@']) := literal?_eq (by cbv)
  have hdot : Flags.literal? {} { char := '.' } = some (.text ['.']) := literal?_eq (by cbv)
  have hmode : ({} : Flags).with {} = {} := rfl
  simp only [addressTree, labelTrees, groupTree, List.cons_append, List.nil_append, Tree.outline?,
    Tree.outlines?, hmode, outline?_letters, outline?_labelSigns, outline?_localSigns, hat, hdot,
    Option.bind_eq_bind, Option.bind_some, Option.map_some, Option.pure_def]
  rfl

/-- The written pattern is one, and means this. -/
theorem address?_eq : address? = some address := by
  have haccepted : addressOutline.isAccepted = true := by decide
  rw [address?, ofText?, read?_addressText, Option.bind_eq_bind, Option.bind_some,
    outline?_addressTree]
  simp only [Option.bind_eq_bind, Option.bind_some, haccepted, if_true]
  rfl

/-! ### Characters -/

section Signs

variable {c : Char}

theorem isAlphanum_iff : c.isAlphanum = true ↔
    48 ≤ c.toNat ∧ c.toNat ≤ 57 ∨ 65 ≤ c.toNat ∧ c.toNat ≤ 90 ∨
      97 ≤ c.toNat ∧ c.toNat ≤ 122 := by
  have hupper : c.isUpper = true ↔ 65 ≤ c.toNat ∧ c.toNat ≤ 90 := decide_eq_true_iff
  have hlower : c.isLower = true ↔ 97 ≤ c.toNat ∧ c.toNat ≤ 122 :=
    Bool.and_eq_true_iff.trans (and_congr decide_eq_true_iff decide_eq_true_iff)
  have hdigit : c.isDigit = true ↔ 48 ≤ c.toNat ∧ c.toNat ≤ 57 := Char.isDigit_iff_toNat
  have hsplit : c.isAlphanum = ((c.isUpper || c.isLower) || c.isDigit) := rfl
  rw [hsplit, Bool.or_eq_true, Bool.or_eq_true, hupper, hlower, hdigit]
  omega

theorem contains_letters_iff : letters.contains c = true ↔ c.isAlphanum = true := by
  rw [CharSet.contains_iff, isAlphanum_iff]
  simp [letters]

theorem contains_labelSigns_iff : labelSigns.contains c = true ↔ IsLabelSign c := by
  rw [CharSet.contains_iff, IsLabelSign, isAlphanum_iff, ← Char.toNat_inj]
  simp only [labelSigns, List.mem_cons, List.not_mem_nil, or_false, exists_eq_or_imp,
    exists_eq_left, Char.reduceToNat]
  omega

theorem contains_localSigns_iff : localSigns.contains c = true ↔ IsLocalSign c := by
  rw [CharSet.contains_iff, IsLocalSign, isAlphanum_iff]
  simp only [localSigns, List.mem_cons, List.not_mem_nil, or_false, exists_eq_or_imp,
    exists_eq_left, String.reduceToList, ← Char.toNat_inj, Char.reduceToNat]
  omega

end Signs

/-! ### What the pattern matches -/

variable {before after : Option Char} {word : List Char} {next : Pattern}

theorem matches_character_iff {c : Char} :
    (character c).Matches before word after ↔ word = [c] := by
  constructor
  · rintro ⟨first, rest, rfl, ⟨d, rfl, hd⟩, rfl⟩
    rw [(CharSet.contains_single_iff c).mp hd]
    rfl
  · rintro rfl
    exact ⟨[c], [], rfl, ⟨c, rfl, (CharSet.contains_single_iff c).mpr rfl⟩, rfl⟩

/-- What a label may have behind its first character. -/
def IsLabelRest (chars : List Char) : Prop :=
  chars = [] ∨ ∃ middle last, chars = middle ++ [last] ∧ middle.length ≤ 61 ∧
    (∀ c ∈ middle, IsLabelSign c) ∧ last.isAlphanum = true

theorem matches_labelRest_iff : labelRest.Matches before word after ↔ IsLabelRest word := by
  rw [labelRest, matches_optional_iff]
  refine or_congr_right ⟨?_, ?_⟩
  · rintro ⟨middle, rest, rfl, hmiddle, final, none, rfl, ⟨last, rfl, hlast⟩, rfl⟩
    obtain ⟨-, hlength, hmiddle⟩ := matches_times_one_iff.mp hmiddle
    exact ⟨middle, last, rfl, hlength 61 rfl,
      fun c hc => contains_labelSigns_iff.mp (hmiddle c hc), contains_letters_iff.mp hlast⟩
  · rintro ⟨middle, last, rfl, hlength, hmiddle, hlast⟩
    refine ⟨middle, [last], rfl, matches_times_one_iff.mpr ⟨Nat.zero_le _, by simpa, ?_⟩,
      [last], [], rfl, ⟨last, rfl, contains_letters_iff.mpr hlast⟩, rfl⟩
    exact fun c hc => contains_labelSigns_iff.mpr (hmiddle c hc)

theorem isLabel_cons_iff {c : Char} {rest : List Char} :
    IsLabel (c :: rest) ↔ c.isAlphanum = true ∧ IsLabelRest rest := by
  have hhyphen : '-'.isAlphanum ≠ true := by decide
  constructor
  · intro h
    obtain ⟨hfirst, hrest⟩ := List.forall_mem_cons.mp h.signs
    refine ⟨Or.resolve_right hfirst fun heq => h.first (congrArg some heq), ?_⟩
    rcases List.eq_nil_or_concat' rest with rfl | ⟨middle, last, rfl⟩
    · exact .inl rfl
    · have hlast : last ≠ '-' := fun heq =>
        h.last (by rw [← List.cons_append, List.getLast?_concat, heq])
      have hshort := h.short
      rw [List.length_cons, List.length_append, List.length_singleton] at hshort
      rw [List.forall_mem_append] at hrest
      exact .inr ⟨middle, last, rfl, by omega, hrest.1,
        Or.resolve_right (hrest.2 last (List.mem_singleton_self last)) hlast⟩
  · rintro ⟨hfirst, rfl | ⟨middle, last, rfl, hlength, hmiddle, hlast⟩⟩
    · refine ⟨by simp, by simp, by simpa using .inl hfirst, ?_, ?_⟩
      all_goals
        rintro ⟨⟩
        exact hhyphen hfirst
    · have hshort : (c :: (middle ++ [last])).length ≤ 63 := by
        rw [List.length_cons, List.length_append, List.length_singleton]
        omega
      refine ⟨by simp, hshort, ?_, ?_, ?_⟩
      · rw [List.forall_mem_cons, List.forall_mem_append]
        exact ⟨.inl hfirst, hmiddle, by simpa using .inl hlast⟩
      · rintro ⟨⟩
        exact hhyphen hfirst
      · rw [← List.cons_append, List.getLast?_concat]
        rintro ⟨⟩
        exact hhyphen hlast

theorem matches_labelThen_iff : (labelThen next).Matches before word after ↔
    ∃ label rest, word = label ++ rest ∧ IsLabel label ∧
      next.Matches (label.getLast?.or before) rest after := by
  constructor
  · rintro ⟨first, tail, rfl, ⟨c, rfl, hc⟩, middle, rest, rfl, hmiddle, hrest⟩
    have hlabel : IsLabel (c :: middle) := isLabel_cons_iff.mpr
      ⟨contains_letters_iff.mp hc, matches_labelRest_iff.mp hmiddle⟩
    refine ⟨c :: middle, rest, rfl, hlabel, ?_⟩
    rwa [getLast?_cons_or]
  · rintro ⟨label, rest, rfl, hlabel, hrest⟩
    cases label with
    | nil => exact absurd hlabel.nonempty (by simp)
    | cons c middle =>
      obtain ⟨hc, hmiddle⟩ := isLabel_cons_iff.mp hlabel
      rw [getLast?_cons_or] at hrest
      exact ⟨[c], middle ++ rest, rfl, ⟨c, rfl, contains_letters_iff.mpr hc⟩,
        middle, rest, rfl, matches_labelRest_iff.mpr hmiddle, hrest⟩

theorem matches_dotLabel_iff : dotLabel.Matches before word after ↔
    ∃ label, word = '.' :: label ∧ IsLabel label := by
  constructor
  · rintro ⟨first, rest, rfl, hfirst, hrest⟩
    obtain ⟨label, none, rfl, hlabel, rfl⟩ := matches_labelThen_iff.mp hrest
    rw [matches_character_iff.mp hfirst, List.append_nil]
    exact ⟨label, rfl, hlabel⟩
  · rintro ⟨label, rfl, hlabel⟩
    exact ⟨['.'], label, rfl, matches_character_iff.mpr rfl,
      matches_labelThen_iff.mpr ⟨label, [], (List.append_nil label).symm, hlabel, rfl⟩⟩

theorem intercalate_cons (first : List Char) (rest : List (List Char)) :
    List.intercalate ['.'] (first :: rest) = first ++ rest.flatMap ('.' :: ·) := by
  induction rest generalizing first with
  | nil => simp
  | cons second rest ih =>
    rw [List.intercalate_cons_cons, ih, List.flatMap_cons, List.append_assoc]
    rfl

theorem matches_dotLabels_iff : (times dotLabel 1 none).Matches before word after ↔
    ∃ labels : List (List Char), 1 ≤ labels.length ∧ (∀ label ∈ labels, IsLabel label) ∧
      word = labels.flatMap ('.' :: ·) := by
  have hrepeated (n : Nat) : Repeated dotLabel.Matches n before word after ↔
      ∃ labels : List (List Char), labels.length = n ∧ (∀ label ∈ labels, IsLabel label) ∧
        word = labels.flatMap ('.' :: ·) :=
    repeated_iff fun _ _ _ => matches_dotLabel_iff
  constructor
  · rintro ⟨n, hn, -, hword⟩
    obtain ⟨labels, rfl, hlabels⟩ := (hrepeated n).mp hword
    exact ⟨labels, hn, hlabels⟩
  · rintro ⟨labels, hlength, hlabels⟩
    exact ⟨labels.length, hlength, by simp, (hrepeated _).mpr ⟨labels, rfl, hlabels⟩⟩

theorem isDomain_iff {chars : List Char} : IsDomain chars ↔
    ∃ first : List Char, ∃ rest : List (List Char), IsLabel first ∧ 1 ≤ rest.length ∧
      (∀ label ∈ rest, IsLabel label) ∧ chars = first ++ rest.flatMap ('.' :: ·) := by
  constructor
  · rintro ⟨labels, hlength, hlabels, rfl⟩
    cases labels with
    | nil => cases hlength
    | cons first rest =>
      rw [List.forall_mem_cons] at hlabels
      exact ⟨first, rest, hlabels.1, Nat.le_of_succ_le_succ hlength, hlabels.2,
        intercalate_cons first rest⟩
  · rintro ⟨first, rest, hfirst, hlength, hrest, rfl⟩
    exact ⟨first :: rest, Nat.succ_le_succ hlength, List.forall_mem_cons.mpr ⟨hfirst, hrest⟩,
      (intercalate_cons first rest).symm⟩

theorem count_at_of_local {name : List Char} (h : ∀ c ∈ name, IsLocalSign c) :
    name.count '@' = 0 := by
  rw [List.count_eq_zero]
  exact fun hat => absurd (h '@' hat) (by unfold IsLocalSign; decide)

theorem IsLabel.not_mem_at {label : List Char} (h : IsLabel label) : '@' ∉ label := by
  intro hat
  exact absurd (h.signs '@' hat) (by unfold IsLabelSign; decide)

theorem IsDomain.count_at {chars : List Char} (h : IsDomain chars) : chars.count '@' = 0 := by
  obtain ⟨first, rest, hfirst, -, hrest, rfl⟩ := isDomain_iff.mp h
  rw [List.count_eq_zero, List.mem_append, List.mem_flatMap]
  rintro (hat | ⟨label, hlabel, hat⟩)
  · exact hfirst.not_mem_at hat
  · rcases List.mem_cons.mp hat with h | hat
    · cases h
    · exact (hrest label hlabel).not_mem_at hat

/-- A label, more labels behind dots, and the end of the text. -/
theorem matches_domain_iff :
    (labelThen (seq (times dotLabel 1 none) (seq (anchor .textEnd) empty))).Matches
      before word after ↔ after = none ∧ IsDomain word := by
  rw [matches_labelThen_iff, isDomain_iff]
  constructor
  · rintro ⟨label, _, rfl, hlabel, dotted, _, rfl, hdotted, _, _, rfl, ⟨rfl, hend⟩, rfl⟩
    obtain ⟨labels, hlength, hlabels, rfl⟩ := matches_dotLabels_iff.mp hdotted
    rw [List.append_nil, List.append_nil]
    exact ⟨Option.isNone_iff_eq_none.mp hend, label, labels, hlabel, hlength, hlabels, rfl⟩
  · rintro ⟨rfl, label, labels, hlabel, hlength, hlabels, rfl⟩
    exact ⟨label, _, rfl, hlabel, labels.flatMap ('.' :: ·), [], (List.append_nil _).symm,
      matches_dotLabels_iff.mpr ⟨labels, hlength, hlabels, rfl⟩, [], [], rfl, ⟨rfl, rfl⟩, rfl⟩

theorem matches_address_iff : address.Matches before word after ↔
    before = none ∧ after = none ∧ IsAddress word := by
  constructor
  · rintro ⟨_, _, rfl, ⟨rfl, hstart⟩, name, _, rfl, hname, _, domain, rfl, hat, hrest⟩
    obtain ⟨hlength, -, hsigns⟩ := matches_times_one_iff.mp hname
    obtain ⟨rfl, hdomain⟩ := matches_domain_iff.mp hrest
    obtain rfl := matches_character_iff.mp hat
    have hlocal : ∀ c ∈ name, IsLocalSign c := fun c hc => contains_localSigns_iff.mp (hsigns c hc)
    refine ⟨Option.isNone_iff_eq_none.mp hstart, rfl, ?_, name, domain, rfl,
      List.ne_nil_of_length_pos hlength, hlocal, hdomain⟩
    simp [count_at_of_local hlocal, hdomain.count_at]
  · rintro ⟨rfl, rfl, -, name, domain, rfl, hne, hlocal, hdomain⟩
    have hname : ∀ c ∈ name, localSigns.contains c = true :=
      fun c hc => contains_localSigns_iff.mpr (hlocal c hc)
    exact ⟨[], _, rfl, ⟨rfl, rfl⟩, name, '@' :: domain, rfl,
      matches_times_one_iff.mpr ⟨List.length_pos_iff.mpr hne, by simp, hname⟩,
      ['@'], domain, rfl, matches_character_iff.mpr rfl, matches_domain_iff.mpr ⟨rfl, hdomain⟩⟩

/-- The anchors leave no part of a text to match but the whole. -/
theorem occurs_address_iff {chars : List Char} : address.Occurs none chars ↔ IsAddress chars := by
  constructor
  · rintro ⟨skipped, _, rfl, matched, rest, rfl, hmatches⟩
    obtain ⟨hstart, hend, haddress⟩ := matches_address_iff.mp hmatches
    rw [Option.or_none, List.getLast?_eq_none_iff] at hstart
    rw [List.head?_eq_none_iff] at hend
    rwa [hstart, hend, List.nil_append, List.append_nil]
  · intro h
    exact ⟨[], chars, rfl, chars, [], (List.append_nil chars).symm,
      matches_address_iff.mpr ⟨rfl, rfl, h⟩⟩

theorem isEmail_iff (chars : List Char) : isEmail chars = true ↔ IsAddress chars := by
  have hcounted : address.isCounted = true := by decide
  have hinside : address.acceptsInside = false := by decide
  rw [isEmail, address?_eq, Option.any_some, matchesIn_iff hcounted hinside, String.toList_ofList,
    occurs_address_iff]

end FormRules.Format.Email

namespace FormRules.Operator

open Format.Email

/-- The operator for e-mail addresses accepts a text just if it is one at sign with a local part
before it and two or more labels behind it. -/
theorem emailFormat_accepts_addresses (text : String) (operand : Option Value) :
    emailFormat.holds (some (.string text)) operand = true ↔ IsAddress text.toList :=
  isEmail_iff text.toList

end FormRules.Operator
