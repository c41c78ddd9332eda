import FormRules.Proofs.RuleText.Precedence

/-!
The text for display of a condition, read again. It is the source of the condition where no
literal needs more than that: no doubles, no quotes or backslashes in strings, and only
identifiers as names of map entries. So a condition that was read is read again from its
text (`readCondition_text`).
-/

namespace FormRules

open RuleText

namespace Value

/-- A part of a value that is displayed as it is written in rule text. -/
def PlainNode : Value → Prop
  | float _ => False
  | string text => '"' ∉ text.toList ∧ '\\' ∉ text.toList
  | map entries => ∀ entry ∈ entries, isIdentifier entry.1 = true
  | _ => True

/-- A value without doubles, with no quotes or backslashes in its strings, and with
identifiers as names of map entries. -/
def Plain (value : Value) : Prop := value.Every PlainNode

theorem writeItems_eq_joinCommas (items : List Value) :
    writeItems items = joinCommas (items.map write) := by
  induction items with
  | nil => rfl
  | cons item rest ih =>
    cases rest with
    | nil => rfl
    | cons next others =>
      rw [writeItems, ih]
      rfl

theorem writeEntries_eq_joinCommas (entries : List (String × Value)) :
    writeEntries entries =
      joinCommas (entries.map fun entry => entry.1.toList ++ ':' :: ' ' :: entry.2.write) := by
  induction entries with
  | nil => rfl
  | cons entry rest ih =>
    cases rest with
    | nil => rfl
    | cons next others =>
      rw [writeEntries, ih]
      simp [joinCommas, joinWith]

theorem flatMap_escape {chars : List Char} (hquote : '"' ∉ chars) (hbackslash : '\\' ∉ chars) :
    chars.flatMap escape = chars := by
  induction chars with
  | nil => rfl
  | cons c rest ih =>
    rw [List.mem_cons, not_or] at hquote hbackslash
    have hescape : escape c = [c] :=
      if_neg (not_or.mpr ⟨hquote.1 ∘ Eq.symm, hbackslash.1 ∘ Eq.symm⟩)
    rw [List.flatMap_cons, hescape, ih hquote.2 hbackslash.2]
    rfl

/-- A plain value is displayed by its source. -/
theorem write_eq_source {value : Value} (h : value.Plain) : value.write = value.source := by
  induction value with
  | string text =>
    obtain ⟨hquote, hbackslash⟩ := h
    rw [write, source, quote, flatMap_escape hquote hbackslash]
  | array items ih =>
    obtain ⟨_, hitems⟩ := every_array.mp h
    rw [write, source, writeItems_eq_joinCommas, sources_eq_map]
    rw [List.map_congr_left fun item hmem => ih item hmem (hitems item hmem)]
  | map entries ih =>
    obtain ⟨hkeys, hentries⟩ := every_map.mp h
    rw [write, source, writeEntries_eq_joinCommas, entrySources_eq_map]
    rw [List.map_congr_left fun entry hmem => ?_]
    rw [entrySource, keySource, if_pos (hkeys entry hmem), ih entry hmem (hentries entry hmem)]
  | null => rfl
  | bool truth => rfl
  | int n => rfl
  | float x => exact h.elim

end Value

namespace Expr

theorem writeArgs_eq_joinCommas (args : List Expr) :
    writeArgs args = joinCommas (args.map write) := by
  induction args with
  | nil => rfl
  | cons arg rest ih =>
    cases rest with
    | nil => rfl
    | cons next others =>
      rw [writeArgs, ih]
      rfl

theorem write_eq_source {e : Expr} (h : e.Literals Value.Plain) : e.write = e.source := by
  induction e with
  | literal value => exact Value.write_eq_source h
  | field name property => cases property <;> rfl
  | context path => rfl
  | call name args ih =>
    obtain ⟨_, hargs⟩ := every_call.mp h
    rw [write, source, writeArgs_eq_joinCommas, sources_eq_map]
    rw [List.map_congr_left fun arg hmem => ih arg hmem (hargs arg hmem)]

end Expr

namespace Condition

theorem writeAll_eq_joinWith (word : List Char) (children : List Condition) :
    writeAll word children = joinWith (' ' :: (word ++ [' '])) (children.map write) := by
  induction children with
  | nil => rfl
  | cons child rest ih =>
    cases rest with
    | nil => rfl
    | cons next others =>
      rw [writeAll, ih]
      simp [joinWith]

theorem comparison_write_eq_source {c : Comparison} (h : c.operand.Literals Value.Plain) :
    c.write = c.source := by
  unfold Comparison.write Comparison.source
  rw [Expr.write_eq_source h]
  cases c.transform <;> simp [optionSource]

theorem write_eq_source {c : Condition} (h : c.Literals Value.Plain) : c.write = c.source := by
  induction c with
  | comparison c => exact comparison_write_eq_source h
  | group connective children ih =>
    obtain ⟨_, hchildren⟩ := every_group.mp h
    have hmap : children.map write = children.map source :=
      List.map_congr_left fun child hmem => ih child hmem (hchildren child hmem)
    cases connective with
    | not =>
      rw [write, source, sources_eq_map, ← hmap]
      cases children <;> simp [writeFirst]
    | and =>
      rw [write, source, writeAll_eq_joinWith, sources_eq_map, hmap]
      rfl
    | or =>
      rw [write, source, writeAll_eq_joinWith, sources_eq_map, hmap]
      rfl

end Condition

/-- What was read as a condition is read again from its text for display, if its literals
are plain. -/
theorem RuleText.readCondition_text {text : String} {c : Condition}
    (hread : readCondition text = .ok c) (hplain : c.Literals Value.Plain) :
    readCondition c.text = .ok c := by
  obtain ⟨rest, hcondition, _⟩ := readCondition_eq_ok.mp hread
  obtain ⟨hreadable, hnormal⟩ := (yields_condition _ _ _ hcondition).2
  have hvalue : ∀ value : Value, value.Normal → value.Plain → value.Writable := by
    refine fun value hnormal hplain => hnormal.imp₂ hplain fun v hsorted hnode => ?_
    cases v <;> trivial
  have hexpr : ∀ e : Expr, e.Literals Value.Normal → e.Literals Value.Plain →
      e.Literals Value.Writable := by
    refine fun e hnormal hplain => hnormal.imp₂ hplain fun e hsorted hnode => ?_
    cases e <;> first | trivial | exact hvalue _ hsorted hnode
  have hwritable : c.Literals Value.Writable := by
    refine hnormal.imp₂ hplain fun c hsorted hnode => ?_
    cases c <;> first | trivial | exact hexpr _ hsorted hnode
  rw [Condition.text, Condition.write_eq_source hplain]
  exact readCondition_source hreadable hwritable

/-- A condition whose text for display has more parentheses than rule text needs. -/
def RuleText.discount : Condition :=
  .group .or [
    .group .and [
      .comparison ⟨"age", .greaterThan, .literal (.int 17), none⟩,
      .negate (.comparison ⟨"name", .isEmpty, .literal .null, some "trim"⟩)],
    .comparison ⟨"plan", .equals, .call "pick" [.literal (.string "a"), .field "x" (some "y")],
      none⟩]

theorem RuleText.discount_read_again :
    readCondition
        "age greater_than 17 AND not name | trim is_empty or plan equals pick(\"a\", $x.y)" =
        .ok discount ∧
      discount.Literals Value.Plain ∧ readCondition discount.text = .ok discount := by
  have hspace : Gap [' '] := .blank (by decide) .nil
  have hage : ReadsAs .unary "age greater_than 17".toList
      (.comparison ⟨"age", .greaterThan, .literal (.int 17), none⟩) :=
    readsAs_comparison rfl { field := by decide, transform := by simp, operand := trivial } trivial
  have hname : ReadsAs .unary "name | trim is_empty".toList
      (.comparison ⟨"name", .isEmpty, .literal .null, some "trim"⟩) :=
    readsAs_comparison rfl { field := by decide, transform := by decide, operand := rfl } trivial
  have hproperty : ∀ path ∈ some "y", ∀ c ∈ path.toList, isIdentChar c = true := by
    rintro _ ⟨⟩
    exact List.all_eq_true.mp (by decide)
  have hpick : (Expr.call "pick" [.literal (.string "a"), .field "x" (some "y")]).Readable :=
    ⟨⟨by decide, by decide⟩, trivial, ⟨by decide, by decide, hproperty⟩, trivial⟩
  have hplan : ReadsAs .unary "plan equals pick(\"a\", $x.y)".toList (.comparison ⟨"plan", .equals,
      .call "pick" [.literal (.string "a"), .field "x" (some "y")], none⟩) :=
    readsAs_comparison rfl { field := by decide, transform := by simp, operand := hpick }
      ⟨trivial, trivial, trivial, trivial⟩
  have hnot := readsAs_negation (List.mem_cons_of_mem "NOT" (List.mem_singleton.mpr rfl)) hspace
    (by decide) hname
  have hand := readsAs_and (readsAs_conjunction hage) hspace (by decide)
    (List.mem_cons_self (a := "AND")) hspace (by decide) hnot
  have hor := readsAs_or (readsAs_disjunction hand) hspace (by decide)
    (List.mem_cons_of_mem "OR" (List.mem_singleton.mpr rfl)) hspace (by decide)
    (readsAs_conjunction hplan)
  have hread := readCondition_of_readsAs .nil hor .nil
  have hplain : discount.Literals Value.Plain := by
    simp [discount, Condition.negate, Condition.Literals, Condition.Every, Condition.EveryChild,
      Condition.OfComparison, Expr.Literals, Expr.Every, Expr.EveryArg, Expr.OfLiteral,
      Value.Plain, Value.Every, Value.PlainNode]
  exact ⟨hread, hplain, readCondition_text hread hplain⟩

end FormRules
