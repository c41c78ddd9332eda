import FormRules.Context
import FormRules.Proofs.Path
import Mathlib.Tactic.SplitIfs

/-!
Paths into the context. Sections are read in ways of their own: named values start at an entry, a
permission is named by the whole path, and there is no path into the timestamp. All of them lead
where the path leads inside the section taken as one value (`insideSection?_eq`), so a path into
the context is one descent along its segments, and cutting it at any dot does not change where it
leads (`Path.lookup_composes`).
-/

namespace FormRules

namespace Path

theorem segments_of_splitFirst?_eq_none {path : String} (h : splitFirst? path = none) :
    segments path = [path] := by
  rw [segments, segmentsOf_of_no_dot (no_dot_of_splitFirst?_eq_none h)]
  simp

/-- A number has no dots in it. -/
theorem index?_of_splitFirst? {path head rest : String}
    (h : splitFirst? path = some (head, rest)) : index? path = none := by
  have hdot : '.' ∈ path.toList := by
    rw [(toList_of_splitFirst? h).2]
    simp
  have hdigits : ∀ chars : List Char, '.' ∈ chars → Numeral.digits? chars = none := by
    intro chars hmem
    have hall : chars.all Char.isDigit = false :=
      List.all_eq_false.mpr ⟨'.', hmem, by decide⟩
    rw [Numeral.digits?, hall]
    simp
  unfold index? Numeral.natural?
  split
  · rename_i digits hplus
    rw [hplus] at hdot
    exact hdigits digits (by simpa using hdot)
  · exact hdigits _ hdot

end Path

namespace Value

theorem atPath?_of_splitFirst?_eq_none (value : Value) {path : String}
    (h : Path.splitFirst? path = none) : value.atPath? path = value.child? path := by
  rw [atPath?, Path.segments_of_splitFirst?_eq_none h, descend?]
  exact Option.bind_fun_some _

theorem atPath?_of_splitFirst? (value : Value) {path head rest : String}
    (h : Path.splitFirst? path = some (head, rest)) :
    value.atPath? path = (value.child? head).bind fun next => next.atPath? rest := by
  rw [atPath?, Path.segments_of_splitFirst? h]
  rfl

/-- No path leads into a text. -/
theorem atPath?_string (text path : String) : (string text).atPath? path = none := by
  cases h : Path.splitFirst? path with
  | none => exact atPath?_of_splitFirst?_eq_none _ h
  | some parts => exact atPath?_of_splitFirst? _ h

theorem atPath?_append (value : Value) (path rest : String) :
    value.atPath? (path ++ "." ++ rest) =
      (value.atPath? path).bind fun next => next.atPath? rest := by
  rw [atPath?, Path.segments_append, descend?_append]
  rfl

end Value

namespace Context

section Sections

/-! What a path finds in a section, whichever way it is read, lies at that path inside the value
of the section. -/

theorem entryAt?_eq (entries : Dict Value) (path : String) :
    entryAt? entries path = (Value.ofDict entries).atPath? path := by
  unfold entryAt?
  cases h : Path.splitFirst? path with
  | none =>
    rw [Value.atPath?_of_splitFirst?_eq_none _ h]
    rfl
  | some parts =>
    rw [Value.atPath?_of_splitFirst? _ h]
    rfl

/-- A longer path is no position in the list, and does not lead into a text of the list either. -/
theorem permissionAt?_eq (permissions : List String) (path : String) :
    ((Path.index? path).bind fun i => permissions[i]?.map Value.string) =
      (Value.ofStrings permissions).atPath? path := by
  cases h : Path.splitFirst? path with
  | none =>
    rw [Value.atPath?_of_splitFirst?_eq_none _ h]
    simp only [Value.ofStrings, Value.child?, List.getElem?_map]
  | some parts =>
    obtain ⟨head, rest⟩ := parts
    rw [Path.index?_of_splitFirst? h, Value.atPath?_of_splitFirst? _ h]
    simp only [Value.ofStrings, Value.child?, List.getElem?_map, Option.bind_none]
    cases Path.index? head with
    | none => rfl
    | some i =>
      rw [Option.bind_some]
      cases permissions[i]? with
      | none => rfl
      | some permission => exact (Value.atPath?_string permission rest).symm

theorem insideSection?_eq (ctx : Context) (name path : String) :
    ctx.insideSection? name path = (ctx.section? name).bind fun value => value.atPath? path := by
  unfold insideSection? section?
  split_ifs with hform hmetadata hcustom huser hpermissions htimestamp
  · exact entryAt?_eq ctx.formData path
  · exact entryAt?_eq ctx.metadata path
  · exact entryAt?_eq ctx.custom path
  · rfl
  · exact permissionAt?_eq ctx.permissions path
  · cases ctx.timestamp with
    | none => rfl
    | some moment => exact (Value.atPath?_string _ path).symm
  · rfl

end Sections

/-- The value at the segments of a path: a section, and a path into it. -/
def descend? (ctx : Context) : List String → Option Value
  | [] => none
  | name :: rest => (ctx.section? name).bind fun value => value.descend? rest

theorem lookup?_eq_descend? (ctx : Context) (path : String) :
    ctx.lookup? path = ctx.descend? (Path.segments path) := by
  unfold lookup?
  cases h : Path.splitFirst? path with
  | none =>
    rw [Path.segments_of_splitFirst?_eq_none h]
    exact (Option.bind_fun_some _).symm
  | some parts =>
    rw [Path.segments_of_splitFirst? h]
    exact insideSection?_eq ctx _ _

theorem descend?_append (ctx : Context) {segments : List String} (h : segments ≠ [])
    (rest : List String) :
    ctx.descend? (segments ++ rest) =
      (ctx.descend? segments).bind fun value => value.descend? rest := by
  cases segments with
  | nil => exact absurd rfl h
  | cons name inner =>
    simp only [List.cons_append, descend?, Value.descend?_append, Option.bind_assoc]

theorem lookup?_append (ctx : Context) (path rest : String) :
    ctx.lookup? (path ++ "." ++ rest) =
      (ctx.lookup? path).bind fun value => value.atPath? rest := by
  have hne : Path.segments path ≠ [] := by
    simpa [Path.segments] using Path.segmentsOf_ne_nil path.toList
  rw [lookup?_eq_descend?, lookup?_eq_descend?, Path.segments_append, descend?_append ctx hne]
  rfl

end Context

/-- A path may be cut at any of its dots: in the context and in every value, it leads where its
end leads from where its beginning does, and nowhere if its beginning leads nowhere. -/
theorem Path.lookup_composes (path rest : String) :
    (∀ ctx : Context, ctx.lookup? (path ++ "." ++ rest) =
      (ctx.lookup? path).bind fun value => value.atPath? rest) ∧
    ∀ value : Value, value.atPath? (path ++ "." ++ rest) =
      (value.atPath? path).bind fun next => next.atPath? rest :=
  ⟨fun ctx => ctx.lookup?_append path rest, fun value => value.atPath?_append path rest⟩

end FormRules
