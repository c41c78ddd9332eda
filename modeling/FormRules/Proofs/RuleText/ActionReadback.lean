import FormRules.Proofs.RuleText.ConditionReadback

/-!
Reading actions back. An action may end in parts that are optional, so what follows it must
not look like one of them: no name, no parenthesis and no equals sign (`EndsAction`). A
comma, the end of the text and the next rule are fine.
-/

namespace FormRules

open RuleText

/-- A name that is no reserved word. -/
def RuleText.IsName (word : String) : Prop :=
  isIdentifier word = true ∧ reserved.contains word = false

instance (word : String) : Decidable (IsName word) :=
  inferInstanceAs (Decidable (isIdentifier word = true ∧ reserved.contains word = false))

/-- An expression that can be written and read back. -/
def Expr.Writable (e : Expr) : Prop := e.Readable ∧ e.Literals Value.Writable

/-- What an action does, as far as rule text can say it: a value and a required flag are not
set together. -/
def ActionKind.Writable : ActionKind → Prop
  | .setValue (some e) required => e.Writable ∧ required = none
  | .setValue none required => required.isSome
  | .setOptions e => e.Writable
  | .custom name value params => isIdentifier name = true ∧ (∀ e ∈ value, e.Writable) ∧
      ∀ entry ∈ params.toList, entry.2.Writable
  | _ => True

/-- An action that rule text can express. Custom actions have no target. -/
structure Action.Writable (action : Action) : Prop where
  kind : action.kind.Writable
  target : ∀ name ∈ action.target, IsName name
  custom : action.kind.isCustom = true → action.target = none

namespace RuleText

open Reader

/-- Nothing follows that would belong to the action. -/
structure EndsAction (rest : List Char) : Prop where
  endsWord : EndsWord rest
  refusesName : Refuses name (dropBlanks rest)
  noParen : (dropBlanks rest).head? ≠ some '('
  noEquals : (dropBlanks rest).head? ≠ some '='

section Parts

variable {rest : List Char}

theorem after_blanks {α : Type} (p : Reader α) (text : List Char) :
    after blanks p text = p (dropBlanks text) := rfl

theorem refuses_after_blanks {α : Type} {p : Reader α} (h : Refuses p (dropBlanks rest)) :
    Refuses (after blanks p) rest := h

/-- An optional target is read back, also where it is missing. -/
theorem target_source {word : Option String} (hword : ∀ name ∈ word, IsName name)
    (hends : EndsWord rest) (hnone : Refuses name (dropBlanks rest)) :
    target (optionSource " " String.toList word ++ rest) = .done word rest := by
  unfold target
  cases word with
  | none => exact optional_of_refuses (refuses_after_blanks hnone)
  | some word =>
    have hname := hword word rfl
    refine optional_of_done ?_
    have hdrop : dropBlanks (' ' :: (word.toList ++ rest)) = word.toList ++ rest := by
      rw [((startsToken_of_isIdentifier hname.1).append rest).dropBlanks_space]
    rw [after_blanks]
    exact (congrArg name hdrop).trans (name_eq_done.mpr ⟨hname, rfl, hends⟩)

theorem refuses_name_of_head {c : Char} {tail : List Char}
    (hdrop : dropBlanks rest = c :: tail) (hc : isIdentStart c = false) :
    Refuses name (dropBlanks rest) := by
  rw [hdrop]
  exact guardedBy_name _ (by simpa using hc)

/-- An equals sign and an expression are read back. -/
theorem assigned_source {e : Expr} (he : e.Writable) (hends : EndsWord rest) :
    assigned (" = ".toList ++ (e.source ++ rest)) = .done e rest := by
  have hequals : spaced '=' (" = ".toList ++ (e.source ++ rest)) = .done () (e.source ++ rest) := by
    refine spaced_eq_done.mpr ⟨' ' :: (e.source ++ rest), ?_, ?_⟩
    · exact dropBlanks_space (by decide)
    · rw [((startsToken_expr he.1 he.2).append rest).dropBlanks_space]
  exact (bind_of_done hequals).trans (commit_eq_done.mpr (expr_source he.1 he.2 rest hends))

theorem refuses_assigned (h : (dropBlanks rest).head? ≠ some '=') : Refuses assigned rest :=
  refuses_bind.mpr (.inl (refuses_spaced.mpr h))

theorem quoted_source (text : String) :
    quoted (' ' :: (quote text ++ rest)) = .done text rest := by
  have hdrop : dropBlanks (' ' :: (quote text ++ rest)) = quote text ++ rest := by
    rw [((startsToken_quote text).append rest).dropBlanks_space]
  refine label_eq_done.mpr ?_
  rw [after_blanks, hdrop]
  exact commit_eq_done.mpr (quotedString_quote text rest)

/-- Parameters in parentheses are read back. -/
theorem params_source {dict : Dict Value} (h : ∀ entry ∈ dict.toList, entry.2.Writable) :
    params ('(' :: (joinCommas (dict.toList.map Value.entrySource) ++ ')' :: rest)) =
      .done dict rest := by
  have hend : StartsToken (')' :: rest) := startsToken_cons.mpr (by decide)
  have hopener : ∀ inner, StartsToken inner → spaced '(' ('(' :: inner) = .done () inner := by
    intro inner hinner
    refine spaced_eq_done.mpr ⟨inner, ?_, hinner.dropBlanks⟩
    exact dropBlanks_cons (by decide)
  have hentries : between (spaced '(') (closing ')') (separated (spaced ',') (mapEntry literal))
      ('(' :: (joinCommas (dict.toList.map Value.entrySource) ++ ')' :: rest)) =
      .done dict.toList rest :=
    between_joinCommas hopener (closing_cons hend) (by decide) hend (by decide)
      (fun entry hmem => mapEntry_source (h entry hmem) (literal_source (h entry hmem)))
      (fun entry _ => (startsToken_keySource entry.1).append _)
      (guardedBy_mapEntry _ (by simp; decide))
  refine map_eq_done.mpr ⟨dict.toList, hentries, ?_⟩
  obtain ⟨entries, hsorted⟩ := dict
  simp only [Dict.ofList, Entries.ofList_of_sorted hsorted]

theorem refuses_params (h : (dropBlanks rest).head? ≠ some '(') : Refuses params rest :=
  refuses_map.mpr (refuses_bind.mpr (.inl (refuses_spaced.mpr h)))

end Parts

section Actions

variable {rest : List Char} {word : Option String}

/-- An action that ends with its target is read back. -/
theorem targeted_source (kind : ActionKind) (hword : ∀ name ∈ word, IsName name)
    (hends : EndsAction rest) :
    (Reader.bind target fun target => give (⟨kind, target⟩ : Action))
      (optionSource " " String.toList word ++ rest) = .done ⟨kind, word⟩ rest := by
  rw [bind_of_done (target_source hword hends.endsWord hends.refusesName)]
  rfl

theorem withExpr_source (kind : Expr → ActionKind) {e : Expr} (he : e.Writable)
    (hword : ∀ name ∈ word, IsName name) (hends : EndsAction rest) :
    (Reader.bind target fun target => Reader.bind assigned fun e =>
        give (⟨kind e, target⟩ : Action))
      (optionSource " " String.toList word ++ (" = ".toList ++ (e.source ++ rest))) =
      .done ⟨kind e, word⟩ rest := by
  have hnone : Refuses name (dropBlanks (" = ".toList ++ (e.source ++ rest))) :=
    refuses_name_of_head (dropBlanks_space (c := '=') (by decide)) (by decide)
  have hspace : EndsWord (" = ".toList ++ (e.source ++ rest)) := endsWord_space
  rw [bind_of_done (target_source hword hspace hnone),
    bind_of_done (assigned_source he hends.endsWord)]
  rfl

theorem withText_source (kind : String → ActionKind) (text : String)
    (hword : ∀ name ∈ word, IsName name) :
    (Reader.bind target fun target => Reader.bind quoted fun text =>
        give (⟨kind text, target⟩ : Action))
      (optionSource " " String.toList word ++ (' ' :: (quote text ++ rest))) =
      .done ⟨kind text, word⟩ rest := by
  have hnone : Refuses name (dropBlanks (' ' :: (quote text ++ rest))) :=
    refuses_name_of_head (dropBlanks_space (c := '"') (by decide)) (by decide)
  have htarget := target_source hword (endsWord_space) hnone
  rw [bind_of_done htarget, bind_of_done (quoted_source text)]
  rfl

/-- Optional parameters are read back, none being empty ones. -/
theorem optional_params_source {dict : Dict Value}
    (h : ∀ entry ∈ dict.toList, entry.2.Writable) (hrest : (dropBlanks rest).head? ≠ some '(') :
    ∃ read, optional params (paramsSource dict ++ rest) = .done read rest ∧
      read.getD {} = dict := by
  unfold paramsSource
  cases hempty : dict.isEmpty with
  | true =>
    refine ⟨none, optional_of_refuses (refuses_params hrest), ?_⟩
    obtain ⟨entries, hsorted⟩ := dict
    obtain rfl : entries = [] := List.isEmpty_iff.mp hempty
    rfl
  | false =>
    refine ⟨some dict, ?_, rfl⟩
    rw [if_neg (by decide), List.cons_append, List.append_assoc]
    exact optional_of_done (params_source h)

/-- An optional value is read back. -/
theorem optional_assigned_source {value : Option Expr} (h : ∀ e ∈ value, e.Writable)
    (hends : EndsAction rest) :
    optional assigned (optionSource " = " Expr.source value ++ rest) = .done value rest := by
  cases value with
  | none => exact optional_of_refuses (refuses_assigned hends.noEquals)
  | some e =>
    rw [optionSource, List.append_assoc]
    exact optional_of_done (assigned_source (h e rfl) hends.endsWord)

theorem optional_assigned_head (value : Option Expr) (hends : EndsAction rest) :
    EndsWord (optionSource " = " Expr.source value ++ rest) ∧
      (dropBlanks (optionSource " = " Expr.source value ++ rest)).head? ≠ some '(' := by
  cases value with
  | none => exact ⟨hends.endsWord, hends.noParen⟩
  | some e =>
    have hdrop : dropBlanks (optionSource " = " Expr.source (some e) ++ rest) =
        '=' :: ' ' :: (e.source ++ rest) := by
      rw [optionSource, List.append_assoc]
      exact dropBlanks_space (by decide)
    rw [hdrop]
    exact ⟨endsWord_space, by simp⟩

/-- A custom action is read back. -/
theorem custom_source {name : String} {value : Option Expr} {dict : Dict Value}
    (h : (ActionKind.custom name value dict).Writable) (hends : EndsAction rest) :
    actionAfter "custom" ((ActionKind.custom name value dict).source.2 ++ rest) =
      .done ⟨.custom name value dict, none⟩ rest := by
  obtain ⟨hname, hvalue, hdict⟩ := h
  obtain ⟨hvalueEnds, hnoParen⟩ := optional_assigned_head value hends
  obtain ⟨read, hparams, hread⟩ := optional_params_source hdict hnoParen
  have hnameEnds : EndsWord (paramsSource dict ++
      (optionSource " = " Expr.source value ++ rest)) := by
    unfold paramsSource
    split
    · exact hvalueEnds
    · exact endsWord_cons.mpr (by decide)
  have hident : after blanks (commit ident) (' ' :: (name.toList ++ (paramsSource dict ++
      (optionSource " = " Expr.source value ++ rest)))) =
      .done name (paramsSource dict ++ (optionSource " = " Expr.source value ++ rest)) := by
    rw [after_blanks, ((startsToken_of_isIdentifier hname).append _).dropBlanks_space]
    exact commit_eq_done.mpr (ident_append hname hnameEnds)
  have hdef : actionAfter "custom" = Reader.bind (after blanks (commit ident)) fun name =>
      Reader.bind (optional params) fun params => Reader.bind (optional assigned) fun value =>
        give ⟨.custom name value (params.getD {}), none⟩ := rfl
  rw [hdef, ActionKind.source, List.cons_append, List.append_assoc, List.append_assoc,
    bind_of_done hident, bind_of_done hparams,
    bind_of_done (optional_assigned_source hvalue hends), hread]
  rfl

/-- An action is read back from its source. -/
theorem actionAfter_source {action : Action} (h : action.Writable) (hends : EndsAction rest) :
    actionAfter action.kind.source.1 (optionSource " " String.toList action.target ++
      (action.kind.source.2 ++ rest)) = .done action rest := by
  obtain ⟨kind, word⟩ := action
  obtain ⟨hkind, hword, hcustom⟩ := h
  cases kind with
  | «show» => exact targeted_source _ hword hends
  | hide => exact targeted_source _ hword hends
  | enable => exact targeted_source _ hword hends
  | disable => exact targeted_source _ hword hends
  | clearValue => exact targeted_source _ hword hends
  | triggerValidation => exact targeted_source _ hword hends
  | showWarning message => exact withText_source .showWarning message hword
  | showError message => exact withText_source .showError message hword
  | addClass cls => exact withText_source .addClass cls hword
  | removeClass cls => exact withText_source .removeClass cls hword
  | setOptions e =>
    have hread := withExpr_source .setOptions hkind hword hends
    simp only [ActionKind.source, List.append_assoc]
    exact hread
  | setValue value required =>
    cases value with
    | some e =>
      obtain ⟨he, rfl⟩ := hkind
      have hread := withExpr_source (fun e => .setValue (some e) none) he hword hends
      simp only [ActionKind.source, optionSource, List.append_assoc]
      exact hread
    | none =>
      obtain ⟨flag, rfl⟩ := Option.isSome_iff_exists.mp hkind
      cases flag <;> exact targeted_source _ hword hends
  | custom name value dict =>
    obtain rfl : word = none := hcustom rfl
    exact custom_source hkind hends

theorem action_eq (text : List Char) :
    action text = Reader.bind (label .action ident) actionAfter (dropBlanks text) := rfl

theorem isIdentifier_kind (kind : ActionKind) : isIdentifier kind.source.1 = true := by
  have hwords : ∀ word ∈ ["show", "hide", "enable", "disable", "require", "optional", "set_value",
      "clear_value", "show_warning", "show_error", "add_class", "remove_class", "set_options",
      "trigger_validation", "custom"], isIdentifier word = true := by decide
  refine hwords _ ?_
  cases kind with
  | setValue value required =>
    cases value with
    | some e => simp [ActionKind.source]
    | none => cases required with
      | none => simp [ActionKind.source]
      | some flag => cases flag <;> simp [ActionKind.source]
  | _ => simp [ActionKind.source, ActionKind.name]

theorem endsWord_kind (kind : ActionKind) (hrest : EndsWord rest) :
    EndsWord (kind.source.2 ++ rest) := by
  have hspace : ∀ more, EndsWord (' ' :: more) := fun _ => endsWord_space
  cases kind with
  | setValue value required =>
    cases value with
    | some e => exact hspace _
    | none => cases required with
      | none => exact hrest
      | some flag => cases flag <;> exact hrest
  | showWarning message => exact hspace _
  | showError message => exact hspace _
  | addClass cls => exact hspace _
  | removeClass cls => exact hspace _
  | setOptions options => exact hspace _
  | custom name value params => exact hspace _
  | _ => exact hrest

theorem startsToken_action (action : Action) : StartsToken action.source := by
  unfold Action.source
  rw [List.append_assoc]
  exact (startsToken_of_isIdentifier (isIdentifier_kind action.kind)).append _

/-- An action is read back from its source, unless more of it could follow. -/
theorem action_source {a : Action} (h : a.Writable) (hends : EndsAction rest) :
    action (a.source ++ rest) = .done a rest := by
  have hafter : EndsWord (optionSource " " String.toList a.target ++
      (a.kind.source.2 ++ rest)) := by
    cases a.target with
    | some word => exact endsWord_space
    | none => exact endsWord_kind a.kind hends.endsWord
  have hword : label .action ident (a.kind.source.1.toList ++
      (optionSource " " String.toList a.target ++ (a.kind.source.2 ++ rest))) =
      .done a.kind.source.1
        (optionSource " " String.toList a.target ++ (a.kind.source.2 ++ rest)) :=
    label_eq_done.mpr (ident_append (isIdentifier_kind a.kind) hafter)
  rw [action_eq, ((startsToken_action a).append rest).dropBlanks, Action.source,
    List.append_assoc, List.append_assoc, bind_of_done hword]
  exact actionAfter_source h hends

end Actions

end RuleText

end FormRules
