import FormRules.Proofs.RuleText.Choice

/-!
Reading back what is written of values and expressions. A source is read back where a word
may end behind it (`ReadsBack`); inside a source every part is followed by a blank or by
punctuation, so the readers of the parts stop where they should.
-/

namespace FormRules

/-- No number is a double and the entries of every map are sorted. -/
def Value.WritableNode : Value → Prop
  | .float _ => False
  | .map entries => Entries.Sorted entries
  | _ => True

/-- A value that can be written and read back: doubles are left out, since their text does
not always name them. -/
def Value.Writable (value : Value) : Prop := value.Every WritableNode

namespace RuleText

open Reader

variable {α : Type}

/-- The source is read back as the value, wherever a word may end behind it. -/
def ReadsBack (p : Reader α) (source : List Char) (v : α) : Prop :=
  ∀ rest, EndsWord rest → p (source ++ rest) = .done v rest

section Lists

variable {p : Reader α} {source : α → List Char} {items : List α} {rest : List Char}

theorem joinWith_cons (separator text : List Char) (texts : List (List Char)) :
    joinWith separator (text :: texts) =
      text ++ texts.flatMap fun next => separator ++ next := by
  induction texts generalizing text with
  | nil => simp [joinWith]
  | cons next others ih =>
    rw [joinWith, ih, List.flatMap_cons, List.append_assoc]

/-- Sources one after the other are read back where the reader stops behind them. -/
theorem many_flatMap {F : List Char → Prop}
    (hread : ∀ x ∈ items, ∀ more, F more → p (source x ++ more) = .done x more)
    (hnonempty : ∀ x ∈ items, source x ≠ []) (hnext : ∀ x ∈ items, ∀ more, F (source x ++ more))
    (hrest : F rest) (hstop : Refuses p rest) :
    many p (items.flatMap source ++ rest) = .done items rest := by
  induction items with
  | nil => exact many_of_refuses hstop
  | cons item others ih =>
    rw [List.forall_mem_cons] at hread hnonempty hnext
    have hfollow : F (others.flatMap source ++ rest) := by
      cases others with
      | nil => exact hrest
      | cons next tail =>
        rw [List.flatMap_cons, List.append_assoc]
        exact hnext.2 next List.mem_cons_self _
    rw [List.flatMap_cons, List.append_assoc]
    refine many_of_done (hread.1 _ hfollow) ?_ (ih hread.2 hnonempty.2 hnext.2)
    have hpos := List.length_pos_iff.mpr hnonempty.1
    simp only [List.length_append]
    omega

theorem spaced_comma {text : List Char} (h : StartsToken text) :
    spaced ',' (',' :: ' ' :: text) = .done () text := by
  refine spaced_eq_done.mpr ⟨' ' :: text, ?_, ?_⟩
  · exact dropBlanks_cons (by decide)
  · exact h.dropBlanks_space

theorem separated_joinCommas (hread : ∀ x ∈ items, ReadsBack p (source x) x)
    (hstart : ∀ x ∈ items, StartsToken (source x)) (hrest : EndsWord rest)
    (hcomma : (dropBlanks rest).head? ≠ some ',') (hempty : Refuses p rest) :
    separated (spaced ',') p (joinCommas (items.map source) ++ rest) = .done items rest := by
  cases items with
  | nil => exact separated_eq_done.mpr (.inl ⟨hempty, rfl, rfl⟩)
  | cons first others =>
    rw [List.forall_mem_cons] at hread hstart
    have hends : EndsWord (others.flatMap (fun x => ',' :: ' ' :: source x) ++ rest) := by
      cases others with
      | nil => exact hrest
      | cons next tail => exact endsWord_cons.mpr (by decide)
    have hothers : many (after (spaced ',') p)
        (others.flatMap (fun x => ',' :: ' ' :: source x) ++ rest) = .done others rest := by
      refine many_flatMap (F := EndsWord) ?_ (by simp) ?_ hrest ?_
      · intro x hx more hmore
        rw [List.cons_append, List.cons_append]
        exact (bind_of_done (spaced_comma ((hstart.2 x hx).append more))).trans
          (hread.2 x hx more hmore)
      · exact fun x _ more => endsWord_cons.mpr (by decide)
      · exact refuses_bind.mpr (.inl (refuses_spaced.mpr hcomma))
    rw [List.map_cons, joinCommas, joinWith_cons, List.flatMap_map, List.append_assoc]
    exact separated_eq_done.mpr (.inr ⟨first, _, others, hread.1 _ hends, hothers, rfl⟩)

/-- A list in brackets is read back. -/
theorem between_joinCommas {start stop : Char} {opener closing : Reader Unit}
    (hopener : ∀ inner, StartsToken inner → opener (start :: inner) = .done () inner)
    (hclosing : closing (stop :: rest) = .done () rest) (hstop : isIdentChar stop = false)
    (htoken : StartsToken (stop :: rest)) (hcomma : stop ≠ ',')
    (hread : ∀ x ∈ items, ReadsBack p (source x) x)
    (hstart : ∀ x ∈ items, StartsToken (source x)) (hempty : Refuses p (stop :: rest)) :
    between opener closing (separated (spaced ',') p)
      (start :: (joinCommas (items.map source) ++ stop :: rest)) = .done items rest := by
  have hinner : StartsToken (joinCommas (items.map source) ++ stop :: rest) := by
    cases items with
    | nil => exact htoken
    | cons first others =>
      rw [List.map_cons, joinCommas, joinWith_cons, List.append_assoc]
      exact (hstart first List.mem_cons_self).append _
  have hitems := separated_joinCommas hread hstart (endsWord_cons.mpr hstop)
    (by rw [htoken.dropBlanks]; simpa using hcomma) hempty
  unfold between
  rw [bind_of_done (hopener _ hinner), bind_of_done hitems, bind_of_done hclosing]
  rfl

theorem opening_cons (c : Char) {inner : List Char} (h : StartsToken inner) :
    opening c (c :: inner) = .done () inner := by
  unfold opening
  refine (bind_of_done (char_cons c inner)).trans ?_
  rw [blanks_eq, h.dropBlanks]

theorem listEnd_cons {c : Char} (htoken : StartsToken (c :: rest)) (hcomma : c ≠ ',') :
    listEnd c (c :: rest) = .done () rest := by
  have hnone : optional (after (char ',') blanks) (c :: rest) = .done none (c :: rest) :=
    optional_of_refuses (refuses_bind.mpr (.inl (refuses_char.mpr (by simpa using hcomma))))
  have hchar : commit (char c) (c :: rest) = .done c rest :=
    commit_eq_done.mpr (char_cons c rest)
  have hdef : listEnd c (c :: rest) = Reader.bind (optional (after (char ',') blanks))
      (fun _ => Reader.bind (commit (char c)) fun _ => give ()) (dropBlanks (c :: rest)) := rfl
  rw [hdef, htoken.dropBlanks, bind_of_done hnone, bind_of_done hchar]
  rfl

theorem closing_cons {c : Char} (htoken : StartsToken (c :: rest)) :
    closing c (c :: rest) = .done () rest :=
  closing_eq_done.mpr htoken.dropBlanks

end Lists

section Values

theorem startsToken_keySource (name : String) : StartsToken (keySource name) := by
  unfold keySource
  split
  · exact startsToken_of_isIdentifier ‹_›
  · exact startsToken_quote name

theorem startsToken_writeInt (n : Int) : StartsToken (Numeral.writeInt n) := by
  cases n with
  | ofNat m =>
    obtain ⟨c, rest, hcons, hdigit⟩ := Numeral.writeNat_eq_cons m
    rw [Numeral.writeInt, hcons]
    exact startsToken_of_isIdentChar (by simp [isIdentChar, Char.isAlphanum, hdigit])
  | negSucc m => exact startsToken_cons.mpr (by decide)

theorem startsToken_value {value : Value} (h : value.Writable) : StartsToken value.source := by
  cases value with
  | null => exact startsToken_cons.mpr (by decide)
  | bool truth => cases truth <;> exact startsToken_cons.mpr (by decide)
  | int n => exact startsToken_writeInt n.toInt
  | float x => exact h.elim
  | string text => exact startsToken_quote text
  | array items => exact startsToken_cons.mpr (by decide)
  | map entries => exact startsToken_cons.mpr (by decide)

/-- The name of a map entry is read back before its colon. -/
theorem key_keySource (name : String) (rest : List Char) :
    orElse quotedString ident (keySource name ++ ':' :: rest) = .done name (':' :: rest) := by
  unfold keySource
  split
  · rename_i hident
    have hword : ident (name.toList ++ ':' :: rest) = .done name (':' :: rest) :=
      ident_append hident (endsWord_cons.mpr (by decide))
    rw [orElse_of_refuses, hword]
    exact guardedBy_quotedString.refuses guardedBy_ident (apart_of_eq_false (by decide)) hword
  · exact orElse_of_done (quotedString_quote name _)

theorem mapEntry_source {entry : String × Value} (hwritable : entry.2.Writable)
    (hvalue : ReadsBack literal entry.2.source entry.2) :
    ReadsBack (mapEntry literal) (Value.entrySource entry) entry := by
  intro rest hrest
  obtain ⟨name, value⟩ := entry
  have hcolon : commit (char ':') (':' :: ' ' :: (value.source ++ rest)) =
      .done ':' (' ' :: (value.source ++ rest)) := commit_eq_done.mpr (char_cons _ _)
  have hblanks : blanks (':' :: ' ' :: (value.source ++ rest)) =
      .done () (':' :: ' ' :: (value.source ++ rest)) := by
    rw [blanks_eq, dropBlanks_cons (by decide)]
  have hspace : blanks (' ' :: (value.source ++ rest)) = .done () (value.source ++ rest) := by
    rw [blanks_eq, ((startsToken_value hwritable).append rest).dropBlanks_space]
  have hliteral : commit literal (value.source ++ rest) = .done value rest :=
    commit_eq_done.mpr (hvalue rest hrest)
  unfold mapEntry Value.entrySource
  simp only [bind_eq, pure_eq, List.append_assoc, List.cons_append]
  rw [bind_of_done (key_keySource name _), bind_of_done hblanks, bind_of_done hcolon,
    bind_of_done hspace, bind_of_done hliteral]
  rfl

theorem guardedBy_mapEntry {p : Reader Value} :
    GuardedBy (fun c => c == '"' || isIdentStart c) (mapEntry p) := by
  unfold mapEntry
  exact guardedBy_bind (guardedBy_orElse guardedBy_quotedString guardedBy_ident)

/-- A value is read back from its source. -/
theorem literal_source {value : Value} (h : value.Writable) :
    ReadsBack literal value.source value := by
  intro rest hrest
  induction value generalizing rest with
  | null =>
    rw [literal_eq]
    exact literalWith_eq_done.mpr
      (.inr (.inr (.inr (.inl ⟨(), keyword_append "null" hrest, rfl⟩))))
  | bool truth =>
    rw [literal_eq]
    cases truth with
    | true =>
      exact literalWith_eq_done.mpr
        (.inr (.inl ⟨(), keyword_append "true" hrest, rfl⟩))
    | false =>
      exact literalWith_eq_done.mpr
        (.inr (.inr (.inl ⟨(), keyword_append "false" hrest, rfl⟩)))
  | int n =>
    rw [literal_eq]
    exact literalWith_eq_done.mpr (.inr (.inr (.inr (.inr (.inl (number_writeInt n hrest))))))
  | float x => exact h.elim
  | string text =>
    rw [literal_eq]
    exact literalWith_eq_done.mpr (.inl ⟨text, quotedString_quote text rest, rfl⟩)
  | array items ih =>
    obtain ⟨_, hitems⟩ := Value.every_array.mp h
    have hend : StartsToken (']' :: rest) := startsToken_cons.mpr (by decide)
    have hlist : listItems literal ('[' :: (joinCommas (items.map Value.source) ++ ']' :: rest)) =
        .done items rest :=
      between_joinCommas (fun _ => opening_cons _) (listEnd_cons hend (by decide)) (by decide)
        hend (by decide)
        (fun x hx more hmore => ih x hx (hitems x hx) more hmore)
        (fun x hx => startsToken_value (hitems x hx)) (guardedBy_literal _ (by simp; decide))
    rw [literal_eq, Value.source, Value.sources_eq_map, List.cons_append, List.append_assoc]
    exact literalWith_eq_done.mpr
      (.inr (.inr (.inr (.inr (.inr (.inl ⟨items, hlist, rfl⟩))))))
  | map entries ih =>
    obtain ⟨hsorted, hentries⟩ := Value.every_map.mp h
    have hend : StartsToken ('\x7d' :: rest) := startsToken_cons.mpr (by decide)
    have hmap : mapEntries literal
        ('\x7b' :: (joinCommas (entries.map Value.entrySource) ++ '\x7d' :: rest)) =
        .done entries rest :=
      between_joinCommas (fun _ => opening_cons _) (listEnd_cons hend (by decide)) (by decide)
        hend (by decide)
        (fun entry hmem => mapEntry_source (hentries entry hmem)
          fun more hmore => ih entry hmem (hentries entry hmem) more hmore)
        (fun entry _ => (startsToken_keySource entry.1).append _)
        (guardedBy_mapEntry _ (by simp; decide))
    rw [literal_eq, Value.source, Value.entrySources_eq_map, List.cons_append, List.append_assoc]
    refine literalWith_eq_done.mpr
      (.inr (.inr (.inr (.inr (.inr (.inr ⟨entries, hmap, ?_⟩))))))
    rw [Entries.ofList_of_sorted hsorted]

end Values

section Expressions

theorem splitFirst?_of_no_dot {chars : List Char} (h : '.' ∉ chars) :
    chars.takeWhile (· ≠ '.') = chars ∧ chars.dropWhile (· ≠ '.') = [] := by
  have hall : ∀ c ∈ chars, decide (c ≠ '.') = true := fun c hc =>
    decide_eq_true fun heq => h (heq ▸ hc)
  exact ⟨List.takeWhile_eq_self_iff.mpr hall, List.dropWhile_eq_nil_iff.mpr hall⟩

theorem fieldReference_eq_done {text rest : List Char} {path : String} (e : Expr)
    (hpath : ident text = .done path rest)
    (he : e = match Path.splitFirst? path with
      | some (field, property) => .field field (some property)
      | none => .field path none) : fieldReference ('$' :: text) = .done e rest := by
  have hident : commit ident text = .done path rest := commit_eq_done.mpr hpath
  unfold fieldReference
  rw [bind_eq, bind_of_done (char_cons '$' text), bind_eq, bind_of_done hident, he]
  cases Path.splitFirst? path <;> rfl

/-- A reference to a field is read back. -/
theorem fieldReference_source {name : String} {property : Option String} {rest : List Char}
    (h : (Expr.field name property).WellNamed) (hrest : EndsWord rest) :
    fieldReference ((Expr.field name property).source ++ rest) =
      .done (.field name property) rest := by
  obtain ⟨hname, hdot, hproperty⟩ := h
  obtain ⟨htake, hdrop⟩ := splitFirst?_of_no_dot hdot
  cases property with
  | none =>
    refine fieldReference_eq_done _ (ident_append hname hrest) ?_
    rw [Path.splitFirst?, hdrop]
  | some path =>
    have hpath : ident (name.toList ++ '.' :: path.toList ++ rest) =
        .done (String.ofList (name.toList ++ '.' :: path.toList)) rest := by
      obtain ⟨c, tail, hcons, hstart, hall⟩ := isIdentifier_iff.mp hname
      rw [ident_eq_done, isIdentifier_iff, String.toList_ofList]
      refine ⟨⟨c, tail ++ '.' :: path.toList, by rw [hcons, List.cons_append], hstart, ?_⟩, rfl,
        hrest⟩
      intro d hd
      rcases List.mem_append.mp hd with hd | hd
      · exact hall d hd
      · rcases List.mem_cons.mp hd with rfl | hd
        · decide
        · exact hproperty path rfl d hd
    refine fieldReference_eq_done _ hpath ?_
    have hall : ∀ c ∈ name.toList, decide (c ≠ '.') = true := List.takeWhile_eq_self_iff.mp htake
    have hsplit : Path.splitFirst? (String.ofList (name.toList ++ '.' :: path.toList)) =
        some (name, path) := by
      unfold Path.splitFirst?
      dsimp only
      rw [String.toList_ofList, List.dropWhile_append_of_pos hall,
        List.takeWhile_append_of_pos hall]
      simp
    rw [hsplit]

theorem startsToken_expr {e : Expr} (hreadable : e.Readable)
    (hliterals : e.Literals Value.Writable) : StartsToken e.source := by
  cases e with
  | literal value => exact startsToken_value hliterals
  | field name property => cases property <;> exact startsToken_cons.mpr (by decide)
  | context path => exact startsToken_cons.mpr (by decide)
  | call name args =>
    exact (startsToken_of_isIdentifier (Expr.every_call.mp hreadable).1.1).append _

theorem refuses_expr_of_close {text rest : List Char} (h : dropBlanks text = ')' :: rest) :
    Refuses expr text := by
  have hrefuses : ∀ accept : Char → Bool, accept ')' = false →
      ∀ c ∈ (')' :: rest).head?, accept c = false := by simp
  rw [expr_eq]
  unfold exprWith
  refine refuses_bind.mpr (.inr ⟨(), ')' :: rest, by rw [blanks_eq, h], ?_⟩)
  refine refuses_label.mpr (refuses_orElse.mpr ⟨?_, refuses_orElse.mpr ⟨?_, refuses_orElse.mpr
    ⟨refuses_map.mpr ?_, ?_⟩⟩⟩)
  · exact guardedBy_fieldReference _ (hrefuses _ (by decide))
  · exact guardedBy_contextReference _ (hrefuses _ (by decide))
  · exact guardedBy_literal _ (hrefuses _ (by decide))
  · exact guardedBy_functionCall _ (hrefuses _ (by decide))

/-- An expression is read back from its source. -/
theorem expr_source {e : Expr} (hreadable : e.Readable) (hliterals : e.Literals Value.Writable) :
    ReadsBack expr e.source e := by
  intro rest hrest
  induction e generalizing rest with
  | literal value =>
    have hstart : StartsToken (value.source ++ rest) := (startsToken_value hliterals).append rest
    rw [expr_eq, exprWith_eq_done, Expr.source, hstart.dropBlanks]
    exact .inr (.inr (.inl ⟨value, literal_source hliterals rest hrest, rfl⟩))
  | field name property =>
    have hstart := (startsToken_expr hreadable hliterals).append rest
    rw [expr_eq, exprWith_eq_done, hstart.dropBlanks]
    exact .inl (fieldReference_source hreadable hrest)
  | context path =>
    have hident : commit ident (path.toList ++ rest) = .done path rest :=
      commit_eq_done.mpr (ident_append hreadable hrest)
    have hreference : contextReference ('@' :: (path.toList ++ rest)) =
        .done (.context path) rest := by
      unfold contextReference
      rw [bind_eq, bind_of_done (char_cons '@' _), bind_eq, bind_of_done hident]
      rfl
    have hstart := (startsToken_expr hreadable hliterals).append rest
    rw [expr_eq, exprWith_eq_done, hstart.dropBlanks]
    exact .inr (.inl hreference)
  | call name args ih =>
    obtain ⟨⟨hname, hword⟩, hargs⟩ := Expr.every_call.mp hreadable
    obtain ⟨_, hvalues⟩ := Expr.every_call.mp hliterals
    have hend : StartsToken (')' :: rest) := startsToken_cons.mpr (by decide)
    have hlist : callArgs expr ('(' :: (joinCommas (args.map Expr.source) ++ ')' :: rest)) =
        .done args rest :=
      between_joinCommas (fun _ => opening_cons _) (closing_cons hend) (by decide) hend (by decide)
        (fun arg hmem => ih arg hmem (hargs arg hmem) (hvalues arg hmem))
        (fun arg hmem => startsToken_expr (hargs arg hmem) (hvalues arg hmem))
        (refuses_expr_of_close hend.dropBlanks)
    have hident : ident (name.toList ++ '(' :: (joinCommas (args.map Expr.source) ++ ')' :: rest)) =
        .done name ('(' :: (joinCommas (args.map Expr.source) ++ ')' :: rest)) :=
      ident_append hname (endsWord_cons.mpr (by decide))
    have hstart := (startsToken_expr hreadable hliterals).append rest
    rw [expr_eq, exprWith_eq_done, hstart.dropBlanks, Expr.source, Expr.sources_eq_map,
      List.append_assoc, List.cons_append, List.append_assoc]
    exact .inr (.inr (.inr ⟨name, _, args, hident, hword, hlist, rfl⟩))

end Expressions

end RuleText

end FormRules
