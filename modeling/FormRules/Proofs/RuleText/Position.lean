import FormRules.Proofs.RuleText.Within

/-!
Positions of errors. Offsets count bytes, while columns count characters and start again on
every line. Even so the position tells the offset: from one character boundary of a text to a
later one positions go forward in reading order (`ofOffset_lt`). Since readers stay inside their
text, the position of an error names one place of it (`positions_identify_offsets`).
-/

namespace FormRules.RuleText

open Reader

namespace Position

/-- Reading order: on an earlier line, or further left on the same one. -/
instance : LT Position where
  lt p q := p.line < q.line ∨ p.line = q.line ∧ p.column < q.column

theorem lt_iff {p q : Position} :
    p < q ↔ p.line < q.line ∨ p.line = q.line ∧ p.column < q.column := Iff.rfl

theorem ne_of_lt {p q : Position} (h : p < q) : p ≠ q := by
  rintro rfl
  rcases lt_iff.mp h with h | ⟨_, h⟩ <;> exact Nat.lt_irrefl _ h

theorem line_behind (before : List Char) : (behind before).line = before.count '\n' + 1 := rfl

/-- Characters on the same line only move the column. -/
theorem behind_append (before : List Char) {more : List Char} (hline : '\n' ∉ more) :
    behind (before ++ more) =
      ⟨(behind before).line, (behind before).column + more.length⟩ := by
  have hall : ∀ c ∈ more.reverse, decide (c ≠ '\n') = true := by
    intro c hc
    refine decide_eq_true fun heq => hline ?_
    exact heq ▸ List.mem_reverse.mp hc
  simp only [behind, List.count_append, List.count_eq_zero_of_not_mem hline, List.reverse_append,
    List.takeWhile_append_of_pos hall, List.length_append, List.length_reverse, Nat.add_zero]
  rw [Nat.add_comm more.length, Nat.add_right_comm]

/-- Behind more characters the place is a later one. -/
theorem behind_lt (before : List Char) {more : List Char} (hmore : more ≠ []) :
    behind before < behind (before ++ more) := by
  rw [lt_iff]
  by_cases hline : '\n' ∈ more
  · have hpos := List.count_pos_iff.mpr hline
    rw [line_behind, line_behind, List.count_append]
    omega
  · have hpos := List.length_pos_iff.mpr hmore
    rw [behind_append before hline]
    exact .inr ⟨rfl, Nat.lt_add_of_pos_right hpos⟩

end Position

section Offsets

theorem utf8ByteSize_ofList_cons (c : Char) (rest : List Char) :
    (String.ofList (c :: rest)).utf8ByteSize =
      c.utf8Size + (String.ofList rest).utf8ByteSize := by
  rw [String.ofList_cons, String.utf8ByteSize_append, String.utf8ByteSize_singleton]

/-- Characters that lie before an offset with all their bytes come first. -/
theorem charsBefore_append (before after : List Char) (offset : Nat) :
    charsBefore (before ++ after) ((String.ofList before).utf8ByteSize + offset) =
      before ++ charsBefore after offset := by
  induction before with
  | nil => simp
  | cons c rest ih =>
    have hsub : c.utf8Size + (String.ofList rest).utf8ByteSize + offset - c.utf8Size =
        (String.ofList rest).utf8ByteSize + offset := by omega
    rw [utf8ByteSize_ofList_cons, List.cons_append, charsBefore, if_pos (by omega), hsub, ih,
      List.cons_append]

theorem charsBefore_zero (text : List Char) : charsBefore text 0 = [] := by
  cases text with
  | nil => rfl
  | cons c rest => rw [charsBefore, if_neg (Nat.not_le.mpr c.utf8Size_pos)]

namespace Position

/-- The place at a character boundary is the place behind what comes before. -/
theorem ofOffset_append (before after : String) :
    ofOffset (before ++ after) before.utf8ByteSize = behind before.toList := by
  have hchars := charsBefore_append before.toList after.toList 0
  rw [String.ofList_toList, charsBefore_zero, List.append_nil, Nat.add_zero] at hchars
  rw [ofOffset, String.toList_append, hchars]

/-- Beyond the end it is the end. -/
theorem ofOffset_of_le {text : String} {offset : Nat} (h : text.utf8ByteSize ≤ offset) :
    ofOffset text offset = behind text.toList := by
  have hchars := charsBefore_append text.toList [] (offset - text.utf8ByteSize)
  rw [String.ofList_toList, List.append_nil, Nat.add_sub_cancel' h] at hchars
  rw [ofOffset, hchars, charsBefore, List.append_nil]

/-- A boundary parts the text into what comes before and what comes after. -/
theorem exists_parts {text : String} (place : text.Pos) :
    ∃ before after : String, text = before ++ after ∧
      place.offset.byteIdx = before.utf8ByteSize := by
  obtain ⟨before, after, htext, hoffset⟩ :=
    String.Pos.Raw.isValid_iff_exists_append.mp place.isValid
  exact ⟨before, after, htext, by rw [hoffset, String.byteIdx_rawEndPos]⟩

/-- Of two parts from the beginning of a text the one with more bytes goes on with the other. -/
theorem exists_more {text : List Char} {before longer : String}
    (hbefore : before.toList <+: text) (hlonger : longer.toList <+: text)
    (h : before.utf8ByteSize < longer.utf8ByteSize) :
    ∃ more, more ≠ [] ∧ longer.toList = before.toList ++ more := by
  have hsize : ∀ {first second : String} {more : List Char},
      first.toList ++ more = second.toList → first.utf8ByteSize ≤ second.utf8ByteSize := by
    intro first second more heq
    have hsecond : first ++ String.ofList more = second := by
      rw [← String.toList_inj, String.toList_append, String.toList_ofList, heq]
    rw [← hsecond, String.utf8ByteSize_append]
    exact Nat.le_add_right _ _
  rcases List.prefix_or_prefix_of_prefix hbefore hlonger with ⟨more, heq⟩ | ⟨more, heq⟩
  · refine ⟨more, ?_, heq.symm⟩
    rintro rfl
    rw [List.append_nil, String.toList_inj] at heq
    rw [heq] at h
    exact Nat.lt_irrefl _ h
  · exact absurd (hsize heq) (Nat.not_le.mpr h)

/-- From a boundary to a later one the position goes forward. -/
theorem ofOffset_lt {text : String} {here there : text.Pos} (h : here < there) :
    ofOffset text here.offset.byteIdx < ofOffset text there.offset.byteIdx := by
  obtain ⟨before, after, hbefore, hhere⟩ := exists_parts here
  obtain ⟨longer, rest, hlonger, hthere⟩ := exists_parts there
  have hsize : before.utf8ByteSize < longer.utf8ByteSize := by
    rw [← hhere, ← hthere]
    exact String.Pos.Raw.lt_iff.mp (String.Pos.lt_iff.mp h)
  have hfront : ∀ {first second : String}, text = first ++ second →
      first.toList <+: text.toList := by
    rintro first second rfl
    exact ⟨second.toList, String.toList_append.symm⟩
  obtain ⟨more, hmore, hlist⟩ := exists_more (hfront hbefore) (hfront hlonger) hsize
  have hfirst : ofOffset text before.utf8ByteSize = behind before.toList := by
    rw [hbefore, ofOffset_append]
  have hsecond : ofOffset text longer.utf8ByteSize = behind longer.toList := by
    rw [hlonger, ofOffset_append]
  rw [hhere, hthere, hfirst, hsecond, hlist]
  exact behind_lt before.toList hmore

/-- Two boundaries with one position are the same. -/
theorem eq_of_ofOffset_eq {text : String} {here there : text.Pos}
    (h : ofOffset text here.offset.byteIdx = ofOffset text there.offset.byteIdx) :
    here = there := by
  rcases Nat.lt_trichotomy here.offset.byteIdx there.offset.byteIdx with hlt | heq | hlt
  · have hless : here < there := String.Pos.lt_iff.mpr (String.Pos.Raw.lt_iff.mpr hlt)
    exact absurd h (ne_of_lt (ofOffset_lt hless))
  · exact String.Pos.ext (String.Pos.Raw.ext heq)
  · have hless : there < here := String.Pos.lt_iff.mpr (String.Pos.Raw.lt_iff.mpr hlt)
    exact absurd h.symm (ne_of_lt (ofOffset_lt hless))

end Position

end Offsets

section Errors

variable {α : Type} {p : Reader α} {text : String} {e : Error}

theorem eq_append_of_toList {before rest : List Char} (h : text.toList = before ++ rest) :
    text = String.ofList before ++ String.ofList rest := by
  rw [← String.ofList_append, ← h, String.ofList_toList]

/-- A failure is reported at the place behind what was read. -/
theorem position_ofFailure {before : List Char} {failure : Failure}
    (h : text.toList = before ++ failure.rest) :
    (Error.ofFailure text failure).position = .behind before := by
  have hplace := Position.ofOffset_append (String.ofList before) (String.ofList failure.rest)
  have hsize : text.utf8ByteSize - (String.ofList failure.rest).utf8ByteSize =
      (String.ofList before).utf8ByteSize := by
    rw [eq_append_of_toList h, String.utf8ByteSize_append, Nat.add_sub_cancel]
  rw [← eq_append_of_toList h, String.toList_ofList] at hplace
  rw [← hplace, ← hsize, Error.ofFailure]

/-- Where a whole text is not read, the error is reported at the place where reading ends or
stops. -/
theorem position_of_error (hp : Within p) (h : p.whole text = .error e) :
    ∃ before, text.toList = before ++ (p text.toList).rest ∧ e.position = .behind before := by
  obtain ⟨before, hbefore⟩ := hp text.toList
  refine ⟨before, hbefore.symm, ?_⟩
  unfold whole at h
  split at h
  · cases h
  · rename_i v rest _ hread
    rw [hread] at hbefore
    cases h
    have hposition : (Error.ofFailure text { rest }).position = .behind before :=
      position_ofFailure hbefore.symm
    exact hposition
  · rename_i failure hread
    rw [hread] at hbefore
    cases h
    exact position_ofFailure hbefore.symm

/-- The position of an error is that of one boundary only. -/
theorem existsUnique_place_of_error (hp : Within p) (h : p.whole text = .error e) :
    ∃! place : text.Pos, Position.ofOffset text place.offset.byteIdx = e.position := by
  obtain ⟨before, htext, hposition⟩ := position_of_error hp h
  have hparts := eq_append_of_toList htext
  have hplace := Position.ofOffset_append (String.ofList before)
    (String.ofList (p text.toList).rest)
  rw [← hparts, String.toList_ofList, ← hposition] at hplace
  refine ⟨⟨(String.ofList before).rawEndPos,
    String.Pos.Raw.isValid_iff_exists_append.mpr ⟨_, _, hparts, rfl⟩⟩, hplace, ?_⟩
  intro other hother
  exact Position.eq_of_ofOffset_eq (hother.trans hplace.symm)

end Errors

/-- Of two boundaries of a text the later one has the later position. Its line is one more than
the line feeds before it, and an offset beyond the end has the position of the end. So the
position of an error names one boundary of the text that was not read. -/
theorem positions_identify_offsets (text : String) :
    (∀ here there : text.Pos, here < there →
      Position.ofOffset text here.offset.byteIdx < Position.ofOffset text there.offset.byteIdx) ∧
    (∀ before after : String, text = before ++ after →
      (Position.ofOffset text before.utf8ByteSize).line = before.toList.count '\n' + 1) ∧
    (∀ offset, text.utf8ByteSize < offset →
      Position.ofOffset text offset = Position.ofOffset text text.utf8ByteSize) ∧
    ∀ e, readRules text = .error e ∨ readCondition text = .error e →
      ∃! place : text.Pos, Position.ofOffset text place.offset.byteIdx = e.position := by
  refine ⟨fun here there => Position.ofOffset_lt, ?line, ?beyond, ?errors⟩
  case line =>
    rintro before after rfl
    rw [Position.ofOffset_append, Position.line_behind]
  case beyond =>
    intro offset h
    rw [Position.ofOffset_of_le (Nat.le_of_lt h), Position.ofOffset_of_le (Nat.le_refl _)]
  case errors =>
    rintro e (h | h)
    · exact existsUnique_place_of_error within_rules h
    · exact existsUnique_place_of_error within_wholeCondition h

/-- A word that begins no rule, behind a comment with a letter of two bytes. -/
theorem stray_word_located :
    let text := "# Größe\n when"
    readRules text = .error ⟨"", ⟨2, 2⟩⟩ ∧
      (∃! place : text.Pos, Position.ofOffset text place.offset.byteIdx = ⟨2, 2⟩) ∧
      Position.ofOffset text 0 < Position.ofOffset text text.utf8ByteSize ∧
      (Position.ofOffset text "# Größe\n ".utf8ByteSize).line = 2 ∧
      Position.ofOffset text 40 = Position.ofOffset text text.utf8ByteSize := by
  have hread : readRules "# Größe\n when" = .error ⟨"", ⟨2, 2⟩⟩ := by with_unfolding_all rfl
  intro text
  obtain ⟨hforward, hline, hbeyond, herrors⟩ := positions_identify_offsets text
  refine ⟨hread, herrors _ (.inl hread), ?_, ?_, hbeyond 40 (by decide)⟩
  · exact hforward text.startPos text.endPos (by decide)
  · exact (hline "# Größe\n " "when" (by decide)).trans (by decide)

end FormRules.RuleText
