/-
# TypeLens.Proofs.Source.Places -- where tokens, aggregates and typedefs stand

Lines and offsets are counted while a text is cut into tokens. They are those of the text: a token
stands behind as many characters as its offset says, and on the line that the line feeds among them
make (`tokens_place`). Aggregates and typedefs have the place of one of their tokens, so that of two
of them the one that comes first is never on a later line (`PlaceIn.line_mono`).
-/
import TypeLens.Source.Typedef

namespace TypeLens.Source

/-! ## Places in a text -/

/-- An offset in a text, and the line that it is on. -/
structure PlaceIn (content : Text) (line offset : Nat) : Prop where
  offset_le : offset ≤ content.length
  line_eq : line = 1 + lineEnds (content.take offset)

theorem lineEnds_append (a b : Text) : lineEnds (a ++ b) = lineEnds a + lineEnds b :=
  List.count_append

namespace PlaceIn

variable {content : Text} {line line' offset offset' : Nat}

/-- A place behind another one is not on an earlier line. -/
theorem line_mono (h : PlaceIn content line offset) (h' : PlaceIn content line' offset')
    (hle : offset ≤ offset') : line ≤ line' := by
  have hbefore : content.take offset <+: content.take offset' := List.take_prefix_take_left hle
  rw [h.line_eq, h'.line_eq]
  exact Nat.add_le_add_left (hbefore.sublist.count_le _) 1

theorem one_le_line (h : PlaceIn content line offset) : 1 ≤ line := by
  rw [h.line_eq]
  exact Nat.le_add_right 1 _

theorem line_le (h : PlaceIn content line offset) : line ≤ lineEnds content + 1 := by
  have hends : lineEnds (content.take offset) ≤ lineEnds content :=
    (List.take_sublist offset content).count_le _
  rw [h.line_eq]
  omega

end PlaceIn

/-! ## Tokens -/

/-- A token is somewhere in a text that stands behind `before`, and is counted on from there. -/
def Token.StandsIn (t : Token) (before text : Text) : Prop :=
  ∃ inner behind, text = inner ++ t.text ++ behind ∧ t.offset = (before ++ inner).length ∧
    t.line = 1 + lineEnds (before ++ inner)

theorem Token.StandsIn.behind {t : Token} {before first text : Text}
    (h : t.StandsIn (before ++ first) text) : t.StandsIn before (first ++ text) := by
  obtain ⟨inner, behind, rfl, hoffset, hline⟩ := h
  refine ⟨first ++ inner, behind, ?_, ?_, ?_⟩
  · rw [List.append_assoc, List.append_assoc, List.append_assoc]
  · rw [hoffset, List.append_assoc]
  · rw [hline, List.append_assoc]

/-- Behind the text `before`, tokens are counted on from it. -/
theorem tokensFrom_standsIn {t : Token} {lexemes : List Lexeme} {before leading : Text}
    (h : t ∈ tokensFrom (1 + lineEnds before) before.length leading lexemes) :
    t.StandsIn before (lexemes.flatMap Lexeme.text) := by
  induction lexemes generalizing before leading with
  | nil => exact absurd h List.not_mem_nil
  | cons l rest ih =>
    have hbehind : ∀ leading', t ∈ tokensFrom (1 + lineEnds before + lineEnds l.text)
        (before.length + l.text.length) leading' rest →
        t.StandsIn before ((l :: rest).flatMap Lexeme.text) := by
      intro leading' h'
      rw [Nat.add_assoc, ← lineEnds_append, ← List.length_append] at h'
      exact (ih h').behind
    simp only [tokensFrom] at h
    split at h
    · exact hbehind _ h
    · rcases List.mem_cons.mp h with rfl | h
      · exact ⟨[], rest.flatMap Lexeme.text, by rw [List.flatMap_cons, List.nil_append],
          by rw [List.append_nil], by rw [List.append_nil]⟩
      · exact hbehind _ h

/-- **Tokens stand in the text.** Behind as many characters as its offset says, a source text goes on
with a token, and the line of the token is that of its first character. -/
theorem tokens_place {t : Token} {content : Text} (h : t ∈ tokens content) :
    ∃ before behind, content = before ++ t.text ++ behind ∧ t.offset = before.length ∧
      t.line = 1 + lineEnds before := by
  have hstands : t.StandsIn [] ((lexemes content).flatMap Lexeme.text) := tokensFrom_standsIn h
  rw [lexemes_texts] at hstands
  exact hstands

theorem Token.placeIn {t : Token} {content : Text} (h : t ∈ tokens content) :
    PlaceIn content t.line t.offset := by
  obtain ⟨before, behind, rfl, hoffset, hline⟩ := tokens_place h
  refine ⟨?_, ?_⟩
  · rw [hoffset, List.append_assoc, List.length_append]
    exact Nat.le_add_right _ _
  · rw [hline, hoffset, List.append_assoc, List.take_left]

/-! ## Aggregates -/

/-- A specifier has the place of its keyword. -/
theorem specifierAt?_place {t : Token} {rest : List Token} {s : Specifier}
    (h : specifierAt? t rest = some s) : s.line = t.line ∧ s.offset = t.offset := by
  simp only [specifierAt?, Option.bind_eq_bind, Option.bind_eq_some_iff] at h
  obtain ⟨kind, -, head, -, name, -, body, -, h⟩ := h
  split at h
  · cases h
    exact ⟨rfl, rfl⟩
  · cases h

theorem specifiersFrom_place {named : Bool} {ts : List Token} {s : Specifier}
    (h : s ∈ specifiersFrom named ts) : ∃ t ∈ ts, s.line = t.line ∧ s.offset = t.offset := by
  induction ts generalizing named with
  | nil => exact absurd h List.not_mem_nil
  | cons t rest ih =>
    rcases List.mem_append.mp h with h | h
    · split at h
      · exact absurd h List.not_mem_nil
      · exact ⟨t, List.mem_cons_self, specifierAt?_place (Option.mem_toList.mp h)⟩
    · obtain ⟨u, hu, hplace⟩ := ih h
      exact ⟨u, List.mem_cons_of_mem t hu, hplace⟩

theorem Specifier.placeIn {s : Specifier} {content : Text} (h : s ∈ specifiers (tokens content)) :
    PlaceIn content s.line s.offset := by
  obtain ⟨t, ht, hline, hoffset⟩ := specifiersFrom_place (List.mem_mergeSort.mp h)
  rw [hline, hoffset]
  exact Token.placeIn ht

/-! ## Typedefs -/

theorem typedefAt?_place {start : Token} {rest : List Token} {t : Typedef}
    (h : typedefAt? start rest = some t) : t.line = start.line ∧ t.offset = start.offset := by
  rw [typedefAt?] at h
  split at h
  · simp only [Option.bind_eq_bind, Option.bind_eq_some_iff] at h
    obtain ⟨kind, -, ⟨head, declarators⟩, -, h⟩ := h
    cases h
    exact ⟨rfl, rfl⟩
  · cases h

/-- A typedef has the place of its keyword, or of the marker directly before that. -/
theorem typedefsFrom_place {marker : Option Token} {ts : List Token} {d : Typedef}
    (h : d ∈ typedefsFrom marker ts) :
    ∃ t, (t ∈ marker ∨ t ∈ ts) ∧ d.line = t.line ∧ d.offset = t.offset := by
  induction ts generalizing marker with
  | nil => exact absurd h List.not_mem_nil
  | cons t rest ih =>
    rcases List.mem_append.mp h with h | h
    · split at h
      · refine ⟨marker.getD t, ?_, typedefAt?_place (Option.mem_toList.mp h)⟩
        cases marker with
        | none => exact .inr List.mem_cons_self
        | some m => exact .inl rfl
      · exact absurd h List.not_mem_nil
    · obtain ⟨u, hu, hplace⟩ := ih h
      refine ⟨u, .inr ?_, hplace⟩
      rcases hu with hu | hu
      · split at hu
        · cases hu
          exact List.mem_cons_self
        · cases hu
      · exact List.mem_cons_of_mem t hu

theorem Typedef.placeIn {d : Typedef} {content : Text} (h : d ∈ typedefs (tokens content)) :
    PlaceIn content d.line d.offset := by
  obtain ⟨t, ht | ht, hline, hoffset⟩ := typedefsFrom_place h
  · cases ht
  · rw [hline, hoffset]
    exact Token.placeIn ht

end TypeLens.Source
