/-
# TypeLens.Proofs.HoverAgreement -- a hover says what a direct question is told

What a session reports on a type at a cursor is there to be seen: the reported text and span are a
sound sighting of the line. And it is what the session answers when it is asked about the reported
text by itself, the place in the line apart, whatever parts of the session exist and whether the
question comes instead of the hover or after it (`hover_sound_lookUp_agrees`).

Two facts carry the agreement. The reported text is trimmed, so looking it up trims nothing more and
takes the same branch (`Layout.ofText?_text`). And an answer depends on the architecture that the
engine answers for and on the settings in force only, neither of which asking changes
(`TypeLens.Proofs.Session.Answers`).
-/
import TypeLens.Proofs.Locate.Soundness
import TypeLens.Proofs.ScanTransparency
import TypeLens.Proofs.Session.Answers

namespace TypeLens

/-! ## Layouts of reported texts -/

namespace Layout

variable {width : Width} {known : List Text} {sizes : SizeMap} {text line : Text} {cursor : Int}
  {layout : Layout}

/-- A layout carries the trimmed text, and no place. -/
theorem text_of_ofText? (h : ofText? width sizes text = some layout) :
    layout.text = trim text ∧ layout.span = none := by
  unfold ofText? at h
  dsimp only at h
  split at h
  · simp at h
  · split at h
    · obtain rfl := Option.some.inj h
      exact ⟨rfl, rfl⟩
    · obtain ⟨shape, -, rfl⟩ := Option.map_eq_some_iff.mp h
      exact ⟨rfl, rfl⟩

/-- Looking up the text of a layout gives that layout again. -/
theorem ofText?_text (h : ofText? width sizes text = some layout) :
    ofText? width sizes layout.text = some layout := by
  rw [(text_of_ofText? h).1, ← h, ofText?, ofText?, trim_trim]

/-- A layout at a cursor is that of a text which is seen there soundly. -/
theorem sound_of_atCursor? (h : atCursor? width known sizes line cursor = some layout) :
    (∃ span, layout.span = some span ∧ Sighting.Sound line cursor ⟨layout.text, span⟩) ∧
      ofText? width sizes layout.text = some { layout with span := none } := by
  rw [atCursor?_eq] at h
  obtain ⟨sighting, hlocate, hmap⟩ := Option.bind_eq_some_iff.mp h
  obtain ⟨direct, hdirect, rfl⟩ := Option.map_eq_some_iff.mp hmap
  obtain ⟨htext, hspan⟩ := text_of_ofText? hdirect
  have hsound := sound_of_locate hlocate
  refine ⟨⟨sighting.span, rfl, ?_⟩, ?_⟩
  · -- single spacing has left nothing to trim
    have hseen : direct.text = sighting.text := by rw [htext, hsound.text_eq, trim_collapse]
    rw [hseen]
    exact hsound
  · show ofText? width sizes direct.text = some { direct with span := none }
    rw [ofText?_text hdirect, ← hspan]

end Layout

/-! ## Hovers and look-ups -/

namespace Session

/-- **Hovers are sound and agree with look-ups.** What is seen at any cursor of any line stands
there, and in every session a report on it is the answer about the reported text, its place apart,
both before the hover and after it. -/
theorem hover_sound_lookUp_agrees :
    (∀ (known : List Text) (line : Text) (cursor : Int) (sighting : Sighting),
      locate known line cursor = some sighting → sighting.Sound line cursor) ∧
    ∀ (s : Session) (known : List Text) (sizes : SizeMap) (line : Text) (cursor : Int)
      (answer : Report) (layout : Layout) (hover : Text),
      (s.layoutInLine known sizes line cursor).2 = .ok answer →
      answer.found = some (layout, hover) →
        (∃ span, layout.span = some span ∧ Sighting.Sound line cursor ⟨layout.text, span⟩) ∧
        (s.lookUp sizes layout.text).2 =
          .ok ⟨answer.architecture, some ({ layout with span := none }, hover)⟩ ∧
        ((s.layoutInLine known sizes line cursor).1.lookUp sizes layout.text).2 =
          (s.lookUp sizes layout.text).2 := by
  refine ⟨fun known line cursor sighting h => sound_of_locate h, ?_⟩
  intro s known sizes line cursor answer layout hover hanswer hfound
  rw [layoutInLine_eq_reportOn] at hanswer
  obtain ⟨hlayout, hlabel, hrender⟩ := eq_some_of_reportOn hanswer hfound
  obtain ⟨hsound, hdirect⟩ := Layout.sound_of_atCursor? hlayout
  refine ⟨hsound, ?_, lookUp_after_layoutInLine ..⟩
  rw [lookUp_eq_reportOn, hdirect, hlabel]
  -- the hover shows nothing of the place
  exact reportOn_some hrender

/-- A pointer in uneven spacing. -/
def unevenLine : Text := "(long\t int *p)".toList

/-- What is reported directly behind its star. -/
def unevenPointer : Layout where
  text := "long int *".toList
  span := some ⟨1, 12⟩
  shape := .pointer 8 (some ⟨"long int".toList, "Long integer (platform dependent)".toList⟩)

/-- The hover for it. -/
def unevenHover : Text :=
  "Memory Size: `8 bytes`\n\n_Pointer to long int_\n\nArchitecture: x86_64 (host)".toList

theorem hover_uneven_pointer :
    locate [] unevenLine 12 = some ⟨unevenPointer.text, ⟨1, 12⟩⟩ ∧
    Sighting.Sound unevenLine 12 ⟨unevenPointer.text, ⟨1, 12⟩⟩ ∧
    (plainStart.layoutInLine [] [] unevenLine 12).2 =
      .ok ⟨"x86_64 (host)".toList, some (unevenPointer, unevenHover)⟩ ∧
    (plainStart.lookUp [] unevenPointer.text).2 =
      .ok ⟨"x86_64 (host)".toList, some ({ unevenPointer with span := none }, unevenHover)⟩ := by
  have hlocate : locate [] unevenLine 12 = some ⟨unevenPointer.text, ⟨1, 12⟩⟩ := by
    decide +kernel
  have hreport : (plainStart.layoutInLine [] [] unevenLine 12).2 =
      .ok ⟨"x86_64 (host)".toList, some (unevenPointer, unevenHover)⟩ := by decide +kernel
  obtain ⟨-, hlookUp, -⟩ := hover_sound_lookUp_agrees.2 _ _ _ _ _ _ _ _ hreport rfl
  exact ⟨hlocate, hover_sound_lookUp_agrees.1 _ _ _ _ hlocate, hreport, hlookUp⟩

end Session

end TypeLens
