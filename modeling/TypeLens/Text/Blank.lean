/-
# TypeLens.Text.Blank -- blanks, trimming, words and single spacing

A blank is any character that separates words: the ASCII blanks and information separators, the
next line control, the no-break space, and the Unicode spaces and separators. The zero-width space
and the byte order mark are not blanks.

`collapse` works on the text, `words` on its pieces; that both see the same words is what makes a
type name independent of its spacing.
-/
import TypeLens.Text.Basic
import TypeLens.Text.Band

namespace TypeLens

/-- The separating characters, in ascending order. -/
def blankBands : List Band := [
  ⟨0x0009, 0x000D⟩, ⟨0x001C, 0x0020⟩, ⟨0x0085, 0x0085⟩, ⟨0x00A0, 0x00A0⟩, ⟨0x1680, 0x1680⟩,
  ⟨0x2000, 0x200A⟩, ⟨0x2028, 0x2029⟩, ⟨0x202F, 0x202F⟩, ⟨0x205F, 0x205F⟩, ⟨0x3000, 0x3000⟩]

/-- Whether a character separates words. -/
def isBlank (c : Char) : Bool := Band.covers blankBands c.toNat

/-- Whether the text begins with a blank. -/
def startsBlank : Text → Bool
  | [] => false
  | c :: _ => isBlank c

/-- The text without leading and trailing blanks. -/
def trim (text : Text) : Text :=
  ((text.dropWhile isBlank).reverse.dropWhile isBlank).reverse

/-- Each run of blanks replaced by one space. -/
def squeeze : Text → Text
  | [] => []
  | c :: rest =>
    if isBlank c then
      if startsBlank rest then squeeze rest else ' ' :: squeeze rest
    else c :: squeeze rest

/-- The text trimmed and single-spaced. -/
def collapse (text : Text) : Text := squeeze (trim text)

/-- A character put in front of the first word. -/
def extendFirst (c : Char) : List Text → List Text
  | [] => [[c]]
  | w :: ws => (c :: w) :: ws

/-- The maximal runs of characters that are not blanks. -/
def words : Text → List Text
  | [] => []
  | c :: rest =>
    if isBlank c then words rest
    else if rest.isEmpty || startsBlank rest then [c] :: words rest
    else extendFirst c (words rest)

/-- The words with one space between neighbours. -/
def joinWords (ws : List Text) : Text := [' '].intercalate ws

/-! ## Words and blanks -/

theorem isBlank_space : isBlank ' ' = true := by decide

/-- A blank at the front of a text belongs to no word. -/
theorem words_cons_of_isBlank {c : Char} (h : isBlank c = true) (text : Text) :
    words (c :: text) = words text := by
  simp [words, h]

/-- A word is not empty and holds no blank. -/
theorem mem_words {text w : Text} (h : w ∈ words text) : w ≠ [] ∧ ∀ c ∈ w, isBlank c = false := by
  induction text generalizing w with
  | nil => simp [words] at h
  | cons c rest ih =>
    by_cases hc : isBlank c = true
    · exact ih (by simpa [words, hc] using h)
    · have hc : isBlank c = false := by simpa using hc
      by_cases hr : (rest.isEmpty || startsBlank rest) = true
      · rw [words, if_neg (by simp [hc]), if_pos hr] at h
        rcases List.mem_cons.1 h with rfl | h
        · simp [hc]
        · exact ih h
      · rw [words, if_neg (by simp [hc]), if_neg hr] at h
        cases hw : words rest with
        | nil =>
          rw [hw, extendFirst, List.mem_singleton] at h
          simp [h, hc]
        | cons v vs =>
          rw [hw, extendFirst] at h
          rcases List.mem_cons.1 h with rfl | h
          · have hv := ih (w := v) (by simp [hw])
            refine ⟨by simp, fun d hd => ?_⟩
            rcases List.mem_cons.1 hd with rfl | hd
            · exact hc
            · exact hv.2 d hd
          · exact ih (by simp [hw, h])

end TypeLens
