/-
# TypeLens.Source.Token -- lexemes that carry meaning, with their places

A token is a lexeme that is not a gap, together with the gap before it, its line and its offset.
Lines are counted from one, and only a line feed ends a line.
-/
import TypeLens.Source.Lexeme

namespace TypeLens.Source

/-- A lexeme with its place. -/
structure Token where
  kind : LexemeKind
  text : Text
  /-- The gap between the token before and this one. -/
  leading : Text
  line : Nat
  offset : Nat
deriving DecidableEq, Repr

/-- How many lines end in a text. -/
def lineEnds (text : Text) : Nat := text.count '\n'

/-- The tokens among lexemes that start behind `offset` characters on `line`, `leading` being the
gap so far. -/
def tokensFrom (line offset : Nat) (leading : Text) : List Lexeme → List Token
  | [] => []
  | l :: rest =>
    let line' := line + lineEnds l.text
    let offset' := offset + l.text.length
    match l.kind with
    | .gap => tokensFrom line' offset' (leading ++ l.text) rest
    | kind => ⟨kind, l.text, leading, line, offset⟩ :: tokensFrom line' offset' [] rest

/-- The tokens of a source text. -/
def tokens (text : Text) : List Token := tokensFrom 1 0 [] (lexemes text)

namespace Token

/-- Whether the token is a word. -/
def isWord (t : Token) : Bool := t.kind = .word

/-- Whether the token is the given word. -/
def isTheWord (t : Token) (word : String) : Bool := t.kind = .word && t.text = word.toList

/-- Whether the token is the given mark. -/
def isTheMark (t : Token) (mark : String) : Bool := t.kind = .mark && t.text = mark.toList

/-- Whether the token is a word of the list. -/
def isWordOf (words : List Text) (t : Token) : Bool := t.kind = .word && words.contains t.text

/-- The source text from the first of the tokens to the last, gaps between them included. -/
def sourceText : List Token → Text
  | [] => []
  | t :: rest => t.text ++ rest.flatMap fun u => u.leading ++ u.text

end Token

/-! ## Brackets -/

/-- Whether the token opens a bracket other than an angle bracket. -/
def Token.opens (t : Token) : Bool := t.isTheMark "(" || t.isTheMark "[" || t.isTheMark "\x7b"

/-- Whether the token closes a bracket other than an angle bracket. -/
def Token.closes (t : Token) : Bool := t.isTheMark ")" || t.isTheMark "]" || t.isTheMark "\x7d"

/-- The tokens behind the mark that closes a bracket; `depth` more brackets of the kind are open. -/
def behindClosing (opening closing : String) : (depth : Nat) → List Token → List Token
  | _, [] => []
  | depth, t :: rest =>
    if t.isTheMark opening then behindClosing opening closing (depth + 1) rest
    else if t.isTheMark closing then
      match depth with
      | 0 => rest
      | depth + 1 => behindClosing opening closing depth rest
    else behindClosing opening closing depth rest

theorem length_behindClosing_le (opening closing : String) (depth : Nat) (ts : List Token) :
    (behindClosing opening closing depth ts).length ≤ ts.length := by
  induction ts generalizing depth with
  | nil => cases depth <;> simp [behindClosing]
  | cons t rest ih =>
    unfold behindClosing
    split
    · exact Nat.le_trans (ih _) (Nat.le_succ _)
    · split
      · cases depth with
        | zero => simp
        | succ d => exact Nat.le_trans (ih _) (Nat.le_succ _)
      · exact Nat.le_trans (ih _) (Nat.le_succ _)

end TypeLens.Source
