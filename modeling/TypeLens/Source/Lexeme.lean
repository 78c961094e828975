/-
# TypeLens.Source.Lexeme -- C and C++ text cut into lexemes

A source text is cut into gaps (blanks, comments and preprocessor directives), words, literals and
marks, without losing a character. A mark is a single character, or one of a few operators whose
characters must not be taken apart. The closing angle bracket always stands alone, since two of
them may close two lists of template arguments.

Only texts that are well-formed need a sensible cut, so an unclosed literal simply extends to the
end.
-/
import TypeLens.Source.Directive

namespace TypeLens.Source

/-- What a lexeme is. -/
inductive LexemeKind where
  | gap
  | word
  | literal
  | mark
deriving DecidableEq, Repr

/-- A piece of a source text. -/
structure Lexeme where
  kind : LexemeKind
  text : Text
deriving DecidableEq, Repr

/-! ## Lexemes -/

/-- The words that make the string behind them a raw one. -/
def rawPrefixes : List Text := ["R", "LR", "uR", "UR", "u8R"].map String.toList

/-- The marks of more than one character, longer ones first. -/
def longMarks : List Text :=
  ["<=>", "<<=", "<<", "<=", "--", "->", "::"].map String.toList

/-- The width of the mark at the front. -/
def markWidth (text : Text) : Nat :=
  ((longMarks.find? fun m => m.isPrefixOf text).map List.length).getD 1

/-- The lexeme at the front, which is neither a gap nor a directive and starts with `c`: its kind, and
how many characters behind `c` belong to it. -/
def solidTail (c : Char) (rest : Text) : LexemeKind × Nat :=
  let text := c :: rest
  if c = '"' || c = '\'' then (.literal, quotedTail c false rest)
  else if c.isDigit || (c = '.' && (rest.head?.map Char.isDigit).getD false) then
    (.literal, numberTail c rest)
  else if 0 < wordWidth text then
    let width := wordWidth text
    match text.drop width with
    | '"' :: behind =>
      if rawPrefixes.contains (text.take width) then (.literal, width + rawTail behind)
      else (.word, width - 1)
    | _ => (.word, width - 1)
  else (.mark, markWidth text - 1)

/-- What a place is inside of behind a character that is not part of a directive. -/
def Enclosure.behind (c : Char) (kind : LexemeKind) (enclosures : List Enclosure) :
    List Enclosure :=
  match kind, c, enclosures with
  | .mark, '\x7b', _ => .braces :: enclosures
  | .mark, '\x7d', .braces :: outer => outer
  | _, _, _ => enclosures

/-- The lexeme that starts with the character `c`: its kind, how many characters behind `c` belong to
it, and what the place behind it is inside of. -/
def lexemeTail (enclosures : List Enclosure) (c : Char) (rest : Text) :
    LexemeKind × Nat × List Enclosure :=
  let text := c :: rest
  if isGapChar c then (.gap, 0, enclosures)
  else if 0 < fillerWidth text then (.gap, fillerWidth text - 1, enclosures)
  else if c = '#' then (.gap, directiveTail enclosures rest)
  else
    let (kind, tail) := solidTail c rest
    (kind, tail, Enclosure.behind c kind enclosures)

/-- The lexemes of a text whose first `skip` characters are already accounted for. -/
def lexemesFrom : (enclosures : List Enclosure) → (skip : Nat) → Text → List Lexeme
  | _, _, [] => []
  | enclosures, skip + 1, _ :: rest => lexemesFrom enclosures skip rest
  | enclosures, 0, c :: rest =>
    let (kind, tail, enclosures') := lexemeTail enclosures c rest
    ⟨kind, c :: rest.take tail⟩ :: lexemesFrom enclosures' tail rest

/-- The lexemes of a source text; a byte order mark at its start is a gap. -/
def lexemes : Text → List Lexeme
  | '\uFEFF' :: rest => ⟨.gap, ['\uFEFF']⟩ :: lexemesFrom [] 0 rest
  | text => lexemesFrom [] 0 text

/-! ## Nothing is lost -/

theorem lexemesFrom_texts (text : Text) (enclosures : List Enclosure) (skip : Nat) :
    (lexemesFrom enclosures skip text).flatMap Lexeme.text = text.drop skip := by
  induction text generalizing enclosures skip with
  | nil => cases skip <;> simp [lexemesFrom]
  | cons c rest ih =>
    cases skip with
    | zero => simp [lexemesFrom, ih]
    | succ n => simp [lexemesFrom, ih]

/-- The lexemes, one after another, are the source text. -/
theorem lexemes_texts (text : Text) : (lexemes text).flatMap Lexeme.text = text := by
  unfold lexemes
  split <;> simp [lexemesFrom_texts]

end TypeLens.Source
