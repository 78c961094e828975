/-
# TypeLens.Source.Directive -- preprocessor directives

A directive starts with a hash sign. How far it extends depends on its keyword:

* a condition, an inclusion and the argument of any other directive end with their line;
* a directive that asks for a name ends behind the name, and `#else` and `#endif` with their keyword,
  so that code may follow on the same line.

All branches of a conditional are kept: of a conditional only the directives are gaps. A keyword
that continues or closes a conditional does so only directly inside one; elsewhere it is like any
other.

The argument of a directive starts with the first character that is neither blank nor part of a
comment. The line ends there only if it ends directly behind the keyword, the name or a comment:
after a blank the argument is still to come, on whatever line it stands. In the argument a
slash takes the next character with it, be it the end of the line, and only a block comment or the
end of the line ends it.
-/
import TypeLens.Source.Piece

namespace TypeLens.Source

/-! ## Arguments -/

/-- How far the reading of a directive's argument has come. -/
inductive ArgumentStage where
  /-- No argument yet, and no blank behind the last piece: the line may end here. -/
  | fresh
  /-- No argument yet, but a blank. -/
  | spaced
  /-- Inside the argument. -/
  | inside
  /-- Behind the argument, where only comments may follow. -/
  | closing
deriving DecidableEq, Repr

namespace ArgumentStage

/-- Whether the directive ends before the given text. -/
def endsBefore : ArgumentStage → Text → Bool
  | spaced, _ => false
  | fresh, '\r' :: '\n' :: _ => true
  | _, '\n' :: _ => true
  | _, _ => false

/-- How many characters at the front of the text belong together, and the stage behind them. -/
def unit (stage : ArgumentStage) (text : Text) : Nat × ArgumentStage :=
  match stage with
  | fresh | spaced =>
    if text.head?.any isGapChar then (1, spaced)
    else if 0 < spliceWidth text then (spliceWidth text, spaced)
    else if 0 < commentWidth text then (commentWidth text, fresh)
    else (1, inside)
  | inside =>
    if 0 < spliceWidth text then (spliceWidth text, inside)
    else
      match text with
      | '/' :: '*' :: _ => (max 1 (commentWidth text), closing)
      | '/' :: _ :: _ => (2, inside)
      | _ => (1, inside)
  | closing => (max 1 (fillerWidth text), closing)

end ArgumentStage

/-- The rest of a directive; the first `skip` characters are already accounted for. -/
def argumentWidthFrom : (stage : ArgumentStage) → (skip : Nat) → Text → Nat
  | _, _, [] => 0
  | stage, skip + 1, _ :: rest => 1 + argumentWidthFrom stage skip rest
  | stage, 0, c :: rest =>
    if stage.endsBefore (c :: rest) then 0
    else
      let (width, next) := stage.unit (c :: rest)
      1 + argumentWidthFrom next (width - 1) rest

/-- The argument of a directive, blanks and comments around it included. -/
def argumentWidth (text : Text) : Nat := argumentWidthFrom .fresh 0 text

/-- A piece of a directive with what follows it up to the end of the line. -/
def restOfLine (text : Text) : Nat := argumentWidthFrom .closing 0 text

/-! ## Names, conditions, definitions, inclusions -/

/-- A name with the gap before it. -/
def nameTail (text : Text) : Nat :=
  let gap := gapWidth text
  gap + wordWidth (text.drop gap)

/-- A condition with the gap before it. -/
def conditionTail (text : Text) : Nat :=
  let gap := gapWidth text
  gap + restOfLine (text.drop gap)

/-- The parameters of a macro behind the opening parenthesis. -/
def parametersTail : (skip : Nat) → Text → Nat
  | _, [] => 0
  | skip + 1, _ :: rest => 1 + parametersTail skip rest
  | 0, c :: rest =>
    if c = ')' then 1 else 1 + parametersTail (commentWidth (c :: rest) - 1) rest

/-- The parameters of a macro, which follow its name directly. -/
def parametersWidth : Text → Nat
  | '(' :: rest => 1 + parametersTail 0 rest
  | _ => 0

/-- A macro definition behind its keyword. -/
def definitionTail (text : Text) : Nat :=
  let name := nameTail text
  let head := name + parametersWidth (text.drop name)
  head + argumentWidth (text.drop head)

/-- An inclusion behind its keyword: the path may hold what looks like a comment. -/
def inclusionTail (text : Text) : Nat :=
  let gap := gapWidth text
  let path :=
    match text.drop gap with
    | '"' :: rest => gap + 1 + quotedTail '"' false rest
    | '<' :: rest => gap + 1 + widthThrough ['>'] rest
    | _ => gap
  path + restOfLine (text.drop path)

/-! ## Conditionals -/

/-- What a place in a source text is directly inside of. -/
inductive Enclosure where
  | braces
  /-- A branch of a conditional, the one behind `#else` being the last. -/
  | branch (last : Bool)
deriving DecidableEq, Repr

/-- What a directive does. -/
inductive DirectiveKind where
  | define
  | inclusion
  | conditional
  | nameConditional
  | alternative
  | nameAlternative
  | lastAlternative
  | close
  /-- Any other directive. -/
  | other
deriving DecidableEq, Repr

namespace DirectiveKind

/-- The keywords, with what they do. -/
def keywords : List (String × DirectiveKind) :=
  [("define", define), ("include", inclusion), ("if", conditional), ("ifdef", nameConditional),
    ("ifndef", nameConditional), ("elif", alternative), ("elifdef", nameAlternative),
    ("elifndef", nameAlternative), ("else", lastAlternative), ("endif", close)]

/-- What a directive with the given keyword does, if it may do so. -/
def ofKeyword (keyword : Text) : DirectiveKind :=
  ((keywords.find? fun entry => entry.1.toList = keyword).map Prod.snd).getD other

/-- What a directive does at a place with the given enclosures, innermost first, and what the place
behind it is inside of. -/
def settle (kind : DirectiveKind) (enclosures : List Enclosure) :
    DirectiveKind × List Enclosure :=
  match kind, enclosures with
  | conditional, _ | nameConditional, _ => (kind, .branch false :: enclosures)
  | alternative, .branch false :: _ | nameAlternative, .branch false :: _ => (kind, enclosures)
  | lastAlternative, .branch false :: outer => (kind, .branch true :: outer)
  | close, .branch _ :: outer => (kind, outer)
  | define, _ | inclusion, _ => (kind, enclosures)
  | _, _ => (other, enclosures)

/-- A directive behind its keyword. -/
def tail (kind : DirectiveKind) (text : Text) : Nat :=
  match kind with
  | define => definitionTail text
  | inclusion => inclusionTail text
  | conditional | alternative => conditionTail text
  | nameConditional | nameAlternative => nameTail text
  | lastAlternative | close => 0
  | other => argumentWidth text

end DirectiveKind

/-- Whether a character can stand in the keyword of a directive. -/
def isKeywordPart (c : Char) : Bool := c.isAlphanum || c = '_'

/-- Whether a character is a blank within a line. -/
def isLineBlank (c : Char) : Bool := c = ' ' || c = '\t'

/-- A directive behind its hash sign, and what the place behind it is inside of. -/
def directiveTail (enclosures : List Enclosure) (text : Text) : Nat × List Enclosure :=
  let blanks := (text.takeWhile isLineBlank).length
  let keyword := (text.drop blanks).takeWhile isKeywordPart
  let head := blanks + keyword.length
  let (kind, enclosures') := (DirectiveKind.ofKeyword keyword).settle enclosures
  (head + kind.tail (text.drop head), enclosures')

end TypeLens.Source
