/-
# TypeLens.Source.Piece -- what can stand at the front of a source text

C and C++ text is made of blanks, comments, literals and words. For each of them there is a width:
how many characters at the front of a text belong to it. A width of zero says that no such piece
stands there. A block comment counts only if it is closed.
-/
import TypeLens.Source.Identifier
import TypeLens.Text.Basic

namespace TypeLens.Source

/-! ## Characters -/

/-- The blanks between lexemes. -/
def isGapChar (c : Char) : Bool := c = ' ' || (9 ≤ c.toNat && c.toNat ≤ 13)

/-- Whether a character is a hexadecimal digit. -/
def isHexDigit (c : Char) : Bool :=
  c.isDigit || ('a' ≤ c && c ≤ 'f') || ('A' ≤ c && c ≤ 'F')

/-! ## Comments and blanks -/

/-- The characters up to and including the first occurrence of `stop`, if it occurs. -/
def widthThrough? (stop : Text) : Text → Option Nat
  | [] => none
  | c :: rest =>
    if stop.isPrefixOf (c :: rest) then some stop.length
    else (widthThrough? stop rest).map (1 + ·)

/-- The characters up to and including the first occurrence of `stop`, or all of them. -/
def widthThrough (stop text : Text) : Nat := (widthThrough? stop text).getD text.length

/-- A line comment behind its two slashes; `escaped` says that a backslash was the last character. A
line that ends in a backslash goes on. -/
def lineCommentTail (escaped : Bool) : Text → Nat
  | [] => 0
  | c :: rest =>
    if c = '\n' then if escaped then 1 + lineCommentTail false rest else 0
    else if c = '\\' then 1 + lineCommentTail true rest
    else if c = '\r' && escaped && rest.head? = some '\n' then 1 + lineCommentTail true rest
    else 1 + lineCommentTail false rest

/-- The comment at the front, if there is one. -/
def commentWidth : Text → Nat
  | '/' :: '/' :: rest => 2 + lineCommentTail false rest
  | '/' :: '*' :: rest =>
    match widthThrough? ['*', '/'] rest with
    | some width => 2 + width
    | none => 0
  | _ => 0

/-- A backslash with the line ending behind it, if there is one at the front. -/
def spliceWidth : Text → Nat
  | '\\' :: '\n' :: _ => 2
  | '\\' :: '\r' :: '\n' :: _ => 3
  | _ => 0

/-- A splice or a comment at the front, if there is one. -/
def fillerWidth (text : Text) : Nat :=
  match spliceWidth text with
  | 0 => commentWidth text
  | n + 1 => n + 1

/-- Blanks, splices and comments; the first `skip` characters are already accounted for. -/
def gapWidthFrom : (skip : Nat) → Text → Nat
  | _, [] => 0
  | skip + 1, _ :: rest => 1 + gapWidthFrom skip rest
  | 0, c :: rest =>
    if isGapChar c then 1 + gapWidthFrom 0 rest
    else
      match fillerWidth (c :: rest) with
      | 0 => 0
      | n + 1 => 1 + gapWidthFrom n rest

/-- The blanks, splices and comments at the front. -/
def gapWidth (text : Text) : Nat := gapWidthFrom 0 text

/-! ## Literals -/

/-- A literal behind its opening quote, up to and including the closing one. A backslash takes the
next character with it. -/
def quotedTail (quote : Char) (escaped : Bool) : Text → Nat
  | [] => 0
  | c :: rest =>
    if escaped then 1 + quotedTail quote false rest
    else if c = quote then 1
    else 1 + quotedTail quote (c = '\\') rest

/-- A raw string behind its opening quote. -/
def rawTail (text : Text) : Nat :=
  let delimiter := text.takeWhile (· ≠ '(')
  delimiter.length + widthThrough (')' :: delimiter ++ ['"']) (text.drop delimiter.length)

/-- A number behind its first character. Signs belong to it after an exponent mark, and single
quotes between its digits. -/
def numberTail : (previous : Char) → Text → Nat
  | _, [] => 0
  | previous, c :: rest =>
    if isWordPart c || c = '.' then 1 + numberTail c rest
    else if (c = '+' || c = '-') && ['e', 'E', 'p', 'P'].contains previous then
      1 + numberTail c rest
    else if c = '\'' && (rest.head?.map isWordPart).getD false then 1 + numberTail c rest
    else 0

/-! ## Words -/

/-- A character written by its code point inside a word, if there is one at the front. -/
def universalWidth : Text → Nat
  | '\\' :: 'u' :: rest => if (rest.take 4).all isHexDigit && 4 ≤ rest.length then 6 else 0
  | '\\' :: 'U' :: rest => if (rest.take 8).all isHexDigit && 8 ≤ rest.length then 10 else 0
  | _ => 0

/-- A word from somewhere inside it; the first `skip` characters are already accounted for. -/
def wordWidthFrom : (skip : Nat) → Text → Nat
  | _, [] => 0
  | skip + 1, _ :: rest => 1 + wordWidthFrom skip rest
  | 0, c :: rest =>
    if isWordPart c then 1 + wordWidthFrom 0 rest
    else
      match universalWidth (c :: rest) with
      | 0 => 0
      | n + 1 => 1 + wordWidthFrom n rest

/-- The word at the front. -/
def wordWidth (text : Text) : Nat :=
  if (text.head?.map isWordStart).getD false || 0 < universalWidth text then wordWidthFrom 0 text
  else 0

end TypeLens.Source
