/-
# TypeLens.Text.Quoted -- text shown between quotes

Messages show a text between single quotes, or between double quotes when it holds a single quote
and no double quote. The quote in use and the backslash are escaped, tab, line feed and carriage
return have letters, and every other character that is not printable is written by its code point
in two, four or eight hexadecimal digits.
-/
import TypeLens.Text.Basic
import TypeLens.Text.Printable

namespace TypeLens

/-- A number in lower-case hexadecimal, padded with zeros to a width. -/
def hexPadded (width n : Nat) : Text :=
  let digits := Nat.toDigits 16 n
  List.replicate (width - digits.length) '0' ++ digits

/-- One character of a quoted text. -/
def quotedChar (quote c : Char) : Text :=
  if c = quote || c = '\\' then ['\\', c]
  else if c = '\t' then ['\\', 't']
  else if c = '\n' then ['\\', 'n']
  else if c = '\r' then ['\\', 'r']
  else if isPrintable c then [c]
  else if c.toNat ≤ 0xFF then '\\' :: 'x' :: hexPadded 2 c.toNat
  else if c.toNat ≤ 0xFFFF then '\\' :: 'u' :: hexPadded 4 c.toNat
  else '\\' :: 'U' :: hexPadded 8 c.toNat

/-- The quote that surrounds a text. -/
def quoteFor (text : Text) : Char :=
  if '\'' ∈ text ∧ '"' ∉ text then '"' else '\''

/-- The text between quotes, as messages show it. -/
def quoted (text : Text) : Text :=
  let quote := quoteFor text
  quote :: text.flatMap (quotedChar quote) ++ [quote]

end TypeLens
