/-
# TypeLens.Text.Decimal -- reading and printing integers

An integer is written as blanks, an optional sign, digits with single underscores between them,
and blanks. The digits may be those of any script; the information separators do not count as
blanks here. It is printed as a minus sign when it is negative, and its decimal digits. Either way a
number of more than 4300 digits is refused.
-/
import TypeLens.Text.Blank

namespace TypeLens

/-! ## Reading -/

/-- The digit zero of every script, in ascending order; the other nine digits follow it. -/
def digitZeros : List Nat := [
  0x0030, 0x0660, 0x06F0, 0x07C0, 0x0966, 0x09E6, 0x0A66, 0x0AE6, 0x0B66, 0x0BE6, 0x0C66,
  0x0CE6, 0x0D66, 0x0DE6, 0x0E50, 0x0ED0, 0x0F20, 0x1040, 0x1090, 0x17E0, 0x1810, 0x1946,
  0x19D0, 0x1A80, 0x1A90, 0x1B50, 0x1BB0, 0x1C40, 0x1C50, 0xA620, 0xA8D0, 0xA900, 0xA9D0,
  0xA9F0, 0xAA50, 0xABF0, 0xFF10, 0x104A0, 0x10D30, 0x11066, 0x110F0, 0x11136, 0x111D0, 0x112F0,
  0x11450, 0x114D0, 0x11650, 0x116C0, 0x11730, 0x118E0, 0x11950, 0x11C50, 0x11D50, 0x11DA0,
  0x16A60, 0x16AC0, 0x16B50, 0x1D7CE, 0x1D7D8, 0x1D7E2, 0x1D7EC, 0x1D7F6, 0x1E140, 0x1E2F0,
  0x1E950, 0x1FBF0]

/-- The value of a decimal digit of any script. -/
def digitValue? (c : Char) : Option Nat :=
  (digitZeros.find? fun z => z ≤ c.toNat && c.toNat ≤ z + 9).map (c.toNat - ·)

/-- Whether a character may surround a number. -/
def isNumberBlank (c : Char) : Bool := isBlank c && !(0x1C ≤ c.toNat && c.toNat ≤ 0x1F)

/-- The most digits a number may have. -/
def maxDigits : Nat := 4300

/-- The digits of a number, most significant first: a single underscore may stand between two
digits. -/
def digits? : Text → Option (List Nat)
  | [] => none
  | [c] => (digitValue? c).map ([·])
  | c :: '_' :: d :: rest => do
    let v ← digitValue? c
    let vs ← digits? (d :: rest)
    return v :: vs
  | c :: d :: rest => do
    let v ← digitValue? c
    let vs ← digits? (d :: rest)
    return v :: vs

/-- The number with the given decimal digits, most significant first. -/
def ofDigits (ds : List Nat) : Nat := ds.foldl (fun n d => 10 * n + d) 0

/-- The value of unsigned digits, at most `maxDigits` of them. -/
def natural? (text : Text) : Option Nat := do
  let ds ← digits? text
  if ds.length ≤ maxDigits then some (ofDigits ds) else none

/-- The integer a text denotes. -/
def integer? (text : Text) : Option Int :=
  let core := ((text.dropWhile isNumberBlank).reverse.dropWhile isNumberBlank).reverse
  match core with
  | '+' :: rest => (natural? rest).map Int.ofNat
  | '-' :: rest => (natural? rest).map fun (n : Nat) => -(n : Int)
  | rest => (natural? rest).map Int.ofNat

/-! ## Printing -/

/-- An integer in print, unless it has more than `maxDigits` digits. -/
def integerText? (n : Int) : Option Text :=
  if (Nat.toDigits 10 n.natAbs).length ≤ maxDigits then some (integerText n) else none

end TypeLens
