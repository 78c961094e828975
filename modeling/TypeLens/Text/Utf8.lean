/-
# TypeLens.Text.Utf8 -- lenient reading of UTF-8 files

Octets that are not part of a well-formed sequence are dropped; overlong forms, surrogates and
values beyond the last code point are not well-formed. A byte order mark is a character like any
other. Every way to end a line (line feed, carriage return, or both) reads as a line feed.
-/
import TypeLens.Text.Basic

namespace TypeLens.Utf8

/-- Whether an octet continues a sequence. -/
def isTrail (b : UInt8) : Bool := 0x80 ≤ b && b ≤ 0xBF

/-- The six payload bits of a continuing octet. -/
def trailBits (b : UInt8) : Nat := b.toNat % 64

/-- Which second octets may follow a leading one: some leads narrow the range to keep out overlong
forms, surrogates and values that are too large. -/
def allowsSecond (lead second : UInt8) : Bool :=
  isTrail second &&
    (if lead = 0xE0 then 0xA0 ≤ second
     else if lead = 0xED then second ≤ 0x9F
     else if lead = 0xF0 then 0x90 ≤ second
     else if lead = 0xF4 then second ≤ 0x8F
     else true)

/-- The character that a well-formed sequence at the front encodes, with the number of octets that
follow the leading one. -/
def leading? : List UInt8 → Option (Char × Nat)
  | [] => none
  | a :: rest =>
    if a < 0x80 then some (Char.ofNat a.toNat, 0)
    else if 0xC2 ≤ a && a ≤ 0xDF then
      match rest with
      | b :: _ =>
        if isTrail b then some (Char.ofNat (a.toNat % 32 * 64 + trailBits b), 1) else none
      | _ => none
    else if 0xE0 ≤ a && a ≤ 0xEF then
      match rest with
      | b :: c :: _ =>
        if allowsSecond a b && isTrail c then
          some (Char.ofNat ((a.toNat % 16 * 64 + trailBits b) * 64 + trailBits c), 2)
        else none
      | _ => none
    else if 0xF0 ≤ a && a ≤ 0xF4 then
      match rest with
      | b :: c :: d :: _ =>
        if allowsSecond a b && isTrail c && isTrail d then
          some (Char.ofNat
            (((a.toNat % 8 * 64 + trailBits b) * 64 + trailBits c) * 64 + trailBits d), 3)
        else none
      | _ => none
    else none

/-- Decoding in the middle of a file, where the next `skip` octets are already accounted for. -/
def decodeAfter : (skip : Nat) → List UInt8 → Text
  | _, [] => []
  | skip + 1, _ :: rest => decodeAfter skip rest
  | 0, b :: rest =>
    match leading? (b :: rest) with
    | some (c, trail) => c :: decodeAfter trail rest
    | none => decodeAfter 0 rest

/-- The characters of a file, ill-formed octets dropped. -/
def decode (octets : List UInt8) : Text := decodeAfter 0 octets

/-- Every line ending as a line feed. -/
def unifyNewlines : Text → Text
  | [] => []
  | '\r' :: '\n' :: rest => '\n' :: unifyNewlines rest
  | '\r' :: rest => '\n' :: unifyNewlines rest
  | c :: rest => c :: unifyNewlines rest

/-- The text of a file. -/
def textOf (octets : List UInt8) : Text := unifyNewlines (decode octets)

end TypeLens.Utf8
