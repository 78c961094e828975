/-
# TypeLens.Text.Basic -- text as a list of code points

Everything the library reads or writes is a list of code points, so that an offset is an index, a
length is a count, and a piece of text is reasoned about by recursion on the list.
-/
namespace TypeLens

/-- Text is a sequence of code points; offsets and lengths count code points. -/
abbrev Text := List Char

/-- Whether `piece` occurs somewhere in the text. -/
def occursIn (piece : Text) : Text → Bool
  | [] => piece.isEmpty
  | c :: rest => piece.isPrefixOf (c :: rest) || occursIn piece rest

/-- The decimal digits of an integer, after a minus sign when it is negative. -/
def integerText (n : Int) : Text :=
  match n with
  | .ofNat m => Nat.toDigits 10 m
  | .negSucc m => '-' :: Nat.toDigits 10 (m + 1)

/-- Order by code points, a proper beginning before the longer text. -/
def textLE : Text → Text → Bool
  | [], _ => true
  | _ :: _, [] => false
  | a :: as, b :: bs => if a = b then textLE as bs else a.toNat ≤ b.toNat

/-- The texts in code point order, each one once. -/
def sortedUnique (texts : List Text) : List Text :=
  (texts.mergeSort textLE).eraseDups

end TypeLens
