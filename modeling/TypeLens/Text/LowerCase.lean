/-
# TypeLens.Text.LowerCase -- full lower-casing

Each character is lowered on its own, with two exceptions to "one code point gives one code point,
whatever stands around it": the dotted capital I becomes an i followed by a combining dot, and a
capital sigma takes its final form at the end of a word. Only the latter looks at the neighbours,
so the map on single characters (`lowerChar`) is kept apart from the rule for sigma.
-/
import TypeLens.Text.Basic
import TypeLens.Text.LowerCase.Table

namespace TypeLens

/-- The shift of the row that holds a code point; the rows are in ascending order. -/
def CaseRow.shift? : List CaseRow → Nat → Option Int
  | [], _ => none
  | row :: rows, n =>
    if n < row.first then none
    else if n ≤ row.last then
      if (n - row.first) % row.stride = 0 then some row.shift else none
    else shift? rows n

/-- The lower-case form of a character that stands alone. -/
def lowerChar (c : Char) : Text :=
  if c = '\u0130' then ['i', '\u0307']
  else match CaseRow.shift? caseRows c.toNat with
    | some shift => [Char.ofNat ((c.toNat : Int) + shift).toNat]
    | none => [c]

/-- Whether a character has case. -/
def isCased (c : Char) : Bool := Band.covers casedBands c.toNat

/-- Whether a character is passed over when one looks for a neighbour with case. -/
def isCaseTransparent (c : Char) : Bool := Band.covers caseTransparentBands c.toNat

/-- Whether the nearest character that is not transparent to case has case. -/
def casedAhead : Text → Bool
  | [] => false
  | c :: rest => if isCaseTransparent c then casedAhead rest else isCased c

/-- Lower-casing from the middle of a text; `afterCased` says whether a cased character stands
before, seen through transparent ones. A capital sigma after a cased character and before none is
final. -/
def lowerFrom (afterCased : Bool) : Text → Text
  | [] => []
  | c :: rest =>
    let here :=
      if c = 'Σ' then [if afterCased && !casedAhead rest then 'ς' else 'σ'] else lowerChar c
    here ++ lowerFrom (if isCaseTransparent c then afterCased else isCased c) rest

/-- The text in lower case. -/
def lower (text : Text) : Text := lowerFrom false text

end TypeLens
