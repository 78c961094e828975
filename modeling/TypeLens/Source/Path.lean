/-
# TypeLens.Source.Path -- qualified names with template arguments

A path is a word, or several of them with double colons between them; each may have template
arguments. Where the arguments end is not a matter of counting brackets, since an opening angle
bracket may also be an operator. So a path has several possible ends, and what must follow it decides
between them: `pathEnds` yields them all, and later ones are to be preferred.

Inside other brackets angle brackets count for nothing. A closing angle bracket outside of them
always closes arguments, because as an operator it would have to stand in parentheses.
-/
import TypeLens.Source.Token

namespace TypeLens.Source

/-! ## Template arguments -/

/-- What stands before a place inside template arguments. -/
inductive Before where
  /-- Something that template arguments or parameters can belong to. -/
  | name
  /-- The word before the marks of an operator that is named. -/
  | operatorWord
  /-- A closing angle bracket that names an operator. -/
  | operatorMark
  | other
deriving DecidableEq, Repr

/-- What stands before the place behind a token outside of brackets. -/
def Before.behind (t : Token) : Before :=
  if t.isTheWord "operator" then .operatorWord
  else if t.kind = .word || t.isTheMark "]" then .name
  else .other

/-- The words that can follow template arguments inside other template arguments. -/
def wordsBehindArguments : List Text :=
  ["const", "volatile", "restrict", "__restrict__", "_Atomic", "requires", "and", "or", "xor",
    "bitand", "bitor", "not_eq", "and_eq", "or_eq", "xor_eq"].map String.toList

/-- Whether template arguments inside others can end before the given tokens. -/
def argumentsGoOn : List Token → Bool
  | [] => false
  | t :: _ => t.kind = .mark || t.isWordOf wordsBehindArguments

/-- The tokens behind each angle bracket that can close template arguments. At most `angles` lists of
arguments are open inside them, and `nested` other brackets. -/
def argumentEnds : (angles nested : Nat) → Before → List Token → List (List Token)
  | _, _, _, [] => []
  | angles, nested + 1, _, t :: rest =>
    if t.opens then argumentEnds angles (nested + 2) .other rest
    else if t.closes then argumentEnds angles nested (.behind t) rest
    else argumentEnds angles (nested + 1) .other rest
  | angles, 0, before, t :: rest =>
    if t.opens then argumentEnds angles 1 .other rest
    else if t.closes || t.isTheMark ";" then []
    else if t.isTheMark "<" then
      match before with
      | .name => argumentEnds (angles + 1) 0 .other rest
      | _ => argumentEnds angles 0 .other rest
    else if t.isTheMark ">" then
      if before = .operatorWord then argumentEnds angles 0 .operatorMark rest
      else if before = .operatorMark && t.leading.isEmpty then argumentEnds angles 0 .other rest
      else
        match angles with
        | 0 => [rest]
        | angles + 1 =>
          if argumentsGoOn rest then rest :: argumentEnds angles 0 .other rest else [rest]
    else argumentEnds angles 0 (.behind t) rest

/-! ## Paths -/

/-- The tokens behind each possible end of a part of a path that starts with the word `t`. -/
def partEnds (t : Token) (rest : List Token) : List (List Token) :=
  match rest with
  | u :: more =>
    if t.isTheWord "decltype" && u.isTheMark "(" then [behindClosing "(" ")" 0 more]
    else if u.isTheMark "<" then argumentEnds 0 0 .other more
    else [rest]
  | [] => [[]]

/-- The tokens behind each possible end of a path. -/
def pathEnds : List Token → List (List Token)
  | [] => []
  | t :: rest =>
    if t.kind ≠ .word then []
    else if t.isTheWord "template" then pathEnds rest
    else
      (partEnds t rest).flatMap fun behind =>
        match behind with
        | u :: more =>
          if u.isTheMark "::" && more.head?.any Token.isWord then
            if _h : more.length < rest.length + 1 then pathEnds more else []
          else [behind]
        | [] => [behind]
termination_by ts => ts.length

/-- The tokens behind each possible end of a path that may start with double colons. -/
def rootedPathEnds : List Token → List (List Token)
  | t :: rest => if t.isTheMark "::" then pathEnds rest else pathEnds (t :: rest)
  | [] => []

end TypeLens.Source
