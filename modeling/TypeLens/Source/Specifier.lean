/-
# TypeLens.Source.Specifier -- aggregates in a source text

A specifier is an aggregate keyword with a name, a body, or both. Attributes may stand before the
name; `final` and base classes may stand before the body. Specifiers are found wherever they
stand: in members, parameters, templates and expressions alike. Where a name is expected, the
keywords are names themselves.
-/
import TypeLens.AggregateKind
import TypeLens.Source.Path

namespace TypeLens.Source

/-- The kind that a token is the keyword of. -/
def Token.aggregateKind? (t : Token) : Option AggregateKind :=
  if t.kind = .word then AggregateKind.ofKeyword? t.text else none

/-! ## What may stand around a name -/

/-- The words for attributes, which are followed by arguments in parentheses. -/
def attributeWords : List Text :=
  ["__attribute__", "__attribute", "alignas", "_Alignas", "__declspec"].map String.toList

/-- The words that qualify a type. -/
def qualifierWords : List Text :=
  ["const", "volatile", "restrict", "__restrict__", "__extension__", "_Atomic", "_Noreturn",
    "noreturn", "_Nonnull", "mutable", "constexpr", "constinit", "consteval"].map String.toList

/-- The words that restrict how a class is derived from. -/
def virtualWords : List Text := ["final", "override"].map String.toList

/-- The words that may stand before a base class. -/
def derivationWords : List Text :=
  ["public", "protected", "private", "virtual"].map String.toList

/-- The tokens behind attributes, and behind the given words among them. -/
def behindAttributes (words : List Text) : List Token → List Token
  | [] => []
  | [t] => if t.isWordOf words then [] else [t]
  | t :: u :: rest =>
    if t.isWordOf attributeWords && u.isTheMark "(" then
      behindAttributes words (behindClosing "(" ")" 0 rest)
    else if t.isTheMark "[" && u.isTheMark "[" then
      behindAttributes words (behindClosing "[" "]" 1 rest)
    else if t.isWordOf words then behindAttributes words (u :: rest)
    else t :: u :: rest
termination_by ts => ts.length
decreasing_by
  all_goals simp only [List.length_cons]
  · have := length_behindClosing_le "(" ")" 0 rest
    omega
  · have := length_behindClosing_le "[" "]" 1 rest
    omega
  · omega

/-! ## Bodies -/

/-- A body: its opening brace and the tokens behind the brace. -/
structure Body where
  opening : Token
  inside : List Token
deriving DecidableEq, Repr

/-- The dots behind a base class that stands for several. -/
def behindDots : List Token → List Token
  | t :: u :: v :: rest =>
    if t.isTheMark "." && u.isTheMark "." && v.isTheMark "." then rest else t :: u :: v :: rest
  | ts => ts

/-- The body behind base classes. -/
def bodyBehindBases? (ts : List Token) : Option Body :=
  let path := behindAttributes derivationWords ts
  (rootedPathEnds path).reverse.findSome? fun behind =>
    match behindDots behind with
    | t :: rest =>
      if t.isTheMark "\x7b" then some ⟨t, rest⟩
      else if t.isTheMark "," then
        if _h : rest.length < ts.length then bodyBehindBases? rest else none
      else none
    | [] => none
termination_by ts.length

/-- The body at the front, `final` and base classes being allowed before it. -/
def body? (ts : List Token) : Option Body :=
  match ts.dropWhile (Token.isWordOf virtualWords) with
  | t :: rest =>
    if t.isTheMark "\x7b" then some ⟨t, rest⟩
    else if t.isTheMark ":" then bodyBehindBases? rest
    else none
  | [] => none

/-! ## Heads -/

/-- The name of an aggregate as it is written, and whether it is a single word. -/
structure TagName where
  text : Text
  isPlain : Bool
deriving DecidableEq, Repr

/-- What follows an aggregate keyword: a name or a body or both, and the tokens behind the name. -/
structure Head where
  name : Option TagName
  body : Option Body
  behindName : List Token
deriving DecidableEq, Repr

/-- The tokens behind an aggregate whose head has been read. -/
def Head.behind (h : Head) : List Token :=
  match h.body with
  | some b => behindClosing "\x7b" "\x7d" 0 b.inside
  | none => h.behindName

/-- The name that the tokens before `behind` make. -/
def TagName.upTo (behind ts : List Token) : TagName :=
  let written := ts.take (ts.length - behind.length)
  ⟨Token.sourceText written, written.length = 1⟩

/-- The ways to read what follows an aggregate keyword, better ones first. There must be a name or a
body. -/
def heads (ts : List Token) : List Head :=
  let ts := behindAttributes [] ts
  let nameless := (body? ts).map fun b => ⟨none, some b, ts⟩
  match (if ts.head?.any (Token.isWordOf virtualWords) then [] else rootedPathEnds ts) with
  | [] => nameless.toList
  | ends => ends.reverse.map fun behind => ⟨some (.upTo behind ts), body? behind, behind⟩

theorem named_of_mem_heads {ts : List Token} {h : Head} (hmem : h ∈ heads ts) :
    h.name.isSome = true ∨ h.body.isSome = true := by
  simp only [heads] at hmem
  split at hmem
  · obtain ⟨b, -, rfl⟩ := Option.map_eq_some_iff.mp (Option.mem_toList.mp hmem)
    exact .inr rfl
  · obtain ⟨behind, -, rfl⟩ := List.mem_map.mp hmem
    exact .inl rfl

/-! ## Specifiers -/

/-- An aggregate with a single word as its name and with a body. Its place is that of its keyword. -/
structure Specifier where
  kind : AggregateKind
  name : Text
  line : Nat
  offset : Nat
  /-- Where the body starts. -/
  bodyOffset : Nat
deriving DecidableEq, Repr

/-- The specifier whose keyword is `t`, followed by `rest`, if it has a single word as its name and a
body. -/
def specifierAt? (t : Token) (rest : List Token) : Option Specifier := do
  let kind ← t.aggregateKind?
  let head ← (heads rest).head?
  let name ← head.name
  let body ← head.body
  if name.isPlain then some ⟨kind, name.text, t.line, t.offset, body.opening.offset⟩ else none

/-- Whether a word behind the token is a name, even if it is spelled like a keyword. -/
def Token.asksForName (t : Token) : Bool :=
  t.isTheMark "::" || t.isTheWord "enum" || t.aggregateKind?.isSome

/-- The specifiers in a list of tokens by the places of their keywords, `named` telling that the first
token is a name. -/
def specifiersFrom (named : Bool) : List Token → List Specifier
  | [] => []
  | t :: rest =>
    (if named then [] else (specifierAt? t rest).toList) ++ specifiersFrom t.asksForName rest

/-- The specifiers in a list of tokens by the places of their bodies: one inside another's attributes
or base classes comes before it, one inside another's body behind it. -/
def specifiers (ts : List Token) : List Specifier :=
  (specifiersFrom false ts).mergeSort fun a b => a.bodyOffset ≤ b.bodyOffset

end TypeLens.Source
