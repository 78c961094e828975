/-
# TypeLens.Source.Typedef -- names given to aggregates

A typedef of an aggregate gives it names. Only plain names count: a pointer, array, function or
parenthesised declarator gives none, and neither does a name that is spelled like a primitive
type.
-/
import TypeLens.Source.Specifier

namespace TypeLens.Source

/-- The names that are always primitive types. -/
def primitiveNames : List Text :=
  ["bool", "char", "int", "float", "double", "void", "size_t", "ssize_t", "ptrdiff_t",
    "intptr_t", "uintptr_t", "charptr_t", "nullptr_t", "max_align_t", "char8_t", "char16_t",
    "char32_t", "char64_t", "int8_t", "int16_t", "int32_t", "int64_t", "uint8_t", "uint16_t",
    "uint32_t", "uint64_t", "signed", "unsigned", "long", "short"].map String.toList

/-- A name that a typedef gives, with the place where it stands. -/
structure Alias where
  name : Text
  offset : Nat
deriving DecidableEq, Repr

/-- A typedef of an aggregate. -/
structure Typedef where
  kind : AggregateKind
  /-- The name of the aggregate itself, as it is written. -/
  tag : Option Text
  hasBody : Bool
  line : Nat
  offset : Nat
  aliases : List Alias
deriving DecidableEq, Repr

/-! ## Declarators -/

/-- How many brackets of other kinds, and how many angle brackets outside of those, are open. -/
structure Depth where
  brackets : Nat := 0
  angles : Nat := 0
deriving DecidableEq, Repr

/-- The depth behind a token, unless the token closes what is not open. -/
def Depth.behind? (d : Depth) (t : Token) : Option Depth :=
  if t.opens then some { d with brackets := d.brackets + 1 }
  else if t.closes then if d.brackets = 0 then none else some { d with brackets := d.brackets - 1 }
  else if 0 < d.brackets then some d
  else if t.isTheMark "<" then some { d with angles := d.angles + 1 }
  else if t.isTheMark ">" then if d.angles = 0 then none else some { d with angles := d.angles - 1 }
  else some d

/-- Puts a token in front of the first of some lists. -/
def pushFront (t : Token) : List (List Token) → List (List Token)
  | [] => [[t]]
  | ts :: others => (t :: ts) :: others

/-- The declarators up to the semicolon that ends them, from a place at the given depth. -/
def declaratorsFrom? (d : Depth) : List Token → Option (List (List Token))
  | [] => none
  | t :: rest =>
    if d = {} && t.isTheMark ";" then some [[]]
    else if d = {} && t.isTheMark "," then (declaratorsFrom? {} rest).map ([] :: ·)
    else
      match d.behind? t with
      | some d' => (declaratorsFrom? d' rest).map (pushFront t)
      | none => none

/-- The declarators up to the semicolon that ends them. None of them is empty. -/
def declarators? (ts : List Token) : Option (List (List Token)) :=
  (declaratorsFrom? {} ts).filter fun ds => ds.all (!·.isEmpty)

/-- The name that a declarator gives, if it is a plain one. Attributes may follow it. -/
def plainName? : List Token → Option Alias
  | [] => none
  | t :: rest =>
    let ends := match rest with
      | [] => true
      | u :: _ => u.isWordOf (["__attribute__", "__attribute"].map String.toList)
    if t.kind = .word && !primitiveNames.contains t.text && ends then some ⟨t.text, t.offset⟩
    else none

/-! ## Typedefs -/

/-- The head of an aggregate that is followed by declarators, and these. -/
def headWithDeclarators? (ts : List Token) : Option (Head × List (List Token)) :=
  (heads ts).findSome? fun h =>
    (declarators? (behindAttributes qualifierWords h.behind)).map fun ds => (h, ds)

/-- The typedef that starts with `start` and whose keyword is followed by `rest`, if it names an
aggregate. -/
def typedefAt? (start : Token) (rest : List Token) : Option Typedef :=
  match behindAttributes qualifierWords rest with
  | k :: more => do
    let kind ← k.aggregateKind?
    let (head, declarators) ← headWithDeclarators? more
    return ⟨kind, head.name.map TagName.text, head.body.isSome, start.line, start.offset,
      declarators.filterMap plainName?⟩
  | [] => none

theorem named_of_typedefAt? {start : Token} {rest : List Token} {t : Typedef}
    (h : typedefAt? start rest = some t) : t.tag.isSome = true ∨ t.hasBody = true := by
  rw [typedefAt?] at h
  split at h
  · simp only [Option.bind_eq_bind, Option.bind_eq_some_iff] at h
    obtain ⟨kind, -, ⟨head, declarators⟩, hhead, h⟩ := h
    obtain ⟨found, hmem, hfound⟩ := List.exists_of_findSome?_eq_some hhead
    obtain ⟨_, -, heq⟩ := Option.map_eq_some_iff.mp hfound
    cases heq
    cases h
    simpa using named_of_mem_heads hmem
  · cases h

/-- The typedefs in a list of tokens, `marker` being the `__extension__` directly before it: a typedef
starts with it. -/
def typedefsFrom (marker : Option Token) : List Token → List Typedef
  | [] => []
  | t :: rest =>
    (if t.isTheWord "typedef" then (typedefAt? (marker.getD t) rest).toList else [])
      ++ typedefsFrom (if t.isTheWord "__extension__" then some t else none) rest

/-- The typedefs of aggregates in a list of tokens, outer ones before inner ones. -/
def typedefs (ts : List Token) : List Typedef := typedefsFrom none ts

/-- A typedef names a tag, or an aggregate with a body. -/
theorem Typedef.named {ts : List Token} {t : Typedef} (h : t ∈ typedefs ts) :
    t.tag.isSome = true ∨ t.hasBody = true := by
  suffices hfrom : ∀ marker, t ∈ typedefsFrom marker ts →
      t.tag.isSome = true ∨ t.hasBody = true from hfrom none h
  clear h
  induction ts with
  | nil => exact fun _ h => absurd h List.not_mem_nil
  | cons start rest ih =>
    intro marker h
    rcases List.mem_append.mp h with h | h
    · split at h
      · exact named_of_typedefAt? (Option.mem_toList.mp h)
      · exact absurd h List.not_mem_nil
    · exact ih _ h

end TypeLens.Source
