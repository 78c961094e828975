/-
# TypeLens.AggregateKind -- structs, unions and classes

The kinds of user-defined aggregates and their keywords, in the order in which both the locator
tries them and the declarations of a document are collected.
-/
import TypeLens.Text.Basic

namespace TypeLens

/-- The kinds of aggregates. -/
inductive AggregateKind where
  | structType
  | unionType
  | classType
deriving DecidableEq, Repr

namespace AggregateKind

/-- Every kind, in order. -/
def all : List AggregateKind := [structType, unionType, classType]

/-- The keyword of a kind. -/
def keyword : AggregateKind → Text
  | structType => "struct".toList
  | unionType => "union".toList
  | classType => "class".toList

/-- The kind of a keyword. -/
def ofKeyword? (word : Text) : Option AggregateKind := all.find? fun k => k.keyword = word

@[simp] theorem ofKeyword?_keyword (k : AggregateKind) : ofKeyword? k.keyword = some k := by
  cases k <;> decide

theorem mem_all (k : AggregateKind) : k ∈ all := by cases k <;> decide

end AggregateKind

/-- The keywords that introduce a user-defined aggregate by name. -/
def aggregateKeywords : List Text := AggregateKind.all.map AggregateKind.keyword

end TypeLens
