/-
# TypeLens.Declaration -- the user-defined types of a document

A document declares a type for each aggregate with a name and a body, and for each typedef of an
aggregate: a tagged one declares its tag and gives it further names, an untagged one declares its
own name. What a name is declared as first stays.

Four queries collect the declarations in a fixed order: structs, unions, classes, typedefs. Each
of them can be missing.
-/
import TypeLens.Layout
import TypeLens.Source.Typedef

namespace TypeLens

/-- A user-defined type of a document. -/
structure Declaration where
  name : Text
  kind : AggregateKind
  line : Nat
  aliases : List Text
deriving DecidableEq, Repr

namespace Declaration

/-- The name and the further names of a type. -/
def names (d : Declaration) : List Text := d.name :: d.aliases

/-! ## Queries -/

/-- What a document is searched for. -/
inductive Query where
  | aggregates (kind : AggregateKind)
  | typedefs
deriving DecidableEq, Repr

namespace Query

/-- Every query, in the order in which they run. -/
def all : List Query := AggregateKind.all.map .aggregates ++ [.typedefs]

/-- The word for a query. -/
def name : Query → Text
  | .aggregates .structType => "STRUCT".toList
  | .aggregates .unionType => "UNION".toList
  | .aggregates .classType => "CLASS".toList
  | .typedefs => "TYPEDEF".toList

end Query

/-! ## Collecting -/

/-- Whether a name is declared. -/
def declares (ds : List Declaration) (name : Text) : Bool := ds.any fun d => d.name = name

/-- Adds an aggregate with a body, unless its name is declared already. -/
def addSpecifier (ds : List Declaration) (s : Source.Specifier) : List Declaration :=
  if declares ds s.name then ds else ds ++ [⟨s.name, s.kind, s.line, []⟩]

/-- A further name for a type, unless it is its own name or given already. -/
def addAlias (d : Declaration) (extra : Text) : Declaration :=
  if extra = d.name || d.aliases.contains extra then d
  else { d with aliases := d.aliases ++ [extra] }

/-- Gives a further name to the declared type of the given name. -/
def giveAlias (ds : List Declaration) (tag extra : Text) : List Declaration :=
  ds.map fun d => if d.name = tag then d.addAlias extra else d

/-- One name that a typedef gives to an aggregate. -/
structure Naming where
  kind : AggregateKind
  tag : Option Text
  hasBody : Bool
  line : Nat
  given : Source.Alias
deriving DecidableEq, Repr

/-- The names that a typedef gives, one by one. -/
def Naming.ofTypedef (t : Source.Typedef) : List Naming :=
  t.aliases.map fun a => ⟨t.kind, t.tag, t.hasBody, t.line, a⟩

/-- The names that typedefs give, in the order in which they stand in the text. -/
def namings (ts : List Source.Typedef) : List Naming :=
  (ts.flatMap Naming.ofTypedef).mergeSort fun a b => a.given.offset ≤ b.given.offset

/-- Adds one name that a typedef gives. A tag is declared if it is not yet; without a tag the name
itself is, provided that there is a body. -/
def addNaming (ds : List Declaration) (n : Naming) : List Declaration :=
  match n.tag with
  | none =>
    if n.hasBody && !declares ds n.given.name then ds ++ [⟨n.given.name, n.kind, n.line, []⟩]
    else ds
  | some tag =>
    let ds := if declares ds tag then ds else ds ++ [⟨tag, n.kind, n.line, []⟩]
    giveAlias ds tag n.given.name

/-- What one query adds. -/
def runQuery (specifiers : List Source.Specifier) (typedefs : List Source.Typedef)
    (ds : List Declaration) : Query → List Declaration
  | .aggregates kind => (specifiers.filter fun s => s.kind = kind).foldl addSpecifier ds
  | .typedefs => (namings typedefs).foldl addNaming ds

/-- The declarations that the given queries collect, in the order in which they are made. -/
def collect (queries : List Query) (specifiers : List Source.Specifier)
    (typedefs : List Source.Typedef) : List Declaration :=
  (Query.all.filter fun q => queries.contains q).foldl (runQuery specifiers typedefs) []

/-- The declarations that queries make of aggregates and typedefs, by line. -/
def gather (queries : List Query) (specifiers : List Source.Specifier)
    (typedefs : List Source.Typedef) : List Declaration :=
  (collect queries specifiers typedefs).mergeSort fun a b => a.line ≤ b.line

/-- The declarations of a document. -/
def scanWith (queries : List Query) (content : Text) : List Declaration :=
  let ts := Source.tokens content
  gather queries (Source.specifiers ts) (Source.typedefs ts)

/-- The declarations of a document that all queries together find. -/
def scan (content : Text) : List Declaration := scanWith Query.all content

/-! ## Names and sizes -/

/-- All names of declared types. -/
def knownNames (ds : List Declaration) : List Text := ds.flatMap names

/-- The size of a declared type: that of the first of its names that has one. -/
def size? (sizes : SizeMap) (d : Declaration) : Option Int := d.names.findSome? sizes.get?

/-- Gives a size to every name that has none. -/
def shareSize (size : Int) (sizes : SizeMap) (names : List Text) : SizeMap :=
  names.foldl (fun m n => if (m.get? n).isSome then m else m ++ [(n, size)]) sizes

/-- Sizes for all names of the declared types: a size given for one name of a type goes for all of
its names that have none. -/
def spreadSizes (ds : List Declaration) (sizes : SizeMap) : SizeMap :=
  ds.foldl
    (fun m d =>
      match d.size? sizes with
      | some size => shareSize size m d.names
      | none => m) sizes

end Declaration

end TypeLens
