/-
# TypeLens.Proofs.Declaration.Collecting -- what the queries make of aggregates and typedefs

Every aggregate and every name that a typedef gives wants something declared: a name, a kind and a
line (`Origin`). A declaration is made of the first origin with its name, in the order in which the
queries come across them (`map_origin_collect`), and a typedef may then add names to it, which changes
nothing else (`addNaming_eq`).

These two facts carry what is promised of the declarations of a text (`WellFormed`): no two have the
same name, none has a name twice, and they are in the order of their lines, which are lines of the
text (`scanWith_wellFormed`). For this it does not matter how the aggregates and typedefs have been
found, how many there are, or in which order.
-/
import Mathlib.Data.List.Nodup
import TypeLens.Proofs.Session.FileFailures
import TypeLens.Proofs.Source.Places

namespace TypeLens.Declaration

/-! ## First elements of each name -/

section Firsts

variable {α β : Type} (name : α → Text)

/-- The elements that are the first ones with their names, leaving out the names in `seen`. -/
def firstsFrom (seen : List Text) : List α → List α
  | [] => []
  | a :: rest =>
    if seen.contains (name a) then firstsFrom seen rest
    else a :: firstsFrom (seen ++ [name a]) rest

/-- The elements of a list that are the first ones with their names. -/
def firstsBy (l : List α) : List α := firstsFrom name [] l

theorem firstsFrom_append (seen : List Text) (l l' : List α) :
    firstsFrom name seen (l ++ l') =
      firstsFrom name seen l ++ firstsFrom name (seen ++ (firstsFrom name seen l).map name) l' := by
  induction l generalizing seen with
  | nil => rw [firstsFrom, List.map_nil, List.append_nil, List.nil_append, List.nil_append]
  | cons a rest ih =>
    rw [List.cons_append, firstsFrom, firstsFrom]
    split
    · exact ih seen
    · rw [ih, List.map_cons, List.cons_append, List.append_assoc, List.singleton_append]

theorem firstsFrom_map (f : β → α) (seen : List Text) (l : List β) :
    firstsFrom name seen (l.map f) = (firstsFrom (name ∘ f) seen l).map f := by
  induction l generalizing seen with
  | nil => rfl
  | cons a rest ih =>
    simp only [List.map_cons, firstsFrom, Function.comp_apply]
    split
    · exact ih seen
    · rw [List.map_cons, ih]

theorem firstsFrom_sublist (seen : List Text) (l : List α) :
    (firstsFrom name seen l).Sublist l := by
  induction l generalizing seen with
  | nil => exact List.Sublist.slnil
  | cons a rest ih =>
    rw [firstsFrom]
    split
    · exact (ih seen).cons a
    · exact (ih _).cons_cons a

/-- An element is among the first ones if a search for its name finds it. -/
theorem mem_firstsFrom {seen : List Text} {l : List α} {a : α} :
    a ∈ firstsFrom name seen l ↔ name a ∉ seen ∧ l.find? (name · = name a) = some a := by
  induction l generalizing seen with
  | nil => simp [firstsFrom]
  | cons b rest ih =>
    rw [firstsFrom, List.find?_cons]
    by_cases hname : name b = name a
    · -- then the search ends with `b`
      simp only [hname, decide_true, Option.some.injEq]
      split
      · rename_i hseen
        rw [List.contains_iff_mem] at hseen
        rw [ih]
        exact iff_of_false (fun h => h.1 hseen) (fun h => h.1 hseen)
      · rename_i hseen
        rw [List.contains_iff_mem] at hseen
        rw [List.mem_cons, ih]
        constructor
        · rintro (rfl | ⟨hnew, -⟩)
          · exact ⟨hseen, rfl⟩
          · exact absurd (List.mem_append_right _ (List.mem_singleton_self _)) hnew
        · rintro ⟨-, rfl⟩
          exact .inl rfl
    · have hne : a ≠ b := fun h => hname (congrArg name h.symm)
      simp only [hname, decide_false]
      split
      · exact ih
      · rw [List.mem_cons, ih, List.mem_append, List.mem_singleton]
        simp [hne, Ne.symm hname]

theorem nodup_firstsFrom (seen : List Text) (l : List α) :
    ((firstsFrom name seen l).map name).Nodup := by
  induction l generalizing seen with
  | nil => exact List.nodup_nil
  | cons a rest ih =>
    rw [firstsFrom]
    split
    · exact ih seen
    · rw [List.map_cons, List.nodup_cons]
      refine ⟨fun hmem => ?_, ih _⟩
      obtain ⟨b, hb, hname⟩ := List.mem_map.mp hmem
      refine ((mem_firstsFrom name).mp hb).1 ?_
      rw [hname]
      exact List.mem_append_right _ (List.mem_singleton_self _)

end Firsts

/-! ## Sorting by a number -/

/-- Sorting leaves two elements in their order, unless the second one has the lower number. -/
theorem pairwise_mergeSort_iff {α : Type} (key : α → Nat) {R : α → α → Prop} (l : List α) :
    (l.mergeSort fun a b => key a ≤ key b).Pairwise R ↔
      l.Pairwise fun a b => if key a ≤ key b then R a b else R b a := by
  have htrans : ∀ a b c, decide (key a ≤ key b) = true → decide (key b ≤ key c) = true →
      decide (key a ≤ key c) = true := by
    intro a b c
    simp only [decide_eq_true_eq]
    omega
  have htotal : ∀ a b, (decide (key a ≤ key b) || decide (key b ≤ key a)) = true := by
    intro a b
    simp only [Bool.or_eq_true, decide_eq_true_eq]
    omega
  induction l with
  | nil => simp
  | cons a rest ih =>
    obtain ⟨front, back, hsorted, hrest, hfront⟩ := List.mergeSort_cons htrans htotal a rest
    have hback : ∀ b ∈ back, key a ≤ key b := by
      have hpairs := List.pairwise_mergeSort htrans htotal (a :: rest)
      rw [hsorted, List.pairwise_append, List.pairwise_cons] at hpairs
      exact fun b hb => of_decide_eq_true (hpairs.2.1.1 b hb)
    have hmem : ∀ b, b ∈ rest ↔ b ∈ front ∨ b ∈ back := by
      intro b
      have hsame : b ∈ rest.mergeSort (fun a b => key a ≤ key b) ↔ b ∈ rest := List.mem_mergeSort
      rw [← hsame, hrest, List.mem_append]
    have hpairs : (∀ b ∈ rest, if key a ≤ key b then R a b else R b a) ↔
        (∀ b ∈ front, R b a) ∧ ∀ b ∈ back, R a b := by
      simp only [hmem, or_imp, forall_and]
      refine and_congr (forall₂_congr fun b hb => ?_) (forall₂_congr fun b hb => ?_)
      · rw [if_neg (by simpa using hfront b hb)]
      · rw [if_pos (hback b hb)]
    rw [hsorted, List.pairwise_cons, hpairs, ← Iff.eq ih, hrest, List.pairwise_append,
      List.pairwise_append, List.pairwise_cons]
    simp only [List.mem_cons, forall_eq_or_imp, forall_and]
    tauto

/-! ## Origins -/

/-- What is to be declared. -/
structure Origin where
  name : Text
  kind : AggregateKind
  line : Nat
deriving DecidableEq, Repr

/-- The declaration without its further names. -/
def origin (d : Declaration) : Origin := ⟨d.name, d.kind, d.line⟩

/-- What an aggregate with a body declares. -/
def Origin.ofSpecifier (s : Source.Specifier) : Origin := ⟨s.name, s.kind, s.line⟩

/-- What a name that a typedef gives declares, if it is new: the tag, or without one the name itself
if there is a body. -/
def Naming.origin? (n : Naming) : Option Origin :=
  match n.tag with
  | some tag => some ⟨tag, n.kind, n.line⟩
  | none => if n.hasBody then some ⟨n.given.name, n.kind, n.line⟩ else none

/-- Declares a name, unless it is declared already. -/
def declare (ds : List Declaration) (o : Origin) : List Declaration :=
  if declares ds o.name then ds else ds ++ [⟨o.name, o.kind, o.line, []⟩]

/-- Adds the name that a typedef gives to the declaration of its tag. -/
def Naming.attach (n : Naming) (d : Declaration) : Declaration :=
  if n.tag = some d.name then d.addAlias n.given.name else d

@[simp] theorem origin_addAlias (d : Declaration) (extra : Text) :
    (d.addAlias extra).origin = d.origin := by
  rw [addAlias]
  split <;> rfl

@[simp] theorem Naming.origin_attach (n : Naming) (d : Declaration) :
    (n.attach d).origin = d.origin := by
  rw [attach]
  split
  · exact origin_addAlias d _
  · rfl

theorem declares_iff {ds : List Declaration} {name : Text} :
    declares ds name = true ↔ name ∈ ds.map Declaration.name := by
  simp [declares]

/-- A typedef declares what is missing and then adds its name to the declaration of the tag. -/
theorem addNaming_eq (ds : List Declaration) (n : Naming) :
    addNaming ds n = (n.origin?.toList.foldl declare ds).map n.attach := by
  cases htag : n.tag with
  | none =>
    have hattach : n.attach = id := by
      funext d
      simp [Naming.attach, htag]
    rw [hattach, List.map_id]
    cases hbody : n.hasBody with
    | false => simp [addNaming, Naming.origin?, htag, hbody]
    | true =>
      cases hnew : declares ds n.given.name <;>
        simp [addNaming, Naming.origin?, declare, htag, hbody, hnew]
  | some tag =>
    have hattach : n.attach = fun d => if d.name = tag then d.addAlias n.given.name else d := by
      funext d
      simp [Naming.attach, htag, eq_comm]
    rw [hattach]
    simp only [addNaming, Naming.origin?, htag, giveAlias, declare, Option.toList_some,
      List.foldl_cons, List.foldl_nil]

/-! ## What is declared -/

/-- The origins that a query comes across. -/
def originsOf (specifiers : List Source.Specifier) (typedefs : List Source.Typedef) :
    Query → List Origin
  | .aggregates kind => (specifiers.filter fun s => s.kind = kind).map .ofSpecifier
  | .typedefs => (namings typedefs).filterMap Naming.origin?

/-- The origins that queries come across, one query after the other. -/
def origins (queries : List Query) (specifiers : List Source.Specifier)
    (typedefs : List Source.Typedef) : List Origin :=
  (Query.all.filter fun q => queries.contains q).flatMap (originsOf specifiers typedefs)

/-- Declarations have come to be others by declaring what is missing of some origins. -/
def GrowsBy (ds ds' : List Declaration) (os : List Origin) : Prop :=
  ds'.map origin =
    ds.map origin ++ firstsFrom Origin.name ((ds.map origin).map Origin.name) os

theorem growsBy_declare (ds : List Declaration) (o : Origin) : GrowsBy ds (declare ds o) [o] := by
  have hnames : (ds.map origin).map Origin.name = ds.map Declaration.name := by
    rw [List.map_map]
    rfl
  rw [GrowsBy, declare, hnames, firstsFrom, firstsFrom]
  have hdeclares : declares ds o.name = (ds.map Declaration.name).contains o.name := by
    rw [Bool.eq_iff_iff, declares_iff, List.contains_iff_mem]
  rw [hdeclares]
  split
  · rw [List.append_nil]
  · rw [List.map_append]
    rfl

theorem growsBy_foldl {α : Type} {add : List Declaration → α → List Declaration}
    {given : α → List Origin} (hadd : ∀ ds a, GrowsBy ds (add ds a) (given a))
    (ds : List Declaration) (l : List α) : GrowsBy ds (l.foldl add ds) (l.flatMap given) := by
  induction l generalizing ds with
  | nil => rw [GrowsBy, List.foldl_nil, List.flatMap_nil, firstsFrom, List.append_nil]
  | cons a rest ih =>
    have hfirst : (add ds a).map origin = _ := hadd ds a
    have hrest : (rest.foldl add (add ds a)).map origin = _ := ih (add ds a)
    rw [GrowsBy, List.foldl_cons, hrest, hfirst, List.flatMap_cons, firstsFrom_append,
      List.map_append, List.append_assoc]

theorem growsBy_addNaming (ds : List Declaration) (n : Naming) :
    GrowsBy ds (addNaming ds n) n.origin?.toList := by
  have hattach : origin ∘ n.attach = origin := funext n.origin_attach
  have hdeclared := growsBy_foldl growsBy_declare ds n.origin?.toList
  rw [List.flatMap_singleton'] at hdeclared
  rwa [GrowsBy, addNaming_eq, List.map_map, hattach]

theorem growsBy_runQuery (specifiers : List Source.Specifier) (typedefs : List Source.Typedef)
    (ds : List Declaration) (q : Query) :
    GrowsBy ds (runQuery specifiers typedefs ds q) (originsOf specifiers typedefs q) := by
  cases q with
  | aggregates kind =>
    have hadd : ∀ ds s, GrowsBy ds (addSpecifier ds s) [.ofSpecifier s] :=
      fun ds s => growsBy_declare ds (.ofSpecifier s)
    rw [runQuery, originsOf, List.map_eq_flatMap]
    exact growsBy_foldl hadd ds _
  | typedefs =>
    rw [runQuery, originsOf, List.filterMap_eq_flatMap_toList]
    exact growsBy_foldl growsBy_addNaming ds _

/-- **The first origin of a name is declared.** Beside their further names, the declarations are the
first origins of each name in the order in which the queries come across them. -/
theorem map_origin_collect (queries : List Query) (specifiers : List Source.Specifier)
    (typedefs : List Source.Typedef) :
    (collect queries specifiers typedefs).map origin =
      firstsBy Origin.name (origins queries specifiers typedefs) :=
  growsBy_foldl (growsBy_runQuery specifiers typedefs) [] _

theorem mem_namings {typedefs : List Source.Typedef} {n : Naming} :
    n ∈ namings typedefs ↔
      ∃ t ∈ typedefs, ∃ a ∈ t.aliases, n = ⟨t.kind, t.tag, t.hasBody, t.line, a⟩ := by
  simp only [namings, List.mem_mergeSort, List.mem_flatMap, Naming.ofTypedef, List.mem_map,
    eq_comm (a := n)]

theorem Naming.line_of_origin? {n : Naming} {o : Origin} (h : n.origin? = some o) :
    o.line = n.line := by
  rw [origin?] at h
  split at h
  · cases h
    rfl
  · split at h
    · cases h
      rfl
    · cases h

/-- What is declared is declared on the line of an aggregate or of a typedef. -/
theorem line_of_mem_origins {queries : List Query} {specifiers : List Source.Specifier}
    {typedefs : List Source.Typedef} {o : Origin} (h : o ∈ origins queries specifiers typedefs) :
    (∃ s ∈ specifiers, o.line = s.line) ∨ ∃ t ∈ typedefs, o.line = t.line := by
  obtain ⟨q, -, h⟩ := List.mem_flatMap.mp h
  cases q with
  | aggregates kind =>
    obtain ⟨s, hs, rfl⟩ := List.mem_map.mp h
    exact .inl ⟨s, (List.mem_filter.mp hs).1, rfl⟩
  | typedefs =>
    obtain ⟨n, hn, ho⟩ := List.mem_filterMap.mp h
    obtain ⟨t, ht, a, -, rfl⟩ := mem_namings.mp hn
    exact .inr ⟨t, ht, Naming.line_of_origin? ho⟩

/-! ## What is added -/

/-- What holds of new declarations and is kept by further names holds of all that are collected. -/
theorem forall_collect {P : Declaration → Prop} (hnew : ∀ name kind line, P ⟨name, kind, line, []⟩)
    (hadd : ∀ d extra, P d → P (d.addAlias extra)) (queries : List Query)
    (specifiers : List Source.Specifier) (typedefs : List Source.Typedef) :
    ∀ d ∈ collect queries specifiers typedefs, P d := by
  have hdeclare : ∀ ds : List Declaration, (∀ d ∈ ds, P d) → ∀ o, ∀ d ∈ declare ds o, P d := by
    intro ds hds o d hd
    rw [declare] at hd
    split at hd
    · exact hds d hd
    · rcases List.mem_append.mp hd with hd | hd
      · exact hds d hd
      · rw [List.mem_singleton.mp hd]
        exact hnew _ _ _
  have hattach : ∀ n : Naming, ∀ d, P d → P (n.attach d) := by
    intro n d hd
    rw [Naming.attach]
    split
    · exact hadd d _ hd
    · exact hd
  rw [collect]
  refine List.foldlRecOn _ _ (motive := fun ds => ∀ d ∈ ds, P d) (by simp) ?_
  rintro ds hds (kind | _) -
  · exact List.foldlRecOn _ _ (motive := fun ds => ∀ d ∈ ds, P d) hds
      fun ds hds s _ => hdeclare ds hds (.ofSpecifier s)
  · refine List.foldlRecOn _ _ (motive := fun ds => ∀ d ∈ ds, P d) hds fun ds hds n _ => ?_
    have hdeclared : ∀ d ∈ n.origin?.toList.foldl declare ds, P d :=
      List.foldlRecOn _ _ (motive := fun ds => ∀ d ∈ ds, P d) hds
        fun ds hds o _ => hdeclare ds hds o
    rw [addNaming_eq]
    intro d hd
    obtain ⟨e, he, rfl⟩ := List.mem_map.mp hd
    exact hattach n e (hdeclared e he)

theorem nodup_names_addAlias {d : Declaration} (h : d.names.Nodup) (extra : Text) :
    (d.addAlias extra).names.Nodup := by
  rw [addAlias]
  split
  · exact h
  · rename_i hnew
    simp only [Bool.or_eq_true, decide_eq_true_eq, List.contains_iff_mem, not_or] at hnew
    have hnotin : extra ∉ d.names := by
      rw [names, List.mem_cons, not_or]
      exact hnew
    show (d.names ++ [extra]).Nodup
    rw [List.nodup_append]
    refine ⟨h, List.nodup_singleton extra, ?_⟩
    rintro name hname _ hextra rfl
    exact hnotin (List.mem_singleton.mp hextra ▸ hname)

/-! ## Well-formed declarations -/

/-- What is promised of the declarations of a text. -/
structure WellFormed (content : Text) (ds : List Declaration) : Prop where
  /-- No two declarations have the same name. -/
  names : (ds.map name).Nodup
  /-- No further name is given twice, and none is the name itself. -/
  aliases : ∀ d ∈ ds, d.aliases.Nodup ∧ d.name ∉ d.aliases
  ordered : ds.Pairwise fun d e => d.line ≤ e.line
  lines : ∀ d ∈ ds, 1 ≤ d.line ∧ d.line ≤ content.count '\n' + 1
  /-- Wherever the text is stored in a file that can be read, its types can be asked about on each of
  the lines; only a size that cannot be printed is in the way of an answer. -/
  accepted : ∀ d ∈ ds, ∀ (s : Session) (path : Text) (place : Place) (file : StoredFile),
    s.files.read path = .ok (place, file) → Utf8.textOf file.octets = content →
    ∀ sizes column, let next := s.handle (.layoutInFile sizes path d.line column)
      (∀ fault, next.2 = .error fault → fault = .tooManyDigits) ∧
      (sizes.Printable → ∃ answer, next.2 = .ok (.fileReport answer))

section Gather

variable {content : Text} (queries : List Query) {specifiers : List Source.Specifier}
  {typedefs : List Source.Typedef}
  (hspecifiers : ∀ s ∈ specifiers, Source.PlaceIn content s.line s.offset)
  (htypedefs : ∀ t ∈ typedefs, Source.PlaceIn content t.line t.offset)

include hspecifiers htypedefs

theorem lines_gather {d : Declaration} (hd : d ∈ gather queries specifiers typedefs) :
    1 ≤ d.line ∧ d.line ≤ content.count '\n' + 1 := by
  have horigin : d.origin ∈ firstsBy Origin.name (origins queries specifiers typedefs) := by
    rw [← map_origin_collect]
    exact List.mem_map_of_mem (List.mem_mergeSort.mp hd)
  rcases line_of_mem_origins ((firstsFrom_sublist _ _ _).subset horigin) with
    ⟨s, hs, hline⟩ | ⟨t, ht, hline⟩
  · rw [show d.line = s.line from hline]
    exact ⟨(hspecifiers s hs).one_le_line, (hspecifiers s hs).line_le⟩
  · rw [show d.line = t.line from hline]
    exact ⟨(htypedefs t ht).one_le_line, (htypedefs t ht).line_le⟩

theorem wellFormed_gather : WellFormed content (gather queries specifiers typedefs) where
  names := by
    have hperm : (gather queries specifiers typedefs).Perm
        (collect queries specifiers typedefs) := List.mergeSort_perm _ _
    have hnames : (collect queries specifiers typedefs).map name =
        (firstsBy Origin.name (origins queries specifiers typedefs)).map Origin.name := by
      rw [← map_origin_collect, List.map_map]
      rfl
    rw [(hperm.map name).nodup_iff, hnames]
    exact nodup_firstsFrom _ _ _
  aliases := by
    intro d hd
    have hnames : d.names.Nodup :=
      forall_collect (P := fun d => d.names.Nodup) (fun name _ _ => List.nodup_singleton name)
        (fun d extra h => nodup_names_addAlias h extra) queries specifiers typedefs d
        (List.mem_mergeSort.mp hd)
    exact (List.nodup_cons.mp hnames).symm
  ordered := by
    refine (pairwise_mergeSort_iff line _).mpr (List.pairwise_of_forall fun d e => ?_)
    split
    · assumption
    · omega
  lines := fun d hd => lines_gather queries hspecifiers htypedefs hd
  accepted := by
    rintro d hd s path place file hread rfl sizes column
    obtain ⟨hlow, hhigh⟩ := lines_gather queries hspecifiers htypedefs hd
    obtain ⟨text, htext⟩ :
        ∃ text, Session.lineAt? (Utf8.textOf file.octets) d.line = some text :=
      Session.exists_lineAt? (by omega) (by omega)
    refine ⟨fun fault hfault => ?_, fun hsizes => ?_⟩
    · have hreason := Session.layoutInFile_eq_error_iff.mp (map_eq_error_iff.mp hfault)
      exact ((Session.fileFault_iff_of_line hread htext).mp hreason).1
    · obtain ⟨report, hreport⟩ := Session.exists_layoutInFile hread htext hsizes column
      exact exists_map_eq_ok_iff.mpr ⟨_, hreport⟩

end Gather

/-- **Scans are well-formed.** Whatever is searched for, the declarations of a text have names of
their own, further names without repetition, and lines of the text in ascending order. The same holds
of what is made of any aggregates and typedefs that stand in the text. -/
theorem scanWith_wellFormed (queries : List Query) (content : Text) :
    WellFormed content (scanWith queries content) ∧
    ∀ specifiers typedefs,
      (∀ s ∈ specifiers, Source.PlaceIn content s.line s.offset) →
      (∀ t ∈ typedefs, Source.PlaceIn content t.line t.offset) →
      WellFormed content (gather queries specifiers typedefs) :=
  ⟨wellFormed_gather queries (fun _ => Source.Specifier.placeIn) (fun _ => Source.Typedef.placeIn),
    fun _ _ => wellFormed_gather queries⟩

/-- A tag in a typedef, and two definitions of it behind that. -/
def tagThrice : String := "typedef struct A B;\nunion A { int x; };\nstruct A { int y; };"

/-- The tag has a single declaration, and can be asked about on the line of that. -/
theorem wellFormed_tagThrice :
    let definitions : List Source.Specifier :=
      [⟨.unionType, "A".toList, 2, 20, 28⟩, ⟨.structType, "A".toList, 3, 40, 49⟩]
    let naming : Source.Typedef :=
      ⟨.structType, some "A".toList, false, 1, 0, [⟨"B".toList, 17⟩]⟩
    let found := gather Query.all definitions [naming]
    let s := Session.plainStart.after
      [.request (.write "a.h".toList (Session.asciiFile tagThrice 1))]
    WellFormed tagThrice.toList found ∧ found = [⟨"A".toList, .structType, 3, ["B".toList]⟩] ∧
      ∃ answer, (s.handle (.layoutInFile [] "a.h".toList 3 7)).2 = .ok (.fileReport answer) := by
  intro definitions naming found s
  have hdefinitions : ∀ d ∈ definitions, Source.PlaceIn tagThrice.toList d.line d.offset := by
    intro d hd
    simp only [definitions, List.mem_cons, List.not_mem_nil, or_false] at hd
    rcases hd with rfl | rfl
    · exact ⟨by decide +kernel, by decide +kernel⟩
    · exact ⟨by decide +kernel, by decide +kernel⟩
  have hnaming : ∀ t ∈ [naming], Source.PlaceIn tagThrice.toList t.line t.offset := by
    intro t ht
    obtain rfl := List.mem_singleton.mp ht
    exact ⟨by decide +kernel, by decide +kernel⟩
  have hwell := (scanWith_wellFormed Query.all tagThrice.toList).2 definitions [naming]
    hdefinitions hnaming
  have hfound : found = [⟨"A".toList, .structType, 3, ["B".toList]⟩] := by decide +kernel
  have hmem : (⟨"A".toList, .structType, 3, ["B".toList]⟩ : Declaration) ∈ found := by
    rw [hfound]
    exact List.mem_singleton_self _
  have hread : s.files.read "a.h".toList =
      .ok (["a.h".toList], Session.asciiFile tagThrice 1) := rfl
  obtain ⟨-, hanswered⟩ := hwell.accepted _ hmem s _ _ _ hread (by decide +kernel) [] 7
  exact ⟨hwell, hfound, hanswered nofun⟩

end TypeLens.Declaration
