/-
# TypeLens.Proofs.Session.FileFailures -- how questions about places in files fail

There are three ways to fail, in this order (`FileFault`). The file cannot be read, for one of the
reasons that a store can give (`FileStore.Blocked`); it has no line of the given number; or the type
has a size with more digits than can be printed. Each happens exactly when this is so, whatever the
column, and otherwise there is an answer (`layoutInFile_fails_exactly`).

The first two show before anything is brought into being, so that the session stays as it was. The
third shows last: by then the file has been scanned and the architecture been resolved. It needs a
given size that cannot be printed.
-/
import TypeLens.Proofs.Files
import TypeLens.Proofs.Session.FileRequests

namespace TypeLens

/-! ## Outcomes -/

section

variable {ε α β : Type} {x : Except ε α}

theorem map_eq_error_iff {f : α → β} {e : ε} : x.map f = .error e ↔ x = .error e := by
  cases x <;> simp [Except.map]

theorem exists_map_eq_ok_iff {f : α → β} : (∃ a, x.map f = .ok (f a)) ↔ ∃ a, x = .ok a := by
  cases x with
  | ok a => exact iff_of_true ⟨a, rfl⟩ ⟨a, rfl⟩
  | error e => simp [Except.map]

theorem not_exists_error_iff : (¬ ∃ e, x = .error e) ↔ ∃ a, x = .ok a := by
  cases x <;> simp

end

namespace Session

/-! ## Failures -/

/-- Why a question about a place in a file fails. -/
inductive FileFault (s : Session) (sizes : SizeMap) (path : Text) (line column : Int) :
    Fault → Prop where
  /-- No file can be read at the path. -/
  | blocked {obstacle : Obstacle} (h : s.files.Blocked path obstacle) :
      FileFault s sizes path line column (.file obstacle path)
  /-- The file has no line of this number. -/
  | line {place : Place} {file : StoredFile} (hread : s.files.read path = .ok (place, file))
      (hline : line < 1 ∨ ((Utf8.textOf file.octets).count '\n' + 1 : Nat) < line) :
      FileFault s sizes path line column
        (.lineOutOfRange line ((Utf8.textOf file.octets).count '\n' + 1))
  /-- The type at the cursor has a size with too many digits. -/
  | size {place : Place} {file : StoredFile} {text : Text} {declarations : List Declaration}
      {layout : Layout} (hread : s.files.read path = .ok (place, file))
      (htext : lineAt? (Utf8.textOf file.octets) line = some text)
      (hscan : (s.scanFile path).2 = .ok declarations)
      (hlayout : Layout.atCursor? s.architecture.width
        (Declaration.knownNames declarations ++ (Declaration.spreadSizes declarations sizes).names)
        (Declaration.spreadSizes declarations sizes) text column = some layout)
      (hsize : 10 ^ maxDigits ≤ layout.shape.size.natAbs) :
      FileFault s sizes path line column .tooManyDigits

variable {s : Session} {sizes : SizeMap} {path : Text} {line column : Int} {fault : Fault}

section Blocked

variable {obstacle : Obstacle} (hread : s.files.read path = .error obstacle)

include hread

/-- Without a file, a question fails and leaves the session alone. -/
theorem layoutInFile_of_blocked :
    s.layoutInFile sizes path line column = (s, .error (.file obstacle path)) := by
  simp only [layoutInFile, hread]

theorem fileFault_iff_of_blocked :
    FileFault s sizes path line column fault ↔ fault = .file obstacle path := by
  constructor
  · intro hfault
    cases hfault with
    | blocked h => rw [Except.error.inj (hread.symm.trans (FileStore.read_eq_error_iff.mpr h))]
    | line h => cases hread.symm.trans h
    | size h => cases hread.symm.trans h
  · rintro rfl
    exact .blocked (FileStore.read_eq_error_iff.mp hread)

end Blocked

section Read

variable {place : Place} {file : StoredFile} (hread : s.files.read path = .ok (place, file))

include hread

/-- Without the line, it fails and leaves the session alone. -/
theorem layoutInFile_of_noLine (hline : lineAt? (Utf8.textOf file.octets) line = none) :
    s.layoutInFile sizes path line column =
      (s, .error (.lineOutOfRange line ((Utf8.textOf file.octets).count '\n' + 1))) := by
  simp only [layoutInFile, hread, hline, length_linesOf]

theorem fileFault_iff_of_noLine (hline : lineAt? (Utf8.textOf file.octets) line = none) :
    FileFault s sizes path line column fault ↔
      fault = .lineOutOfRange line ((Utf8.textOf file.octets).count '\n' + 1) := by
  constructor
  · intro hfault
    cases hfault with
    | blocked h => cases hread.symm.trans (FileStore.read_eq_error_iff.mpr h)
    | line h =>
      obtain ⟨rfl, rfl⟩ := Prod.mk.inj (Except.ok.inj (hread.symm.trans h))
      rfl
    | size h htext =>
      obtain ⟨rfl, rfl⟩ := Prod.mk.inj (Except.ok.inj (hread.symm.trans h))
      cases hline.symm.trans htext
  · rintro rfl
    exact .line hread (lineAt?_eq_none_iff.mp hline)

variable {text : Text} (htext : lineAt? (Utf8.textOf file.octets) line = some text)

include htext

/-- On a line, only the size of the type can be in the way. -/
theorem fileFault_iff_of_line :
    FileFault s sizes path line column fault ↔ fault = .tooManyDigits ∧
      let declarations := (s.consult place file).2
      let spread := Declaration.spreadSizes declarations sizes
      ∃ layout, Layout.atCursor? s.architecture.width
          (Declaration.knownNames declarations ++ spread.names) spread text column = some layout ∧
        10 ^ maxDigits ≤ layout.shape.size.natAbs := by
  have hscan : (s.scanFile path).2 = .ok (s.consult place file).2 := by
    rw [scanFile_eq_consult hread]
  constructor
  · intro hfault
    cases hfault with
    | blocked h => cases hread.symm.trans (FileStore.read_eq_error_iff.mpr h)
    | line h houtside =>
      obtain ⟨rfl, rfl⟩ := Prod.mk.inj (Except.ok.inj (hread.symm.trans h))
      cases htext.symm.trans (lineAt?_eq_none_iff.mpr houtside)
    | size h htext' hscan' hlayout hsize =>
      obtain ⟨rfl, rfl⟩ := Prod.mk.inj (Except.ok.inj (hread.symm.trans h))
      obtain rfl := Option.some.inj (htext.symm.trans htext')
      obtain rfl := Except.ok.inj (hscan.symm.trans hscan')
      exact ⟨rfl, _, hlayout, hsize⟩
  · rintro ⟨rfl, layout, hlayout, hsize⟩
    exact .size hread htext hscan hlayout hsize

end Read

/-- A question about a place in a file fails exactly if there is a reason to. -/
theorem layoutInFile_eq_error_iff :
    (s.layoutInFile sizes path line column).2 = .error fault ↔
      FileFault s sizes path line column fault := by
  cases hread : s.files.read path with
  | error obstacle =>
    rw [layoutInFile_of_blocked hread, fileFault_iff_of_blocked hread, Except.error.injEq, eq_comm]
  | ok found =>
    obtain ⟨place, file⟩ := found
    cases hline : lineAt? (Utf8.textOf file.octets) line with
    | none =>
      rw [layoutInFile_of_noLine hread hline, fileFault_iff_of_noLine hread hline,
        Except.error.injEq, eq_comm]
    | some text =>
      -- the answer is that of the session after the scan, which has the same architecture
      have halike := (s.alike_scanFound place file).architecture_eq
      rw [fileFault_iff_of_line hread hline, layoutInFile_eq_after_scan hread hline]
      simp only [map_eq_error_iff, scanFile_eq_consult hread, layoutInLine_eq_reportOn, halike,
        reportOn_eq_error_iff, integerText?_eq_none_iff]

/-- Where all given sizes can be printed, every line of a file that can be read is answered for. -/
theorem exists_layoutInFile_iff (hsizes : sizes.Printable) :
    (∃ report, (s.layoutInFile sizes path line column).2 = .ok report) ↔
      ∃ place file, s.files.read path = .ok (place, file) ∧
        1 ≤ line ∧ line ≤ ((Utf8.textOf file.octets).count '\n' + 1 : Nat) := by
  constructor
  · rintro ⟨report, hreport⟩
    cases hread : s.files.read path with
    | error obstacle =>
      rw [layoutInFile_of_blocked hread] at hreport
      cases hreport
    | ok found =>
      obtain ⟨place, file⟩ := found
      refine ⟨place, file, rfl, ?_⟩
      by_contra houtside
      rw [layoutInFile_of_noLine hread (lineAt?_eq_none_iff.mpr (by omega))] at hreport
      cases hreport
  · rintro ⟨place, file, hread, hlow, hhigh⟩
    obtain ⟨text, htext⟩ := exists_lineAt? hlow hhigh
    obtain ⟨report, hreport⟩ := exists_layoutInFile hread htext hsizes column
    exact ⟨_, hreport⟩

/-! ## What failures leave behind -/

/-- A failure that shows before the answer is printed leaves no trace. -/
theorem layoutInFile_fst_of_error
    (h : (s.layoutInFile sizes path line column).2 = .error fault) (hfault : fault ≠ .tooManyDigits) :
    (s.layoutInFile sizes path line column).1 = s := by
  cases layoutInFile_eq_error_iff.mp h with
  | blocked hblocked => rw [layoutInFile_of_blocked (FileStore.read_eq_error_iff.mpr hblocked)]
  | line hread houtside => rw [layoutInFile_of_noLine hread (lineAt?_eq_none_iff.mpr houtside)]
  | size => exact absurd rfl hfault

theorem isSome_engine?_needLink (s : Session) : s.needLink.engine?.isSome = true := by
  unfold needLink
  split <;> rfl

theorem isSome_engine?_report (s : Session) (layout : Option Layout) :
    (s.report layout).1.engine?.isSome = true := by
  cases layout with
  | none => exact s.isSome_engine?_needLink
  | some l => exact s.isSome_engine?_needLink

/-- When the size turns out to be too long, all that an answer needs is there. -/
theorem layoutInFile_fst_of_tooManyDigits
    (h : (s.layoutInFile sizes path line column).2 = .error .tooManyDigits) :
    (s.scanFile path).1.scanner?.isSome = true ∧
      (s.layoutInFile sizes path line column).1.scanner? = (s.scanFile path).1.scanner? ∧
      (s.layoutInFile sizes path line column).1.engine?.isSome = true ∧
      (s.layoutInFile sizes path line column).1.settings?.isSome = true := by
  cases layoutInFile_eq_error_iff.mp h with
  | @size place file text declarations layout hread htext hscan hlayout hsize =>
    have hscanFile := scanFile_eq_consult hread
    obtain rfl : (s.consult place file).2 = declarations := by
      rw [hscanFile] at hscan
      exact Except.ok.inj hscan
    have hnext := congrArg Prod.fst (layoutInFile_eq_after_scan hread htext sizes column)
    dsimp only at hnext
    have halike : (s.scanFile path).1.architecture = s.architecture := by
      rw [hscanFile]
      exact (s.alike_scanFound place file).architecture_eq
    refine ⟨?_, ?_, ?_, ?_⟩
    · rw [hscanFile, scanFound_eq]
      rfl
    · rw [hnext]
      exact (frame_layoutInLine _ _ _ _ _).scanner?
    · rw [hnext]
      exact isSome_engine?_report _ _
    · -- there is a layout, and settings are needed for reporting on it
      rw [hnext, layoutInLine, architecture_needLink, halike, hlayout]
      rfl

/-- A scan that fails leaves an existing scanner alone, and with it all that is remembered. -/
theorem scanner?_scanFile_of_error {scanner : Scanner} (hscanner : s.scanner? = some scanner)
    (hfault : (s.scanFile path).2 = .error fault) :
    (s.scanFile path).1.scanner? = some scanner := by
  rcases s.scanFile_cases path with ⟨place, file, -, -, hscan⟩ | ⟨-, -, hframe⟩
  · rw [hscan] at hfault
    cases hfault
  · rw [hframe.scanner?, ← hscanner]
    simp only [needScanner, Session.scanner, hscanner, Option.getD_some]

/-! ## The whole -/

theorem handle_layoutInFile_eq_error_iff :
    (s.handle (.layoutInFile sizes path line column)).2 = .error fault ↔
      (s.layoutInFile sizes path line column).2 = .error fault :=
  map_eq_error_iff

/-- **Failures are exact.** A question about a place in a file fails for the reasons given by
`FileFault` and for no others, whatever the column, and else is answered. If it fails because of the
path or the line, the session is the one from before, with the parts that it had. If it fails because
of a size, the file has been scanned, and engine and settings are there. Where all given sizes can be
printed, this does not happen: every line of a file that can be read is answered for. A scan that
fails leaves an existing scanner and what it remembers as they are. -/
theorem layoutInFile_fails_exactly (s : Session) (sizes : SizeMap) (path : Text)
    (line column : Int) :
    let next := s.handle (.layoutInFile sizes path line column)
    let scanned := s.handle (.scanFile path)
    (∀ fault, next.2 = .error fault ↔ FileFault s sizes path line column fault) ∧
    ((∃ report, next.2 = .ok (.fileReport report)) ↔
      ¬ ∃ fault, FileFault s sizes path line column fault) ∧
    (∀ fault, next.2 = .error fault → fault ≠ .tooManyDigits → next.1 = s) ∧
    (next.2 = .error .tooManyDigits → scanned.1.scanner?.isSome = true ∧
      next.1.scanner? = scanned.1.scanner? ∧ next.1.engine?.isSome = true ∧
      next.1.settings?.isSome = true) ∧
    (sizes.Printable → ((∃ report, next.2 = .ok (.fileReport report)) ↔
      ∃ place file, s.files.read path = .ok (place, file) ∧
        1 ≤ line ∧ line ≤ ((Utf8.textOf file.octets).count '\n' + 1 : Nat))) ∧
    ∀ fault scanner, s.scanner? = some scanner → scanned.2 = .error fault →
      scanned.1.scanner? = some scanner := by
  intro next scanned
  have hfails : ∀ fault, next.2 = .error fault ↔
      (s.layoutInFile sizes path line column).2 = .error fault :=
    fun _ => handle_layoutInFile_eq_error_iff
  have hexact : ∀ fault, next.2 = .error fault ↔ FileFault s sizes path line column fault :=
    fun fault => (hfails fault).trans layoutInFile_eq_error_iff
  have hanswers : (∃ report, next.2 = .ok (.fileReport report)) ↔
      ∃ report, (s.layoutInFile sizes path line column).2 = .ok report := exists_map_eq_ok_iff
  refine ⟨hexact, ?_, ?_, ?_, ?_, ?_⟩
  · rw [hanswers, ← not_exists_error_iff]
    simp only [layoutInFile_eq_error_iff]
  · exact fun fault hfault hne => layoutInFile_fst_of_error ((hfails fault).mp hfault) hne
  · exact fun hfault => layoutInFile_fst_of_tooManyDigits ((hfails _).mp hfault)
  · exact fun hsizes => hanswers.trans (exists_layoutInFile_iff hsizes)
  · exact fun fault scanner hscanner hfault =>
      scanner?_scanFile_of_error hscanner (map_eq_error_iff.mp hfault)

/-- A header is scanned and removed, and another one is written into a directory. -/
def deletion : List Event := [
  .request (.write "a.h".toList (asciiFile "struct A{};" 1)),
  .request (.scanFile "a.h".toList),
  .request (.remove "a.h".toList),
  .request (.write "b/c.h".toList (asciiFile "int x;\n" 2))]

/-- The removed header is still remembered, and is not found; the directory and the line behind the
last one are refused, the last line is answered for, and the memory stays. -/
theorem fails_after_deletion :
    let s := plainStart.after deletion
    let ask := fun (path : String) (line column : Int) =>
      s.handle (.layoutInFile [] path.toList line column)
    s.scanner.cache.keys = [["a.h".toList]] ∧
    (ask "a.h" 1 0).2 = .error (.file .missing "a.h".toList) ∧ (ask "a.h" 1 0).1 = s ∧
    (ask "b" 1 0).2 = .error (.file .isDirectory "b".toList) ∧
    (ask "b/c.h" 3 0).2 = .error (.lineOutOfRange 3 2) ∧
    (ask "b/c.h" 2 (-1)).2 =
      .ok (.fileReport ⟨⟨"x86_64 (host)".toList, none⟩, "b/c.h".toList, 2, []⟩) ∧
    (s.handle (.scanFile "a.h".toList)).1.scanner? = s.scanner? := by
  intro s ask
  have hheader : s.files.read "b/c.h".toList =
      .ok (["b".toList, "c.h".toList], asciiFile "int x;\n" 2) := rfl
  obtain ⟨hexact, -, htrace, -, -, hscanner⟩ :=
    layoutInFile_fails_exactly s [] "a.h".toList 1 0
  have hmissing := (hexact _).mpr (.blocked (.missing rfl))
  refine ⟨rfl, hmissing, htrace _ hmissing nofun, ?_, ?_, ?_, ?_⟩
  · exact ((layoutInFile_fails_exactly s [] "b".toList 1 0).1 _).mpr
      (.blocked (.directory rfl rfl))
  · exact ((layoutInFile_fails_exactly s [] "b/c.h".toList 3 0).1 _).mpr
      (.line hheader (.inr (by decide)))
  · decide +kernel
  · exact hscanner (.file .missing "a.h".toList) s.scanner rfl rfl

/-- **There are other failures, and one leaves a trace.** Where a name is too long, nothing is found,
but that is not what is said; a file that may not be read is there and has the line, and there is no
answer; and when a size cannot be printed, a scanner is left behind. -/
theorem fails_otherwise :
    let longName : Text := List.replicate 256 'a'
    let s := plainStart.after [.request (.write "n.h".toList nodeHeader)]
    let locked : Session := { s with files.unreadable := [["n.h".toList]] }
    let sizes : SizeMap := [("N".toList, ((10 ^ maxDigits : Nat) : Int))]
    let next := s.handle (.layoutInFile sizes "n.h".toList 2 0)
    (∀ node, s.files.find longName ≠ .ok node) ∧
    (s.handle (.layoutInFile [] longName 1 0)).2 = .error (.file .nameTooLong longName) ∧
    locked.files.find "n.h".toList = .ok (.file ["n.h".toList] nodeHeader) ∧
    (locked.handle (.layoutInFile [] "n.h".toList 2 0)).2 = .error (.file .denied "n.h".toList) ∧
    next.2 = .error .tooManyDigits ∧ s.scanner? = none ∧ next.1.scanner?.isSome = true := by
  intro longName s locked sizes next
  have hfind : s.files.find longName = .error .nameTooLong := by decide +kernel
  have hblocked : s.files.Blocked longName .nameTooLong := .nameTooLong hfind
  have htext : lineAt? (Utf8.textOf nodeHeader.octets) 2 = some "N n;".toList := by decide +kernel
  have hscan : (s.scanFile "n.h".toList).2 = .ok [⟨"N".toList, .structType, 1, []⟩] := by
    decide +kernel
  have hlayout : Layout.atCursor? s.architecture.width ["N".toList, "N".toList] sizes
      "N n;".toList 0 = some ⟨"N".toList, some ⟨0, 1⟩, .aggregate (10 ^ maxDigits : Nat)⟩ := by
    decide +kernel
  have hsize : 10 ^ maxDigits ≤ (Int.ofNat (10 ^ maxDigits)).natAbs :=
    Nat.le_of_eq (Int.natAbs_natCast _).symm
  have hlong : (s.layoutInFile [] longName 1 0).2 = .error (.file .nameTooLong longName) :=
    layoutInFile_eq_error_iff.mpr (.blocked hblocked)
  have hdigits : (s.layoutInFile sizes "n.h".toList 2 0).2 = .error .tooManyDigits :=
    layoutInFile_eq_error_iff.mpr (.size rfl htext hscan hlayout hsize)
  obtain ⟨hscanner, hnext, -, -⟩ := layoutInFile_fst_of_tooManyDigits hdigits
  refine ⟨?_, ?_, rfl, rfl, ?_, rfl, ?_⟩
  · intro node hnode
    cases hfind.symm.trans hnode
  · exact handle_layoutInFile_eq_error_iff.mpr hlong
  · exact handle_layoutInFile_eq_error_iff.mpr hdigits
  · rw [← hnext] at hscanner
    exact hscanner

end Session

end TypeLens
