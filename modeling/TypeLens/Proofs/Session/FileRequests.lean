/-
# TypeLens.Proofs.Session.FileRequests -- questions about places in files

A question about a line and a column of a file comes down to two others. The file is scanned, and the
line is asked about with the declared names as known ones and with the given sizes spread over the
names of each declaration; both questions may as well be put to the session as it was
(`layoutInFile_eq_layoutInLine`). What carries this is that answers about types go by the architecture
and the settings only, which a scan does not change, and that of the known names nothing matters but
which they are.

Here the file can be read and has the line. What happens otherwise is the matter of
`TypeLens.Proofs.Session.FileFailures`.
-/
import Mathlib.Data.List.Basic
import TypeLens.Proofs.PrintableSizes
import TypeLens.Proofs.ScanTransparency
import TypeLens.Proofs.Text.Order

namespace TypeLens

/-! ## Lines of a file -/

theorem length_splitOn (separator : Char) (text : Text) :
    (text.splitOn separator).length = text.count separator + 1 := by
  induction text with
  | nil => rfl
  | cons c rest ih =>
    rw [List.splitOn_cons_eq_if_modifyHead, List.count_cons]
    split
    · rw [List.length_cons, ih]
    · rw [List.length_modifyHead, ih, Nat.add_zero]

/-- What is in a piece is in the text. -/
theorem mem_of_mem_splitOn {separator c : Char} {text piece : Text}
    (hpiece : piece ∈ text.splitOn separator) (hc : c ∈ piece) : c ∈ text := by
  induction text generalizing piece with
  | nil =>
    obtain rfl := List.mem_singleton.mp hpiece
    exact hc
  | cons d rest ih =>
    rw [List.splitOn_cons_eq_if_modifyHead] at hpiece
    split at hpiece
    · rcases List.mem_cons.mp hpiece with rfl | hpiece
      · exact absurd hc List.not_mem_nil
      · exact List.mem_cons_of_mem d (ih hpiece hc)
    · -- the character in front belongs to the first piece
      obtain ⟨first, later, hsplit⟩ :=
        List.exists_cons_of_ne_nil (List.splitOn_ne_nil separator rest)
      rw [hsplit] at ih hpiece
      rcases List.mem_cons.mp hpiece with rfl | hpiece
      · rcases List.mem_cons.mp hc with rfl | hc
        · exact List.mem_cons_self
        · exact List.mem_cons_of_mem d (ih List.mem_cons_self hc)
      · exact List.mem_cons_of_mem d (ih (List.mem_cons_of_mem first hpiece) hc)

/-- However its lines end, a file is read without carriage returns. -/
theorem Utf8.return_notMem_textOf (octets : List UInt8) : '\r' ∉ textOf octets := by
  rw [textOf]
  generalize decode octets = text
  fun_induction unifyNewlines text with
  | case1 => exact List.not_mem_nil
  | case2 rest ih => simpa using ih
  | case3 rest _ ih => simpa using ih
  | case4 c rest _ hc ih =>
    rw [List.mem_cons, not_or]
    exact ⟨fun h => hc h.symm, ih⟩

namespace Session

theorem length_linesOf (content : Text) : (linesOf content).length = content.count '\n' + 1 :=
  length_splitOn '\n' content

theorem lineAt?_eq_none_iff {content : Text} {line : Int} :
    lineAt? content line = none ↔ line < 1 ∨ (content.count '\n' + 1 : Nat) < line := by
  rw [lineAt?, ← length_linesOf]
  split
  · rename_i hlow
    exact iff_of_true rfl (.inl hlow)
  · rename_i hlow
    rw [List.getElem?_eq_none_iff]
    omega

theorem exists_lineAt? {content : Text} {line : Int} (hlow : 1 ≤ line)
    (hhigh : line ≤ (content.count '\n' + 1 : Nat)) : ∃ text, lineAt? content line = some text := by
  rw [← Option.ne_none_iff_exists', ne_eq, lineAt?_eq_none_iff]
  omega

end Session

/-! ## Known names -/

/-- Of the known names it matters only which they are, not in which order or how often. -/
theorem locate_congr_known {known known' : List Text} (h : ∀ name, name ∈ known ↔ name ∈ known')
    (line : Text) (cursor : Int) : locate known line cursor = locate known' line cursor := by
  have hcontains : ∀ name, known.contains name = known'.contains name := by
    intro name
    rw [Bool.eq_iff_iff, List.contains_iff_mem, List.contains_iff_mem, h]
  have hsee : Strategy.see known line cursor = Strategy.see known' line cursor := by
    funext strategy
    cases strategy with
    | knownName => simp only [Strategy.see, Strategy.seeKnown, hcontains]
    | aggregateMention => rfl
    | composite => rfl
    | loneKeyword => rfl
  rw [locate, locate, hsee]

theorem Layout.atCursor?_congr_known {known known' : List Text}
    (h : ∀ name, name ∈ known ↔ name ∈ known') (width : Width) (sizes : SizeMap) (line : Text)
    (cursor : Int) :
    atCursor? width known sizes line cursor = atCursor? width known' sizes line cursor := by
  rw [atCursor?_eq, atCursor?_eq, locate_congr_known h]

theorem Declaration.mem_knownNames {ds : List Declaration} {name : Text} :
    name ∈ knownNames ds ↔ ∃ d ∈ ds, name ∈ d.names :=
  List.mem_flatMap

namespace Session

/-! ## Questions about places in files -/

theorem Alike.architecture_eq {s t : Session} (h : Alike s t) :
    t.architecture = s.architecture := by
  simp only [architecture, engineResolver, resolver, h.link, h.resolver?, h.host, h.settings]

section Read

variable {s : Session} {path : Text} {place : Place} {file : StoredFile}
  (hread : s.files.read path = .ok (place, file))

include hread

/-- A scan of a file that can be read finds what the scanner's memory and the file give. -/
theorem scanFile_eq_consult :
    s.scanFile path = ((s.scanFound place file).1, .ok (s.consult place file).2) := by
  obtain ⟨hfind, hmayRead⟩ := FileStore.read_eq_ok_iff.mp hread
  rcases s.scanFile_cases path with ⟨place', file', hfound, -, hscan⟩ | ⟨hnot, -⟩
  · obtain ⟨rfl, rfl⟩ := FileStore.Node.file.inj (Except.ok.inj (hfound.symm.trans hfind))
    exact hscan
  · have hmayScan := hnot place file hfind
    rw [mayScan, hmayRead, Bool.true_or] at hmayScan
    cases hmayScan

variable {line : Int} {text : Text} (htext : lineAt? (Utf8.textOf file.octets) line = some text)

include htext

/-- On a line of a file the session is asked about the line after a scan. -/
theorem layoutInFile_eq_after_scan (sizes : SizeMap) (column : Int) :
    s.layoutInFile sizes path line column =
      let declarations := (s.consult place file).2
      let known := Declaration.knownNames declarations
      let spread := Declaration.spreadSizes declarations sizes
      let asked := (s.scanFile path).1.layoutInLine known spread text column
      (asked.1, asked.2.map fun report => ⟨report, path, line, sortedUnique known⟩) := by
  have hscan : (s.scanFound place file).2 = (s.consult place file).2 := by rw [scanFound_eq]
  simp only [layoutInFile, hread, htext, hscan, scanFile_eq_consult hread]

/-- The answer is that of the session as it was before the scan. -/
theorem layoutInFile_eq (sizes : SizeMap) (column : Int) :
    (s.layoutInFile sizes path line column).2 =
      let declarations := (s.consult place file).2
      let declared := sortedUnique (Declaration.knownNames declarations)
      let spread := Declaration.spreadSizes declarations sizes
      (s.layoutInLine declared spread text column).2.map fun report =>
        ⟨report, path, line, declared⟩ := by
  have halike := s.alike_scanFound place file
  have hknown : ∀ spread : SizeMap, ∀ name,
      name ∈ Declaration.knownNames (s.consult place file).2 ++ spread.names ↔
        name ∈ sortedUnique (Declaration.knownNames (s.consult place file).2) ++ spread.names := by
    intro spread name
    rw [List.mem_append, List.mem_append, mem_sortedUnique]
  simp only [layoutInFile_eq_after_scan hread htext, scanFile_eq_consult hread,
    layoutInLine_eq_reportOn, halike.architecture_eq,
    reportOn_congr halike.architecture_eq halike.settings, Layout.atCursor?_congr_known (hknown _)]

/-- If the given sizes can be printed, there is an answer. -/
theorem exists_layoutInFile {sizes : SizeMap} (hsizes : sizes.Printable) (column : Int) :
    ∃ report, (s.layoutInFile sizes path line column).2 =
      .ok ⟨report, path, line, sortedUnique (Declaration.knownNames (s.consult place file).2)⟩ := by
  obtain ⟨report, hreport⟩ := exists_layoutInLine (hsizes.spreadSizes (s.consult place file).2) s
    (sortedUnique (Declaration.knownNames (s.consult place file).2)) text column
  refine ⟨report, ?_⟩
  rw [layoutInFile_eq hread htext]
  dsimp only
  rw [hreport]
  rfl

end Read

/-- **Questions about files are questions about their lines.** For a line of a file that can be read,
what comes of the question is what comes of asking the same session about the text of the line, with
the declared names as known ones and with the sizes spread over the declarations that a scan of the
file finds; and something comes of it unless a size cannot be printed. The declared names are those of
these declarations, in strictly ascending order. -/
theorem layoutInFile_eq_layoutInLine (s : Session) (sizes : SizeMap) (path : Text)
    (line column : Int) {place : Place} {file : StoredFile}
    (hread : s.files.read path = .ok (place, file)) (hlow : 1 ≤ line)
    (hhigh : line ≤ ((Utf8.textOf file.octets).count '\n' + 1 : Nat)) :
    ∃ text declarations declared, ∃ outcome : Except Fault Report,
      (linesOf (Utf8.textOf file.octets))[(line - 1).toNat]? = some text ∧ '\r' ∉ text ∧
      (s.handle (.scanFile path)).2 = .ok (.declarations declarations) ∧
      (s.handle (.layoutInFile sizes path line column)).2 =
        outcome.map (fun report => .fileReport ⟨report, path, line, declared⟩) ∧
      (s.handle (.layoutInLine declared (Declaration.spreadSizes declarations sizes) text
        column)).2 = outcome.map .report ∧
      (sizes.Printable → ∃ report, outcome = .ok report) ∧
      declared.Pairwise TextLT ∧
      ∀ name, name ∈ declared ↔ ∃ d ∈ declarations, name ∈ d.names := by
  obtain ⟨text, htext⟩ := exists_lineAt? hlow hhigh
  have hline : (linesOf (Utf8.textOf file.octets))[(line - 1).toNat]? = some text := by
    rwa [lineAt?, if_neg (by omega)] at htext
  have hanswer := layoutInFile_eq hread htext sizes column
  let declarations := (s.consult place file).2
  let declared := sortedUnique (Declaration.knownNames declarations)
  let spread := Declaration.spreadSizes declarations sizes
  refine ⟨text, declarations, declared, (s.layoutInLine declared spread text column).2, hline, ?_, ?_,
    ?_, rfl, fun hsizes => exists_layoutInLine (hsizes.spreadSizes declarations) .., ?_, ?_⟩
  · intro hreturn
    exact Utf8.return_notMem_textOf _ (mem_of_mem_splitOn (List.mem_of_getElem? hline) hreturn)
  · show (s.scanFile path).2.map Reply.declarations = _
    rw [scanFile_eq_consult hread]
    rfl
  · show (s.layoutInFile sizes path line column).2.map Reply.fileReport = _
    rw [hanswer]
    dsimp only
    generalize (s.layoutInLine declared spread text column).2 = outcome
    cases outcome <;> rfl
  · exact pairwise_sortedUnique _
  · intro name
    rw [mem_sortedUnique, Declaration.mem_knownNames]

/-- A header with one declaration and a line that uses it. -/
def nodeHeader : StoredFile := asciiFile "struct N { int v; };\r\nN n;" 1

/-- What is reported on the type that it declares. -/
def nodeReport : Report where
  architecture := "x86_64 (host)".toList
  found := some (⟨"N".toList, some ⟨0, 1⟩, .aggregate 24⟩,
    "Size: `24 bytes`\n\n_User-defined type_\n\nArchitecture: x86_64 (host)".toList)

/-- The second line of the header, asked about by its place and by its text. -/
theorem layoutInFile_nodeHeader :
    let s := plainStart.after [.request (.write "n.h".toList nodeHeader)]
    let sizes : SizeMap := [("N".toList, 24)]
    (s.handle (.layoutInFile sizes "./n.h".toList 2 0)).2 =
        .ok (.fileReport ⟨nodeReport, "./n.h".toList, 2, ["N".toList]⟩) ∧
      (s.handle (.layoutInLine ["N".toList] sizes "N n;".toList 0)).2 =
        .ok (.report nodeReport) := by
  intro s sizes
  have hread : s.files.read "./n.h".toList = .ok (["n.h".toList], nodeHeader) := rfl
  have hlast : (2 : Int) ≤ ((Utf8.textOf nodeHeader.octets).count '\n' + 1 : Nat) := by decide
  obtain ⟨text, declarations, declared, outcome, htext, -, hscan, hanswer, hline, -⟩ :=
    layoutInFile_eq_layoutInLine s sizes "./n.h".toList 2 0 hread (by decide) hlast
  have htext' : (linesOf (Utf8.textOf nodeHeader.octets))[1]? = some "N n;".toList := by
    decide +kernel
  have hscan' : (s.scanFile "./n.h".toList).2 = .ok [⟨"N".toList, .structType, 1, []⟩] := by
    decide +kernel
  have hanswer' : (s.layoutInFile sizes "./n.h".toList 2 0).2 =
      .ok ⟨nodeReport, "./n.h".toList, 2, ["N".toList]⟩ := by decide +kernel
  have hfile := congrArg (Except.map Reply.fileReport) hanswer'
  have hscanned := hscan.symm.trans (congrArg (Except.map Reply.declarations) hscan')
  obtain rfl := Reply.declarations.inj (Except.ok.inj hscanned)
  obtain rfl := Option.some.inj (htext.symm.trans htext')
  cases outcome with
  | error fault => cases hanswer.symm.trans hfile
  | ok report =>
    obtain ⟨rfl, -, -, rfl⟩ := FileReport.mk.inj
      (Reply.fileReport.inj (Except.ok.inj (hanswer.symm.trans hfile)))
    exact ⟨hfile, hline⟩

end Session

end TypeLens
