import GrammarCheck.Program
import GrammarCheck.Proofs.LibraryValues
import GrammarCheck.Proofs.Lines
import GrammarCheck.Proofs.NamingRules

/-!
# A listing and a check agree

The listing goes through the registry and through a directory by itself, and so does the planning of
a check. What a reader takes from the listing is what a check would plan: the directory is refused
by both or by neither, the library files that are shown are those that are opened, and the grammars
that are shown as linked are those that are planned when all are selected.

* `Listing.readLibrary?`, `Listing.readGrammar?` — what a reader takes from a line.
* `Listing.readColumn?_padRight` — a word in a column is read back, whatever its width.
* `Listing.linkedNames_writtenLines` — a listing shows as linked what is linked.
* `Listing.shows_directoryLines` — the lines under the heading of a directory show what it offers.
* `plan_directoryRequest`, `plan_linkedRequest` — the plans of the two requests.
* `list_agrees_with_plan` — the agreement.
-/

namespace GrammarCheck

/-! ### Written lines -/

theorem writtenLines_append (lines lines' : List String) :
    writtenLines (lines ++ lines') = writtenLines lines ++ writtenLines lines' := by
  unfold writtenLines
  rw [List.map_append]
  exact String.join_append

theorem writtenLines_cons (line : String) (lines : List String) :
    writtenLines (line :: lines) = line ++ "\n" ++ writtenLines lines := by
  rw [writtenLines, List.map_cons, String.join_cons, writtenLines]

/-- **Written lines are read back**, before whatever is written after them. -/
theorem linesOf_writtenLines_append {lines : List String}
    (h : ∀ line ∈ lines, '\n' ∉ line.toList) (rest : String) :
    Text.linesOf (writtenLines lines ++ rest) = lines ++ Text.linesOf rest := by
  induction lines with
  | nil => rw [writtenLines, List.map_nil, String.join_nil, String.empty_append, List.nil_append]
  | cons line lines ih =>
    rw [writtenLines_cons, String.append_assoc,
      Text.linesOf_line_append (h line (List.mem_cons_self ..)),
      ih fun line' hline => h line' (List.mem_cons_of_mem _ hline), List.cons_append]

theorem linesOf_writtenLines {lines : List String} (h : ∀ line ∈ lines, '\n' ∉ line.toList) :
    Text.linesOf (writtenLines lines) = lines ++ [""] := by
  have hread := linesOf_writtenLines_append h ""
  rwa [String.append_empty] at hread

/-! ### Reading a listing -/

namespace Listing

/-- What a reader takes from the first column of a line: the word in it, and what follows the column
and a space. There is nothing but spaces after the word. -/
def readColumn? (line : List Char) : Option (String × List Char) := do
  let word := String.ofList (line.takeWhile (· ≠ ' '))
  let rest ← (Text.padRight columnWidth word ++ " ").toList.isPrefixOf? line
  return (word, rest)

/-- What a reader takes from the line of a library file: its name and its path, as far as the path
is shown. -/
def readLibrary? (line : String) : Option (String × String) := do
  let columns ← "  ".toList.isPrefixOf? line.toList
  let (name, rest) ← readColumn? columns
  return (name, String.ofList rest)

/-- A bundled grammar as a line shows it. -/
structure ShownGrammar where
  name : String
  displayName : String
  state : String
  deriving Repr, DecidableEq

/-- What a reader takes from the line of a bundled grammar. -/
def readGrammar? (line : String) : Option ShownGrammar := do
  let columns ← "  ".toList.isPrefixOf? line.toList
  let (name, rest) ← readColumn? columns
  let (displayName, rest) ← readColumn? rest
  return ⟨name, displayName, String.ofList rest⟩

/-- Nothing that is shown of a directory and its library files breaks a line. -/
structure OnOneLine (dir : Path) (files : List NamedLibrary) : Prop where
  directory : '\n' ∉ dir.display.toList
  paths : ∀ l ∈ files, '\n' ∉ l.path.display.toList

/-- The line stands under a heading. A heading begins at the margin. -/
def isIndented (line : String) : Bool :=
  "  ".toList.isPrefixOf line.toList

/-- The names of the grammars that a listing shows as linked under its first heading, in order. The
listing is read line by line. -/
def linkedNames (listing : String) : List String :=
  ((((Text.linesOf listing).tail.takeWhile isIndented).filterMap readGrammar?).filter
    (·.state = "linked")).map ShownGrammar.name

/-- The lines under the heading of a directory show library files: each line that can be read is the
line of one of them, in order, and the only other line there may be says that there are none. There
are as many lines as library files, or that one. -/
structure Shows (lines : List String) (files : List NamedLibrary) : Prop where
  pairs : lines.filterMap readLibrary? = files.map fun l => (l.name, l.path.display)
  others : ∀ line ∈ lines, readLibrary? line = none → line = "  (none)"
  none_mem_iff : "  (none)" ∈ lines ↔ files = []
  length_eq : lines.length = max 1 files.length

/-- **Columns.** A word without spaces is read back from a column, whatever follows it. -/
theorem readColumn?_padRight {word : String} (h : ' ' ∉ word.toList) (rest : String) :
    readColumn? (Text.padRight columnWidth word ++ " " ++ rest).toList =
      some (word, rest.toList) := by
  -- the first space of the line comes right after the word
  have hcut : (Text.padRight columnWidth word ++ " " ++ rest).toList =
      word.toList ++
        ' ' :: (List.replicate (columnWidth - word.length) ' ' ++ rest.toList) := by
    have hspaces : List.replicate (columnWidth - word.length) ' ' ++ [' '] =
        ' ' :: List.replicate (columnWidth - word.length) ' ' :=
      List.replicate_succ'.symm.trans List.replicate_succ
    have hspace : " ".toList = [' '] := rfl
    rw [Text.padRight, String.toList_append, String.toList_append, String.toList_append,
      String.toList_ofList, hspace, List.append_assoc, List.append_assoc,
      ← List.append_assoc _ [' '], hspaces, List.cons_append]
  have hword : (Text.padRight columnWidth word ++ " " ++ rest).toList.takeWhile (· ≠ ' ') =
      word.toList :=
    (takeWhile_dropWhile_eq_iff.mpr ⟨hcut, h, rfl⟩).1
  have hrest : (Text.padRight columnWidth word ++ " ").toList.isPrefixOf?
      (Text.padRight columnWidth word ++ " " ++ rest).toList = some rest.toList := by
    rw [List.isPrefixOf?_eq_some_iff_append_eq, ← String.toList_append]
  unfold readColumn?
  simp only [hword, String.ofList_toList, hrest, Option.bind_eq_bind, Option.bind_some,
    Option.pure_def]

/-- The line of a library file shows its name, if that is one word, and its path. -/
theorem readLibrary?_libraryLine {l : NamedLibrary} (h : ' ' ∉ l.name.toList) :
    readLibrary? (libraryLine l) = some (l.name, l.path.display) := by
  have hstart : "  ".toList.isPrefixOf? (libraryLine l).toList =
      some (Text.padRight columnWidth l.name ++ " " ++ l.path.display).toList := by
    rw [List.isPrefixOf?_eq_some_iff_append_eq, ← String.toList_append, libraryLine,
      String.append_assoc, String.append_assoc, String.append_assoc]
  unfold readLibrary?
  simp only [hstart, Option.bind_eq_bind, Option.bind_some, readColumn?_padRight h,
    String.ofList_toList, Option.pure_def]

/-- The line of a bundled grammar shows its two names, if each is one word, and whether it is
linked. -/
theorem readGrammar?_grammarLine {g : Grammar} (hname : ' ' ∉ g.name.toList)
    (hdisplay : ' ' ∉ g.displayName.toList) :
    readGrammar? (grammarLine g) = some ⟨g.name, g.displayName, linkState g⟩ := by
  have hstart : "  ".toList.isPrefixOf? (grammarLine g).toList =
      some (Text.padRight columnWidth g.name ++ " " ++
        (Text.padRight columnWidth g.displayName ++ " " ++ linkState g)).toList := by
    rw [List.isPrefixOf?_eq_some_iff_append_eq, ← String.toList_append, grammarLine]
    simp only [String.append_assoc]
  unfold readGrammar?
  simp only [hstart, Option.bind_eq_bind, Option.bind_some, readColumn?_padRight hname,
    readColumn?_padRight hdisplay, String.ofList_toList, Option.pure_def]

/-! ### What the lines show -/

theorem newline_notMem_padRight {word : String} (h : '\n' ∉ word.toList) (width : Nat) :
    '\n' ∉ (Text.padRight width word).toList := by
  rw [Text.padRight, String.toList_append, String.toList_ofList, List.mem_append, not_or]
  exact ⟨h, fun hspace => absurd (List.eq_of_mem_replicate hspace) (by decide)⟩

theorem newline_notMem_libraryLine {l : NamedLibrary} (hname : '\n' ∉ l.name.toList)
    (hpath : '\n' ∉ l.path.display.toList) : '\n' ∉ (libraryLine l).toList := by
  have hcolumn := newline_notMem_padRight hname columnWidth
  simp [libraryLine, hcolumn, hpath]

/-- A text that does not begin with a space begins at the margin. -/
theorem isIndented_head?_linesOf {text : String} (h : text.toList.head? ≠ some ' ') :
    ∀ line ∈ (Text.linesOf text).head?, isIndented line = false := by
  rw [Text.head?_linesOf]
  intro line hline
  obtain rfl := Option.some.inj hline
  rw [isIndented]
  cases hchars : text.toList with
  | nil => rfl
  | cons c cs =>
    have hspace : ' ' ≠ c := by
      rintro rfl
      exact h (by rw [hchars]; rfl)
    by_cases hbreak : c = '\n'
    · simp [hbreak]
    · rw [List.takeWhile_cons_of_pos (by simpa using hbreak), String.toList_ofList,
        String.toList_ofList, List.isPrefixOf_cons_cons, beq_eq_false_iff_ne.mpr hspace,
        Bool.false_and]

section Grammars

variable [Build]

/-- The names of a bundled grammar are words on one line. -/
private theorem notMem_names_of_mem_bundled {c : Char} (hc : c = ' ' ∨ c = '\n') :
    ∀ g ∈ bundled, c ∉ g.name.toList ∧ c ∉ g.displayName.toList := by
  refine forall_mem_bundled (P := fun name display => c ∉ name.toList ∧ c ∉ display.toList) ?_
  rcases hc with rfl | rfl <;> decide

/-- The line of a bundled grammar is one line. -/
theorem newline_notMem_grammarLines : ∀ line ∈ grammarLines, '\n' ∉ line.toList := by
  intro line hline
  rcases List.mem_cons.mp hline with rfl | hline
  · decide
  · obtain ⟨g, hg, rfl⟩ := List.mem_map.mp hline
    obtain ⟨hname, hdisplay⟩ := notMem_names_of_mem_bundled (Or.inr rfl) g hg
    have hcolumn := newline_notMem_padRight hname columnWidth
    have hcolumn' := newline_notMem_padRight hdisplay columnWidth
    have hstate : '\n' ∉ (linkState g).toList := by
      unfold linkState
      split <;> decide
    simp [grammarLine, hcolumn, hcolumn', hstate]

/-- What follows the lines of the grammars at the margin ends them. -/
theorem takeWhile_isIndented {rest : List String}
    (hrest : ∀ line ∈ rest.head?, isIndented line = false) :
    (bundled.map grammarLine ++ rest).takeWhile isIndented = bundled.map grammarLine := by
  have hlines : ∀ line ∈ bundled.map grammarLine, isIndented line = true := by
    intro line hline
    obtain ⟨g, -, rfl⟩ := List.mem_map.mp hline
    rw [isIndented, List.isPrefixOf_iff_prefix, grammarLine]
    simp only [String.append_assoc]
    rw [String.toList_append]
    exact List.prefix_append ..
  have hstop : rest.takeWhile isIndented = [] := by
    cases rest with
    | nil => rfl
    | cons line rest => exact List.takeWhile_cons_of_neg (by simp [hrest line rfl])
  rw [List.takeWhile_append_of_pos hlines, hstop, List.append_nil]

/-- **The grammars that are shown as linked** are those that are linked, in the order of the
registry, whatever the listing goes on with at the margin. -/
theorem linkedNames_writtenLines {rest : String} (hrest : rest.toList.head? ≠ some ' ') :
    linkedNames (writtenLines grammarLines ++ rest) =
      (bundled.filter Grammar.isLinked).map Grammar.name := by
  have hread : (bundled.map grammarLine).filterMap readGrammar? =
      bundled.map fun g => ⟨g.name, g.displayName, linkState g⟩ := by
    rw [List.filterMap_map, ← List.filterMap_eq_map]
    refine List.filterMap_congr fun g hg => ?_
    obtain ⟨hname, hdisplay⟩ := notMem_names_of_mem_bundled (Or.inl rfl) g hg
    exact readGrammar?_grammarLine hname hdisplay
  -- the word in the last column tells which grammars are linked
  have hstate : ∀ g : Grammar, decide (linkState g = "linked") = g.isLinked := by
    intro g
    unfold linkState
    cases g.isLinked <;> decide
  rw [linkedNames, linesOf_writtenLines_append newline_notMem_grammarLines, grammarLines,
    List.cons_append, List.tail_cons, takeWhile_isIndented (isIndented_head?_linesOf hrest), hread,
    List.filter_map, List.map_map]
  simp only [Function.comp_def, hstate]

end Grammars

/-- **The lines of a directory** show what the directory offers. -/
theorem shows_directoryLines {fs : FileSystem} {dir : Path} (hdir : fs.isDirectory dir = true) :
    ∃ lines, directoryLines fs dir = .ok (("Libraries in " ++ dir.display ++ ":") :: lines) ∧
      Shows lines (discover fs dir) := by
  have hnone : readLibrary? "  (none)" = none := by decide
  -- names of library files are words, so they are read back
  have hread : ∀ l ∈ discover fs dir,
      readLibrary? (libraryLine l) = some (l.name, l.path.display) := by
    intro l hl
    have hword : IsWord l.name := isWord_of_grammarName? (grammarName?_of_mem_discover hl)
    exact readLibrary?_libraryLine fun hspace =>
      absurd (hword.isNameChar _ hspace) (by decide)
  unfold directoryLines
  rw [if_pos hdir]
  refine ⟨_, rfl, ?_⟩
  generalize discover fs dir = found at hread
  cases found with
  | nil =>
    -- the one line there is cannot be read as that of a library file
    have hlines : ["  (none)"].filterMap readLibrary? = [] := List.filterMap_cons_none hnone
    exact ⟨hlines, fun line hline _ => List.mem_singleton.mp hline,
      iff_of_true (List.mem_singleton_self _) rfl, rfl⟩
  | cons l rest =>
    -- every line can be read, so none of them says that there are no library files
    have hlegible : ∀ line ∈ (l :: rest).map libraryLine, readLibrary? line ≠ none := by
      intro line hline
      obtain ⟨l', hl', rfl⟩ := List.mem_map.mp hline
      rw [hread l' hl']
      exact Option.some_ne_none _
    refine ⟨?_, fun line hline hnothing => absurd hnothing (hlegible line hline), ?_, ?_⟩
    · rw [List.filterMap_map, ← List.filterMap_eq_map]
      exact List.filterMap_congr hread
    · exact iff_of_false (fun hmem => hlegible _ hmem hnone) (List.cons_ne_nil _ _)
    · rw [List.length_map, List.length_cons, Nat.max_eq_right (Nat.le_add_left 1 _)]

/-- The lines of a directory are lines, if nothing that they show breaks one. -/
theorem newline_notMem_directoryLines {fs : FileSystem} {dir : Path} {lines : List String}
    (h : directoryLines fs dir = .ok lines) (hone : OnOneLine dir (discover fs dir)) :
    ∀ line ∈ lines, '\n' ∉ line.toList := by
  have hheading : '\n' ∉ ("Libraries in " ++ dir.display ++ ":").toList := by
    simp [hone.directory]
  -- names of library files are words, and words do not break lines
  have hlibrary : ∀ l ∈ discover fs dir, '\n' ∉ (libraryLine l).toList := by
    intro l hl
    have hword : IsWord l.name := isWord_of_grammarName? (grammarName?_of_mem_discover hl)
    exact newline_notMem_libraryLine
      (fun hbreak => absurd (hword.isNameChar _ hbreak) (by decide)) (hone.paths l hl)
  unfold directoryLines at h
  split at h
  · obtain rfl := Except.ok.inj h
    intro line hline
    rcases List.mem_cons.mp hline with rfl | hline
    · exact hheading
    · generalize discover fs dir = found at hlibrary hline
      cases found with
      | nil =>
        obtain rfl := List.mem_singleton.mp hline
        decide
      | cons l rest =>
        obtain ⟨l', hl', rfl⟩ := List.mem_map.mp hline
        exact hlibrary l' hl'
  · exact absurd h nofun

end Listing

/-! ### The two requests -/

/-- The request for the library files of a directory, and for nothing else. -/
def directoryRequest (dir : Path) (sample? : Option Path) (strict : Bool) : Request where
  libraryDir? := some dir
  sample? := sample?
  strict := strict

/-- The request for all linked grammars, without a library file for Cairo. -/
def linkedRequest (sample? : Option Path) (strict : Bool) : Request where
  all := true
  sample? := sample?
  strict := strict

section Plans

variable (fs : FileSystem) (dir : Path) (sample? : Option Path) (strict : Bool)

/-- **The plan of a directory** holds what the directory offers, unless there is no directory. -/
theorem plan_directoryRequest [Build] :
    plan fs (directoryRequest dir sample? strict) =
      if fs.isDirectory dir then .ok ((discover fs dir).map (openLibrary fs))
      else .error (.missingDirectory dir) := by
  -- nothing is planned before the directory
  have hsteps : (directoryRequest dir sample? strict).planSteps fs =
      if fs.isDirectory dir then (discover fs dir).map fun l => .ok (.library l)
      else [.error (.missingDirectory dir)] := rfl
  unfold plan targets
  rw [hsteps]
  split
  · have htargets : collectTargets ((discover fs dir).map fun l => .ok (.library l)) =
        .ok ((discover fs dir).map .library) := by
      rw [collectTargets_eq_ok_iff, List.map_map]
      rfl
    rw [htargets, Except.map, List.map_map]
    rfl
  · rfl

/-- **The plan of all linked grammars** holds them in the order of the registry. -/
theorem plan_linkedRequest [Build] :
    plan fs (linkedRequest sample? strict) =
      .ok ((bundled.filter Grammar.isLinked).map fun g => .grammar (.bundled g)) := by
  have hselection : (linkedRequest sample? strict).linkedSelection =
      bundled.filter Grammar.isLinked := by
    have hall : (linkedRequest sample? strict).all = true := rfl
    unfold Request.linkedSelection
    rw [if_pos hall]
    refine List.filter_congr fun g _ => ?_
    simp [linkedRequest]
  -- all other segments are empty
  have hsteps : (linkedRequest sample? strict).planSteps fs =
      (bundled.filter Grammar.isLinked).map fun g => .ok (.bundled g) := by
    have hcairo : (linkedRequest sample? strict).cairoSteps = [] := rfl
    have hnamed : (linkedRequest sample? strict).namedSteps = [] := rfl
    have hlibraries : (linkedRequest sample? strict).librarySteps = [] := rfl
    have hdirectory : (linkedRequest sample? strict).directorySteps fs = [] := rfl
    rw [Request.planSteps_eq, Request.linkedSteps, hselection, hcairo, hnamed, hlibraries,
      hdirectory, List.nil_append, List.append_nil, List.append_nil, List.append_nil]
  have htargets : targets fs (linkedRequest sample? strict) =
      .ok ((bundled.filter Grammar.isLinked).map .bundled) := by
    rw [targets, hsteps, collectTargets_eq_ok_iff, List.map_map]
    rfl
  rw [plan, htargets, Except.map, List.map_map]
  rfl

end Plans

/-- What opens as a grammar is what the path of the library file leads to. -/
theorem canonicalize_of_openLibrary {fs : FileSystem} {l : NamedLibrary} {g : LibraryGrammar}
    (h : openLibrary fs l = .grammar (.library g)) : fs.canonicalize l.path = .ok g.path := by
  unfold openLibrary at h
  split at h
  · next g' hopen =>
    obtain rfl := Provider.library.inj (PlannedItem.grammar.inj h)
    obtain ⟨_, _, _, hcanonical, -⟩ := LibraryGrammar.ofFile_eq_ok_iff.mp hopen
    exact hcanonical
  · exact absurd h nofun

/-! ### Agreement -/

/-- A command line that is read as one of `list` is run as one. -/
theorem run_of_list [Build] (host : Host) {env : CommandLine.Environment} {arguments : List String}
    {libraryDir? : Option Path} (h : CommandLine.invocation env arguments = .list libraryDir?) :
    run host env arguments =
      runList host ((env.logFilter?.map Log.Filter.ofText).getD .standard) libraryDir? := by
  unfold run
  rw [h]

/-- A listing of a directory is refused, or it shows the linked grammars and what the directory
offers. -/
theorem runList_some [Build] (host : Host) (filter : Log.Filter) (dir : Path) :
    (host.files.isDirectory dir = false ∧ runList host filter (some dir) =
      .refused (writtenLines Listing.grammarLines) (filter.write []) (.missingDirectory dir)) ∨
    (host.files.isDirectory dir = true ∧ ∃ lines,
      Listing.directoryLines host.files dir =
        .ok (("Libraries in " ++ dir.display ++ ":") :: lines) ∧
      Listing.Shows lines (discover host.files dir) ∧ runList host filter (some dir) =
        { code := 0
          output := writtenLines
            (Listing.grammarLines ++ ("Libraries in " ++ dir.display ++ ":") :: lines)
          errors := filter.write [] }) := by
  cases hdir : host.files.isDirectory dir with
  | false =>
    have hlines : Listing.directoryLines host.files dir = .error (.missingDirectory dir) := by
      unfold Listing.directoryLines
      rw [hdir]
      rfl
    refine Or.inl ⟨rfl, ?_⟩
    unfold runList
    simp only [hlines]
  | true =>
    obtain ⟨lines, hlines, hshows⟩ := Listing.shows_directoryLines hdir
    refine Or.inr ⟨rfl, lines, hlines, hshows, ?_⟩
    unfold runList
    simp only [hlines, writtenLines_append]

/-- Every listing begins with the lines of the grammars, and goes on at the margin if it goes on. -/
theorem output_runList [Build] (host : Host) (filter : Log.Filter) (libraryDir? : Option Path) :
    ∃ rest : String, rest.toList.head? ≠ some ' ' ∧
      (runList host filter libraryDir?).output = writtenLines Listing.grammarLines ++ rest := by
  cases libraryDir? with
  | none => exact ⟨"", nofun, (String.append_empty ..).symm⟩
  | some dir =>
    obtain ⟨-, hrun⟩ | ⟨-, lines, -, -, hrun⟩ := runList_some host filter dir
    · refine ⟨"", nofun, ?_⟩
      rw [hrun, String.append_empty]
      rfl
    · refine ⟨writtenLines (("Libraries in " ++ dir.display ++ ":") :: lines), ?_, ?_⟩
      · -- the heading of the directory begins with a letter
        rw [writtenLines_cons, String.append_assoc, String.append_assoc, String.append_assoc,
          String.toList_append]
        exact nofun
      · rw [hrun, writtenLines_append]

/-- **Agreement of the listing and the check.** A listing with a directory ends with exit code 1
exactly if the request for that directory alone is refused because there is no such directory. Else
the names and the paths that it shows are those of the library files that the directory offers and
that the plan of the request opens, in order and number, and it says that there are none exactly if
the plan is empty. A reader who cuts the listing at its line breaks finds these lines, as long as no
path breaks its line. The grammars that any listing shows as linked, read line by line, are those
that the request for all of them plans, in order. -/
theorem list_agrees_with_plan [Build] (host : Host) (filter : Log.Filter) (sample? : Option Path)
    (strict : Bool) :
    (∀ dir,
      ((runList host filter (some dir)).code = 1 ↔
        plan host.files (directoryRequest dir sample? strict) = .error (.missingDirectory dir)) ∧
      ((runList host filter (some dir)).code ≠ 1 →
        let files := discover host.files dir
        let heading := "Libraries in " ++ dir.display ++ ":"
        plan host.files (directoryRequest dir sample? strict) =
          .ok (files.map (openLibrary host.files)) ∧
        (∀ l ∈ files, (openLibrary host.files l).name = l.name ∧
          ∀ g, openLibrary host.files l = .grammar (.library g) →
            host.files.canonicalize l.path = .ok g.path) ∧
        ∃ lines,
          runList host filter (some dir) =
            { code := 0
              output := writtenLines (Listing.grammarLines ++ heading :: lines)
              errors := filter.write [] } ∧
          Listing.Shows lines files ∧
          ("  (none)" ∈ lines ↔
            plan host.files (directoryRequest dir sample? strict) = .ok []) ∧
          (Listing.OnOneLine dir files →
            Text.linesOf (runList host filter (some dir)).output =
              Listing.grammarLines ++ heading :: lines ++ [""]))) ∧
    (∃ items, plan host.files (linkedRequest sample? strict) = .ok items ∧
      ∀ libraryDir?, Listing.linkedNames (runList host filter libraryDir?).output =
        items.map PlannedItem.name) := by
  refine ⟨fun dir => ?_, ⟨_, plan_linkedRequest host.files sample? strict, fun libraryDir? => ?_⟩⟩
  · have hplan := plan_directoryRequest host.files dir sample? strict
    obtain ⟨hdir, hrun⟩ | ⟨hdir, lines, hlines, hshows, hrun⟩ := runList_some host filter dir
    · -- both refuse the directory
      rw [hdir, if_neg Bool.false_ne_true] at hplan
      rw [hrun, hplan]
      exact ⟨iff_of_true rfl rfl, fun hcode => absurd rfl hcode⟩
    · rw [hdir, if_pos rfl] at hplan
      rw [hrun, hplan]
      -- both go through what the directory offers
      refine ⟨iff_of_false Nat.zero_ne_one nofun, fun _ => ⟨rfl, ?_, lines, rfl, hshows, ?_, ?_⟩⟩
      · exact fun l _ => ⟨name_openLibrary host.files l, fun g => canonicalize_of_openLibrary⟩
      · rw [hshows.none_mem_iff, Except.ok.injEq, List.map_eq_nil_iff]
      · intro hone
        have hlisting : ∀ line ∈ Listing.grammarLines
            ++ ("Libraries in " ++ dir.display ++ ":") :: lines, '\n' ∉ line.toList := by
          intro line hline
          rcases List.mem_append.mp hline with hgrammar | hdirectory
          · exact Listing.newline_notMem_grammarLines line hgrammar
          · exact Listing.newline_notMem_directoryLines hlines hone line hdirectory
        dsimp only
        rw [linesOf_writtenLines hlisting]
  · -- the registry is filtered alike on both sides
    obtain ⟨rest, hrest, houtput⟩ := output_runList host filter libraryDir?
    rw [houtput, Listing.linkedNames_writtenLines hrest, List.map_map]
    rfl

/-- A host with a directory of two library files, one of which does not open, and an empty directory
in it that is named like a library file. -/
private def listedHost : Host where
  files :=
    { entries :=
        [([(Path.ofText "d").bytes], .directory),
         ([Text.Utf8.encode "libtree-sitter-C.so", Text.Utf8.encode "d"],
           .file [1] (.exporting [("tree_sitter_c", ⟨none⟩)])),
         ([Text.Utf8.encode "zig.so", Text.Utf8.encode "d"],
           .file [2] (.rejected "file too short")),
         ([Text.Utf8.encode "rust.so", Text.Utf8.encode "d"], .directory)]
      workingDirectory := .ofText "/" }
  runtime := ⟨fun _ _ => none⟩

/-- A build that links a parser for Cairo. -/
private abbrev linkingBuild : Build := ⟨some ⟨none⟩⟩

/-- The program lists the two library files, says of the empty directory that there are none, and
refuses a path that leads nowhere. Cairo is shown as linked by a build that links a parser for
it. -/
theorem list_agrees_with_plan_listedHost :
    (run listedHost {} ["list", "--library-dir", "/e"]).code = 1 ∧
      (∃ lines, Text.linesOf (run listedHost {} ["list", "--library-dir", "/d"]).output =
          Listing.grammarLines ++ "Libraries in /d:" :: lines ++ [""] ∧
        lines.filterMap Listing.readLibrary? =
          [("c", "/d/libtree-sitter-C.so"), ("zig", "/d/zig.so")] ∧ lines.length = 2) ∧
      (∃ lines, Text.linesOf (run listedHost {} ["list", "--library-dir", "/d/rust.so"]).output =
          Listing.grammarLines ++ "Libraries in /d/rust.so:" :: lines ++ [""] ∧
        "  (none)" ∈ lines ∧ lines.length = 1) ∧
      Listing.linkedNames (run listedHost {} ["list", "--library-dir", "/d"]).output =
        references.map Grammar.name ∧
      Listing.linkedNames (@run linkingBuild listedHost {} ["list"]).output =
        "cairo" :: references.map Grammar.name := by
  obtain ⟨hlist, items, hitems, hlinked⟩ := list_agrees_with_plan listedHost .standard none false
  have hrunList : ∀ text, CommandLine.invocation {} ["list", "--library-dir", text] =
      .list (some (.ofText text)) → run listedHost {} ["list", "--library-dir", text] =
        runList listedHost .standard (some (.ofText text)) := by
    intro text h
    exact run_of_list listedHost h
  have hplan := plan_directoryRequest listedHost.files
  -- a directory is listed line by line if no path in it breaks its line
  have hread : ∀ dir, listedHost.files.isDirectory dir = true →
      Listing.OnOneLine dir (discover listedHost.files dir) →
      ∃ lines, Text.linesOf (runList listedHost .standard (some dir)).output =
          Listing.grammarLines ++ ("Libraries in " ++ dir.display ++ ":") :: lines ++ [""] ∧
        Listing.Shows lines (discover listedHost.files dir) := by
    intro dir hdir hone
    obtain ⟨hcode, hshown⟩ := hlist dir
    have haccepted : (runList listedHost .standard (some dir)).code ≠ 1 := by
      rw [Ne, hcode, hplan, if_pos hdir]
      exact nofun
    obtain ⟨-, -, lines, -, hshows, -, hlines⟩ := hshown haccepted
    exact ⟨lines, hlines hone, hshows⟩
  have hdirectory : listedHost.files.directory? (.ofText "/d") = some [Text.Utf8.encode "d"] := rfl
  have hfound : discover listedHost.files (.ofText "/d") =
      [⟨"c", .ofText "/d/libtree-sitter-C.so"⟩, ⟨"zig", .ofText "/d/zig.so"⟩] := by
    rw [discover_of_pairwise_le hdirectory (by decide +kernel)]
    decide +kernel
  have hempty : discover listedHost.files (.ofText "/d/rust.so") = [] := by
    decide +kernel
  refine ⟨?_, ?_, ?_, ?_, ?_⟩
  · rw [hrunList _ rfl]
    exact (hlist (.ofText "/e")).1.mpr (hplan ..)
  · have hone : Listing.OnOneLine (.ofText "/d") (discover listedHost.files (.ofText "/d")) := by
      rw [hfound]
      exact ⟨by decide, by decide⟩
    have hheading : "Libraries in " ++ (Path.ofText "/d").display ++ ":" = "Libraries in /d:" := by
      decide
    obtain ⟨lines, hlines, hshows⟩ := hread _ rfl hone
    rw [hheading] at hlines
    rw [hfound] at hshows
    refine ⟨lines, ?_, ?_, hshows.length_eq⟩
    · rw [hrunList _ rfl, hlines]
    · rw [hshows.pairs]
      decide
  · have hone : Listing.OnOneLine (.ofText "/d/rust.so")
        (discover listedHost.files (.ofText "/d/rust.so")) := by
      rw [hempty]
      exact ⟨by decide, nofun⟩
    have hheading : "Libraries in " ++ (Path.ofText "/d/rust.so").display ++ ":" =
        "Libraries in /d/rust.so:" := by
      decide
    obtain ⟨lines, hlines, hshows⟩ := hread _ rfl hone
    rw [hheading] at hlines
    rw [hempty] at hshows
    refine ⟨lines, ?_, hshows.none_mem_iff.mpr rfl, hshows.length_eq⟩
    rw [hrunList _ rfl, hlines]
  · rw [hrunList _ rfl, hlinked, ← Except.ok.inj ((plan_linkedRequest ..).symm.trans hitems)]
    decide
  · obtain ⟨-, items, hitems, hlinked⟩ :=
      @list_agrees_with_plan linkingBuild listedHost .standard none false
    have hrun : @run linkingBuild listedHost {} ["list"] =
        @runList linkingBuild listedHost .standard none :=
      @run_of_list linkingBuild listedHost {} ["list"] none rfl
    rw [hrun, hlinked, ← Except.ok.inj ((@plan_linkedRequest _ _ _ linkingBuild).symm.trans hitems)]
    decide

end GrammarCheck
