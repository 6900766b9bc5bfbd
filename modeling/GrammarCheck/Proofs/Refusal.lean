import GrammarCheck.Check
import GrammarCheck.Proofs.FileName
import GrammarCheck.Proofs.Planning

/-!
# When a request is refused

A request is refused for five reasons, and for the first of them that holds. A planning looks for
them on its way, and it does not look at every name: a name that is taken already is passed over.
Nothing is missed by that, since only names of bundled grammars are taken without being looked up.

* `FirstIn` — the first member of a list that something holds of.
* `Request.RefusedWith` — the reasons why a request is refused, with their texts.
* `Request.refusal?` — the reason why a request is refused, without a planning.
* `Request.findSome?_namedSteps` — passing over the names that are taken misses no unknown grammar.
* `Request.refusedWith_iff` — the first reason that is found is the first that holds.
* `check_refused_iff` — a check fails exactly when its request is refused, for that reason and with
  its text.
-/

namespace GrammarCheck

/-! ### The five reasons -/

/-- The first member of a list that something holds of: it does not hold of those before it. -/
def FirstIn {α : Type} (P : α → Prop) (l : List α) (a : α) : Prop :=
  ∃ before after, l = before ++ a :: after ∧ P a ∧ ∀ b ∈ before, ¬ P b

theorem FirstIn.holds {α : Type} {P : α → Prop} {l : List α} {a : α} (h : FirstIn P l a) : P a := by
  obtain ⟨_, _, _, ha, _⟩ := h
  exact ha

namespace Request

/-- The sample cannot be read as text. -/
def SampleUnreadable (fs : FileSystem) (r : Request) : Prop :=
  ∃ p cause, r.sample? = some p ∧ fs.readText p = .error cause

/-- A library file stands in for Cairo, and Cairo is not selected. -/
def CairoUnselected (r : Request) : Prop :=
  r.cairoLibrary?.isSome ∧ r.all = false ∧ ∀ name ∈ r.selection, name.toLower ≠ "cairo"

instance (r : Request) : Decidable r.CairoUnselected :=
  inferInstanceAs (Decidable (_ ∧ _ ∧ _))

/-- A name that is selected is not that of a bundled grammar. -/
def GrammarUnknown [Build] (r : Request) : Prop :=
  ∃ name ∈ r.selection, findBundled? name = none

/-- A library value cannot be read. -/
def LibraryRejected (r : Request) : Prop :=
  ∃ value ∈ r.libraries, ∃ e, NamedLibrary.parse value = .error e

/-- The directory does not exist. -/
def DirectoryMissing (fs : FileSystem) (r : Request) : Prop :=
  ∃ dir, r.libraryDir? = some dir ∧ fs.isDirectory dir = false

/-- **Refusals.** Why a request is refused, and the text of the refusal. Each of the five reasons
counts only if none of those before it holds. The unknown grammar is shown in lower case; a library
value that is rejected is an assignment or a path. -/
inductive RefusedWith [Build] (fs : FileSystem) (r : Request) : RequestError → String → Prop
  | sample {p : Path} {cause : IoError} (given : r.sample? = some p)
      (unreadable : fs.readText p = .error cause) :
      RefusedWith fs r (.unreadableSample p cause)
        ("cannot read sample '" ++ p.display ++ "': " ++ cause.message)
  | cairo (noSample : ¬ r.SampleUnreadable fs) (unselected : r.CairoUnselected) :
      RefusedWith fs r .cairoNotSelected
        ("a Cairo library was given (TREE_SITTER_CAIRO_LIB or --cairo-library) "
          ++ "but cairo is not selected; add --grammar cairo or --all")
  | grammar {name : String} (noSample : ¬ r.SampleUnreadable fs) (noCairo : ¬ r.CairoUnselected)
      (unknown : FirstIn (fun name => findBundled? name = none) r.selection name) :
      RefusedWith fs r (.unknownGrammar (Text.lower name))
        ("unknown grammar '" ++ Text.lower name ++ "'; use --library to check a grammar library")
  | assignment {value : String} (noSample : ¬ r.SampleUnreadable fs)
      (noCairo : ¬ r.CairoUnselected) (noGrammar : ¬ r.GrammarUnknown)
      (rejected : FirstIn (fun value => ∃ e, NamedLibrary.parse value = .error e) r.libraries value)
      (equals : '=' ∈ value.toList) :
      RefusedWith fs r (.invalidLibraryValue value)
        ("invalid --library value '" ++ value ++ "', expected NAME=PATH")
  | path {value : String} (noSample : ¬ r.SampleUnreadable fs)
      (noCairo : ¬ r.CairoUnselected) (noGrammar : ¬ r.GrammarUnknown)
      (rejected : FirstIn (fun value => ∃ e, NamedLibrary.parse value = .error e) r.libraries value)
      (noEquals : '=' ∉ value.toList) :
      RefusedWith fs r (.unnamedLibrary value)
        ("cannot infer grammar name from '" ++ value ++ "'; use NAME=PATH")
  | directory {dir : Path} (noSample : ¬ r.SampleUnreadable fs)
      (noCairo : ¬ r.CairoUnselected) (noGrammar : ¬ r.GrammarUnknown)
      (noLibrary : ¬ r.LibraryRejected) (given : r.libraryDir? = some dir)
      (missing : fs.isDirectory dir = false) :
      RefusedWith fs r (.missingDirectory dir)
        ("library directory '" ++ dir.display ++ "' does not exist")

end Request

/-! ### Looking for a reason -/

/-- The refusal in a result. -/
def refusalOf {α : Type} : Except RequestError α → Option RequestError
  | .ok _ => none
  | .error e => some e

@[simp] theorem refusalOf_eq_some_iff {α : Type} {x : Except RequestError α} {e : RequestError} :
    refusalOf x = some e ↔ x = .error e := by
  cases x <;> simp [refusalOf]

@[simp] theorem refusalOf_map {α β : Type} (f : α → β) (x : Except RequestError α) :
    refusalOf (x.map f) = refusalOf x := by
  cases x <;> rfl

namespace Request

variable (fs : FileSystem) (r : Request)

/-- The refusal of a sample that cannot be read. -/
def sampleRefusal? : Option RequestError :=
  r.sample?.bind fun p =>
    match fs.readText p with
    | .ok _ => none
    | .error cause => some (.unreadableSample p cause)

/-- The refusal of a library file for Cairo. -/
def cairoRefusal? : Option RequestError :=
  if r.CairoUnselected then some .cairoNotSelected else none

/-- The refusal of a name, the first that is not that of a bundled grammar. -/
def unknownRefusal? [Build] : Option RequestError :=
  r.selection.findSome? fun name =>
    if findBundled? name = none then some (.unknownGrammar (Text.lower name)) else none

/-- The refusal of a library value, the first that cannot be read. -/
def libraryRefusal? : Option RequestError :=
  r.libraries.findSome? fun value => refusalOf (NamedLibrary.parse value)

/-- The refusal of a directory that does not exist. -/
def directoryRefusal? : Option RequestError :=
  r.libraryDir?.bind fun dir => if fs.isDirectory dir then none else some (.missingDirectory dir)

/-- Why a request is refused: the first of the five refusals. -/
def refusal? [Build] : Option RequestError :=
  (r.sampleRefusal? fs).or <| r.cairoRefusal?.or <| r.unknownRefusal?.or <|
    r.libraryRefusal?.or <| r.directoryRefusal? fs

end Request

/-! ### Lists of steps -/

section FirstSome

variable {α β : Type} {f : α → Option β}

/-- What gives nothing can be left out of a search. -/
private theorem findSome?_filter {p : α → Bool} {l : List α}
    (h : ∀ a ∈ l, p a = false → f a = none) :
    (l.filter p).findSome? f = l.findSome? f := by
  induction l with
  | nil => rfl
  | cons a l ih =>
    have hrest := ih fun b hb => h b (List.mem_cons_of_mem a hb)
    cases ha : p a with
    | true =>
      rw [List.filter_cons_of_pos ha, List.findSome?_cons, List.findSome?_cons, hrest]
    | false =>
      rw [List.filter_cons_of_neg (by simp [ha]), List.findSome?_cons,
        h a (List.mem_cons_self ..) ha, hrest]

/-- A search does not need to look at anything twice. -/
private theorem findSome?_eraseDups [BEq α] [LawfulBEq α] :
    ∀ l : List α, l.eraseDups.findSome? f = l.findSome? f
  | [] => rfl
  | a :: l => by
    rw [List.eraseDups_cons, List.findSome?_cons, List.findSome?_cons]
    cases ha : f a with
    | some b => rfl
    | none =>
      -- the head gives nothing, so its repetitions give nothing either
      simp only
      rw [findSome?_eraseDups (l.filter fun b => !b == a)]
      refine findSome?_filter fun b _ hb => ?_
      obtain rfl : b = a := by simpa using hb
      exact ha
termination_by l => l.length
decreasing_by exact Nat.lt_succ_of_le (List.length_filter_le _ _)

end FirstSome

/-- What is collected from steps is refused for the first refusal among them. -/
theorem refusalOf_collectTargets (steps : List PlanStep) :
    refusalOf (collectTargets steps) = steps.findSome? refusalOf := by
  induction steps with
  | nil => rfl
  | cons s steps ih =>
    cases s with
    | error e => rfl
    | ok t =>
      rw [collectTargets, refusalOf_map, ih]
      rfl

/-! ### The reasons in a planning -/

namespace Request

variable {fs : FileSystem} {r : Request}

/-- The refusal of a library file for Cairo is what the planning looks at. -/
theorem cairoUnselected_iff :
    r.CairoUnselected ↔ r.cairoLibrary?.isSome ∧ r.selectsCairo = false := by
  rw [CairoUnselected, selectsCairo, names_eq_selection]
  simp only [cairoName, Bool.or_eq_false_iff, List.any_eq_false, beq_iff_eq, ne_eq]

theorem findSome?_cairoSteps : r.cairoSteps.findSome? refusalOf = r.cairoRefusal? := by
  unfold cairoSteps cairoRefusal?
  simp only [cairoUnselected_iff]
  cases r.cairoLibrary? with
  | none => simp
  | some p => cases r.selectsCairo <;> rfl

theorem findSome?_librarySteps : r.librarySteps.findSome? refusalOf = r.libraryRefusal? := by
  rw [librarySteps, List.findSome?_map, libraryRefusal?]
  congr 1
  funext value
  exact refusalOf_map _ _

theorem findSome?_directorySteps :
    (r.directorySteps fs).findSome? refusalOf = r.directoryRefusal? fs := by
  unfold directorySteps directoryRefusal?
  cases r.libraryDir? with
  | none => rfl
  | some dir =>
    simp only [Option.bind_some]
    split
    · rw [List.findSome?_map, List.findSome?_eq_none_iff]
      intro l _
      rfl
    · rfl

theorem refusalOf_readOptions : refusalOf (readOptions fs r) = r.sampleRefusal? fs := by
  unfold readOptions sampleRefusal?
  cases r.sample? with
  | none => rfl
  | some p =>
    simp only [Option.bind_some]
    cases fs.readText p <;> rfl

section Planned

variable [Build]

/-- The linked grammars refuse nothing. -/
theorem findSome?_linkedSteps : r.linkedSteps.findSome? refusalOf = none := by
  rw [linkedSteps, List.findSome?_map, List.findSome?_eq_none_iff]
  intro g _
  rfl

/-- Names are taken before those selected by name only if they are those of bundled grammars. -/
theorem findBundled?_of_mem_earlierNames {name : String} (h : name ∈ r.earlierNames) :
    findBundled? name ≠ none := by
  obtain ⟨g, hg, rfl⟩ : ∃ g ∈ bundled, g.name = name := by
    rcases mem_earlierNames.mp h with ⟨-, rfl⟩ | ⟨g, hg, rfl⟩
    · exact ⟨cairo, List.mem_cons_self .., rfl⟩
    · exact ⟨g, (mem_linkedSelection.mp hg).2.1, rfl⟩
  rw [findBundled?_name hg]
  exact Option.some_ne_none g

/-- **No unknown grammar is missed.** Neither the names that are taken already nor the repetitions
hold back the first refusal. -/
theorem findSome?_namedSteps : r.namedSteps.findSome? refusalOf = r.unknownRefusal? := by
  have hstep : ∀ name, refusalOf (namedStep (Text.lower name)) =
      if findBundled? name = none then some (.unknownGrammar (Text.lower name)) else none := by
    intro name
    rw [namedStep, findBundled?_lower]
    cases findBundled? name <;> rfl
  rw [namedSteps, freshNames, List.findSome?_map, findSome?_filter, findSome?_eraseDups,
    List.findSome?_map, unknownRefusal?]
  · simp only [Function.comp_def, hstep]
  · -- a name that is left out is in lower case and taken, so it would not be refused
    intro name hname htaken
    rw [List.mem_eraseDups, List.mem_map] at hname
    obtain ⟨given, -, rfl⟩ := hname
    have hbundled := findBundled?_of_mem_earlierNames (r := r) (by simpa using htaken)
    rw [findBundled?_lower] at hbundled
    rw [Function.comp_apply, hstep, if_neg hbundled]

/-- What a planning is refused for. -/
theorem refusalOf_targets :
    refusalOf (targets fs r) =
      (r.cairoRefusal?.or <| r.unknownRefusal?.or <| r.libraryRefusal?.or <|
        r.directoryRefusal? fs) := by
  rw [targets, refusalOf_collectTargets, planSteps_eq]
  simp only [List.findSome?_append, findSome?_cairoSteps, findSome?_linkedSteps,
    findSome?_namedSteps, findSome?_librarySteps, findSome?_directorySteps, Option.or_none,
    Option.or_assoc]

end Planned

/-! ### When a reason holds -/

theorem sampleRefusal?_eq_some_iff {e : RequestError} :
    r.sampleRefusal? fs = some e ↔
      ∃ p cause,
        r.sample? = some p ∧ fs.readText p = .error cause ∧ e = .unreadableSample p cause := by
  unfold sampleRefusal?
  cases r.sample? with
  | none => simp
  | some p => cases htext : fs.readText p <;> simp [htext, eq_comm]

theorem cairoRefusal?_eq_some_iff {e : RequestError} :
    r.cairoRefusal? = some e ↔ r.CairoUnselected ∧ e = .cairoNotSelected := by
  simp [cairoRefusal?, eq_comm]

/-- A search that succeeds finds what the first member gives that gives something. -/
private theorem findSome?_eq_some_iff_firstIn {α β : Type} {f : α → Option β} {l : List α} {b : β} :
    l.findSome? f = some b ↔ ∃ a, FirstIn (fun a => f a ≠ none) l a ∧ f a = some b := by
  rw [List.findSome?_eq_some_iff]
  constructor
  · rintro ⟨before, a, after, hl, ha, hbefore⟩
    exact ⟨a, ⟨before, after, hl, by simp [ha], by simpa using hbefore⟩, ha⟩
  · rintro ⟨a, ⟨before, after, hl, -, hbefore⟩, ha⟩
    exact ⟨before, a, after, hl, ha, by simpa using hbefore⟩

theorem unknownRefusal?_eq_some_iff [Build] {e : RequestError} :
    r.unknownRefusal? = some e ↔
      ∃ name, FirstIn (fun name => findBundled? name = none) r.selection name ∧
        e = .unknownGrammar (Text.lower name) := by
  rw [unknownRefusal?, findSome?_eq_some_iff_firstIn]
  simp only [ne_eq, ite_eq_right_iff, reduceCtorEq, imp_false, not_not]
  refine exists_congr fun name => and_congr_right fun hfirst => ?_
  rw [if_pos hfirst.holds, Option.some.injEq, eq_comm]

theorem libraryRefusal?_eq_some_iff {e : RequestError} :
    r.libraryRefusal? = some e ↔
      ∃ value, FirstIn (fun value => ∃ e, NamedLibrary.parse value = .error e) r.libraries value ∧
        NamedLibrary.parse value = .error e := by
  rw [libraryRefusal?, findSome?_eq_some_iff_firstIn]
  simp only [Option.ne_none_iff_exists', refusalOf_eq_some_iff]

theorem directoryRefusal?_eq_some_iff {e : RequestError} :
    r.directoryRefusal? fs = some e ↔
      ∃ dir, r.libraryDir? = some dir ∧ fs.isDirectory dir = false ∧ e = .missingDirectory dir := by
  unfold directoryRefusal?
  cases r.libraryDir? with
  | none => simp
  | some dir => cases hdir : fs.isDirectory dir <;> simp [hdir, eq_comm (a := e)]

/-! ### When no reason holds -/

theorem isSome_sampleRefusal? : (r.sampleRefusal? fs).isSome ↔ r.SampleUnreadable fs := by
  simp only [Option.isSome_iff_exists, sampleRefusal?_eq_some_iff]
  constructor
  · rintro ⟨_, p, cause, given, unreadable, -⟩
    exact ⟨p, cause, given, unreadable⟩
  · rintro ⟨p, cause, given, unreadable⟩
    exact ⟨_, p, cause, given, unreadable, rfl⟩

theorem isSome_cairoRefusal? : r.cairoRefusal?.isSome ↔ r.CairoUnselected := by
  simp [cairoRefusal?]

theorem isSome_unknownRefusal? [Build] : r.unknownRefusal?.isSome ↔ r.GrammarUnknown := by
  rw [unknownRefusal?, List.findSome?_isSome_iff, GrammarUnknown]
  refine exists_congr fun name => and_congr_right fun _ => ?_
  split
  · next h => exact iff_of_true rfl h
  · next h => exact iff_of_false (by simp) h

theorem isSome_libraryRefusal? : r.libraryRefusal?.isSome ↔ r.LibraryRejected := by
  rw [libraryRefusal?, List.findSome?_isSome_iff, LibraryRejected]
  simp only [Option.isSome_iff_exists, refusalOf_eq_some_iff]

theorem isSome_directoryRefusal? :
    (r.directoryRefusal? fs).isSome ↔ r.DirectoryMissing fs := by
  simp only [Option.isSome_iff_exists, directoryRefusal?_eq_some_iff]
  constructor
  · rintro ⟨_, dir, given, missing, -⟩
    exact ⟨dir, given, missing⟩
  · rintro ⟨dir, given, missing⟩
    exact ⟨_, dir, given, missing, rfl⟩

end Request

/-! ### The first reason -/

namespace NamedLibrary

variable {value : String} {e : RequestError}

/-- A value with an equals sign is rejected as an assignment. -/
theorem eq_of_parse_eq_error_of_mem (hequals : '=' ∈ value.toList) (h : parse value = .error e) :
    e = .invalidLibraryValue value := by
  unfold parse at h
  split at h
  · split at h
    · exact (Except.error.inj h).symm
    · exact absurd h nofun
  · next hcut => exact absurd hequals (Text.cut?_eq_none_iff.mp hcut)

/-- A value without an equals sign is rejected as a path. -/
theorem eq_of_parse_eq_error_of_notMem (hequals : '=' ∉ value.toList)
    (h : parse value = .error e) : e = .unnamedLibrary value := by
  unfold parse at h
  rw [Text.cut?_eq_none_iff.mpr hequals] at h
  simp only at h
  split at h
  · exact absurd h nofun
  · exact (Except.error.inj h).symm

end NamedLibrary

namespace Request

variable [Build] {fs : FileSystem} {r : Request} {e : RequestError}

/-- Each refusal counts only if those before it are not there. -/
theorem refusal?_eq_some_iff :
    r.refusal? fs = some e ↔
      r.sampleRefusal? fs = some e ∨ ¬ r.SampleUnreadable fs ∧
        (r.cairoRefusal? = some e ∨ ¬ r.CairoUnselected ∧
          (r.unknownRefusal? = some e ∨ ¬ r.GrammarUnknown ∧
            (r.libraryRefusal? = some e ∨ ¬ r.LibraryRejected ∧
              r.directoryRefusal? fs = some e))) := by
  simp only [refusal?, Option.or_eq_some_iff, ← Option.not_isSome_iff_eq_none,
    isSome_sampleRefusal?, isSome_cairoRefusal?, isSome_unknownRefusal?, isSome_libraryRefusal?]

/-- **The first reason.** What is found is the first of the reasons that holds, with its text. -/
theorem refusedWith_iff {text : String} :
    r.RefusedWith fs e text ↔ r.refusal? fs = some e ∧ e.message = text := by
  rw [refusal?_eq_some_iff]
  constructor
  · -- each constructor says at which of the five places the search stops
    intro h
    cases h with
    | sample given unreadable =>
      exact ⟨Or.inl (sampleRefusal?_eq_some_iff.mpr ⟨_, _, given, unreadable, rfl⟩), rfl⟩
    | cairo noSample unselected =>
      exact ⟨Or.inr ⟨noSample, Or.inl (cairoRefusal?_eq_some_iff.mpr ⟨unselected, rfl⟩)⟩, rfl⟩
    | grammar noSample noCairo unknown =>
      have hfound := unknownRefusal?_eq_some_iff.mpr ⟨_, unknown, rfl⟩
      exact ⟨Or.inr ⟨noSample, Or.inr ⟨noCairo, Or.inl hfound⟩⟩, rfl⟩
    | assignment noSample noCairo noGrammar rejected equals =>
      obtain ⟨e, herror⟩ := rejected.holds
      obtain rfl := NamedLibrary.eq_of_parse_eq_error_of_mem equals herror
      have hfound := libraryRefusal?_eq_some_iff.mpr ⟨_, rejected, herror⟩
      exact ⟨Or.inr ⟨noSample, Or.inr ⟨noCairo, Or.inr ⟨noGrammar, Or.inl hfound⟩⟩⟩, rfl⟩
    | path noSample noCairo noGrammar rejected noEquals =>
      obtain ⟨e, herror⟩ := rejected.holds
      obtain rfl := NamedLibrary.eq_of_parse_eq_error_of_notMem noEquals herror
      have hfound := libraryRefusal?_eq_some_iff.mpr ⟨_, rejected, herror⟩
      exact ⟨Or.inr ⟨noSample, Or.inr ⟨noCairo, Or.inr ⟨noGrammar, Or.inl hfound⟩⟩⟩, rfl⟩
    | directory noSample noCairo noGrammar noLibrary given missing =>
      have hfound := directoryRefusal?_eq_some_iff.mpr ⟨_, given, missing, rfl⟩
      exact ⟨Or.inr ⟨noSample, Or.inr ⟨noCairo, Or.inr ⟨noGrammar, Or.inr ⟨noLibrary, hfound⟩⟩⟩⟩,
        rfl⟩
  · rintro ⟨hsample | ⟨noSample, hcairo | ⟨noCairo, hgrammar | ⟨noGrammar,
      hlibrary | ⟨noLibrary, hdirectory⟩⟩⟩⟩, rfl⟩
    · obtain ⟨p, cause, given, unreadable, rfl⟩ := sampleRefusal?_eq_some_iff.mp hsample
      exact .sample given unreadable
    · obtain ⟨unselected, rfl⟩ := cairoRefusal?_eq_some_iff.mp hcairo
      exact .cairo noSample unselected
    · obtain ⟨name, unknown, rfl⟩ := unknownRefusal?_eq_some_iff.mp hgrammar
      exact .grammar noSample noCairo unknown
    · -- one search looks for both kinds of values; the equals sign tells them apart
      obtain ⟨value, rejected, herror⟩ := libraryRefusal?_eq_some_iff.mp hlibrary
      by_cases equals : '=' ∈ value.toList
      · obtain rfl := NamedLibrary.eq_of_parse_eq_error_of_mem equals herror
        exact .assignment noSample noCairo noGrammar rejected equals
      · obtain rfl := NamedLibrary.eq_of_parse_eq_error_of_notMem equals herror
        exact .path noSample noCairo noGrammar rejected equals
    · obtain ⟨dir, given, missing, rfl⟩ := directoryRefusal?_eq_some_iff.mp hdirectory
      exact .directory noSample noCairo noGrammar noLibrary given missing

end Request

/-! ### The refusal of a check -/

/-- A check looks for the reasons in their order. -/
theorem refusalOf_check [Build] (host : Host) (r : Request) :
    refusalOf (check host r) = r.refusal? host.files := by
  rw [Request.refusal?, ← Request.refusalOf_readOptions, ← Request.refusalOf_targets, check, plan]
  cases readOptions host.files r with
  | error e => rfl
  | ok options => cases targets host.files r <;> rfl

/-- **When a check is refused.** It fails with the first of the five reasons that holds, in their
order, and says so in its text. So it fails if and only if the sample cannot be read as text, or a
library file stands in for Cairo that is not selected, or a name is not that of a bundled grammar,
or a library value cannot be read, or the directory does not exist; and for nothing else. -/
theorem check_refused_iff [Build] (host : Host) (r : Request) :
    (∀ e text, check host r = .error e ∧ e.message = text ↔ r.RefusedWith host.files e text) ∧
    ((∃ e, check host r = .error e) ↔
      r.SampleUnreadable host.files ∨ r.CairoUnselected ∨ r.GrammarUnknown ∨ r.LibraryRejected ∨
        r.DirectoryMissing host.files) := by
  have hrefusal : ∀ e, check host r = .error e ↔ r.refusal? host.files = some e := by
    intro e
    rw [← refusalOf_check, refusalOf_eq_some_iff]
  refine ⟨fun e text => ?_, ?_⟩
  · rw [hrefusal, Request.refusedWith_iff]
  · -- the first of five reasons exists if and only if one of them holds
    simp only [hrefusal]
    rw [← Option.isSome_iff_exists, Request.refusal?]
    simp only [Option.isSome_or, Bool.or_eq_true, Request.isSome_sampleRefusal?,
      Request.isSome_cairoRefusal?, Request.isSome_unknownRefusal?, Request.isSome_libraryRefusal?,
      Request.isSome_directoryRefusal?]

attribute [local instance] Build.withoutCairo

/-- A host without any file. -/
private def emptyHost : Host where
  files := .bare
  runtime := ⟨fun _ _ => none⟩

/-- A request for grammars two of which are not known. -/
private def cobolRequest : Request where
  grammars := ["Rust", "COBOL", "Algol"]

/-- A request for nothing but a library file for Cairo. -/
private def libraryOnlyRequest : Request where
  cairoLibrary? := some (.ofText "cairo.so")

/-- The first of two unknown grammars is shown, in lower case. A library file for Cairo is admitted
if nothing is selected, though there is no such file. -/
theorem check_refused_iff_cobol :
    (∃ e, check emptyHost cobolRequest = .error e ∧
      e.message = "unknown grammar 'cobol'; use --library to check a grammar library") ∧
    ¬ ∃ e, check emptyHost libraryOnlyRequest = .error e := by
  constructor
  · have hlower : Text.lower "COBOL" = "cobol" := by decide
    have hunknown : FirstIn (fun name => findBundled? name = none)
        cobolRequest.selection "COBOL" :=
      ⟨["Rust"], ["Algol"], rfl, by decide, by decide⟩
    have hreason : cobolRequest.RefusedWith emptyHost.files (.unknownGrammar "cobol")
        "unknown grammar 'cobol'; use --library to check a grammar library" :=
      hlower ▸ .grammar nofun nofun hunknown
    exact ⟨_, ((check_refused_iff emptyHost cobolRequest).1 _ _).mpr hreason⟩
  · -- the effective selection is Cairo, which is bundled and admits the library file
    have hselection : libraryOnlyRequest.selection = ["cairo"] := rfl
    have hbundled : ∀ name ∈ ["cairo"], findBundled? name ≠ none := by decide
    have hcairo : "cairo".toLower = "cairo" := by
      rw [← String.toList_inj, Text.toList_toLower]
      decide
    rw [(check_refused_iff emptyHost libraryOnlyRequest).2]
    rintro (⟨p, cause, hsample, -⟩ | ⟨-, -, hunselected⟩ | ⟨name, hname, hunknown⟩ |
      ⟨value, hvalue, -⟩ | ⟨dir, hdir, -⟩)
    · exact absurd hsample nofun
    · exact hunselected "cairo" (hselection ▸ List.mem_singleton_self _) hcairo
    · exact hbundled name (hselection ▸ hname) hunknown
    · exact absurd hvalue List.not_mem_nil
    · exact absurd hdir nofun

end GrammarCheck
