import GrammarCheck.Proofs.Loading

/-!
# What a case says

A case is told in steps: it gets the name and the artifact of its grammar, then what the load gives,
then the parse of the sample, and a strict one takes its pass back if the parse has errors. Said in
one equation for each outcome of the load, its fields occur together only in the ways that a reader
of the report expects.

* `Case.run_of_load_error`, `Case.run_of_load_ok` — the two equations.
* `Case.abiVersion?_run`, `Case.nodeKindCount?_run`, `Case.sample?_run` — what is measured, which no
  failure takes away.
* `Case.Coherent` — how the fields of a case belong together, and to the load and the sample.
* `Case.coherent_run` — every case is coherent.
-/

namespace GrammarCheck

section

variable {ε α β : Type} {x : Except ε α} {f : α → β}

theorem toOption_eq_some_iff {a : α} : x.toOption = some a ↔ x = .ok a := by
  cases x <;> simp [Except.toOption]

theorem isSome_map_toOption_iff : (x.toOption.map f).isSome ↔ ∃ a, x = .ok a := by
  simp only [Option.isSome_map, Option.isSome_iff_exists, toOption_eq_some_iff]

theorem map_toOption_eq_some_iff {b : β} :
    x.toOption.map f = some b ↔ ∃ a, x = .ok a ∧ f a = b := by
  simp only [Option.map_eq_some_iff, toOption_eq_some_iff]

end

namespace Case

variable {runtime : Runtime} {loader : Loader} {options : CaseOptions} {p : Provider}

/-! ### The two equations -/

/-- The case of a grammar that does not load is that of the error, with the artifact of the
grammar. -/
theorem run_of_load_error {e : LoadError} (h : loader.load p.handle = .error e) :
    run runtime loader options p = { ofError p.name e with artifact? := p.artifact? } := by
  unfold run
  simp only [h]
  rfl

/-- The case of a grammar that has loaded, before its strictness is looked at. -/
def loaded (runtime : Runtime) (options : CaseOptions) (p : Provider) (g : LoadedGrammar) :
    Case where
  name := p.name
  status := .passed
  abiVersion? := some g.abiVersion
  nodeKindCount? := some g.nodeKindCount
  artifact? := p.artifact?
  sample? := options.sample?.bind (g.parse? runtime)

/-- There is a sample, and its parse is not known to be free of errors. -/
def spoils (runtime : Runtime) (options : CaseOptions) (g : LoadedGrammar) : Bool :=
  options.sample?.any fun source => (g.parse? runtime source).all ParseSummary.hasError

/-- The case of a grammar that has loaded passes, unless it is strict and the sample spoils it. What
was measured stays. -/
theorem run_of_load_ok {g : LoadedGrammar} (h : loader.load p.handle = .ok g) :
    run runtime loader options p =
      if options.strict && spoils runtime options g then
        (loaded runtime options p g).fail
          ("Sample does not parse cleanly with " ++ p.displayName ++ " grammar")
          (((loaded runtime options p g).sample?.bind ParseSummary.firstError?).map dirtyDetail)
      else loaded runtime options p g := by
  unfold run spoils
  simp only [h]
  cases hsample : options.sample? with
  | none => simp [loaded, pass, hsample]
  | some source =>
    -- a parse that was given up counts as one with errors
    have hdirty : ((g.parse? runtime source).map ParseSummary.hasError).getD true =
        (g.parse? runtime source).all ParseSummary.hasError := by
      cases g.parse? runtime source <;> rfl
    simp only [withSample, hdirty, loaded, pass, hsample, Option.any_some, Option.bind_some]

/-! ### What no failure takes away -/

section Measured

variable (runtime : Runtime) (loader : Loader) (options : CaseOptions) (p : Provider)

/-- A field that a failure of the sample leaves alone is that of the case before it. -/
private theorem field_run {α : Type} (field : Case → α)
    (hfail : ∀ (c : Case) message detail?, field (c.fail message detail?) = field c)
    {g : LoadedGrammar} (h : loader.load p.handle = .ok g) :
    field (run runtime loader options p) = field (loaded runtime options p g) := by
  rw [run_of_load_ok h]
  split
  · rw [hfail]
  · rfl

@[simp] theorem name_run : (run runtime loader options p).name = p.name := by
  cases h : loader.load p.handle with
  | error e => rw [run_of_load_error h]; rfl
  | ok g => exact field_run runtime loader options p name (fun _ _ _ => rfl) h

theorem abiVersion?_run :
    (run runtime loader options p).abiVersion? =
      (loader.load p.handle).toOption.map LoadedGrammar.abiVersion := by
  cases h : loader.load p.handle with
  | error e => rw [run_of_load_error h]; rfl
  | ok g => exact field_run runtime loader options p abiVersion? (fun _ _ _ => rfl) h

theorem nodeKindCount?_run :
    (run runtime loader options p).nodeKindCount? =
      (loader.load p.handle).toOption.map LoadedGrammar.nodeKindCount := by
  cases h : loader.load p.handle with
  | error e => rw [run_of_load_error h]; rfl
  | ok g => exact field_run runtime loader options p nodeKindCount? (fun _ _ _ => rfl) h

theorem sample?_run :
    (run runtime loader options p).sample? =
      (loader.load p.handle).toOption.bind fun g => options.sample?.bind (g.parse? runtime) := by
  cases h : loader.load p.handle with
  | error e => rw [run_of_load_error h]; rfl
  | ok g => exact field_run runtime loader options p sample? (fun _ _ _ => rfl) h

variable {runtime loader options p}

/-- The summary of a case is that of the tree of the sample, under the language that was loaded. -/
theorem sample?_run_eq_some_iff {summary : ParseSummary} :
    (run runtime loader options p).sample? = some summary ↔
      ∃ g source tree, loader.load p.handle = .ok g ∧ options.sample? = some source ∧
        runtime.parse? g.language source = some tree ∧ summary = .ofTree tree source := by
  simp only [sample?_run, Option.bind_eq_some_iff, toOption_eq_some_iff, LoadedGrammar.parse?,
    Option.map_eq_some_iff]
  grind

/-- If no parse of the sample is given up, a case has a summary exactly if the grammar loads and
there is a sample. -/
theorem isSome_sample?_run_iff
    (hparse : ∀ g source, loader.load p.handle = .ok g → options.sample? = some source →
      (runtime.parse? g.language source).isSome) :
    (run runtime loader options p).sample?.isSome ↔
      (∃ g, loader.load p.handle = .ok g) ∧ options.sample?.isSome := by
  simp only [Option.isSome_iff_exists, sample?_run_eq_some_iff]
  constructor
  · rintro ⟨-, g, source, -, hload, hsource, -⟩
    exact ⟨⟨g, hload⟩, source, hsource⟩
  · rintro ⟨⟨g, hload⟩, source, hsource⟩
    obtain ⟨tree, htree⟩ := Option.isSome_iff_exists.mp (hparse g source hload hsource)
    exact ⟨_, g, source, tree, hload, hsource, htree, rfl⟩

end Measured

/-! ### Verdicts -/

theorem ne_passed_of_failed {c : Case} (hfailed : c.status = .failed) : c.status ≠ .passed := by
  simp [hfailed]

section Verdict

variable (runtime : Runtime) (loader : Loader) (options : CaseOptions) (p : Provider)

/-- A case that is run has passed with nothing to say, or has failed with a message. -/
theorem verdict_run :
    let c := run runtime loader options p
    (c.status = .passed ∧ c.message? = none ∧ c.detail? = none) ∨
      (c.status = .failed ∧ c.message?.isSome) := by
  cases h : loader.load p.handle with
  | error e =>
    rw [run_of_load_error h]
    exact Or.inr ⟨rfl, rfl⟩
  | ok g =>
    rw [run_of_load_ok h]
    split
    · exact Or.inr ⟨rfl, rfl⟩
    · exact Or.inl ⟨rfl, rfl, rfl⟩

variable {runtime loader options p}

/-- A grammar that has loaded fails its case exactly if the case is strict and the sample spoils
it. -/
theorem failed_run_iff {g : LoadedGrammar} (h : loader.load p.handle = .ok g) :
    (run runtime loader options p).status = .failed ↔
      options.strict = true ∧ spoils runtime options g = true := by
  rw [run_of_load_ok h, ← Bool.and_eq_true]
  split
  · next hspoiled => exact iff_of_true rfl hspoiled
  · next hpassed => exact iff_of_false nofun hpassed

/-- The detail of such a failure is the place of the first error in the sample. -/
theorem detail?_run_of_failed {g : LoadedGrammar} (h : loader.load p.handle = .ok g)
    (hfailed : (run runtime loader options p).status = .failed) :
    (run runtime loader options p).detail? =
      ((run runtime loader options p).sample?.bind ParseSummary.firstError?).map dirtyDetail := by
  rw [run_of_load_ok h, if_pos (Bool.and_eq_true _ _ ▸ (failed_run_iff h).mp hfailed)]
  rfl

end Verdict

/-! ### Samples that spoil a case -/

section Spoils

variable {g : LoadedGrammar}
  (hparse : ∀ source, options.sample? = some source →
    (runtime.parse? g.language source).isSome)

include hparse

/-- If the parse of the sample is not given up, what spoils a strict case can be read off the
summary. -/
theorem spoils_eq_any :
    spoils runtime options g =
      (options.sample?.bind (g.parse? runtime)).any ParseSummary.hasError := by
  unfold spoils LoadedGrammar.parse?
  cases hsample : options.sample? with
  | none => rfl
  | some source =>
    obtain ⟨tree, htree⟩ := Option.isSome_iff_exists.mp (hparse source hsample)
    simp [htree]

/-- If the parse of the sample is not given up, it is the root of its tree that tells whether the
sample spoils a strict case. -/
theorem spoils_iff :
    spoils runtime options g = true ↔ ∃ source tree, options.sample? = some source ∧
      runtime.parse? g.language source = some tree ∧ tree.root.info.hasError = true := by
  rw [spoils_eq_any hparse, Option.any_eq_true]
  simp only [Option.bind_eq_some_iff, LoadedGrammar.parse?, Option.map_eq_some_iff]
  constructor
  · rintro ⟨_, ⟨source, hsource, tree, htree, rfl⟩, herror⟩
    exact ⟨source, tree, hsource, htree, herror⟩
  · rintro ⟨source, tree, hsource, htree, herror⟩
    exact ⟨_, ⟨source, hsource, tree, htree, rfl⟩, herror⟩

end Spoils

/-! ### Coherence -/

/-- **Coherence.** How the fields of a case belong together, and to what it is the case of. The
measured fields tell that the grammar has loaded; whether the case has failed is told by its
message; and a grammar that has loaded fails its case by a strict sample whose tree has errors, and
by nothing else. -/
structure Coherent (runtime : Runtime) (range : AbiRange) (options : CaseOptions) (p : Provider)
    (c : Case) : Prop where
  name_eq : c.name = p.name
  artifact_eq : c.artifact? = p.artifact?
  passed_or_failed : c.status = .passed ∨ c.status = .failed
  isSome_message_iff : c.message?.isSome ↔ c.status = .failed
  failed_of_detail : c.detail?.isSome → c.status = .failed
  isSome_abiVersion_iff : c.abiVersion?.isSome ↔ ∃ g, load range p.handle = .ok g
  isSome_nodeKindCount_iff : c.nodeKindCount?.isSome ↔ ∃ g, load range p.handle = .ok g
  abiVersion_mem : ∀ version ∈ c.abiVersion?, range.min ≤ version ∧ version ≤ range.max
  nodeKindCount_pos : ∀ count ∈ c.nodeKindCount?, 0 < count
  isSome_sample_iff :
    c.sample?.isSome ↔ (∃ g, load range p.handle = .ok g) ∧ options.sample?.isSome
  bytes_eq :
    ∀ summary ∈ c.sample?, ∀ source ∈ options.sample?, summary.bytes = source.utf8ByteSize
  failed_iff : c.abiVersion?.isSome →
    (c.status = .failed ↔ options.strict = true ∧ ∃ source language tree,
      options.sample? = some source ∧ p.handle.language? = some language ∧
      runtime.parse? language source = some tree ∧ tree.root.info.hasError = true)
  detail_eq : c.abiVersion?.isSome → c.status = .failed →
    ∃ summary, c.sample? = some summary ∧
      c.detail? = summary.firstError?.map fun place =>
        "first error at " ++ Text.decimal place.line ++ ":" ++ Text.decimal place.column

/-- **Every case is coherent.** The only thing to ask of the runtime is that it does not give up the
parse of the sample. -/
theorem coherent_run (runtime : Runtime) (range : AbiRange) (options : CaseOptions) (p : Provider)
    (hparse : ∀ g source, load range p.handle = .ok g → options.sample? = some source →
      (runtime.parse? g.language source).isSome) :
    Coherent runtime range options p (run runtime range options p) := by
  have hloads : (run runtime range options p).abiVersion?.isSome ↔
      ∃ g, load range p.handle = .ok g := by
    rw [abiVersion?_run]
    exact isSome_map_toOption_iff
  have hverdict := verdict_run runtime range options p
  constructor
  case name_eq => exact name_run ..
  case artifact_eq => exact artifact?_run ..
  case passed_or_failed => exact hverdict.imp And.left And.left
  case isSome_message_iff =>
    rcases hverdict with ⟨hstatus, hmessage, -⟩ | ⟨hstatus, hmessage⟩
    · simp [hstatus, hmessage]
    · exact iff_of_true hmessage hstatus
  case failed_of_detail =>
    rcases hverdict with ⟨-, -, hdetail⟩ | ⟨hstatus, -⟩
    · simp [hdetail]
    · exact fun _ => hstatus
  case isSome_abiVersion_iff => exact hloads
  case isSome_nodeKindCount_iff =>
    rw [nodeKindCount?_run]
    exact isSome_map_toOption_iff
  case abiVersion_mem =>
    intro version hversion
    rw [abiVersion?_run] at hversion
    obtain ⟨g, hload, rfl⟩ := map_toOption_eq_some_iff.mp hversion
    obtain ⟨-, -, -, hrange, -⟩ := load_eq_ok_iff.mp hload
    simpa [AbiRange.contains] using hrange
  case nodeKindCount_pos =>
    intro count hcount
    rw [nodeKindCount?_run] at hcount
    obtain ⟨g, hload, rfl⟩ := map_toOption_eq_some_iff.mp hcount
    obtain ⟨-, -, -, -, -, hkinds⟩ := load_eq_ok_iff.mp hload
    exact hkinds
  case isSome_sample_iff => exact isSome_sample?_run_iff hparse
  case bytes_eq =>
    intro summary hsummary source hsource
    obtain ⟨-, source', tree, -, hsource', -, rfl⟩ := sample?_run_eq_some_iff.mp hsummary
    obtain rfl := Option.some.inj (hsource'.symm.trans hsource)
    rfl
  case failed_iff =>
    intro hversion
    obtain ⟨g, hload⟩ := hloads.mp hversion
    rw [failed_run_iff hload, spoils_iff (hparse g · hload)]
    simp [language_of_load hload]
  case detail_eq =>
    intro hversion hfailed
    obtain ⟨g, hload⟩ := hloads.mp hversion
    -- what fails a case that has loaded is its sample, so there is one and it has a summary
    obtain ⟨-, hspoils⟩ := (failed_run_iff hload).mp hfailed
    obtain ⟨source, -, hsource, -⟩ := (spoils_iff (hparse g · hload)).mp hspoils
    have hparsed : (run runtime range options p).sample?.isSome :=
      (isSome_sample?_run_iff hparse).mpr ⟨⟨g, hload⟩, Option.isSome_of_eq_some hsource⟩
    obtain ⟨summary, hsummary⟩ := Option.isSome_iff_exists.mp hparsed
    refine ⟨summary, hsummary, ?_⟩
    rw [detail?_run_of_failed hload hfailed, hsummary]
    rfl

end Case

/-- Rust, as it is bundled. -/
private def rust : Provider :=
  .bundled (.linked "rust" "Rust" 15 355)

/-- A runtime that knows one text: a lone keyword, which is an error as a whole. -/
private def keywordRuntime : Runtime where
  parse? _ source :=
    if source = "fn" then
      some ⟨"source_file", .mk ⟨true, false, false, ⟨0, 0⟩⟩
        [.mk ⟨true, true, false, ⟨0, 0⟩⟩ [.mk ⟨false, false, false, ⟨0, 0⟩⟩ []]]⟩
    else none

/-- The strict case of the lone keyword fails and keeps what was measured. -/
theorem Case.coherent_run_keyword :
    let c :=
      Case.run keywordRuntime AbiRange.supported { sample? := some "fn", strict := true } rust
    load .supported rust.handle = .ok ⟨"Rust", ⟨"rust", 15, 355, 0⟩, 15, 355⟩ ∧
      c.status = .failed ∧ c.message?.isSome ∧ c.nodeKindCount?.isSome ∧
      c.detail? = some "first error at 1:1" := by
  have hload : load .supported rust.handle = .ok ⟨"Rust", ⟨"rust", 15, 355, 0⟩, 15, 355⟩ := rfl
  have hcoherent := coherent_run keywordRuntime .supported { sample? := some "fn", strict := true }
    rust (by
      intro g source _ hsource
      obtain rfl := Option.some.inj hsource
      rfl)
  have hversion := hcoherent.isSome_abiVersion_iff.mpr ⟨_, hload⟩
  have hfailed := (hcoherent.failed_iff hversion).mpr ⟨rfl, "fn", _, _, rfl, rfl, rfl, rfl⟩
  obtain ⟨summary, hsummary, hdetail⟩ := hcoherent.detail_eq hversion hfailed
  -- the tree has its first error at the start of the text
  obtain rfl : summary = ⟨"source_file", true, some ⟨1, 1⟩, 2⟩ :=
    Option.some.inj (hsummary.symm.trans rfl)
  exact ⟨hload, hfailed, hcoherent.isSome_message_iff.mpr hfailed,
    hcoherent.isSome_nodeKindCount_iff.mpr ⟨_, hload⟩, hdetail.trans (by decide)⟩

end GrammarCheck
