import GrammarCheck.FileSystem.Create
import GrammarCheck.Proofs.Walking

/-!
# States that can be built

A state lists entries by location and would take any bytes for a name. Building one makes no use of
that. Entries are created at paths, and where a path leads, or what it names, is put together from
the steps of paths. So every name holds no slash and is neither empty nor made of dots alone.

* `FileSystem.Spelled` — each name in a state can be spelled in a path.
* `FileSystem.spelled_locate` — so can each name of the location that a path names.
* `FileSystem.Spelled.create` — creating an entry keeps a state spelled.
* `FileSystem.spelled_foldl_create` — a state is spelled after any number of creations.
-/

namespace GrammarCheck

/-- Each name of the location can be spelled in a path. -/
def Location.Spelled (loc : Location) : Prop :=
  ∀ name ∈ loc, (Path.Step.down name).Spelled

theorem Location.spelled_step {here : Location} {step : Path.Step} (hhere : here.Spelled)
    (hstep : step.Spelled) : (here.step step).Spelled := by
  cases step with
  | stay => exact hhere
  | up => exact fun name hname => hhere name (List.mem_of_mem_tail hname)
  | down name => exact List.forall_mem_cons.mpr ⟨hstep, hhere⟩

namespace FileSystem

/-- Each name in the state can be spelled in a path. -/
def Spelled (fs : FileSystem) : Prop :=
  ∀ e ∈ fs.entries, e.1.Spelled

variable {fs : FileSystem} {room : Location → List Path.Step → Bool} {links : Nat}
  {here loc : Location} {steps : List Path.Step}

/-- What stands somewhere stands under names that can be spelled. -/
theorem Spelled.of_entry? (h : fs.Spelled) {entry : Entry} (hentry : fs.entry? loc = some entry) :
    loc.Spelled := by
  cases loc with
  | nil => exact fun name hname => absurd hname List.not_mem_nil
  | cons name above =>
    obtain ⟨before, after, hentries, -⟩ := List.lookup_eq_some_iff.mp hentry
    refine h (name :: above, entry) ?_
    rw [hentries]
    exact List.mem_append_right _ (List.mem_cons_self ..)

/-! ### Where entries are created -/

/-- A walk along spelled steps ends under names that can be spelled, whatever the state holds. -/
theorem Walks.spelled (h : Walks fs room links here steps loc) (hsteps : ∀ s ∈ steps, s.Spelled)
    (hhere : here.Spelled) : loc.Spelled := by
  induction h with
  | done => exact hhere
  | stay _ _ ih => exact ih (fun s hs => hsteps s (List.mem_cons_of_mem _ hs)) hhere
  | up _ _ ih =>
    have hup : Path.Step.up.Spelled := trivial
    exact ih (fun s hs => hsteps s (List.mem_cons_of_mem _ hs)) (Location.spelled_step hhere hup)
  | down _ _ _ _ _ ih =>
    exact ih (fun s hs => hsteps s (List.mem_cons_of_mem _ hs))
      (Location.spelled_step hhere (hsteps _ (List.mem_cons_self ..)))
  | follow _ _ _ _ ih =>
    -- the target of a link is a path too, followed from the root or from where the walk is
    refine ih (fun s hs => ?_) ?_
    · rcases List.mem_append.mp hs with hs | hs
      · exact Path.spelled_of_mem_steps hs
      · exact hsteps s (List.mem_cons_of_mem _ hs)
    · split
      · exact fun name hname => absurd hname List.not_mem_nil
      · exact hhere

theorem spelled_locateFrom (hsteps : ∀ s ∈ steps, s.Spelled) (hhere : here.Spelled) :
    (fs.locateFrom here steps).Spelled := by
  induction steps generalizing here with
  | nil => exact hhere
  | cons step rest ih =>
    obtain ⟨hstep, hrest⟩ := List.forall_mem_cons.mp hsteps
    unfold locateFrom
    split
    · next there hwalk =>
      refine ih hrest ((walk_eq_ok_iff.mp hwalk).spelled ?_ hhere)
      exact fun s hs => List.mem_singleton.mp hs ▸ hstep
    · exact ih hrest (Location.spelled_step hhere hstep)

/-- A path names a location whose names can be spelled. -/
theorem spelled_locate (fs : FileSystem) (p : Path) : (fs.locate p).Spelled :=
  spelled_locateFrom (fun _ hs => spelled_of_mem_stepsFromRoot hs)
    fun _ hname => absurd hname List.not_mem_nil

/-! ### Creating entries -/

theorem Spelled.addDirectories (h : fs.Spelled) (hloc : loc.Spelled) :
    (fs.addDirectories loc).Spelled := by
  induction loc with
  | nil => exact h
  | cons name above ih =>
    have habove := ih fun n hn => hloc n (List.mem_cons_of_mem _ hn)
    unfold FileSystem.addDirectories
    simp only
    split
    · exact List.forall_mem_cons.mpr ⟨hloc, habove⟩
    · exact habove

theorem Spelled.add (h : fs.Spelled) (hloc : loc.Spelled) (entry : Entry) :
    (fs.add loc entry).Spelled := by
  have htail : (fs.addDirectories loc.tail).Spelled :=
    h.addDirectories fun name hname => hloc name (List.mem_of_mem_tail hname)
  refine List.forall_mem_cons.mpr ⟨hloc, fun e he => ?_⟩
  exact htail e (List.mem_filter.mp he).1

/-- **Creating an entry** keeps a state spelled. -/
theorem Spelled.create (h : fs.Spelled) (p : Path) (entry : Entry) :
    (fs.create p entry).Spelled := by
  cases entry with
  | directory => exact h.addDirectories (spelled_locate fs p)
  | file | symlink => exact h.add (spelled_locate fs p) _

theorem spelled_empty (workingDirectory : Path) : (empty workingDirectory).Spelled := by
  have hbare : (⟨[], workingDirectory⟩ : FileSystem).Spelled :=
    fun e he => absurd he List.not_mem_nil
  exact hbare.create workingDirectory .directory

/-- **States that are built.** A state is spelled after any number of creations. -/
theorem spelled_foldl_create (workingDirectory : Path) (entries : List (Path × Entry)) :
    (entries.foldl (fun fs e => fs.create e.1 e.2) (empty workingDirectory)).Spelled := by
  have hrun : ∀ fs : FileSystem, fs.Spelled →
      (entries.foldl (fun fs e => fs.create e.1 e.2) fs).Spelled := by
    induction entries with
    | nil => exact fun _ h => h
    | cons e entries ih => exact fun fs h => ih (fs.create e.1 e.2) (h.create e.1 e.2)
  exact hrun _ (spelled_empty workingDirectory)

end FileSystem

end GrammarCheck
