import GrammarCheck.FileSystem.Read

/-!
# Walks and canonical paths

A walk that succeeds is a derivation of `Walks`, one constructor for each way to take a step
(`walk_eq_ok_iff`). Whatever a walk carries from one step to the next is shown by induction on that
derivation.

* `Walks.mono` — more room does not change where a walk leads.
* `Walks.reached` — a walk ends at a location that is `Reached`: something that is no link stands
  there, directories stand above it, and each of its names can be spelled in a path.
* `Reached.locationOf_path` — the canonical path of such a location leads back to it. The path
  spells the names of the location and nothing else, so walking it meets no link.
* `exists_location_of_canonicalize` — the canonical path of a path is that of the location the path
  resolves to, and reading through it finds that location.
-/

namespace GrammarCheck

/-! ### What a segment spells -/

/-- A piece of a list that is cut at `a` is free of `a`. -/
private theorem notMem_of_mem_splitOn {α : Type} [BEq α] [LawfulBEq α] {a : α} {l piece : List α}
    (h : piece ∈ l.splitOn a) : a ∉ piece := by
  induction l generalizing piece with
  | nil =>
    rw [List.splitOn_nil, List.mem_singleton] at h
    subst h
    exact List.not_mem_nil
  | cons x l ih =>
    rw [List.splitOn_cons_eq_if_modifyHead] at h
    split at h
    · rcases List.mem_cons.mp h with rfl | h
      · exact List.not_mem_nil
      · exact ih h
    · next hx =>
      obtain ⟨first, others, hl⟩ := List.exists_cons_of_ne_nil (List.splitOn_ne_nil a l)
      -- the head joins the first piece, and the other pieces are those of the rest
      rw [hl] at h ih
      rcases List.mem_cons.mp h with rfl | h
      · intro ha
        rcases List.mem_cons.mp ha with rfl | ha
        · exact hx (beq_self_eq_true a)
        · exact ih (List.mem_cons_self ..) ha
      · exact ih (List.mem_cons_of_mem _ h)

namespace Path

/-- A step that some segment of a path spells. Only the name of a step that goes down is in
question: it holds no slash and is not empty or made of dots alone. -/
def Step.Spelled : Step → Prop
  | .down name => slash ∉ name ∧ Step.ofSegment name = .down name
  | .stay | .up => True

theorem Step.spelled_ofSegment {segment : List UInt8} (h : slash ∉ segment) :
    (Step.ofSegment segment).Spelled := by
  unfold Step.ofSegment
  split
  · trivial
  · next hstay =>
    split
    · trivial
    · next hup =>
      refine ⟨h, ?_⟩
      unfold Step.ofSegment
      rw [if_neg hstay, if_neg hup]

theorem spelled_of_mem_steps {p : Path} {s : Step} (h : s ∈ p.steps) : s.Spelled := by
  obtain ⟨segment, hmem, rfl⟩ := List.mem_map.mp h
  exact Step.spelled_ofSegment (notMem_of_mem_splitOn hmem)

end Path

namespace FileSystem

/-! ### Walks as derivations -/

/-- A step may be taken: there is room for the steps ahead, and a directory to stand in. -/
structure Passable (fs : FileSystem) (room : Location → List Path.Step → Bool) (here : Location)
    (steps : List Path.Step) : Prop where
  hasRoom : room here steps = true
  directory : fs.entry? here = some .directory

/-- An entry of this name can be asked for. -/
structure Askable (name : FileName) : Prop where
  noNul : 0 ∉ name
  short : name.length ≤ maxNameLength

/-- **Successful walks.** `Walks fs room links here steps loc` says that the steps lead from `here`
to `loc`, stepping into at most `links` links. -/
inductive Walks (fs : FileSystem) (room : Location → List Path.Step → Bool) :
    Nat → Location → List Path.Step → Location → Prop
  | done {links here} : Walks fs room links here [] here
  | stay {links here rest loc} (pass : Passable fs room here (.stay :: rest))
      (next : Walks fs room links here rest loc) : Walks fs room links here (.stay :: rest) loc
  | up {links here rest loc} (pass : Passable fs room here (.up :: rest))
      (next : Walks fs room links here.tail rest loc) : Walks fs room links here (.up :: rest) loc
  | down {links here name rest loc entry} (pass : Passable fs room here (.down name :: rest))
      (asked : Askable name) (found : fs.entry? (name :: here) = some entry)
      (plain : ∀ target, entry ≠ .symlink target)
      (next : Walks fs room links (name :: here) rest loc) :
      Walks fs room links here (.down name :: rest) loc
  | follow {links here name rest loc target} (pass : Passable fs room here (.down name :: rest))
      (asked : Askable name) (found : fs.entry? (name :: here) = some (.symlink target))
      (next : Walks fs room links (if target.isAbsolute then [] else here)
        (target.steps ++ rest) loc) :
      Walks fs room (links + 1) here (.down name :: rest) loc

variable {fs : FileSystem} {room : Location → List Path.Step → Bool} {links : Nat}
  {here loc : Location} {steps : List Path.Step}

/-- How a walk goes on from a link, by the number of links it may still step into. -/
private def goOn (fs : FileSystem) (room : Location → List Path.Step → Bool) :
    Nat → Location → Path → List Path.Step → Except IoError Location
  | 0, _, _, _ => .error .tooManyLinks
  | links + 1, holder, target, rest =>
    fs.walk room links (if target.isAbsolute then [] else holder) (target.steps ++ rest)

private theorem walk_eq_walkUntilLink :
    fs.walk room links here steps = fs.walkUntilLink room (goOn fs room links) here steps := by
  cases links <;> rw [walk] <;> rfl

/-- A walk up to the first link is a derivation if what it hands to `follow` is. -/
private theorem walks_of_walkUntilLink
    {follow : Location → Path → List Path.Step → Except IoError Location}
    (hfollow : ∀ {here : Location} {name : FileName} {target : Path} {rest : List Path.Step},
      Passable fs room here (.down name :: rest) → Askable name →
      fs.entry? (name :: here) = some (.symlink target) → follow here target rest = .ok loc →
      Walks fs room links here (.down name :: rest) loc)
    (h : fs.walkUntilLink room follow here steps = .ok loc) :
    Walks fs room links here steps loc := by
  induction steps generalizing here with
  | nil =>
    obtain rfl := Except.ok.inj h
    exact .done
  | cons step rest ih =>
    unfold walkUntilLink at h
    split at h
    · exact absurd h (by simp)
    · next hroom =>
      split at h
      · next hdir =>
        -- the tests of the walk, one after the other, are the premises of the constructors
        have pass : Passable fs room here (step :: rest) := ⟨by simpa using hroom, hdir⟩
        cases step with
        | stay => exact .stay pass (ih h)
        | up => exact .up pass (ih h)
        | down name =>
          simp only at h
          split at h
          · exact absurd h (by simp)
          · next hnul =>
            split at h
            · exact absurd h (by simp)
            · next hlong =>
              have asked : Askable name := ⟨hnul, Nat.not_lt.mp hlong⟩
              split at h
              · exact absurd h (by simp)
              · next target hfound => exact hfollow pass asked hfound h
              · next entry hplain hfound =>
                exact .down pass asked hfound (fun t ht => hplain t (by rw [ht])) (ih h)
      · exact absurd h (by simp)
      · exact absurd h (by simp)

/-- **Walks are derivations.** A walk succeeds at a location exactly when there is a derivation that
ends there. -/
theorem walk_eq_ok_iff :
    fs.walk room links here steps = .ok loc ↔ Walks fs room links here steps loc := by
  constructor
  -- the induction is on the links that are left; up to the next link the lemma above takes over
  · intro h
    induction links generalizing here steps with
    | zero =>
      rw [walk_eq_walkUntilLink] at h
      exact walks_of_walkUntilLink (fun _ _ _ hfollow => absurd hfollow (by simp [goOn])) h
    | succ links ih =>
      rw [walk_eq_walkUntilLink] at h
      exact walks_of_walkUntilLink
        (fun pass asked found hfollow => .follow pass asked found (ih hfollow)) h
  -- every constructor supplies what the walk tests at this step
  · intro h
    induction h with
    | done => rw [walk_eq_walkUntilLink, walkUntilLink]
    | stay pass next ih =>
      rw [walk_eq_walkUntilLink] at ih ⊢
      rw [walkUntilLink, pass.hasRoom, pass.directory]
      exact ih
    | up pass next ih =>
      rw [walk_eq_walkUntilLink] at ih ⊢
      rw [walkUntilLink, pass.hasRoom, pass.directory]
      exact ih
    | @down links here name rest loc entry pass asked found plain next ih =>
      rw [walk_eq_walkUntilLink] at ih ⊢
      rw [walkUntilLink, pass.hasRoom, pass.directory]
      simp only [Bool.not_true, Bool.false_eq_true, if_false, if_neg asked.noNul,
        if_neg (Nat.not_lt.mpr asked.short), found]
      cases entry with
      | symlink target => exact absurd rfl (plain target)
      | directory | file => exact ih
    | follow pass asked found next ih =>
      rw [walk_eq_walkUntilLink, walkUntilLink, pass.hasRoom, pass.directory]
      simp only [Bool.not_true, Bool.false_eq_true, if_false, if_neg asked.noNul,
        if_neg (Nat.not_lt.mpr asked.short), found]
      exact ih

/-- A walk leads to the same place where there is room at least wherever there was. -/
theorem Walks.mono {room' : Location → List Path.Step → Bool}
    (hroom : ∀ here steps, room here steps = true → room' here steps = true)
    (h : Walks fs room links here steps loc) : Walks fs room' links here steps loc := by
  induction h with
  | done => exact .done
  | stay pass _ ih => exact .stay ⟨hroom _ _ pass.hasRoom, pass.directory⟩ ih
  | up pass _ ih => exact .up ⟨hroom _ _ pass.hasRoom, pass.directory⟩ ih
  | down pass asked found plain _ ih =>
    exact .down ⟨hroom _ _ pass.hasRoom, pass.directory⟩ asked found plain ih
  | follow pass asked found _ ih =>
    exact .follow ⟨hroom _ _ pass.hasRoom, pass.directory⟩ asked found ih

/-! ### Where walks end -/

/-- **Where walks end.** Something that is no link stands at the location, directories stand above
it, and a path can spell each of its names. -/
inductive Reached (fs : FileSystem) : Location → Prop
  | root : Reached fs []
  | down {name above entry} (reached : Reached fs above)
      (directory : fs.entry? above = some .directory) (spelled : (Path.Step.down name).Spelled)
      (asked : Askable name) (found : fs.entry? (name :: above) = some entry)
      (plain : ∀ target, entry ≠ .symlink target) : Reached fs (name :: above)

theorem Reached.tail (h : Reached fs loc) : Reached fs loc.tail := by
  cases h with
  | root => exact .root
  | down reached => exact reached

/-- A walk along spelled steps stays among the locations where walks end. -/
theorem Walks.reached (h : Walks fs room links here steps loc)
    (hsteps : ∀ s ∈ steps, s.Spelled) (hhere : Reached fs here) : Reached fs loc := by
  induction h with
  | done => exact hhere
  | stay _ _ ih => exact ih (fun s hs => hsteps s (List.mem_cons_of_mem _ hs)) hhere
  | up _ _ ih => exact ih (fun s hs => hsteps s (List.mem_cons_of_mem _ hs)) hhere.tail
  | down pass asked found plain _ ih =>
    refine ih (fun s hs => hsteps s (List.mem_cons_of_mem _ hs)) ?_
    exact .down hhere pass.directory (hsteps _ (List.mem_cons_self ..)) asked found plain
  | @follow links here name rest loc target _ _ _ _ ih =>
    -- the steps of the target are spelled by a path, those after the link are spelled already
    refine ih (fun s hs => ?_) ?_
    · rcases List.mem_append.mp hs with hs | hs
      · exact Path.spelled_of_mem_steps hs
      · exact hsteps s (List.mem_cons_of_mem _ hs)
    · split
      · exact .root
      · exact hhere

/-- A walk that asks for room for its path ends at a location whose canonical path is short. -/
theorem Walks.pathLength_lt (h : Walks fs roomForPath links here steps loc)
    (hhere : here.pathLength < pathLimit) : loc.pathLength < pathLimit := by
  induction h with
  | done => exact hhere
  | stay _ _ ih => exact ih hhere
  | @up links here rest loc _ _ ih =>
    refine ih (Nat.lt_of_le_of_lt ?_ hhere)
    -- going up drops a name, or nothing at the root
    cases here with
    | nil => exact Nat.le_refl _
    | cons name above => simp [Location.pathLength]
  | @down links here name rest loc entry pass _ _ _ _ ih =>
    refine ih ?_
    -- the room at this step was asked for with the name it goes down into
    have hroom := of_decide_eq_true pass.hasRoom
    simp only [Path.Step.nextNameLength] at hroom
    simp only [Location.pathLength]
    omega
  | @follow links here name rest loc target _ _ _ _ ih =>
    refine ih ?_
    split
    · simp [Location.pathLength, pathLimit]
    · exact hhere

end FileSystem

/-! ### Canonical paths -/

namespace Location

theorem pathLength_append (names above : Location) :
    pathLength (names ++ above) = pathLength names + pathLength above := by
  induction names with
  | nil => exact (Nat.zero_add _).symm
  | cons name names ih =>
    rw [List.cons_append, pathLength, pathLength, ih]
    exact (Nat.add_assoc _ _ _).symm

/-- The bytes of a canonical path may as well be counted from the root. -/
theorem pathLength_reverse (loc : Location) : pathLength loc.reverse = pathLength loc := by
  induction loc with
  | nil => rfl
  | cons name above ih =>
    rw [List.reverse_cons, pathLength_append, ih, pathLength, pathLength, pathLength, Nat.add_zero,
      Nat.add_comm]

theorem length_flatMap_slash (names : Location) :
    (names.flatMap (Path.slash :: ·)).length = pathLength names := by
  induction names with
  | nil => rfl
  | cons name names ih =>
    rw [List.flatMap_cons, List.length_append, ih, List.length_cons, pathLength]

/-- The canonical path has one byte for the root, else the bytes that are counted for its names. -/
theorem length_path (loc : Location) : loc.path.bytes.length = max 1 loc.pathLength := by
  cases loc with
  | nil => rfl
  | cons name above =>
    -- one name is enough for the one byte
    rw [Nat.max_eq_right (by rw [pathLength]; omega), ← pathLength_reverse]
    exact length_flatMap_slash _

theorem isAbsolute_path (loc : Location) : loc.path.isAbsolute = true := by
  cases loc with
  | nil => rfl
  | cons name above =>
    obtain ⟨first, others, h⟩ := List.exists_cons_of_ne_nil
      (List.reverse_ne_nil_iff.mpr (List.cons_ne_nil name above))
    simp [path, Path.isAbsolute, h]

/-- Names, each after a slash, are an empty segment and the names with slashes between them. -/
private theorem flatMap_slash_eq_intercalate (names : List FileName) :
    names.flatMap (Path.slash :: ·) = [Path.slash].intercalate ([] :: names) := by
  induction names with
  | nil => rfl
  | cons n names ih =>
    rw [List.flatMap_cons, ih]
    cases names <;> simp [List.intercalate]

/-- The canonical path below the root spells the names of its location, one after the other. -/
theorem steps_path {loc : Location} (hloc : loc ≠ [])
    (hspelled : ∀ name ∈ loc, (Path.Step.down name).Spelled) :
    loc.path.steps = .stay :: loc.reverse.map .down := by
  have hfree : ∀ l ∈ [] :: loc.reverse, Path.slash ∉ l := by
    intro l hl
    rcases List.mem_cons.mp hl with rfl | hl
    · exact List.not_mem_nil
    · exact (hspelled l (List.mem_reverse.mp hl)).1
  have hstep : ∀ l ∈ loc.reverse, Path.Step.ofSegment l = .down l :=
    fun l hl => (hspelled l (List.mem_reverse.mp hl)).2
  have hbytes : loc.path.bytes = loc.reverse.flatMap (Path.slash :: ·) := by
    obtain ⟨name, above, rfl⟩ := List.exists_cons_of_ne_nil hloc
    rfl
  -- no piece holds a slash, so the cut at slashes gives the pieces back
  rw [Path.steps, hbytes, flatMap_slash_eq_intercalate,
    List.splitOn_intercalate _ hfree (List.cons_ne_nil _ _), List.map_cons,
    List.map_congr_left hstep]
  rfl

end Location

namespace FileSystem

variable {fs : FileSystem} {room : Location → List Path.Step → Bool} {links : Nat}
  {loc : Location}

theorem Reached.spelled (h : Reached fs loc) : ∀ name ∈ loc, (Path.Step.down name).Spelled := by
  induction h with
  | root => exact fun name hname => absurd hname List.not_mem_nil
  | down _ _ spelled _ _ _ ih =>
    intro name hname
    rcases List.mem_cons.mp hname with rfl | hname
    · exact spelled
    · exact ih name hname

theorem Reached.askable (h : Reached fs loc) : ∀ name ∈ loc, Askable name := by
  induction h with
  | root => exact fun name hname => absurd hname List.not_mem_nil
  | down _ _ _ asked _ _ ih =>
    intro name hname
    rcases List.mem_cons.mp hname with rfl | hname
    · exact asked
    · exact ih name hname

theorem Reached.noNul_path (h : Reached fs loc) : 0 ∉ loc.path.bytes := by
  cases loc with
  | nil => decide
  | cons name above =>
    intro hmem
    obtain ⟨n, hn, hzero⟩ := List.mem_flatMap.mp hmem
    rcases List.mem_cons.mp hzero with hzero | hzero
    · exact absurd hzero (by decide)
    · exact (h.askable n (List.mem_reverse.mp hn)).noNul hzero

/-- The names of a location where a walk ends lead back to it from the root, and on from there. -/
theorem Reached.walks_down {rest : List Path.Step} {there : Location} (h : Reached fs loc)
    (hroom : ∀ here steps, here.pathLength + 1 + Path.Step.nextNameLength steps ≤ loc.pathLength →
      room here steps = true)
    (next : Walks fs room links loc rest there) :
    Walks fs room links [] (loc.reverse.map .down ++ rest) there := by
  induction h generalizing rest with
  | root => exact next
  | @down name above entry _ directory _ asked found plain ih =>
    rw [Location.pathLength] at hroom
    rw [List.reverse_cons, List.map_append, List.append_assoc]
    -- the walk to the location above goes on with the last name, and then with the rest
    refine ih (fun here steps hfit => hroom here steps (by omega)) ?_
    refine .down ⟨hroom above _ ?_, directory⟩ asked found plain next
    simp only [Path.Step.nextNameLength]
    omega

/-- **Canonical paths lead back.** The canonical path of a location where a walk ends leads to that
location, if there is room for it. -/
theorem Reached.locationOf_path (h : Reached fs loc)
    (hroom : ∀ here steps,
      here.pathLength + 1 + Path.Step.nextNameLength steps ≤ loc.path.bytes.length →
      room here steps = true) :
    fs.locationOf room loc.path = .ok loc := by
  have hne : loc.path.bytes ≠ [] := by
    intro hnil
    have := loc.length_path
    rw [hnil] at this
    simp only [List.length_nil] at this
    omega
  unfold locationOf stepsFromRoot
  rw [if_neg h.noNul_path, if_neg hne, if_pos loc.isAbsolute_path, walk_eq_ok_iff]
  rw [Location.length_path] at hroom
  by_cases hloc : loc = []
  · -- the path of the root is one slash, between two empty segments
    subst hloc
    have pass : ∀ steps, Path.Step.nextNameLength steps = 0 → Passable fs room [] steps :=
      fun steps hzero => ⟨hroom [] steps (by rw [hzero]; decide), rfl⟩
    exact .stay (pass _ rfl) (.stay (pass _ rfl) .done)
  · rw [Location.steps_path hloc h.spelled]
    have hwalk : Walks fs room maxLinks [] (loc.reverse.map .down ++ []) loc :=
      h.walks_down
        (fun here steps hfit => hroom here steps (Nat.le_trans hfit (Nat.le_max_right _ _))) .done
    rw [List.append_nil] at hwalk
    refine .stay ⟨hroom [] _ (Nat.le_trans ?_ (Nat.le_max_right _ _)), rfl⟩ hwalk
    -- before the first name there is room for that name
    obtain ⟨first, others, hfirst⟩ :=
      List.exists_cons_of_ne_nil (List.reverse_ne_nil_iff.mpr hloc)
    rw [← Location.pathLength_reverse loc, hfirst]
    simp only [Location.pathLength, Path.Step.nextNameLength, List.map_cons]
    omega

/-! ### Resolving -/

/-- Resolving a path is a walk from the root. -/
theorem locationOf_eq_ok_iff {p : Path} :
    fs.locationOf room p = .ok loc ↔
      0 ∉ p.bytes ∧ p.bytes ≠ [] ∧ Walks fs room maxLinks [] (fs.stepsFromRoot p) loc := by
  unfold locationOf
  split
  · next hnul => exact ⟨fun h => absurd h (by simp), fun h => absurd hnul h.1⟩
  · next hnul =>
    split
    · next hempty => exact ⟨fun h => absurd h (by simp), fun h => absurd hempty h.2.1⟩
    · next hempty =>
      rw [walk_eq_ok_iff]
      exact ⟨fun h => ⟨hnul, hempty, h⟩, fun h => h.2.2⟩

theorem spelled_of_mem_stepsFromRoot {p : Path} {s : Path.Step} (h : s ∈ fs.stepsFromRoot p) :
    s.Spelled := by
  unfold stepsFromRoot at h
  split at h
  · exact Path.spelled_of_mem_steps h
  · rcases List.mem_append.mp h with h | h
    · exact Path.spelled_of_mem_steps h
    · exact Path.spelled_of_mem_steps h

theorem reached_of_locationOf {p : Path} (h : fs.locationOf room p = .ok loc) : Reached fs loc := by
  obtain ⟨-, -, hwalk⟩ := locationOf_eq_ok_iff.mp h
  exact hwalk.reached (fun s hs => spelled_of_mem_stepsFromRoot hs) .root

/-- A path below the limit on its length is read through at the location it resolves to. -/
theorem access_eq_resolve {p : Path} (h : p.bytes.length < pathLimit) :
    fs.access p = fs.resolve p := by
  unfold access
  rw [if_neg (Nat.not_le.mpr h)]
  split
  · next hnul =>
    unfold resolve locationOf
    rw [if_pos hnul]
  · rfl

/-- What a path is read through to is what it resolves to. -/
theorem resolve_of_access {p : Path} (h : fs.access p = .ok loc) : fs.resolve p = .ok loc := by
  unfold access at h
  split at h
  · exact absurd h (by simp)
  · split at h
    · exact absurd h (by simp)
    · exact h

/-- The canonical path of a path is that of the location which the path resolves to, and it is
shorter than the limit: there was room for it on the way. -/
private theorem exists_reached_of_canonicalize {p canonical : Path}
    (h : fs.canonicalize p = .ok canonical) :
    ∃ loc, fs.resolve p = .ok loc ∧ Reached fs loc ∧ canonical = loc.path ∧
      canonical.bytes.length < pathLimit := by
  unfold canonicalize at h
  cases hloc : fs.locationOf roomForPath p with
  | error e =>
    rw [hloc] at h
    exact absurd h (by simp [Except.map])
  | ok loc =>
    rw [hloc] at h
    obtain rfl := Except.ok.inj h
    obtain ⟨hnul, hempty, hwalk⟩ := locationOf_eq_ok_iff.mp hloc
    refine ⟨loc, ?_, reached_of_locationOf hloc, rfl, ?_⟩
    -- resolving asks for no room at all
    · exact locationOf_eq_ok_iff.mpr ⟨hnul, hempty, hwalk.mono fun _ _ _ => rfl⟩
    · rw [Location.length_path]
      exact Nat.max_lt.mpr ⟨by decide, hwalk.pathLength_lt (by decide)⟩

/-- **Reading through canonical paths.** The canonical path of a path is that of the location which
the path resolves to, and reading through it finds that location. -/
theorem exists_location_of_canonicalize {p canonical : Path}
    (h : fs.canonicalize p = .ok canonical) :
    ∃ loc, fs.resolve p = .ok loc ∧ canonical = loc.path ∧ fs.access canonical = .ok loc := by
  obtain ⟨loc, hresolve, hreached, rfl, hshort⟩ := exists_reached_of_canonicalize h
  refine ⟨loc, hresolve, rfl, ?_⟩
  rw [access_eq_resolve hshort]
  exact hreached.locationOf_path fun _ _ _ => rfl

/-- A canonical path is its own canonical path. -/
theorem canonicalize_canonical {p canonical : Path} (h : fs.canonicalize p = .ok canonical) :
    fs.canonicalize canonical = .ok canonical := by
  obtain ⟨loc, -, hreached, rfl, hshort⟩ := exists_reached_of_canonicalize h
  have hloc : fs.locationOf roomForPath loc.path = .ok loc :=
    hreached.locationOf_path fun here steps hfit =>
      decide_eq_true (Nat.lt_of_le_of_lt hfit hshort)
  rw [canonicalize, hloc]
  rfl

end FileSystem

end GrammarCheck
