import GrammarCheck.Proofs.FileName

/-!
# What a path ends in

The file name of a path is found by taking the path apart into its steps and looking for the last
one that moves. Said on the bytes alone, it is the last segment of the path, once the slashes at the
end are dropped, each with or without a single dot after it. It must be the name of an entry: not
empty, and not a single dot or two.

* `Path.EndsIn` — a path ends in a file name, by the bytes of both.
* `Path.lastMove?_append_slash` — what the segment at the end of a path adds to its moves.
* `Path.fileName?_eq_some_iff` — the file name of a path is the one that it ends in.
-/

namespace GrammarCheck.Path

/-! ### Names of entries -/

/-- The name of an entry holds no slash, and it is neither empty nor made of dots alone, of which
only one or two in a row mean something else. -/
structure IsEntryName (name : FileName) : Prop where
  noSlash : slash ∉ name
  ne_nil : name ≠ []
  ne_dot : name ≠ [dot]
  ne_dots : name ≠ [dot, dot]

/-- The segments that ask to stay are the empty one and the single dot. -/
theorem Step.ofSegment_eq_stay_iff {segment : List UInt8} :
    Step.ofSegment segment = .stay ↔ segment = [] ∨ segment = [dot] := by
  unfold Step.ofSegment
  split
  · next h => exact iff_of_true rfl h
  · next h =>
    refine iff_of_false ?_ h
    split <;> exact nofun

/-- The segments that go down are all but those that are empty or made of one or two dots. -/
theorem Step.ofSegment_eq_down_iff {segment name : List UInt8} :
    Step.ofSegment segment = .down name ↔
      segment = name ∧ name ≠ [] ∧ name ≠ [dot] ∧ name ≠ [dot, dot] := by
  unfold Step.ofSegment
  split
  · next hstay =>
    refine iff_of_false nofun ?_
    rintro ⟨rfl, hnil, hdot, -⟩
    exact hstay.elim hnil hdot
  · next hstay =>
    split
    · next hup =>
      refine iff_of_false nofun ?_
      rintro ⟨rfl, -, -, hdots⟩
      exact hdots hup
    · next hup =>
      rw [Step.down.injEq]
      refine ⟨?_, And.left⟩
      rintro rfl
      exact ⟨rfl, fun h => hstay (Or.inl h), fun h => hstay (Or.inr h), hup⟩

/-- The names of entries are those that can be spelled in a path. -/
theorem IsEntryName.spelled {name : FileName} (h : IsEntryName name) : (Step.down name).Spelled :=
  ⟨h.noSlash, Step.ofSegment_eq_down_iff.mpr ⟨rfl, h.ne_nil, h.ne_dot, h.ne_dots⟩⟩

/-! ### Ends of paths -/

/-- **The end of a path.** The bytes are those of a path that ends in the file name: they are the
file name itself or have it after their last slash, but for any number of slashes at the end, each
of which may be followed by a single dot. -/
inductive EndsIn : List UInt8 → FileName → Prop
  | alone {file} (entry : IsEntryName file) : EndsIn file file
  | after {file} (above : List UInt8) (entry : IsEntryName file) :
      EndsIn (above ++ slash :: file) file
  | slash {bytes file} (h : EndsIn bytes file) : EndsIn (bytes ++ [slash]) file
  | slashDot {bytes file} (h : EndsIn bytes file) : EndsIn (bytes ++ [slash, dot]) file

variable {bytes above last : List UInt8} {file : FileName}

/-- A path ends in the name of an entry. -/
theorem EndsIn.entry (h : EndsIn bytes file) : IsEntryName file := by
  induction h with
  | alone entry => exact entry
  | after _ entry => exact entry
  | slash _ ih => exact ih
  | slashDot _ ih => exact ih

/-! ### The last move -/

/-- A path without a slash has the one move that it spells, if it spells one. -/
theorem lastMove?_of_notMem (h : slash ∉ bytes) :
    lastMove? ⟨bytes⟩ =
      if Step.ofSegment bytes = .stay then none else some (Step.ofSegment bytes) := by
  have hsteps : steps ⟨bytes⟩ = [Step.ofSegment bytes] := by
    rw [steps, List.splitOn_eq_singleton h, List.map_singleton]
  rw [lastMove?, hsteps]
  by_cases hstay : Step.ofSegment bytes = .stay <;> simp [hstay]

/-- **The segment at the end.** It is the last move of the path, unless it asks to stay: then the
path has the last move of what precedes the segment. -/
theorem lastMove?_append_slash (h : slash ∉ last) :
    lastMove? ⟨above ++ slash :: last⟩ =
      if Step.ofSegment last = .stay then lastMove? ⟨above⟩ else some (Step.ofSegment last) := by
  have hlast : steps ⟨last⟩ = [Step.ofSegment last] := by
    rw [steps, List.splitOn_eq_singleton h, List.map_singleton]
  have hsteps : steps ⟨above ++ slash :: last⟩ = steps ⟨above⟩ ++ [Step.ofSegment last] := by
    rw [steps_append_slash, hlast]
  rw [lastMove?, lastMove?, hsteps, List.filter_append]
  by_cases hstay : Step.ofSegment last = .stay <;> simp [hstay]

/-- A file name is the last move of a path. -/
theorem fileName?_eq_some_iff_lastMove? {p : Path} :
    p.fileName? = some file ↔ p.lastMove? = some (.down file) := by
  unfold fileName?
  split
  · next name hmove => rw [hmove, Option.some.injEq, Option.some.injEq, Step.down.injEq]
  · next hother => exact iff_of_false nofun (hother file)

/-- What a path ends in is its last move: what is dropped at the end asks to stay. -/
theorem EndsIn.lastMove? (h : EndsIn bytes file) : lastMove? ⟨bytes⟩ = some (.down file) := by
  have hnotStay : Step.down file ≠ .stay := nofun
  induction h with
  | alone entry => rw [lastMove?_of_notMem entry.noSlash, entry.spelled.2, if_neg hnotStay]
  | after above entry => rw [lastMove?_append_slash entry.noSlash, entry.spelled.2, if_neg hnotStay]
  | slash _ ih =>
    have hempty : Step.ofSegment [] = .stay := rfl
    rw [lastMove?_append_slash List.not_mem_nil, if_pos hempty]
    exact ih hnotStay
  | slashDot _ ih =>
    have hdot : Step.ofSegment [dot] = .stay := rfl
    rw [lastMove?_append_slash (by decide), if_pos hdot]
    exact ih hnotStay

/-- Bytes without a slash stand alone, and all others are cut at their last slash. -/
theorem notMem_or_exists_append_slash (bytes : List UInt8) :
    slash ∉ bytes ∨ ∃ above last, bytes = above ++ slash :: last ∧ slash ∉ last := by
  by_cases h : slash ∈ bytes
  · -- the last slash is the first one from the other end
    obtain ⟨last, above, hcut, hlast⟩ := List.eq_append_cons_of_mem (List.mem_reverse.mpr h)
    refine Or.inr ⟨above.reverse, last.reverse, ?_, by simpa using hlast⟩
    have hbytes : bytes = (last ++ slash :: above).reverse := by
      rw [← hcut, List.reverse_reverse]
    rw [hbytes, List.reverse_append, List.reverse_cons, List.append_assoc, List.singleton_append]
  · exact Or.inl h

/-- A segment that goes down into a name is the name of an entry. -/
theorem isEntryName_of_ofSegment (h : slash ∉ last) (hdown : Step.ofSegment last = .down file) :
    last = file ∧ IsEntryName file := by
  obtain ⟨rfl, hnil, hdot, hdots⟩ := Step.ofSegment_eq_down_iff.mp hdown
  exact ⟨rfl, ⟨h, hnil, hdot, hdots⟩⟩

/-- A path whose last move goes down into a name ends in that name. -/
theorem endsIn_of_lastMove? (h : lastMove? ⟨bytes⟩ = some (.down file)) : EndsIn bytes file := by
  -- the path loses its last segment with each step, so the induction is on its length
  induction hlength : bytes.length using Nat.strong_induction_on generalizing bytes with
  | _ n ih =>
    rcases notMem_or_exists_append_slash bytes with hslash | ⟨above, last, rfl, hslash⟩
    · -- there is one segment, and it is the name
      rw [lastMove?_of_notMem hslash] at h
      split at h
      · exact absurd h nofun
      · obtain ⟨rfl, entry⟩ := isEntryName_of_ofSegment hslash (Option.some.inj h)
        exact .alone entry
    · rw [lastMove?_append_slash hslash] at h
      split at h
      · next hstay =>
        -- the last segment asks to stay, and the name is looked for before it
        have habove : EndsIn above file := by
          refine ih above.length ?_ h rfl
          rw [← hlength, List.length_append, List.length_cons]
          omega
        rcases Step.ofSegment_eq_stay_iff.mp hstay with rfl | rfl
        · exact .slash habove
        · exact .slashDot habove
      · obtain ⟨rfl, entry⟩ := isEntryName_of_ofSegment hslash (Option.some.inj h)
        exact .after above entry

/-- **File names.** The file name of a path is the one that its bytes end in. -/
theorem fileName?_eq_some_iff {p : Path} : p.fileName? = some file ↔ EndsIn p.bytes file :=
  fileName?_eq_some_iff_lastMove?.trans ⟨endsIn_of_lastMove?, EndsIn.lastMove?⟩

end GrammarCheck.Path
