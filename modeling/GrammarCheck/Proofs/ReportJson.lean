import GrammarCheck.Proofs.JsonText
import GrammarCheck.Report
import Mathlib.Data.Option.Basic

/-!
# The JSON of a report loses nothing

Every field of a case is a member of its object under a key of its own, or is left out if the case
does not have it. So the fields can be looked up in the object by their keys, and an absent one is
found to be absent. As the text of a value gives the value, the text of a report gives the report.

* `Json.get?` — the member of an object under a key.
* `ParseSummary.json_injective`, `Case.json_injective`, `Report.json_injective` — what is written of
  a summary, of a case and of a report.
* `Report.pretty_json_eq_iff` — reports with the same text are the same.
-/

namespace GrammarCheck

namespace Json

/-- The member of an object under a key. -/
def get? (key : String) : Json → Option Json
  | object members => members.lookup key
  | _ => none

variable (key key' : String)

@[simp] theorem get?_nil : (object []).get? key = none := rfl

@[simp] theorem get?_cons (j : Json) (members : List (String × Json)) :
    (object ((key', j) :: members)).get? key =
      if key = key' then some j else (object members).get? key := by
  by_cases h : key = key'
  · simp [get?, h]
  · have hne : (key == key') = false := by simpa using h
    simp only [get?, List.lookup_cons, hne, if_neg h]

@[simp] theorem get?_append (members members' : List (String × Json)) :
    (object (members ++ members')).get? key =
      ((object members).get? key).or ((object members').get? key) :=
  List.lookup_append

/-- A member that is left out when it has no value is found under its key with its value, or not at
all. -/
@[simp] theorem get?_member? {α : Type} (value : α → Json) (v? : Option α) :
    (object (member? key' value v?)).get? key = if key = key' then v?.map value else none := by
  cases v? <;> simp [member?]

theorem string_injective : Function.Injective string := fun _ _ => string.inj

theorem number_injective : Function.Injective number := fun _ _ => number.inj

end Json

theorem Status.word_injective : Function.Injective Status.word := by
  intro s t h
  cases s <;> cases t <;> simp_all [word]

theorem ErrorPosition.json_injective : Function.Injective ErrorPosition.json := by
  rintro ⟨line, column⟩ ⟨line', column'⟩ h
  simpa [json] using h

/-- The summary of a sample can be looked up in its object, with or without the place of an
error. -/
theorem ParseSummary.json_injective : Function.Injective ParseSummary.json := by
  intro s t h
  have hget : ∀ key, s.json.get? key = t.json.get? key := fun key => congrArg _ h
  have hkind : s.rootKind = t.rootKind := by simpa [json] using hget "rootKind"
  have herror : s.hasError = t.hasError := by simpa [json] using hget "hasError"
  have hfirst : s.firstError? = t.firstError? :=
    Option.map_injective ErrorPosition.json_injective (by simpa [json] using hget "firstError")
  have hbytes : s.bytes = t.bytes := by simpa [json] using hget "bytes"
  obtain ⟨_, _, _, _⟩ := s
  obtain ⟨_, _, _, _⟩ := t
  simp_all

/-- A case can be looked up in its object, and what it does not have is not found there. -/
theorem Case.json_injective : Function.Injective Case.json := by
  intro c d h
  have hget : ∀ key, c.json.get? key = d.json.get? key := fun key => congrArg _ h
  have hname : c.name = d.name := by simpa [json] using hget "name"
  have hstatus : c.status = d.status :=
    Status.word_injective (by simpa [json] using hget "status")
  have hmessage : c.message? = d.message? :=
    Option.map_injective Json.string_injective (by simpa [json] using hget "message")
  have hdetail : c.detail? = d.detail? :=
    Option.map_injective Json.string_injective (by simpa [json] using hget "detail")
  have hversion : c.abiVersion? = d.abiVersion? :=
    Option.map_injective Json.number_injective (by simpa [json] using hget "abiVersion")
  have hcount : c.nodeKindCount? = d.nodeKindCount? :=
    Option.map_injective Json.number_injective (by simpa [json] using hget "nodeKindCount")
  have hartifact : c.artifact? = d.artifact? :=
    Option.map_injective Json.string_injective (by simpa [json] using hget "artifact")
  have hsample : c.sample? = d.sample? :=
    Option.map_injective ParseSummary.json_injective (by simpa [json] using hget "sample")
  obtain ⟨_, _, _, _, _, _, _, _⟩ := c
  obtain ⟨_, _, _, _, _, _, _, _⟩ := d
  simp_all

theorem Report.json_injective : Function.Injective Report.json := by
  rintro ⟨passed, failed, cases⟩ ⟨passed', failed', cases'⟩ h
  simp only [json, Json.object.injEq, List.cons.injEq, Prod.mk.injEq, Json.number.injEq,
    Json.array.injEq, true_and, and_true] at h
  obtain ⟨rfl, rfl, hcases⟩ := h
  rw [List.map_injective_iff.mpr Case.json_injective hcases]

/-- Reports with the same text are the same. -/
theorem Report.pretty_json_inj {r s : Report} : r.json.pretty = s.json.pretty ↔ r = s := by
  rw [Json.pretty_inj, json_injective.eq_iff]

/-- **Nothing is lost.** Reports with the same JSON text are the same, in every field of every case;
in particular, whatever cases are pushed to the empty report one after the other can be told from
the text, each of them and all their fields, those that are absent included. -/
theorem Report.pretty_json_eq_iff :
    (∀ r s : Report, r.json.pretty = s.json.pretty ↔ r = s) ∧
    ∀ cs ds : List Case,
      (empty.pushAll cs).json.pretty = (empty.pushAll ds).json.pretty ↔ cs = ds := by
  refine ⟨fun _ _ => pretty_json_inj, fun cs ds => ?_⟩
  rw [pretty_json_inj]
  constructor
  · intro h
    rw [← cases_ofCases cs, ← cases_ofCases ds, ofCases, ofCases, h]
  · rintro rfl
    rfl

end GrammarCheck
