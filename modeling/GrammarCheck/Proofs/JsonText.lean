import GrammarCheck.Json
import Mathlib.Data.List.Basic

/-!
# Written JSON can be read back

The text of a JSON value determines the value. Texts are written one after the other, so what has to
be said of each piece is more: it can be told from whatever follows it. A string ends at the first
quote that is not escaped, a number at the first character that is no digit, and a list at the
bracket that closes it; what follows a value is a comma, the start of a line, or nothing.

* `Legible` — a written value can be told, and so can what follows it.
* `Json.legible_escaped`, `Json.legible_quoted`, `Text.legible_decimal` — strings and numbers.
* `Json.legible_enclosed` — lists between brackets, with entries on lines of their own.
* `Json.pretty_inj` — values with the same text are the same.
-/

namespace GrammarCheck

/-- A value is legible as `write` writes it, in front of a rest that satisfies `ends`: no other
value and no other rest of this kind make up the same text. -/
def Legible {α : Type} (ends : List Char → Prop) (write : α → List Char) (a : α) : Prop :=
  ∀ b rest rest', ends rest → ends rest' → write a ++ rest = write b ++ rest' → a = b ∧ rest = rest'

/-- Anything at all. -/
def Anything (_ : List Char) : Prop := True

/-! ### Numbers -/

/-- The text does not go on with a digit. -/
def NoDigit (rest : List Char) : Prop :=
  ∀ c ∈ rest.head?, c.isDigit = false

/-- The digits of a number are all the digits that the text begins with. -/
theorem Text.takeWhile_decimal_append (n : Nat) {rest : List Char} (hrest : NoDigit rest) :
    ((decimal n).toList ++ rest).takeWhile Char.isDigit = Nat.toDigits 10 n := by
  have hdigits : ∀ c ∈ Nat.toDigits 10 n, c.isDigit = true :=
    fun _ => Nat.isDigit_of_mem_toDigits (by decide) (by decide)
  have hnone : rest.takeWhile Char.isDigit = [] := by
    cases rest with
    | nil => rfl
    | cons c rest => rw [List.takeWhile_cons_of_neg (by simp [hrest c rfl])]
  rw [decimal, String.toList_ofList, List.takeWhile_append_of_pos hdigits, hnone, List.append_nil]

theorem Text.legible_decimal (n : Nat) : Legible NoDigit (fun n => (decimal n).toList) n := by
  intro m rest rest' hrest hrest' h
  have hdigits : Nat.toDigits 10 n = Nat.toDigits 10 m := by
    rw [← takeWhile_decimal_append n hrest, h, takeWhile_decimal_append m hrest']
  obtain rfl : n = m := by
    rw [← Nat.ofDigitChars_ten_toDigits (n := n), hdigits, Nat.ofDigitChars_ten_toDigits]
  exact ⟨rfl, List.append_cancel_left h⟩

namespace Json

/-! ### Strings -/

/-- The characters that are escaped. -/
def escaped : List Char :=
  '"' :: '\\' :: (List.range 0x20).map Char.ofNat

theorem mem_escaped_of_lt {c : Char} (h : c.toNat < 0x20) : c ∈ escaped := by
  have hmem : Char.ofNat c.toNat ∈ escaped := by
    refine List.mem_cons_of_mem _ (List.mem_cons_of_mem _ (List.mem_map_of_mem ?_))
    exact List.mem_range.mpr h
  rwa [Char.ofNat_toNat] at hmem

theorem escapeChar_of_notMem {c : Char} (h : c ∉ escaped) : escapeChar c = [c] := by
  have hne : ∀ d ∈ escaped, c ≠ d := fun d hd heq => h (heq ▸ hd)
  unfold escapeChar
  rw [if_neg (hne '"' (by decide)), if_neg (hne '\\' (by decide)), if_neg (hne '\x08' (by decide)),
    if_neg (hne '\x0c' (by decide)), if_neg (hne '\n' (by decide)), if_neg (hne '\r' (by decide)),
    if_neg (hne '\t' (by decide)), if_neg fun hlt => h (mem_escaped_of_lt hlt)]

/-- An escape begins with the backslash, which stands for nothing else. -/
theorem head?_escapeChar_of_mem {c : Char} (hc : c ∈ escaped) :
    (escapeChar c).head? = some '\\' := by
  have hall : (escaped.all fun c => (escapeChar c).head? == some '\\') = true := by
    decide +kernel
  exact eq_of_beq (List.all_eq_true.mp hall c hc)

/-- No escape is the beginning of another one. -/
theorem eq_of_escapeChar_isPrefix {c d : Char} (hc : c ∈ escaped) (hd : d ∈ escaped)
    (h : escapeChar c <+: escapeChar d) : c = d := by
  have hall : (escaped.all fun c => escaped.all fun d =>
      !(escapeChar c).isPrefixOf (escapeChar d) || c == d) = true := by
    decide +kernel
  have hcd := List.all_eq_true.mp (List.all_eq_true.mp hall c hc) d hd
  rw [List.isPrefixOf_iff_prefix.mpr h, Bool.not_true, Bool.false_or] at hcd
  exact eq_of_beq hcd

/-- The first character of a written character is the character itself, or a backslash. -/
theorem head?_escapeChar_append (c : Char) (rest : List Char) :
    (escapeChar c ++ rest).head? = some (if c ∈ escaped then '\\' else c) := by
  split
  · next h => rw [List.head?_append, head?_escapeChar_of_mem h, Option.some_or]
  · next h => rw [escapeChar_of_notMem h, List.singleton_append, List.head?_cons]

theorem legible_escapeChar (c : Char) : Legible Anything escapeChar c := by
  intro d rest rest' _ _ h
  -- both are escapes, or neither is
  have hhead : (if c ∈ escaped then '\\' else c) = if d ∈ escaped then '\\' else d := by
    rw [← Option.some_inj, ← head?_escapeChar_append c rest, h, head?_escapeChar_append]
  obtain rfl : c = d := by
    by_cases hc : c ∈ escaped
    · have hd : d ∈ escaped := by
        by_contra hd
        rw [if_pos hc, if_neg hd] at hhead
        exact hd (hhead ▸ by decide)
      rcases List.prefix_or_prefix_of_prefix ⟨rest, h⟩ (List.prefix_append _ rest') with hle | hle
      · exact eq_of_escapeChar_isPrefix hc hd hle
      · exact (eq_of_escapeChar_isPrefix hd hc hle).symm
    · by_cases hd : d ∈ escaped
      · rw [if_neg hc, if_pos hd] at hhead
        exact absurd (hhead ▸ by decide) hc
      · rwa [if_neg hc, if_neg hd] at hhead
  exact ⟨rfl, List.append_cancel_left h⟩

/-- No written character begins with the quote that ends a string. -/
theorem escapeChar_append_ne_quote (c : Char) (rest rest' : List Char) :
    escapeChar c ++ rest ≠ '"' :: rest' := by
  intro h
  have hhead := head?_escapeChar_append c rest
  rw [h, List.head?_cons, Option.some_inj] at hhead
  split at hhead
  · exact absurd hhead (by decide)
  · next hc => exact hc (hhead ▸ by decide)

/-- A string ends at the first quote that is not part of an escape. -/
theorem legible_escaped (cs : List Char) :
    Legible Anything (fun cs => cs.flatMap escapeChar ++ ['"']) cs := by
  induction cs with
  | nil =>
    intro ds rest rest' _ _ h
    cases ds with
    | nil => exact ⟨rfl, List.append_cancel_left h⟩
    | cons d ds =>
      simp only [List.flatMap_cons, List.append_assoc] at h
      exact (escapeChar_append_ne_quote _ _ _ h.symm).elim
  | cons c cs ih =>
    intro ds rest rest' _ _ h
    cases ds with
    | nil =>
      simp only [List.flatMap_cons, List.append_assoc] at h
      exact (escapeChar_append_ne_quote _ _ _ h).elim
    | cons d ds =>
      simp only [List.flatMap_cons, List.append_assoc] at h
      obtain ⟨hcd, htail⟩ := legible_escapeChar c d _ _ trivial trivial h
      obtain ⟨hcs, hrest⟩ := ih ds rest rest' trivial trivial (by simpa using htail)
      exact ⟨by rw [hcd, hcs], hrest⟩

theorem legible_quoted (s : String) : Legible Anything (fun s => (quoted s).toList) s := by
  intro t rest rest' _ _ h
  simp only [quoted, String.toList_ofList, List.append_assoc] at h
  have hbody := List.append_cancel_left h
  obtain ⟨hst, hrest⟩ := legible_escaped s.toList t.toList rest rest' trivial trivial
    (by simpa using hbody)
  exact ⟨String.toList_inj.mp hst, hrest⟩

/-! ### Lists between brackets -/

/-- What may follow a value: the next entry after a comma, a new line, or nothing. -/
def Closes (rest : List Char) : Prop :=
  ∀ c ∈ rest.head?, c = ',' ∨ c = '\n'

theorem noDigit_of_closes {rest : List Char} (h : Closes rest) : NoDigit rest := by
  intro c hc
  rcases h c hc with rfl | rfl <;> rfl

theorem closes_of_head? {rest : List Char} (h : rest.head? = some '\n') : Closes rest := by
  intro c hc
  exact Or.inr (Option.some.inj (hc.symm.trans h))

theorem closes_comma (rest : List Char) : Closes (',' :: rest) := by
  intro c hc
  exact Or.inl (Option.some.inj hc).symm

section Lists

variable {α : Type} {write : α → List Char}

/-- Entries between commas are legible in front of a new line, if each of them is. -/
theorem intercalate_append_inj {as : List α} (hwrite : ∀ a ∈ as, Legible Closes write a)
    {bs : List α} {rest rest' : List Char} (has : as ≠ []) (hbs : bs ≠ [])
    (hrest : rest.head? = some '\n') (hrest' : rest'.head? = some '\n')
    (h : [','].intercalate (as.map write) ++ rest = [','].intercalate (bs.map write) ++ rest') :
    as = bs ∧ rest = rest' := by
  induction as generalizing bs with
  | nil => exact absurd rfl has
  | cons a as ih =>
    obtain ⟨b, bs, rfl⟩ := List.exists_cons_of_ne_nil hbs
    have hhead := hwrite a (List.mem_cons_self ..)
    cases as with
    | nil =>
      cases bs with
      | nil =>
        obtain ⟨rfl, rfl⟩ := hhead b rest rest' (closes_of_head? hrest) (closes_of_head? hrest')
          (by simpa using h)
        exact ⟨rfl, rfl⟩
      | cons b' bs =>
        -- the second list would go on with a comma where the first has ended
        obtain ⟨-, rfl⟩ := hhead b rest _ (closes_of_head? hrest) (closes_comma _)
          (by simpa using h)
        exact absurd hrest (by simp)
    | cons a' as =>
      cases bs with
      | nil =>
        obtain ⟨-, heq⟩ := hhead b _ rest' (closes_comma _) (closes_of_head? hrest')
          (by simpa using h)
        exact absurd (heq ▸ hrest') (by simp)
      | cons b' bs =>
        obtain ⟨rfl, heq⟩ := hhead b _ _ (closes_comma _) (closes_comma _) (by simpa using h)
        obtain ⟨htail, rfl⟩ := ih (fun c hc => hwrite c (List.mem_cons_of_mem _ hc))
          (List.cons_ne_nil _ _) (List.cons_ne_nil _ _) (List.cons.inj heq).2
        exact ⟨by rw [htail], rfl⟩

/-- A list between brackets. Its entries are between commas, and a closing bracket after the last of
them stands on a line of its own. -/
def enclosed (opening closing : Char) (level : Nat) (write : α → List Char) : List α → List Char
  | [] => [opening, closing]
  | a :: as =>
    opening :: ([','].intercalate ((a :: as).map write) ++ (newLine level).toList ++ [closing])

theorem toList_newLine (level : Nat) :
    (newLine level).toList = '\n' :: List.replicate (2 * level) ' ' := by
  simp [newLine]

/-- Entries that stand on lines of their own begin with a new line. -/
theorem head?_intercalate_append (hline : ∀ a, (write a).head? = some '\n') (a : α) (as : List α)
    (rest : List Char) :
    ([','].intercalate ((a :: as).map write) ++ rest).head? = some '\n' := by
  cases as with
  | nil => simp [hline]
  | cons b as => simp [hline]

theorem legible_enclosed {opening closing : Char} {level : Nat} {as : List α}
    (hclosing : closing ≠ '\n') (hline : ∀ a, (write a).head? = some '\n')
    (hwrite : ∀ a ∈ as, Legible Closes write a) :
    Legible Anything (enclosed opening closing level write) as := by
  have hend : ∀ rest, ((newLine level).toList ++ ([closing] ++ rest)).head? = some '\n' := by
    simp [toList_newLine]
  -- the bracket that closes an empty list stands where another list begins a line
  have hempty : ∀ (a : α) (as : List α) rest rest',
      enclosed opening closing level write [] ++ rest ≠
        enclosed opening closing level write (a :: as) ++ rest' := by
    intro a as rest rest' h
    simp only [enclosed, List.cons_append, List.append_assoc, List.nil_append, List.cons.injEq,
      true_and] at h
    have hhead := head?_intercalate_append hline a as
      ((newLine level).toList ++ ([closing] ++ rest'))
    rw [List.singleton_append, ← h] at hhead
    exact hclosing (Option.some.inj hhead)
  intro bs rest rest' _ _ h
  cases as with
  | nil =>
    cases bs with
    | nil => exact ⟨rfl, List.append_cancel_left h⟩
    | cons b bs => exact (hempty b bs rest rest' h).elim
  | cons a as =>
    cases bs with
    | nil => exact (hempty a as rest' rest h.symm).elim
    | cons b bs =>
      simp only [enclosed, List.cons_append, List.append_assoc, List.cons.injEq, true_and] at h
      obtain ⟨hlist, hrest⟩ := intercalate_append_inj hwrite (List.cons_ne_nil _ _)
        (List.cons_ne_nil b bs) (hend rest) (hend rest') h
      exact ⟨hlist, List.append_cancel_left (List.append_cancel_left hrest)⟩

end Lists

/-! ### Values -/

/-- An item of an array, on a line of its own. -/
def itemLine (level : Nat) (j : Json) : List Char :=
  (newLine level).toList ++ (j.prettyAt level).toList

/-- A member of an object, on a line of its own. -/
def memberLine (level : Nat) (m : String × Json) : List Char :=
  (newLine level).toList ++ ((quoted m.1).toList ++ ([':', ' '] ++ (m.2.prettyAt level).toList))

theorem toList_prettyItems (level : Nat) (items : List Json) :
    (prettyItems level items).toList = [','].intercalate (items.map (itemLine level)) := by
  induction items with
  | nil => rfl
  | cons j items ih =>
    cases items with
    | nil => simp [prettyItems, itemLine]
    | cons k items =>
      rw [prettyItems, String.toList_append, ih]
      · simp [itemLine]
      · simp

theorem toList_prettyMembers (level : Nat) (members : List (String × Json)) :
    (prettyMembers level members).toList = [','].intercalate (members.map (memberLine level)) := by
  induction members with
  | nil => rfl
  | cons m members ih =>
    cases members with
    | nil => simp [prettyMembers, memberLine]
    | cons m' members =>
      rw [prettyMembers, String.toList_append, ih]
      · simp [memberLine]
      · simp

theorem toList_prettyAt_array (level : Nat) (items : List Json) :
    ((array items).prettyAt level).toList =
      enclosed '[' ']' level (itemLine (level + 1)) items := by
  cases items with
  | nil => simp [prettyAt, enclosed]
  | cons j items =>
    rw [prettyAt]
    · simp only [String.toList_append, toList_prettyItems, enclosed]
      simp
    · simp

theorem toList_prettyAt_object (level : Nat) (members : List (String × Json)) :
    ((object members).prettyAt level).toList =
      enclosed '\x7b' '\x7d' level (memberLine (level + 1)) members := by
  cases members with
  | nil => simp [prettyAt, enclosed]
  | cons m members =>
    rw [prettyAt]
    · simp only [String.toList_append, toList_prettyMembers, enclosed]
      simp
    · simp

/-- The kinds of values. -/
inductive Kind where
  | bool
  | number
  | string
  | array
  | object
  deriving DecidableEq

/-- The kind of a value. -/
def kind : Json → Kind
  | bool _ => .bool
  | number _ => .number
  | string _ => .string
  | array _ => .array
  | object _ => .object

/-- The kind of the values whose text begins with a character. -/
def Kind.ofHead (c : Char) : Kind :=
  if c = '"' then .string
  else if c = '[' then .array
  else if c = '\x7b' then .object
  else if c.isDigit then .number
  else .bool

/-- The kind of a value can be told from the first character of its text. -/
theorem kind_of_head (level : Nat) (j : Json) (rest : List Char) :
    ((j.prettyAt level).toList ++ rest).head?.map Kind.ofHead = some j.kind := by
  cases j with
  | bool b => cases b <;> simp [prettyAt, Text.truth, kind, Kind.ofHead]
  | number n =>
    obtain ⟨c, cs, hcs⟩ := List.exists_cons_of_ne_nil (Nat.toDigits_ne_nil (n := n) (b := 10))
    have hdigit : c.isDigit = true :=
      Nat.isDigit_of_mem_toDigits (by decide) (by decide) (hcs ▸ List.mem_cons_self ..)
    have hne : ∀ d, d.isDigit = false → c ≠ d := by
      rintro d hd rfl
      exact absurd (hdigit.symm.trans hd) nofun
    simp [prettyAt, Text.decimal, hcs, kind, Kind.ofHead, hdigit, hne '"' rfl, hne '[' rfl,
      hne '\x7b' rfl]
  | string s => simp [prettyAt, quoted, kind, Kind.ofHead]
  | array items =>
    rw [toList_prettyAt_array]
    cases items <;> simp [enclosed, kind, Kind.ofHead]
  | object members =>
    rw [toList_prettyAt_object]
    cases members <;> simp [enclosed, kind, Kind.ofHead]

theorem kind_eq_of_text {level : Nat} {j k : Json} {rest rest' : List Char}
    (h : (j.prettyAt level).toList ++ rest = (k.prettyAt level).toList ++ rest') :
    j.kind = k.kind := by
  rw [← Option.some_inj, ← kind_of_head level j rest, h, kind_of_head]

theorem legible_itemLine {level : Nat} {j : Json}
    (hj : Legible Closes (fun j => (j.prettyAt level).toList) j) :
    Legible Closes (itemLine level) j := by
  intro k rest rest' hrest hrest' h
  simp only [itemLine, List.append_assoc] at h
  exact hj k rest rest' hrest hrest' (List.append_cancel_left h)

theorem legible_memberLine {level : Nat} {m : String × Json}
    (hm : Legible Closes (fun j => (j.prettyAt level).toList) m.2) :
    Legible Closes (memberLine level) m := by
  intro m' rest rest' hrest hrest' h
  simp only [memberLine, List.append_assoc] at h
  -- the key ends at its quote, and the value begins after a colon and a blank
  obtain ⟨hkey, hvalue⟩ :=
    legible_quoted m.1 m'.1 _ _ trivial trivial (List.append_cancel_left h)
  obtain ⟨hvalue, hend⟩ := hm m'.2 rest rest' hrest hrest' (List.append_cancel_left hvalue)
  exact ⟨Prod.ext hkey hvalue, hend⟩

/-- Induction on a value, with the values that stand in a list at hand. -/
theorem induction_mem {motive : Json → Prop} (bool : ∀ b, motive (bool b))
    (number : ∀ n, motive (number n)) (string : ∀ s, motive (string s))
    (array : ∀ items, (∀ j ∈ items, motive j) → motive (array items))
    (object : ∀ members, (∀ m ∈ members, motive m.2) → motive (object members)) :
    ∀ j, motive j
  | .bool b => bool b
  | .number n => number n
  | .string s => string s
  | .array items =>
    array items fun j _ => induction_mem bool number string array object j
  | .object members =>
    object members fun m _ => induction_mem bool number string array object m.2
termination_by j => sizeOf j
decreasing_by
  · next hj =>
    have := List.sizeOf_lt_of_mem hj
    simp only [Json.array.sizeOf_spec]
    omega
  · next hm =>
    have := List.sizeOf_lt_of_mem hm
    have : sizeOf m = 1 + sizeOf m.1 + sizeOf m.2 := rfl
    simp only [Json.object.sizeOf_spec]
    omega

/-- **Values are legible.** What stands in a list is read in front of what closes it. -/
theorem legible_prettyAt (level : Nat) (j : Json) :
    Legible Closes (fun j => (j.prettyAt level).toList) j := by
  induction j using induction_mem generalizing level with
  | bool b =>
    intro k rest rest' _ _ h
    have hkind := kind_eq_of_text h
    cases k with
    | bool b' =>
      simp only [prettyAt] at h
      cases b <;> cases b' <;> simp_all [Text.truth]
    | _ => exact absurd hkind nofun
  | number n =>
    intro k rest rest' hrest hrest' h
    have hkind := kind_eq_of_text h
    cases k with
    | number m =>
      simp only [prettyAt] at h
      obtain ⟨rfl, hend⟩ := Text.legible_decimal n m rest rest' (noDigit_of_closes hrest)
        (noDigit_of_closes hrest') h
      exact ⟨rfl, hend⟩
    | _ => exact absurd hkind nofun
  | string s =>
    intro k rest rest' _ _ h
    have hkind := kind_eq_of_text h
    cases k with
    | string t =>
      simp only [prettyAt] at h
      obtain ⟨rfl, hend⟩ := legible_quoted s t rest rest' trivial trivial h
      exact ⟨rfl, hend⟩
    | _ => exact absurd hkind nofun
  | array items ih =>
    intro k rest rest' _ _ h
    have hkind := kind_eq_of_text h
    cases k with
    | array items' =>
      simp only [toList_prettyAt_array] at h
      obtain ⟨rfl, hend⟩ := legible_enclosed (by decide) (by simp [itemLine, toList_newLine])
        (fun j hj => legible_itemLine (ih j hj (level + 1))) items' rest rest' trivial trivial h
      exact ⟨rfl, hend⟩
    | _ => exact absurd hkind nofun
  | object members ih =>
    intro k rest rest' _ _ h
    have hkind := kind_eq_of_text h
    cases k with
    | object members' =>
      simp only [toList_prettyAt_object] at h
      obtain ⟨rfl, hend⟩ := legible_enclosed (by decide) (by simp [memberLine, toList_newLine])
        (fun m hm => legible_memberLine (ih m hm (level + 1))) members' rest rest' trivial trivial h
      exact ⟨rfl, hend⟩
    | _ => exact absurd hkind nofun

/-- **Reading JSON back.** Values with the same text are the same. -/
theorem pretty_inj {j k : Json} : j.pretty = k.pretty ↔ j = k := by
  constructor
  · intro h
    have hnil : Closes [] := nofun
    refine (legible_prettyAt 0 j k [] [] hnil hnil ?_).1
    rw [List.append_nil, List.append_nil]
    exact congrArg String.toList h
  · rintro rfl
    rfl

end Json

end GrammarCheck
