import GrammarCheck.Loading
import Mathlib.Data.List.Find
import Mathlib.Data.List.Infix

/-!
# The first error of a tree

The search for the first error does not enter a subtree whose root lacks the error mark. So it can
come only to nodes that are marked together with everything above them, and among these it finds
what a walk through the whole tree would find first.

* `Node.occurrences` — the nodes of a tree in preorder, each with its ancestors.
* `Node.firstError?_eq_find?` — the search gives the place of the first exposed occurrence: an
  erroneous node, marked together with its ancestors.
* `Node.firstError?_eq_find?_preorder` — where the marks are complete, it gives the place of the
  first erroneous node.
* `LoadedGrammar.firstError?_parse` — the same for what is reported of a parse.
-/

namespace GrammarCheck

namespace Node

/-! ### Occurrences -/

/-- A node as it occurs in a tree: what the runtime says of it and of its ancestors, the nearest of
them first. -/
structure Occurrence where
  info : NodeInfo
  ancestors : List NodeInfo
  deriving Repr, DecidableEq

namespace Occurrence

/-- The node and all of its ancestors carry the error mark. -/
def isMarked (o : Occurrence) : Bool :=
  (o.info :: o.ancestors).all NodeInfo.hasError

/-- The node is erroneous, and no missing mark hides it. -/
def isExposed (o : Occurrence) : Bool :=
  o.info.isErroneous && o.isMarked

theorem isExposed_iff {o : Occurrence} :
    o.isExposed = true ↔ o.info.isErroneous = true ∧ o.isMarked = true :=
  Bool.and_eq_true_iff

/-- A node or an ancestor without the mark is enough. -/
theorem isMarked_eq_false {o : Occurrence} {i : NodeInfo} (hi : i ∈ o.info :: o.ancestors)
    (hmark : i.hasError = false) : o.isMarked = false := by
  rw [isMarked, List.all_eq_false]
  exact ⟨i, hi, by rw [hmark]; exact Bool.false_ne_true⟩

end Occurrence

mutual

/-- The nodes of a tree in preorder, where the nodes `above` stand above the tree. -/
def occurrences (above : List NodeInfo) : Node → List Occurrence
  | mk info children => ⟨info, above⟩ :: occurrencesIn (info :: above) children

/-- The nodes of several trees, one tree after the other, below the same nodes. -/
def occurrencesIn (above : List NodeInfo) : List Node → List Occurrence
  | [] => []
  | n :: ns => n.occurrences above ++ occurrencesIn above ns

end

/-- Induction on a tree, with the children of a node at hand. -/
theorem induction_children {motive : Node → Prop}
    (mk : ∀ info children, (∀ c ∈ children, motive c) → motive (mk info children)) :
    ∀ n, motive n
  | .mk info children => mk info children fun c _ => induction_children mk c

theorem mem_occurrencesIn_iff {above : List NodeInfo} {ns : List Node} {o : Occurrence} :
    o ∈ occurrencesIn above ns ↔ ∃ n ∈ ns, o ∈ n.occurrences above := by
  induction ns with
  | nil => simp [occurrencesIn]
  | cons n ns ih => simp [occurrencesIn, ih]

private theorem map_info_occurrencesIn {above : List NodeInfo} {ns : List Node}
    (h : ∀ n ∈ ns, (n.occurrences above).map Occurrence.info = n.preorder) :
    (occurrencesIn above ns).map Occurrence.info = preorderList ns := by
  induction ns with
  | nil => rfl
  | cons n ns ih =>
    rw [occurrencesIn, preorderList, List.map_append, h n (List.mem_cons_self ..),
      ih fun m hm => h m (List.mem_cons_of_mem n hm)]

/-- The occurrences are the nodes of the preorder, one for one. -/
theorem map_info_occurrences (n : Node) (above : List NodeInfo) :
    (n.occurrences above).map Occurrence.info = n.preorder := by
  induction n using induction_children generalizing above with
  | mk info children ih =>
    rw [occurrences, preorder, List.map_cons, map_info_occurrencesIn fun c hc => ih c hc _]

/-- What stands above a tree stands above each of its nodes. -/
theorem suffix_ancestors {n : Node} {above : List NodeInfo} {o : Occurrence}
    (ho : o ∈ n.occurrences above) : above <:+ o.ancestors := by
  induction n using induction_children generalizing above with
  | mk info children ih =>
    rw [occurrences, List.mem_cons] at ho
    rcases ho with rfl | ho
    · exact List.suffix_refl above
    · obtain ⟨c, hc, ho⟩ := mem_occurrencesIn_iff.mp ho
      exact (List.suffix_cons info above).trans (ih c hc ho)

/-- The root of a tree is each of its nodes, or stands above it. -/
theorem info_mem_of_mem_occurrences {n : Node} {above : List NodeInfo} {o : Occurrence}
    (ho : o ∈ n.occurrences above) : n.info ∈ o.info :: o.ancestors := by
  obtain ⟨info, children⟩ := n
  rw [occurrences, List.mem_cons] at ho
  rcases ho with rfl | ho
  · exact List.mem_cons_self ..
  · obtain ⟨c, -, ho⟩ := mem_occurrencesIn_iff.mp ho
    exact List.mem_cons_of_mem _ ((suffix_ancestors ho).subset (List.mem_cons_self ..))

/-! ### The search -/

/-- Nothing is exposed in a tree whose root lacks the mark. -/
theorem find?_occurrences_of_unmarked {n : Node} (hmark : n.info.hasError = false)
    (above : List NodeInfo) : (n.occurrences above).find? Occurrence.isExposed = none := by
  rw [List.find?_eq_none]
  intro o ho hexposed
  have hmarked : o.isMarked = true := (Occurrence.isExposed_iff.mp hexposed).2
  rw [Occurrence.isMarked_eq_false (info_mem_of_mem_occurrences ho) hmark] at hmarked
  exact Bool.false_ne_true hmarked

/-- Searching several trees, if each of them is searched as its occurrences are. -/
private theorem firstErrorIn?_eq_find? {above : List NodeInfo} {ns : List Node}
    (h : ∀ n ∈ ns, n.firstError? =
      ((n.occurrences above).find? Occurrence.isExposed).map (·.info.start)) :
    firstErrorIn? ns =
      ((occurrencesIn above ns).find? Occurrence.isExposed).map (·.info.start) := by
  induction ns with
  | nil => rfl
  | cons n ns ih =>
    rw [firstErrorIn?, occurrencesIn, List.find?_append, h n (List.mem_cons_self ..),
      ih fun m hm => h m (List.mem_cons_of_mem n hm)]
    -- the later trees are searched only if the first one has nothing
    cases (n.occurrences above).find? Occurrence.isExposed with
    | none => rfl
    | some o => rfl

/-- **The search finds what is exposed first.** Below nodes that are all marked, it gives the place
of the first exposed occurrence of a tree. -/
theorem firstError?_eq_find? (n : Node) (above : List NodeInfo)
    (habove : ∀ i ∈ above, i.hasError = true) :
    n.firstError? = ((n.occurrences above).find? Occurrence.isExposed).map (·.info.start) := by
  induction n using induction_children generalizing above with
  | mk info children ih =>
    by_cases hmark : info.hasError = true
    · have hbelow : ∀ i ∈ info :: above, i.hasError = true :=
        List.forall_mem_cons.mpr ⟨hmark, habove⟩
      have hmarked : (⟨info, above⟩ : Occurrence).isMarked = true := List.all_eq_true.mpr hbelow
      rw [firstError?, if_pos hmark, occurrences]
      by_cases herroneous : info.isErroneous = true
      · rw [if_pos herroneous,
          List.find?_cons_of_pos (Occurrence.isExposed_iff.mpr ⟨herroneous, hmarked⟩)]
        rfl
      · -- the root is passed over, and the children are searched below one more marked node
        rw [if_neg herroneous,
          List.find?_cons_of_neg fun hexposed =>
            herroneous (Occurrence.isExposed_iff.mp hexposed).1]
        exact firstErrorIn?_eq_find? fun c hc => ih c hc _ hbelow
    · -- the tree is not entered, and there is nothing to be found in it
      have hunmarked : (mk info children).info.hasError = false := Bool.eq_false_iff.mpr hmark
      rw [firstError?, if_neg hmark, find?_occurrences_of_unmarked hunmarked]
      rfl

/-- There is an error to be found only below a marked root. -/
theorem hasError_of_firstError? {n : Node} (h : n.firstError?.isSome = true) :
    n.info.hasError = true := by
  by_contra hmark
  rw [firstError?_eq_find? n [] (by simp),
    find?_occurrences_of_unmarked (Bool.eq_false_iff.mpr hmark)] at h
  exact Bool.false_ne_true h

/-! ### Complete marks -/

/-- Every erroneous node of the tree is marked together with its ancestors. -/
def MarksErrors (n : Node) : Prop :=
  ∀ o ∈ n.occurrences [], o.info.isErroneous = true → o.isMarked = true

instance (n : Node) : Decidable n.MarksErrors :=
  inferInstanceAs (Decidable (∀ o ∈ n.occurrences [], _))

/-- **Pruning changes nothing** in a tree with complete marks: the search gives the place of the
first erroneous node of the preorder. -/
theorem firstError?_eq_find?_preorder {n : Node} (h : n.MarksErrors) :
    n.firstError? = (n.preorder.find? NodeInfo.isErroneous).map NodeInfo.start := by
  have hexposed : ∀ o ∈ n.occurrences [], o.isExposed = o.info.isErroneous := by
    intro o ho
    rw [Bool.eq_iff_iff, Occurrence.isExposed_iff]
    exact ⟨And.left, fun herroneous => ⟨herroneous, h o ho herroneous⟩⟩
  calc n.firstError?
      = ((n.occurrences []).find? Occurrence.isExposed).map (·.info.start) :=
        firstError?_eq_find? n [] (by simp)
    _ = ((n.occurrences []).find? (NodeInfo.isErroneous ∘ Occurrence.info)).map (·.info.start) := by
        rw [List.find?_congr hexposed]
        rfl
    _ = (n.preorder.find? NodeInfo.isErroneous).map NodeInfo.start := by
        rw [← map_info_occurrences n [], List.find?_map, Option.map_map]
        rfl

end Node

/-! ### Reports -/

/-- The first member of a list with a property. -/
def IsFirstWith {α : Type} (P : α → Prop) (l : List α) (a : α) : Prop :=
  ∃ before after, l = before ++ a :: after ∧ P a ∧ ∀ b ∈ before, ¬ P b

/-- What is made of the member that a search finds is made of the first one. -/
private theorem map_find?_eq_some_iff {α β : Type} {p : α → Bool} {f : α → β} {l : List α} {b : β} :
    (l.find? p).map f = some b ↔ ∃ a, IsFirstWith (fun a => p a = true) l a ∧ b = f a := by
  rw [Option.map_eq_some_iff]
  refine exists_congr fun a => ?_
  rw [List.find?_eq_some_iff_append, IsFirstWith]
  constructor
  · rintro ⟨⟨ha, before, after, hl, hbefore⟩, rfl⟩
    exact ⟨⟨before, after, hl, ha, fun b hb => by simpa using hbefore b hb⟩, rfl⟩
  · rintro ⟨⟨before, after, hl, ha, hbefore⟩, rfl⟩
    exact ⟨⟨ha, before, after, hl, fun b hb => by simpa using hbefore b hb⟩, rfl⟩

/-- **The first error of a parse.** Of the tree of a sample is reported the first node in preorder
that is erroneous and marked together with all of its ancestors, by its start counted from one; if
there is no such node, none is reported. So the root is marked where an error is reported. If every
erroneous node and its ancestors are marked, the search misses nothing: what is reported is the
first erroneous node of the whole tree, and there is none only if the tree has none. -/
theorem LoadedGrammar.firstError?_parse (g : LoadedGrammar) (runtime : Runtime) (source : String)
    (tree : SyntaxTree) (hparse : runtime.parse? g.language source = some tree) :
    ∃ summary, g.parse? runtime source = some summary ∧
      (∀ position, summary.firstError? = some position ↔
        ∃ o, IsFirstWith (fun o => o.info.isErroneous = true ∧ o.isMarked = true)
            (tree.root.occurrences []) o ∧
          position = ⟨o.info.start.row + 1, o.info.start.column + 1⟩) ∧
      (summary.firstError? = none ↔
        ∀ o ∈ tree.root.occurrences [], ¬ (o.info.isErroneous = true ∧ o.isMarked = true)) ∧
      (summary.firstError?.isSome = true → summary.hasError = true) ∧
      (tree.root.MarksErrors →
        (∀ position, summary.firstError? = some position ↔
          ∃ i, IsFirstWith (fun i => i.isErroneous = true) tree.root.preorder i ∧
            position = ⟨i.start.row + 1, i.start.column + 1⟩) ∧
        (summary.firstError?.isSome = true ↔ ∃ i ∈ tree.root.preorder, i.isErroneous = true)) := by
  have hsearch : tree.root.firstError?.map Point.reported =
      ((tree.root.occurrences []).find? Node.Occurrence.isExposed).map
        (fun o => o.info.start.reported) := by
    rw [Node.firstError?_eq_find? tree.root [] (by simp), Option.map_map]
    rfl
  refine ⟨.ofTree tree source, ?_, fun position => ?_, ?_, fun herror => ?_, fun hmarks => ⟨?_, ?_⟩⟩
  · rw [parse?, hparse, Option.map_some]
  · simp only [← Node.Occurrence.isExposed_iff]
    exact (congrArg (· = some position) hsearch).to_iff.trans map_find?_eq_some_iff
  · simp only [← Node.Occurrence.isExposed_iff]
    rw [ParseSummary.ofTree, hsearch, Option.map_eq_none_iff, List.find?_eq_none]
  · exact Node.hasError_of_firstError? (by simpa [ParseSummary.ofTree] using herror)
  · intro position
    rw [ParseSummary.ofTree, Node.firstError?_eq_find?_preorder hmarks, Option.map_map]
    exact map_find?_eq_some_iff
  · rw [ParseSummary.ofTree, Node.firstError?_eq_find?_preorder hmarks, Option.isSome_map,
      Option.isSome_map, List.find?_isSome]

/-- A tree with an erroneous node below one that may lack the mark, and a missing node after it. -/
private def errorTree (marked : Bool) : SyntaxTree where
  rootKind := "source_file"
  root :=
    .mk ⟨true, false, false, ⟨0, 0⟩⟩
      [.mk ⟨marked, false, false, ⟨0, 0⟩⟩ [.mk ⟨true, true, false, ⟨0, 3⟩⟩ []],
       .mk ⟨true, false, true, ⟨4, 2⟩⟩ []]

/-- Without the mark the first error stays hidden, and the missing node is reported. With it, the
tree has complete marks and its first error is reported. -/
theorem LoadedGrammar.firstError?_parse_errorTree :
    let reported? (marked : Bool) : Option ErrorPosition :=
      ((⟨"C", ⟨"c", 14, 1, 0⟩, 14, 1⟩ : LoadedGrammar).parse? ⟨fun _ _ => some (errorTree marked)⟩
        "let = ;").bind ParseSummary.firstError?
    reported? false = some ⟨5, 3⟩ ∧
      (errorTree true).root.MarksErrors ∧ reported? true = some ⟨1, 4⟩ := by
  have hmarks : (errorTree true).root.MarksErrors := by decide
  obtain ⟨hidden, hparse, hposition, -⟩ := firstError?_parse ⟨"C", ⟨"c", 14, 1, 0⟩, 14, 1⟩
    ⟨fun _ _ => some (errorTree false)⟩ "let = ;" (errorTree false) rfl
  obtain ⟨shown, hparse', -, -, -, hcomplete⟩ := firstError?_parse ⟨"C", ⟨"c", 14, 1, 0⟩, 14, 1⟩
    ⟨fun _ _ => some (errorTree true)⟩ "let = ;" (errorTree true) rfl
  refine ⟨(congrArg (·.bind ParseSummary.firstError?) hparse).trans ((hposition _).mpr ?_), hmarks,
    (congrArg (·.bind ParseSummary.firstError?) hparse').trans (((hcomplete hmarks).1 _).mpr ?_)⟩
  · -- none of the three nodes before the missing one is exposed
    exact ⟨_, ⟨((errorTree false).root.occurrences []).take 3, [], rfl, by decide, by decide⟩, rfl⟩
  · exact ⟨_, ⟨(errorTree true).root.preorder.take 2, _, rfl, by decide, by decide⟩, rfl⟩

end GrammarCheck
