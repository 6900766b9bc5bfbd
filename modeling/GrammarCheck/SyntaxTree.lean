/-!
# Syntax trees

The tree that the runtime's parser builds for a source text. A node says whether there is an error
in its subtree and whether it stands for the error itself, by wrapping text that could not be parsed
or by standing in for text that is missing.

* `Node.ofPreorder?`: the tree with a given list of nodes in preorder.
* `Node.preorder`: the nodes of a tree in preorder.
* `Node.firstError?`: the first erroneous node, found without entering subtrees that are free of
  errors.
* `ParseSummary.ofTree`: what a report says of a tree.
-/

namespace GrammarCheck

/-- A place in a source text, counted from zero, the column in bytes. -/
structure Point where
  row : Nat
  column : Nat
  deriving Repr, DecidableEq

/-- What the runtime says of a single node. -/
structure NodeInfo where
  hasError : Bool
  isError : Bool
  isMissing : Bool
  start : Point
  deriving Repr, DecidableEq

/-- The node is itself an error: unparsable text, or a stand-in for missing text. -/
def NodeInfo.isErroneous (i : NodeInfo) : Bool :=
  i.isError || i.isMissing

/-- A node with its children in order. -/
inductive Node where
  | mk (info : NodeInfo) (children : List Node)
  deriving Repr

namespace Node

/-- What the runtime says of the root of a subtree. -/
def info : Node → NodeInfo
  | mk info _ => info

/-- The children of the root of a subtree. -/
def children : Node → List Node
  | mk _ children => children

/-! ### Preorder -/

mutual

/-- The nodes of a tree, each before its children. -/
def preorder : Node → List NodeInfo
  | mk info children => info :: preorderList children

/-- The nodes of several trees, one tree after the other. -/
def preorderList : List Node → List NodeInfo
  | [] => []
  | n :: ns => n.preorder ++ preorderList ns

end

/-- Puts a node in front of the subtrees that follow it in preorder, each with its depth: those that
lie deeper, up to the first that does not, are its children. -/
def attach (depth : Nat) (info : NodeInfo) (later : List (Nat × Node)) : List (Nat × Node) :=
  (depth, mk info ((later.takeWhile (depth < ·.1)).map Prod.snd))
    :: later.dropWhile (depth < ·.1)

/-- The tree whose nodes in preorder, each with its depth, are given. There is none without a
node. -/
def ofPreorder? (nodes : List (Nat × NodeInfo)) : Option Node :=
  (nodes.foldr (fun n later => attach n.1 n.2 later) []).head?.map Prod.snd

/-! ### The first error -/

mutual

/-- The place of the first erroneous node of a tree in preorder. A subtree without the error mark is
not entered. -/
def firstError? : Node → Option Point
  | mk info children =>
    if info.hasError then
      if info.isErroneous then some info.start else firstErrorIn? children
    else none

/-- The place of the first erroneous node of several trees. -/
def firstErrorIn? : List Node → Option Point
  | [] => none
  | n :: ns =>
    match n.firstError? with
    | some p => some p
    | none => firstErrorIn? ns

end

end Node

/-! ### Summaries -/

/-- A syntax tree: the kind of its root, and its nodes. -/
structure SyntaxTree where
  rootKind : String
  root : Node
  deriving Repr

/-- A place in a source text as it is reported, counted from one. -/
structure ErrorPosition where
  line : Nat
  column : Nat
  deriving Repr, DecidableEq

/-- The reported form of a place. -/
def Point.reported (p : Point) : ErrorPosition :=
  ⟨p.row + 1, p.column + 1⟩

/-- What is reported of the parse of a sample. -/
structure ParseSummary where
  rootKind : String
  hasError : Bool
  firstError? : Option ErrorPosition
  bytes : Nat
  deriving Repr, DecidableEq

/-- The summary of the tree of a source text. -/
def ParseSummary.ofTree (tree : SyntaxTree) (source : String) : ParseSummary where
  rootKind := tree.rootKind
  hasError := tree.root.info.hasError
  firstError? := tree.root.firstError?.map Point.reported
  bytes := source.utf8ByteSize

end GrammarCheck
