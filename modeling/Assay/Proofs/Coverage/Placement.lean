import Assay.Coverage.Session
import Assay.Proofs.Coverage.Tracking

/-!
# Where tracking calls stand

A tracking call of an instrumented program stands directly in front of a construct. `Node.marks`
reads off from one node which calls stand in front of its parts, and `View.gather` collects what is
read off from all nodes of a tree. The other side are the targets of the walk, numbered in their
spaces by `Target.numbered`.

A tree that stands in the source has neither marks nor calls (`Node.gather_of_located`), and an
added sequence, statement or body has those that it was built with.
-/

set_option autoImplicit false

namespace Assay

variable {tree : Node}

/-- A tracking call with the place of the construct that it stands in front of. -/
structure Placement where
  /-- The space of the call. -/
  space : Space
  /-- The id of the call. -/
  id : Int
  /-- The place of the construct. -/
  span : Span
  deriving DecidableEq

namespace Placement

/-- What a call says: its space and its id. -/
def key (placement : Placement) : Space × Int := (placement.space, placement.id)

/-- A call of the given space in front of what has the given place. -/
def ofCall? (space : Space) (span : Span) : Option (Space × Int) → List Placement
  | some (found, id) => if found = space then [⟨space, id, span⟩] else []
  | none => []

end Placement

/-! ## Reading placements off from a tree -/

namespace Node

section

variable (handle : Text)

/-- The call that is the first statement of a list, in front of what has the given place. -/
def firstMark (space : Space) (span : Span) : List Node → List Placement
  | first :: _ => Placement.ofCall? space span (first.trackingStatement? handle)
  | [] => []

/-- The call that is the first statement of a block, in front of what has the given place. -/
def blockMark (space : Space) (span : Span) : Node → List Placement
  | .blockStatement _ body => firstMark handle space span body
  | _ => []

/-- The calls in a list of statements, each in front of the statement behind it. -/
def statementMarks : List Node → List Placement
  | mark :: statement :: rest =>
    Placement.ofCall? .stmt statement.span (mark.trackingStatement? handle) ++
      statementMarks (statement :: rest)
  | _ => []

/-- The call in a sequence that stands nowhere in the source, in front of the expression behind
it. -/
def sequenceMark (space : Space) (place : Node → Span) : Node → List Placement
  | .sequence ⟨none, none⟩ [mark, expression] =>
    Placement.ofCall? space (place expression) (mark.trackingCall? handle)
  | _ => []

/-- The calls in front of a function and of its body: in a sequence that stands nowhere in the
source the first two expressions, in a block the first statement. -/
def functionMarks (span : Span) : Node → List Placement
  | .sequence ⟨none, none⟩ [first, second, body] =>
    Placement.ofCall? .func span (first.trackingCall? handle) ++
      Placement.ofCall? .stmt body.span (second.trackingCall? handle)
  | body => blockMark handle .func span body

/-- The place of the second arm of an `if`: its own, or if it has none the gap behind the first
arm. -/
def armSpan (whole first second : Span) : Span :=
  if second = .none then ⟨first.stop, whole.stop⟩ else second

/-- An arm that has a place of its own. -/
theorem armSpan_of_isKnown (whole first : Span) {second : Span} (h : second.isKnown = true) :
    armSpan whole first second = second := by
  rw [armSpan, if_neg]
  rintro rfl
  simp [Span.none, Span.isKnown] at h

/-- The calls in front of the parts of a node. -/
def marks : Node → List Placement
  | .function _ span _ _ body _ _ _ => functionMarks handle span body
  | .variableDeclarator span _ (some init) => sequenceMark handle .stmt (fun _ => span) init
  | .assignmentPattern _ _ right => sequenceMark handle .stmt Node.span right
  | .blockStatement _ body | .staticBlock _ body => statementMarks handle body
  | .switchCase span _ consequent =>
    firstMark handle .branch span consequent ++ statementMarks handle consequent
  | .ifStatement span _ consequent (some alternate) =>
    blockMark handle .branch consequent.span consequent ++
      blockMark handle .branch (armSpan span consequent.span alternate.span) alternate
  | .conditional _ _ consequent alternate =>
    sequenceMark handle .branch Node.span consequent ++
      sequenceMark handle .branch Node.span alternate
  | .logical _ left _ right =>
    sequenceMark handle .branch Node.span left ++ sequenceMark handle .branch Node.span right
  | _ => []

/-- The call that a node is. -/
def calls (node : Node) : List (Space × Int) := (node.trackingCall? handle).toList

end

end Node

namespace View

section

variable {α : Type} (f : Node → List α)

mutual

/-- What `f` reads off from the nodes of a view, parents first. -/
def gather : View → List α
  | .node kind start stop fields =>
    ((View.node kind start stop fields).node?).elim [] f ++ gatherFields fields
  | .list items => gatherItems items
  | _ => []

/-- What `f` reads off from the nodes in the fields of a node. -/
def gatherFields : List (String × View) → List α
  | [] => []
  | (_, value) :: rest => gather value ++ gatherFields rest

/-- What `f` reads off from the nodes in the items of a list. -/
def gatherItems : List View → List α
  | [] => []
  | item :: rest => gather item ++ gatherItems rest

end

/-- What `f` reads off from the nodes inside of a node. -/
def gatherParts : View → List α
  | .node _ _ _ fields => gatherFields f fields
  | _ => []

/-- What is read off from a tree is read off from its root and from its parts. -/
theorem gather_ofNode (tree : Node) :
    gather f (ofNode tree) = f tree ++ gatherParts f (ofNode tree) := by
  obtain ⟨fields, hView⟩ := ofNode_eq_located tree
  have hTree := node?_ofNode tree
  rw [hView, located] at hTree ⊢
  rw [gather, hTree, gatherParts]
  rfl

@[simp]
theorem gather_data (value : Data) : gather f (.data value) = [] := by
  simp [gather]

@[simp]
theorem gather_flag (value : Bool) : gather f (.flag value) = [] := gather_data f _

@[simp]
theorem gather_list (items : List View) : gather f (.list items) = gatherItems f items := by
  simp [gather]

@[simp]
theorem gather_ofQuasi (quasi : Quasi) : gather f (ofQuasi quasi) = f (.templateElement quasi) := by
  have h := gather_ofNode f (.templateElement quasi)
  rw [ofNode] at h
  rw [h]
  simp [ofQuasi, located, gatherParts, gatherFields]

@[simp]
theorem gatherItems_quasis (quasis : List Quasi) :
    gatherItems f (quasis.map ofQuasi) =
      quasis.flatMap fun quasi => f (.templateElement quasi) := by
  induction quasis with
  | nil => rfl
  | cons quasi rest ih => simp [gatherItems, ih]

@[simp]
theorem gather_spelling (raw : Option Text) : gather f (.spelling raw) = [] := by
  cases raw <;> exact gather_data f _

@[simp]
theorem gather_regex (parts : Option (Text × Text)) : gather f (.regex parts) = [] := by
  cases parts <;> simp [regex, gather]

end

end View

/-! ## Numbering targets -/

namespace Target

/-- The number of targets of a space. -/
def total (space : Space) (targets : List Target) : Nat :=
  (targets.filter (·.space = space)).length

/-- Targets with their ids behind some earlier ones: the id of a target is the number of targets of
its space before it. -/
def numberedFrom (earlier : List Target) : List Target → List Placement
  | [] => []
  | target :: rest =>
    ⟨target.space, total target.space earlier, target.span⟩ ::
      numberedFrom (earlier ++ [target]) rest

/-- Targets with their ids. -/
def numbered (targets : List Target) : List Placement := numberedFrom [] targets

theorem numberedFrom_append (earlier first second : List Target) :
    numberedFrom earlier (first ++ second) =
      numberedFrom earlier first ++ numberedFrom (earlier ++ first) second := by
  induction first generalizing earlier with
  | nil => simp [numberedFrom]
  | cons target rest ih => simp [numberedFrom, ih]

/-- The id of a further target is the number of targets of its space so far. -/
theorem numbered_concat (targets : List Target) (target : Target) :
    numbered (targets ++ [target]) =
      numbered targets ++ [⟨target.space, total target.space targets, target.span⟩] := by
  simp [numbered, numberedFrom_append, numberedFrom]

end Target

/-! ## Marks that are no calls -/

namespace Node

variable {node : Node} (handle : Text) (space : Space)

/-- What stands in the source is no mark. -/
theorem sequenceMark_of_isKnown (place : Node → Span) (h : node.span.isKnown = true) :
    sequenceMark handle space place node = [] := by
  fun_cases sequenceMark handle space place node with
  | case1 => simp [Node.span, Span.isKnown] at h
  | case2 => rfl

/-- What stands in the source is no mark of the statement behind it. -/
theorem statementMarks_of_isKnown (h : node.span.isKnown = true) (rest : List Node) :
    statementMarks handle (node :: rest) = statementMarks handle rest := by
  cases rest with
  | nil => rfl
  | cons next others =>
    rw [statementMarks, trackingStatement?_of_isKnown handle h]
    rfl

/-- A mark of a statement stands in front of it. -/
theorem statementMarks_trackingStatement (id : Int) (h : node.span.isKnown = true)
    (rest : List Node) :
    statementMarks handle (Build.trackingStatement handle .stmt id :: node :: rest) =
      ⟨.stmt, id, node.span⟩ :: statementMarks handle rest := by
  rw [statementMarks, Build.trackingStatement?_trackingStatement, statementMarks_of_isKnown _ h]
  rfl

/-- A mark of another space is no mark of the statement behind it. -/
theorem statementMarks_of_ne {space : Space} (h : space ≠ .stmt) (id : Int) (rest : List Node) :
    statementMarks handle (Build.trackingStatement handle space id :: rest) =
      statementMarks handle rest := by
  cases rest with
  | nil => rfl
  | cons next others =>
    rw [statementMarks, Build.trackingStatement?_trackingStatement]
    simp [Placement.ofCall?, h]

section

open View

/-- There is no mark at the start of located statements. -/
theorem firstMark_of_located (span : Span) {body : List Node}
    (h : areLocated (ofList body) = true) : firstMark handle space span body = [] := by
  cases body with
  | nil => rfl
  | cons first rest =>
    simp only [ofList, areLocated, Bool.and_eq_true] at h
    rw [firstMark, trackingStatement?_of_isKnown handle (Node.located_iff.2 h.1).isKnown]
    rfl

/-- There is no mark at the start of a located block. -/
theorem blockMark_of_located (span : Span) (h : isLocated (ofNode node) = true) :
    blockMark handle space span node = [] := by
  fun_cases blockMark handle space span node with
  | case1 place body =>
    simp only [ofNode, isLocated_located, areFieldsLocated, isLocated_list, Bool.and_true,
      Bool.and_eq_true] at h
    exact firstMark_of_located handle space span h.2
  | case2 => rfl

/-- There is no mark among located statements. -/
theorem statementMarks_of_located {body : List Node} (h : areLocated (ofList body) = true) :
    statementMarks handle body = [] := by
  induction body with
  | nil => rfl
  | cons first rest ih =>
    simp only [ofList, areLocated, Bool.and_eq_true] at h
    rw [statementMarks_of_isKnown handle (Node.located_iff.2 h.1).isKnown, ih h.2]

/-- There is no mark in a located body of a function. -/
theorem functionMarks_of_located (span : Span) {body : Node} (h : isLocated (ofNode body) = true) :
    functionMarks handle span body = [] := by
  fun_cases functionMarks handle span body with
  | case1 first second last => simp [ofNode, isLocated_located, Span.isKnown] at h
  | case2 body => exact blockMark_of_located handle .func span h

/-- A located tree has no marks. -/
theorem marks_of_located (h : node.Located) : marks handle node = [] := by
  rw [Node.located_iff] at h
  fun_cases marks handle node
  case case10 => rfl
  all_goals
    simp only [ofNode, ofOptional, isLocated_located, areFieldsLocated, isLocated_list,
      isLocated_data, isLocated_flag, Bool.and_true, Bool.and_eq_true] at h
  case case1 => exact functionMarks_of_located handle _ h.2.2.2
  case case2 => exact sequenceMark_of_isKnown handle _ _ (Node.located_iff.2 h.2.2).isKnown
  case case3 => exact sequenceMark_of_isKnown handle _ _ (Node.located_iff.2 h.2.2).isKnown
  case case4 | case5 => exact statementMarks_of_located handle h.2
  case case6 =>
    rw [firstMark_of_located handle _ _ h.2.2, statementMarks_of_located handle h.2.2]
    rfl
  case case7 =>
    rw [blockMark_of_located handle _ _ h.2.2.1, blockMark_of_located handle _ _ h.2.2.2]
    rfl
  case case8 =>
    rw [sequenceMark_of_isKnown handle _ _ (Node.located_iff.2 h.2.2.1).isKnown,
      sequenceMark_of_isKnown handle _ _ (Node.located_iff.2 h.2.2.2).isKnown]
    rfl
  case case9 =>
    rw [sequenceMark_of_isKnown handle _ _ (Node.located_iff.2 h.2.1).isKnown,
      sequenceMark_of_isKnown handle _ _ (Node.located_iff.2 h.2.2.2).isKnown]
    rfl

end

/-- An added sequence has its mark in front. -/
@[simp]
theorem sequenceMark_sequence (place : Node → Span) (id : Int) (node : Node) :
    sequenceMark handle space place
        (Build.sequence [Build.trackingCall handle space id, node]) =
      [⟨space, id, place node⟩] := by
  simp [Build.sequence, Span.none, sequenceMark, Placement.ofCall?]

/-- An added body of a function has the marks of the function and of the body in front. -/
@[simp]
theorem functionMarks_sequence (span : Span) (first second : Int) (body : Node) :
    functionMarks handle span (Build.sequence
        [Build.trackingCall handle .func first, Build.trackingCall handle .stmt second, body]) =
      [⟨.func, first, span⟩, ⟨.stmt, second, body.span⟩] := by
  simp [Build.sequence, Span.none, functionMarks, Placement.ofCall?]

end Node

/-! ## What is read off from the nodes of a tree -/

namespace View

variable {α : Type} {f : Node → List α} {x : α}

theorem mem_gatherItems_ofList {trees : List Node} :
    x ∈ gatherItems f (ofList trees) ↔ ∃ tree ∈ trees, x ∈ gather f (ofNode tree) := by
  induction trees with
  | nil => simp [ofList, gatherItems]
  | cons tree rest ih => simp [ofList, gatherItems, ih]

theorem mem_gather_ofOptional {part : Option Node} :
    x ∈ gather f (ofOptional part) ↔ ∃ tree, part = some tree ∧ x ∈ gather f (ofNode tree) := by
  cases part <;> simp [ofOptional]

theorem mem_gatherItems_ofHoles {elements : List (Option Node)} :
    x ∈ gatherItems f (ofHoles elements) ↔
      ∃ tree, some tree ∈ elements ∧ x ∈ gather f (ofNode tree) := by
  induction elements with
  | nil => simp [ofHoles, gatherItems]
  | cons element rest ih => cases element <;> simp [ofHoles, gatherItems, ih]

/-- What is read off from the inside of a node is read off from one of its parts. -/
theorem exists_part_of_mem_gatherParts (hf : ∀ quasi, f (.templateElement quasi) = [])
    (h : x ∈ gatherParts f (ofNode tree)) : ∃ part ∈ tree.parts, x ∈ gather f (ofNode part) := by
  have hQuasis (quasis : List Quasi) :
      quasis.flatMap (fun quasi => f (.templateElement quasi)) = [] :=
    List.flatMap_eq_nil_iff.2 fun quasi _ => hf quasi
  cases tree
  case templateElement => simp [ofNode, ofQuasi, located, gatherParts, gatherFields] at h
  case bare | emptyStatement | debuggerStatement | identifier | privateIdentifier | literal
      | thisExpression | superReference =>
    simp [ofNode, located, gatherParts, gatherFields] at h
  all_goals
    simp only [ofNode, located, gatherParts, gatherFields, gather_list, gather_data, gather_flag,
      gatherItems_quasis, hQuasis, List.mem_append, mem_gatherItems_ofList, mem_gather_ofOptional,
      mem_gatherItems_ofHoles, List.append_nil, List.nil_append] at h
    simp only [Node.parts, Node.looseParts, Node.placedParts]
    grind

/-- What is read off from a tree is read off from a subtree all of whose nodes have the properties
that those of the tree have. -/
theorem exists_of_mem_gather (hf : ∀ quasi, f (.templateElement quasi) = []) {p : Node → Prop}
    (hTree : tree.Every p) (h : x ∈ gather f (ofNode tree)) :
    ∃ node, node.Every p ∧ x ∈ f node := by
  induction hTree with
  | mk hRoot hParts ih =>
    rw [gather_ofNode, List.mem_append] at h
    rcases h with h | h
    · exact ⟨_, ⟨hRoot, hParts⟩, h⟩
    · obtain ⟨part, hPart, hx⟩ := exists_part_of_mem_gatherParts hf h
      exact ih part hPart hx

end View

/-- What is read off from no located node is read off from no located tree. -/
theorem Node.gather_of_located {α : Type} {f : Node → List α}
    (hQuasi : ∀ quasi, f (.templateElement quasi) = [])
    (hf : ∀ tree : Node, tree.Located → f tree = []) (h : tree.Located) :
    View.gather f (View.ofNode tree) = [] := by
  refine List.eq_nil_iff_forall_not_mem.2 fun x hx => ?_
  obtain ⟨node, hNode, hMem⟩ := View.exists_of_mem_gather hQuasi h.every hx
  rw [hf node hNode.here] at hMem
  cases hMem

end Assay
