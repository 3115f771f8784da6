import Assay.Tree.Regular
import Assay.Tree.Walk

/-!
# A tree and its view

Nothing is lost in the generic view of a syntax tree. Reading goes from the leaves up, so the
statement is proved for a tree together with the lists and the optional parts that trees stand in:
`View.slot_ofNode` says what is read from the view of a tree, and `View.node?_ofNode` that the
tree is read back. The text of a view and its place in a program are then those of the tree.
-/

set_option autoImplicit false

namespace Assay

namespace View

/-! ## The view of a tree -/

/-- A hole is viewed as what is absent. -/
theorem ofHoles_cons (element : Option Node) (rest : List (Option Node)) :
    ofHoles (element :: rest) = ofOptional element :: ofHoles rest := by
  cases element <;> rfl

/-- The view of a tree is a node of the same kind and place. -/
theorem ofNode_eq_located (tree : Node) :
    ∃ fields, ofNode tree = located tree.kind tree.span fields := by
  cases tree <;> exact ⟨_, rfl⟩

/-! ## Reading a tree from its view -/

/-- An offset is read back from its view. -/
@[simp]
theorem offset?_offset (index : Option Int) : offset? (offset index) = some index := by
  cases index <;> rfl

/-- Reading a list item by item that is read item by item. -/
theorem mapM_some {α β : Type} (read : α → Option β) (write : β → α)
    (h : ∀ value, read (write value) = some value) (values : List β) :
    (values.map write).mapM read = some values := by
  induction values with
  | nil => rfl
  | cons value rest ih => simp [List.mapM_cons, h, ih]

namespace Slot

/-- What may be absent, once it has been read. -/
def ofOptional : Option Node → Slot
  | none => .data .null
  | some tree => .node tree

@[simp]
theorem optional?_ofOptional (part : Option Node) : (ofOptional part).optional? = some part := by
  cases part <;> rfl

@[simp]
theorem listOf?_node? (trees : List Node) :
    (Slot.list (trees.map .node)).listOf? node? = some trees :=
  mapM_some node? .node (fun _ => rfl) trees

@[simp]
theorem listOf?_optional? (elements : List (Option Node)) :
    (Slot.list (elements.map ofOptional)).listOf? optional? = some elements :=
  mapM_some optional? ofOptional optional?_ofOptional elements

@[simp]
theorem listOf?_quasi? (quasis : List Quasi) :
    (Slot.list (quasis.map fun quasi => .node (.templateElement quasi))).listOf? quasi? =
      some quasis :=
  mapM_some quasi? (fun quasi => .node (.templateElement quasi)) (fun _ => rfl) quasis

end Slot

/-- Items are read one after the other. -/
theorem slotList_eq_map (items : List View) : slotList items = items.map slot := by
  induction items with
  | nil => rfl
  | cons item rest ih => simp [slotList, ih]

/-- A piece of a template is read from its view. -/
@[simp]
theorem slot_ofQuasi (quasi : Quasi) : (ofQuasi quasi).slot = .node (.templateElement quasi) := by
  simp [ofQuasi, located, slot, slotFields, Slots.assemble, Slots.text?, Slots.flag?, Slots.data?,
    Slots.get?, Slot.text?, Slot.data?, flag, Data.isTruthy]

/-- The pieces of a template are read from their views. -/
@[simp]
theorem slotList_quasis (quasis : List Quasi) :
    slotList (quasis.map ofQuasi) = quasis.map fun quasi => .node (.templateElement quasi) := by
  rw [slotList_eq_map, List.map_map]
  exact List.map_congr_left fun quasi _ => slot_ofQuasi quasi

/-- The view of a tree is read as that tree. -/
theorem slot_ofNode (tree : Node) : (ofNode tree).slot = .node tree := by
  apply @Node.rec (fun tree => (ofNode tree).slot = .node tree)
    (fun trees => slotList (ofList trees) = trees.map .node)
    (fun part => (ofOptional part).slot = .ofOptional part)
    (fun elements => slotList (ofHoles elements) = elements.map .ofOptional)
  case bare =>
    intro category span
    cases category <;> simp [ofNode, Category.kind, located, slot, slotFields, Slots.assemble]
  case function | classNode =>
    intro form
    intros
    cases form <;>
      simp [ofNode, FunctionForm.kind, ClassForm.kind, located, slot, slotFields, Slots.assemble,
        Slots.function?, Slots.class?, Slots.node?, Slots.optional?, Slots.nodes?, Slots.flag?,
        Slots.data?, Slots.get?, Slot.node?, Slot.data?, flag, Data.isTruthy, *]
  case literal =>
    intro span value raw regex
    cases raw <;> cases regex <;>
      simp [ofNode, located, slot, slotList, slotFields, Slots.assemble, Slots.data?,
        Slots.spelling?, Slots.regex?, Slots.get?, Slot.data?, spelling, View.regex, Slot.spelling?,
        Slot.regex?]
  case nil | nil | none => simp [ofList, ofHoles, ofOptional, slotList, slot, Slot.ofOptional]
  case cons =>
    intro head tail hHead hTail
    simp [ofList, slotList, hHead, hTail]
  case some =>
    intro tree h
    simpa [ofOptional, Slot.ofOptional] using h
  case cons =>
    intro head tail hHead hTail
    simp [ofHoles_cons, slotList, hHead, hTail]
  all_goals
    intros
    simp [ofNode, located, slot, slotFields, Slots.assemble, Slots.node?, Slots.optional?,
      Slots.nodes?, Slots.holes?, Slots.quasis?, Slots.text?, Slots.data?, Slots.flag?,
      Slots.get?, Slot.node?, Slot.text?, Slot.data?, flag, Data.isTruthy, *]

/-- The view of a tree shows that tree. -/
@[simp]
theorem node?_ofNode (tree : Node) : (ofNode tree).node? = some tree := by
  simp [node?, slot_ofNode, Slot.node?]

end View

end Assay
