import Assay.Coverage.Instrument
import Assay.Proofs.Concrete.Located
import Assay.Proofs.Tree.Every

/-!
# What a tracking walk leaves in place

A step of the instrumentation gives something and adds to the targets so far: `Tracking.result` and
`Tracking.after` are the two sides of it. The walk over a node gives a node of the same kind at the
same place, and a block for a block. The calls that a walk puts in are known by their shape:
`Node.trackingCall?` reads the space and the id of a call that stands nowhere in the source.
-/

set_option autoImplicit false

namespace Assay

/-! ## Steps -/

namespace Tracking

variable {α β : Type}

/-- What a step gives, from the targets before it. -/
def result (step : Tracking α) (targets : List Target) : α := (step.run targets).1

/-- The targets behind a step, from the targets before it. -/
def after (step : Tracking α) (targets : List Target) : List Target := (step.run targets).2

variable (targets : List Target)

@[simp]
theorem result_pure (value : α) : result (pure value) targets = value := rfl

@[simp]
theorem after_pure (value : α) : after (pure value) targets = targets := rfl

@[simp]
theorem result_bind (step : Tracking α) (next : α → Tracking β) :
    result (step >>= next) targets = result (next (step.result targets)) (step.after targets) :=
  rfl

@[simp]
theorem after_bind (step : Tracking α) (next : α → Tracking β) :
    after (step >>= next) targets = after (next (step.result targets)) (step.after targets) :=
  rfl

@[simp]
theorem result_map (f : α → β) (step : Tracking α) :
    result (f <$> step) targets = f (step.result targets) :=
  rfl

@[simp]
theorem after_map (f : α → β) (step : Tracking α) :
    after (f <$> step) targets = step.after targets :=
  rfl

end Tracking

/-! ## Calls -/

/-- The space and the id of a call `<handle>.<space>.add(<id>)` that stands nowhere in the
source. -/
def Node.trackingCall? (handle : Text) : Node → Option (Space × Int)
  | .call ⟨none, none⟩
      (.member ⟨none, none⟩
        (.member ⟨none, none⟩ (.identifier ⟨none, none⟩ object)
          (.identifier ⟨none, none⟩ space) false false)
        (.identifier ⟨none, none⟩ method) false false)
      [.literal ⟨none, none⟩ (.int id) (some raw) none] false =>
    if object = handle ∧ method = ("add" : Text) ∧ raw = Text.ofInt id then
      (Space.ofName? space).map (·, id)
    else none
  | _ => none

/-- The space and the id of a statement that is such a call and stands nowhere in the source. -/
def Node.trackingStatement? (handle : Text) : Node → Option (Space × Int)
  | .expressionStatement ⟨none, none⟩ inner => inner.trackingCall? handle
  | _ => none

namespace Build

@[simp]
theorem ofName?_name (space : Space) : Space.ofName? space.name = some space := by
  cases space <;> decide

/-- A tracking call is read back. -/
@[simp]
theorem trackingCall?_trackingCall (handle : Text) (space : Space) (id : Int) :
    (trackingCall handle space id).trackingCall? handle = some (space, id) := by
  simp [trackingCall, Node.trackingCall?, name, Span.none]

/-- A tracking statement is read back. -/
@[simp]
theorem trackingStatement?_trackingStatement (handle : Text) (space : Space) (id : Int) :
    (trackingStatement handle space id).trackingStatement? handle = some (space, id) :=
  trackingCall?_trackingCall handle space id

end Build

/-- What stands in the source is no tracking call. -/
theorem Node.trackingCall?_of_isKnown (handle : Text) {node : Node} (h : node.span.isKnown = true) :
    node.trackingCall? handle = none := by
  fun_cases Node.trackingCall? handle node with
  | case1 => simp [Node.span, Span.isKnown] at h
  | case2 => simp [Node.span, Span.isKnown] at h
  | case3 => rfl

/-- What stands in the source is no tracking statement. -/
theorem Node.trackingStatement?_of_isKnown (handle : Text) {node : Node}
    (h : node.span.isKnown = true) : node.trackingStatement? handle = none := by
  fun_cases Node.trackingStatement? handle node with
  | case1 => simp [Node.span, Span.isKnown] at h
  | case2 => rfl

/-! ## Nodes -/

/-- The parts of a located tree are located. -/
theorem Node.Located.part {tree part : Node} (h : tree.Located) (hPart : part ∈ tree.parts) :
    part.Located := by
  unfold Node.Located at h
  cases tree <;> simp [Node.parts, Node.looseParts, Node.placedParts] at hPart <;>
    simp [View.ofNode, View.areFieldsLocated] at h <;> grind [Node.LocatedIn]

theorem Node.Located.every {tree : Node} (h : tree.Located) : tree.Every Node.Located := by
  induction tree using Node.induction_parts with
  | h tree ih => exact ⟨h, fun part hPart => ih part hPart (h.part hPart)⟩

namespace Instrument

variable (handle : Text) (targets : List Target) (nodes : List Node) (node : Node)

/-- The walk over a node gives a node of the same place. -/
@[simp]
theorem walk_span : ((walk handle node).result targets).span = node.span := by
  cases node
  case ifStatement alternate =>
    cases alternate <;> rfl
  all_goals rfl

/-- The walk over a located tree gives a node with a known place. -/
theorem isKnown_walk {node : Node} (hLocated : View.isLocated (View.ofNode node) = true) :
    ((walk handle node).result targets).span.isKnown = true := by
  rw [walk_span]
  exact (Node.located_iff.2 hLocated).isKnown

/-- The walk over a block gives a block. -/
theorem walk_blockStatement (span : Span) (body : List Node) :
    (walk handle (.blockStatement span body)).result targets =
      .blockStatement span ((walkStatements handle body).result targets) := by
  rfl

/-! ## Lists of nodes -/

/-- The walk over a declarator of a declaration, which records its initial value. -/
def walkDeclarator : Node → Tracking Node
  | .variableDeclarator span id none => do
    return .variableDeclarator span (← walk handle id) none
  | .variableDeclarator span id (some init) => do
    let id ← walk handle id
    let mark ← markCall handle .stmt .variableDeclarator span
    return .variableDeclarator span id (some (Build.sequence [mark, ← walk handle init]))
  | node => walk handle node

/-- The walk over a case of a `switch`, which records its branch. -/
def walkCase : Node → Tracking Node
  | .switchCase span test consequent => do
    let mark ← markStatement handle .branch .switchCase span
    let test ← walkOptional handle test
    return .switchCase span test (mark :: (← walkStatements handle consequent))
  | node => walk handle node

theorem walkDeclarator_span : ((walkDeclarator handle node).result targets).span = node.span := by
  fun_cases walkDeclarator handle node <;> first | rfl | exact walk_span handle targets _

theorem walkCase_span : ((walkCase handle node).result targets).span = node.span := by
  fun_cases walkCase handle node <;> first | rfl | exact walk_span handle targets _

theorem walkList_eq : walkList handle nodes = nodes.mapM (walk handle) := by
  induction nodes with
  | nil => simp [walkList]
  | cons node rest ih => simp [walkList, ih]

theorem walkHoles_eq (elements : List (Option Node)) :
    walkHoles handle elements = elements.mapM (walkOptional handle) := by
  induction elements with
  | nil => simp [walkHoles]
  | cons element rest ih => simp [walkHoles, ih]

theorem walkDeclarators_eq : walkDeclarators handle nodes = nodes.mapM (walkDeclarator handle) := by
  induction nodes with
  | nil => simp [walkDeclarators]
  | cons node rest ih =>
    fun_cases walkDeclarator handle node <;> simp_all [walkDeclarators, walkDeclarator]

theorem walkCases_eq : walkCases handle nodes = nodes.mapM (walkCase handle) := by
  induction nodes with
  | nil => simp [walkCases]
  | cons node rest ih => fun_cases walkCase handle node <;> simp_all [walkCases, walkCase]

end Instrument

end Assay
