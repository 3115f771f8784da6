import Assay.Proofs.Coverage.Tracking
import Assay.Proofs.Print.Success

/-!
# Instrumented trees can be printed

The calls that record what is reached are printable, and the walk puts them only where a statement
or an expression may stand. So `Instrument.printable_walk`: the walk over a tree that can be printed
gives a tree that can be printed.
-/

set_option autoImplicit false

namespace Assay

attribute [local simp] Node.parts Node.looseParts Node.placedParts

/-! ## What is put in -/

namespace Build

theorem printable_name (text : Text) : (name text).Printable := by
  rw [Node.printable_iff, name]
  simp [Node.isPrintable]

theorem printable_member {object property : Node} (hObject : object.Printable)
    (hProperty : property.Printable) (span : Span) (computed optional : Bool) :
    (Node.member span object property computed optional).Printable := by
  rw [Node.printable_iff]
  simpa [Node.isPrintable] using
    ⟨hObject, hProperty⟩

theorem printable_trackingCall (handle : Text) (space : Space) (id : Int) :
    (trackingCall handle space id).Printable := by
  have hTarget := printable_member (printable_name handle) (printable_name space.name) .none
    false false
  have hMethod := printable_member hTarget (printable_name "add") .none false false
  have hId : (Node.literal .none (.int id) (some (Text.ofInt id)) none).Printable := by
    rw [Node.printable_iff]
    exact ⟨rfl, by simp⟩
  rw [trackingCall, Node.printable_iff]
  simpa [Node.isPrintable] using ⟨hMethod, hId⟩

theorem printable_trackingStatement (handle : Text) (space : Space) (id : Int) :
    (trackingStatement handle space id).Printable := by
  have h := printable_trackingCall handle space id
  rw [trackingStatement, Node.printable_iff]
  simpa [Node.isPrintable] using h

theorem printable_sequence {expressions : List Node} (h : ∀ tree ∈ expressions, tree.Printable) :
    (sequence expressions).Printable := by
  rw [sequence, Node.printable_iff]
  simpa [Node.isPrintable] using h

theorem printable_block {span : Span} {body : List Node} (h : ∀ tree ∈ body, tree.Printable) :
    (Node.blockStatement span body).Printable := by
  rw [Node.printable_iff]
  simpa [Node.isPrintable] using h

theorem printable_prepend {mark : Node} (hMark : mark.Printable) {block : Option Node}
    (h : ∀ tree ∈ block, tree.Printable) : (prepend mark block).Printable := by
  fun_cases prepend mark block with
  | case1 => exact printable_block (by simpa using hMark)
  | case2 span body =>
    have hBody : ∀ tree ∈ body, tree.Printable := fun tree hTree =>
      (h _ rfl).part (by simp [hTree])
    exact printable_block (by simpa using ⟨hMark, hBody⟩)
  | case3 other => exact printable_block (by simpa using ⟨hMark, h other rfl⟩)

end Build

namespace Instrument

open Build Tracking

section

variable {handle : Text} {node : Node} (targets : List Target)

@[simp]
theorem isFunction_walk (handle : Text) (node : Node) :
    ((walk handle node).result targets).isFunction = node.isFunction := by
  cases node
  case ifStatement alternate => cases alternate <;> rfl
  all_goals rfl

@[simp]
theorem isSome_walkOptional (handle : Text) (part : Option Node) :
    ((walkOptional handle part).result targets).isSome = part.isSome := by
  cases part <;> simp [walkOptional]

/-- Whether a node can be printed does not change with its parts. -/
theorem isPrintable_walk (handle : Text) (node : Node) :
    ((walk handle node).result targets).isPrintable = node.isPrintable := by
  cases node
  case throwStatement | methodDefinition | property => simp [walk, Node.isPrintable]
  case ifStatement alternate => cases alternate <;> rfl
  all_goals rfl

variable (handle node) in
/-- The walk over a tree gives one that can be printed. -/
def Keeps : Prop := ∀ targets, ((walk handle node).result targets).Printable

theorem Keeps.printable_statement (h : Keeps handle node) :
    ∀ tree ∈ (statement handle node (walk handle node)).result targets, tree.Printable := by
  unfold statement
  split
  · simpa [markStatement] using ⟨printable_trackingStatement handle _ _, h _⟩
  · simpa using h targets

theorem Keeps.printable_tracked (h : Keeps handle node) (space : Space) :
    ((tracked handle space node (walk handle node)).result targets).Printable := by
  apply printable_sequence
  simpa [markCall] using ⟨printable_trackingCall handle _ _, h _⟩

theorem Keeps.printable_operand (h : Keeps handle node) :
    ((operand handle node (walk handle node)).result targets).Printable := by
  unfold operand
  split
  · exact h targets
  · exact h.printable_tracked targets .branch

theorem Keeps.printable_asBlock (h : Keeps handle node) :
    ((asBlock handle node (walk handle node)).result targets).Printable := by
  unfold asBlock
  split
  · exact h targets
  · exact printable_block (h.printable_statement targets)

theorem Keeps.printable_arm (h : Keeps handle node) :
    ((arm handle node (walk handle node)).result targets).Printable := by
  simp only [arm, markStatement, result_bind, result_pure]
  refine printable_prepend (printable_trackingStatement handle _ _) ?_
  rintro tree ⟨⟩
  exact h.printable_asBlock _

variable (handle) in
theorem printable_missingArm (consequent whole : Span) :
    ((missingArm handle consequent whole).result targets).Printable := by
  simp only [missingArm, markStatement, result_bind, result_pure]
  exact printable_prepend (printable_trackingStatement handle _ _) (by simp)

theorem Keeps.printable_functionBody (h : Keeps handle node) (span : Span) (form : FunctionForm) :
    ((functionBody handle span form node (walk handle node)).result targets).Printable := by
  unfold functionBody
  simp only [result_bind]
  split
  · refine printable_prepend (printable_trackingStatement handle _ _) ?_
    rintro tree ⟨⟩
    exact h _
  · apply printable_sequence
    simpa [markCall] using
      ⟨printable_trackingCall handle _ _, printable_trackingCall handle _ _, h _⟩

end

/-! ## Whole trees -/

variable (handle : Text)

/-- The walk over a tree that can be printed gives a tree that can be printed. -/
theorem printable_walk (node : Node) : node.Printable → Keeps handle node := by
  apply @walk.induct (fun node => node.Printable → Keeps handle node)
    (fun elements => (∀ node, some node ∈ elements → node.Printable) → ∀ targets node,
      some node ∈ (walkHoles handle elements).result targets → node.Printable)
    (fun part => (∀ node, part = some node → node.Printable) → ∀ targets node,
      (walkOptional handle part).result targets = some node → node.Printable)
    (fun nodes => (∀ node ∈ nodes, node.Printable) → ∀ targets,
      ∀ node ∈ (walkCases handle nodes).result targets, node.Printable)
    (fun nodes => (∀ node ∈ nodes, node.Printable) → ∀ targets,
      ∀ node ∈ (walkStatements handle nodes).result targets, node.Printable)
    (fun nodes => (∀ node ∈ nodes, node.Printable) → ∀ targets,
      ∀ node ∈ (walkDeclarators handle nodes).result targets, node.Printable)
    (fun nodes => (∀ node ∈ nodes, node.Printable) → ∀ targets,
      ∀ node ∈ (walkList handle nodes).result targets, node.Printable)
  case case61 | case64 | case66 | case70 | case72 | case74 =>
    intro _ targets
    simp [walkCases, walkStatements, walkDeclarators, walkList, walkOptional, walkHoles]
  case case62 =>
    intro span test consequent rest hTest hConsequent hRest h targets
    have hParts := (Node.printable_iff.1 (h _ List.mem_cons_self)).2
    simp only [Node.parts, Node.looseParts, Node.placedParts, List.append_nil, List.mem_append,
      Option.mem_toList] at hParts
    have hTest := hTest fun part hPart => hParts part (.inl hPart)
    have hConsequent := hConsequent fun part hPart => hParts part (.inr hPart)
    have hRest := hRest (List.forall_mem_cons.1 h).2
    simp only [walkCases, markStatement, result_bind, result_pure, List.mem_cons,
      forall_eq_or_imp]
    refine ⟨Node.printable_iff.2 ⟨rfl, ?_⟩, hRest _⟩
    simp only [Node.parts, Node.looseParts, Node.placedParts, List.append_nil, List.mem_append,
      Option.mem_toList, List.mem_cons]
    rintro part (hPart | rfl | hPart)
    · exact hTest _ part hPart
    · exact printable_trackingStatement handle _ _
    · exact hConsequent _ part hPart
  case case65 =>
    intro node rest hNode hRest h targets
    have hNode := hNode (h node List.mem_cons_self)
    have hRest := hRest (List.forall_mem_cons.1 h).2
    simp only [walkStatements, result_bind, result_pure, List.mem_append]
    rintro tree (hTree | hTree)
    · exact hNode.printable_statement targets tree hTree
    · exact hRest _ tree hTree
  case case67 =>
    intro span id rest hId hRest h targets
    have hParts := (Node.printable_iff.1 (h _ List.mem_cons_self)).2
    have hId := hId (hParts id (by simp))
    have hRest := hRest (List.forall_mem_cons.1 h).2
    simp only [walkDeclarators, result_bind, result_pure, List.mem_cons,
      forall_eq_or_imp]
    refine ⟨Node.printable_iff.2 ⟨rfl, ?_⟩, hRest _⟩
    simpa using hId _
  case case68 =>
    intro span id init rest hId hInit hRest h targets
    have hParts := (Node.printable_iff.1 (h _ List.mem_cons_self)).2
    have hId := hId (hParts id (by simp))
    have hInit := hInit (hParts init (by simp))
    have hRest := hRest (List.forall_mem_cons.1 h).2
    simp only [walkDeclarators, markCall, result_bind, result_pure, List.mem_cons,
      forall_eq_or_imp]
    refine ⟨Node.printable_iff.2 ⟨rfl, ?_⟩, hRest _⟩
    have hValue (mark value : Node) (hMark : mark.Printable) (hValue : value.Printable) :
        (sequence [mark, value]).Printable := printable_sequence (by simpa using ⟨hMark, hValue⟩)
    simpa using
      ⟨hId _, hValue _ _ (printable_trackingCall handle _ _) (hInit _)⟩
  case case73 =>
    intro node hNode h targets tree hTree
    simp only [walkOptional, result_bind, result_pure, Option.some.injEq] at hTree
    rw [← hTree]
    exact hNode (h node rfl) targets
  case case63 | case69 | case71 =>
    intros
    rename_i hNode hRest h targets tree hTree
    have hNode := hNode (h _ List.mem_cons_self)
    have hRest := hRest (List.forall_mem_cons.1 h).2
    simp only [walkCases, walkDeclarators, walkList, result_bind, result_pure,
      List.mem_cons] at hTree
    rcases hTree with rfl | hTree
    · exact hNode _
    · exact hRest _ tree hTree
  case case75 =>
    intro element rest hElement hRest h targets tree hTree
    have hElement := hElement fun node hNode => h node (by simp [hNode])
    have hRest := hRest fun other hOther => h other (List.mem_cons_of_mem _ hOther)
    simp only [walkHoles, result_bind, result_pure, List.mem_cons] at hTree
    rcases hTree with hTree | hTree
    · exact hElement _ tree hTree.symm
    · exact hRest _ tree hTree
  -- The walk over any other node is that over its parts.
  all_goals
    intros
    intro targets
    rename_i h
    obtain ⟨hRoot, hParts⟩ := Node.printable_iff.1 h
    refine Node.printable_iff.2 ⟨(isPrintable_walk targets handle _).trans hRoot, ?_⟩
    simp only [walk, result_bind, result_pure]
    simp only [Node.parts, Node.looseParts, Node.placedParts] at hParts ⊢
    grind [Keeps, Keeps.printable_functionBody, Keeps.printable_asBlock, Keeps.printable_tracked,
      Keeps.printable_operand, Keeps.printable_arm, printable_missingArm]

end Instrument

end Assay
