import Assay.Proofs.Concrete.Assembly
import Assay.Proofs.Source.Offsets

/-!
# Readings of grammatical programs

`Reading.Formed` says of a reading and of all readings inside of it that what was read there fits
(`Node.Fits`) and lies inside of the stretch that was read. From the parts of one concrete node it
follows what its handler may rely on: operands are loose parts, names are names, operators are known,
and what the grammar requires is there.
-/

set_option autoImplicit false

namespace Assay

variable {start stop : Int} {span : Span} {tree : Node} {code : Text} {lexicon : Lexicon}

/-! ## Places -/

/-- The shape covers a stretch of the text. -/
structure Shape.Covers (code : Text) (shape : Shape) : Prop where
  start_nonneg : 0 ≤ shape.start
  ordered : shape.start ≤ shape.stop
  stop_le : shape.stop ≤ (Source.ofText code).size

/-- The span is that of a stretch of the text inside of the shape. -/
def Span.LiesIn (code : Text) (shape : Shape) (span : Span) : Prop :=
  ∃ start stop, shape.start ≤ start ∧ start ≤ stop ∧ stop ≤ shape.stop ∧
    (Source.ofText code).span start stop = .ok span

namespace Source

theorem span_eq_ok {source : Source} {first last : Int}
    (hFirst : source.offset? start = some first) (hLast : source.offset? stop = some last) :
    source.span start stop = .ok (.between first last) := by
  simp [span, span?, hFirst, hLast]

theorem within_of_span (hStart : 0 ≤ start) (hOrder : start ≤ stop)
    (hStop : stop ≤ (ofText code).size) (h : (ofText code).span start stop = .ok span) :
    span.Within code.length := by
  obtain ⟨first, last, hFirst, hLast, hNonneg, hLe, hBound⟩ :=
    offset?_in_order hStart hOrder hStop
  rw [span_eq_ok hFirst hLast] at h
  cases h
  exact ⟨first, last, rfl, hNonneg, hLe, hBound⟩

theorem within_of_spanOf {shape : Shape} (hShape : shape.Covers code)
    (h : (ofText code).spanOf shape = .ok span) : span.Within code.length :=
  within_of_span hShape.start_nonneg hShape.ordered hShape.stop_le h

/-- What lies in a stretch ends no later than the stretch. -/
theorem endsIn_of_liesIn {shape : Shape} {inner outer : Span} (hShape : shape.Covers code)
    (hInner : inner.LiesIn code shape) (hOuter : (ofText code).spanOf shape = .ok outer) :
    inner.EndsIn outer := by
  obtain ⟨start, stop, hStart, hOrder, hStop, hSpan⟩ := hInner
  have hNonneg : 0 ≤ start := Int.le_trans hShape.start_nonneg hStart
  have hBefore : stop ≤ (ofText code).size := Int.le_trans hStop hShape.stop_le
  obtain ⟨first, last, hFirst, hLast, -⟩ := offset?_in_order hNonneg hOrder hBefore
  obtain ⟨low, high, hLow, hHigh, -⟩ :=
    offset?_in_order hShape.start_nonneg hShape.ordered hShape.stop_le
  obtain ⟨last', high', hLast', hHigh', -, hLe, -⟩ :=
    offset?_in_order (Int.le_trans hNonneg hOrder) hStop hShape.stop_le
  rw [hLast] at hLast'
  rw [hHigh] at hHigh'
  cases hLast'
  cases hHigh'
  rw [span_eq_ok hFirst hLast] at hSpan
  rw [spanOf, span_eq_ok hLow hHigh] at hOuter
  cases hSpan
  cases hOuter
  exact ⟨last, high, rfl, rfl, hLe⟩

end Source

namespace Shape

theorem inOrder_of_mem {shapes : List Shape} (h : inOrder start stop shapes = true)
    {shape : Shape} (hShape : shape ∈ shapes) :
    start ≤ shape.start ∧ shape.start ≤ shape.stop ∧ shape.stop ≤ stop := by
  have hBound {first : Int} {rest : List Shape} (hRest : inOrder first stop rest = true) :
      first ≤ stop := by
    induction rest generalizing first with
    | nil => simpa [inOrder] using hRest
    | cons next rest ih =>
      simp only [inOrder, Bool.and_eq_true, decide_eq_true_eq] at hRest
      have := ih hRest.2
      omega
  induction shapes generalizing start with
  | nil => simp at hShape
  | cons first rest ih =>
    simp only [inOrder, Bool.and_eq_true, decide_eq_true_eq] at h
    obtain ⟨⟨hStart, hOrder⟩, hRest⟩ := h
    rcases List.mem_cons.1 hShape with rfl | hLater
    · exact ⟨hStart, hOrder, hBound hRest⟩
    · have := ih hRest hLater
      omega

variable {shape : Shape} {children : List Shape}

theorem isRegular_iff : shape.isRegular children = true ↔
    inOrder shape.start shape.stop children = true ∧
      (∀ child ∈ children, shape.form.admits child = true) ∧
      (shape.form.needsOperand = true → ∃ child ∈ children, child.named = true ∧
        child.form.isNoise = false) ∧
      ∀ roles ∈ shape.form.rolesInOrder?, startsBefore children roles = true := by
  simp [isRegular, and_assoc, Option.all_eq_true, Bool.or_eq_true, or_iff_not_imp_left]

end Shape

namespace Form

/-- Whether what has the form may hold the name of a property or of a label. -/
def keepsNames (form : Form) : Bool :=
  [Form.memberExpression, .pair, .pairPattern, .methodDefinition, .fieldDefinition,
    .labeledStatement, .breakStatement, .continueStatement].contains form

theorem keepers?_eq_none {parent form : Form} (hParent : parent.keepsNames = false)
    (h : form.keepers?.all (·.contains parent) = true) : form.keepers? = none := by
  unfold keepsNames at hParent
  unfold keepers? at h ⊢
  split at h
  · simp_all
  · simp_all
  · rfl

end Form

/-! ## Readings -/

/-- A tree that may stand as a loose part, all of whose nodes fit. -/
structure Node.Loose (code : Text) (lexicon : Lexicon) (tree : Node) : Prop where
  free : tree.isFree = true
  fits : tree.Every (Node.Fits lexicon code.length)

/-- Whether a tree is one that a form may stand for. -/
def Form.suits (lexicon : Lexicon) (form : Form) (tree : Node) : Bool :=
  (form = .program && tree.kind = .program || tree.isFree) && (!form.isName || tree.isName) &&
    (form.keepers?.isSome || tree.isTest lexicon) && (form != .templateString || tree.isTemplate)

/-- What may be read at a shape. -/
structure Node.ReadAt (code : Text) (lexicon : Lexicon) (shape : Shape) (tree : Node) : Prop where
  fits : tree.Every (Node.Fits lexicon code.length)
  inside : tree.span.LiesIn code shape
  suits : shape.form.suits lexicon tree = true

/-- What is read at anything but a program may be a loose part. -/
theorem Node.ReadAt.loose {shape : Shape} (h : tree.ReadAt code lexicon shape)
    (hForm : shape.form ≠ .program) : tree.Loose code lexicon := by
  have hSuits := h.suits
  simp only [Form.suits, Bool.and_eq_true, Bool.or_eq_true, decide_eq_true_eq] at hSuits
  exact ⟨hSuits.1.1.1.resolve_left fun hRoot => hForm hRoot.1, h.fits⟩

/-- What was read at a concrete node and inside of it fits. -/
inductive Reading.Formed (code : Text) (lexicon : Lexicon) : Reading → Prop
  | mk (shape : Shape) (node link : Read Node) (parts : Parts)
      (hRegular : shape.isRegular (parts.map Reading.shape) = true)
      (hSpelled : shape.isSpelled lexicon (Source.ofText code) = true)
      (hCovers : shape.Covers code)
      (hNode : node.Gives (Node.ReadAt code lexicon shape))
      (hLink : link.Gives (Node.ReadAt code lexicon shape))
      (hParts : ∀ part ∈ parts, part.Formed code lexicon) :
      Reading.Formed code lexicon (.mk shape node link parts)

/-- The parts of a concrete node are regular and what was read of them fits. -/
structure Parts.Formed (code : Text) (lexicon : Lexicon) (shape : Shape) (parts : Parts) : Prop where
  regular : shape.isRegular (parts.map Reading.shape) = true
  each : ∀ part ∈ parts, part.Formed code lexicon

theorem Parts.named_ne_nil_of_child {parts : Parts}
    (h : ∃ child ∈ parts.map Reading.shape, child.named = true ∧ child.form.isNoise = false) :
    parts.named ≠ [] := by
  obtain ⟨child, hChild, hNamed, hNoise⟩ := h
  obtain ⟨r, hr, rfl⟩ := List.mem_map.1 hChild
  have hMem : r ∈ parts.named := List.mem_filter.2 ⟨hr, by simp [hNamed, Reading.form, hNoise]⟩
  exact List.ne_nil_of_mem hMem

namespace Reading.Formed

variable {r : Reading} (h : r.Formed code lexicon)

include h

theorem node : r.node.Gives (Node.ReadAt code lexicon r.shape) := by
  obtain ⟨_, _, _, _, -, -, -, hNode, -, -⟩ := h
  exact hNode

theorem parts : Parts.Formed code lexicon r.shape r.parts := by
  obtain ⟨_, _, _, _, hRegular, -, -, -, -, hParts⟩ := h
  exact ⟨hRegular, hParts⟩

theorem covers : r.shape.Covers code := by
  obtain ⟨_, _, _, _, -, -, hCovers, -, -, -⟩ := h
  exact hCovers

theorem spelled : r.shape.isSpelled lexicon (Source.ofText code) = true := by
  obtain ⟨_, _, _, _, -, hSpelled, -, -, -, -⟩ := h
  exact hSpelled

end Reading.Formed

namespace Parts

namespace Formed

variable {r : Reading} {field : String}
  {shape : Shape} {parts : Parts} (h : Parts.Formed code lexicon shape parts)

include h

theorem admits (hr : r ∈ parts) : shape.form.admits r.shape = true :=
  (Shape.isRegular_iff.1 h.regular).2.1 r.shape (List.mem_map_of_mem hr)

theorem bounds (hr : r ∈ parts) :
    shape.start ≤ r.shape.start ∧ r.shape.start ≤ r.shape.stop ∧ r.shape.stop ≤ shape.stop :=
  Shape.inOrder_of_mem (Shape.isRegular_iff.1 h.regular).1 (List.mem_map_of_mem hr)

theorem form_ne_program (hr : r ∈ parts) : r.shape.form ≠ .program := by
  have := h.admits hr
  simp only [Form.admits, Bool.and_eq_true, bne_iff_ne] at this
  exact this.1.1.1

omit h in
theorem holds_of_formed (hr : r.Formed code lexicon) (hForm : r.shape.form ≠ .program) :
    r.Holds (Node.Loose code lexicon) (Node.Loose code lexicon) := by
  induction hr with
  | mk shape node link parts hRegular _ _ hNode hLink hParts ih =>
    have hFormed : Parts.Formed code lexicon shape parts := ⟨hRegular, hParts⟩
    exact ⟨_, _, _, _, fun tree hTree => (hNode tree hTree).loose hForm,
      fun tree hTree => (hLink tree hTree).loose hForm,
      fun part hPart => ih part hPart (hFormed.form_ne_program hPart)⟩

/-- What was read in the parts may stand as loose parts. -/
theorem holds : ∀ part ∈ parts, part.Holds (Node.Loose code lexicon) (Node.Loose code lexicon) :=
  fun part hPart => holds_of_formed (h.each part hPart) (h.form_ne_program hPart)

theorem formed_of_find? (hr : parts.find? field = some r) : r.Formed code lexicon :=
  h.each r (mem_of_find? hr).1

/-- A part in a role of which the form asks for a name is a name. -/
theorem isName_node (hRole : shape.form.nameRole? = some field) (hr : parts.find? field = some r)
    (hTree : r.node = .ok tree) : tree.isName = true := by
  obtain ⟨hMem, hField⟩ := mem_of_find? hr
  have hAdmits := h.admits hMem
  have hSuits := ((h.each r hMem).node.of_eq hTree).suits
  simp only [Form.admits, hRole, hField, bne_self_eq_false, Bool.false_or, Bool.and_eq_true]
    at hAdmits
  simp only [Form.suits, hAdmits.1.2, Bool.not_true, Bool.false_or, Bool.and_eq_true] at hSuits
  exact hSuits.1.1.2

theorem gives_name (hRole : shape.form.nameRole? = some field) :
    (parts.node field).Gives fun tree => tree.isName = true :=
  (gives_get_find? field).bind fun _ hr _ hTree => h.isName_node hRole hr hTree

/-- A part of what keeps no names of properties or labels may stand as a test. -/
theorem isTest_of_mem (hForm : shape.form.keepsNames = false) (hr : r ∈ parts)
    (hTree : r.node = .ok tree) : tree.isTest lexicon = true := by
  have hAdmits := h.admits hr
  have hSuits := ((h.each r hr).node.of_eq hTree).suits
  simp only [Form.admits, Bool.and_eq_true] at hAdmits
  simp only [Form.suits, Form.keepers?_eq_none hForm hAdmits.1.1.2, Option.isSome_none,
    Bool.false_or, Bool.and_eq_true] at hSuits
  exact hSuits.1.2

theorem gives_test (hForm : shape.form.keepsNames = false) (field : String) :
    (parts.node field).Gives fun tree => tree.isTest lexicon = true :=
  (gives_get_find? field).bind fun _ hr _ hTree =>
    h.isTest_of_mem hForm (mem_of_find? hr).1 hTree

theorem isTest_operand (hForm : shape.form.keepsNames = false) :
    parts.operand.Gives fun tree => tree.isTest lexicon = true := by
  unfold Parts.operand
  split
  · rename_i r _ hNamed
    have hMem : r ∈ parts := mem_of_named (by simp [hNamed])
    exact fun tree hTree => h.isTest_of_mem hForm hMem hTree
  · exact Read.gives_error _

/-- What needs an operand has one. -/
theorem named_ne_nil (hForm : shape.form.needsOperand = true) : parts.named ≠ [] :=
  named_ne_nil_of_child ((Shape.isRegular_iff.1 h.regular).2.2.1 hForm)

theorem isSome_operand? (hForm : shape.form.needsOperand = true) :
    parts.operand?.Gives fun part => part.isSome = true := by
  unfold Parts.operand?
  split
  · exact .skip fun tree => by simp
  · rename_i hNamed
    exact absurd hNamed (h.named_ne_nil hForm)

/-- What lies in a part lies in the whole. -/
theorem liesIn_of_mem (hr : r ∈ parts) (hSpan : span.LiesIn code r.shape) :
    span.LiesIn code shape := by
  obtain ⟨start, stop, hStart, hOrder, hStop, hSpan⟩ := hSpan
  obtain ⟨hLow, -, hHigh⟩ := h.bounds hr
  exact ⟨start, stop, by omega, hOrder, by omega, hSpan⟩

theorem gives_inside (field : String) :
    (parts.node field).Gives fun tree => tree.span.LiesIn code shape :=
  (gives_get_find? field).bind fun _ hr _ hTree =>
    h.liesIn_of_mem (mem_of_find? hr).1 ((h.formed_of_find? hr).node.of_eq hTree).inside

/-- The operator of an expression is one of those that its form may have. -/
theorem operator_mem {operators : List String} (hForm : shape.form.operators? = some operators) :
    (parts.get "operator").Gives fun r => r.form.name ∈ operators := by
  refine fun r hr => ?_
  obtain ⟨hMem, hField⟩ := mem_of_find? (find?_of_get hr)
  have hAdmits := h.admits hMem
  simp only [Form.admits, hField, hForm, bne_self_eq_false, Bool.false_or, Bool.and_eq_true,
    Option.all_some, List.contains_iff_mem] at hAdmits
  exact hAdmits.2

/-- Two parts whose roles are in order stand in that order. -/
theorem start_le_stop {roles : String × String} (hForm : shape.form.rolesInOrder? = some roles)
    {first second : Reading} (hFirst : parts.find? roles.1 = some first)
    (hSecond : parts.find? roles.2 = some second) : first.shape.start ≤ second.shape.stop := by
  have hBefore := (Shape.isRegular_iff.1 h.regular).2.2.2 roles (by simp [hForm])
  have hFind (field : String) (r : Reading) (hr : parts.find? field = some r) :
      (parts.map Reading.shape).find? (·.field == field) = some r.shape := by
    rw [List.find?_map]
    exact congrArg (Option.map Reading.shape) hr
  simpa [Shape.startsBefore, hFind _ _ hFirst, hFind _ _ hSecond] using hBefore

end Formed

end Parts

end Assay
