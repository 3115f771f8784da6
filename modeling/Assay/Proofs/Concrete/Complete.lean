import Assay.Proofs.Concrete.Readings
import Assay.Proofs.Concrete.Literals

/-!
# Concrete trees that have all their parts

`Script.isComplete` holds of the concrete trees that the grammar gives for a text: children stand one
after the other and between code points, each node has the children that its reader asks for, tokens
play no part but that of a token, and numerals and templates are written as the language has them. A
program with a fault is not read any further, so of its tree only the places are asked for.

`Reading.Checked` says of a reading and of all readings inside of it that whatever goes wrong there is
something that may go wrong, and from it follows what the reader of a construct may rely on.
-/

set_option autoImplicit false

namespace Assay

namespace Form

/-- The roles that what has the form cannot do without. -/
def requires : Form → List String
  | .ifStatement => ["condition", "consequence"]
  | .switchStatement => ["body", "value"]
  | .forInStatement => ["left", "right", "body", "operator"]
  | .whileStatement | .doStatement => ["condition", "body"]
  | .forStatement | .tryStatement | .arrowFunction | .classDeclaration | .classKeyword
  | .classStaticBlock | .other "catch_clause" | .other "finally_clause" => ["body"]
  | .labeledStatement => ["label", "body"]
  | .functionDeclaration | .generatorFunctionDeclaration | .functionExpression | .functionKeyword
  | .generatorFunction => ["parameters", "body"]
  | .methodDefinition => ["name", "parameters", "body"]
  | .fieldDefinition => ["property"]
  | .variableDeclarator => ["name"]
  | .pair | .pairPattern => ["key", "value"]
  | .binaryExpression => ["operator", "left", "right"]
  | .unaryExpression | .updateExpression => ["operator", "argument"]
  | .assignmentExpression | .augmentedAssignmentExpression | .assignmentPattern
  | .objectAssignmentPattern => ["left", "right"]
  | .ternaryExpression => ["condition", "consequence", "alternative"]
  | .callExpression => ["function", "arguments"]
  | .newExpression => ["constructor"]
  | .memberExpression => ["object", "property"]
  | .subscriptExpression => ["object", "index"]
  | _ => []

/-- Whether what has the form is made around an operand. -/
def enclosesOperand : Form → Bool
  | .expressionStatement | .parenthesizedExpression | .awaitExpression | .spreadElement
  | .restPattern | .classHeritage | .computedPropertyName | .templateSubstitution
  | .other "else_clause" => true
  | _ => false

/-- The form of what stands in a role, for the roles that only one form may have. -/
def roleForm? : Form → String → Option Form
  | .ifStatement, "alternative" => some (.other "else_clause")
  | .tryStatement, "handler" => some (.other "catch_clause")
  | .tryStatement, "finalizer" => some (.other "finally_clause")
  | .classStaticBlock, "body" => some .statementBlock
  | _, _ => none

/-- Whether what has the form may have a token of the given shape. -/
def allowsToken (form : Form) (token : Shape) : Bool :=
  match form with
  | .arrayLiteral | .arrayPattern =>
    token.field == "" &&
      (token.form = .other "[" || token.form = .other "]" || token.form = .other ",")
  | .forStatement =>
    token.field == "" ||
      token.form = .other ";" && (token.field == "initializer" || token.field == "condition")
  | _ => token.field == "" || token.field == "operator" || token.field == "kind"

/-- Whether no token plays the role. -/
def isPartRole (form : Form) (role : String) : Bool :=
  role != "" && role != "operator" && role != "kind" &&
    (form != .forStatement || role != "initializer" && role != "condition")

end Form

namespace Shape

/-- Whether what the shape covers is written as the language has it. -/
def isWritten (source : Source) (shape : Shape) : Bool :=
  match shape.form with
  | .numberLiteral => (source.text? shape.start shape.stop).all Numeral.isNumeral
  | .templateString =>
    shape.start + 2 ≤ shape.stop &&
      source.text? shape.start (shape.start + 1) == some ("`" : Text) &&
        source.text? (shape.stop - 1) shape.stop == some ("`" : Text)
  | _ => true

/-- Whether a node of the shape has the children that its reader asks for. -/
def isFurnished (shape : Shape) (children : List Shape) : Bool :=
  shape.form.requires.all (fun role => children.any (·.field == role)) &&
    (!shape.form.enclosesOperand || children.any fun child => child.named && !child.form.isNoise) &&
    (shape.form != .arrowFunction ||
      children.any fun child => child.field == "parameter" || child.field == "parameters") &&
    children.all fun child =>
      (child.named || shape.form.allowsToken child) &&
        (shape.form.roleForm? child.field).all (· = child.form)

/-- What a node has that is furnished. -/
theorem isFurnished_iff {shape : Shape} {children : List Shape} :
    shape.isFurnished children = true ↔
      (∀ role ∈ shape.form.requires, ∃ child ∈ children, child.field = role) ∧
        (shape.form.enclosesOperand = true → ∃ child ∈ children, child.named = true ∧
          child.form.isNoise = false) ∧
        (shape.form = .arrowFunction → ∃ child ∈ children,
          child.field = "parameter" ∨ child.field = "parameters") ∧
        ∀ child ∈ children, (child.named = true ∨ shape.form.allowsToken child = true) ∧
          ∀ form ∈ shape.form.roleForm? child.field, form = child.form := by
  simp [isFurnished, and_assoc, Option.all_eq_true, or_iff_not_imp_left]

/-- Whether the shape and the shapes of its children stand in their places: one after the other, and
not inside of a code point. -/
def isPlaced (source : Source) (shape : Shape) (children : List Shape) : Bool :=
  inOrder shape.start shape.stop children && source.isBoundary shape.start.toNat &&
    source.isBoundary shape.stop.toNat

end Shape

/-- Whether the concrete tree has all the parts of a program. -/
def Script.isComplete (script : Script) : Bool :=
  let source := Source.ofText script.code
  let root := script.tree.shape
  root.form = .program && root.named && 0 ≤ root.start && root.start ≤ root.stop &&
    root.stop ≤ source.size && script.tree.all (Shape.isPlaced source) &&
      (root.faulty || script.tree.all fun shape children =>
        !shape.named || shape.isFurnished children && shape.isWritten source)

/-! ## Places -/

/-- A stretch of a text is part of every stretch around it. -/
theorem Text.take_drop_infix {t : Text} {low first last high : Nat} (hFirst : low ≤ first)
    (hLast : last ≤ high) :
    (t.drop first).take (last - first) <:+: (t.drop low).take (high - low) := by
  have hInner : (t.drop first).take (last - first) =
      (((t.drop low).take (high - low)).drop (first - low)).take (last - first) := by
    rw [List.drop_take, List.drop_drop, List.take_take, Nat.add_sub_cancel' hFirst,
      Nat.min_eq_left (by omega)]
  rw [hInner]
  exact (List.take_prefix _ _).isInfix.trans (List.drop_suffix _ _).isInfix

/-- The shape covers a stretch of the text and cuts through no code point. -/
structure Shape.Placed (code : Text) (shape : Shape) : Prop extends Shape.Covers code shape where
  start_boundary : (Source.ofText code).isBoundary shape.start.toNat = true
  stop_boundary : (Source.ofText code).isBoundary shape.stop.toNat = true

open Outcome

namespace Source

variable {start stop : Int} {code : Text}

/-- Offsets inside of the text are not clamped. -/
theorem clamp_of_le {size : Nat} {offset : Int} (hNonneg : 0 ≤ offset) (hLe : offset ≤ size) :
    Text.clamp size offset = offset.toNat := by
  unfold Text.clamp
  rw [if_neg (by omega)]
  omega

/-- Between two boundaries there is a text. -/
theorem exists_text (hStart : 0 ≤ start) (hStartLe : start ≤ (ofText code).size)
    (hStop : 0 ≤ stop) (hStopLe : stop ≤ (ofText code).size)
    (hFirst : (ofText code).isBoundary start.toNat = true)
    (hLast : (ofText code).isBoundary stop.toNat = true) :
    ∃ text, (ofText code).text start stop = .ok text := by
  unfold text text?
  simp only [clamp_of_le hStart hStartLe, clamp_of_le hStop hStopLe, hFirst, hLast, Bool.and_self,
    if_true]
  split_ifs <;> exact ⟨_, rfl⟩

/-- Between two offsets there is a span. -/
theorem exists_span (hStart : 0 ≤ start) (hStartLe : start ≤ (ofText code).size)
    (hStop : 0 ≤ stop) (hStopLe : stop ≤ (ofText code).size) :
    ∃ span, (ofText code).span start stop = .ok span := by
  obtain ⟨first, -, hFirst, -⟩ := offset?_in_order hStart hStartLe (Int.le_refl _)
  obtain ⟨last, -, hLast, -⟩ := offset?_in_order hStop hStopLe (Int.le_refl _)
  exact ⟨_, span_eq_ok hFirst hLast⟩

/-- What holds of a tree at every span holds at the span of a shape. -/
theorem ensures_place {α : Type} {source : Source} {shape : Shape} {build : Span → Read α}
    {q : α → Prop} (h : ∀ span, Ensures (build span) q) : Ensures (source.place shape build) q := by
  unfold Source.place
  split
  · exact h _
  · rw [ensures_bind]
    intro a _
    exact ensures_error

/-- A text that is not empty stands between boundaries. -/
theorem isBoundary_of_text? {c : CodePoint} {rest : Text} (hStart : 0 ≤ start)
    (hStartLe : start ≤ (ofText code).size) (hStop : 0 ≤ stop)
    (hStopLe : stop ≤ (ofText code).size) (h : (ofText code).text? start stop = some (c :: rest)) :
    (ofText code).isBoundary start.toNat = true ∧ (ofText code).isBoundary stop.toNat = true := by
  unfold text? at h
  simp only [clamp_of_le hStart hStartLe, clamp_of_le hStop hStopLe] at h
  split_ifs at h with hEmpty hBoundary
  · cases h
  · exact Bool.and_eq_true_iff.1 hBoundary

/-- The offsets of code points rise. -/
theorem offsets_getD_mono {first last : Nat} (hOrder : first ≤ last)
    (hLast : last ≤ (ofText code).size) :
    (ofText code).offsets.getD first 0 ≤ (ofText code).offsets.getD last 0 := by
  have hSize := size_offsets_ofText code
  rcases Nat.lt_or_eq_of_le hOrder with hLess | rfl
  · have hTable : (ofText code).offsets = (Offsets.table code).toArray := rfl
    rw [hTable, List.size_toArray] at hSize
    have hPair := List.pairwise_iff_getElem.1 (Offsets.tableFrom_pairwise 0 code) first last
      (by unfold Offsets.table at hSize; omega) (by unfold Offsets.table at hSize; omega) hLess
    rw [hTable, Array.getD_eq_getD_getElem?, Array.getD_eq_getD_getElem?, List.getElem?_toArray,
      List.getElem?_toArray, List.getElem?_eq_getElem (by omega),
      List.getElem?_eq_getElem (by omega)]
    exact hPair
  · exact Nat.le_refl _

/-- The text of a stretch is a part of the text of every stretch around it. -/
theorem text_infix {low high : Int} {inner outer : Text} (hLow : 0 ≤ low) (hStart : low ≤ start)
    (hStartLe : start ≤ high) (hStop : low ≤ stop) (hStopLe : stop ≤ high)
    (hHigh : high ≤ (ofText code).size) (hInner : (ofText code).text start stop = .ok inner)
    (hOuter : (ofText code).text low high = .ok outer) : inner <:+: outer := by
  unfold text text? at hInner hOuter
  simp only [clamp_of_le (Int.le_trans hLow hStart) (Int.le_trans hStartLe hHigh),
    clamp_of_le (Int.le_trans hLow hStop) (Int.le_trans hStopLe hHigh)] at hInner
  simp only [clamp_of_le hLow (Int.le_trans (Int.le_trans hStart hStartLe) hHigh),
    clamp_of_le (Int.le_trans hLow (Int.le_trans hStart hStartLe)) hHigh] at hOuter
  split_ifs at hInner with hEmpty hBoundary
  · cases hInner
    exact List.nil_infix
  · cases hInner
    rw [if_neg (by omega)] at hOuter
    split_ifs at hOuter
    cases hOuter
    have hFirst : (ofText code).offsets.getD low.toNat 0 ≤ (ofText code).offsets.getD start.toNat 0 :=
      offsets_getD_mono (by omega) (by omega)
    have hLast : (ofText code).offsets.getD stop.toNat 0 ≤ (ofText code).offsets.getD high.toNat 0 :=
      offsets_getD_mono (by omega) (by omega)
    generalize (ofText code).offsets.getD low.toNat 0 = low at *
    generalize (ofText code).offsets.getD start.toNat 0 = first at *
    generalize (ofText code).offsets.getD stop.toNat 0 = last at *
    generalize (ofText code).offsets.getD high.toNat 0 = high at *
    simp only [Array.toList_extract, List.extract_eq_take_drop]
    exact Text.take_drop_infix hFirst hLast

end Source

namespace Shape.Placed

variable {code : Text} {shape : Shape} (h : shape.Placed code)

include h

/-- A placed shape has a text. -/
theorem exists_textOf : ∃ text, (Source.ofText code).textOf shape = .ok text := by
  obtain ⟨hStart, hOrder, hStop⟩ := h.toCovers
  exact Source.exists_text hStart (by omega) (by omega) hStop h.start_boundary h.stop_boundary

/-- A placed shape has a span. -/
theorem exists_spanOf : ∃ span, (Source.ofText code).spanOf shape = .ok span := by
  obtain ⟨hStart, hOrder, hStop⟩ := h.toCovers
  exact Source.exists_span hStart (by omega) (by omega) hStop

end Shape.Placed

/-! ## Readings -/

/-- Whatever goes wrong at a concrete node and inside of it has the property. -/
inductive Reading.Checked (code : Text) (p : ParseError → Prop) : Reading → Prop
  | mk (shape : Shape) (node link : Read Node) (parts : Parts)
      (hPlaced : shape.Placed code)
      (hFurnished : shape.named = true → shape.isFurnished (parts.map Reading.shape) = true)
      (hNode : shape.named = true → FailsOnly node p)
      (hLink : shape.named = true → FailsOnly link p)
      (hBlock : shape.form = .statementBlock → Ensures node fun tree => tree.isBlock = true)
      (hParts : ∀ part ∈ parts, part.Checked code p) :
      Reading.Checked code p (.mk shape node link parts)

/-- The parts of a concrete node are all there, and whatever goes wrong in them has the property. -/
structure Parts.Checked (code : Text) (p : ParseError → Prop) (shape : Shape) (parts : Parts) :
    Prop where
  furnished : shape.isFurnished (parts.map Reading.shape) = true
  each : ∀ part ∈ parts, part.Checked code p

variable {code : Text} {p : ParseError → Prop}

namespace Reading.Checked

variable {r : Reading} (h : r.Checked code p)

include h

/-- The node has its place. -/
theorem placed : r.shape.Placed code := by
  obtain ⟨_, _, _, _, hPlaced, -⟩ := h
  exact hPlaced

/-- A named node fails only as it may. -/
theorem node (hNamed : r.shape.named = true) : FailsOnly r.node p := by
  obtain ⟨_, _, _, _, -, -, hNode, -⟩ := h
  exact hNode hNamed

/-- So does a named node that is a link of a chain. -/
theorem link (hNamed : r.shape.named = true) : FailsOnly r.link p := by
  obtain ⟨_, _, _, _, -, -, -, hLink, -⟩ := h
  exact hLink hNamed

/-- A block is read as a block. -/
theorem isBlock_node (hForm : r.shape.form = .statementBlock) :
    Ensures r.node fun tree => tree.isBlock = true := by
  obtain ⟨_, _, _, _, -, -, -, -, hBlock, -⟩ := h
  exact hBlock hForm

/-- The parts of a named node are checked. -/
theorem parts (hNamed : r.shape.named = true) : Parts.Checked code p r.shape r.parts := by
  obtain ⟨_, _, _, _, -, hFurnished, -, -, -, hParts⟩ := h
  exact ⟨hFurnished hNamed, hParts⟩

end Reading.Checked

namespace Parts

variable {r : Reading}

/-- The named parts are parts. -/
theorem of_mem_named {parts : Parts} (h : r ∈ parts.named) : r ∈ parts ∧ r.shape.named = true := by
  obtain ⟨hMem, hNamed⟩ := List.mem_filter.1 h
  exact ⟨hMem, (Bool.and_eq_true_iff.1 hNamed).1⟩

namespace Checked

variable {role : String} {form : Form}
  {shape : Shape} {parts : Parts} (h : Parts.Checked code p shape parts)

include h

/-- A required role is played. -/
theorem exists_find? (hRole : role ∈ shape.form.requires) : ∃ r, parts.find? role = some r := by
  obtain ⟨child, hChild, hField⟩ := (Shape.isFurnished_iff.1 h.furnished).1 role hRole
  obtain ⟨r, hr, rfl⟩ := List.mem_map.1 hChild
  cases hFind : parts.find? role with
  | some found => exact ⟨found, rfl⟩
  | none =>
    have hOther := List.find?_eq_none.1 hFind r hr
    simp [hField] at hOther

/-- A part is named, or a token that the form allows. -/
theorem named_or_token (hr : r ∈ parts) :
    r.shape.named = true ∨ shape.form.allowsToken r.shape = true :=
  ((Shape.isFurnished_iff.1 h.furnished).2.2.2 _ (List.mem_map_of_mem hr)).1

/-- Some roles fix the form. -/
theorem form_of_role (hr : r ∈ parts) (hForm : shape.form.roleForm? r.shape.field = some form) :
    r.shape.form = form :=
  (((Shape.isFurnished_iff.1 h.furnished).2.2.2 _ (List.mem_map_of_mem hr)).2 form hForm).symm

/-- No token plays the role of a part. -/
theorem named_of_role (hr : r ∈ parts) (hRole : shape.form.isPartRole r.shape.field = true) :
    r.shape.named = true := by
  rcases h.named_or_token hr with hNamed | hToken
  · exact hNamed
  · unfold Form.isPartRole at hRole
    unfold Form.allowsToken at hToken
    split at hToken <;> simp_all

/-- What plays the role of a part is checked. -/
theorem checked_of_find? (hRole : shape.form.isPartRole role = true)
    (hr : parts.find? role = some r) : r.Checked code p ∧ r.shape.named = true := by
  obtain ⟨hMem, hField⟩ := mem_of_find? hr
  exact ⟨h.each r hMem, h.named_of_role hMem (hField ▸ hRole)⟩

/-- A required part is found. -/
theorem failsOnly_get (hRole : role ∈ shape.form.requires) : FailsOnly (parts.get role) p := by
  obtain ⟨r, hr⟩ := h.exists_find? hRole
  simp [Parts.get, hr]

/-- What takes a required part may rely on it. -/
theorem failsOnly_get_bind {α : Type} {f : Reading → Read α} (hForm : shape.form = form)
    (hRole : (form.requires.contains role && form.isPartRole role) = true)
    (hf : ∀ r : Reading, r.Checked code p → r.shape.named = true → FailsOnly (f r) p) :
    FailsOnly (parts.get role >>= f) p := by
  obtain ⟨hRequired, hPart⟩ := Bool.and_eq_true_iff.1 (hForm ▸ hRole)
  refine (h.failsOnly_get (List.contains_iff_mem.1 hRequired)).bind fun r hr => ?_
  obtain ⟨hChecked, hNamed⟩ := h.checked_of_find? hPart (find?_of_get hr)
  exact hf r hChecked hNamed

/-- A required node fails only as it may. -/
theorem failsOnly_node (hForm : shape.form = form)
    (hRole : (form.requires.contains role && form.isPartRole role) = true) :
    FailsOnly (parts.node role) p :=
  h.failsOnly_get_bind hForm hRole fun _ hChecked hNamed => hChecked.node hNamed

/-- So does a node that may be missing. -/
theorem failsOnly_node? (hForm : shape.form = form) (hPart : form.isPartRole role = true) :
    FailsOnly (parts.node? role) p := by
  unfold Parts.node?
  cases hFind : parts.find? role with
  | none => exact failsOnly_ok
  | some r =>
    obtain ⟨hChecked, hNamed⟩ := h.checked_of_find? (hForm ▸ hPart) hFind
    exact (hChecked.node hNamed).bind_pure

/-- So does each named part. -/
theorem failsOnly_of_named (hr : r ∈ parts.named) : FailsOnly r.node p :=
  (h.each r (of_mem_named hr).1).node (of_mem_named hr).2

/-- So does the operand that a form encloses. -/
theorem failsOnly_operand (hForm : shape.form = form) (hOperand : form.enclosesOperand = true) :
    FailsOnly parts.operand p := by
  unfold Parts.operand
  cases hNamed : parts.named with
  | nil =>
    have hChild := (Shape.isFurnished_iff.1 h.furnished).2.1 (hForm ▸ hOperand)
    exact absurd hNamed (Parts.named_ne_nil_of_child hChild)
  | cons r rest => exact h.failsOnly_of_named (by simp [hNamed])

/-- So does an operand that may be missing. -/
theorem failsOnly_operand? : FailsOnly parts.operand? p := by
  unfold Parts.operand?
  cases hNamed : parts.named with
  | nil => exact failsOnly_ok
  | cons r rest =>
    exact (h.failsOnly_of_named (by simp [hNamed])).bind_pure

/-- What may rely on a named part may be done with all of them. -/
theorem failsOnly_mapM_named {α : Type} {f : Reading → Read α}
    (hf : ∀ r : Reading, r.Checked code p → r.shape.named = true → FailsOnly (f r) p) :
    FailsOnly (parts.named.mapM f) p := by
  refine failsOnly_mapM fun r hr => ?_
  obtain ⟨hMem, hNamed⟩ := of_mem_named hr
  exact hf r (h.each r hMem) hNamed

/-- All named parts fail only as they may. -/
theorem failsOnly_nodes : FailsOnly parts.nodes p :=
  h.failsOnly_mapM_named fun _ hChecked hNamed => hChecked.node hNamed

end Checked

end Parts

end Assay
