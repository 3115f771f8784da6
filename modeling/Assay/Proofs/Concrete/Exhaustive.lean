import Assay.Proofs.Concrete.Complete

/-!
# Concrete trees that are read to the end

`Script.isExhausted` says of a concrete tree that each child of a node stands where the reader of the
node looks: it is one of the items that are all read, or the first child in a role that is read, or it
has nothing in it. Tokens and comments are leaves. This holds of the trees that the grammar gives, with
two exceptions, which `Form.overlooks` names.

`Reading.Clean` says that a reading holds no unsupported form outside of these exceptions, and
`Reading.Faithful` that whatever is read in it is clean. What the reader of a construct has to do for
that is `Parts.Taken`.
-/

set_option autoImplicit false

namespace Assay

variable {form : Form} {role : String} {part : Reading}

namespace Form

/-- The forms that a program is refused for. -/
def isUnsupported : Form → Bool
  | .importStatement | .exportStatement | .importKeyword | .withStatement | .decorator | .jsxElement
  | .jsxSelfClosingElement => true
  | _ => false

/-- Whether a reader of the first form passes over the second: over the decorators of a class or of one
of its members, and over the words of a meta property. -/
def overlooks : Form → Form → Bool
  | .classDeclaration, .decorator | .classKeyword, .decorator | .methodDefinition, .decorator
  | .fieldDefinition, .decorator => true
  | .metaProperty, _ => true
  | _, _ => false

/-- Whether the second form is a piece of a token of the first form. -/
def ignores : Form → Form → Bool
  | .stringLiteral, .other name | .templateString, .other name =>
    ["string_fragment", "escape_sequence", "html_character_reference"].contains name
  | .regexLiteral, .other name => ["regex_pattern", "regex_flags"].contains name
  | .callExpression, .other name | .memberExpression, .other name
  | .subscriptExpression, .other name => name == "optional_chain"
  | _, _ => false

/-- Whether there is no reader for the form, so that nothing has to be known about what is in it. -/
def isForeign : Form → Bool
  | .fault => true
  | .other name =>
    !(["formal_parameters", "arguments", "class_body", "switch_body", "switch_default",
      "else_clause", "catch_clause", "finally_clause", "string_fragment", "escape_sequence",
      "html_character_reference", "regex_pattern", "regex_flags", "optional_chain", "[", "]", ",",
      ";"].contains name)
  | form => form.isUnsupported

/-- Whether only the first child that is more than a token is read. -/
def isSingle : Form → Bool
  | .returnStatement | .throwStatement | .yieldExpression => true
  | form => form.enclosesOperand

/-- The roles in which the first child is read. -/
def roles : Form → List String
  | .ifStatement => ["condition", "consequence", "alternative"]
  | .switchStatement => ["value", "body"]
  | .forStatement => ["initializer", "condition", "increment", "body"]
  | .forInStatement => ["left", "value", "right", "body"]
  | .whileStatement | .doStatement => ["condition", "body"]
  | .tryStatement => ["handler", "finalizer", "body"]
  | .other "catch_clause" => ["parameter", "body"]
  | .other "finally_clause" | .classStaticBlock => ["body"]
  | .breakStatement | .continueStatement => ["label"]
  | .labeledStatement => ["label", "body"]
  | .functionDeclaration | .generatorFunctionDeclaration | .functionExpression | .functionKeyword
  | .generatorFunction | .methodDefinition => ["name", "parameters", "body"]
  | .arrowFunction => ["parameter", "parameters", "body"]
  | .classDeclaration | .classKeyword => ["name", "body"]
  | .fieldDefinition => ["property", "value"]
  | .variableDeclarator => ["name", "value"]
  | .switchCase => ["value"]
  | .pair | .pairPattern => ["key", "value"]
  | .binaryExpression | .assignmentExpression | .augmentedAssignmentExpression | .assignmentPattern
  | .objectAssignmentPattern => ["left", "right"]
  | .unaryExpression | .updateExpression => ["argument"]
  | .ternaryExpression => ["condition", "consequence", "alternative"]
  | .callExpression => ["function", "arguments"]
  | .newExpression => ["constructor", "arguments"]
  | .memberExpression => ["object", "property"]
  | .subscriptExpression => ["object", "index"]
  | _ => []

/-- Whether each child of the given shape is read. -/
def takesItem (form : Form) (child : Shape) : Bool :=
  match form with
  | .program | .statementBlock | .sequenceExpression | .arrayLiteral | .arrayPattern
  | .objectLiteral | .objectPattern | .other "formal_parameters" | .other "arguments"
  | .other "class_body" => true
  | .variableDeclaration | .lexicalDeclaration => child.form = .variableDeclarator
  | .other "switch_body" => child.form = .switchCase || child.form = .other "switch_default"
  | .switchCase | .other "switch_default" => child.field == "body"
  | .templateString => child.form = .templateSubstitution
  | .classDeclaration | .classKeyword => child.form = .classHeritage
  | form => form.isSingle

/-- The forms that may stand in a role, for the roles in which not just anything may stand. -/
def frames : Form → String → List Form
  | _, "parameters" => [.other "formal_parameters"]
  | .callExpression, "arguments" => [.other "arguments", .templateString]
  | .newExpression, "arguments" => [.other "arguments"]
  | .classDeclaration, "body" | .classKeyword, "body" => [.other "class_body"]
  | .switchStatement, "body" => [.other "switch_body"]
  | form, role => (form.roleForm? role).toList

theorem isUnsupported_of_isForeign (h : form.isForeign = false) : form.isUnsupported = false := by
  cases form <;> first | rfl | cases h

theorem isUnsupported_of_isNoise (h : form.isNoise = true) : form.isUnsupported = false := by
  cases form <;> first | rfl | cases h

/-- Whether a child is accounted for that follows children in the given roles. -/
def accounts (form : Form) (seen : List String) (child : Shape) : Bool :=
  if child.named then
    child.form.isNoise || form.ignores child.form || form.overlooks child.form ||
      form.takesItem child || form.roles.contains child.field && !seen.contains child.field
  else !child.form.isUnsupported || form.overlooks child.form

/-- Whether each child is accounted for. -/
def accountsAll (form : Form) (seen : List String) : List Shape → Bool
  | [] => true
  | child :: rest => form.accounts seen child && accountsAll form (child.field :: seen) rest

end Form

namespace Shape

/-- Whether all that stands in a node of the shape is read where the node is read. -/
def isExhausted (shape : Shape) (children : List Shape) : Bool :=
  (shape.named && !shape.form.isNoise || children.isEmpty) &&
    (shape.form.isForeign ||
      shape.form.accountsAll [] children &&
        (!shape.form.isSingle ||
          (children.filter fun child => child.named && !child.form.isNoise).length ≤ 1) &&
        (shape.form != .forInStatement || !(children.any (·.field == "value")) ||
          children.any (·.field == "kind")) &&
        (shape.form != .arrowFunction || !(children.any (·.field == "parameter")) ||
          !(children.any (·.field == "parameters"))) &&
        children.all fun child => (shape.form.frames child.field).isEmpty ||
          (shape.form.frames child.field).contains child.form)

end Shape

/-- Whether the concrete tree is one that is read to the end, unless it is refused. -/
def Script.isExhausted (script : Script) : Bool :=
  script.tree.shape.faulty || script.tree.all Shape.isExhausted

/-! ## Readings -/

open Outcome

/-- No form in the reading is unsupported, but for those that are overlooked. -/
inductive Reading.Clean : Reading → Prop
  | mk (shape : Shape) (node link : Read Node) (parts : Parts)
      (hForm : shape.form.isUnsupported = false)
      (hParts : ∀ part ∈ parts, shape.form.overlooks part.shape.form = false → part.Clean) :
      Reading.Clean (.mk shape node link parts)

/-- Whatever is read in the reading is clean. -/
inductive Reading.Faithful : Reading → Prop
  | mk (shape : Shape) (node link : Read Node) (parts : Parts)
      (hExhausted : shape.isExhausted (parts.map Reading.shape) = true)
      (hNode : Ensures node fun _ => Reading.Clean (.mk shape node link parts))
      (hLink : Ensures link fun _ => Reading.Clean (.mk shape node link parts))
      (hParts : ∀ part ∈ parts, part.Faithful) :
      Reading.Faithful (.mk shape node link parts)

namespace Parts

/-- The parts of a concrete node are accounted for, and whatever is read in them is clean. -/
structure Faithful (shape : Shape) (parts : Parts) : Prop where
  exhausted : shape.isExhausted (parts.map Reading.shape) = true
  each : ∀ part ∈ parts, part.Faithful

/-- What stands in the role, if something does, is clean. -/
def CleanAt (parts : Parts) (role : String) : Prop := ∀ part, parts.find? role = some part → part.Clean

/-- What a reader of the form reads is clean. -/
structure Taken (form : Form) (parts : Parts) : Prop where
  item : ∀ part ∈ parts.named, form.takesItem part.shape = true → part.Clean
  role : ∀ role ∈ form.roles, parts.CleanAt role

theorem cleanAt_of_find? {parts : Parts} (hFind : parts.find? role = some part)
    (hPart : part.Clean) : parts.CleanAt role := by
  intro other hOther
  rw [hFind] at hOther
  cases hOther
  exact hPart

theorem cleanAt_of_none {parts : Parts} (hFind : parts.find? role = none) : parts.CleanAt role := by
  intro other hOther
  simp [hFind] at hOther

theorem find?_eq_none_of_any {parts : Parts}
    (h : (parts.map Reading.shape).any (·.field == role) = false) : parts.find? role = none := by
  rw [find?, List.find?_eq_none]
  intro part hPart
  have := List.any_eq_false.1 h part.shape (List.mem_map_of_mem hPart)
  simpa using this

/-- A child that is accounted for is a token or has nothing in it, or it is taken. -/
theorem cases_of_accountsAll {parts : Parts} (hPart : part ∈ parts) {seen : List String}
    (h : form.accountsAll seen (parts.map Reading.shape) = true) :
    (part.shape.named = false ∧
        (part.shape.form.isUnsupported = false ∨ form.overlooks part.shape.form = true)) ∨
      part.shape.form.isNoise = true ∨ form.ignores part.shape.form = true ∨
      form.overlooks part.shape.form = true ∨
      (part.shape.named = true ∧ form.takesItem part.shape = true) ∨
      part.shape.field ∈ form.roles ∧ part.shape.field ∉ seen ∧
        parts.find? part.shape.field = some part := by
  induction parts generalizing seen with
  | nil => cases hPart
  | cons first rest ih =>
    simp only [List.map_cons, Form.accountsAll, Bool.and_eq_true] at h
    rcases List.mem_cons.1 hPart with rfl | hLater
    · have hHere := h.1
      unfold Form.accounts at hHere
      split at hHere
      · rename_i hNamed
        simp only [Bool.or_eq_true, Bool.and_eq_true, Bool.not_eq_true', List.contains_eq_mem,
          decide_eq_true_eq, decide_eq_false_iff_not] at hHere
        simp only [find?, List.find?_cons_of_pos, beq_self_eq_true, and_true]
        tauto
      · simp_all
    · rcases ih hLater h.2 with hCase | hCase | hCase | hCase | hCase | ⟨hRole, hSeen, hFind⟩
      · exact .inl hCase
      · exact .inr (.inl hCase)
      · exact .inr (.inr (.inl hCase))
      · exact .inr (.inr (.inr (.inl hCase)))
      · exact .inr (.inr (.inr (.inr (.inl hCase))))
      · rw [List.mem_cons, not_or] at hSeen
        refine .inr (.inr (.inr (.inr (.inr ⟨hRole, hSeen.2, ?_⟩))))
        have hOther : (first.shape.field == part.shape.field) = false := by
          simpa using fun hSame => hSeen.1 hSame.symm
        rw [find?, List.find?_cons_of_neg (by simp [hOther])]
        exact hFind

end Parts

theorem Reading.clean_of_parts {r : Reading} (hForm : r.shape.form.isUnsupported = false)
    (hParts : ∀ part ∈ r.parts, r.shape.form.overlooks part.shape.form = false → part.Clean) :
    r.Clean := by
  obtain ⟨shape, node, link, parts⟩ := r
  exact ⟨shape, node, link, parts, hForm, hParts⟩

namespace Reading.Faithful

variable {r : Reading} (h : r.Faithful)

include h

theorem node : Ensures r.node fun _ => r.Clean := by
  obtain ⟨_, _, _, _, -, hNode, -⟩ := h
  exact hNode

theorem link : Ensures r.link fun _ => r.Clean := by
  obtain ⟨_, _, _, _, -, -, hLink, -⟩ := h
  exact hLink

theorem parts : Parts.Faithful r.shape r.parts := by
  obtain ⟨_, _, _, _, hExhausted, -, -, hParts⟩ := h
  exact ⟨hExhausted, hParts⟩

theorem clean_of_leaf (hLeaf : r.shape.named = false ∨ r.shape.form.isNoise = true)
    (hForm : r.shape.form.isUnsupported = false) : r.Clean := by
  have hEmpty : r.parts = [] := by
    have hExhausted := h.parts.exhausted
    simp only [Shape.isExhausted, Bool.and_eq_true, Bool.or_eq_true, List.isEmpty_iff] at hExhausted
    rcases hExhausted.1 with ⟨hNamed, hNoise⟩ | hEmpty
    · rcases hLeaf with hLeaf | hLeaf
      · simp [hLeaf] at hNamed
      · simp [hLeaf] at hNoise
    · exact List.map_eq_nil_iff.1 hEmpty
  exact Reading.clean_of_parts hForm (by simp [hEmpty])

end Reading.Faithful

/-- A form whose reader looks at no child. -/
structure Form.IsBare (form : Form) : Prop where
  foreign : form.isForeign = false
  roles : form.roles = []
  takesItem : ∀ child, form.takesItem child = false
  ignores : ∀ child, form.ignores child = false
  overlooks : ∀ child, form.overlooks child = false

theorem Form.isBare_of_ignores {child : Form} (h : form.ignores child = true) : child.IsBare := by
  obtain ⟨name, rfl, hName⟩ : ∃ name, child = .other name ∧
      ["string_fragment", "escape_sequence", "html_character_reference", "regex_pattern",
        "regex_flags", "optional_chain"].contains name = true := by
    unfold Form.ignores at h
    split at h
    all_goals simp_all
    all_goals tauto
  simp only [List.contains_iff_mem, List.mem_cons, List.not_mem_nil, or_false] at hName
  rcases hName with rfl | rfl | rfl | rfl | rfl | rfl
  all_goals exact ⟨rfl, rfl, fun _ => rfl, fun _ => rfl, fun _ => rfl⟩

namespace Parts.Faithful

variable {shape : Shape} {parts : Parts} (h : Parts.Faithful shape parts)

include h

theorem accounted (hForeign : shape.form.isForeign = false) :
    shape.form.accountsAll [] (parts.map Reading.shape) = true := by
  have := h.exhausted
  simp only [Shape.isExhausted, hForeign, Bool.false_or, Bool.and_eq_true] at this
  exact this.2.1.1.1.1

theorem named_length_le (hForeign : shape.form.isForeign = false)
    (hSingle : shape.form.isSingle = true) : parts.named.length ≤ 1 := by
  have hExhausted := h.exhausted
  simp only [Shape.isExhausted, hForeign, hSingle, Bool.false_or, Bool.not_true, Bool.and_eq_true,
    decide_eq_true_eq, List.filter_map, List.length_map] at hExhausted
  exact hExhausted.2.1.1.1.2

theorem form_of_role {r : Reading} (hr : r ∈ parts) (hForeign : shape.form.isForeign = false)
    (hFrames : shape.form.frames r.shape.field ≠ []) :
    r.shape.form ∈ shape.form.frames r.shape.field := by
  have hExhausted := h.exhausted
  simp only [Shape.isExhausted, hForeign, Bool.false_or, Bool.and_eq_true, List.all_eq_true,
    Bool.or_eq_true, List.isEmpty_iff, List.contains_iff_mem] at hExhausted
  exact (hExhausted.2.2 r.shape (List.mem_map_of_mem hr)).resolve_left hFrames

/-- In the head of a loop a value stands only behind a kind. -/
theorem find?_value (hForm : shape.form = .forInStatement) (hKind : parts.find? "kind" = none) :
    parts.find? "value" = none := by
  have hExhausted := h.exhausted
  simp only [Shape.isExhausted, hForm, Form.isForeign, Form.isUnsupported, Bool.false_or,
    Bool.and_eq_true, Bool.or_eq_true, bne_self_eq_false, Bool.not_eq_true'] at hExhausted
  refine find?_eq_none_of_any (hExhausted.2.1.1.2.resolve_right fun hAny => ?_)
  obtain ⟨child, hChild, hField⟩ := List.any_eq_true.1 hAny
  obtain ⟨part, hPart, rfl⟩ := List.mem_map.1 hChild
  exact List.find?_eq_none.1 hKind part hPart hField

/-- An arrow function has one parameter or a list of them. -/
theorem find?_parameters (hForm : shape.form = .arrowFunction) {r : Reading}
    (hParameter : parts.find? "parameter" = some r) : parts.find? "parameters" = none := by
  have hExhausted := h.exhausted
  simp only [Shape.isExhausted, hForm, Form.isForeign, Form.isUnsupported, Bool.false_or,
    Bool.and_eq_true, Bool.or_eq_true, bne_self_eq_false, Bool.not_eq_true'] at hExhausted
  refine find?_eq_none_of_any (hExhausted.2.1.2.resolve_left fun hNone => ?_)
  obtain ⟨hMem, hField⟩ := mem_of_find? hParameter
  have hAny := List.any_eq_false.1 hNone r.shape (List.mem_map_of_mem hMem)
  exact hAny (beq_iff_eq.2 hField)

/-- If what is read is clean, so is all that is not overlooked. -/
theorem clean_part (hForeign : shape.form.isForeign = false)
    (hTaken : Parts.Taken shape.form parts)
    (hIgnored : ∀ part ∈ parts, shape.form.ignores part.shape.form = true → part.Clean)
    (hPart : part ∈ parts) (hSeen : shape.form.overlooks part.shape.form = false) : part.Clean := by
  have hFaithful := h.each part hPart
  by_cases hNoise : part.shape.form.isNoise = true
  · exact hFaithful.clean_of_leaf (.inr hNoise) (Form.isUnsupported_of_isNoise hNoise)
  rcases Parts.cases_of_accountsAll hPart (h.accounted hForeign) with
    ⟨hNamed, hForm⟩ | hNoise' | hIgnores | hOverlooked | ⟨hNamed, hItem⟩ | ⟨hRole, -, hFind⟩
  · refine hFaithful.clean_of_leaf (.inl hNamed) (hForm.resolve_right ?_)
    simp [hSeen]
  · exact absurd hNoise' hNoise
  · exact hIgnored part hPart hIgnores
  · simp [hSeen] at hOverlooked
  · refine hTaken.item part (List.mem_filter.2 ⟨hPart, ?_⟩) hItem
    simp [hNamed, Reading.form, hNoise]
  · exact hTaken.role _ hRole part hFind

end Parts.Faithful

namespace Reading.Faithful

variable {r : Reading} (h : r.Faithful)

include h

theorem clean_of_bare (hBare : r.shape.form.IsBare) : r.Clean := by
  refine Reading.clean_of_parts (Form.isUnsupported_of_isForeign hBare.foreign)
    fun part hPart hSeen => ?_
  refine h.parts.clean_part hBare.foreign ⟨fun _ _ hItem => ?_, fun role hRole => ?_⟩
    (fun _ _ hIgnores => ?_) hPart hSeen
  · simp [hBare.takesItem] at hItem
  · simp [hBare.roles] at hRole
  · simp [hBare.ignores] at hIgnores

end Reading.Faithful

/-- A concrete node is clean if what its reader reads is clean. -/
theorem Parts.Faithful.clean {shape : Shape} {parts : Parts} (h : Parts.Faithful shape parts)
    (hForeign : shape.form.isForeign = false) (hTaken : Parts.Taken shape.form parts)
    (node link : Read Node) : Reading.Clean (.mk shape node link parts) := by
  refine Reading.clean_of_parts (Form.isUnsupported_of_isForeign hForeign) fun part hPart hSeen => ?_
  exact h.clean_part hForeign hTaken (fun other hOther hIgnores =>
    (h.each other hOther).clean_of_bare (Form.isBare_of_ignores hIgnores)) hPart hSeen

theorem Reading.Faithful.clean_of_taken {r : Reading} (h : r.Faithful)
    (hForeign : r.shape.form.isForeign = false) (hTaken : Parts.Taken r.shape.form r.parts) :
    r.Clean := by
  obtain ⟨shape, node, link, parts⟩ := r
  exact h.parts.clean hForeign hTaken node link

/-! ## What a reader that succeeds has taken -/

namespace Parts

theorem taken_of_roles {parts : Parts} (hItem : ∀ child, form.takesItem child = false)
    (hRole : form.roles.Forall parts.CleanAt) : Taken form parts :=
  ⟨fun _ _ h => by simp [hItem] at h, List.forall_iff_forall_mem.1 hRole⟩

theorem taken_of_items {parts : Parts} (hRoles : form.roles = [])
    (hItem : ∀ part ∈ parts.named, form.takesItem part.shape = true → part.Clean) :
    Taken form parts :=
  ⟨hItem, fun _ h => by simp [hRoles] at h⟩

theorem ensures_mapM_clean {α : Type} {readings : List Reading} {f : Reading → Read α}
    (hf : ∀ r ∈ readings, Ensures (f r) fun _ => r.Clean) :
    Ensures (readings.mapM f) fun _ => ∀ r ∈ readings, r.Clean := by
  intro values hValues r hr
  obtain ⟨value, hValue⟩ := succeeds_of_mapM hValues r hr
  exact hf r hr value hValue

namespace Faithful

variable {shape : Shape} {parts : Parts} (h : Parts.Faithful shape parts)

include h

theorem cleanAt_of_some {r : Reading} (hFind : parts.find? role = some r)
    (hr : r.Faithful → r.Clean) : parts.CleanAt role :=
  cleanAt_of_find? hFind (hr (h.each r (mem_of_find? hFind).1))

theorem cleanAt_of_get {r : Reading} (hGet : parts.get role = .ok r) (hr : r.Faithful → r.Clean) :
    parts.CleanAt role :=
  h.cleanAt_of_some (find?_of_get hGet) hr

theorem ensures_node (role : String) : Ensures (parts.node role) fun _ => parts.CleanAt role := by
  unfold Parts.node
  rw [ensures_bind]
  intro r hr tree hTree
  exact h.cleanAt_of_get hr fun hFaithful => hFaithful.node tree hTree

theorem ensures_node? (role : String) : Ensures (parts.node? role) fun _ => parts.CleanAt role := by
  unfold Parts.node?
  cases hFind : parts.find? role with
  | none => exact ensures_ok.2 (cleanAt_of_none hFind)
  | some r =>
    rw [ensures_bind]
    intro tree hTree
    exact ensures_pure.2 (h.cleanAt_of_some hFind fun hFaithful => hFaithful.node tree hTree)

theorem ensures_nodes : Ensures parts.nodes fun _ => ∀ r ∈ parts.named, r.Clean :=
  ensures_mapM_clean fun r hr => (h.each r (mem_of_named hr)).node

theorem ensures_operand? (hForm : shape.form = form)
    (hSingle : (form.isSingle && !form.isForeign && form.roles.isEmpty) = true) :
    Ensures parts.operand? fun _ => Parts.Taken shape.form parts := by
  simp only [Bool.and_eq_true, Bool.not_eq_true', List.isEmpty_iff, ← hForm] at hSingle
  have hLength := h.named_length_le hSingle.1.2 hSingle.1.1
  unfold Parts.operand?
  cases hNamed : parts.named with
  | nil => exact ensures_ok.2 (taken_of_items hSingle.2 (by simp [hNamed]))
  | cons r rest =>
    have hRest : rest = [] := by
      rw [hNamed, List.length_cons] at hLength
      exact List.length_eq_zero_iff.1 (by omega)
    rw [ensures_bind]
    intro tree hTree
    have hr : r ∈ parts := mem_of_named (by simp [hNamed])
    have hClean := (h.each r hr).node tree hTree
    exact ensures_pure.2 (taken_of_items hSingle.2 (by simpa [hNamed, hRest] using fun _ => hClean))

theorem ensures_operand (hForm : shape.form = form)
    (hSingle : (form.isSingle && !form.isForeign && form.roles.isEmpty) = true) :
    Ensures parts.operand fun _ => Parts.Taken shape.form parts := by
  have hOption := h.ensures_operand? hForm hSingle
  unfold Parts.operand? at hOption
  unfold Parts.operand
  cases hNamed : parts.named with
  | nil => exact ensures_error
  | cons r rest =>
    simp only [hNamed] at hOption
    intro tree hTree
    exact hOption (some tree) (by simp [hTree])

end Faithful

end Parts

namespace Reading.Faithful

variable {r : Reading} (h : r.Faithful)

include h

/-- What is made around an operand is clean if the operand is read. -/
theorem ensures_operand (hForm : r.shape.form = form)
    (hSingle : (form.isSingle && !form.isForeign && form.roles.isEmpty) = true) :
    Ensures r.parts.operand fun _ => r.Clean := by
  intro tree hTree
  have hForeign : r.shape.form.isForeign = false := by
    simp only [Bool.and_eq_true, Bool.not_eq_true'] at hSingle
    rw [hForm, hSingle.1.2]
  exact h.clean_of_taken hForeign (h.parts.ensures_operand hForm hSingle tree hTree)

/-- A list is clean if each of its items is. -/
theorem clean_of_items (hForeign : r.shape.form.isForeign = false)
    (hRoles : r.shape.form.roles = []) (hItems : ∀ part ∈ r.parts.named, part.Clean) : r.Clean :=
  h.clean_of_taken hForeign (Parts.taken_of_items hRoles fun part hPart _ => hItems part hPart)

/-- A list is clean if each of its items is read. -/
theorem ensures_nodes (hForm : r.shape.form = form) (hForeign : form.isForeign = false)
    (hRoles : form.roles = []) : Ensures r.parts.nodes fun _ => r.Clean := by
  subst hForm
  exact fun items hItems => h.clean_of_items hForeign hRoles (h.parts.ensures_nodes items hItems)

/-- A construct is clean if what stands in each of its roles is. -/
theorem clean_of_roles (hForm : r.shape.form = form) (hForeign : form.isForeign = false)
    (hItem : ∀ child, form.takesItem child = false)
    (hRole : form.roles.Forall r.parts.CleanAt) : r.Clean := by
  subst hForm
  exact h.clean_of_taken hForeign (Parts.taken_of_roles hItem hRole)

end Reading.Faithful

end Assay
