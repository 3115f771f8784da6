import Assay.Proofs.Concrete.Assembly
import Assay.Proofs.Outcome
import Mathlib.Control.Basic

/-!
# Comments mean nothing

Comments may stand between any two tokens of a program. `Concrete.Padded` relates a concrete tree to
one with more of them, and `Script.parse_padded` says that both are read alike. A reading without its
comments (`Reading.bare`) is all that the handlers look at; only an update looks at its first child,
whatever that is, so nothing may be put before it.
-/

set_option autoImplicit false

namespace Assay

variable {field : String} {shape : Shape}

/-- Whether the shape is that of a comment that has no role and no fault. -/
def Shape.isSilent (shape : Shape) : Bool :=
  shape.form.isNoise && shape.field == "" && !shape.missing && !shape.faulty

namespace Concrete

/-- The first child of an update is still the first. -/
def KeepsLead (shape : Shape) (children padded : List Concrete) : Prop :=
  shape.form = .updateExpression →
    ∀ first ∈ children.head?, ∃ lead ∈ padded.head?, lead.shape = first.shape

/-- The second list of trees has more comments than the first, between its trees and inside of
them. -/
inductive PaddedAll : List Concrete → List Concrete → Prop
  | nil : PaddedAll [] []
  | comment {comment : Concrete} {trees padded : List Concrete} :
      comment.shape.isSilent = true → PaddedAll trees padded → PaddedAll trees (comment :: padded)
  | keep {shape : Shape} {children padded rest others : List Concrete} :
      PaddedAll children padded → KeepsLead shape children padded → PaddedAll rest others →
      PaddedAll (.mk shape children :: rest) (.mk shape padded :: others)

/-- The second tree is the first one with more comments in it. -/
def Padded (tree padded : Concrete) : Prop := PaddedAll [tree] [padded]

end Concrete

/-! ## Readings without comments -/

mutual

/-- A reading without the comments in it. -/
def Reading.bare : Reading → Reading
  | .mk shape node link parts => .mk shape node link (Parts.bare parts)

/-- Readings without comments among them and in them. -/
def Parts.bare : List Reading → List Reading
  | [] => []
  | r :: rest => if r.shape.isSilent then Parts.bare rest else r.bare :: Parts.bare rest

end

namespace Reading

variable (r : Reading)

@[simp] theorem shape_bare : r.bare.shape = r.shape := by
  cases r
  rw [bare]
  rfl

@[simp] theorem form_bare : r.bare.form = r.form := by
  rw [form, shape_bare, form]

@[simp] theorem node_bare : r.bare.node = r.node := by
  cases r
  rw [bare]
  rfl

@[simp] theorem link_bare : r.bare.link = r.link := by
  cases r
  rw [bare]
  rfl

@[simp] theorem parts_bare : r.bare.parts = Parts.bare r.parts := by
  cases r
  rw [bare]
  rfl

end Reading

theorem Shape.of_isSilent (h : shape.isSilent = true) :
    shape.form.isNoise = true ∧ shape.field = "" ∧ shape.missing = false ∧ shape.faulty = false := by
  simpa [isSilent, and_assoc] using h

theorem Form.name_of_isNoise {form : Form} (h : form.isNoise = true) :
    form.name ∈ ["comment", "html_comment", "hash_bang_line"] := by
  unfold isNoise at h
  split at h
  · simp [name]
  · simp [name]
  · simp [name]
  · contradiction

namespace Parts

variable (parts : Parts)

/-- A choice among readings that never falls on a comment. -/
theorem filter_bare {p : Reading → Bool} (hBare : ∀ r : Reading, p r.bare = p r)
    (hSilent : ∀ r : Reading, r.shape.isSilent = true → p r = false) :
    (bare parts).filter p = (parts.filter p).map Reading.bare := by
  induction parts with
  | nil => rfl
  | cons r rest ih =>
    rw [bare, List.filter_cons]
    cases hShape : r.shape.isSilent with
    | true => simp [hSilent r hShape, ih]
    | false => cases hChoice : p r <;> simp [hBare, hChoice, ih]

@[simp] theorem named_bare : named (bare parts) = parts.named.map Reading.bare := by
  refine filter_bare parts (fun r => by simp) fun r hSilent => ?_
  have hNoise : r.form.isNoise = true := (Shape.of_isSilent hSilent).1
  simp [hNoise]

/-- Comments have no role. -/
theorem filter_field_bare (h : field ≠ "") :
    (bare parts).filter (fun r => r.shape.field == field) =
      (parts.filter fun r => r.shape.field == field).map Reading.bare := by
  refine filter_bare parts (fun r => by simp) fun r hSilent => ?_
  rw [(Shape.of_isSilent hSilent).2.1, beq_eq_false_iff_ne]
  exact h.symm

@[simp] theorem find?_bare (h : field ≠ "") :
    find? (bare parts) field = (parts.find? field).map Reading.bare := by
  unfold find?
  rw [← List.head?_filter, filter_field_bare parts h, List.head?_map, List.head?_filter]

@[simp] theorem get_bare (h : field ≠ "") :
    get (bare parts) field = Reading.bare <$> parts.get field := by
  rw [get, find?_bare parts h, get]
  cases parts.find? field <;> rfl

@[simp] theorem node_bare (h : field ≠ "") : node (bare parts) field = parts.node field := by
  simp [node, get_bare parts h]

@[simp] theorem node?_bare (h : field ≠ "") : node? (bare parts) field = parts.node? field := by
  rw [node?, find?_bare parts h, node?]
  cases parts.find? field <;> simp

@[simp] theorem operand_bare : operand (bare parts) = parts.operand := by
  rw [operand, named_bare, operand]
  cases parts.named <;> simp

@[simp] theorem operand?_bare : operand? (bare parts) = parts.operand? := by
  rw [operand?, named_bare, operand?]
  cases parts.named <;> simp

@[simp high] theorem mapM_bare {α : Type} {f : Reading → Read α} (h : ∀ r, f r.bare = f r)
    (readings : List Reading) : (readings.map Reading.bare).mapM f = readings.mapM f := by
  rw [List.mapM_map]
  exact congrArg (readings.mapM ·) (funext h)

@[simp] theorem nodes_bare : nodes (bare parts) = parts.nodes := by
  rw [nodes, named_bare, mapM_bare Reading.node_bare, nodes]

/-- Comments are none of the tokens that are looked for. -/
@[simp] theorem hasToken_bare {tokens : List String}
    (h : ∀ name ∈ ["comment", "html_comment", "hash_bang_line"], tokens.contains name = false) :
    hasToken (bare parts) tokens = parts.hasToken tokens := by
  have hFilter := filter_bare parts (p := fun r => tokens.contains r.form.name)
    (fun r => by simp) fun r hSilent => h _ (Form.name_of_isNoise (Shape.of_isSilent hSilent).1)
  unfold hasToken
  rw [← List.isSome_find?, ← List.isSome_find?, ← List.head?_filter, hFilter, List.head?_map,
    Option.isSome_map, List.head?_filter]

@[simp] theorem isOptional_bare : isOptional (bare parts) = parts.isOptional :=
  hasToken_bare parts (by decide)

end Parts

/-! ## Handlers -/

namespace Lower

open Parts

variable (source : Source) (r : Reading) (parts : Parts) (span : Span)

@[simp] theorem propertyKey_bare : propertyKey r.bare = propertyKey r := by
  simp [propertyKey]

@[simp] theorem declarator_bare : declarator source r.bare = declarator source r := by
  simp [declarator]

@[simp] theorem loopClause_bare (h : field ≠ "") :
    loopClause (bare parts) field = loopClause parts field := by
  rw [loopClause, find?_bare parts h, loopClause]
  cases parts.find? field <;> simp

@[simp] theorem switchCase_bare : switchCase source r.bare = switchCase source r := by
  simp [switchCase, filter_field_bare]

@[simp] theorem forEach_bare : forEach source span (bare parts) = forEach source span parts := by
  simp [forEach]
  cases parts.find? "kind" <;> simp

@[simp] theorem tryStatement_bare :
    tryStatement source span (bare parts) = tryStatement source span parts := by
  simp [tryStatement]
  cases parts.find? "handler" <;> cases parts.find? "finalizer" <;> simp

@[simp] theorem function_bare (form : FunctionForm) (span : Span) :
    function form span (bare parts) = function form span parts := by
  simp [function]

@[simp] theorem arrow_bare : arrow span (bare parts) = arrow span parts := by
  simp [arrow]
  cases parts.find? "parameter" <;> simp

@[simp] theorem method_bare : method source (bare parts) = method source parts := by
  simp [method]

@[simp] theorem classMember_bare : classMember source r.bare = classMember source r := by
  simp [classMember]

@[simp] theorem heritage_bare (readings : List Reading) :
    heritage (readings.map Reading.bare) = heritage readings := by
  induction readings with
  | nil => rfl
  | cons r rest ih => simp [heritage, ih]

@[simp] theorem classNode_bare (form : ClassForm) (span : Span) :
    classNode source form span (bare parts) = classNode source form span parts := by
  simp [classNode]

@[simp] theorem fieldText_bare (h : field ≠ "") :
    fieldText source (bare parts) field = fieldText source parts field := by
  rw [fieldText, find?_bare parts h, fieldText]
  cases parts.find? field <;> simp

@[simp] theorem regex_bare (shape : Shape) (span : Span) :
    regex source shape span (bare parts) = regex source shape span parts := by
  simp [regex]

@[simp] theorem templateParts_bare (stop cursor : Int) :
    templateParts source stop cursor (bare parts) = templateParts source stop cursor parts := by
  induction parts generalizing cursor with
  | nil => rfl
  | cons r rest ih =>
    rw [bare]
    cases hSilent : r.shape.isSilent with
    | true =>
      have hForm : r.form ≠ .templateSubstitution := by
        intro hForm
        have hNoise := (Shape.of_isSilent hSilent).1
        rw [← Reading.form, hForm] at hNoise
        cases hNoise
      simp [templateParts, hForm, ih]
    | false => simp [templateParts, ih]

@[simp] theorem elements_bare (expecting : Bool) :
    elements expecting (bare parts) = elements expecting parts := by
  induction parts generalizing expecting with
  | nil => rfl
  | cons r rest ih =>
    rw [bare]
    cases hSilent : r.shape.isSilent with
    | true =>
      have hNoise : r.form.isNoise = true := (Shape.of_isSilent hSilent).1
      simp [elements, hNoise, ih]
    | false => simp [elements, ih]

@[simp] theorem pair_bare : pair source r.bare = pair source r := by
  simp [pair]

@[simp] theorem objectMember_bare : objectMember source r.bare = objectMember source r := by
  simp [objectMember]

@[simp] theorem patternMember_bare : patternMember source r.bare = patternMember source r := by
  simp [patternMember]

@[simp] theorem binary_bare : binary span (bare parts) = binary span parts := by
  simp [binary]

@[simp] theorem assignment_bare : assignment span (bare parts) = assignment span parts := by
  simp [assignment]
  cases parts.find? "operator" <;> simp

@[simp] theorem call_bare : call source span (bare parts) = call source span parts := by
  simp [call]

@[simp] theorem member_bare (h : field ≠ "") (computed : Bool) :
    member span (bare parts) field computed = member span parts field computed := by
  simp [member, h]

@[simp] theorem sequenceItems_bare (readings : List Reading) :
    sequenceItems (readings.map Reading.bare) = sequenceItems readings := by
  induction readings with
  | nil => rfl
  | cons r rest ih => simp [sequenceItems, ih]

/-- No handler looks at a comment, but for that of an update. -/
theorem linkAt_bare (h : shape.form ≠ .updateExpression) (span : Span) :
    linkAt source shape (bare parts) span = linkAt source shape parts span := by
  have hDeclarators : (parts.named.map Reading.bare).filter (·.form = .variableDeclarator) =
      (parts.named.filter (·.form = .variableDeclarator)).map Reading.bare := by
    simp [List.filter_map, Function.comp_def]
  unfold linkAt
  cases hForm : shape.form <;> simp_all
  · -- declarations with `var`
    cases parts.find? "kind" <;> simp
  · -- declarations with `let` and `const`
    cases parts.find? "kind" <;> simp
  · -- conditions
    cases parts.find? "alternative" <;> simp
  · -- constructor calls
    cases parts.find? "arguments" <;> simp

/-- An update looks at its first child, and if it has none, then it is not read at all. -/
theorem update_eq {others : Parts} (hBare : bare parts = bare others)
    (hLead : ∀ first ∈ parts.head?, ∃ lead ∈ others.head?, lead.shape = first.shape)
    (span : Span) : update span parts = update span others := by
  have hGet : Reading.bare <$> get parts "operator" = Reading.bare <$> get others "operator" := by
    rw [← get_bare parts (by decide), hBare, get_bare others (by decide)]
  have hNode : node parts "argument" = node others "argument" := by
    rw [← node_bare parts (by decide), hBare, node_bare others (by decide)]
  unfold update
  cases hOwn : get parts "operator" with
  | error failure =>
    cases hOther : get others "operator" with
    | error other =>
      rw [hOwn, hOther] at hGet
      exact congrArg Except.error (Except.error.inj hGet)
    | ok operator =>
      rw [hOwn, hOther] at hGet
      cases hGet
  | ok operator =>
    cases hOther : get others "operator" with
    | error failure =>
      rw [hOwn, hOther] at hGet
      cases hGet
    | ok other =>
      rw [hOwn, hOther] at hGet
      have hName : operator.form = other.form := by
        rw [← Reading.form_bare operator, Except.ok.inj hGet, Reading.form_bare]
      -- a node with an operator has a first child
      cases parts with
      | nil => cases hOwn
      | cons first rest =>
        obtain ⟨lead, hLead, hShape⟩ := hLead first rfl
        obtain ⟨more, rfl⟩ : ∃ more, others = lead :: more := List.head?_eq_some_iff.1 hLead
        have hForm : lead.form = first.form := by rw [Reading.form, hShape, Reading.form]
        simp only [Outcome.ok_bind, hNode, hName, hForm]

theorem link_eq {others : Parts} (hBare : bare parts = bare others)
    (hLead : shape.form = .updateExpression →
      ∀ first ∈ parts.head?, ∃ lead ∈ others.head?, lead.shape = first.shape) :
    link source shape parts = link source shape others := by
  have hLink (span : Span) : linkAt source shape parts span = linkAt source shape others span := by
    by_cases hForm : shape.form = .updateExpression
    · simp only [linkAt, hForm]
      exact update_eq parts hBare (hLead hForm) span
    · rw [← linkAt_bare source parts hForm, hBare, linkAt_bare source others hForm]
  rw [link, link, ← operand_bare parts, hBare, operand_bare others, funext hLink]

end Lower

namespace Concrete

variable {padded : List Concrete} {source : Source}

theorem head?_readings (trees : List Concrete) :
    (readings source trees).head? = trees.head?.map (reading source) := by
  cases trees <;> rfl

theorem link_readings_eq {children : List Concrete}
    (hBare : Parts.bare (readings source children) = Parts.bare (readings source padded))
    (hLead : KeepsLead shape children padded) :
    Lower.link source shape (readings source children) =
      Lower.link source shape (readings source padded) := by
  refine Lower.link_eq source _ hBare fun hForm first hFirst => ?_
  rw [head?_readings] at hFirst
  obtain ⟨child, hChild, rfl⟩ := Option.map_eq_some_iff.1 hFirst
  obtain ⟨lead, hLead, hShape⟩ := hLead hForm child hChild
  refine ⟨reading source lead, ?_, ?_⟩
  · rw [head?_readings]
    exact Option.mem_map_of_mem _ hLead
  · rw [shape_reading, shape_reading, hShape]

/-- Trees with more comments have the same readings without them. -/
theorem PaddedAll.bare_readings {trees : List Concrete} (h : PaddedAll trees padded) :
    Parts.bare (readings source trees) = Parts.bare (readings source padded) := by
  induction h with
  | nil => rfl
  | comment hSilent _ ih => simp [readings, Parts.bare, shape_reading, hSilent, ih]
  | @keep shape children padded _ _ _ hLead _ ihChildren ihRest =>
    have hTree : (reading source (.mk shape children)).bare =
        (reading source (.mk shape padded)).bare := by
      simp only [reading, Reading.bare, link_readings_eq ihChildren hLead, ihChildren]
    rw [readings, readings, Parts.bare, Parts.bare, shape_reading, shape_reading, hTree, ihRest]
    rfl

theorem PaddedAll.firstFaultIn?_eq {trees : List Concrete} (h : PaddedAll trees padded) :
    firstFaultIn? trees = firstFaultIn? padded := by
  induction h with
  | nil => rfl
  | comment hSilent _ ih =>
    obtain ⟨-, -, hMissing, hFaulty⟩ := Shape.of_isSilent hSilent
    simp [firstFaultIn?, hMissing, hFaulty, ih]
  | keep _ _ _ ihChildren ihRest =>
    simp [firstFaultIn?, firstFault?, shape, ihChildren, ihRest]

end Concrete

/-- A program is read alike whatever comments stand in it: both trees give the same syntax tree with
the same places, or fail with the same error. -/
theorem Script.parse_padded {tree padded : Concrete} (h : tree.Padded padded) (code : Text) :
    Script.parse ⟨code, padded⟩ = Script.parse ⟨code, tree⟩ := by
  cases h with
  | comment _ hNone => cases hNone
  | @keep shape children padded _ _ hChildren hLead _ =>
    have hNode (source : Source) : (Concrete.reading source (.mk shape padded)).node =
        (Concrete.reading source (.mk shape children)).node := by
      simp only [Concrete.reading, Concrete.link_readings_eq hChildren.bare_readings hLead,
        Reading.node]
    have hFault : Concrete.firstFault? (.mk shape padded) =
        Concrete.firstFault? (.mk shape children) := by
      simp only [Concrete.firstFault?, hChildren.firstFaultIn?_eq]
    simp only [parse, Concrete.refuseFault, hNode, hFault, Concrete.shape]
    rfl

namespace Script

/-- The tree of `[/**/,x/**/++/**/];` with what is given for each comment. -/
def holedArray (comment : Int → Int → List Concrete) : Concrete :=
  .part .program 0 19 "" [.part .expressionStatement 0 19 "" [.part .arrayLiteral 0 18 ""
    (Concrete.token 0 1 "[" "" :: comment 1 5 ++ Concrete.token 5 6 "," "" ::
      Concrete.part .updateExpression 6 13 ""
        (Concrete.part .identifier 6 7 "argument" [] :: comment 7 11 ++
          [Concrete.token 11 13 "++" "operator"]) ::
      comment 13 17 ++ [Concrete.token 17 18 "]" ""]), .token 18 19 ";" ""]]

/-- A comment. -/
def comment (start stop : Int) : Concrete := .part .comment start stop "" []

/-- The comment before the comma leaves the hole there, and the one before the operator leaves the
operator behind its operand. -/
theorem parse_padded_holedArray :
    (holedArray fun _ _ => []).Padded (holedArray fun start stop => [comment start stop]) ∧
      Script.parse ⟨"[/**/,x/**/++/**/];", holedArray fun start stop => [comment start stop]⟩ =
        Script.parse ⟨"[/**/,x/**/++/**/];", holedArray fun _ _ => []⟩ ∧
      Script.parse ⟨"[/**/,x/**/++/**/];", holedArray fun _ _ => []⟩ =
        .ok (.program (.between 0 19) [.expressionStatement (.between 0 19)
          (.arrayExpression (.between 0 18) [none, some (.update (.between 6 13) "++" false
            (.identifier (.between 6 7) "x"))])]) := by
  have hToken {shape : Shape} {rest others : List Concrete} (h : Concrete.PaddedAll rest others) :
      Concrete.PaddedAll (.mk shape [] :: rest) (.mk shape [] :: others) :=
    .keep .nil (by rintro - first ⟨⟩) h
  have hPadded : (holedArray fun _ _ => []).Padded
      (holedArray fun start stop => [comment start stop]) := by
    refine .keep (.keep (.keep ?_ (fun hForm => by cases hForm) (hToken .nil))
      (fun hForm => by cases hForm) .nil) (fun hForm => by cases hForm) .nil
    refine hToken (.comment rfl (hToken (.keep ?_ ?_ (.comment rfl (hToken .nil)))))
    · exact hToken (.comment rfl (hToken .nil))
    · rintro - first ⟨⟩
      exact ⟨_, rfl, rfl⟩
  exact ⟨hPadded, parse_padded hPadded _, rfl⟩

end Script

end Assay
