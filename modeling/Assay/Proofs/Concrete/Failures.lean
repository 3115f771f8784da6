import Assay.Proofs.Concrete.Complete

/-!
# How reading may fail

A program whose concrete tree has all its parts is read, or refused at a place of the program, or it
holds a token without a value: an escape whose number is no code point, or a decimal that ends in `n`
and cannot be read. There is one lemma for each reader of a construct, and `Lower.failsOnly_link`
puts them together for one concrete node.
-/

set_option autoImplicit false

namespace Assay

open Outcome

variable {code : Text} {p : ParseError → Prop}

/-- The property holds of every refusal at a place of the program. -/
def CoversRefusals (code : Text) (p : ParseError → Prop) : Prop :=
  ∀ (refusal : Refusal) (index : Int), 0 ≤ index → index ≤ code.length → p (.refused refusal index)

/-- The property holds of what may be wrong with the token that a shape covers. -/
structure Shape.CoversToken (code : Text) (p : ParseError → Prop) (shape : Shape) : Prop where
  escape {raw : Text} {failure : Escape.Failure} :
    shape.form = .stringLiteral ∨ shape.form = .templateString →
      (Source.ofText code).textOf shape = .ok raw → Escape.Oversized raw failure →
        p (.escape failure)
  numeral {raw : Text} {failure : Numeral.Failure} : shape.form = .numberLiteral →
    (Source.ofText code).textOf shape = .ok raw → Numeral.Unreadable raw failure →
      p (.numeral failure)

/-- The offset lies in the shape and cuts through no code point. -/
structure Shape.Cuts (code : Text) (shape : Shape) (offset : Int) : Prop where
  start_le : shape.start ≤ offset
  le_stop : offset ≤ shape.stop
  boundary : (Source.ofText code).isBoundary offset.toNat = true

section Places

variable {shape : Shape}

/-- The text of a placed shape can be taken. -/
theorem failsOnly_textOf (h : shape.Placed code) : FailsOnly ((Source.ofText code).textOf shape) p := by
  obtain ⟨text, hText⟩ := h.exists_textOf
  simp [hText]

/-- So can its span. -/
theorem failsOnly_spanOf (h : shape.Placed code) : FailsOnly ((Source.ofText code).spanOf shape) p := by
  obtain ⟨span, hSpan⟩ := h.exists_spanOf
  simp [hSpan]

/-- What reads at a placed shape has a span to read at. -/
theorem failsOnly_place {α : Type} (h : shape.Placed code) {build : Span → Read α}
    (hBuild : ∀ span, FailsOnly (build span) p) :
    FailsOnly ((Source.ofText code).place shape build) p := by
  obtain ⟨span, hSpan⟩ := h.exists_spanOf
  simpa [Source.place, hSpan] using hBuild span

/-- A refusal names a place of the program. -/
theorem failsOnly_refuse {α : Type} (hp : CoversRefusals code p) (h : shape.Placed code)
    (refusal : Refusal) : FailsOnly ((Source.ofText code).refuse refusal shape : Read α) p := by
  obtain ⟨index, last, hIndex, -, hNonneg, hLe, hLast⟩ :=
    Source.offset?_in_order h.start_nonneg h.ordered h.stop_le
  simp only [Source.refuse, Source.offset, hIndex, ok_bind]
  exact failsOnly_error.2 (hp refusal index hNonneg (by omega))

end Places

namespace Lower

variable {shape : Shape} {parts : Parts}

section Constructs

variable {r : Reading} {readings : List Reading} {role : String}

/-- A name is the text of its shape. -/
theorem failsOnly_identifier (h : shape.Placed code) :
    FailsOnly (identifier (Source.ofText code) shape) p :=
  failsOnly_place h fun _ => (failsOnly_textOf h).bind_pure

/-- A key is a node, or the operand between its brackets. -/
theorem failsOnly_propertyKey (h : r.Checked code p) (hNamed : r.shape.named = true) :
    FailsOnly (propertyKey r) p := by
  unfold propertyKey
  split
  · rename_i hForm
    exact ((h.parts hNamed).failsOnly_operand hForm rfl).bind_pure
  · exact (h.node hNamed).bind_pure

/-- A declarator has a name; its value may be missing. -/
theorem failsOnly_declarator (h : r.Checked code p) (hNamed : r.shape.named = true)
    (hForm : r.form = .variableDeclarator) : FailsOnly (declarator (Source.ofText code) r) p := by
  refine failsOnly_place h.placed fun span => ?_
  refine ((h.parts hNamed).failsOnly_node hForm (by rfl)).bind fun _ _ => ?_
  exact ((h.parts hNamed).failsOnly_node? hForm (by rfl)).bind_pure

/-- A case has statements; the default has no test. -/
theorem failsOnly_switchCase (h : r.Checked code p) (hNamed : r.shape.named = true) :
    FailsOnly (switchCase (Source.ofText code) r) p := by
  have hBody : r.shape.form.isPartRole "body" = true := by simp [Form.isPartRole]
  refine failsOnly_place h.placed fun span => ?_
  refine FailsOnly.bind (failsOnly_mapM fun part hPart => ?_) fun _ _ => ?_
  · obtain ⟨hMem, hField⟩ := List.mem_filter.1 hPart
    have hPartNamed := (h.parts hNamed).named_of_role hMem (beq_iff_eq.1 hField ▸ hBody)
    exact ((h.parts hNamed).each part hMem).node hPartNamed
  · dsimp only
    split
    · rename_i hForm
      exact ((h.parts hNamed).failsOnly_node? hForm (by rfl)).bind_pure
    · exact failsOnly_pure

variable (h : Parts.Checked code p shape parts)

include h

/-- A clause of a loop is missing, a semicolon, a statement or a node. -/
theorem failsOnly_loopClause (hForm : shape.form = .forStatement) (hRole : role ≠ "") :
    FailsOnly (loopClause parts role) p := by
  unfold loopClause
  cases hFind : parts.find? role with
  | none => exact failsOnly_ok
  | some r =>
    obtain ⟨hMem, hField⟩ := Parts.mem_of_find? hFind
    have hChecked := h.each r hMem
    dsimp only
    split
    · exact failsOnly_ok
    -- A token in the head of a loop is a semicolon.
    · rename_i hEmpty
      have hNamed : r.shape.named = true := by
        refine (h.named_or_token hMem).resolve_right fun hToken => ?_
        simp_all [Form.allowsToken, Reading.form]
      split
      · rename_i hStatement
        exact ((hChecked.parts hNamed).failsOnly_operand hStatement rfl).bind_pure
      · exact (hChecked.node hNamed).bind_pure

/-- The target of a loop may have a keyword in front, and with it a value. -/
theorem failsOnly_forEach (hForm : shape.form = .forInStatement) (span : Span) :
    FailsOnly (forEach (Source.ofText code) span parts) p := by
  refine h.failsOnly_get_bind hForm (by rfl) fun target hChecked hNamed => ?_
  refine (hChecked.node hNamed).bind fun pattern _ => ?_
  have hLoop (left : Node) : FailsOnly (do
      let right ← parts.node "right"
      let body ← parts.node "body"
      let operator ← parts.get "operator"
      if (← (Source.ofText code).textOf operator.shape) = ("of" : Text) then
        return Node.forOfStatement span left right body (parts.hasToken ["await"])
      else return Node.forInStatement span left right body : Read Node) p := by
    refine (h.failsOnly_node hForm (by rfl)).bind fun _ _ => ?_
    refine (h.failsOnly_node hForm (by rfl)).bind fun _ _ => ?_
    refine (h.failsOnly_get (by simp [hForm, Form.requires])).bind fun operator hOperator => ?_
    have hPlaced := (h.each operator (Parts.mem_of_find? (Parts.find?_of_get hOperator)).1).placed
    refine (failsOnly_textOf hPlaced).bind fun _ _ => ?_
    split <;> exact failsOnly_pure
  dsimp only
  split
  · exact hLoop pattern
  · rename_i kind hKind
    have hPlaced := (h.each kind (Parts.mem_of_find? hKind).1).placed
    refine FailsOnly.bind (failsOnly_place hChecked.placed fun _ => ?_) fun _ _ => ?_
    · exact (h.failsOnly_node? hForm (by rfl)).bind_pure
    · obtain ⟨whole, hWhole⟩ := Source.exists_span hPlaced.start_nonneg
        (Int.le_trans hPlaced.ordered hPlaced.stop_le)
        (Int.le_trans hChecked.placed.start_nonneg hChecked.placed.ordered) hChecked.placed.stop_le
      rw [hWhole, ok_bind]
      exact (failsOnly_textOf hPlaced).bind fun _ _ => hLoop _

/-- A block with two clauses, each of which may be missing. -/
theorem failsOnly_tryStatement (hForm : shape.form = .tryStatement) (span : Span) :
    FailsOnly (tryStatement (Source.ofText code) span parts) p := by
  have hClause (role : String) (form : Form) (hPart : Form.tryStatement.isPartRole role = true)
      (hRole : Form.tryStatement.roleForm? role = some form) (r : Reading)
      (hr : parts.find? role = some r) : r.shape.form = form ∧ r.Checked code p ∧
        r.shape.named = true := by
    obtain ⟨hMem, hField⟩ := Parts.mem_of_find? hr
    exact ⟨h.form_of_role hMem (by rw [hForm, hField, hRole]),
      h.checked_of_find? (hForm ▸ hPart) hr⟩
  have hBlock (handler finalizer : Option Node) : FailsOnly (do
      let block ← parts.node "body"
      return .tryStatement span block handler finalizer : Read Node) p :=
    (h.failsOnly_node hForm (by rfl)).bind_pure
  have hCatch (r : Reading) (hFind : parts.find? "handler" = some r) :
      FailsOnly ((Source.ofText code).place r.shape fun span =>
        return Node.catchClause span (← r.parts.node? "parameter") (← r.parts.node "body")) p := by
    obtain ⟨hClauseForm, hChecked, hNamed⟩ := hClause _ _ rfl rfl r hFind
    refine failsOnly_place hChecked.placed fun _ => ?_
    refine ((hChecked.parts hNamed).failsOnly_node? hClauseForm (by rfl)).bind fun _ _ => ?_
    exact ((hChecked.parts hNamed).failsOnly_node hClauseForm (by rfl)).bind_pure
  unfold tryStatement
  cases hFinally : parts.find? "finalizer" with
  | none =>
    cases hHandler : parts.find? "handler" with
    | none => exact hBlock none none
    | some r => exact (hCatch r hHandler).bind fun clause _ => hBlock (some clause) none
  | some last =>
    have hLast (handler : Option Node) : FailsOnly (do
        let body ← last.parts.node "body"
        let block ← parts.node "body"
        return .tryStatement span block handler (some body) : Read Node) p := by
      obtain ⟨hClauseForm, hChecked, hNamed⟩ := hClause _ _ rfl rfl last hFinally
      exact ((hChecked.parts hNamed).failsOnly_node hClauseForm (by rfl)).bind fun _ _ =>
        hBlock handler _
    cases hHandler : parts.find? "handler" with
    | none => exact hLast none
    | some r => exact (hCatch r hHandler).bind fun clause _ => hLast (some clause)

/-- A function has parameters and a body; its name may be missing. -/
theorem failsOnly_function (hParams : "parameters" ∈ shape.form.requires)
    (hBody : "body" ∈ shape.form.requires) (form : FunctionForm) (span : Span) :
    FailsOnly (function form span parts) p := by
  refine (h.failsOnly_node? rfl (by simp [Form.isPartRole])).bind fun _ _ => ?_
  refine h.failsOnly_get_bind rfl (by simp [Form.isPartRole, hParams]) fun _ hHead hNamed => ?_
  refine (hHead.parts hNamed).failsOnly_nodes.bind fun _ _ => ?_
  exact (h.failsOnly_node rfl (by simp [Form.isPartRole, hBody])).bind_pure

/-- An arrow function has a lone parameter or a list of them. -/
theorem failsOnly_arrow (hForm : shape.form = .arrowFunction) (span : Span) :
    FailsOnly (arrow span parts) p := by
  have hArrow (params : List Node) : FailsOnly (do
      let body ← parts.get "body"
      let tree ← body.node
      return .function .arrow span none params tree (parts.hasToken ["async"]) false
        (body.form != .statementBlock) : Read Node) p :=
    h.failsOnly_get_bind hForm (by rfl) fun _ hBody hNamed => (hBody.node hNamed).bind_pure
  unfold arrow
  dsimp only
  split
  · rename_i r hFind
    obtain ⟨hChecked, hNamed⟩ := h.checked_of_find? (by rw [hForm]; rfl) hFind
    exact (hChecked.node hNamed).bind fun _ _ => hArrow _
  · rename_i hNone
    -- Without a lone parameter there is a list of them.
    obtain ⟨head, hHead⟩ : ∃ head, parts.get "parameters" = .ok head := by
      obtain ⟨child, hChild, hField⟩ := (Shape.isFurnished_iff.1 h.furnished).2.2.1 hForm
      obtain ⟨r, hr, rfl⟩ := List.mem_map.1 hChild
      have hOther := List.find?_eq_none.1 hNone r hr
      cases hFind : parts.find? "parameters" with
      | some found => exact ⟨found, by simp [Parts.get, hFind]⟩
      | none =>
        have hAbsent := List.find?_eq_none.1 hFind r hr
        simp_all
    obtain ⟨hChecked, hNamed⟩ :=
      h.checked_of_find? (by rw [hForm]; rfl) (Parts.find?_of_get hHead)
    rw [hHead, ok_bind]
    exact (hChecked.parts hNamed).failsOnly_nodes.bind fun _ _ => hArrow _

/-- A method is a key and the function from its parameters to its body. -/
theorem failsOnly_method (hForm : shape.form = .methodDefinition) :
    FailsOnly (method (Source.ofText code) parts) p := by
  refine h.failsOnly_get_bind hForm (by rfl) fun name hName hNamed => ?_
  refine (failsOnly_propertyKey hName hNamed).bind fun _ _ => ?_
  refine h.failsOnly_get_bind hForm (by rfl) fun head hHead hHeadNamed => ?_
  refine h.failsOnly_get_bind hForm (by rfl) fun body hBody hBodyNamed => ?_
  obtain ⟨whole, hWhole⟩ := Source.exists_span hHead.placed.start_nonneg
    (Int.le_trans hHead.placed.ordered hHead.placed.stop_le)
    (Int.le_trans hBody.placed.start_nonneg hBody.placed.ordered) hBody.placed.stop_le
  rw [hWhole, ok_bind]
  refine (hHead.parts hHeadNamed).failsOnly_nodes.bind fun _ _ => ?_
  exact (hBody.node hBodyNamed).bind_pure

omit h

/-- A block has statements. -/
theorem failsOnly_blockBody {block : Node} (hBlock : block.isBlock = true) :
    FailsOnly (blockBody block) p := by
  cases block with
  | blockStatement | program => exact failsOnly_ok
  | _ => cases hBlock

/-- What is no method, field or static block is refused. -/
theorem failsOnly_classMember (hp : CoversRefusals code p) (h : r.Checked code p)
    (hNamed : r.shape.named = true) : FailsOnly (classMember (Source.ofText code) r) p := by
  have hParts := h.parts hNamed
  refine failsOnly_place h.placed fun span => ?_
  split
  · rename_i hForm
    exact (failsOnly_method hParts hForm).bind_pure
  · rename_i hForm
    refine hParts.failsOnly_get_bind hForm (by rfl) fun key hKey hKeyNamed => ?_
    refine (failsOnly_propertyKey hKey hKeyNamed).bind fun _ _ => ?_
    exact (hParts.failsOnly_node? hForm (by rfl)).bind_pure
  · rename_i hForm
    refine (hParts.failsOnly_node hForm (by rfl)).bind fun block hBlock => ?_
    obtain ⟨body, hBody, hTree⟩ := bind_eq_ok.1 hBlock
    obtain ⟨hMem, hField⟩ := Parts.mem_of_find? (Parts.find?_of_get hBody)
    have hBodyForm : body.shape.form = .statementBlock :=
      hParts.form_of_role hMem (by rw [← Reading.form, hForm, hField]; rfl)
    have hIsBlock := (hParts.each body hMem).isBlock_node hBodyForm block hTree
    exact (failsOnly_blockBody hIsBlock).bind_pure
  · exact failsOnly_refuse hp h.placed _

/-- Each parent of a class is an operand. -/
theorem failsOnly_heritage (h : ∀ r ∈ readings, r.Checked code p ∧ r.shape.named = true) :
    FailsOnly (heritage readings) p := by
  induction readings with
  | nil => exact failsOnly_ok
  | cons r rest ih =>
    obtain ⟨hChecked, hNamed⟩ := h r List.mem_cons_self
    have hRest := ih (List.forall_mem_cons.1 h).2
    unfold heritage
    split
    · rename_i hForm
      refine ((hChecked.parts hNamed).failsOnly_operand hForm rfl).bind fun _ _ => ?_
      exact hRest.bind_pure
    · exact hRest

/-- A class fails as its parents and its members do. -/
theorem failsOnly_classNode (hp : CoversRefusals code p) (h : Parts.Checked code p shape parts)
    (hBody : "body" ∈ shape.form.requires) (form : ClassForm) (span : Span) :
    FailsOnly (classNode (Source.ofText code) form span parts) p := by
  have hNamedParts (r : Reading) (hr : r ∈ parts.named) :
      r.Checked code p ∧ r.shape.named = true := by
    obtain ⟨hMem, hNamed⟩ := Parts.of_mem_named hr
    exact ⟨h.each r hMem, hNamed⟩
  refine (failsOnly_heritage hNamedParts).bind fun _ _ => ?_
  refine h.failsOnly_get_bind rfl (by simp [Form.isPartRole, hBody]) fun _ hChecked hNamed => ?_
  refine FailsOnly.bind ((hChecked.parts hNamed).failsOnly_mapM_named fun _ =>
    failsOnly_classMember hp) fun _ _ => ?_
  refine (h.failsOnly_node? rfl (by simp [Form.isPartRole])).bind fun _ _ => ?_
  exact (failsOnly_spanOf hChecked.placed).bind_pure

/-- A missing field has the empty text. -/
theorem failsOnly_fieldText (h : ∀ part ∈ parts, part.Checked code p) (role : String) :
    FailsOnly (fieldText (Source.ofText code) parts role) p := by
  unfold fieldText
  cases hFind : parts.find? role with
  | none => exact failsOnly_ok
  | some r => exact failsOnly_textOf (h r (Parts.mem_of_find? hFind).1).placed

/-- A regular expression is three texts. -/
theorem failsOnly_regex (hPlaced : shape.Placed code) (h : ∀ part ∈ parts, part.Checked code p)
    (span : Span) : FailsOnly (regex (Source.ofText code) shape span parts) p := by
  refine (failsOnly_textOf hPlaced).bind fun _ _ => ?_
  refine (failsOnly_fieldText h _).bind fun _ _ => ?_
  exact (failsOnly_fieldText h _).bind_pure

/-- Only an escape whose number is no code point has no value. -/
theorem failsOnly_unescape {body : Text}
    (h : ∀ failure, Escape.Oversized body failure → p (.escape failure)) :
    FailsOnly (unescape body) p := by
  unfold unescape
  cases hResolve : Escape.resolve body with
  | ok text => exact failsOnly_ok
  | error failure => exact failsOnly_error.2 (h failure (Escape.oversized_of_resolve hResolve))

/-- A piece of a template fails at such an escape. -/
theorem failsOnly_quasi (hPlaced : shape.Placed code) (hToken : shape.CoversToken code p)
    (hForm : shape.form = .templateString) {start stop : Int} (hStart : shape.Cuts code start)
    (hStop : shape.Cuts code stop) (tail : Bool) :
    FailsOnly (quasi (Source.ofText code) start stop tail) p := by
  obtain ⟨hNonneg, hOrder, hSize⟩ := hPlaced.toCovers
  have hStartLe := hStart.start_le
  have hLeStop := hStart.le_stop
  have hStopLow := hStop.start_le
  have hStopHigh := hStop.le_stop
  obtain ⟨raw, hRaw⟩ : ∃ raw, (Source.ofText code).text start stop = .ok raw :=
    Source.exists_text (by omega) (by omega) (by omega) (by omega) hStart.boundary hStop.boundary
  obtain ⟨span, hSpan⟩ : ∃ span, (Source.ofText code).span start stop = .ok span :=
    Source.exists_span (by omega) (by omega) (by omega) (by omega)
  obtain ⟨whole, hWhole⟩ := hPlaced.exists_textOf
  unfold quasi
  rw [hRaw, ok_bind, hSpan, ok_bind]
  refine FailsOnly.bind_pure (failsOnly_unescape fun failure hOversized => ?_)
  have hInfix : raw <:+: whole :=
    Source.text_infix hNonneg hStartLe hLeStop hStopLow hStopHigh hSize hRaw hWhole
  exact hToken.escape (.inr hForm) hWhole (hOversized.mono hInfix)

/-- Between the pieces stand operands. -/
theorem failsOnly_templateParts (hPlaced : shape.Placed code) (hToken : shape.CoversToken code p)
    (hForm : shape.form = .templateString) (hLast : shape.Cuts code (shape.stop - 1))
    (h : ∀ r ∈ readings, r.Checked code p ∧ shape.start ≤ r.shape.start ∧
      r.shape.stop ≤ shape.stop) {cursor : Int} (hCursor : shape.Cuts code cursor) :
    FailsOnly (templateParts (Source.ofText code) shape.stop cursor readings) p := by
  -- The cursor stays at the mark in front or behind a substitution.
  induction readings generalizing cursor with
  | nil =>
    exact (failsOnly_quasi hPlaced hToken hForm hCursor hLast _).bind_pure
  | cons r rest ih =>
    obtain ⟨hChecked, hLow, hHigh⟩ := h r List.mem_cons_self
    have hRest := fun other hOther => h other (List.mem_cons_of_mem r hOther)
    have hr := hChecked.placed
    have hOrder := hr.ordered
    unfold templateParts
    split
    · rename_i hSubstitution
      simp only [Bool.and_eq_true, decide_eq_true_eq] at hSubstitution
      have hFront : shape.Cuts code r.shape.start := ⟨hLow, by omega, hr.start_boundary⟩
      have hBehind : shape.Cuts code r.shape.stop := ⟨by omega, hHigh, hr.stop_boundary⟩
      refine (failsOnly_quasi hPlaced hToken hForm hCursor hFront _).bind fun _ _ => ?_
      refine ((hChecked.parts hSubstitution.1).failsOnly_operand hSubstitution.2 rfl).bind
        fun _ _ => ?_
      exact (ih hRest hBehind).bind_pure
    · exact ih hRest hCursor

/-- An element is what is no bracket, comma or comment. -/
theorem failsOnly_elements
    (h : ∀ r ∈ readings, r.form.isNoise = false → r.form ≠ .other "[" → r.form ≠ .other "]" →
      r.form ≠ .other "," → FailsOnly r.node p) (expecting : Bool) :
    FailsOnly (elements expecting readings) p := by
  induction readings generalizing expecting with
  | nil => exact failsOnly_ok
  | cons r rest ih =>
    have hRest := fun expecting => ih (fun other hOther => h other (List.mem_cons_of_mem r hOther))
      expecting
    unfold elements
    split_ifs with hSkip hComma hHole
    · exact hRest _
    · exact (hRest _).bind_pure
    · exact hRest _
    · simp only [Bool.or_eq_true, decide_eq_true_eq, not_or, Bool.not_eq_true] at hSkip
      refine (h r List.mem_cons_self hSkip.1.1 hSkip.1.2 hSkip.2 hComma).bind fun _ _ => ?_
      exact (hRest _).bind_pure

/-- A shorthand is a name twice. -/
theorem failsOnly_shorthand (h : shape.Placed code) :
    FailsOnly (shorthand (Source.ofText code) shape) p :=
  failsOnly_place h fun _ => (failsOnly_identifier h).bind_pure

/-- A pair is a key and a value. -/
theorem failsOnly_pair (h : r.Checked code p) (hNamed : r.shape.named = true)
    (hRequires : r.shape.form.requires = ["key", "value"]) :
    FailsOnly (pair (Source.ofText code) r) p := by
  have hParts := h.parts hNamed
  refine failsOnly_place h.placed fun span => ?_
  refine hParts.failsOnly_get_bind rfl (by simp [Form.isPartRole, hRequires])
    fun key hKey hKeyNamed => ?_
  refine (failsOnly_propertyKey hKey hKeyNamed).bind fun _ _ => ?_
  exact (hParts.failsOnly_node rfl (by simp [Form.isPartRole, hRequires])).bind_pure

/-- A member of an object: a pair, a shorthand, a method or a spread. -/
theorem failsOnly_objectMember (h : r.Checked code p) (hNamed : r.shape.named = true) :
    FailsOnly (objectMember (Source.ofText code) r) p := by
  unfold objectMember
  split
  · rename_i hForm
    exact failsOnly_pair h hNamed (by rw [← Reading.form, hForm]; rfl)
  · exact failsOnly_shorthand h.placed
  · rename_i hForm
    refine failsOnly_place h.placed fun _ => ?_
    exact (failsOnly_method (h.parts hNamed) hForm).bind_pure
  · exact h.node hNamed

/-- A member of a pattern: a pair, a shorthand, a default or a rest. -/
theorem failsOnly_patternMember (h : r.Checked code p) (hNamed : r.shape.named = true) :
    FailsOnly (patternMember (Source.ofText code) r) p := by
  unfold patternMember
  split
  · rename_i hForm
    exact failsOnly_pair h hNamed (by rw [← Reading.form, hForm]; rfl)
  · exact failsOnly_shorthand h.placed
  · rename_i hForm
    refine failsOnly_place h.placed fun _ => ?_
    refine ((h.parts hNamed).failsOnly_node hForm (by rfl)).bind fun _ _ => ?_
    exact ((h.parts hNamed).failsOnly_node hForm (by rfl)).bind_pure
  · exact h.node hNamed

/-- A sequence fails as its items do. -/
theorem failsOnly_sequenceItems (h : ∀ r ∈ readings, FailsOnly r.node p) :
    FailsOnly (sequenceItems readings) p := by
  induction readings with
  | nil => exact failsOnly_ok
  | cons r rest ih =>
    unfold sequenceItems
    refine (h r List.mem_cons_self).bind fun _ _ => ?_
    exact (ih (List.forall_mem_cons.1 h).2).bind_pure

include h

/-- An operator has two operands, logical or not. -/
theorem failsOnly_binary (hForm : shape.form = .binaryExpression) (span : Span) :
    FailsOnly (binary span parts) p := by
  refine (h.failsOnly_get (by simp [hForm, Form.requires])).bind fun _ _ => ?_
  refine (h.failsOnly_node hForm (by rfl)).bind fun _ _ => ?_
  refine (h.failsOnly_node hForm (by rfl)).bind fun _ _ => ?_
  split <;> exact failsOnly_pure

/-- An assignment has a target and a value. -/
theorem failsOnly_assignment (hRequires : shape.form.requires = ["left", "right"]) (span : Span) :
    FailsOnly (assignment span parts) p := by
  have hRole (role : String) (hRole : role ∈ ["left", "right"]) : FailsOnly (parts.node role) p := by
    refine h.failsOnly_node rfl ?_
    rcases List.mem_pair.1 hRole with rfl | rfl
    · simp [hRequires, Form.isPartRole]
    · simp [hRequires, Form.isPartRole]
  refine (hRole _ (by simp)).bind fun _ _ => ?_
  exact (hRole _ (by simp)).bind_pure

/-- Where its first part stands tells on which side the operator is. -/
theorem failsOnly_update (hForm : shape.form = .updateExpression) (span : Span) :
    FailsOnly (update span parts) p := by
  refine (h.failsOnly_get (by simp [hForm, Form.requires])).bind fun operator hOperator => ?_
  have hMem := (Parts.mem_of_find? (Parts.find?_of_get hOperator)).1
  dsimp only
  split
  · cases hMem
  · exact (h.failsOnly_node hForm (by rfl)).bind_pure

/-- A call of `import` is refused. -/
theorem failsOnly_call (hp : CoversRefusals code p) (hForm : shape.form = .callExpression)
    (span : Span) : FailsOnly (call (Source.ofText code) span parts) p := by
  refine h.failsOnly_get_bind hForm (by rfl) fun callee hCallee hNamed => ?_
  split
  · exact failsOnly_refuse hp hCallee.placed _
  refine h.failsOnly_get_bind hForm (by rfl) fun arguments hArguments hArgumentsNamed => ?_
  split
  · refine (hCallee.node hNamed).bind fun _ _ => ?_
    exact (hArguments.node hArgumentsNamed).bind_pure
  · refine (hCallee.link hNamed).bind fun _ _ => ?_
    exact (hArguments.parts hArgumentsNamed).failsOnly_nodes.bind_pure

/-- The object of a member is read as a link of its chain. -/
theorem failsOnly_member (hRole : role ∈ shape.form.requires)
    (hPart : shape.form.isPartRole role = true) (hObject : "object" ∈ shape.form.requires)
    (span : Span) (computed : Bool) : FailsOnly (member span parts role computed) p := by
  refine h.failsOnly_get_bind rfl (by simp [Form.isPartRole, hObject]) fun _ hChecked hNamed => ?_
  refine (hChecked.link hNamed).bind fun _ _ => ?_
  exact (h.failsOnly_node rfl (by simp [hRole, hPart])).bind_pure

end Constructs

section Links

variable (hp : CoversRefusals code p) (hToken : shape.CoversToken code p)
  (hWritten : shape.isWritten (Source.ofText code) = true) (hPlaced : shape.Placed code)
  (hOrder : Shape.inOrder shape.start shape.stop (parts.map Reading.shape) = true)
  (h : Parts.Checked code p shape parts)

include hToken hWritten hPlaced

/-- A numeral fails if it cannot be read. -/
theorem failsOnly_numeral (hForm : shape.form = .numberLiteral) (span : Span) :
    FailsOnly (do
      let raw ← (Source.ofText code).textOf shape
      match Numeral.read raw with
      | .ok value => return .literal span value (some raw) none
      | .error failure => .error (.numeral failure) : Read Node) p := by
  refine (failsOnly_textOf hPlaced).bind fun raw hRaw => ?_
  have hNumeral : Numeral.isNumeral raw = true := by
    simp only [Shape.isWritten, hForm] at hWritten
    simp only [Source.textOf, Source.text] at hRaw
    split at hRaw
    · rename_i text hText
      cases hRaw
      simpa [hText] using hWritten
    · cases hRaw
  rcases Numeral.read_of_isNumeral hNumeral with ⟨value, hValue⟩ | ⟨failure, hFailure, hUnreadable⟩
  · simp [hValue]
  · simpa [hFailure] using hToken.numeral hForm hRaw hUnreadable

/-- A template is cut behind its first mark and before its last. -/
theorem failsOnly_template (hForm : shape.form = .templateString)
    (hParts : ∀ r ∈ parts, r.Checked code p ∧ shape.start ≤ r.shape.start ∧
      r.shape.stop ≤ shape.stop) :
    FailsOnly (templateParts (Source.ofText code) shape.stop (shape.start + 1) parts) p := by
  simp only [Shape.isWritten, hForm, Bool.and_eq_true, decide_eq_true_eq, beq_iff_eq] at hWritten
  obtain ⟨⟨hLength, hFirst⟩, hLast⟩ := hWritten
  obtain ⟨hNonneg, hOrder, hSize⟩ := hPlaced.toCovers
  have hFront := Source.isBoundary_of_text? hNonneg (by omega) (by omega) (by omega) hFirst
  have hBehind := Source.isBoundary_of_text? (by omega) (by omega) (by omega) hSize hLast
  exact failsOnly_templateParts hPlaced hToken hForm ⟨by omega, by omega, hBehind.1⟩ hParts
    ⟨by omega, by omega, hFront.2⟩

include hp hOrder h

/-- Each construct fails as its reader may; a form without a reader is refused. -/
theorem failsOnly_linkAt (span : Span) :
    FailsOnly (linkAt (Source.ofText code) shape parts span) p := by
  have hBounds (r : Reading) (hr : r ∈ parts) : r.Checked code p ∧ shape.start ≤ r.shape.start ∧
      r.shape.stop ≤ shape.stop := by
    have hInside := Shape.inOrder_of_mem hOrder (List.mem_map_of_mem hr)
    exact ⟨h.each r hr, hInside.1, hInside.2.2⟩
  unfold linkAt
  cases hForm : shape.form
  case program | statementBlock => exact h.failsOnly_nodes.bind_pure
  case expressionStatement | awaitExpression | spreadElement | restPattern =>
    exact (h.failsOnly_operand hForm rfl).bind_pure
  case returnStatement | throwStatement | yieldExpression =>
    exact h.failsOnly_operand?.bind_pure
  case emptyStatement | debuggerStatement | thisKeyword | superKeyword | trueKeyword | falseKeyword
    | nullKeyword => exact failsOnly_pure
  case breakStatement | continueStatement =>
    exact (h.failsOnly_node? hForm (by rfl)).bind_pure
  case whileStatement | doStatement | labeledStatement | assignmentPattern =>
    refine (h.failsOnly_node hForm (by rfl)).bind fun _ _ => ?_
    exact (h.failsOnly_node hForm (by rfl)).bind_pure
  case ternaryExpression =>
    refine (h.failsOnly_node hForm (by rfl)).bind fun _ _ => ?_
    refine (h.failsOnly_node hForm (by rfl)).bind fun _ _ => ?_
    exact (h.failsOnly_node hForm (by rfl)).bind_pure
  case unaryExpression =>
    refine (h.failsOnly_get (by simp [hForm, Form.requires])).bind fun _ _ => ?_
    exact (h.failsOnly_node hForm (by rfl)).bind_pure
  case variableDeclaration | lexicalDeclaration =>
    refine FailsOnly.bind (failsOnly_mapM fun r hr => ?_) fun _ _ => ?_
    · obtain ⟨hMem, hDeclarator⟩ := List.mem_filter.1 hr
      obtain ⟨hPart, hNamed⟩ := Parts.of_mem_named hMem
      exact failsOnly_declarator (h.each r hPart) hNamed (by simpa using hDeclarator)
    · dsimp only
      split
      · rename_i kind hKind
        have hKindPlaced := (h.each kind (Parts.mem_of_find? hKind).1).placed
        exact (failsOnly_textOf hKindPlaced).bind_pure
      · exact failsOnly_pure
  case ifStatement =>
    have hIf (alternate : Option Node) : FailsOnly (do
        let test ← parts.node "condition"
        let consequent ← parts.node "consequence"
        return .ifStatement span test consequent alternate : Read Node) p := by
      refine (h.failsOnly_node hForm (by rfl)).bind fun _ _ => ?_
      exact (h.failsOnly_node hForm (by rfl)).bind_pure
    dsimp only
    split
    · rename_i r hFind
      obtain ⟨hMem, hField⟩ := Parts.mem_of_find? hFind
      obtain ⟨hChecked, hNamed⟩ := h.checked_of_find? (by rw [hForm]; rfl) hFind
      have hElse : r.shape.form = .other "else_clause" :=
        h.form_of_role hMem (by rw [hForm, hField]; rfl)
      exact ((hChecked.parts hNamed).failsOnly_operand hElse rfl).bind fun _ _ => hIf _
    · exact hIf none
  case switchStatement =>
    refine h.failsOnly_get_bind hForm (by rfl) fun _ hChecked hNamed => ?_
    refine FailsOnly.bind ?_ fun _ _ => (h.failsOnly_node hForm (by rfl)).bind_pure
    exact (hChecked.parts hNamed).failsOnly_mapM_named fun _ => failsOnly_switchCase
  case forStatement =>
    refine (failsOnly_loopClause h hForm (by simp)).bind fun _ _ => ?_
    refine (failsOnly_loopClause h hForm (by simp)).bind fun _ _ => ?_
    refine (failsOnly_loopClause h hForm (by simp)).bind fun _ _ => ?_
    exact (h.failsOnly_node hForm (by rfl)).bind_pure
  case forInStatement => exact failsOnly_forEach h hForm span
  case tryStatement => exact failsOnly_tryStatement h hForm span
  case functionDeclaration | generatorFunctionDeclaration | functionExpression | functionKeyword
    | generatorFunction =>
    exact failsOnly_function h (by simp [hForm, Form.requires]) (by simp [hForm, Form.requires]) _ _
  case arrowFunction => exact failsOnly_arrow h hForm span
  case classDeclaration | classKeyword =>
    exact failsOnly_classNode hp h (by simp [hForm, Form.requires]) _ _
  case identifier | propertyIdentifier | shorthandPropertyIdentifier
    | shorthandPropertyIdentifierPattern | statementIdentifier | undefinedName =>
    exact failsOnly_identifier hPlaced
  case privatePropertyIdentifier | metaProperty =>
    exact (failsOnly_textOf hPlaced).bind_pure
  case numberLiteral => exact failsOnly_numeral hToken hWritten hPlaced hForm span
  case stringLiteral =>
    refine (failsOnly_textOf hPlaced).bind fun raw hRaw => ?_
    refine FailsOnly.bind_pure (failsOnly_unescape fun failure hOversized => ?_)
    have hInfix : (raw.drop 1).dropLast <:+: raw :=
      (List.dropLast_prefix _).isInfix.trans (List.drop_suffix 1 raw).isInfix
    exact hToken.escape (.inl hForm) hRaw (hOversized.mono hInfix)
  case regexLiteral => exact failsOnly_regex hPlaced h.each span
  case templateString =>
    exact (failsOnly_template hToken hWritten hPlaced hForm hBounds).bind_pure
  case arrayLiteral | arrayPattern =>
    refine FailsOnly.bind_pure (failsOnly_elements (fun r hr hNoise hOpen hClose hComma => ?_) _)
    refine (h.each r hr).node ((h.named_or_token hr).resolve_right fun hAllowed => ?_)
    simp_all [Form.allowsToken, Reading.form]
  case objectLiteral =>
    exact (h.failsOnly_mapM_named fun _ => failsOnly_objectMember).bind_pure
  case objectPattern =>
    exact (h.failsOnly_mapM_named fun _ => failsOnly_patternMember).bind_pure
  case binaryExpression => exact failsOnly_binary h hForm span
  case updateExpression => exact failsOnly_update h hForm span
  case assignmentExpression | augmentedAssignmentExpression =>
    exact failsOnly_assignment h (by rw [hForm]; rfl) span
  case callExpression => exact failsOnly_call h hp hForm span
  case newExpression =>
    refine (h.failsOnly_node hForm (by rfl)).bind fun _ _ => ?_
    dsimp only
    split
    · rename_i r hFind
      obtain ⟨hChecked, hNamed⟩ := h.checked_of_find? (by rw [hForm]; rfl) hFind
      exact (hChecked.parts hNamed).failsOnly_nodes.bind_pure
    · exact failsOnly_pure
  case memberExpression | subscriptExpression =>
    exact failsOnly_member h (by simp [hForm, Form.requires]) (by rw [hForm]; rfl)
      (by simp [hForm, Form.requires]) span _
  case sequenceExpression =>
    exact (failsOnly_sequenceItems fun _ hr => h.failsOnly_of_named hr).bind_pure
  all_goals exact failsOnly_refuse hp hPlaced _

/-- Parentheses fail as their operand, all else as its construct. -/
theorem failsOnly_link : FailsOnly (link (Source.ofText code) shape parts) p := by
  unfold link
  split
  · rename_i hForm
    exact h.failsOnly_operand hForm rfl
  · exact failsOnly_place hPlaced fun span =>
      failsOnly_linkAt hp hToken hWritten hPlaced hOrder h span

end Links

end Lower

end Assay
