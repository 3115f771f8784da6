import Assay.Proofs.Concrete.Exhaustive
import Assay.Proofs.Concrete.Parsing

/-!
# Unsupported syntax

Rejection happens where something is read, so what matters is that everything is. There is one lemma for
each reader of a construct, which says that a reader that succeeds has taken all that stands in the
construct; `Lower.ensures_link` puts them together for one concrete node, and
`Script.parse_unsupported` is the statement for a program. The exceptions are real: a decorated class is
read without its decorators, and so is `import.meta` (`Script.parse_overlooked`).
-/

set_option autoImplicit false

namespace Assay

open Outcome

namespace Lower

variable {readings : List Reading} {source : Source} {shape : Shape} {parts : Parts}

theorem ensures_refuse {α : Type} {refusal : Refusal} {p : α → Prop} :
    Ensures (source.refuse refusal shape : Read α) p := by
  unfold Source.refuse
  rw [ensures_bind]
  intro index _
  exact ensures_error

section Pieces

variable {r : Reading} (h : r.Faithful)

include h

theorem clean_propertyKey : Ensures (propertyKey r) fun _ => r.Clean := by
  unfold propertyKey
  split
  · rename_i hForm
    rw [ensures_bind]
    intro tree hTree
    exact ensures_pure.2 (h.ensures_operand hForm rfl tree hTree)
  · rw [ensures_bind]
    intro tree hTree
    exact ensures_pure.2 (h.node tree hTree)

theorem clean_declarator (hForm : r.form = .variableDeclarator) :
    Ensures (declarator source r) fun _ => r.Clean := by
  refine Source.ensures_place fun span => ?_
  simp only [ensures_bind, ensures_pure]
  intro name hName value hValue
  refine h.clean_of_roles hForm rfl (fun _ => rfl) ?_
  exact And.intro (h.parts.ensures_node _ name hName) (h.parts.ensures_node? _ value hValue)

theorem clean_switchCase (hForm : r.form = .switchCase ∨ r.form = .other "switch_default") :
    Ensures (switchCase source r) fun _ => r.Clean := by
  have hBody : Ensures ((r.parts.filter fun part => part.shape.field == "body").mapM (·.node))
      fun _ => ∀ part ∈ r.parts.filter fun part => part.shape.field == "body", part.Clean :=
    Parts.ensures_mapM_clean fun part hPart => (h.parts.each part (List.mem_filter.1 hPart).1).node
  refine Source.ensures_place fun span => ?_
  rw [ensures_bind]
  intro consequent hConsequent
  have hItems (part : Reading) (hPart : part ∈ r.parts.named)
      (hField : (part.shape.field == "body") = true) : part.Clean :=
    hBody consequent hConsequent part (List.mem_filter.2 ⟨Parts.mem_of_named hPart, hField⟩)
  dsimp only
  rcases hForm with hForm | hForm
  · rw [if_pos hForm]
    simp only [ensures_bind, ensures_pure]
    intro test hTest
    have hForm : r.shape.form = .switchCase := hForm
    refine h.clean_of_taken (by rw [hForm]; rfl) ⟨?_, ?_⟩
    · rw [hForm]
      exact hItems
    · rw [hForm]
      exact List.forall_mem_singleton.2 (h.parts.ensures_node? _ test hTest)
  · have hForm : r.shape.form = .other "switch_default" := hForm
    rw [if_neg (by simp [Reading.form, hForm])]
    refine ensures_pure.2 (h.clean_of_taken (by rw [hForm]; rfl) ?_)
    rw [hForm]
    exact Parts.taken_of_items rfl hItems

/-- A body whose cases are all read is taken whole: nothing else stands in it. -/
theorem clean_switchBody (hForm : r.shape.form = .other "switch_body") :
    Ensures (r.parts.named.mapM (switchCase source)) fun _ => r.Clean := by
  intro cases hCases
  refine h.clean_of_taken (by rw [hForm]; rfl) ?_
  rw [hForm]
  refine Parts.taken_of_items rfl fun part hPart hItem => ?_
  obtain ⟨case, hCase⟩ := succeeds_of_mapM hCases part hPart
  have hCaseForm : part.form = .switchCase ∨ part.form = .other "switch_default" :=
    (Bool.or_eq_true_iff.1 hItem).imp of_decide_eq_true of_decide_eq_true
  exact clean_switchCase (h.parts.each part (Parts.mem_of_named hPart)) hCaseForm case hCase

end Pieces

theorem isBare_of_token {form : Form} (h : form ∈ [Form.other "[", .other "]", .other ",", .other ";",
    .emptyStatement]) : form.IsBare := by
  simp only [List.mem_cons, List.not_mem_nil, or_false] at h
  rcases h with rfl | rfl | rfl | rfl | rfl
  all_goals exact ⟨rfl, rfl, fun _ => rfl, fun _ => rfl, fun _ => rfl⟩

section Statements

variable (h : Parts.Faithful shape parts)

include h

theorem cleanAt_loopClause (role : String) :
    Ensures (loopClause parts role) fun _ => parts.CleanAt role := by
  unfold loopClause
  cases hFind : parts.find? role with
  | none => exact ensures_ok.2 (Parts.cleanAt_of_none hFind)
  | some r =>
    dsimp only
    split
    · rename_i hEmpty
      have hEmpty : r.shape.form = .other ";" ∨ r.shape.form = .emptyStatement :=
        (Bool.or_eq_true_iff.1 hEmpty).imp of_decide_eq_true of_decide_eq_true
      refine ensures_ok.2 (h.cleanAt_of_some hFind fun hFaithful => hFaithful.clean_of_bare ?_)
      apply isBare_of_token
      rcases hEmpty with hEmpty | hEmpty
      · simp [hEmpty]
      · simp [hEmpty]
    · split
      · rename_i hForm
        rw [ensures_bind]
        intro tree hTree
        exact ensures_pure.2 (h.cleanAt_of_some hFind fun hFaithful =>
          hFaithful.ensures_operand hForm rfl tree hTree)
      · rw [ensures_bind]
        intro tree hTree
        exact ensures_pure.2 (h.cleanAt_of_some hFind fun hFaithful => hFaithful.node tree hTree)

theorem taken_forEach (hForm : shape.form = .forInStatement) (span : Span) :
    Ensures (forEach source span parts) fun _ => Parts.Taken shape.form parts := by
  have hTaken (target : Reading) (hTarget : parts.get "left" = .ok target) (pattern right body : Node)
      (hPattern : target.node = .ok pattern) (hValue : parts.CleanAt "value")
      (hRight : parts.node "right" = .ok right) (hBody : parts.node "body" = .ok body) :
      Parts.Taken shape.form parts := by
    have hLeft : parts.CleanAt "left" :=
      h.cleanAt_of_get hTarget fun hFaithful => hFaithful.node pattern hPattern
    rw [hForm]
    refine Parts.taken_of_roles (fun _ => rfl) ?_
    exact And.intro hLeft
      (And.intro hValue (And.intro (h.ensures_node _ right hRight) (h.ensures_node _ body hBody)))
  unfold forEach
  simp only [ensures_bind]
  intro target hTarget pattern hPattern
  split
  · rename_i hKind
    have hValue : parts.CleanAt "value" := Parts.cleanAt_of_none (h.find?_value hForm hKind)
    simp only [ensures_bind]
    intro left _ right hRight body hBody operator _ text _
    have := hTaken target hTarget pattern right body hPattern hValue hRight hBody
    split <;> exact ensures_pure.2 this
  · simp only [ensures_bind]
    intro declarator hDeclarator whole _ word _ left _ right hRight body hBody operator _ text _
    have hValue : parts.CleanAt "value" := by
      refine Source.ensures_place (q := fun _ => parts.CleanAt "value") (fun span => ?_)
        declarator hDeclarator
      simp only [ensures_bind, ensures_pure]
      intro value hValue
      exact h.ensures_node? _ value hValue
    have := hTaken target hTarget pattern right body hPattern hValue hRight hBody
    split <;> exact ensures_pure.2 this

theorem form_of_find? {role : String} {r : Reading} (hFind : parts.find? role = some r) {form : Form}
    (hForm : shape.form = form) (hForeign : form.isForeign = false) {first : Form}
    {rest : List Form} (hFrames : form.frames role = first :: rest) :
    r.shape.form ∈ first :: rest := by
  obtain ⟨hMem, hField⟩ := Parts.mem_of_find? hFind
  have hRole := h.form_of_role hMem (hForm ▸ hForeign)
  rw [hField, hForm, hFrames] at hRole
  exact hRole (by simp)

theorem taken_tryStatement (hForm : shape.form = .tryStatement) (span : Span) :
    Ensures (tryStatement source span parts) fun _ => Parts.Taken shape.form parts := by
  have hTaken (block : Node) (hHandler : parts.CleanAt "handler")
      (hFinalizer : parts.CleanAt "finalizer") (hBlock : parts.node "body" = .ok block) :
      Parts.Taken shape.form parts := by
    rw [hForm]
    refine Parts.taken_of_roles (fun _ => rfl) ?_
    exact And.intro hHandler (And.intro hFinalizer (h.ensures_node _ block hBlock))
  have hFinally (r : Reading) (hFind : parts.find? "finalizer" = some r) (tree : Node)
      (hTree : r.parts.node "body" = .ok tree) : parts.CleanAt "finalizer" := by
    have hClause : r.shape.form = .other "finally_clause" := by
      simpa using form_of_find? h hFind hForm rfl rfl
    refine h.cleanAt_of_some hFind fun hFaithful =>
      hFaithful.clean_of_roles hClause rfl (fun _ => rfl) ?_
    exact hFaithful.parts.ensures_node _ tree hTree
  have hCatch (r : Reading) (hFind : parts.find? "handler" = some r) (clause : Node)
      (hClause : source.place r.shape (fun span => do
        return Node.catchClause span (← r.parts.node? "parameter") (← r.parts.node "body")) =
          .ok clause) :
      parts.CleanAt "handler" := by
    have hClauseForm : r.shape.form = .other "catch_clause" := by
      simpa using form_of_find? h hFind hForm rfl rfl
    refine Source.ensures_place (q := fun _ => parts.CleanAt "handler") (fun span => ?_)
      clause hClause
    simp only [ensures_bind, ensures_pure]
    intro param hParam body hBody
    refine h.cleanAt_of_some hFind fun hFaithful =>
      hFaithful.clean_of_roles hClauseForm rfl (fun _ => rfl) ?_
    exact And.intro (hFaithful.parts.ensures_node? _ param hParam)
      (hFaithful.parts.ensures_node _ body hBody)
  have hBlock (handler finalizer : Option Node) (hHandler : parts.CleanAt "handler")
      (hFinalizer : parts.CleanAt "finalizer") : Ensures (do
        let block ← parts.node "body"
        return .tryStatement span block handler finalizer : Read Node)
      fun _ => Parts.Taken shape.form parts := by
    simp only [ensures_bind, ensures_pure]
    exact fun block hBlock => hTaken block hHandler hFinalizer hBlock
  unfold tryStatement
  cases hLast : parts.find? "finalizer" with
  | none =>
    have hNone := Parts.cleanAt_of_none hLast
    cases hFind : parts.find? "handler" with
    | none => exact hBlock none none (Parts.cleanAt_of_none hFind) hNone
    | some r =>
      refine (ensures_bind ..).2 fun clause hClause => ?_
      exact hBlock (some clause) none (hCatch r hFind clause hClause) hNone
  | some last =>
    have hRest (handler : Option Node) (hHandler : parts.CleanAt "handler") : Ensures (do
        let body ← last.parts.node "body"
        let block ← parts.node "body"
        return .tryStatement span block handler (some body) : Read Node)
        fun _ => Parts.Taken shape.form parts := by
      refine (ensures_bind ..).2 fun body hBody => ?_
      exact hBlock handler (some body) hHandler (hFinally last hLast body hBody)
    cases hFind : parts.find? "handler" with
    | none => exact hRest none (Parts.cleanAt_of_none hFind)
    | some r =>
      refine (ensures_bind ..).2 fun clause hClause => ?_
      exact hRest (some clause) (hCatch r hFind clause hClause)

end Statements

section Functions

variable (h : Parts.Faithful shape parts)

include h

theorem cleanAt_parameters (hForeign : shape.form.isForeign = false) {r : Reading}
    (hr : parts.get "parameters" = .ok r) :
    Ensures r.parts.nodes fun _ => parts.CleanAt "parameters" := by
  have hFind := Parts.find?_of_get hr
  have hFrames : shape.form.frames "parameters" = [.other "formal_parameters"] := by
    unfold Form.frames
    split <;> simp_all
  have hForm : r.shape.form = .other "formal_parameters" := by
    simpa using form_of_find? h hFind rfl hForeign hFrames
  intro params hParams
  exact h.cleanAt_of_some hFind fun hFaithful => hFaithful.ensures_nodes hForm rfl rfl params hParams

theorem taken_function (hRoles : shape.form.roles = ["name", "parameters", "body"])
    (hForeign : shape.form.isForeign = false) (hItem : ∀ child, shape.form.takesItem child = false)
    (form : FunctionForm) (span : Span) :
    Ensures (function form span parts) fun _ => Parts.Taken shape.form parts := by
  unfold function
  simp only [ensures_bind, ensures_pure]
  intro id hId head hHead params hParams body hBody
  refine Parts.taken_of_roles hItem ?_
  rw [hRoles]
  exact And.intro (h.ensures_node? _ id hId)
    (And.intro (cleanAt_parameters h hForeign hHead params hParams) (h.ensures_node _ body hBody))

theorem taken_arrow (hForm : shape.form = .arrowFunction) (span : Span) :
    Ensures (arrow span parts) fun _ => Parts.Taken shape.form parts := by
  have hTaken (body : Reading) (tree : Node) (hLone : parts.CleanAt "parameter")
      (hList : parts.CleanAt "parameters") (hBody : parts.get "body" = .ok body)
      (hTree : body.node = .ok tree) : Parts.Taken shape.form parts := by
    rw [hForm]
    refine Parts.taken_of_roles (fun _ => rfl) ?_
    have hClean := h.cleanAt_of_get hBody fun hFaithful => hFaithful.node tree hTree
    exact And.intro hLone (And.intro hList hClean)
  unfold arrow
  dsimp only
  split
  · rename_i r hFind
    simp only [ensures_bind, ensures_pure]
    intro pattern hPattern params _ body hBody tree hTree
    have hLone := h.cleanAt_of_some hFind fun hFaithful => hFaithful.node pattern hPattern
    exact hTaken body tree hLone (Parts.cleanAt_of_none (h.find?_parameters hForm hFind)) hBody hTree
  · rename_i hFind
    simp only [ensures_bind, ensures_pure]
    intro head hHead params hParams body hBody tree hTree
    exact hTaken body tree (Parts.cleanAt_of_none hFind)
      (cleanAt_parameters h (by rw [hForm]; rfl) hHead params hParams) hBody hTree

theorem taken_method (hForm : shape.form = .methodDefinition) :
    Ensures (method source parts) fun _ => Parts.Taken shape.form parts := by
  unfold method
  simp only [ensures_bind, ensures_pure]
  intro name hName key hKey head hHead body hBody span _ params hParams block hBlock
  have hNameClean := h.cleanAt_of_get hName fun hFaithful => clean_propertyKey hFaithful key hKey
  have hBodyClean := h.cleanAt_of_get hBody fun hFaithful => hFaithful.node block hBlock
  have hParams := cleanAt_parameters h (by rw [hForm]; rfl) hHead params hParams
  rw [hForm]
  refine Parts.taken_of_roles (fun _ => rfl) ?_
  exact And.intro hNameClean (And.intro hParams hBodyClean)

omit h

theorem clean_classMember {r : Reading} (h : r.Faithful) :
    Ensures (classMember source r) fun _ => r.Clean := by
  refine Source.ensures_place fun span => ?_
  split
  · rename_i hForm
    have hForm : r.shape.form = .methodDefinition := hForm
    simp only [ensures_bind, ensures_pure]
    intro m hm
    exact h.clean_of_taken (by rw [hForm]; rfl) (taken_method h.parts hForm m hm)
  · rename_i hForm
    simp only [ensures_bind, ensures_pure]
    intro property hProperty key hKey value hValue
    have hKeyClean := h.parts.cleanAt_of_get hProperty fun hFaithful =>
      clean_propertyKey hFaithful key hKey
    refine h.clean_of_roles hForm rfl (fun _ => rfl) ?_
    exact And.intro hKeyClean (h.parts.ensures_node? _ value hValue)
  · rename_i hForm
    simp only [ensures_bind, ensures_pure]
    intro block hBlock body _
    refine h.clean_of_roles hForm rfl (fun _ => rfl) ?_
    exact h.parts.ensures_node _ block hBlock
  · exact ensures_refuse

theorem clean_heritage (h : ∀ r ∈ readings, r.Faithful) :
    Ensures (heritage readings) fun _ => ∀ r ∈ readings, r.form = .classHeritage → r.Clean := by
  induction readings with
  | nil => simp
  | cons r rest ih =>
    obtain ⟨hFirst, hRest⟩ := List.forall_mem_cons.1 h
    unfold heritage
    split
    · rename_i hForm
      simp only [ensures_bind, ensures_pure]
      intro parent hParent other hOther
      exact List.forall_mem_cons.2
        ⟨fun _ => hFirst.ensures_operand hForm rfl parent hParent, ih hRest other hOther⟩
    · rename_i hForm
      intro other hOther
      exact List.forall_mem_cons.2 ⟨fun hHere => absurd hHere hForm, ih hRest other hOther⟩

theorem taken_classNode (h : Parts.Faithful shape parts)
    (hForm : shape.form = .classDeclaration ∨ shape.form = .classKeyword) (form : ClassForm)
    (span : Span) :
    Ensures (classNode source form span parts) fun _ => Parts.Taken shape.form parts := by
  have hForeign : shape.form.isForeign = false := by
    rcases hForm with hForm | hForm <;> rw [hForm] <;> rfl
  have hFrames : shape.form.frames "body" = [.other "class_body"] := by
    rcases hForm with hForm | hForm <;> rw [hForm] <;> rfl
  have hRoles : shape.form.roles = ["name", "body"] := by
    rcases hForm with hForm | hForm <;> rw [hForm] <;> rfl
  have hItem (child : Shape) : shape.form.takesItem child = decide (child.form = .classHeritage) := by
    rcases hForm with hForm | hForm <;> rw [hForm] <;> rfl
  unfold classNode
  simp only [ensures_bind, ensures_pure]
  intro parent hParent body hBody members hMembers id hId place _
  have hFind := Parts.find?_of_get hBody
  have hBodyForm : body.shape.form = .other "class_body" := by
    simpa using form_of_find? h hFind rfl hForeign hFrames
  have hBodyClean := h.cleanAt_of_some hFind fun hFaithful =>
    hFaithful.clean_of_items (by rw [hBodyForm]; rfl) (by rw [hBodyForm]; rfl)
      (Parts.ensures_mapM_clean (fun r hr =>
        clean_classMember (hFaithful.parts.each r (Parts.mem_of_named hr))) members hMembers)
  have hHeritage := clean_heritage (fun r hr => h.each r (Parts.mem_of_named hr)) parent hParent
  refine ⟨fun part hPart hTakes => hHeritage part hPart ?_, ?_⟩
  · show part.shape.form = .classHeritage
    simpa [hItem] using hTakes
  · rw [hRoles]
    simpa using ⟨h.ensures_node? _ id hId, hBodyClean⟩

end Functions

section Expressions

theorem clean_templateParts {stop : Int} (h : ∀ r ∈ readings, r.Faithful) (cursor : Int) :
    Ensures (templateParts source stop cursor readings) fun _ =>
      ∀ r ∈ readings, r.shape.named = true → r.form = .templateSubstitution → r.Clean := by
  induction readings generalizing cursor with
  | nil =>
    intro _ _ r hr
    cases hr
  | cons r rest ih =>
    obtain ⟨hFirst, hRest⟩ := List.forall_mem_cons.1 h
    unfold templateParts
    split
    · rename_i hSubstitution
      simp only [Bool.and_eq_true, decide_eq_true_eq] at hSubstitution
      simp only [ensures_bind, ensures_pure]
      intro fixed _ expression hExpression others hOthers
      exact List.forall_mem_cons.2
        ⟨fun _ _ => hFirst.ensures_operand hSubstitution.2 rfl expression hExpression,
          ih hRest _ others hOthers⟩
    · rename_i hOther
      intro others hOthers
      refine List.forall_mem_cons.2 ⟨fun hNamed hForm => ?_, ih hRest _ others hOthers⟩
      exact absurd (by simp [hNamed, hForm]) hOther

theorem clean_elements (h : ∀ r ∈ readings, r.Faithful) (expecting : Bool) :
    Ensures (elements expecting readings) fun _ =>
      ∀ r ∈ readings, r.form.isNoise = false → r.Clean := by
  induction readings generalizing expecting with
  | nil =>
    intro _ _ r hr
    cases hr
  | cons r rest ih =>
    obtain ⟨hFirst, hRest⟩ := List.forall_mem_cons.1 h
    -- A bracket or a comma has nothing in it.
    have hToken (hForm : r.form = .other "[" ∨ r.form = .other "]" ∨ r.form = .other ",") :
        r.Clean := by
      refine hFirst.clean_of_bare (isBare_of_token ?_)
      unfold Reading.form at hForm
      rcases hForm with hForm | hForm | hForm <;> simp [hForm]
    unfold elements
    split_ifs with hSkip hComma hHole
    · intro others hOthers
      refine List.forall_mem_cons.2 ⟨fun hNoise => ?_, ih hRest _ others hOthers⟩
      simp only [hNoise, Bool.false_or, Bool.or_eq_true, decide_eq_true_eq] at hSkip
      exact hToken (hSkip.elim .inl fun hClose => .inr (.inl hClose))
    · simp only [ensures_bind, ensures_pure]
      intro others hOthers
      exact List.forall_mem_cons.2
        ⟨fun _ => hToken (.inr (.inr hComma)), ih hRest _ others hOthers⟩
    · intro others hOthers
      exact List.forall_mem_cons.2
        ⟨fun _ => hToken (.inr (.inr hComma)), ih hRest _ others hOthers⟩
    · simp only [ensures_bind, ensures_pure]
      intro element hElement others hOthers
      exact List.forall_mem_cons.2
        ⟨fun _ => hFirst.node element hElement, ih hRest _ others hOthers⟩

theorem clean_sequenceItems (h : ∀ r ∈ readings, r.Faithful) :
    Ensures (sequenceItems readings) fun _ => ∀ r ∈ readings, r.Clean := by
  induction readings with
  | nil =>
    intro _ _ r hr
    cases hr
  | cons r rest ih =>
    obtain ⟨hFirst, hRest⟩ := List.forall_mem_cons.1 h
    unfold sequenceItems
    simp only [ensures_bind, ensures_pure]
    intro tree hTree others hOthers
    exact List.forall_mem_cons.2 ⟨hFirst.node tree hTree, ih hRest others hOthers⟩

variable {r : Reading} (h : r.Faithful)

include h

theorem clean_pair (hRoles : r.shape.form.roles = ["key", "value"])
    (hForeign : r.shape.form.isForeign = false)
    (hItem : ∀ child, r.shape.form.takesItem child = false) :
    Ensures (pair source r) fun _ => r.Clean := by
  refine Source.ensures_place fun span => ?_
  simp only [ensures_bind, ensures_pure]
  intro name hName key hKey value hValue
  have hClean := h.parts.cleanAt_of_get hName fun hFaithful => clean_propertyKey hFaithful key hKey
  refine h.clean_of_roles rfl hForeign hItem ?_
  rw [hRoles]
  exact And.intro hClean (h.parts.ensures_node _ value hValue)

theorem clean_objectMember : Ensures (objectMember source r) fun _ => r.Clean := by
  unfold objectMember
  split
  · rename_i hForm
    have hForm : r.shape.form = .pair := hForm
    exact clean_pair h (by rw [hForm]; rfl) (by rw [hForm]; rfl) (by rw [hForm]; intro; rfl)
  · rename_i hForm
    intro tree _
    exact h.clean_of_roles hForm rfl (fun _ => rfl) trivial
  · rename_i hForm
    have hForm : r.shape.form = .methodDefinition := hForm
    refine Source.ensures_place fun span => ?_
    simp only [ensures_bind, ensures_pure]
    intro m hm
    exact h.clean_of_taken (by rw [hForm]; rfl) (taken_method h.parts hForm m hm)
  · exact h.node

theorem clean_patternMember : Ensures (patternMember source r) fun _ => r.Clean := by
  unfold patternMember
  split
  · rename_i hForm
    have hForm : r.shape.form = .pairPattern := hForm
    exact clean_pair h (by rw [hForm]; rfl) (by rw [hForm]; rfl) (by rw [hForm]; intro; rfl)
  · rename_i hForm
    intro tree _
    exact h.clean_of_roles hForm rfl (fun _ => rfl) trivial
  · rename_i hForm
    refine Source.ensures_place fun span => ?_
    simp only [ensures_bind, ensures_pure]
    intro left hLeft right hRight
    refine h.clean_of_roles hForm rfl (fun _ => rfl) ?_
    exact And.intro (h.parts.ensures_node _ left hLeft) (h.parts.ensures_node _ right hRight)
  · exact h.node

omit h

theorem taken_call (h : Parts.Faithful shape parts) (hForm : shape.form = .callExpression)
    (span : Span) : Ensures (call source span parts) fun _ => Parts.Taken shape.form parts := by
  have hTaken (hCallee : parts.CleanAt "function") (hArguments : parts.CleanAt "arguments") :
      Parts.Taken shape.form parts := by
    rw [hForm]
    exact Parts.taken_of_roles (fun _ => rfl) (And.intro hCallee hArguments)
  unfold call
  rw [ensures_bind]
  intro callee hCallee
  split
  · exact ensures_refuse
  rw [ensures_bind]
  intro arguments hArguments
  have hFind := Parts.find?_of_get hArguments
  split
  · simp only [ensures_bind, ensures_pure]
    intro tag hTag template hTemplate
    exact hTaken (h.cleanAt_of_get hCallee fun hFaithful => hFaithful.node tag hTag)
      (h.cleanAt_of_some hFind fun hFaithful => hFaithful.node template hTemplate)
  · rename_i hTemplate
    have hArgumentsForm : arguments.shape.form = .other "arguments" := by
      have hFrames := form_of_find? h hFind hForm rfl rfl
      simp only [List.mem_cons, List.not_mem_nil, or_false] at hFrames
      exact hFrames.resolve_right hTemplate
    simp only [ensures_bind, ensures_pure]
    intro link hLink items hItems
    exact hTaken (h.cleanAt_of_get hCallee fun hFaithful => hFaithful.link link hLink)
      (h.cleanAt_of_some hFind fun hFaithful =>
        hFaithful.ensures_nodes hArgumentsForm rfl rfl items hItems)

theorem taken_member (h : Parts.Faithful shape parts) {role : String}
    (hRoles : shape.form.roles = ["object", role])
    (hItem : ∀ child, shape.form.takesItem child = false) (span : Span) (computed : Bool) :
    Ensures (member span parts role computed) fun _ => Parts.Taken shape.form parts := by
  unfold member
  simp only [ensures_bind, ensures_pure]
  intro object hObject link hLink property hProperty
  have hClean := h.cleanAt_of_get hObject fun hFaithful => hFaithful.link link hLink
  refine Parts.taken_of_roles hItem ?_
  rw [hRoles]
  exact And.intro hClean (h.ensures_node _ property hProperty)

end Expressions

/-- What `linkAt` reads a node from is all there is. -/
def LinkTakes (source : Source) (shape : Shape) (parts : Parts) (span : Span) : Prop :=
  Ensures (linkAt source shape parts span) fun _ => Parts.Taken shape.form parts

/-- A form with a reader of its own. -/
theorem linkTakes_of_reader {span : Span} {reader : Read Node}
    (hLink : linkAt source shape parts span = reader)
    (hReader : Ensures reader fun _ => Parts.Taken shape.form parts) :
    LinkTakes source shape parts span := by
  rwa [LinkTakes, hLink]

section Links

variable {span : Span} (h : Parts.Faithful shape parts)

include h

/-- A list of statements. -/
theorem linkTakes_body (hForm : shape.form = .program ∨ shape.form = .statementBlock) :
    LinkTakes source shape parts span := by
  rcases hForm with hForm | hForm
  all_goals
    rw [LinkTakes, linkAt, hForm]
    simp only [ensures_bind, ensures_pure]
    intro trees hTrees
    exact Parts.taken_of_items rfl fun r hr _ => h.ensures_nodes trees hTrees r hr

/-- A form around a node. -/
theorem linkTakes_operand (hForm : shape.form = .expressionStatement ∨
    shape.form = .awaitExpression ∨ shape.form = .spreadElement ∨ shape.form = .restPattern) :
    LinkTakes source shape parts span := by
  rcases hForm with hForm | hForm | hForm | hForm
  all_goals
    have hOperand := h.ensures_operand hForm rfl
    rw [hForm] at hOperand
    rw [LinkTakes, linkAt, hForm]
    simp only [ensures_bind, ensures_pure]
    exact hOperand

/-- A form around a node that may be absent. -/
theorem linkTakes_operand? (hForm : shape.form = .returnStatement ∨ shape.form = .throwStatement ∨
    shape.form = .yieldExpression) : LinkTakes source shape parts span := by
  rcases hForm with hForm | hForm | hForm
  all_goals
    have hOperand := h.ensures_operand? hForm rfl
    rw [hForm] at hOperand
    rw [LinkTakes, linkAt, hForm]
    simp only [ensures_bind, ensures_pure]
    exact hOperand

/-- A jump with its label. -/
theorem linkTakes_jump (hForm : shape.form = .breakStatement ∨ shape.form = .continueStatement) :
    LinkTakes source shape parts span := by
  rcases hForm with hForm | hForm
  all_goals
    rw [LinkTakes, linkAt, hForm]
    simp only [ensures_bind, ensures_pure]
    intro label hLabel
    refine Parts.taken_of_roles (fun _ => rfl) ?_
    exact h.ensures_node? _ label hLabel

/-- Two nodes in the order of their roles. -/
theorem linkTakes_pair (hForm : shape.form = .whileStatement ∨ shape.form = .labeledStatement ∨
    shape.form = .assignmentPattern ∨ shape.form = .assignmentExpression ∨
    shape.form = .augmentedAssignmentExpression) : LinkTakes source shape parts span := by
  rcases hForm with hForm | hForm | hForm | hForm | hForm
  all_goals
    rw [LinkTakes, linkAt, hForm]
    simp only [assignment, ensures_bind, ensures_pure]
    intro first hFirst second hSecond
    refine Parts.taken_of_roles (fun _ => rfl) ?_
    exact And.intro (h.ensures_node _ first hFirst) (h.ensures_node _ second hSecond)

theorem linkTakes_do (hForm : shape.form = .doStatement) : LinkTakes source shape parts span := by
  rw [LinkTakes, linkAt, hForm]
  simp only [ensures_bind, ensures_pure]
  intro body hBody test hTest
  refine Parts.taken_of_roles (fun _ => rfl) ?_
  exact And.intro (h.ensures_node _ test hTest) (h.ensures_node _ body hBody)

theorem linkTakes_ternary (hForm : shape.form = .ternaryExpression) :
    LinkTakes source shape parts span := by
  rw [LinkTakes, linkAt, hForm]
  simp only [ensures_bind, ensures_pure]
  intro test hTest yes hYes no hNo
  refine Parts.taken_of_roles (fun _ => rfl) ?_
  exact And.intro (h.ensures_node _ test hTest)
    (And.intro (h.ensures_node _ yes hYes) (h.ensures_node _ no hNo))

theorem linkTakes_unary (hForm : shape.form = .unaryExpression) :
    LinkTakes source shape parts span := by
  rw [LinkTakes, linkAt, hForm]
  simp only [ensures_bind, ensures_pure]
  intro operator _ argument hArgument
  refine Parts.taken_of_roles (fun _ => rfl) ?_
  exact h.ensures_node _ argument hArgument

theorem linkTakes_update (hForm : shape.form = .updateExpression) :
    LinkTakes source shape parts span := by
  rw [LinkTakes, linkAt, hForm]
  simp only [update, ensures_bind]
  intro operator _
  split
  · exact ensures_error
  · simp only [ensures_bind, ensures_pure]
    intro leading _ argument hArgument
    refine Parts.taken_of_roles (fun _ => rfl) ?_
    exact h.ensures_node _ argument hArgument

theorem linkTakes_binary (hForm : shape.form = .binaryExpression) :
    LinkTakes source shape parts span := by
  rw [LinkTakes, linkAt, hForm]
  simp only [binary, ensures_bind]
  intro operator _ left hLeft right hRight
  have hBoth : Parts.Taken .binaryExpression parts := by
    refine Parts.taken_of_roles (fun _ => rfl) ?_
    exact And.intro (h.ensures_node _ left hLeft) (h.ensures_node _ right hRight)
  split <;> exact ensures_pure.2 hBoth

/-- A declaration, all of whose parts are declarators. -/
theorem linkTakes_declaration (hForm : shape.form = .variableDeclaration ∨
    shape.form = .lexicalDeclaration) : LinkTakes source shape parts span := by
  rcases hForm with hForm | hForm
  all_goals
    rw [LinkTakes, linkAt, hForm]
    dsimp only
    rw [ensures_bind]
    intro declarators hDeclarators
    have hClean := Parts.ensures_mapM_clean (fun r hr => clean_declarator
      (h.each r (Parts.mem_of_named (List.mem_filter.1 hr).1))
      (of_decide_eq_true (List.mem_filter.1 hr).2)) declarators hDeclarators
    intro _ _
    exact Parts.taken_of_items rfl fun r hr hItem => hClean r (List.mem_filter.2 ⟨hr, hItem⟩)

theorem linkTakes_if (hForm : shape.form = .ifStatement) : LinkTakes source shape parts span := by
  have hIf (alternate : Option Node) (hAlternate : parts.CleanAt "alternative") : Ensures (do
      let test ← parts.node "condition"
      let consequent ← parts.node "consequence"
      return .ifStatement span test consequent alternate : Read Node) fun _ =>
        Parts.Taken .ifStatement parts := by
    simp only [ensures_bind, ensures_pure]
    intro test hTest consequent hConsequent
    refine Parts.taken_of_roles (fun _ => rfl) ?_
    exact And.intro (h.ensures_node _ test hTest)
      (And.intro (h.ensures_node _ consequent hConsequent) hAlternate)
  rw [LinkTakes, linkAt, hForm]
  dsimp only
  split
  · rename_i r hFind
    have hElse : r.shape.form = .other "else_clause" := by
      simpa using form_of_find? h hFind hForm rfl rfl
    rw [ensures_bind]
    intro tree hTree
    exact hIf _ (h.cleanAt_of_some hFind fun hFaithful =>
      hFaithful.ensures_operand hElse rfl tree hTree)
  · rename_i hFind
    exact hIf none (Parts.cleanAt_of_none hFind)

theorem linkTakes_switch (hForm : shape.form = .switchStatement) :
    LinkTakes source shape parts span := by
  rw [LinkTakes, linkAt, hForm]
  simp only [ensures_bind, ensures_pure]
  intro body hBody cases hCases discriminant hDiscriminant
  have hFind := Parts.find?_of_get hBody
  have hBodyForm : body.shape.form = .other "switch_body" := by
    simpa using form_of_find? h hFind hForm rfl rfl
  have hClean := h.cleanAt_of_some hFind fun hFaithful =>
    clean_switchBody hFaithful hBodyForm cases hCases
  refine Parts.taken_of_roles (fun _ => rfl) ?_
  exact And.intro (h.ensures_node _ discriminant hDiscriminant) hClean

theorem linkTakes_for (hForm : shape.form = .forStatement) : LinkTakes source shape parts span := by
  rw [LinkTakes, linkAt, hForm]
  simp only [ensures_bind, ensures_pure]
  intro init hInit test hTest step hStep body hBody
  refine Parts.taken_of_roles (fun _ => rfl) ?_
  have hClauses : parts.CleanAt "condition" ∧ parts.CleanAt "increment" ∧ parts.CleanAt "body" :=
    ⟨cleanAt_loopClause h _ test hTest, cleanAt_loopClause h _ step hStep,
      h.ensures_node _ body hBody⟩
  exact And.intro (cleanAt_loopClause h _ init hInit) hClauses

theorem linkTakes_template (hForm : shape.form = .templateString) :
    LinkTakes source shape parts span := by
  rw [LinkTakes, linkAt, hForm]
  simp only [ensures_bind, ensures_pure]
  intro pieces hPieces
  have hClean := clean_templateParts h.each _ pieces hPieces
  refine Parts.taken_of_items rfl fun r hr hItem => ?_
  obtain ⟨hMem, hNamed⟩ := Parts.of_mem_named hr
  exact hClean r hMem hNamed (of_decide_eq_true hItem)

theorem linkTakes_array (hForm : shape.form = .arrayLiteral ∨ shape.form = .arrayPattern) :
    LinkTakes source shape parts span := by
  rcases hForm with hForm | hForm
  all_goals
    rw [LinkTakes, linkAt, hForm]
    simp only [ensures_bind, ensures_pure]
    intro items hItems
    refine Parts.taken_of_items rfl fun r hr _ => ?_
    obtain ⟨hMem, hNamed⟩ := List.mem_filter.1 hr
    exact clean_elements h.each _ items hItems r hMem
      (by simpa using (Bool.and_eq_true_iff.1 hNamed).2)

theorem linkTakes_object (hForm : shape.form = .objectLiteral) :
    LinkTakes source shape parts span := by
  rw [LinkTakes, linkAt, hForm]
  simp only [ensures_bind, ensures_pure]
  intro items hItems
  have hClean := Parts.ensures_mapM_clean
    (fun r hr => clean_objectMember (h.each r (Parts.mem_of_named hr))) items hItems
  exact Parts.taken_of_items rfl fun r hr _ => hClean r hr

theorem linkTakes_objectPattern (hForm : shape.form = .objectPattern) :
    LinkTakes source shape parts span := by
  rw [LinkTakes, linkAt, hForm]
  simp only [ensures_bind, ensures_pure]
  intro items hItems
  have hClean := Parts.ensures_mapM_clean
    (fun r hr => clean_patternMember (h.each r (Parts.mem_of_named hr))) items hItems
  exact Parts.taken_of_items rfl fun r hr _ => hClean r hr

theorem linkTakes_new (hForm : shape.form = .newExpression) :
    LinkTakes source shape parts span := by
  rw [LinkTakes, linkAt, hForm]
  simp only [ensures_bind]
  intro callee hCallee
  have hCallee := h.ensures_node _ callee hCallee
  split
  · rename_i r hFind
    have hArguments : r.shape.form = .other "arguments" := by
      simpa using form_of_find? h hFind hForm rfl rfl
    simp only [ensures_bind, ensures_pure]
    intro items hItems
    have hClean := h.cleanAt_of_some hFind fun hFaithful =>
      hFaithful.ensures_nodes hArguments rfl rfl items hItems
    refine Parts.taken_of_roles (fun _ => rfl) ?_
    exact And.intro hCallee hClean
  · rename_i hFind
    refine ensures_pure.2 (Parts.taken_of_roles (fun _ => rfl) ?_)
    exact And.intro hCallee (Parts.cleanAt_of_none hFind)

theorem linkTakes_sequence (hForm : shape.form = .sequenceExpression) :
    LinkTakes source shape parts span := by
  rw [LinkTakes, linkAt, hForm]
  simp only [ensures_bind, ensures_pure]
  intro items hItems
  have hClean := clean_sequenceItems (fun r hr => h.each r (Parts.mem_of_named hr)) items hItems
  exact Parts.taken_of_items rfl fun r hr _ => hClean r hr

/-- Whatever the form, a reader at a span that succeeds has taken all there is. -/
theorem linkTakes (span : Span) : LinkTakes source shape parts span := by
  obtain ⟨form, hForm⟩ : ∃ form, shape.form = form := ⟨_, rfl⟩
  cases form
  case program | statementBlock => exact linkTakes_body h (by simp [hForm])
  case expressionStatement | awaitExpression | spreadElement | restPattern =>
    exact linkTakes_operand h (by simp [hForm])
  case returnStatement | throwStatement | yieldExpression =>
    exact linkTakes_operand? h (by simp [hForm])
  case emptyStatement | debuggerStatement | thisKeyword | superKeyword | trueKeyword | falseKeyword
    | nullKeyword | identifier | propertyIdentifier | shorthandPropertyIdentifier
    | shorthandPropertyIdentifierPattern | statementIdentifier | undefinedName
    | privatePropertyIdentifier | metaProperty | numberLiteral | stringLiteral | regexLiteral =>
    exact fun _ _ => hForm ▸ Parts.taken_of_roles (fun _ => rfl) trivial
  case breakStatement | continueStatement => exact linkTakes_jump h (by simp [hForm])
  case whileStatement | labeledStatement | assignmentPattern | assignmentExpression
    | augmentedAssignmentExpression => exact linkTakes_pair h (by simp [hForm])
  case doStatement => exact linkTakes_do h hForm
  case ternaryExpression => exact linkTakes_ternary h hForm
  case unaryExpression => exact linkTakes_unary h hForm
  case updateExpression => exact linkTakes_update h hForm
  case binaryExpression => exact linkTakes_binary h hForm
  case variableDeclaration | lexicalDeclaration => exact linkTakes_declaration h (by simp [hForm])
  case ifStatement => exact linkTakes_if h hForm
  case switchStatement => exact linkTakes_switch h hForm
  case forStatement => exact linkTakes_for h hForm
  case forInStatement =>
    exact linkTakes_of_reader (by rw [linkAt, hForm]) (taken_forEach h hForm span)
  case tryStatement =>
    exact linkTakes_of_reader (by rw [linkAt, hForm]) (taken_tryStatement h hForm span)
  case functionDeclaration | generatorFunctionDeclaration | functionExpression | functionKeyword
    | generatorFunction =>
    exact linkTakes_of_reader (by rw [linkAt, hForm])
      (taken_function h (by rw [hForm]; rfl) (by rw [hForm]; rfl) (by rw [hForm]; intro; rfl) _ _)
  case arrowFunction =>
    exact linkTakes_of_reader (by rw [linkAt, hForm]) (taken_arrow h hForm span)
  case classDeclaration | classKeyword =>
    exact linkTakes_of_reader (by rw [linkAt, hForm]) (taken_classNode h (by simp [hForm]) _ _)
  case templateString => exact linkTakes_template h hForm
  case arrayLiteral | arrayPattern => exact linkTakes_array h (by simp [hForm])
  case objectLiteral => exact linkTakes_object h hForm
  case objectPattern => exact linkTakes_objectPattern h hForm
  case callExpression =>
    exact linkTakes_of_reader (by rw [linkAt, hForm]) (taken_call h hForm span)
  case newExpression => exact linkTakes_new h hForm
  case memberExpression | subscriptExpression =>
    exact linkTakes_of_reader (by rw [linkAt, hForm])
      (taken_member h (by rw [hForm]; rfl) (by rw [hForm]; intro; rfl) span _)
  case sequenceExpression => exact linkTakes_sequence h hForm
  all_goals
    rw [LinkTakes, linkAt, hForm]
    exact ensures_refuse

omit h in
/-- A form of another grammar is refused. -/
theorem isForeign_of_linkAt (span : Span) :
    Ensures (linkAt source shape parts span) fun _ => shape.form.isForeign = false := by
  obtain ⟨form, hForm⟩ : ∃ form, shape.form = form := ⟨_, rfl⟩
  cases form
  all_goals first
    | exact fun _ _ => hForm ▸ rfl
    | rw [linkAt, hForm]; exact ensures_refuse

/-- A reader that succeeds has a form of its own and has taken all there is. -/
theorem ensures_link : Ensures (link source shape parts) fun _ =>
    shape.form.isForeign = false ∧ Parts.Taken shape.form parts := by
  unfold link
  split
  · rename_i hForm
    intro tree hTree
    exact ⟨by rw [hForm]; rfl, h.ensures_operand hForm rfl tree hTree⟩
  · exact Source.ensures_place fun span tree hTree =>
      ⟨isForeign_of_linkAt span tree hTree, linkTakes h span tree hTree⟩

end Links

end Lower

namespace Concrete

mutual

/-- The shapes of a tree that its reader comes to: all but those in what is overlooked. -/
def visible : Concrete → List Shape
  | .mk shape children => shape :: visibleIn shape.form children

/-- The shapes that the reader of a form comes to in several trees. -/
def visibleIn (form : Form) : List Concrete → List Shape
  | [] => []
  | tree :: rest =>
    (if form.overlooks tree.shape.form then [] else visible tree) ++ visibleIn form rest

end

theorem reading_faithful (source : Source) (tree : Concrete)
    (h : tree.all Shape.isExhausted = true) : (Concrete.reading source tree).Faithful := by
  induction tree using Concrete.induction with
  | mk shape children ih =>
    obtain ⟨hShape, hChildren⟩ := all_iff.1 h
    have hParts : Parts.Faithful shape (Concrete.readings source children) := by
      refine ⟨?_, forall_readings.2 fun child hChild => ih child hChild (hChildren child hChild)⟩
      rw [map_shape_readings]
      exact hShape
    have hLink (node : Read Node) : Ensures (Lower.link source shape
        (Concrete.readings source children)) fun _ => Reading.Clean (.mk shape node
          (Lower.link source shape (Concrete.readings source children))
          (Concrete.readings source children)) := by
      intro tree hTree
      obtain ⟨hForeign, hTaken⟩ := Lower.ensures_link hParts tree hTree
      exact hParts.clean hForeign hTaken _ _
    unfold Concrete.reading
    refine ⟨shape, _, _, _, hParts.exhausted, ?_, hLink _, hParts.each⟩
    split
    · exact ensures_map.2 (hLink _)
    · exact hLink _

mutual

theorem supported_of_clean (source : Source) : (tree : Concrete) →
    (Concrete.reading source tree).Clean → ∀ shape ∈ tree.visible, shape.form.isUnsupported = false
  | .mk root children, h => by
    unfold Concrete.reading at h
    obtain ⟨_, _, _, _, hForm, hParts⟩ := h
    rw [visible, List.forall_mem_cons]
    exact ⟨hForm, supported_of_cleanIn source root.form children hParts⟩

theorem supported_of_cleanIn (source : Source) (form : Form) : (trees : List Concrete) →
    (∀ part ∈ Concrete.readings source trees, form.overlooks part.shape.form = false → part.Clean) →
    ∀ shape ∈ visibleIn form trees, shape.form.isUnsupported = false
  | [], _ => by simp [visibleIn]
  | tree :: rest, h => by
    rw [Concrete.readings, List.forall_mem_cons, shape_reading] at h
    rw [visibleIn, List.forall_mem_append]
    refine ⟨?_, supported_of_cleanIn source form rest h.2⟩
    split
    · simp
    · rename_i hSeen
      exact supported_of_clean source tree (h.1 (Bool.not_eq_true _ ▸ hSeen))

end

end Concrete

namespace Script

/-- A program that is read has no unsupported syntax that its reader comes to. -/
theorem supported_of_parse {script : Script} {program : Node} (hExhausted : script.isExhausted = true)
    (hParse : script.parse = .ok program) :
    ∀ shape ∈ script.tree.visible, shape.form.isUnsupported = false := by
  unfold parse at hParse
  split at hParse
  · cases hParse
  dsimp only at hParse
  split at hParse
  · exact absurd hParse (Concrete.refuseFault_ne_ok _ _ program)
  · rename_i hFault
    have hAll := (Bool.or_eq_true_iff.1 hExhausted).resolve_left hFault
    have hFaithful := Concrete.reading_faithful (Source.ofText script.code) script.tree hAll
    exact Concrete.supported_of_clean _ script.tree (hFaithful.node program hParse)

/-- A program with unsupported syntax is never read, unless the syntax is overlooked: it is refused at
one of its places, or it has a defect. -/
theorem parse_unsupported (script : Script) (hComplete : script.isComplete = true)
    (hExhausted : script.isExhausted = true)
    (hForm : ∃ shape ∈ script.tree.visible, shape.form.isUnsupported = true) :
    (∃ refusal index, script.parse = .error (.refused refusal index) ∧
        (Position.ofIndex script.code index).LiesIn script.code) ∨
      ∃ error, script.parse = .error error ∧ script.Defect error := by
  obtain ⟨shape, hShape, hForm⟩ := hForm
  cases hParse : script.parse with
  | ok program =>
    have hSupported := supported_of_parse hExhausted hParse shape hShape
    rw [hForm] at hSupported
    cases hSupported
  | error error =>
    cases parse_reports hComplete error hParse with
    | refusal refusal index hPlace => exact .inl ⟨refusal, index, rfl, hPlace⟩
    | defect hDefect => exact .inr ⟨error, rfl, hDefect⟩

/-- The program `class A { x = import("y"); }`. -/
def importingField : Script where
  code := "class A \x7b x = import(\"y\"); \x7d"
  tree :=
    .part .program 0 28 "" [.part .classDeclaration 0 28 ""
      [.mk ⟨.classKeyword, 0, 5, "", false, false, false⟩ [], .part .identifier 6 7 "name" [],
       .part (.other "class_body") 8 28 "body"
        [.token 8 9 "\x7b" "",
         .part .fieldDefinition 10 25 "member"
          [.part .propertyIdentifier 10 11 "property" [],
           .token 12 13 "=" "",
           .part .callExpression 14 25 "value"
            [.part .importKeyword 14 20 "function"
              [.mk ⟨.importKeyword, 14, 20, "", false, false, false⟩ []],
             .part (.other "arguments") 20 25 "arguments"
              [.token 20 21 "(" "",
               .part .stringLiteral 21 24 "" [.token 21 22 "\"" "",
                 .part (.other "string_fragment") 22 23 "" [],
                 .token 23 24 "\"" ""],
               .token 24 25 ")" ""]]],
         .token 25 26 ";" "", .token 27 28 "\x7d" ""]]]

theorem parse_unsupported_importingField :
    (importingField.isComplete = true ∧ importingField.isExhausted = true ∧
      ∃ shape ∈ importingField.tree.visible, shape.form.isUnsupported = true) ∧
      ((∃ refusal index, importingField.parse = .error (.refused refusal index) ∧
          (Position.ofIndex importingField.code index).LiesIn importingField.code) ∨
        ∃ error, importingField.parse = .error error ∧ importingField.Defect error) := by
  have hComplete : importingField.isComplete = true := by decide
  have hExhausted : importingField.isExhausted = true := by decide
  have hForm : ∃ shape ∈ importingField.tree.visible, shape.form.isUnsupported = true :=
    List.any_eq_true.1 (by decide)
  exact ⟨⟨hComplete, hExhausted, hForm⟩, parse_unsupported importingField hComplete hExhausted hForm⟩

/-- The program `@dec class A {}`. -/
def decoratedClass : Script where
  code := "@dec class A \x7b\x7d"
  tree :=
    .part .program 0 15 "" [.part .classDeclaration 0 15 ""
      [.part .decorator 0 4 "decorator"
        [.token 0 1 "@" "", .part .identifier 1 4 "" []],
       .mk ⟨.classKeyword, 5, 10, "", false, false, false⟩ [], .part .identifier 11 12 "name" [],
       .part (.other "class_body") 13 15 "body"
        [.token 13 14 "\x7b" "", .token 14 15 "\x7d" ""]]]

/-- The program `import.meta;`. -/
def importMeta : Script where
  code := "import.meta;"
  tree :=
    .part .program 0 12 "" [.part .expressionStatement 0 12 ""
      [.part .metaProperty 0 11 "" [.mk ⟨.importKeyword, 0, 6, "", false, false, false⟩ [],
        .token 6 7 "." "", .token 7 11 "meta" ""],
       .token 11 12 ";" ""]]

/-- A decorated class is read as the class without its decorator, and `import.meta` is read too. -/
theorem parse_overlooked :
    (decoratedClass.isComplete = true ∧ decoratedClass.isExhausted = true ∧
      (∃ shape ∈ decoratedClass.tree.shapes, shape.form.isUnsupported = true) ∧
      decoratedClass.parse = .ok (.program (.between 0 15) [.classNode .declaration (.between 0 15)
        (some (.identifier (.between 11 12) "A")) none (.classBody (.between 13 15) [])])) ∧
    importMeta.isComplete = true ∧ importMeta.isExhausted = true ∧
      (∃ shape ∈ importMeta.tree.shapes, shape.form.isUnsupported = true) ∧
      importMeta.parse = .ok (.program (.between 0 12) [.expressionStatement (.between 0 12)
        (.metaProperty (.between 0 11) (.identifier (.between 0 11) "import")
          (.identifier (.between 0 11) "meta"))]) := by
  refine ⟨⟨by decide, by decide, List.any_eq_true.1 (by decide), rfl⟩, by decide, by decide,
    List.any_eq_true.1 (by decide), rfl⟩

end Script

end Assay
