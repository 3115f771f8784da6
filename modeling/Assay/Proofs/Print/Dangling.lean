import Assay.Proofs.Print.Branches

/-!
# Each `else` is printed behind its own `if`

A statement may end with an `if` that is still open: the body of a loop, of a label or of an `else` may
be one. So an `else` behind it would be taken away from the `if` that it is printed for, if the printer
did not put what stands before an `else` between braces. `Reads` says what the tokens of a node do to
what is open before them: a statement leaves nothing open but `if`s of its own (`Sound`), what ends with
a brace leaves nothing open at all (`Braces`), and what is no clause ends no statement (`Quiet`).
`reads` is the induction over the tree, with one lemma for each kind of statement, and `else_binds` says
for a printed tree that the `else`s of its text belong to the `if`s that they belong to in the tree.
-/

set_option autoImplicit false

namespace Assay

variable {nodes : List Node}

namespace Print

/-! ## Brackets -/

section Groups

variable {scope : Scope} {outer : List Scope} {seen : Tally} {parts shown inside : List Stretch}

theorem move_move {first : Place} (h : first ≠ .semicolon) (second : Place) :
    (scope.move first).move second = scope.move second := by
  rw [Scope.move, settled_move h, Scope.move]

theorem Lexeme.isSmooth_mono {lexeme : Lexeme} (h : lexeme.isSmooth false = true) :
    lexeme.isSmooth true = true := by
  cases lexeme with
  | own text => exact (Bool.and_true _).trans (Bool.and_eq_true_iff.1 h).1
  | spelled | operator => rfl

theorem tally?_mono {tally : Tally} (h : tally? false parts seen = some tally) :
    tally? true parts seen = some tally := by
  induction parts generalizing seen with
  | nil => exact h
  | cons stretch rest ih =>
    cases stretch with
    | lexeme lexeme =>
      obtain ⟨hText, hRest⟩ := Option.ite_none_right_eq_some.1 h
      exact (if_pos (Lexeme.isSmooth_mono hText)).trans (ih hRest)
    | part level node => exact ih h

theorem mem_of_mem_shownAt {depth : Int} {stretch : Stretch} (h : stretch ∈ shownAt depth parts) :
    stretch ∈ parts := by
  unfold shownAt at h
  split at h
  · exact h
  · cases h

theorem part_mem_of_outside {depth : Int} (h : outside depth parts = some shown) {level : Nat}
    {node : Node} (hMem : .part level node ∈ shown) : .part level node ∈ parts := by
  induction parts generalizing depth shown with
  | nil =>
    simp only [outside, Option.ite_none_right_eq_some, Option.some.injEq] at h
    rw [← h.2] at hMem
    cases hMem
  | cons first rest ih =>
    cases first with
    | lexeme lexeme =>
      simp only [outside, Option.ite_none_left_eq_some, Option.map_eq_map,
        Option.map_eq_some_iff] at h
      obtain ⟨-, others, hOthers, rfl⟩ := h
      rcases List.mem_append.1 hMem with hFirst | hRest
      · have hSign := mem_of_mem_shownAt hFirst
        split at hSign <;> simp at hSign
      · exact List.mem_cons_of_mem _ (ih hOthers hRest)
    | part lower part =>
      simp only [outside, Option.map_eq_map, Option.map_eq_some_iff] at h
      obtain ⟨others, hOthers, rfl⟩ := h
      rcases List.mem_append.1 hMem with hFirst | hRest
      · exact List.mem_singleton.1 (mem_of_mem_shownAt hFirst) ▸ List.mem_cons_self
      · exact List.mem_cons_of_mem _ (ih hOthers hRest)

/-- What stands between two brackets is read in a scope of its own. -/
theorem run_group {tally : Tally} (hOutside : outside 0 inside = some shown)
    (hTally : tally? true inside seen = some tally)
    (hParts : ∀ level node, .part level node ∈ inside → Clear level node) (isBrace : Bool)
    (rest : List Mark) :
    Reader.run ⟨scope :: outer, seen⟩
        (.opening :: (marks (strung inside) ++ .closing isBrace :: rest)) =
      Reader.run ⟨scope.move (if isBrace then .brace else .inside) :: outer, tally⟩ rest := by
  have hShown (level : Nat) (node : Node) (hMem : .part level node ∈ shown) : Clear level node :=
    hParts level node (part_mem_of_outside hOutside hMem)
  obtain ⟨last, -, hRun⟩ := run_strung isKept_noLoops hOutside hShown hParts rfl
    (List.forall_mem_nil _) (noLoops_nil .inside) (scope.move .inside :: outer) hTally
  rw [run_cons, Reader.stepIn, run_append]
  rw [List.nil_append] at hRun
  rw [hRun, run_cons, Reader.stepIn, move_move (by simp)]

end Groups

/-! ## Statements -/

/-- A statement may start in the scope: what stands before it is no statement in a `do`. -/
def Scope.Starts (scope : Scope) : Prop := scope.place = .inside ∨ scope.NoLoops

/-- The tokens of a statement end it. What they leave open are `if`s that have no `else`. -/
def Sound (level : Nat) (node : Node) : Prop :=
  ∀ ⦃scope⦄, scope.Starts → ∀ outer seen, ∃ frames place,
    (∀ frame ∈ frames, frame.isBranch = true) ∧ place ≠ .inside ∧
    Reader.run ⟨scope :: outer, seen⟩ (marks (tokens level node)) =
      ⟨⟨frames ++ scope.settled, place⟩ :: outer, node.tally seen⟩

/-- The tokens end with a brace and leave nothing open. -/
def Braces (level : Nat) (node : Node) : Prop :=
  ∀ scope outer seen, Reader.run ⟨scope :: outer, seen⟩ (marks (tokens level node)) =
    ⟨scope.move .brace :: outer, node.tally seen⟩

/-- What the tokens of a node do, by what the node is. -/
structure Reads (level : Nat) (node : Node) : Prop where
  quiet : node.isClause = false → Quiet level node
  braces : node.isCompound = true → Braces level node
  sound : node.isStatement = true → Sound level node
  clear : Clear level node

/-- The same for all parts of a node. -/
def ReadsParts (level : Nat) (node : Node) : Prop :=
  ∀ lower part, .part lower part ∈ unfolded level node → Reads lower part

section Statements

variable {level : Nat} {node : Node}

theorem Braces.sound (h : Braces level node) : Sound level node := by
  intro scope _ outer seen
  exact ⟨[], .brace, List.forall_mem_nil _, by simp, h scope outer seen⟩

theorem Sound.clear (h : Sound level node) : Clear level node := by
  intro scope hScope outer seen
  obtain ⟨frames, place, hFrames, -, hRun⟩ := h (.inr hScope) outer seen
  refine ⟨_, fun frame hFrame => ?_, hRun⟩
  rcases List.mem_append.1 hFrame with hNew | hOld
  · exact hFrames frame hNew
  · exact noLoops_iff.1 hScope frame hOld

theorem Scope.Starts.repeated {scope : Scope} (h : scope.Starts) : scope.repeated = scope.settled := by
  rw [Scope.repeated, if_neg]
  rintro ⟨hPlace, hLoop⟩
  rcases h with hInside | hNone
  · exact hPlace hInside
  · cases hNone _ hLoop

/-- A `while` behind a statement ends the `do` around it. -/
theorem repeated_of_loop {frames others : List Frame} {place : Place}
    (hFrames : ∀ frame ∈ frames, frame.isBranch = true) (hPlace : place ≠ .inside) :
    Scope.repeated ⟨frames ++ .loop :: others, place⟩ = others := by
  rw [Scope.repeated, if_pos ⟨hPlace, by simp⟩, List.dropWhile_append_of_pos hFrames]
  rfl

end Statements

theorem Run.outside_eq {parts shown : List Stretch} (h : Run parts shown) :
    outside 0 parts = some shown := by
  simpa [outside, shownAt] using h 0 [] (Int.le_refl 0)

section Statements

variable {level : Nat} {node : Node}
  (h : ReadsParts level node)

include h

/-- A statement that is a head between brackets with a body behind it. -/
theorem sound_of_head {body : Node} {shown : List Stretch} (first inside : List Stretch)
    (lead : List Mark) (frames : Tally → List Frame) (started : Tally → Tally)
    (hUnfolded : unfolded level node = first ++ inside ++ [Stretch.own ") ", .part level body])
    (hFirst : marks (strung first) = lead ++ [Mark.opening]) (hInside : Run inside shown)
    (hBody : body.isStatement = true)
    (hLead : ∀ ⦃scope : Scope⦄, scope.Starts → ∀ outer seen,
      (∀ frame ∈ frames seen, frame.isBranch = true) ∧
      Reader.run ⟨scope :: outer, seen⟩ lead =
        ⟨⟨frames seen ++ scope.settled, .inside⟩ :: outer, started seen⟩)
    (hTally : ∀ seen,
      (tally? true inside (started seen)).map body.tally = some (node.tally seen)) :
    Sound level node := by
  have hMarks : marks (tokens level node) = lead ++ .opening :: (marks (strung inside) ++
      .closing false :: marks (tokens level body)) := by
    have hClose : Lexeme.marks (.own ") ") = [.closing false] := by decide
    rw [tokens_eq, hUnfolded]
    simp [hFirst, hClose]
  have hParts (lower : Nat) (part : Node) (hMem : .part lower part ∈ inside) : Clear lower part :=
    (h lower part (by simp [hUnfolded, hMem])).clear
  intro scope hScope outer seen
  obtain ⟨hFrames, hRun⟩ := hLead hScope outer seen
  obtain ⟨tally, hHead, hNode⟩ := Option.map_eq_some_iff.1 (hTally seen)
  have hStarts : Scope.Starts ⟨frames seen ++ scope.settled, .inside⟩ := .inl rfl
  obtain ⟨more, place, hMore, hPlace, hEnd⟩ := (h level body (by simp [hUnfolded])).sound hBody
    hStarts outer tally
  refine ⟨more ++ frames seen, place, List.forall_mem_append.2 ⟨hMore, hFrames⟩, hPlace, ?_⟩
  rw [hMarks, run_append, hRun, run_group hInside.outside_eq hHead hParts, ← hNode,
    List.append_assoc]
  exact hEnd

/-- The same for a head that opens no frame. -/
theorem sound_of_plainHead {body : Node} {shown : List Stretch} (first inside : List Stretch)
    (hUnfolded : unfolded level node = first ++ inside ++ [Stretch.own ") ", .part level body])
    (hFirst : marks (strung first) ∈ [[.other, .opening], [Mark.other, .other, .opening]])
    (hInside : Run inside shown) (hBody : body.isStatement = true)
    (hTally : ∀ seen, (tally? true inside seen).map body.tally = some (node.tally seen)) :
    Sound level node := by
  obtain ⟨lead, hLead, hOpen⟩ : ∃ lead ∈ [[.other], [Mark.other, .other]],
      marks (strung first) = lead ++ [Mark.opening] := by simpa using hFirst
  refine sound_of_head h first inside lead (fun _ => []) id hUnfolded hOpen hInside hBody
    (fun scope _ outer seen => ⟨List.forall_mem_nil _, ?_⟩) hTally
  simp only [List.mem_cons, List.not_mem_nil, or_false] at hLead
  rcases hLead with rfl | rfl
  · rfl
  · rw [run_cons, Reader.stepIn, run_cons, Reader.stepIn, move_move (by simp)]
    rfl

end Statements

theorem part_mem_lines {level lower : Nat} {part : Node} {separator : Text}
    (h : .part lower part ∈ (series separator (nodes.map (line level))).flatMap Segment.stretches) :
    lower = level ∧ part ∈ nodes := by
  obtain ⟨segment, hSegment, hMem⟩ := List.mem_flatMap.1 h
  cases segment with
  | token text => simp [Segment.stretches] at hMem
  | part setting inner node =>
    obtain ⟨item, hItem, hPart⟩ := part_mem_series.1 hSegment
    obtain ⟨found, hFound, rfl⟩ := List.mem_map.1 hItem
    simp only [line, List.mem_cons, reduceCtorEq, Segment.part.injEq, List.not_mem_nil, false_or,
      or_false] at hPart
    obtain ⟨rfl, rfl, rfl⟩ := hPart
    obtain ⟨rfl, rfl⟩ : lower = inner ∧ part = node := by
      simpa [Segment.stretches, Setting.stretches] using hMem
    exact ⟨rfl, hFound⟩

theorem mem_stretches_enclosed {level : Nat} {part : Node} {separator : Text} (h : part ∈ nodes) :
    .part (level + 1) part ∈
      (enclosed level separator (nodes.map (line (level + 1)))).flatMap Segment.stretches := by
  refine List.mem_flatMap.2 ⟨.part .plain (level + 1) part, part_mem_enclosed.2 ?_, ?_⟩
  · exact ⟨line (level + 1) part, List.mem_map_of_mem h, by simp [line]⟩
  · simp [Segment.stretches, Setting.stretches]

/-- Lines between braces leave nothing open. -/
theorem run_enclosed {level : Nat} (h : ∀ node ∈ nodes, Clear (level + 1) node) (scope : Scope)
    (outer : List Scope) (seen : Tally) :
    Reader.run ⟨scope :: outer, seen⟩ (marks (strung ((enclosed level ""
        (nodes.map (line (level + 1)))).flatMap Segment.stretches))) =
      ⟨scope.move .brace :: outer, Node.tallyAll nodes seen⟩ := by
  by_cases hNone : nodes = []
  · have hBoth : Lexeme.marks (.own "\x7b\x7d") = [.opening, .closing true] := by decide
    have hMove : (scope.move .inside).move .brace = scope.move .brace := move_move (by simp) .brace
    subst hNone
    simp [enclosed, Segment.stretches, hBoth, Reader.stepIn, hMove]
  · have hOpen : Lexeme.marks (.own "\x7b\n") = [.opening] := by decide
    have hClose : Lexeme.marks (.own "\x7d") = [.closing true] := by decide
    have hZero : Lexeme.opened ("" ++ "\n") = 0 := by decide
    have hBreak : Run [.own "\n"] [] := .own (by decide)
    have hInside := (Run.lines hZero (level + 1) nodes).append
      (hBreak.append (.own (Lexeme.opened_indent level)))
    have hTally : tally? false ((enclosed level "" (nodes.map (line (level + 1)))).flatMap
      Segment.stretches) seen = some (Node.tallyAll nodes seen) := tally?_enclosed (by decide) nodes
    generalize hLines : (series ("" ++ "\n")
      (nodes.map (line (level + 1)))).flatMap Segment.stretches = lines at hInside
    have hStretches : (enclosed level "" (nodes.map (line (level + 1)))).flatMap
        Segment.stretches = [Stretch.own "\x7b\n"] ++
          (lines ++ ([Stretch.own "\n"] ++ [Stretch.own (indent level)])) ++ [Stretch.own "\x7d"] := by
      simp [← hLines, enclosed, Segment.stretches, hNone]
    have hParts (lower : Nat) (part : Node)
        (hMem : Stretch.part lower part ∈
          lines ++ ([Stretch.own "\n"] ++ [Stretch.own (indent level)])) :
        Clear lower part := by
      have hLine : .part lower part ∈ lines := by simpa using hMem
      obtain ⟨rfl, hPart⟩ := part_mem_lines (hLines ▸ hLine)
      exact h part hPart
    rw [hStretches, List.append_assoc, List.singleton_append, tally?_own (by decide), tally?_append]
      at hTally
    obtain ⟨tally, hInner, hLast⟩ := Option.bind_eq_some_iff.1 hTally
    rw [tally?_own (by decide)] at hLast
    cases hLast
    rw [hStretches]
    simpa [hOpen, hClose] using run_group hInside.outside_eq (tally?_mono hInner) hParts true []

section Kinds

variable {level : Nat} {span : Span}

attribute [local simp] unfolded stretches segments Segment.stretches

theorem tally?_head (node : Node) (seen : Tally) :
    tally? true (Setting.head.stretches level node) seen = some (node.tally seen) := by
  refine tally?_mono ?_
  cases node
  case variableDeclaration =>
    rw [Setting.stretches, tally?_spelled, tally?_own (by decide), tally?_listed, Node.tally_eq rfl]
    rfl
  all_goals rfl

theorem sound_whileStatement {test body : Node}
    (h : ReadsParts level (.whileStatement span test body)) (hBody : body.isStatement = true) :
    Sound level (.whileStatement span test body) := by
  refine sound_of_head h [.own "while ("] [.part level test] [.whileWord] (fun _ => []) id ?_ ?_
    (.part level test) hBody ?_ ?_
  · simp [Setting.stretches]
  · decide
  · intro scope hScope outer seen
    refine ⟨List.forall_mem_nil _, ?_⟩
    rw [run_cons, Reader.stepIn, hScope.repeated]
    rfl
  · intro seen
    rw [Node.tally_eq rfl]
    rfl

theorem sound_forStatement {init test step : Option Node} {body : Node}
    (h : ReadsParts level (.forStatement span init test step body)) (hBody : body.isStatement = true) :
    Sound level (.forStatement span init test step body) := by
  have hStop : Run [.own ";"] [] := .own (by decide)
  have hClause (part : Option Node) : Run ((optional level " " part).flatMap Segment.stretches) _ :=
    Run.optional (by decide) level part
  have hTally (part : Option Node) (seen : Tally) :
      tally? true ((optional level " " part).flatMap Segment.stretches) seen =
        some (Node.tallyAll part.toList seen) := tally?_mono (tally?_optional (by decide) part)
  refine sound_of_plainHead h [.own "for ("] _ ?_ (by decide) ((Run.init level init).append
    (hStop.append ((hClause test).append (hStop.append (hClause step))))) hBody ?_
  · simp [Setting.stretches]
  · intro seen
    have hSemicolon : (Lexeme.own ";").isSmooth true = true := by decide
    rw [Node.tally_eq rfl]
    cases init <;> simp [tally?_append, tally?_own, tally?_head, hTally, hSemicolon, Node.written,
      Node.parts, Node.looseParts, Node.placedParts]

/-- A loop over keys or items. -/
theorem sound_forEach {node left right body : Node} (first : List Stretch) (word : Text)
    (h : ReadsParts level node)
    (hUnfolded : unfolded level node = first ++ (Setting.head.stretches level left ++
      ([Stretch.own word] ++ [Stretch.part level right])) ++
        [Stretch.own ") ", .part level body])
    (hFirst : marks (strung first) ∈ [[.other, .opening], [Mark.other, .other, .opening]])
    (hWord : word ∈ [Text.ofString " in ", Text.ofString " of "]) (hBody : body.isStatement = true)
    (hTally : ∀ seen, node.tally seen = body.tally (right.tally (left.tally seen))) :
    Sound level node := by
  have hSmooth : ∀ word ∈ [Text.ofString " in ", " of "],
      Lexeme.opened word = 0 ∧ (Lexeme.own word).isSmooth true = true := by decide
  obtain ⟨hOpened, hText⟩ := hSmooth word hWord
  have hHead : Run (Setting.head.stretches level left) _ := Run.setting (by simp) level left
  refine sound_of_plainHead h first _ hUnfolded hFirst
    (hHead.append ((Run.own hOpened).append (.part level right))) hBody fun seen => ?_
  rw [tally?_append, tally?_head, Option.bind_some, List.singleton_append, tally?_own hText, hTally]
  rfl

theorem sound_ifStatement_none {test consequent : Node}
    (h : ReadsParts level (.ifStatement span test consequent none))
    (hConsequent : consequent.isStatement = true) :
    Sound level (.ifStatement span test consequent none) := by
  refine sound_of_head h [.own "if ("] [.part level test] [.ifWord]
    (fun seen => [.branch seen.count]) Tally.branch ?_ (by decide) (.part level test) hConsequent ?_
    ?_
  · simp [Setting.stretches]
  · intro scope _ outer seen
    exact ⟨by simp [Frame.isBranch], rfl⟩
  · intro seen
    rw [Node.tally]
    rfl

/-- What stands before an `else` ends with a brace, so all that was opened in it is closed. -/
theorem run_arm {node : Node}
    (h : ∀ lower part, .part lower part ∈ Setting.arm.stretches level node → Reads lower part)
    (scope : Scope) (outer : List Scope) (seen : Tally) :
    Reader.run ⟨scope :: outer, seen⟩ (marks (strung (Setting.arm.stretches level node))) =
      ⟨scope.move .brace :: outer, node.tally seen⟩ := by
  cases hBlock : node.isBlock with
  | true =>
    have hCompound : node.isCompound = true := by
      cases node <;> first | rfl | cases hBlock
    have hReads := h level node (by simp [Setting.stretches, hBlock])
    have hRun := hReads.braces hCompound scope outer seen
    simpa [Setting.stretches, hBlock] using hRun
  | false =>
    have hEnclosed : Setting.arm.stretches level node =
        (enclosed level "" ([node].map (line (level + 1)))).flatMap Segment.stretches := by
      simp [Setting.stretches, hBlock, enclosed, series, line]
    have hClear (part : Node) (hPart : part ∈ [node]) : Clear (level + 1) part := by
      obtain rfl := List.mem_singleton.1 hPart
      exact (h (level + 1) part (by simp [Setting.stretches, hBlock])).clear
    rw [hEnclosed]
    exact run_enclosed hClear scope outer seen

theorem sound_ifStatement_some {test consequent alternate : Node}
    (h : ReadsParts level (.ifStatement span test consequent (some alternate)))
    (hAlternate : alternate.isStatement = true) :
    Sound level (.ifStatement span test consequent (some alternate)) := by
  have hUnfolded : unfolded level (.ifStatement span test consequent (some alternate)) =
      [Stretch.own "if (", .part level test, .own ") "] ++ Setting.arm.stretches level consequent ++
        [Stretch.own " else ", .part level alternate] := by
    simp [Setting.stretches]
  rw [ReadsParts, hUnfolded] at h
  have hMarks : marks (tokens level (.ifStatement span test consequent (some alternate))) =
      .ifWord :: .opening :: (marks (strung [.part level test]) ++ .closing false ::
        (marks (strung (Setting.arm.stretches level consequent)) ++ .elseWord ::
          marks (tokens level alternate))) := by
    have hIf : Lexeme.marks (.own "if (") = [.ifWord, .opening] := by decide
    have hClose : Lexeme.marks (.own ") ") = [.closing false] := by decide
    have hElse : Lexeme.marks (.own " else ") = [.elseWord] := by decide
    rw [tokens_eq, hUnfolded]
    simp [hIf, hClose, hElse]
  have hTest (lower : Nat) (part : Node) (hMem : .part lower part ∈ [Stretch.part level test]) :
      Clear lower part :=
    (h lower part (by simp_all)).clear
  have hArm (lower : Nat) (part : Node)
      (hMem : .part lower part ∈ Setting.arm.stretches level consequent) : Reads lower part :=
    h lower part (by simp [hMem])
  intro scope _ outer seen
  have hStarts : Scope.Starts ⟨scope.settled, .inside⟩ := .inl rfl
  obtain ⟨frames, place, hFrames, hPlace, hEnd⟩ :=
    (h level alternate (by simp)).sound hAlternate hStarts outer
      ((consequent.tally (test.tally seen.branch)).bind (some seen.count))
  refine ⟨frames, place, hFrames, hPlace, ?_⟩
  rw [hMarks, run_cons, Reader.stepIn, run_group (Run.part level test).outside_eq rfl hTest,
    run_append, run_arm hArm, run_cons, Node.tally]
  exact hEnd

theorem sound_doWhileStatement {test body : Node}
    (h : ReadsParts level (.doWhileStatement span body test)) (hBody : body.isStatement = true) :
    Sound level (.doWhileStatement span body test) := by
  have hUnfolded : unfolded level (.doWhileStatement span body test) = [.own "do ",
      .part level body, .own " while (", .part level test, .own ");"] := by
    simp [Setting.stretches]
  have hTally (seen : Tally) : (Node.doWhileStatement span body test).tally seen =
      test.tally (body.tally seen) := by
    rw [Node.tally_eq rfl]
    rfl
  have hMarks : marks (tokens level (.doWhileStatement span body test)) =
      .doWord :: (marks (tokens level body) ++ Mark.whileWord :: .opening ::
        (marks (strung [.part level test]) ++ Mark.closing false :: [.semicolon])) := by
    have hDo : Lexeme.marks (.own "do ") = [.doWord] := by decide
    have hWhile : Lexeme.marks (.own " while (") = [.whileWord, .opening] := by decide
    have hEnd : Lexeme.marks (.own ");") = [.closing false, .semicolon] := by decide
    rw [tokens_eq, hUnfolded]
    simp [hDo, hWhile, hEnd]
  rw [ReadsParts, hUnfolded] at h
  have hTest (lower : Nat) (part : Node) (hMem : .part lower part ∈ [Stretch.part level test]) :
      Clear lower part :=
    (h lower part (by simp_all)).clear
  intro scope _ outer seen
  have hStarts : Scope.Starts ⟨.loop :: scope.settled, .inside⟩ := .inl rfl
  obtain ⟨frames, place, hFrames, hPlace, hRun⟩ :=
    (h level body (by simp)).sound hBody hStarts outer seen
  refine ⟨[], .semicolon, List.forall_mem_nil _, by simp, ?_⟩
  rw [hMarks, run_cons, Reader.stepIn, run_append, hRun, run_cons, Reader.stepIn,
    settled_of_inside rfl, repeated_of_loop hFrames hPlace,
    run_group (Run.part level test).outside_eq rfl hTest, run_cons, Reader.stepIn,
    move_move (by simp), hTally]
  rfl

theorem sound_labeledStatement {label body : Node}
    (h : ReadsParts level (.labeledStatement span label body))
    (hLabel : label.isClause = false) (hBody : body.isStatement = true) :
    Sound level (.labeledStatement span label body) := by
  have hUnfolded : unfolded level (.labeledStatement span label body) =
      [.part level label, .own ": ", .part level body] := by
    simp [Setting.stretches]
  have hColon : Lexeme.marks (.own ": ") = [.other] := by decide
  have hTally (seen : Tally) : (Node.labeledStatement span label body).tally seen =
      body.tally (label.tally seen) := by
    rw [Node.tally_eq rfl]
    rfl
  rw [ReadsParts, hUnfolded] at h
  intro scope _ outer seen
  obtain ⟨scope', hSame, hRun⟩ :=
    (h level label (by simp)).quiet hLabel scope.settled rfl outer seen
  have hStarts : Scope.Starts (scope'.move .inside) := .inl rfl
  obtain ⟨frames, place, hFrames, hPlace, hEnd⟩ :=
    (h level body (by simp)).sound hBody hStarts outer (label.tally seen)
  refine ⟨frames, place, hFrames, hPlace, ?_⟩
  rw [tokens_eq, hUnfolded, strung_part, strung_lexeme, strung_part, strung_nil, List.append_nil,
    marks_append, marks_cons, hColon, run_append, hRun, List.singleton_append, run_cons,
    Reader.stepIn, hEnd, settled_move (by simp), hSame, hTally]

end Kinds

/-! ## Nodes that end with a semicolon or a brace -/

section Ends

variable {front : List Stretch} {level : Nat} {node : Node}

/-- What stands in front of a stretch that opens and closes no bracket. -/
theorem outside_front {shown : List Stretch} {last : Stretch} {depth : Int}
    (hLast : ∀ lexeme, last = .lexeme lexeme → lexeme.shift = 0)
    (h : outside depth (front ++ [last]) = some shown) :
    ∃ shown', outside depth front = some shown' ∧ shown' ⊆ shown := by
  induction front generalizing depth shown with
  | nil =>
    have hZero : depth = 0 := by
      by_contra hDepth
      cases last with
      | lexeme lexeme => simp [outside, hLast lexeme rfl, hDepth] at h
      | part lower part => simp [outside, hDepth] at h
    exact ⟨[], by simp [outside, hZero], by simp⟩
  | cons first rest ih =>
    cases first with
    | lexeme lexeme =>
      simp only [List.cons_append, outside, Option.ite_none_left_eq_some, Option.map_eq_map,
        Option.map_eq_some_iff] at h ⊢
      obtain ⟨hShift, others, hOthers, rfl⟩ := h
      obtain ⟨before, hBefore, hSubset⟩ := ih hOthers
      exact ⟨_, ⟨hShift, before, hBefore, rfl⟩, List.append_subset.2
        ⟨List.subset_append_left _ _, List.subset_append_of_subset_right _ hSubset⟩⟩
    | part lower part =>
      simp only [List.cons_append, outside, Option.map_eq_map, Option.map_eq_some_iff] at h ⊢
      obtain ⟨others, hOthers, rfl⟩ := h
      obtain ⟨before, hBefore, hSubset⟩ := ih hOthers
      exact ⟨_, ⟨before, hBefore, rfl⟩, List.append_subset.2
        ⟨List.subset_append_left _ _, List.subset_append_of_subset_right _ hSubset⟩⟩

theorem Run.template (level : Nat) (quasis : List Quasi) (expressions : List Node) :
    Run (templateStretches level quasis expressions) [] := by
  fun_induction templateStretches level quasis expressions with
  | case1 quasis => exact .spelled _
  | case2 => exact .nil
  | case3 quasi quasis expression rest ih =>
    exact (Run.spelled quasi.raw).append
      ((Run.group "$\x7b" "\x7d" (by decide) (by decide) (.part level expression)).append ih)

theorem outside_unfolded (level : Nat) (node : Node) :
    outside 0 (unfolded level node) = some (outer level node) := by
  have hStretches : outside 0 (stretches level node) = some (outer level node) := by
    have hNil : outside 0 [] = some [] := rfl
    simpa using outside_stretches level node hNil
  cases node
  case templateLiteral quasis expressions =>
    have hTick : Run [.own "`"] [] := .own (by decide)
    exact (hTick.append ((Run.template level quasis expressions).append hTick)).outside_eq
  all_goals exact hStretches

variable (h : ReadsParts level node)

include h

/-- What stands before the last stretch of a node ends no statement. -/
theorem run_front {last : Stretch} (hUnfolded : unfolded level node = front ++ [last])
    (hLast : ∀ lexeme, last = .lexeme lexeme → lexeme.shift = 0)
    (hShown : ∀ lower part, .part lower part ∈ outer level node → part.isClause = false)
    (scope : Scope) (outer : List Scope) {seen tally : Tally}
    (hTally : tally? false front seen = some tally) :
    ∃ scope', scope'.settled = scope.settled ∧
      Reader.run ⟨scope :: outer, seen⟩ (marks (strung front)) = ⟨scope' :: outer, tally⟩ := by
  have hOutside := outside_unfolded level node
  rw [hUnfolded] at hOutside
  obtain ⟨shown, hFront, hSubset⟩ := outside_front hLast hOutside
  have hReads (lower : Nat) (part : Node) (hMem : .part lower part ∈ front) : Reads lower part :=
    h lower part (by simp [hUnfolded, hMem])
  have hQuiet (lower : Nat) (part : Node) (hMem : .part lower part ∈ shown) :
      Passes (fun after => after.settled = scope.settled) lower part :=
    (hReads lower part (part_mem_of_outside hFront hMem)).quiet
      (hShown lower part (hSubset hMem)) scope.settled
  exact run_strung (isKept_settled scope.settled) hFront hQuiet
    (fun lower part hMem => (hReads lower part hMem).clear) rfl (List.forall_mem_nil _) rfl outer
    hTally

/-- A statement that ends with a semicolon. -/
theorem sound_of_semicolon {last : Text}
    (hUnfolded : unfolded level node = front ++ [Stretch.own last])
    (hLast : Lexeme.opened last = 0)
    (hMarks : Mark.scan [] last ∈ [[.semicolon], [Mark.other, .semicolon]])
    (hShown : ∀ lower part, .part lower part ∈ outer level node → part.isClause = false)
    (hTally : ∀ seen, tally? false front seen = some (node.tally seen)) : Sound level node := by
  have hShift (lexeme : Lexeme) (hEq : Stretch.own last = .lexeme lexeme) : lexeme.shift = 0 := by
    cases hEq
    exact hLast
  intro scope _ outer seen
  obtain ⟨scope', hSame, hRun⟩ := run_front h hUnfolded hShift hShown scope outer (hTally seen)
  refine ⟨[], .semicolon, List.forall_mem_nil _, by simp, ?_⟩
  rw [tokens_eq, hUnfolded, strung_append, marks_append, run_append, hRun, List.nil_append,
    ← hSame, strung_lexeme, strung_nil, marks_cons, marks_nil, List.append_nil, Lexeme.marks]
  simp only [List.mem_cons, List.not_mem_nil, or_false] at hMarks
  rcases hMarks with hEnd | hEnd
  · rw [hEnd]
    rfl
  · rw [hEnd, run_cons, Reader.stepIn, run_cons, Reader.stepIn, move_move (by simp)]
    rfl

/-- A node whose last part ends with a brace. -/
theorem braces_of_last {lower : Nat} {body : Node}
    (hUnfolded : unfolded level node = front ++ [Stretch.part lower body])
    (hShown : ∀ lower part, .part lower part ∈ outer level node → part.isClause = false)
    (hBody : body.isCompound = true)
    (hTally : ∀ seen, (tally? false front seen).map body.tally = some (node.tally seen)) :
    Braces level node := by
  have hShift (lexeme : Lexeme) (hEq : Stretch.part lower body = .lexeme lexeme) :
      lexeme.shift = 0 := by
    cases hEq
  intro scope outer seen
  obtain ⟨tally, hFront, hNode⟩ := Option.map_eq_some_iff.1 (hTally seen)
  obtain ⟨scope', hSame, hRun⟩ := run_front h hUnfolded hShift hShown scope outer hFront
  have hEnd := (h lower body (by simp [hUnfolded])).braces hBody scope' outer
  rw [tokens_eq, hUnfolded, strung_append, marks_append, run_append, hRun, ← hNode, strung_part,
    strung_nil, List.append_nil, hEnd, Scope.move, Scope.move, hSame]

end Ends

section Nodes

variable {level : Nat} {node : Node}

theorem tally?_template (level : Nat) {quasis : List Quasi} {expressions : List Node}
    (h : expressions.length < quasis.length) (seen : Tally) :
    tally? false (templateStretches level quasis expressions) seen =
      some (Node.tallyAll expressions seen) := by
  fun_induction templateStretches level quasis expressions generalizing seen with
  | case1 => rfl
  | case2 => simp at h
  | case3 quasi quasis expression rest ih =>
    simp only [List.length_cons, Nat.add_lt_add_iff_right] at h
    rw [tally?_spelled, tally?_own (by decide), tally?_part, tally?_own (by decide), ih h]
    rfl

theorem tally?_unfolded (level : Nat) (hClause : node.isClause = false)
    (hEvery : node.Every (·.isSeated = true)) (seen : Tally) :
    tally? false (unfolded level node) seen = some (node.tally seen) := by
  have hStretches := tally?_stretches level hClause hEvery.here
    (fun part hPart => (hEvery.part hPart).here)
  have hSeated := hEvery.here
  cases node
  case templateLiteral quasis expressions =>
    have hLength : expressions.length < quasis.length := by simpa [Node.isSeated] using hSeated
    have hTick : (Lexeme.own "`").isSmooth false = true := by decide
    rw [unfolded, List.cons_append, tally?_own hTick, tally?_append, tally?_template level hLength,
      Option.bind_some, tally?_own hTick, Node.tally_eq rfl]
    simp [tally?_nil, Node.written, Node.parts, Node.looseParts, Node.placedParts]
  all_goals exact hStretches rfl seen

variable (h : ReadsParts level node)

include h

theorem quiet_of_isClause (hClause : node.isClause = false)
    (hEvery : node.Every (·.isSeated = true)) : Quiet level node := by
  have hOutside := outside_unfolded level node
  have hSeated (part : Node) (hPart : part ∈ node.parts) := (hEvery.part hPart).here
  intro frames scope hScope outer seen
  have hShown (lower : Nat) (part : Node) (hMem : .part lower part ∈ Print.outer level node) :
      Passes (fun after => after.settled = frames) lower part :=
    (h lower part (part_mem_of_outside hOutside hMem)).quiet
      (isClause_of_mem_outer (by simp [hClause]) hEvery.here hSeated hMem) frames
  rw [tokens_eq]
  exact run_strung (isKept_settled frames) hOutside hShown
    (fun lower part hMem => (h lower part hMem).clear) rfl (List.forall_mem_nil _) hScope outer
    (tally?_unfolded level hClause hEvery seen)

/-- Statements in a list of their own, and members of a class. -/
theorem clear_of_list
    (hTally : ∀ seen, tally? true (unfolded level node) seen = some (node.tally seen)) :
    Clear level node := by
  have hOutside := outside_unfolded level node
  have hParts (lower : Nat) (part : Node) (hMem : .part lower part ∈ unfolded level node) :=
    (h lower part hMem).clear
  intro scope hScope outer seen
  rw [tokens_eq]
  exact run_strung isKept_noLoops hOutside
    (fun lower part hMem => hParts lower part (part_mem_of_outside hOutside hMem)) hParts rfl
    (List.forall_mem_nil _) hScope outer (hTally seen)

end Nodes

section Ends

variable {level : Nat} {node : Node}

attribute [local simp] unfolded stretches segments Segment.stretches Setting.stretches item
  tally?_nil tally?_own tally?_spelled tally?_part tally?_append tally?_parenthesized tally?_listed
  Node.written Node.parts Node.looseParts Node.placedParts

theorem exists_semicolon (level : Nat) (hSimple : node.isSimple = true) :
    ∃ front last, unfolded level node = front ++ [Stretch.own last] ∧ Lexeme.opened last = 0 ∧
      Mark.scan [] last ∈ [[.semicolon], [Mark.other, .semicolon]] ∧
      ∀ seen, tally? false front seen = some (Node.tallyAll node.written seen) := by
  have hWords : ∀ word ∈ ["return ", "break ", "continue ", "throw ", " "],
      (Lexeme.own (Text.ofString word)).isSmooth false = true := by decide
  simp only [List.forall_mem_cons] at hWords
  cases node
  case expressionStatement part =>
    exact ⟨parenthesized (isAmbiguous level part) level part, ";", by simp, by decide, by decide,
      by simp⟩
  case emptyStatement => exact ⟨[], ";", by simp, by decide, by decide, by simp⟩
  case debuggerStatement => exact ⟨[], "debugger;", by simp, by decide, by decide, by simp⟩
  case variableDeclaration kind declarations =>
    exact ⟨.lexeme (.spelled kind) :: .own " " :: listed level declarations, ";", by simp,
      by decide, by decide, by simp [hWords]⟩
  case throwStatement part =>
    refine ⟨.own "throw " :: part.toList.map (.part level), ";", ?_, by decide, by decide, ?_⟩
    all_goals cases part <;> simp [hWords]
  case returnStatement part =>
    cases part with
    | none => exact ⟨[], "return;", by simp, by decide, by decide, by simp⟩
    | some part =>
      exact ⟨[.own "return ", .part level part], ";", by simp, by decide, by decide,
        by simp [hWords]⟩
  case breakStatement part =>
    cases part with
    | none => exact ⟨[], "break;", by simp, by decide, by decide, by simp⟩
    | some part =>
      exact ⟨[.own "break ", .part level part], ";", by simp, by decide, by decide,
        by simp [hWords]⟩
  case continueStatement part =>
    cases part with
    | none => exact ⟨[], "continue;", by simp, by decide, by decide, by simp⟩
    | some part =>
      exact ⟨[.own "continue ", .part level part], ";", by simp, by decide, by decide,
        by simp [hWords]⟩
  all_goals cases hSimple

theorem exists_brace (level : Nat) (hCompound : node.isCompound = true)
    (hLined : node.isLined = false) (hSeated : node.isSeated = true) :
    ∃ front body, unfolded level node = front ++ [Stretch.part level body] ∧ body.isCompound = true := by
  cases node
  all_goals try simp only [Node.isSeated, Bool.and_eq_true] at hSeated
  case catchClause param body =>
    cases param with
    | none => exact ⟨[.own "catch "], body, by simp, hSeated.2⟩
    | some param =>
      exact ⟨[.own "catch (", .part level param, .own ") "], body, by simp, hSeated.2⟩
  case tryStatement block handler finalizer =>
    cases finalizer with
    | some last =>
      exact ⟨.own "try " :: .part level block ::
        ((optional level " " handler).flatMap Segment.stretches ++ [Stretch.own " finally "]), last,
        by simp [optional], by simpa using hSeated.2⟩
    | none =>
      cases handler with
      | none => exact ⟨[.own "try "], block, by simp [optional], hSeated.1.1⟩
      | some clause =>
        exact ⟨[.own "try ", .part level block, .own " "], clause, by simp [optional],
          by simpa using hSeated.1.2⟩
  case classNode id superClass body =>
    exact ⟨.own "class" :: ((optional level " " id).flatMap Segment.stretches ++
      (superClass.elim [] fun parent => [Segment.token " extends ",
        .part (.wrapped .parent) level parent]).flatMap Segment.stretches ++ [Stretch.own " "]), body,
      by simp, hSeated.2⟩
  case function form _ id params body isAsync isGenerator isExpression =>
    obtain rfl : isExpression = false := by simpa [Node.isCompound] using hCompound
    have hBody : body.isCompound = true := hSeated.2
    have hItems : (series ", " (params.map (item level))).flatMap Segment.stretches =
      listed level params := stretches_items params
    cases form with
    | arrow =>
      exact ⟨.own (Text.ofString (if isAsync then "async " else "")) :: .own "(" ::
        (listed level params ++ [Stretch.own ") => "]), body,
        by simp [hItems, parenthesized], hBody⟩
    | declaration | expression =>
      exact ⟨.own (functionLead isAsync isGenerator) ::
        ((optional level " " id).flatMap Segment.stretches ++ Stretch.own "(" ::
          (listed level params ++ [Stretch.own ") "])), body, by simp [methodSegments, hItems], hBody⟩
  case blockStatement | classBody | switchStatement => cases hLined
  all_goals cases hCompound

variable (h : ReadsParts level node)

include h

theorem sound_of_isSimple (hSimple : node.isSimple = true)
    (hEvery : node.Every (·.isSeated = true)) : Sound level node := by
  obtain ⟨front, last, hUnfolded, hLast, hMarks, hTally⟩ := exists_semicolon level hSimple
  have hIf : node.isIf = false := by
    cases node <;> first | rfl | cases hSimple
  have hShown (lower : Nat) (part : Node) (hMem : .part lower part ∈ outer level node) :=
    isClause_of_mem_outer (fun _ => hSimple) hEvery.here
      (fun part hPart => (hEvery.part hPart).here) hMem
  refine sound_of_semicolon h hUnfolded hLast hMarks hShown fun seen => ?_
  rw [Node.tally_eq hIf, hTally]

theorem braces_of_isCompound (hCompound : node.isCompound = true)
    (hEvery : node.Every (·.isSeated = true)) : Braces level node := by
  have hClause := Node.isClause_of_isCompound hCompound
  have hTally (seen : Tally) := tally?_unfolded level hClause hEvery seen
  have hShown (lower : Nat) (part : Node) (hMem : .part lower part ∈ outer level node) :=
    isClause_of_mem_outer (by simp [hClause]) hEvery.here
      (fun part hPart => (hEvery.part hPart).here) hMem
  cases hLined : node.isLined with
  | false =>
    obtain ⟨front, body, hUnfolded, hBody⟩ := exists_brace level hCompound hLined hEvery.here
    refine braces_of_last h hUnfolded hShown hBody fun seen => ?_
    rw [← hTally, hUnfolded, tally?_append]
    cases tally? false front seen <;> rfl
  | true =>
    intro scope outer seen
    cases node
    case blockStatement body | classBody body =>
      have hClear (part : Node) (hPart : part ∈ body) : Clear (level + 1) part :=
        (h (level + 1) part (mem_stretches_enclosed hPart)).clear
      rw [tokens_eq, Node.tally_eq rfl]
      simpa using run_enclosed hClear scope outer seen
    case switchStatement span discriminant cases =>
      have hUnfolded : unfolded level (.switchStatement span discriminant cases) =
          [Stretch.own "switch (", .part level discriminant, .own ") "] ++
            (enclosed level "" (cases.map (line (level + 1)))).flatMap Segment.stretches := by
        simp
      rw [ReadsParts, hUnfolded] at h
      have hClear (part : Node) (hPart : part ∈ cases) : Clear (level + 1) part :=
        (h (level + 1) part (List.mem_append_right _ (mem_stretches_enclosed hPart))).clear
      have hHead (lower : Nat) (part : Node)
          (hMem : .part lower part ∈ [Stretch.part level discriminant]) : Clear lower part :=
        (h lower part (by simp_all)).clear
      have hTally : (Node.switchStatement span discriminant cases).tally seen =
          Node.tallyAll cases (discriminant.tally seen) := by
        rw [Node.tally_eq rfl]
        rfl
      have hOpen : Lexeme.marks (.own "switch (") = [.other, .opening] := by decide
      have hClose : Lexeme.marks (.own ") ") = [.closing false] := by decide
      have hMarks (rest : List Stretch) : marks (strung ([Stretch.own "switch (",
          .part level discriminant, .own ") "] ++ rest)) = .other :: .opening ::
            (marks (strung [.part level discriminant]) ++ .closing false :: marks (strung rest)) := by
        simp [hOpen, hClose]
      rw [tokens_eq, hUnfolded, hMarks, run_cons, Reader.stepIn,
        run_group (Run.part level discriminant).outside_eq rfl hHead, run_enclosed hClear, hTally]
      simp [move_move]
    all_goals cases hLined

theorem sound_of_isStatement (hStatement : node.isStatement = true)
    (hEvery : node.Every (·.isSeated = true)) : Sound level node := by
  have hSeated := hEvery.here
  have hSimple (h' : node.isSimple = true) := sound_of_isSimple h h' hEvery
  have hCompound (h' : node.isCompound = true) := (braces_of_isCompound h h' hEvery).sound
  cases node
  all_goals try simp only [Node.isSeated, Bool.and_eq_true, Bool.not_eq_true'] at hSeated
  case ifStatement alternate =>
    cases alternate with
    | none => exact sound_ifStatement_none h hSeated.1.2
    | some alternate => exact sound_ifStatement_some h (by simpa using hSeated.2)
  case labeledStatement =>
    exact sound_labeledStatement h hSeated.1 hSeated.2
  case whileStatement =>
    exact sound_whileStatement h hSeated.2
  case doWhileStatement =>
    exact sound_doWhileStatement h hSeated.2
  case forStatement =>
    exact sound_forStatement h hSeated.2
  case forInStatement span left right body =>
    have hUnfolded : unfolded level (.forInStatement span left right body) =
        [Stretch.own "for ("] ++ (Setting.head.stretches level left ++
          ([Stretch.own " in "] ++ [Stretch.part level right])) ++
            [Stretch.own ") ", .part level body] := by simp
    refine sound_forEach _ " in " h hUnfolded (by decide) (by simp) hSeated.2 fun seen => ?_
    rw [Node.tally_eq rfl]
    rfl
  case forOfStatement span left right body isAwait =>
    have hUnfolded : unfolded level (.forOfStatement span left right body isAwait) =
        [Stretch.own (Text.ofString (if isAwait then "for await" else "for")), .own " ("] ++
          (Setting.head.stretches level left ++
            ([Stretch.own " of "] ++ [Stretch.part level right])) ++
              [Stretch.own ") ", .part level body] := by simp
    refine sound_forEach _ " of " h hUnfolded (by cases isAwait <;> decide) (by simp) hSeated.2
      fun seen => ?_
    rw [Node.tally_eq rfl]
    rfl
  all_goals first | exact hSimple rfl | exact hCompound hStatement

end Ends

section Ends

variable {level : Nat} {node : Node}

attribute [local simp] unfolded stretches segments Segment.stretches Setting.stretches item
  Node.written Node.parts Node.looseParts Node.placedParts

theorem clear_of_parts (h : ReadsParts level node)
    (hEvery : node.Every (·.isSeated = true)) : Clear level node := by
  by_cases hStatement : node.isStatement = true
  · exact (sound_of_isStatement h hStatement hEvery).clear
  · cases hClause : node.isClause with
    | false => exact (quiet_of_isClause h hClause hEvery).clear
    | true =>
      have hBreak : (Lexeme.own "\n").isSmooth false = true := by decide
      cases node
      case program body =>
        refine clear_of_list h fun seen => ?_
        rw [Node.tally_eq rfl]
        simpa using tally?_mono (tally?_lines hBreak body)
      case switchCase span test consequent =>
        have hCase (first : List Segment)
            (hFirst : ∀ seen, tally? false (first.flatMap Segment.stretches) seen =
              some (Node.tallyAll test.toList seen))
            (hUnfolded : unfolded level (.switchCase span test consequent) = (series "\n"
              (first :: consequent.map (line (level + 1)))).flatMap Segment.stretches) :
            Clear level (.switchCase span test consequent) := by
          refine clear_of_list h fun seen => tally?_mono ?_
          have hLines :=
            @tally?_lines (level + 1) (Node.tallyAll test.toList seen) _ hBreak consequent
          rw [hUnfolded, series_cons, List.flatMap_append, tally?_append, hFirst, Option.bind_some,
            Node.tally_eq rfl]
          cases consequent with
          | nil => simp [tally?_nil]
          | cons node rest => simpa [tally?_own, hBreak] using hLines
        cases test with
        | none => exact hCase [.token "default:"] (fun _ => rfl) rfl
        | some test =>
          exact hCase [.token "case ", .part .plain level test, .token ":"] (fun _ => rfl) rfl
      case propertyDefinition key value computed isStatic =>
        have hEnd : (Lexeme.own ";").isSmooth true = true := by decide
        have hStart := Lexeme.isSmooth_mono (isSmooth_staticLead isStatic)
        have hKey (seen : Tally) := tally?_mono (@tally?_key level key seen computed)
        have hValue (seen : Tally) :
            tally? true ((optional level " = " value).flatMap Segment.stretches) seen =
              some (Node.tallyAll value.toList seen) :=
          tally?_mono (tally?_optional (by decide) value)
        refine clear_of_list h fun seen => ?_
        rw [Node.tally_eq rfl]
        simp [tally?_own, tally?_append, tally?_nil, hEnd, hStart, hKey, hValue]
      all_goals first | exact absurd rfl hStatement | cases hClause

end Ends

/-- Whatever stands before a node, its tokens do to it what nodes of its sort do. -/
theorem reads (node : Node) (hEvery : node.Every (·.isSeated = true)) (level : Nat) :
    Reads level node := by
  have h (lower : Nat) (part : Node) (hMem : .part lower part ∈ unfolded level node) :
      Reads lower part :=
    reads part (every_of_mem_unfolded hEvery hMem) lower
  exact ⟨fun hClause => quiet_of_isClause h hClause hEvery,
    fun hCompound => braces_of_isCompound h hCompound hEvery,
    fun hStatement => sound_of_isStatement h hStatement hEvery, clear_of_parts h hEvery⟩
termination_by sizeOf node
decreasing_by exact sizeOf_lt_of_mem_unfolded hMem

end Print

/-! ## The tree -/

namespace Node

/-- For each `if` statement of a tree, in the order of the text, whether it has an alternate. -/
def arms (node : Node) : List Bool :=
  match node with
  | .ifStatement _ test consequent none => false :: (test.arms ++ consequent.arms)
  | .ifStatement _ test consequent (some alternate) =>
    true :: (test.arms ++ consequent.arms ++ alternate.arms)
  | node => node.written.attach.flatMap fun part => part.1.arms
termination_by sizeOf node
decreasing_by
  all_goals first
    | (simp <;> omega)
    | exact sizeOf_lt_of_mem_parts (mem_parts_of_mem_written part.2)

theorem arms_eq {node : Node} (h : node.isIf = false) : node.arms = node.written.flatMap arms := by
  rw [arms]
  · conv_rhs => rw [← List.attach_map_subtype_val node.written, List.flatMap_map]
  · rintro span test consequent rfl
    cases h
  · rintro span test consequent alternate rfl
    cases h

/-- The numbers of the statements that have an alternate, if the first one has the given number. -/
def owned (number : Nat) : List Bool → List (Option Nat)
  | [] => []
  | true :: rest => some number :: owned (number + 1) rest
  | false :: rest => owned (number + 1) rest

theorem owned_append (number : Nat) (first second : List Bool) :
    owned number (first ++ second) = owned number first ++ owned (number + first.length) second := by
  induction first generalizing number with
  | nil => rfl
  | cons arm rest ih => cases arm <;> simp [owned, ih, Nat.add_assoc, Nat.add_comm 1]

/-- The tallies of a part count its statements and bind their alternates. -/
def Tallies (node : Node) : Prop :=
  ∀ seen : Print.Tally, (node.tally seen).count = seen.count + node.arms.length ∧
    (node.tally seen).owners.Perm (seen.owners ++ owned seen.count node.arms)

theorem tallies_list (h : ∀ node ∈ nodes, node.Tallies) (seen : Print.Tally) :
    (tallyAll nodes seen).count = seen.count + (nodes.flatMap arms).length ∧
      (tallyAll nodes seen).owners.Perm (seen.owners ++ owned seen.count (nodes.flatMap arms)) := by
  induction nodes generalizing seen with
  | nil => simp [owned]
  | cons node rest ih =>
    obtain ⟨hNode, hRest⟩ := List.forall_mem_cons.1 h
    obtain ⟨hCount, hOwners⟩ := hNode seen
    obtain ⟨hMore, hOthers⟩ := ih hRest (node.tally seen)
    rw [tallyAll_cons, List.flatMap_cons, owned_append]
    refine ⟨by simp [hMore, hCount, Nat.add_assoc], hOthers.trans ?_⟩
    rw [hCount, ← List.append_assoc]
    exact hOwners.append_right _

/-- The statements are counted, and those that have an alternate are bound just once. -/
theorem tallies (node : Node) : node.Tallies := by
  have hParts (part : Node) (hPart : part ∈ node.written) : part.Tallies := tallies part
  intro seen
  cases hIf : node.isIf with
  | false =>
    rw [tally_eq hIf, arms_eq hIf]
    exact tallies_list hParts seen
  | true =>
    cases node
    case ifStatement test consequent alternate =>
      have hBefore : ∀ part ∈ [test, consequent], part.Tallies := fun part hPart =>
        hParts part (by simp_all [written, parts, looseParts, placedParts]; tauto)
      obtain ⟨hCount, hOwners⟩ := tallies_list hBefore seen.branch
      simp only [tallyAll_cons, tallyAll_nil, List.flatMap_cons, List.flatMap_nil, List.append_nil]
        at hCount hOwners
      have hNext : seen.branch.count = seen.count + 1 := rfl
      cases alternate with
      | none =>
        rw [tally, arms, hCount, hNext, List.length_cons]
        exact ⟨by omega, hOwners⟩
      | some alternate =>
        generalize hSeen : consequent.tally (test.tally seen.branch) = before at hCount hOwners
        obtain ⟨hMore, hOthers⟩ :=
          hParts alternate (by simp [written, parts, looseParts, placedParts])
            (before.bind (some seen.count))
        have hSame : (before.bind (some seen.count)).count = before.count := rfl
        have hOpen := (hOwners.append_right [some seen.count]).append_right
          (owned (seen.count + 1 + (test.arms ++ consequent.arms).length) alternate.arms)
        rw [hSame, hCount, hNext] at hMore hOthers
        rw [tally, hSeen, arms, owned, owned_append, hMore]
        refine ⟨by simp only [List.length_cons, List.length_append]; omega,
          hOthers.trans (hOpen.trans ?_)⟩
        -- The alternate is bound behind those of the test and the consequent.
        rw [List.append_assoc, List.append_assoc, List.singleton_append]
        exact List.perm_middle.append_left _
    all_goals cases hIf
termination_by sizeOf node
decreasing_by exact sizeOf_lt_of_mem_parts (mem_parts_of_mem_written hPart)

end Node

namespace Print

/-- The `else`s of a text belong to the `if`s that they are printed for. Let each `else` among the tokens
of a printed tree belong to the nearest `if` before it that is between the same brackets, still open and
without an `else`. Then it is that of the statement whose alternate follows, and just the statements
that have an alternate get one. -/
theorem else_binds {node : Node} (hSeated : node.Every (·.isSeated = true)) {t : Text}
    (hPrint : node.print = .ok t) :
    texts (tokens 0 node) = t ∧ bindings (tokens 0 node) = node.tally ⟨0, []⟩ ∧
      (bindings (tokens 0 node)).count = node.arms.length ∧
      (bindings (tokens 0 node)).owners.Perm (Node.owned 0 node.arms) := by
  obtain ⟨scope, -, hRun⟩ :=
    (reads node hSeated 0).clear (noLoops_nil .inside) [] ⟨0, []⟩
  have hBindings : bindings (tokens 0 node) = node.tally ⟨0, []⟩ := by
    rw [bindings, Reader.start, hRun]
  obtain ⟨hCount, hOwners⟩ := node.tallies ⟨0, []⟩
  refine ⟨texts_tokens 0 node t hPrint, hBindings, ?_, ?_⟩
  · rw [hBindings, hCount, Nat.zero_add]
  · rw [hBindings]
    exact hOwners

/-- The loop `while (b) if (c) d;`, which ends with an `if` that is open. -/
def openLoop : Node :=
  .whileStatement .none (.identifier .none "b")
    (.ifStatement .none (.identifier .none "c")
      (.expressionStatement .none (.identifier .none "d")) none)

/-- An `if` around the loop that has an `else`. -/
def outerElse : Node :=
  .ifStatement .none (.identifier .none "a") openLoop
    (some (.expressionStatement .none (.identifier .none "e")))

theorem else_binds_outerElse :
    outerElse.print = .ok "if (a) \x7b\n  while (b) if (c) d;\n\x7d else e;" ∧
      bindings (tokens 0 outerElse) = ⟨2, [some 0]⟩ := by
  have hPrint : outerElse.print = .ok "if (a) \x7b\n  while (b) if (c) d;\n\x7d else e;" := rfl
  have hSeated : outerElse.Every (·.isSeated = true) := by
    have hName (text : Text) : (Node.identifier .none text).Every (·.isSeated = true) :=
      ⟨rfl, by simp [Node.parts, Node.looseParts, Node.placedParts]⟩
    have hLine (text : Text) :
        (Node.expressionStatement .none (.identifier .none text)).Every (·.isSeated = true) :=
      ⟨rfl, by simpa [Node.parts, Node.looseParts, Node.placedParts] using hName text⟩
    have hLoop : openLoop.Every (·.isSeated = true) := by
      refine ⟨rfl, List.forall_mem_cons.2 ⟨hName _, List.forall_mem_singleton.2 ⟨rfl, ?_⟩⟩⟩
      exact List.forall_mem_cons.2 ⟨hName _, List.forall_mem_singleton.2 (hLine _)⟩
    exact ⟨rfl, List.forall_mem_cons.2 ⟨hName _, List.forall_mem_cons.2
      ⟨hLoop, List.forall_mem_singleton.2 (hLine _)⟩⟩⟩
  have hTally : outerElse.tally ⟨0, []⟩ = ⟨2, [some 0]⟩ := by
    have hName (text : Text) (seen : Tally) : (Node.identifier .none text).tally seen = seen :=
      Node.tally_of_isName rfl seen
    have hLine (text : Text) (seen : Tally) :
        (Node.expressionStatement .none (.identifier .none text)).tally seen = seen :=
      (Node.tally_eq rfl seen).trans (hName text seen)
    have hLoop (seen : Tally) : openLoop.tally seen = seen.branch := by
      refine (Node.tally_eq rfl seen).trans ?_
      show Node.tally _ (Node.tally _ seen) = _
      rw [hName, Node.tally, hName, hLine]
    rw [outerElse, Node.tally, hName, hLoop, hLine]
    rfl
  exact ⟨hPrint, (else_binds hSeated hPrint).2.1.trans hTally⟩

end Print

end Assay
