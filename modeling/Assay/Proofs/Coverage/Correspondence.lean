import Assay.Proofs.Concrete.Extents
import Assay.Proofs.Coverage.Balance
import Mathlib.Data.List.Induction

/-!
# Tracking calls and catalogs correspond

The tracking calls in an instrumented program and the places in front of which they stand are those
of its targets (`Instrument.perm_imprints`), the ids of the targets of a space are the numbers below
their total (`Target.count_numbered`), and the catalog of a space has the ranges of its targets under
these ids. That makes calls and catalog entries correspond one to one, each call in front of the
construct whose range the catalog has.
-/

set_option autoImplicit false

namespace Assay

/-! ## What is read off from a tree -/

variable {code : Text}

namespace View

theorem gatherItems_append {α : Type} (f : Node → List α) (first second : List View) :
    gatherItems f (first ++ second) = gatherItems f first ++ gatherItems f second := by
  induction first with
  | nil => rfl
  | cons item rest ih => simp [gatherItems, ih]

section

variable {α β : Type} {f : Node → List α} (g : α → Option β)

mutual

/-- What is picked from what is read off from a view is read off from it, too. -/
theorem filterMap_gather : ∀ view : View,
    (gather f view).filterMap g = gather (fun node => (f node).filterMap g) view
  | .data _ | .tuple _ => by simp [gather]
  | .list items => by simp [filterMap_gatherItems items]
  | .node kind start stop fields => by
    rw [gather, gather, List.filterMap_append, filterMap_gatherFields fields]
    cases node? (.node kind start stop fields) <;> rfl

theorem filterMap_gatherFields : ∀ fields : List (String × View),
    (gatherFields f fields).filterMap g = gatherFields (fun node => (f node).filterMap g) fields
  | [] => rfl
  | (_, value) :: rest => by
    rw [gatherFields, gatherFields, List.filterMap_append, filterMap_gather value,
      filterMap_gatherFields rest]

theorem filterMap_gatherItems : ∀ items : List View,
    (gatherItems f items).filterMap g = gatherItems (fun node => (f node).filterMap g) items
  | [] => rfl
  | item :: rest => by
    rw [gatherItems, gatherItems, List.filterMap_append, filterMap_gather item,
      filterMap_gatherItems rest]

end

end

end View

/-! ## The ids of a space -/

namespace Target

theorem total_concat (space : Space) (targets : List Target) (target : Target) :
    total space (targets ++ [target]) =
      total space targets + if target.space = space then 1 else 0 := by
  unfold total
  rw [List.filter_append, List.length_append]
  by_cases h : target.space = space <;> simp [h]

/-- The ids of a space are the numbers below the number of its targets, each once. -/
theorem count_numbered (targets : List Target) (space : Space) (id : Int) :
    ((numbered targets).map Placement.key).count (space, id) =
      if 0 ≤ id ∧ id < total space targets then 1 else 0 := by
  induction targets using List.reverseRecOn with
  | nil =>
    have hTotal : total space [] = 0 := rfl
    rw [hTotal, if_neg (by omega)]
    rfl
  | append_singleton targets target ih =>
    rw [numbered_concat, List.map_append, List.count_append, ih, total_concat, List.map_singleton,
      List.count_singleton]
    by_cases hSpace : target.space = space
    · subst hSpace
      simp only [Placement.key, beq_iff_eq, Prod.mk.injEq, true_and, if_true]
      split_ifs <;> omega
    · simp [Placement.key, hSpace]

end Target

/-! ## The catalog of a space -/

/-- A range does not depend on the kind that a failure would name. -/
theorem Range.ofSpan_kind {kind : String} {span : Span} {range : Range}
    (h : Range.ofSpan code kind span = .ok range) (other : String) :
    Range.ofSpan code other span = .ok range := by
  fun_cases Range.ofSpan code kind span with
  | case1 start stop => exact h
  | case2 span hSpan => simp [Range.ofSpan] at h

namespace Coverage

open Target

variable {ranges : List (Space × Range)}

/-- The ranges of targets, from the first target on. -/
theorem rangesOf_cons {target : Target} {rest : List Target}
    (h : rangesOf code (target :: rest) = .ok ranges) :
    ∃ range others, Range.ofSpan code target.kind.name target.span = .ok range ∧
      rangesOf code rest = .ok others ∧ ranges = (target.space, range) :: others := by
  rw [rangesOf] at h
  cases hRange : Range.ofSpan code target.kind.name target.span with
  | error error => simp [hRange] at h
  | ok range =>
    cases hRest : rangesOf code rest with
    | error error => simp [hRange, hRest, bind, Except.bind] at h
    | ok others =>
      simp [hRange, hRest, bind, Except.bind, pure, Except.pure] at h
      exact ⟨range, others, rfl, rfl, h.symm⟩

/-- The catalog of a space has the ids of its targets. -/
theorem ids_catalogOf {targets : List Target} (h : rangesOf code targets = .ok ranges)
    (space : Space) :
    (catalogOf space ranges).ids =
      (List.range (total space targets)).map fun id : Nat => Data.int id := by
  have hLength : (ranges.filter (·.1 = space)).length = total space targets := by
    induction targets generalizing ranges with
    | nil =>
      cases h
      rfl
    | cons target rest ih =>
      obtain ⟨range, others, -, hRest, rfl⟩ := rangesOf_cons h
      have hOthers := ih hRest
      unfold total at hOthers ⊢
      by_cases hSpace : target.space = space <;> simp [hSpace, hOthers]
  rw [← hLength, List.range_eq_range', ← List.zipIdx_map_snd]
  unfold Catalog.ids catalogOf
  simp only [List.map_map]
  rfl

/-- An entry of a catalog, counted from some earlier targets on, has the range of a numbered
target. -/
theorem exists_numberedFrom_of_mem {targets : List Target}
    (h : rangesOf code targets = .ok ranges) {space : Space} (earlier : List Target)
    {entry : Space × Range} {id : Nat}
    (hEntry : (entry, id) ∈ (ranges.filter (·.1 = space)).zipIdx (total space earlier)) :
    ∃ span, ⟨space, id, span⟩ ∈ numberedFrom earlier targets ∧
      ∀ kind, Range.ofSpan code kind span = .ok entry.2 := by
  induction targets generalizing ranges earlier with
  | nil =>
    cases h
    simp at hEntry
  | cons target rest ih =>
    obtain ⟨range, others, hRange, hRest, rfl⟩ := rangesOf_cons h
    have hTotal := total_concat space earlier target
    by_cases hSpace : target.space = space
    · simp only [hSpace, List.filter_cons_of_pos, decide_true, List.zipIdx_cons, List.mem_cons,
        Prod.mk.injEq] at hEntry
      obtain ⟨rfl, rfl⟩ | hLater := hEntry
      · refine ⟨target.span, ?_, Range.ofSpan_kind hRange⟩
        simp [numberedFrom, hSpace]
      · rw [hSpace, if_pos rfl] at hTotal
        rw [← hTotal] at hLater
        obtain ⟨span, hMem, hSpan⟩ := ih hRest _ hLater
        exact ⟨span, List.mem_cons_of_mem _ hMem, hSpan⟩
    · rw [if_neg hSpace, Nat.add_zero] at hTotal
      rw [List.filter_cons_of_neg (by simpa using hSpace), ← hTotal] at hEntry
      obtain ⟨span, hMem, hSpan⟩ := ih hRest _ hEntry
      exact ⟨span, List.mem_cons_of_mem _ hMem, hSpan⟩

end Coverage

/-! ## Calls and catalogs -/

namespace Instrument

open View Target

section

variable {handle : Text} {program tree : Node} {targets : List Target}

/-- The imprints of an instrumented tree are those of its targets, up to their order. -/
theorem perm_imprints (hLocated : program.Located)
    (hTree : program.instrument handle = (tree, targets)) :
    (gather (Node.imprints handle) (ofNode tree)).Perm (imprints targets) := by
  rw [List.perm_iff_count]
  intro x
  have hCounts := (countsAll handle x program hLocated).adds []
  have hResult : (walk handle program).result [] = tree := congrArg Prod.fst hTree
  have hAfter : (walk handle program).after [] = targets := congrArg Prod.snd hTree
  rw [hResult, hAfter] at hCounts
  simpa [owed, imprints, numbered, numberedFrom] using hCounts.symm

/-- The placements in an instrumented tree are the numbered targets, up to their order. -/
theorem perm_numbered (hLocated : program.Located)
    (hTree : program.instrument handle = (tree, targets)) :
    (gather (Node.marks handle) (ofNode tree)).Perm (numbered targets) := by
  have hPerm := (perm_imprints hLocated hTree).filterMap Imprint.mark?
  rw [filterMap_gather] at hPerm
  simpa [Node.imprints, imprints, List.filterMap_flatMap, Function.comp_def, Imprint.mark?,
    List.filterMap_cons] using hPerm

/-- The calls in an instrumented tree have the ids below the number of targets, each once. -/
theorem count_calls (hLocated : program.Located)
    (hTree : program.instrument handle = (tree, targets)) (space : Space) (id : Int) :
    (gather (Node.calls handle) (ofNode tree)).count (space, id) =
      if 0 ≤ id ∧ id < total space targets then 1 else 0 := by
  have hKeys : (imprints targets).filterMap Imprint.call? = (numbered targets).map Placement.key := by
    simp [imprints, List.filterMap_flatMap, Imprint.call?, List.filterMap_cons, List.map_eq_flatMap]
  have hPerm := (perm_imprints hLocated hTree).filterMap Imprint.call?
  rw [filterMap_gather, hKeys] at hPerm
  have hCalls : (gather (Node.calls handle) (ofNode tree)).Perm
      ((numbered targets).map Placement.key) := by
    simpa [Node.imprints, Function.comp_def, Imprint.call?] using hPerm
  rw [hCalls.count_eq, count_numbered]

/-- Each id of a space has one placement. -/
theorem filter_key_eq (hLocated : program.Located)
    (hTree : program.instrument handle = (tree, targets)) {placement : Placement}
    (hMem : placement ∈ numbered targets) :
    (gather (Node.marks handle) (ofNode tree)).filter (·.key = placement.key) = [placement] := by
  have hPerm := (perm_numbered hLocated hTree).filter fun other => other.key = placement.key
  have hOne : ((numbered targets).filter fun other => other.key = placement.key).length = 1 := by
    have hCount := count_numbered targets placement.space placement.id
    have hPos : 0 < ((numbered targets).map Placement.key).count placement.key :=
      List.count_pos_iff.2 (List.mem_map_of_mem hMem)
    have hLength : ((numbered targets).filter fun other => other.key = placement.key).length =
        ((numbered targets).map Placement.key).count placement.key := by
      rw [List.count, List.countP_map, List.countP_eq_length_filter]
      congr 1
      apply List.filter_congr
      intro other _
      exact (beq_eq_decide ..).symm
    rw [hLength]
    change List.count placement.key _ = _ at hCount
    split_ifs at hCount <;> omega
  obtain ⟨only, hOnly⟩ := List.length_eq_one_iff.1 hOne
  have hPlacement : placement ∈ (numbered targets).filter fun other => other.key = placement.key :=
    List.mem_filter.2 ⟨hMem, by simp⟩
  rw [hOnly, List.mem_singleton] at hPlacement
  rw [hOnly, ← hPlacement] at hPerm
  exact List.perm_singleton.1 hPerm

end

variable (handle : Text)

/-- Tracking calls and catalog entries correspond one to one. The calls of a space in an
instrumented program have the ids below the number of its targets, each once. The catalog of the
space has the same ids, and the one call with the id of an entry stands in front of a construct
whose range is the range of the entry. -/
theorem calls_correspond {script : Script} {program tree : Node} {targets : List Target}
    (hParse : script.parse = .ok program) (hTree : program.instrument handle = (tree, targets))
    (space : Space) :
    (∀ id : Int, (gather (Node.calls handle) (ofNode tree)).count (space, id) =
      if 0 ≤ id ∧ id < total space targets then 1 else 0) ∧
    ∀ ranges, Coverage.rangesOf script.code targets = .ok ranges →
      (Coverage.catalogOf space ranges).ids =
        (List.range (total space targets)).map (fun id : Nat => Data.int id) ∧
      ∀ id range, (Data.int id, range) ∈ Coverage.catalogOf space ranges →
        ∃ span, (gather (Node.marks handle) (ofNode tree)).filter (·.key = (space, id)) =
            [⟨space, id, span⟩] ∧
          ∀ kind, Range.ofSpan script.code kind span = .ok range := by
  have hLocated := Script.parse_located hParse
  refine ⟨count_calls hLocated hTree space, fun ranges hRanges => ⟨?_, ?_⟩⟩
  · exact Coverage.ids_catalogOf hRanges space
  · intro id range hEntry
    obtain ⟨⟨entry, position⟩, hMem, hFields⟩ := List.mem_map.1 hEntry
    simp only [Prod.mk.injEq, Data.int.injEq] at hFields
    obtain ⟨rfl, rfl⟩ := hFields
    obtain ⟨span, hNumbered, hSpan⟩ :=
      Coverage.exists_numberedFrom_of_mem hRanges [] hMem
    exact ⟨span, filter_key_eq hLocated hTree hNumbered, hSpan⟩

/-- The program `a ? b : c` as it comes from the grammar. -/
def twoArms : Script where
  code := "a ? b : c"
  tree :=
    .part .program 0 9 "" [.part .expressionStatement 0 9 "" [.part .ternaryExpression 0 9 ""
      [.part .identifier 0 1 "condition" [], .part .identifier 4 5 "consequence" [],
       .part .identifier 8 9 "alternative" []]]]

/-- The syntax tree of `a ? b : c`. -/
def twoArmsTree : Node :=
  .program (.between 0 9) [.expressionStatement (.between 0 9) (.conditional (.between 0 9)
    (.identifier (.between 0 1) "a") (.identifier (.between 4 5) "b")
    (.identifier (.between 8 9) "c"))]

/-- Each arm has a call and an entry of the catalog. -/
theorem calls_correspond_twoArms :
    twoArms.parse = .ok twoArmsTree ∧
      (gather (Node.calls "__cov__") (ofNode (twoArmsTree.instrument "__cov__").1)).count
        (.branch, 1) = 1 ∧
      ∃ ranges, Coverage.rangesOf twoArms.code (twoArmsTree.instrument "__cov__").2 = .ok ranges ∧
        (Coverage.catalogOf .branch ranges).ids = [.int 0, .int 1] := by
  have hParse : twoArms.parse = .ok twoArmsTree := rfl
  have hTree : twoArmsTree.instrument "__cov__" =
    ((twoArmsTree.instrument "__cov__").1, (twoArmsTree.instrument "__cov__").2) := rfl
  obtain ⟨hCalls, hCatalog⟩ := calls_correspond "__cov__" hParse hTree .branch
  exact ⟨hParse, hCalls 1, _, rfl, (hCatalog _ rfl).1⟩

end Instrument

end Assay
