import Assay.Proofs.Source.Encoding
import Mathlib.Data.List.Induction
import Mathlib.Data.List.TakeWhile
import Mathlib.Data.Prod.Lex

/-!
# Lines and columns as coordinates

A line feed closes a line. What stands in front of a place in a text is therefore a `Text.Front`:
lines that are closed, and the beginning of a line that is still open. The position of the place
counts the closed lines and measures the open one (`Position.ofIndex_front`), so it is found again
among the lines of the whole text (`Position.addresses_ofIndex`). A line starts behind the end of
every line before it (`Text.length_unlines_take_lt`), and so the order of the places is the order of
their lines and columns.
-/

set_option autoImplicit false

namespace Assay

namespace Text

/-! ## The lines between line feeds -/

/-- The lines of a text as its line feeds part them. -/
def feedLines (code : Text) : List Text := code.splitOn (CodePoint.ofChar '\n')

/-- The lines one behind the other, each with its line feed. -/
def unlines (lines : List Text) : Text := lines.flatMap (· ++ [CodePoint.ofChar '\n'])

theorem unlines_append (first second : List Text) :
    unlines (first ++ second) = unlines first ++ unlines second :=
  List.flatMap_append

theorem unlines_cons (line : Text) (lines : List Text) :
    unlines (line :: lines) = line ++ CodePoint.ofChar '\n' :: unlines lines := by
  simp [unlines]

theorem unlines_singleton (line : Text) : unlines [line] = line ++ [CodePoint.ofChar '\n'] := by
  simp [unlines]

/-- A line ends before any later line starts. -/
theorem length_unlines_take_lt {lines : List Text} {row later : Nat} {line : Text}
    (hLine : lines[row]? = some line) (hLater : row < later) :
    (unlines (lines.take row)).length + line.length < (unlines (lines.take later)).length := by
  have hNext : lines.take (row + 1) = lines.take row ++ [line] := by
    rw [List.take_add_one, hLine, Option.toList_some]
  obtain ⟨more, hMore⟩ : lines.take (row + 1) <+: lines.take later :=
    List.take_prefix_take_left hLater
  rw [← hMore, hNext, unlines_append, unlines_append, unlines_singleton]
  simp only [List.length_append, List.length_singleton]
  omega

section Lacking

variable {lines : List Text} (hLines : ∀ line ∈ lines, CodePoint.ofChar '\n' ∉ line)
include hLines

theorem count_unlines : (unlines lines).count (CodePoint.ofChar '\n') = lines.length := by
  induction lines with
  | nil => rfl
  | cons line lines ih =>
    obtain ⟨hLine, hRest⟩ := List.forall_mem_cons.1 hLines
    rw [unlines_cons, List.count_append, List.count_eq_zero_of_not_mem hLine,
      List.count_cons_self, ih hRest, Nat.zero_add, List.length_cons]

theorem feedLines_unlines_append (t : Text) :
    feedLines (unlines lines ++ t) = lines ++ t.feedLines := by
  induction lines with
  | nil => rfl
  | cons line lines ih =>
    obtain ⟨hLine, hRest⟩ := List.forall_mem_cons.1 hLines
    rw [unlines_cons, List.append_assoc, List.cons_append, feedLines,
      List.splitOn_append_cons_self_of_not_mem hLine, List.cons_append, ← ih hRest, feedLines]

end Lacking

theorem feedLines_append_of_not_mem {line : Text} (hLine : CodePoint.ofChar '\n' ∉ line)
    (rest : Text) : ∃ next others, feedLines (line ++ rest) = (line ++ next) :: others := by
  induction line with
  | nil => exact List.exists_cons_of_ne_nil (List.splitOn_ne_nil _ rest)
  | cons c line ih =>
    rw [List.mem_cons, not_or] at hLine
    obtain ⟨next, others, hLines⟩ := ih hLine.2
    refine ⟨next, others, ?_⟩
    rw [feedLines] at hLines ⊢
    rw [List.cons_append, List.splitOn_cons_eq_if_modifyHead, hLines]
    simp [Ne.symm hLine.1]

/-- What stands in front of a place: the lines that a line feed has closed there, and the part of
the open line. -/
structure Front where
  /-- The lines that are closed, without their line feeds. -/
  closed : List Text
  /-- The beginning of the line that is open. -/
  opened : Text
  /-- A line feed closes a line and does not stand in it. -/
  closed_lacks : ∀ line ∈ closed, CodePoint.ofChar '\n' ∉ line
  /-- No line feed has closed the open line. -/
  opened_lacks : CodePoint.ofChar '\n' ∉ opened

namespace Front

/-- The text in front of the place. -/
def text (front : Front) : Text := unlines front.closed ++ front.opened

theorem exists_text_eq (t : Text) : ∃ front : Front, front.text = t := by
  induction t using List.reverseRecOn with
  | nil => exact ⟨⟨[], [], by simp, by simp⟩, rfl⟩
  | append_singleton t c ih =>
    obtain ⟨⟨closed, opened, hClosed, hOpened⟩, rfl⟩ := ih
    by_cases hFeed : c = CodePoint.ofChar '\n'
    · have hLacks : ∀ line ∈ closed ++ [opened], CodePoint.ofChar '\n' ∉ line :=
        List.forall_mem_append.2 ⟨hClosed, by simpa using hOpened⟩
      refine ⟨⟨closed ++ [opened], [], hLacks, by simp⟩, ?_⟩
      simp [text, unlines_append, unlines_singleton, hFeed]
    · have hLacks : CodePoint.ofChar '\n' ∉ opened ++ [c] := by
        simp [hOpened, Ne.symm hFeed]
      refine ⟨⟨closed, opened ++ [c], hClosed, hLacks⟩, ?_⟩
      simp [text]

variable (front : Front)

theorem count_text : front.text.count (CodePoint.ofChar '\n') = front.closed.length := by
  rw [text, List.count_append, count_unlines front.closed_lacks,
    List.count_eq_zero_of_not_mem front.opened_lacks, Nat.add_zero]

/-- Read backwards, the text up to its last line feed is the open line. -/
theorem takeWhile_reverse_text :
    (front.text.reverse.takeWhile fun (c : CodePoint) => c != CodePoint.ofChar '\n') =
      front.opened.reverse := by
  have hOpened : ∀ c ∈ front.opened.reverse, (c != '\n') = true := by
    intro c hc
    rw [bne_iff_ne]
    rintro rfl
    exact front.opened_lacks (List.mem_reverse.1 hc)
  rw [text, List.reverse_append, List.takeWhile_append_of_pos hOpened]
  obtain hNone | ⟨earlier, last, hLast⟩ := List.eq_nil_or_concat' front.closed
  · simp [hNone, unlines]
  · simp [hLast, unlines_append, unlines_singleton]

/-- The closed lines are lines of the whole text, and the open one starts the next. -/
theorem feedLines_append (rest : Text) : ∃ next others,
    (front.text ++ rest).feedLines = front.closed ++ (front.opened ++ next) :: others := by
  obtain ⟨next, others, hLines⟩ := feedLines_append_of_not_mem front.opened_lacks rest
  refine ⟨next, others, ?_⟩
  rw [text, List.append_assoc, feedLines_unlines_append front.closed_lacks, hLines]

end Front

theorem unlines_feedLines (code : Text) :
    unlines code.feedLines = code ++ [CodePoint.ofChar '\n'] := by
  obtain ⟨front, rfl⟩ := Front.exists_text_eq code
  have hOpened : feedLines front.opened = [front.opened] :=
    List.splitOn_eq_singleton front.opened_lacks
  rw [Front.text, feedLines_unlines_append front.closed_lacks, hOpened, unlines_append,
    unlines_singleton, List.append_assoc]

end Text

/-! ## Positions -/

namespace Position

/-- What a position counts is what stands in front of its place. -/
theorem ofIndex_append (front rest : Text) :
    ofIndex (front ++ rest) front.length =
      { line := front.count (CodePoint.ofChar '\n') + 1
        column := (front.reverse.takeWhile fun (c : CodePoint) => c != '\n').length
        index := front.length } := by
  have hHead : (front ++ rest).slice 0 front.length = front := Text.slice_append [] front rest
  have hColumn : (front.reverse.takeWhile fun (c : CodePoint) => c != '\n').length ≤
      front.length := by
    simpa using (List.takeWhile_sublist (l := front.reverse)
      fun (c : CodePoint) => c != '\n').length_le
  simp only [ofIndex, lineStart, hHead, mk.injEq, true_and, and_true]
  omega

theorem ofIndex_front (front : Text.Front) (rest : Text) :
    ofIndex (front.text ++ rest) front.text.length =
      ⟨front.closed.length + 1, front.opened.length, front.text.length⟩ := by
  rw [ofIndex_append, front.count_text, front.takeWhile_reverse_text, List.length_reverse]

/-- Line and column, in the order that compares lines first. -/
def coordinates (p : Position) : ℕ ×ₗ ℤ := toLex (p.line, p.column)

/-- The coordinates are those of a place in the text, and the index is the one that they name: what
the lines before take with their line feeds, and the column. -/
structure Addresses (code : Text) (p : Position) : Prop where
  /-- Lines count from 1. -/
  line_pos : 1 ≤ p.line
  /-- Each line feed starts one more line. -/
  line_le : p.line ≤ code.count (CodePoint.ofChar '\n') + 1
  /-- Columns count from 0. -/
  column_nonneg : 0 ≤ p.column
  /-- The column is one of the line, or the end of the line. -/
  column_le : ∃ line, code.feedLines[p.line - 1]? = some line ∧ p.column ≤ line.length
  /-- Line and column determine the index. -/
  index_eq : p.index = (Text.unlines (code.feedLines.take (p.line - 1))).length + p.column

theorem addresses_ofIndex {code : Text} {index : Int} (hNonneg : 0 ≤ index)
    (hLe : index ≤ code.length) : (ofIndex code index).Addresses code := by
  obtain ⟨n, rfl⟩ := Int.eq_ofNat_of_zero_le hNonneg
  obtain ⟨front, hFront⟩ := Text.Front.exists_text_eq (code.take n)
  have hCode : code = front.text ++ code.drop n := by rw [hFront, List.take_append_drop]
  have hIndex : n = front.text.length := by
    rw [hFront, List.length_take]
    omega
  obtain ⟨next, others, hLines⟩ := front.feedLines_append (code.drop n)
  rw [← hCode] at hLines
  have hPlace := ofIndex_front front (code.drop n)
  rw [← hCode, ← hIndex] at hPlace
  have hCount : front.closed.length ≤ code.count (CodePoint.ofChar '\n') := by
    rw [hCode, List.count_append, front.count_text]
    omega
  rw [hPlace]
  constructor
  case line_pos => exact Nat.le_add_left 1 _
  case line_le => exact Nat.succ_le_succ hCount
  case column_nonneg => exact Int.natCast_nonneg _
  case column_le =>
    have hOpened : front.opened.length ≤ (front.opened ++ next).length :=
      (List.prefix_append front.opened next).length_le
    exact ⟨front.opened ++ next, by simp [hLines], Int.ofNat_le.2 hOpened⟩
  case index_eq =>
    simp [hLines, hIndex, Text.Front.text]

namespace Addresses

variable {code : Text} {p q : Position}

theorem index_lt_of_line_lt (hp : p.Addresses code) (hq : q.Addresses code)
    (h : p.line < q.line) : p.index < q.index := by
  obtain ⟨line, hLine, hColumn⟩ := hp.column_le
  have hRows : p.line - 1 < q.line - 1 := Nat.sub_lt_sub_right hp.line_pos h
  have hStarts := Text.length_unlines_take_lt hLine hRows
  have hNonneg := hq.column_nonneg
  rw [hp.index_eq, hq.index_eq]
  omega

/-- Places in order have coordinates in order. -/
theorem coordinates_lt (hp : p.Addresses code) (hq : q.Addresses code) (h : p.index < q.index) :
    p.coordinates < q.coordinates := by
  rw [coordinates, coordinates, Prod.Lex.toLex_lt_toLex]
  rcases Nat.lt_trichotomy p.line q.line with hLess | hSame | hMore
  · exact Or.inl hLess
  · rw [hp.index_eq, hq.index_eq, hSame] at h
    exact Or.inr ⟨hSame, by omega⟩
  · have := hq.index_lt_of_line_lt hp hMore
    omega

/-- An index has no other coordinates. -/
theorem eq_of_index_eq (hp : p.Addresses code) (hq : q.Addresses code) (h : p.index = q.index) :
    p = q := by
  have hLine : p.line = q.line := by
    rcases Nat.lt_trichotomy p.line q.line with hLess | hSame | hMore
    · have := hp.index_lt_of_line_lt hq hLess
      omega
    · exact hSame
    · have := hq.index_lt_of_line_lt hp hMore
      omega
  have hColumn : p.column = q.column := by
    have hIndex := h
    rw [hp.index_eq, hq.index_eq, hLine] at hIndex
    omega
  cases p
  cases q
  simp_all

theorem index_nonneg (hp : p.Addresses code) : 0 ≤ p.index := by
  have hNonneg := hp.column_nonneg
  rw [hp.index_eq]
  omega

theorem index_le (hp : p.Addresses code) : p.index ≤ code.length := by
  obtain ⟨line, hLine, hColumn⟩ := hp.column_le
  obtain ⟨hRow, -⟩ := List.getElem?_eq_some_iff.1 hLine
  have hEnd := Text.length_unlines_take_lt hLine hRow
  rw [List.take_length, Text.unlines_feedLines, List.length_append, List.length_singleton] at hEnd
  rw [hp.index_eq]
  omega

end Addresses

/-- Line and column are coordinates of the places in a text: an earlier index has smaller ones, every
index from the start of the text to its end is found again from its own, and all lines and columns
that lie in the text are those of an index. -/
theorem ofIndex_coordinates (code : Text) :
    (∀ i j : Int, 0 ≤ i → i < j → j ≤ code.length →
      (ofIndex code i).coordinates < (ofIndex code j).coordinates) ∧
    (∀ i : Int, 0 ≤ i → i ≤ code.length →
      (ofIndex code i).index = i ∧ (ofIndex code i).Addresses code) ∧
    ∀ p : Position, p.Addresses code →
      0 ≤ p.index ∧ p.index ≤ code.length ∧ ofIndex code p.index = p := by
  refine ⟨?_, ?_, ?_⟩
  · intro i j hNonneg hLess hLe
    have hFirst : (ofIndex code i).Addresses code := addresses_ofIndex hNonneg (by omega)
    have hSecond : (ofIndex code j).Addresses code := addresses_ofIndex (by omega) hLe
    exact hFirst.coordinates_lt hSecond hLess
  · intro i hNonneg hLe
    exact ⟨rfl, addresses_ofIndex hNonneg hLe⟩
  · intro p hp
    have hSame := (addresses_ofIndex hp.index_nonneg hp.index_le).eq_of_index_eq hp rfl
    exact ⟨hp.index_nonneg, hp.index_le, hSame⟩

/-- A text with an empty line and a line feed at its end. -/
def blankLine : Text := "ab\n\nc\n"

theorem ofIndex_coordinates_blankLine :
    ((0 : Int) ≤ 2 ∧ (2 : Int) < 3 ∧ 3 ≤ (blankLine.length : Int) ∧
      (ofIndex blankLine 2).coordinates < (ofIndex blankLine 3).coordinates) ∧
    ((0 : Int) ≤ 6 ∧ 6 ≤ (blankLine.length : Int) ∧ ofIndex blankLine 6 = ⟨4, 0, 6⟩ ∧
      (ofIndex blankLine 6).Addresses blankLine) ∧
    (⟨3, 1, 5⟩ : Position).Addresses blankLine ∧ ofIndex blankLine 5 = ⟨3, 1, 5⟩ := by
  obtain ⟨hOrder, hIndex, hPlace⟩ := ofIndex_coordinates blankLine
  have hThird : (⟨3, 1, 5⟩ : Position).Addresses blankLine :=
    ⟨by decide, by decide, by decide, ⟨"c", by decide, by decide⟩, by decide⟩
  refine ⟨⟨by decide, by decide, by decide, hOrder 2 3 (by decide) (by decide) (by decide)⟩,
    ⟨by decide, by decide, by decide, ?_⟩, hThird, ?_⟩
  · exact (hIndex 6 (by decide) (by decide)).2
  · exact (hPlace _ hThird).2.2

end Position

end Assay
