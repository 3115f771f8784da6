import Assay.Concrete.Basic
import Mathlib.Data.List.Basic

/-!
# Byte offsets in order

The table of code point offsets does not decrease and stays inside of the text, so offsets that
are in order as bytes are in order as code points. `Source.offset?_in_order` says so for all byte
offsets of a source, whichever way they are turned into code point offsets.
-/

set_option autoImplicit false

namespace Assay

namespace Offsets

/-- The entries of a table point into the text. -/
theorem mem_tableFrom {first : Nat} {code : Text} {entry : Nat} (h : entry ∈ tableFrom first code) :
    first ≤ entry ∧ entry ≤ first + code.length := by
  induction code generalizing first with
  | nil =>
    have hEntry : entry = first := by simpa [tableFrom] using h
    simp [hEntry]
  | cons c rest ih =>
    rw [tableFrom, List.mem_append] at h
    rw [List.length_cons]
    rcases h with hHere | hLater
    · have hEntry : entry = first := List.eq_of_mem_replicate hHere
      omega
    · have hRest := ih hLater
      omega

/-- They rise. -/
theorem tableFrom_pairwise (first : Nat) (code : Text) :
    (tableFrom first code).Pairwise (· ≤ ·) := by
  induction code generalizing first with
  | nil => simp [tableFrom]
  | cons c rest ih =>
    rw [tableFrom, List.pairwise_append]
    refine ⟨?_, ih (first + 1), ?_⟩
    · exact List.pairwise_replicate.2 (Or.inr (Nat.le_refl first))
    · intro entry hHere other hLater
      have hEntry : entry = first := List.eq_of_mem_replicate hHere
      have hOther := mem_tableFrom hLater
      omega

/-- A table has an entry for the end. -/
theorem tableFrom_ne_nil (first : Nat) (code : Text) : tableFrom first code ≠ [] := by
  induction code generalizing first with
  | nil => simp [tableFrom]
  | cons c rest ih => simp [tableFrom, ih]

end Offsets

namespace Source

/-- There is an entry for each byte and one for the end. -/
theorem size_offsets_ofText (code : Text) :
    (ofText code).offsets.size = (ofText code).size + 1 := by
  have hTable : 0 < (Offsets.table code).length :=
    List.length_pos_iff.2 (Offsets.tableFrom_ne_nil 0 code)
  have hSize : (ofText code).offsets.size = (Offsets.table code).length := by simp [ofText]
  unfold size
  omega

/-- Two byte offsets in order become two code point offsets in order. -/
theorem offset?_in_order {code : Text} {start stop : Int} (hStart : 0 ≤ start)
    (hOrder : start ≤ stop) (hStop : stop ≤ (ofText code).size) :
    ∃ first last, (ofText code).offset? start = some first ∧
      (ofText code).offset? stop = some last ∧ 0 ≤ first ∧ first ≤ last ∧
        last ≤ code.length := by
  by_cases hAscii : (ofText code).isAscii = true
  · have hSize : (ofText code).size = code.length := by
      simpa [isAscii, ofText] using hAscii
    refine ⟨start, stop, ?_, ?_, hStart, hOrder, ?_⟩
    · rw [offset?, if_pos hAscii]
    · rw [offset?, if_pos hAscii]
    · omega
  · have hTable : (ofText code).offsets = (Offsets.table code).toArray := rfl
    have hLength := size_offsets_ofText code
    rw [hTable, List.size_toArray] at hLength
    -- Both places are entries of the table, the one of `start` not behind the one of `stop`.
    have hFirst : start.toNat < (Offsets.table code).length := by omega
    have hLast : stop.toNat < (Offsets.table code).length := by omega
    have hEntry (byte : Int) (hByte : 0 ≤ byte) (hRange : byte.toNat < (Offsets.table code).length) :
        (ofText code).offset? byte = some ((Offsets.table code)[byte.toNat] : Int) := by
      have hSign : ¬ byte < 0 := by omega
      simp only [offset?, if_neg hAscii, if_neg hSign, hTable]
      simp [hRange]
    refine ⟨_, _, hEntry start hStart hFirst, hEntry stop (by omega) hLast, ?_, ?_, ?_⟩
    · exact Int.natCast_nonneg _
    · rcases Nat.lt_or_ge start.toNat stop.toNat with hLess | hMore
      · have hPair := List.pairwise_iff_getElem.1 (Offsets.tableFrom_pairwise 0 code) start.toNat
          stop.toNat hFirst hLast hLess
        exact Int.ofNat_le.2 hPair
      · have hSame : start.toNat = stop.toNat := by omega
        simp [hSame]
    · have hMem := Offsets.mem_tableFrom (List.getElem_mem hLast)
      have hBound : (Offsets.table code)[stop.toNat] ≤ code.length := by
        have := hMem.2
        omega
      exact Int.ofNat_le.2 hBound

end Source

end Assay
