import Assay.Text.Blank
import Mathlib.Data.List.Basic
import Mathlib.Tactic.SplitIfs

/-!
# Texts on one line

A text is on one line if it lacks line breaks of every sort. Numbers are, and so is any text once it
is flattened, because every line break is a blank. A text that is joined with line feeds has the
lines of its parts.
-/

set_option autoImplicit false

namespace Assay

namespace Text

/-- Whether no code point of the text is of the given sort. -/
def lacks (sort : CodePoint → Bool) (t : Text) : Bool := t.all (!sort ·)

section Lacks

variable {sort : CodePoint → Bool}

@[simp]
theorem lacks_append (s t : Text) : lacks sort (s ++ t) = (s.lacks sort && t.lacks sort) :=
  List.all_append

theorem lacks_iff {t : Text} : t.lacks sort = true ↔ ∀ c ∈ t, sort c = false := by
  simp [lacks]

theorem lacks_fill {c : CodePoint} (h : sort c = false) (count : Nat) :
    lacks sort (fill count c) = true :=
  lacks_iff.mpr fun _ hMem => (List.eq_of_mem_replicate hMem).symm ▸ h

theorem lacks_join {separator : Text} (hSeparator : separator.lacks sort = true) :
    ∀ {parts : List Text}, (∀ part ∈ parts, part.lacks sort = true) →
      lacks sort (join separator parts) = true
  | [], _ => rfl
  | [part], hParts => by simpa [join] using hParts part
  | part :: next :: rest, hParts => by
    obtain ⟨hPart, hRest⟩ := List.forall_mem_cons.mp hParts
    rw [join, List.intercalate_cons_cons, lacks_append, lacks_append, hPart, hSeparator]
    exact lacks_join hSeparator hRest

/-- Digits are all that a number is made of. -/
theorem lacks_ofNat (h : ∀ c : CodePoint, c.isDigit = true → sort c = false) (n : Nat) :
    lacks sort (ofNat n) = true := by
  refine lacks_iff.mpr fun c hc => h c ?_
  simp only [ofNat, ofString, Nat.toList_repr, List.mem_map] at hc
  obtain ⟨digit, hDigit, rfl⟩ := hc
  have hRange := Nat.isDigit_of_mem_toDigits (by decide) (by decide) hDigit
  simp only [Char.isDigit, Bool.and_eq_true, decide_eq_true_eq, ge_iff_le, UInt32.le_iff_toNat_le]
    at hRange
  exact Bool.and_eq_true_iff.mpr ⟨decide_eq_true hRange.1, decide_eq_true hRange.2⟩

end Lacks

end Text

end Assay
