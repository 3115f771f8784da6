import Assay.Proofs.Source.Offsets
import Mathlib.Algebra.Ring.Nat

/-!
# Byte offsets and UTF-8

`Text.bytes` is the UTF-8 form of a text and `Text.ofBytes?` reads such a form back. A byte offset is
a boundary of a text if the text can be cut there, and then the code point offset of the cut is the
length of what stands before it (`Source.offset?_of_cut`). So a stretch between two boundaries is the
same text whether its bytes are read or its code points are taken (`Source.ofBytes?_extract`), and
in a text that has as many bytes as code points the table of offsets changes nothing
(`Offsets.getElem?_tableFrom_of_size_eq`).
-/

set_option autoImplicit false

namespace Assay

/-! ## The UTF-8 form of a text -/

variable {c : CodePoint} {before : Text} {byte : Nat}

namespace CodePoint

theorem toNat_toChar (h : c.isSurrogate = false) : c.toChar.toNat = c.val := by
  have hBounds : ¬ (0xD800 ≤ c.val ∧ c.val ≤ 0xDFFF) := by simpa [isSurrogate] using h
  have hValid : c.val.isValidChar := by
    have := c.isLt
    unfold Nat.isValidChar
    omega
  rw [toChar, h, if_neg Bool.false_ne_true, Char.ofNat, dif_pos hValid]
  rfl

theorem ofChar_toChar (h : c.isSurrogate = false) : ofChar c.toChar = c :=
  Fin.ext (toNat_toChar h)

theorem utf8Size_toChar (h : c.isSurrogate = false) : c.toChar.utf8Size = c.width := by
  have hVal : c.toChar.val.toNat = c.val := toNat_toChar h
  have hLess (n : Nat) (hn : n < UInt32.size) : c.toChar.val ≤ UInt32.ofNatLT n hn ↔ c.val ≤ n := by
    rw [UInt32.le_iff_toNat_le, hVal]
    simp
  unfold Char.utf8Size width
  simp only [hLess]
  split_ifs <;> omega

theorem width_pos (c : CodePoint) : 0 < c.width := by
  unfold width
  split_ifs <;> omega

end CodePoint

namespace Text

/-- The UTF-8 form of a text. -/
def bytes (code : Text) : ByteArray := code.toString.toUTF8

/-- The text of which the bytes are the UTF-8 form, if there is one. -/
def ofBytes? (bytes : ByteArray) : Option Text := (String.fromUTF8? bytes).map ofString

theorem bytes_append (first second : Text) :
    (first ++ second).bytes = first.bytes ++ second.bytes := by
  simp [bytes, toString, String.toUTF8]

theorem hasSurrogate_append {first second : Text} :
    (first ++ second).hasSurrogate = false ↔
      first.hasSurrogate = false ∧ second.hasSurrogate = false := by
  simp [hasSurrogate]

theorem hasSurrogate_cons {rest : Text} :
    hasSurrogate (c :: rest) = false ↔ c.isSurrogate = false ∧ hasSurrogate rest = false := by
  simp [hasSurrogate]

theorem size_bytes_cons {rest : Text} (h : c.isSurrogate = false) :
    (bytes (c :: rest)).size = c.width + rest.bytes.size := by
  have hFirst : (bytes [c]).size = c.width := by
    rw [← CodePoint.utf8Size_toChar h, ← String.length_utf8EncodeChar]
    simp [bytes, toString, String.toUTF8, List.utf8Encode]
  rw [← List.singleton_append, bytes_append, ByteArray.size_append, hFirst]

theorem size_bytes {code : Text} (h : code.hasSurrogate = false) :
    code.bytes.size = (code.map CodePoint.width).sum := by
  induction code with
  | nil => rfl
  | cons c rest ih =>
    obtain ⟨hFirst, hRest⟩ := hasSurrogate_cons.1 h
    rw [size_bytes_cons hFirst, ih hRest, List.map_cons, List.sum_cons]

/-- What was written is read back. -/
theorem ofBytes?_bytes {code : Text} (h : code.hasSurrogate = false) :
    ofBytes? code.bytes = some code := by
  have hRead : String.fromUTF8? code.bytes = some code.toString := dif_pos code.toString.isValidUTF8
  have hBack : ofString code.toString = code := by
    rw [ofString, toString, String.toList_ofList, List.map_map]
    refine (List.map_congr_left fun c hc => ?_).trans (List.map_id code)
    apply CodePoint.ofChar_toChar
    simpa using List.any_eq_false.1 h c hc
  rw [ofBytes?, hRead, Option.map_some, hBack]

theorem length_le_size_bytes {code : Text} (h : code.hasSurrogate = false) :
    code.length ≤ code.bytes.size := by
  induction code with
  | nil => exact Nat.zero_le _
  | cons c rest ih =>
    obtain ⟨hFirst, hRest⟩ := hasSurrogate_cons.1 h
    have hBelow := ih hRest
    have hWidth := c.width_pos
    rw [size_bytes_cons hFirst, List.length_cons]
    omega

/-! ## Boundaries -/

/-- The byte offset lies between two code points of the text, or at one of its ends. -/
def IsBoundary (code : Text) (byte : Nat) : Prop :=
  ∃ before after, code = before ++ after ∧ before.bytes.size = byte

/-- Between two boundaries there is a text of its own. -/
theorem IsBoundary.cut {code : Text} {start stop : Nat} (h : code.hasSurrogate = false)
    (hStart : code.IsBoundary start) (hStop : code.IsBoundary stop) (hOrder : start ≤ stop) :
    ∃ before inside after, code = before ++ inside ++ after ∧ before.bytes.size = start ∧
      (before ++ inside).bytes.size = stop := by
  obtain ⟨before, later, hCode, hBefore⟩ := hStart
  obtain ⟨earlier, after, hCode', hEarlier⟩ := hStop
  obtain ⟨inside, hInside, -⟩ | ⟨inside, hInside, -⟩ :=
    List.append_eq_append_iff.1 (hCode.symm.trans hCode')
  · exact ⟨before, inside, after, hInside ▸ hCode', hBefore, hInside ▸ hEarlier⟩
  · -- The cuts are in the wrong order, so nothing stands between them.
    have hNone : inside = [] := by
      rw [hCode, hInside] at h
      have hShort := length_le_size_bytes (hasSurrogate_append.1 (hasSurrogate_append.1 h).1).2
      rw [hInside, bytes_append, ByteArray.size_append] at hBefore
      apply List.eq_nil_of_length_eq_zero
      omega
    rw [hNone, List.append_nil] at hInside
    refine ⟨before, [], after, ?_, hBefore, ?_⟩
    · rw [List.append_nil, hInside, hCode']
    · rw [List.append_nil, hInside, hEarlier]

/-- The bytes between two boundaries are those of the text between them. -/
theorem bytes_extract (before inside after : Text) :
    (before ++ inside ++ after).bytes.extract before.bytes.size (before ++ inside).bytes.size =
      inside.bytes := by
  rw [List.append_assoc, bytes_append, bytes_append, bytes_append, ByteArray.size_append]
  rw [show before.bytes.size = before.bytes.size + 0 from rfl]
  rw [Nat.add_assoc, ByteArray.extract_append_size_add, Nat.zero_add]
  exact ByteArray.extract_append_eq_left rfl

theorem clamp_natCast (length offset : Nat) : clamp length offset = min offset length := by
  have hSign : ¬ (offset : Int) < 0 := by omega
  rw [clamp, if_neg hSign, Int.toNat_natCast]

theorem slice_append (before inside after : Text) :
    (before ++ inside ++ after).slice before.length (before ++ inside).length = inside := by
  have hStart : min before.length (before ++ inside ++ after).length = before.length := by
    simp only [List.length_append]
    omega
  have hStop : min (before ++ inside).length (before ++ inside ++ after).length - before.length =
      inside.length := by
    simp only [List.length_append]
    omega
  rw [slice, clamp_natCast, clamp_natCast, hStart, hStop]
  simp

end Text

/-! ## The table of offsets -/

namespace Offsets

theorem length_tableFrom {code : Text} (h : code.hasSurrogate = false) (first : Nat) :
    (tableFrom first code).length = code.bytes.size + 1 := by
  induction code generalizing first with
  | nil => rfl
  | cons c rest ih =>
    obtain ⟨hFirst, hRest⟩ := Text.hasSurrogate_cons.1 h
    rw [tableFrom, List.length_append, List.length_replicate, ih hRest, Text.size_bytes_cons hFirst]
    omega

theorem getLast?_tableFrom (code : Text) (first : Nat) :
    (tableFrom first code).getLast? = some (first + code.length) := by
  induction code generalizing first with
  | nil => rfl
  | cons c rest ih =>
    rw [tableFrom, List.getLast?_append, ih, Option.some_or, List.length_cons]
    congr 1
    omega

theorem head?_tableFrom (code : Text) (first : Nat) : (tableFrom first code)[0]? = some first := by
  cases code with
  | nil => rfl
  | cons c rest =>
    have hWidth := c.width_pos
    rw [tableFrom, List.getElem?_append_left (by simpa using hWidth)]
    simp [hWidth]

/-- Behind a boundary the table goes on as that of the rest of the text. -/
theorem getElem?_tableFrom_add (h : before.hasSurrogate = false) (after : Text) (first byte : Nat) :
    (tableFrom first (before ++ after))[before.bytes.size + byte]? =
      (tableFrom (first + before.length) after)[byte]? := by
  induction before generalizing first with
  | nil =>
    have hNone : (Text.bytes []).size = 0 := rfl
    simp [hNone]
  | cons c rest ih =>
    obtain ⟨hFirst, hRest⟩ := Text.hasSurrogate_cons.1 h
    have hSkip : (List.replicate c.width first).length ≤ c.width + (Text.bytes rest).size + byte := by
      rw [List.length_replicate]
      omega
    have hShift : c.width + (Text.bytes rest).size + byte - c.width =
        (Text.bytes rest).size + byte := by
      omega
    rw [List.cons_append, tableFrom, Text.size_bytes_cons hFirst, List.getElem?_append_right hSkip,
      List.length_replicate, hShift, ih hRest, List.length_cons, Nat.add_assoc, Nat.add_comm 1]

/-- Where a text has no more bytes than code points, the table changes nothing. -/
theorem getElem?_tableFrom_of_size_eq {code : Text} (h : code.hasSurrogate = false)
    (hSize : code.bytes.size = code.length) (hByte : byte ≤ code.bytes.size) (first : Nat) :
    (tableFrom first code)[byte]? = some (first + byte) := by
  induction code generalizing first byte with
  | nil =>
    have hZero : byte = 0 := by
      have hNone : (Text.bytes []).size = 0 := hSize
      omega
    rw [hZero]
    rfl
  | cons c rest ih =>
    obtain ⟨hFirst, hRest⟩ := Text.hasSurrogate_cons.1 h
    have hBelow := Text.length_le_size_bytes hRest
    have hWidth := c.width_pos
    rw [Text.size_bytes_cons hFirst] at hByte hSize
    rw [List.length_cons] at hSize
    have hOne : c.width = 1 := by omega
    rw [tableFrom, hOne, List.replicate_one, List.singleton_append]
    cases byte with
    | zero => rfl
    | succ byte =>
      rw [List.getElem?_cons_succ, ih hRest (by omega) (by omega)]
      congr 1
      omega

end Offsets

/-! ## Offsets and texts of a source -/

namespace Source

variable {after : Text} {code : Text}

theorem size_ofText (h : code.hasSurrogate = false) : (ofText code).size = code.bytes.size := by
  have hTable := Offsets.length_tableFrom h 0
  simp [size, ofText, Offsets.table, hTable]

theorem isAscii_ofText (h : code.hasSurrogate = false) :
    (ofText code).isAscii = true ↔ code.bytes.size = code.length := by
  rw [isAscii, size_ofText h, beq_iff_eq]
  rfl

/-- The short way and the table give the same code point offset. -/
theorem offset?_eq_table (h : code.hasSurrogate = false) (hByte : byte ≤ code.bytes.size) :
    (ofText code).offset? byte = (Offsets.table code)[byte]?.map Int.ofNat := by
  by_cases hAscii : (ofText code).isAscii = true
  · have hEntry := Offsets.getElem?_tableFrom_of_size_eq h ((isAscii_ofText h).1 hAscii) hByte 0
    rw [offset?, if_pos hAscii, Offsets.table, hEntry]
    simp
  · have hSign : ¬ (byte : Int) < 0 := by omega
    simp only [offset?, if_neg hAscii, if_neg hSign]
    simp [ofText]

/-- The entry for a cut counts the code points before it. -/
theorem getElem?_table_of_cut (h : (before ++ after).hasSurrogate = false) :
    (Offsets.table (before ++ after))[before.bytes.size]? = some before.length := by
  have hEntry := Offsets.getElem?_tableFrom_add (Text.hasSurrogate_append.1 h).1 after 0 0
  rwa [Offsets.head?_tableFrom, Nat.add_zero, Nat.zero_add] at hEntry

/-- The code point offset of a cut is the length of what stands before it. -/
theorem offset?_of_cut (h : (before ++ after).hasSurrogate = false) :
    (ofText (before ++ after)).offset? before.bytes.size = some (before.length : Int) := by
  have hBound : before.bytes.size ≤ (before ++ after).bytes.size := by
    rw [Text.bytes_append, ByteArray.size_append]
    omega
  rw [offset?_eq_table h hBound, getElem?_table_of_cut h]
  rfl

/-- No code point reaches across a cut. -/
theorem isBoundary_of_cut (h : (before ++ after).hasSurrogate = false) :
    (ofText (before ++ after)).isBoundary before.bytes.size = true := by
  have hTable (byte : Nat) : (ofText (before ++ after)).offsets[byte]? =
      (Offsets.table (before ++ after))[byte]? := List.getElem?_toArray
  obtain rfl | ⟨earlier, last, rfl⟩ := List.eq_nil_or_concat' before
  · rfl
  · -- The byte before the cut belongs to the code point before it.
    have hWidth := last.width_pos
    have hEarlier := (Text.hasSurrogate_append.1 (Text.hasSurrogate_append.1 h).1).1
    have hLast : last.isSurrogate = false :=
      (Text.hasSurrogate_cons.1 (Text.hasSurrogate_append.1 (Text.hasSurrogate_append.1 h).1).2).1
    have hSize : (Text.bytes (earlier ++ [last])).size =
        (Text.bytes earlier).size + (last.width - 1) + 1 := by
      rw [Text.bytes_append, ByteArray.size_append, Text.size_bytes_cons hLast]
      have hNone : (Text.bytes []).size = 0 := rfl
      omega
    have hBefore : (Offsets.table (earlier ++ [last] ++ after))[(Text.bytes earlier).size +
        (last.width - 1)]? = some earlier.length := by
      have hInside : last.width - 1 < (List.replicate last.width (0 + earlier.length)).length := by
        rw [List.length_replicate]
        omega
      rw [List.append_assoc, Offsets.table, Offsets.getElem?_tableFrom_add hEarlier,
        List.singleton_append, Offsets.tableFrom, List.getElem?_append_left hInside,
        List.getElem?_replicate, if_pos (by omega), Nat.zero_add]
    have hHere := getElem?_table_of_cut h
    rw [isBoundary, hTable, hTable, hHere, hSize, Nat.add_sub_cancel, hBefore]
    simp

theorem getD_offsets {entry : Nat} (h : (Offsets.table code)[byte]? = some entry) :
    (ofText code).offsets.getD byte 0 = entry := by
  simp [ofText, Array.getD_eq_getD_getElem?, h]

/-- The text between two cuts. -/
theorem text?_of_cut {inside : Text} (h : (before ++ inside ++ after).hasSurrogate = false) :
    (ofText (before ++ inside ++ after)).text? before.bytes.size (before ++ inside).bytes.size =
      some inside := by
  have hSize : (before ++ inside ++ after).bytes.size =
      before.bytes.size + inside.bytes.size + after.bytes.size := by
    rw [Text.bytes_append, Text.bytes_append, ByteArray.size_append, ByteArray.size_append]
  have hStop : (before ++ inside).bytes.size = before.bytes.size + inside.bytes.size := by
    rw [Text.bytes_append, ByteArray.size_append]
  have hFirst : min before.bytes.size (before ++ inside ++ after).bytes.size =
      before.bytes.size := by
    omega
  have hLast : min (before ++ inside).bytes.size (before ++ inside ++ after).bytes.size =
      (before ++ inside).bytes.size := by
    omega
  simp only [text?, size_ofText h, Text.clamp_natCast, hFirst, hLast]
  split
  · have hInside := (Text.hasSurrogate_append.1 (Text.hasSurrogate_append.1 h).1).2
    have hShort := Text.length_le_size_bytes hInside
    have hNone : inside = [] := List.eq_nil_of_length_eq_zero (by omega)
    rw [hNone]
  · have hBefore : (before ++ (inside ++ after)).hasSurrogate = false := by
      rwa [← List.append_assoc]
    have hStart := isBoundary_of_cut hBefore
    have hEntry := getElem?_table_of_cut hBefore
    rw [← List.append_assoc] at hStart hEntry
    rw [hStart, isBoundary_of_cut h, getD_offsets hEntry, getD_offsets (getElem?_table_of_cut h)]
    simp [ofText]

/-- The bytes between two boundaries are those of the code points between their offsets. Where the
second boundary is before the first one there are none. -/
theorem ofBytes?_extract (h : code.hasSurrogate = false) {start stop : Nat}
    (hStart : code.IsBoundary start) (hStop : code.IsBoundary stop) :
    ∃ first last, (ofText code).offset? start = some first ∧ (ofText code).offset? stop = some last ∧
      (ofText code).text? start stop = some (code.slice first last) ∧
      Text.ofBytes? (code.bytes.extract start stop) = some (code.slice first last) := by
  rcases Nat.le_total start stop with hOrder | hOrder
  · obtain ⟨before, inside, after, rfl, rfl, rfl⟩ := hStart.cut h hStop hOrder
    have hInside := (Text.hasSurrogate_append.1 (Text.hasSurrogate_append.1 h).1).2
    have hParts : (before ++ (inside ++ after)).hasSurrogate = false := by
      rwa [← List.append_assoc]
    have hFirst := offset?_of_cut hParts
    rw [← List.append_assoc] at hFirst
    refine ⟨_, _, hFirst, offset?_of_cut h, ?_, ?_⟩
    · rw [Text.slice_append, text?_of_cut h]
    · rw [Text.slice_append, Text.bytes_extract, Text.ofBytes?_bytes hInside]
  · obtain ⟨before, inside, after, rfl, rfl, rfl⟩ := hStop.cut h hStart hOrder
    have hParts : (before ++ (inside ++ after)).hasSurrogate = false := by
      rwa [← List.append_assoc]
    have hLast := offset?_of_cut hParts
    rw [← List.append_assoc] at hLast
    have hSlice : (before ++ inside ++ after).slice (before ++ inside).length before.length = [] := by
      have hNone : min before.length (before ++ inside ++ after).length -
          min (before ++ inside).length (before ++ inside ++ after).length = 0 := by
        simp only [List.length_append]
        omega
      rw [Text.slice, Text.clamp_natCast, Text.clamp_natCast, hNone, List.take_zero]
    refine ⟨_, _, offset?_of_cut h, hLast, ?_, ?_⟩
    · have hClamp : Text.clamp (ofText (before ++ inside ++ after)).size before.bytes.size ≤
          Text.clamp (ofText (before ++ inside ++ after)).size (before ++ inside).bytes.size := by
        rw [Text.clamp_natCast, Text.clamp_natCast]
        omega
      rw [hSlice, text?, if_pos hClamp]
    · have hEmpty : (before ++ inside ++ after).bytes.extract (before ++ inside).bytes.size
          before.bytes.size = Text.bytes [] :=
        ByteArray.extract_eq_empty_iff.2 (by omega)
      rw [hSlice, hEmpty, Text.ofBytes?_bytes rfl]

end Source

end Assay
