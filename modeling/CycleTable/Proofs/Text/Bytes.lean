import CycleTable.Text.White
import Mathlib.Tactic.Common

/-! # Bytes of a text

Places in a text are counted in bytes of its encoding. A text can be cut at a place only between
two characters, or at its ends; the bytes in front of the cut are those of the characters there.
-/
namespace CycleTable.Text

theorem byteCount_cons (c : Char) (cs : List Char) :
    byteCount (c :: cs) = c.utf8Size + byteCount cs := rfl

theorem byteCount_append (front rest : List Char) :
    byteCount (front ++ rest) = byteCount front + byteCount rest := by
  induction front with
  | nil => exact (Nat.zero_add _).symm
  | cons c front ih => rw [List.cons_append, byteCount_cons, byteCount_cons, ih, Nat.add_assoc]

theorem byteCount_pos {cs : List Char} (h : cs ≠ []) : 0 < byteCount cs := by
  obtain ⟨c, rest, rfl⟩ := List.exists_cons_of_ne_nil h
  exact Nat.add_pos_left c.utf8Size_pos _

theorem utf8ByteSize_ofList (cs : List Char) : (String.ofList cs).utf8ByteSize = byteCount cs := by
  induction cs with
  | nil => rfl
  | cons c cs ih =>
    rw [byteCount_cons, ← ih, String.ofList_cons, String.utf8ByteSize_append,
      String.utf8ByteSize_singleton]

theorem byteCount_toList (text : String) : byteCount text.toList = text.utf8ByteSize := by
  rw [← utf8ByteSize_ofList, String.ofList_toList]

/-- A place where a text can be cut: at its ends, or between two characters. -/
abbrev IsPlace (text : String) (offset : Nat) : Prop := String.Pos.Raw.IsValid text ⟨offset⟩

theorem isPlace_iff {text : String} {offset : Nat} :
    IsPlace text offset ↔ ∃ front rest, text.toList = front ++ rest ∧ byteCount front = offset := by
  rw [IsPlace, String.Pos.Raw.isValid_iff_exists_append]
  constructor
  · rintro ⟨front, rest, rfl, hoffset⟩
    refine ⟨front.toList, rest.toList, String.toList_append, ?_⟩
    rw [byteCount_toList]
    exact (congrArg String.Pos.Raw.byteIdx hoffset).symm
  · rintro ⟨front, rest, htext, rfl⟩
    refine ⟨String.ofList front, String.ofList rest, ?_, ?_⟩
    · rw [← String.ofList_append, ← htext, String.ofList_toList]
    · exact (congrArg String.Pos.Raw.mk (utf8ByteSize_ofList front)).symm

theorem le_of_isPlace {text : String} {offset : Nat} (h : IsPlace text offset) :
    offset ≤ text.utf8ByteSize := by
  obtain ⟨front, rest, htext, rfl⟩ := isPlace_iff.1 h
  rw [← byteCount_toList, htext, byteCount_append]
  exact Nat.le_add_right _ _

/-- The text behind a byte offset. There is none if the offset is no place in the text. -/
def behind? (text : String) (offset : Nat) : Option (List Char) :=
  if h : IsPlace text offset then some (text.sliceFrom (text.pos ⟨offset⟩ h)).copy.toList else none

theorem isPlace_of_behind? {text : String} {offset : Nat} {rest : List Char}
    (h : behind? text offset = some rest) : IsPlace text offset := by
  by_contra hplace
  rw [behind?, dif_neg hplace] at h
  cases h

theorem behind?_eq_some_iff {text : String} {offset : Nat} {rest : List Char} :
    behind? text offset = some rest ↔
      ∃ front, text.toList = front ++ rest ∧ byteCount front = offset := by
  constructor
  · intro h
    have hplace := isPlace_of_behind? h
    rw [behind?, dif_pos hplace] at h
    have hsplit := (text.pos ⟨offset⟩ hplace).splits
    refine ⟨(text.sliceTo (text.pos ⟨offset⟩ hplace)).copy.toList, ?_, ?_⟩
    · rw [← Option.some.inj h, ← String.toList_append, ← hsplit.eq_append]
    · rw [byteCount_toList]
      exact (congrArg String.Pos.Raw.byteIdx hsplit.offset_eq_rawEndPos).symm
  · rintro ⟨front, htext, rfl⟩
    have hplace : IsPlace text (byteCount front) := isPlace_iff.2 ⟨front, rest, htext, rfl⟩
    have hsplit : (text.pos ⟨byteCount front⟩ hplace).Splits (String.ofList front)
        (String.ofList rest) := by
      constructor
      · rw [← String.ofList_append, ← htext, String.ofList_toList]
      · exact (congrArg String.Pos.Raw.mk (utf8ByteSize_ofList front)).symm
    rw [behind?, dif_pos hplace, (text.pos _ hplace).splits.eq_right hsplit, String.toList_ofList]

end CycleTable.Text
