import CycleTable.Proofs.Cell.Grammar
import CycleTable.Proofs.Outcome
import CycleTable.Proofs.Scan.Position
import CycleTable.Proofs.Scan.Run

/-! # Names in a scan

The name of an entry is the first line of its cell, or the invalid name. A list has no white
space but that of its names and single spaces, and is therefore one line, whatever the cells
hold.
-/
namespace CycleTable

theorem Timing.name_entryOf (text : String) (opcode : UInt32) :
    (entryOf text opcode).name = Entry.invalidName ∨
      (entryOf text opcode).name = String.ofList (Text.before '\n' text.toList) := by
  unfold entryOf
  cases h : parse text with
  | ok timing => exact Or.inr (name_of_parse h)
  | error source => exact Or.inl rfl

namespace Numeral

theorem not_white_of_isHexDigit {c : Char} (h : isHexDigit c) : Text.isAsciiWhite c = false := by
  by_contra hwhite
  simp only [Text.isAsciiWhite, Bool.not_eq_false, Bool.or_eq_true, beq_iff_eq] at hwhite
  rcases hwhite with (((rfl | rfl) | rfl) | rfl) | rfl <;> revert h <;> decide

end Numeral

namespace Entry

def frame : List Char := opening ++ nameOpening ++ nameClosing ++ separator ++ closing

theorem mem_renderChars {e : Entry} {c : Char} (h : c ∈ e.renderChars) :
    c ∈ e.name.toList ∨ c ∈ frame ∨ Numeral.isHexDigit c ∨ Numeral.isDigit c := by
  simp only [renderChars, List.mem_append] at h
  simp only [frame, List.mem_append]
  rcases h with (((((((h | h) | h) | h) | h) | h) | h) | h) | h
  · exact Or.inr (Or.inl (by simp [h]))
  · exact Or.inr (Or.inr (Or.inl ((Numeral.isRun_hex _).2 c h)))
  · exact Or.inr (Or.inl (by simp [h]))
  · exact Or.inl h
  · exact Or.inr (Or.inl (by simp [h]))
  · exact Or.inr (Or.inr (Or.inr ((Numeral.isRun_decimal _).2 c h)))
  · exact Or.inr (Or.inl (by simp [h]))
  · exact Or.inr (Or.inr (Or.inr ((Numeral.isRun_decimal _).2 c h)))
  · exact Or.inr (Or.inl (by simp [h]))

theorem white_renderChars {e : Entry} {c : Char} (h : c ∈ e.renderChars)
    (hwhite : Text.isAsciiWhite c) : c = ' ' ∨ c ∈ e.name.toList := by
  have hframe : frame.all fun d => !Text.isAsciiWhite d || d == ' ' := by decide
  rcases mem_renderChars h with hname | hc | hdigit | hdigit
  · exact Or.inr hname
  · exact Or.inl (by simpa [hwhite] using List.all_eq_true.1 hframe c hc)
  · simp [Numeral.not_white_of_isHexDigit hdigit] at hwhite
  · have hnot := Text.isWhite_of_isDigit hdigit
    simp [Text.isWhite_of_isAsciiWhite hwhite] at hnot

end Entry

theorem Initializer.white_render {es : List Entry} {c : Char} (h : c ∈ (render es).toList)
    (hwhite : Text.isAsciiWhite c) : c = ' ' ∨ ∃ e ∈ es, c ∈ e.name.toList := by
  rw [render, String.toList_ofList] at h
  obtain ⟨e, he, hc⟩ := List.mem_flatMap.1 h
  rcases List.mem_append.1 hc with hc | hc
  · rcases Entry.white_renderChars hc hwhite with hspace | hname
    · exact Or.inl hspace
    · exact Or.inr ⟨e, he, hname⟩
  · obtain rfl := List.mem_singleton.1 hc
    cases hwhite

namespace Scan

variable {rows : Table} {policy : Policy}

theorem mem_numbered {e : Entry} {opcode : UInt32} {texts : List String}
    (h : e ∈ numbered opcode texts) : ∃ text ∈ texts, ∃ n, e = Timing.entryOf text n := by
  obtain ⟨i, hi, rfl⟩ := List.mem_mapIdx.1 h
  exact ⟨texts[i], List.getElem_mem hi, _, rfl⟩

/-- Whatever the policy, a name is the invalid one or the first line of a cell. -/
theorem name_of_entries {es : List Entry} (h : entries rows policy = .ok es) {e : Entry}
    (he : e ∈ es) : e.name = Entry.invalidName ∨
      ∃ text ∈ rows.cells, e.name = String.ofList (Text.before '\n' text.toList) := by
  rw [entries_eq] at h
  rw [eq_numbered_of_ok h, Table.map_text_placedCells] at he
  obtain ⟨text, htext, n, rfl⟩ := mem_numbered he
  rcases Timing.name_entryOf text n with hname | hname
  · exact Or.inl hname
  · exact Or.inr ⟨text, htext, hname⟩

theorem newline_not_mem_name {es : List Entry} (h : entries rows policy = .ok es) :
    ∀ e ∈ es, '\n' ∉ e.name.toList := by
  intro e he
  rcases name_of_entries h he with hname | ⟨text, -, hname⟩
  · rw [hname]
    decide
  · rw [hname, String.toList_ofList]
    exact Text.not_mem_before '\n' text.toList

theorem extract_eq_ok_iff {text : String} :
    extract rows policy = .ok text ↔
      ∃ es, entries rows policy = .ok es ∧ Initializer.render es = text :=
  map_eq_ok_iff

theorem newline_not_mem_extract {text : String} (h : extract rows policy = .ok text) :
    '\n' ∉ text.toList := by
  obtain ⟨es, hes, rfl⟩ := extract_eq_ok_iff.1 h
  intro hmem
  rcases Initializer.white_render hmem rfl with hspace | ⟨e, he, hname⟩
  · cases hspace
  · exact newline_not_mem_name hes e he hname

end Scan
end CycleTable
