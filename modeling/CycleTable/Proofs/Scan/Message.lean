import CycleTable.Proofs.Scan.Names

/-! # Messages on one line

Every record of a scan is one line, whatever the cells hold. The pieces of a cell that a record
shows are quoted, so that a line feed in them would be escaped. The name of an entry is not, but it
is on one line itself.
-/
namespace CycleTable

def OneLine (text : String) : Prop := '\n' ∉ text.toList

instance (text : String) : Decidable (OneLine text) :=
  inferInstanceAs (Decidable (_ ∉ _))

theorem oneLine_append {left right : String} :
    OneLine (left ++ right) ↔ OneLine left ∧ OneLine right := by
  simp [OneLine]

theorem Numeral.newline_not_mem {cs : List Char} (h : ∀ c ∈ cs, isHexDigit c) : '\n' ∉ cs := by
  intro hmem
  exact absurd (h _ hmem) (by decide)

theorem oneLine_toString (n : Nat) : OneLine (toString n) := by
  have hdigits : (toString n).toList = Numeral.decimal n := by
    simp [Numeral.decimal, toString]
  intro hmem
  rw [hdigits] at hmem
  exact absurd ((Numeral.isRun_decimal n).2 _ hmem) (by decide)

theorem oneLine_opcodeText (opcode : UInt32) : OneLine (opcodeText opcode) := by
  refine oneLine_append.2 ⟨by decide, ?_⟩
  rw [OneLine, String.toList_ofList]
  exact Numeral.newline_not_mem (Numeral.isRun_hex _).2

theorem Text.newline_not_mem_quotedChar (c : Char) : '\n' ∉ quotedChar c := by
  unfold quotedChar
  split_ifs with _ _ _ _ hnewline
  · decide
  · decide
  · decide
  · decide
  · decide
  · decide
  · have hhex := Numeral.newline_not_mem (Numeral.isRun_hex c.toNat).2
    simp [hhex]
  · simpa using Ne.symm hnewline

theorem oneLine_quoted (text : String) : OneLine (Text.quoted text) := by
  simp [OneLine, Text.quoted, Text.newline_not_mem_quotedChar]

theorem CellError.oneLine_message (e : CellError) : OneLine e.message := by
  unfold message
  cases e with
  | missingTimingLine => decide +kernel
  | missingCycleDescriptor line =>
    simp only [oneLine_append, oneLine_quoted, and_true]
    decide +kernel
  | badCycleCount segment reason =>
    simp only [oneLine_append, oneLine_quoted, and_true]
    decide +kernel

theorem Entry.oneLine_render {e : Entry} (h : OneLine e.name) : OneLine e.render := by
  intro hmem
  rw [render, String.toList_ofList] at hmem
  rcases white_renderChars hmem rfl with hspace | hname
  · cases hspace
  · exact h hname

/-- A record is on one line, unless it shows an entry whose name is not. -/
theorem Event.oneLine_message {event : Event}
    (h : ∀ row column entry, event = .entryMade row column entry → OneLine entry.name) :
    OneLine event.message := by
  unfold message
  cases event with
  | tableFound rows cells =>
    simp only [oneLine_append, oneLine_toString, and_true]
    decide +kernel
  | cellGivenUp row column opcode error =>
    simp only [oneLine_append, oneLine_toString, oneLine_opcodeText, CellError.oneLine_message,
      and_true]
    decide +kernel
  | entryMade row column entry =>
    have hrender : OneLine entry.render := Entry.oneLine_render (h row column entry rfl)
    simp only [oneLine_append, oneLine_toString, hrender, and_true]
    decide +kernel
  | finished summary =>
    simp only [oneLine_append, oneLine_toString, and_true]
    decide +kernel

end CycleTable
