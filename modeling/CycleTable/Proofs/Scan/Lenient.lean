import CycleTable.Proofs.Scan.Strict

/-! # What a lenient scan gives

A lenient scan gives one entry for each cell behind the header row, numbered without a gap.
Rows do not matter beyond that. A cell may be read and still give an entry that is taken for
an invalid one, so that invalid entries are counted over cells that were given up and over
cells that say so themselves.
-/
namespace CycleTable

namespace Timing

/-- Whether a text is read as a cell, but with the name and the counts of an invalid entry. -/
def namesInvalid (text : String) : Bool :=
  match parse text with
  | .ok timing =>
    timing.name == Entry.invalidName && timing.cycles == 0 && timing.branchTaken == 0
  | .error _ => false

theorem isInvalid_entryOf (text : String) (opcode : UInt32) :
    (entryOf text opcode).isInvalid = (rejects text || namesInvalid text) := by
  unfold entryOf rejects namesInvalid
  cases parse text with
  | ok timing => rw [Bool.false_or]; rfl
  | error source => simp [Entry.isInvalid, Entry.invalid]

theorem not_rejects_of_namesInvalid {text : String} (h : namesInvalid text) :
    rejects text = false := by
  unfold namesInvalid at h
  unfold rejects
  cases ht : parse text with
  | ok timing => rfl
  | error source => rw [ht] at h; cases h

end Timing

namespace Scan

open Timing (Accepted rejects namesInvalid)

theorem countP_isInvalid_numbered (opcode : UInt32) (texts : List String) :
    (numbered opcode texts).countP Entry.isInvalid =
      texts.countP rejects + texts.countP namesInvalid := by
  induction texts generalizing opcode with
  | nil => rfl
  | cons text texts ih =>
    rw [numbered_cons, List.countP_cons, List.countP_cons, List.countP_cons, ih,
      Timing.isInvalid_entryOf]
    by_cases hn : namesInvalid text
    · simp only [Timing.not_rejects_of_namesInvalid hn, hn]
      simp [Nat.add_assoc]
    · simp [hn, Nat.add_right_comm]

theorem getLast?_events_of_ok {rows : Table} {policy : Policy} {es : List Entry}
    (h : entries rows policy = .ok es) :
    (ofTable rows policy).events.getLast? = some (.finished (.of es)) := by
  rw [entries_eq] at h
  simp only [ofTable, conclude, h, List.getLast?_concat]

theorem accepted_of_countP_rejects_eq_zero {texts : List String} (h : texts.countP rejects = 0) :
    ∀ text ∈ texts, Accepted text := by
  intro text htext
  apply Timing.not_rejects_iff.1
  simpa using List.countP_eq_zero.1 h text htext

/-- A lenient scan gives each cell behind the header row its entry, with its own number. The
counter stays in range. Tables with the same cells in the same order give the same outcome,
and what is counted as invalid is known from the texts. -/
theorem lenient_scan_numbers_cells (rows : Table) (h : rows.cells.length < UInt32.size) :
    ∃ es, entries rows .lenient = .ok es ∧ es.length = rows.cells.length ∧
      (∀ i text, rows.cells[i]? = some text → (UInt32.ofNat i).toNat = i ∧
        es[i]? = some (match Timing.parse text with
          | .ok timing => timing.toEntry (UInt32.ofNat i)
          | .error _ => .invalid (UInt32.ofNat i))) ∧
      readCellsChecked .lenient 0 rows.placedCells =
        some (readCells .lenient 0 rows.placedCells) ∧
      (∀ other : Table, other.cells = rows.cells →
        entries other .lenient = .ok es ∧
        extract other .lenient = .ok (Initializer.render es) ∧
        (ofTable other .lenient).events.getLast? = some (.finished (.of es))) ∧
      (Summary.of es).invalid =
        rows.cells.countP rejects + rows.cells.countP namesInvalid ∧
      ((Summary.of es).invalid = 0 → entries rows .strict = .ok es) := by
  have hinvalid : (Summary.of (numbered 0 rows.cells)).invalid =
      rows.cells.countP rejects + rows.cells.countP namesInvalid :=
    countP_isInvalid_numbered 0 rows.cells
  refine ⟨numbered 0 rows.cells, lenient_entries rows, length_numbered .., ?_, ?_, ?_,
    hinvalid, ?_⟩
  · intro i text htext
    have hi : i < rows.cells.length := (List.getElem?_eq_some_iff.1 htext).1
    refine ⟨UInt32.toNat_ofNat_of_lt' (Nat.lt_trans hi h), ?_⟩
    rw [getElem?_numbered, htext]
    rfl
  · apply readCellsChecked_eq_some
    rw [Table.length_placedCells, UInt32.toNat_zero, Nat.zero_add]
    exact h
  · intro other hother
    have hentries : entries other .lenient = .ok (numbered 0 rows.cells) := by
      rw [lenient_entries, hother]
    refine ⟨hentries, ?_, getLast?_events_of_ok hentries⟩
    rw [extract, hentries]
    rfl
  · intro hzero
    rw [hinvalid] at hzero
    exact entries_of_accepted .strict
      (accepted_of_countP_rejects_eq_zero (Nat.eq_zero_of_add_eq_zero_right hzero))

theorem lenient_scan_numbers_ragged_table :
    raggedTable.cells.length < UInt32.size ∧
    ∃ es, entries raggedTable .lenient = .ok es ∧ es.length = 4 ∧
      es[2]? = some (.invalid 2) ∧ (Summary.of es).invalid = 3 := by
  have hsize : raggedTable.cells.length < UInt32.size := by decide
  obtain ⟨es, hes, hlength, hget, -, -, hinvalid, -⟩ :=
    lenient_scan_numbers_cells raggedTable hsize
  refine ⟨hsize, es, hes, hlength, (hget 2 "???" rfl).2, ?_⟩
  rw [hinvalid]
  decide +kernel

end Scan
end CycleTable
