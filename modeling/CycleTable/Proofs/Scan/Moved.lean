import CycleTable.Proofs.Scan.Position
import CycleTable.Proofs.Scan.Run

/-! # Scans further down

A run over cells that stand some rows further down, and that are numbered from further on, is
the same run with its rows and its numbers moved. Hence a table put below another one is scanned
as it would be alone: its numbers are moved by the number of cells above it, and its rows by the
number of rows. The header row is skipped once.
-/
namespace CycleTable

def Entry.moved (n : UInt32) (e : Entry) : Entry := { e with opcode := e.opcode + n }

def ScanError.moved (n : UInt32) (rows : Nat) (e : ScanError) : ScanError :=
  ⟨e.opcode + n, e.row + rows, e.column, e.source⟩

def PlacedCell.moved (rows : Nat) (c : PlacedCell) : PlacedCell := { c with row := c.row + rows }

def Event.moved (n : UInt32) (rows : Nat) : Event → Event
  | .cellGivenUp row column opcode source => .cellGivenUp (row + rows) column (opcode + n) source
  | .entryMade row column entry => .entryMade (row + rows) column (entry.moved n)
  | .tableFound rows' cells => .tableFound rows' cells
  | .finished summary => .finished summary

theorem Table.placedFrom_add (row rows : Nat) (below : Table) :
    placedFrom (row + rows) below = (placedFrom row below).map (PlacedCell.moved rows) := by
  induction below generalizing row with
  | nil => rfl
  | cons cells below ih =>
    rw [placedFrom_cons, placedFrom_cons, List.map_append, ← ih, Nat.add_right_comm, placedRow,
      placedRow, List.map_map]
    rfl

namespace Scan

def moved (n : UInt32) (rows : Nat) (scan : Scan) : Scan :=
  ⟨scan.events.map (Event.moved n rows),
    (scan.result.map fun entries => entries.map (Entry.moved n)).mapError (ScanError.moved n rows)⟩

theorem readCell_moved (policy : Policy) (opcode n : UInt32) (rows : Nat) (c : PlacedCell) :
    readCell policy (opcode + n) (c.moved rows) =
      ((readCell policy opcode c).map fun made =>
        (made.1.map (Event.moved n rows), made.2.moved n)).mapError (ScanError.moved n rows) := by
  have htext : (c.moved rows).text = c.text := rfl
  unfold readCell
  rw [htext]
  cases Timing.parse c.text with
  | ok timing => cases policy <;> rfl
  | error source =>
    cases policy with
    | strict => rfl
    | lenient => cases source <;> rfl

theorem readCells_moved (policy : Policy) (opcode n : UInt32) (rows : Nat)
    (cells : List PlacedCell) :
    readCells policy (opcode + n) (cells.map (PlacedCell.moved rows)) =
      (readCells policy opcode cells).moved n rows := by
  induction cells generalizing opcode with
  | nil => rfl
  | cons c cs ih =>
    have hcell := readCell_moved policy opcode n rows c
    rw [List.map_cons]
    cases h : readCell policy opcode c with
    | error e =>
      rw [h] at hcell
      rw [readCells_cons_of_error h, readCells_cons_of_error hcell]
      rfl
    | ok made =>
      rw [h] at hcell
      have hnext : opcode + n + 1 = opcode + 1 + n := by
        rw [UInt32.add_assoc, UInt32.add_comm n 1, ← UInt32.add_assoc]
      rw [readCells_cons_of_ok h, readCells_cons_of_ok hcell, hnext, ih]
      cases hrest : (readCells policy (opcode + 1) cs).result with
      | error e => simp [andThen, moved, hrest, Except.map, Except.mapError]
      | ok entries => simp [andThen, moved, hrest, Except.map, Except.mapError]

theorem length_of_entries {rows : Table} {policy : Policy} {es : List Entry}
    (h : entries rows policy = .ok es) : es.length = rows.cells.length := by
  rw [entries_eq] at h
  rw [eq_numbered_of_ok h, length_numbered, Table.map_text_placedCells]

theorem opcode_lt_of_entries {rows : Table} {policy : Policy} {es : List Entry}
    (h : entries rows policy = .ok es) (hsize : rows.cells.length < UInt32.size) {e : Entry}
    (he : e ∈ es) : e.opcode.toNat < rows.cells.length := by
  have hlength := length_of_entries h
  rw [entries_eq] at h
  have hnumbered := eq_numbered_of_ok h
  rw [Table.map_text_placedCells] at hnumbered
  obtain ⟨i, hi, rfl⟩ := List.getElem_of_mem he
  have hget := getElem?_numbered rows.cells i
  have hi' : i < rows.cells.length := hlength ▸ hi
  rw [← hnumbered, List.getElem?_eq_getElem hi, List.getElem?_eq_getElem hi', Option.map_some] at hget
  rw [Option.some.inj hget, Timing.opcode_entryOf,
    UInt32.toNat_ofNat_of_lt' (Nat.lt_trans hi' hsize)]
  exact hi'

theorem opcode_lt_of_entries_error {rows : Table} {policy : Policy} {e : ScanError}
    (h : entries rows policy = .error e) (hsize : rows.cells.length < UInt32.size) :
    e.opcode.toNat < rows.cells.length := by
  rw [entries_eq] at h
  obtain ⟨i, hi, hopcode⟩ := opcode_of_error h
  rw [Table.length_placedCells] at hi
  rw [hopcode, UInt32.zero_add, UInt32.toNat_ofNat_of_lt' (Nat.lt_trans hi hsize)]
  exact hi

section Below

variable {above : Table} (below : Table) (policy : Policy) (header : List String)

theorem placedCells_append (habove : above ≠ []) :
    (above ++ below).placedCells = above.placedCells ++
      (Table.placedCells (header :: below)).map (PlacedCell.moved (above.length - 1)) := by
  obtain ⟨first, rows, rfl⟩ := List.exists_cons_of_ne_nil habove
  rw [Table.placedCells_eq, Table.placedCells_eq, Table.placedCells_eq, List.cons_append,
    List.drop_one, List.drop_one, List.drop_one, List.tail_cons, List.tail_cons, List.tail_cons,
    Table.placedFrom_append, List.length_cons, Nat.add_sub_cancel, Table.placedFrom_add]

/-- The scan of a table below another one goes on behind it, with its own header row skipped
only if it stands alone. -/
theorem readCells_append_table (habove : above ≠ []) :
    readCells policy 0 (above ++ below).placedCells =
      (readCells policy 0 above.placedCells).andThen
        ((readCells policy 0 (Table.placedCells (header :: below))).moved
          (UInt32.ofNat above.cells.length) (above.length - 1)) := by
  rw [placedCells_append below header habove, readCells_append, readCells_moved,
    Table.length_placedCells]

theorem entries_append_of_error {e : ScanError} (habove : above ≠ [])
    (h : entries above policy = .error e) : entries (above ++ below) policy = .error e := by
  rw [entries_eq] at h ⊢
  rw [readCells_append_table below policy [] habove, andThen, h]
  exact h

theorem entries_append_of_ok {es es' : List Entry} (habove : above ≠ [])
    (h : entries above policy = .ok es) (h' : entries (header :: below) policy = .ok es') :
    entries (above ++ below) policy =
      .ok (es ++ es'.map (Entry.moved (UInt32.ofNat es.length))) := by
  have hlength := length_of_entries h
  rw [entries_eq] at h h' ⊢
  rw [readCells_append_table below policy header habove, andThen, h, hlength]
  simp only [moved, h']
  rfl

theorem entries_append_of_error_below {es : List Entry} {e : ScanError} (habove : above ≠ [])
    (h : entries above policy = .ok es) (h' : entries (header :: below) policy = .error e) :
    entries (above ++ below) policy =
      .error (e.moved (UInt32.ofNat es.length) (above.length - 1)) := by
  have hlength := length_of_entries h
  rw [entries_eq] at h h' ⊢
  rw [readCells_append_table below policy header habove, andThen, h, hlength]
  simp only [moved, h']
  rfl

end Below

end Scan
end CycleTable
