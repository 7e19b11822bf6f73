import CycleTable.Scan
import Mathlib.Data.List.Basic

/-! # Places in a table

Cells are numbered through, while rows and columns are counted apart and the header row counts
as a row. A table that is cut at a cell shows how the two go together: the cells in front of
it are the cells of the part above, and their number is its number.
-/
namespace CycleTable.Table

def cells (rows : Table) : List String := (rows.drop 1).flatten

theorem cells_append {above : Table} (habove : above ≠ []) (below : Table) :
    cells (above ++ below) = above.cells ++ below.flatten := by
  obtain ⟨first, rows, rfl⟩ := List.exists_cons_of_ne_nil habove
  simp [cells]

def textAt? (rows : Table) (row column : Nat) : Option String :=
  rows[row]?.bind fun cells => cells[column]?

/-- The table in front of a place. The cell there is cut off, and all behind it. -/
def cutBefore (rows : Table) (row column : Nat) : Table :=
  rows.take row ++ [(rows.getD row []).take column]

def cellsAbove (rows : Table) (row : Nat) : Nat := ((rows.take row).drop 1).flatten.length

def placedFrom (row : Nat) (rows : Table) : List PlacedCell :=
  (rows.zipIdx row).flatMap fun (cells, row) => placedRow row cells

theorem placedCells_eq (rows : Table) : rows.placedCells = placedFrom 1 (rows.drop 1) := by
  unfold placedCells placedFrom
  rw [List.drop_one, List.drop_one, List.tail_zipIdx]

theorem placedFrom_append (row : Nat) (above below : Table) :
    placedFrom row (above ++ below) =
      placedFrom row above ++ placedFrom (row + above.length) below := by
  simp only [placedFrom, List.zipIdx_append, List.flatMap_append]

theorem placedFrom_cons (row : Nat) (cells : List String) (below : Table) :
    placedFrom row (cells :: below) = placedRow row cells ++ placedFrom (row + 1) below := rfl

theorem map_text_placedFrom (row : Nat) (rows : Table) :
    (placedFrom row rows).map (·.text) = rows.flatten := by
  induction rows generalizing row with
  | nil => rfl
  | cons cells rows ih =>
    have hrow : (placedRow row cells).map (·.text) = cells := by
      rw [placedRow, List.map_map]
      exact List.zipIdx_map_fst 0 cells
    rw [placedFrom_cons, List.map_append, hrow, ih, List.flatten_cons]

theorem map_text_placedCells (rows : Table) : rows.placedCells.map (·.text) = rows.cells := by
  rw [placedCells_eq, map_text_placedFrom, cells]

theorem length_placedCells (rows : Table) : rows.placedCells.length = rows.cells.length := by
  rw [← map_text_placedCells, List.length_map]

theorem getElem?_placedRow (row : Nat) (cells : List String) (i : Nat) :
    (placedRow row cells)[i]? = cells[i]?.map fun text => ⟨row, i, text⟩ := by
  rw [placedRow, List.getElem?_map, List.getElem?_zipIdx, Option.map_map, Nat.zero_add]
  rfl

theorem getElem?_placedFrom_iff {row : Nat} {rows : Table} {i : Nat} {c : PlacedCell} :
    (placedFrom row rows)[i]? = some c ↔
      ∃ r, c.row = row + r ∧ rows.textAt? r c.column = some c.text ∧
        i = (rows.take r).flatten.length + c.column := by
  induction rows generalizing row i with
  | nil => simp [placedFrom, textAt?]
  | cons cells rows ih =>
    have hlength : (placedRow row cells).length = cells.length := by simp [placedRow]
    rw [placedFrom_cons]
    constructor
    · intro h
      rcases Nat.lt_or_ge i cells.length with hi | hi
      · rw [List.getElem?_append_left (by omega), getElem?_placedRow, Option.map_eq_some_iff] at h
        obtain ⟨text, htext, rfl⟩ := h
        exact ⟨0, rfl, by simpa [textAt?] using htext, by simp⟩
      · rw [List.getElem?_append_right (by omega), hlength, ih] at h
        obtain ⟨r, hr, htext, hi'⟩ := h
        refine ⟨r + 1, by omega, by simpa [textAt?] using htext, ?_⟩
        rw [List.take_succ_cons, List.flatten_cons, List.length_append]
        omega
    · rintro ⟨r, hr, htext, rfl⟩
      cases r with
      | zero =>
        have htext' : cells[c.column]? = some c.text := by simpa [textAt?] using htext
        have hcolumn := (List.getElem?_eq_some_iff.1 htext').1
        rw [Nat.add_zero] at hr
        rw [List.take_zero, List.flatten_nil, List.length_nil, Nat.zero_add,
          List.getElem?_append_left (by omega), getElem?_placedRow, htext', Option.map_some, ← hr]
      | succ r =>
        have hrest := ih.2 ⟨r, (by omega : c.row = row + 1 + r), by simpa [textAt?] using htext, rfl⟩
        rw [List.take_succ_cons, List.flatten_cons, List.length_append, Nat.add_assoc,
          ← hlength, List.getElem?_append_right (Nat.le_add_right _ _), Nat.add_sub_cancel_left]
        exact hrest

/-- The number of a cell, its place and its text say the same, whichever is asked for. -/
theorem getElem?_placedCells_iff {rows : Table} {i : Nat} {c : PlacedCell} :
    rows.placedCells[i]? = some c ↔
      1 ≤ c.row ∧ rows.textAt? c.row c.column = some c.text ∧
        i = rows.cellsAbove c.row + c.column := by
  have htext : ∀ r column, textAt? (rows.drop 1) r column = rows.textAt? (1 + r) column := by
    intro r column
    rw [textAt?, textAt?, List.getElem?_drop]
  have habove : ∀ r, ((rows.drop 1).take r).flatten.length = rows.cellsAbove (1 + r) := by
    intro r
    rw [cellsAbove, List.drop_take, Nat.add_sub_cancel_left]
  rw [placedCells_eq, getElem?_placedFrom_iff]
  constructor
  · rintro ⟨r, hr, hc, rfl⟩
    rw [hr, ← htext, habove]
    exact ⟨Nat.le_add_right 1 r, hc, rfl⟩
  · rintro ⟨hrow, hc, rfl⟩
    refine ⟨c.row - 1, by omega, ?_, ?_⟩
    · rw [htext, Nat.add_sub_cancel' hrow]
      exact hc
    · rw [habove, Nat.add_sub_cancel' hrow]

theorem placedFrom_split (row : Nat) (above : Table) (left : List String) (text : String)
    (right : List String) (below : Table) :
    ∃ behind, placedFrom row (above ++ (left ++ text :: right) :: below) =
      placedFrom row (above ++ [left]) ++ ⟨row + above.length, left.length, text⟩ :: behind := by
  refine ⟨((right.zipIdx (left.length + 1)).map fun cell =>
    ⟨row + above.length, cell.2, cell.1⟩) ++ placedFrom (row + above.length + 1) below, ?_⟩
  rw [placedFrom_append, placedFrom_append, placedFrom_cons, placedFrom_cons]
  simp [placedRow, placedFrom, List.zipIdx_append]

section Split

variable (header : List String) (above : Table) (left : List String) (text : String)
  (right : List String) (below : Table)

def around : Table := header :: (above ++ (left ++ text :: right) :: below)

theorem textAt?_around :
    textAt? (around header above left text right below) (above.length + 1) left.length =
      some text := by
  simp [textAt?, around]

theorem cutBefore_around :
    cutBefore (around header above left text right below) (above.length + 1) left.length =
      header :: (above ++ [left]) := by
  simp [cutBefore, around]

theorem cellsAbove_around :
    cellsAbove (around header above left text right below) (above.length + 1) =
      above.flatten.length := by
  simp [cellsAbove, around]

theorem cells_around :
    cells (around header above left text right below) =
      cells (header :: (above ++ [left])) ++ text :: (right ++ below.flatten) := by
  simp [cells, around]

theorem length_cells_in_front :
    (cells (header :: (above ++ [left]))).length = above.flatten.length + left.length := by
  simp [cells]

theorem mem_cells_of_textAt?_around {row column : Nat} {other : String} (hrow : 1 ≤ row)
    (h : textAt? (around header above left text right below) row column = some other)
    (hlt : row < above.length + 1 ∨ row = above.length + 1 ∧ column < left.length) :
    other ∈ cells (header :: (above ++ [left])) := by
  obtain ⟨row, rfl⟩ : ∃ n, row = n + 1 := ⟨row - 1, by omega⟩
  simp only [textAt?, around, List.getElem?_cons_succ, Option.bind_eq_some_iff] at h
  obtain ⟨texts, hr, hc⟩ := h
  simp only [cells, List.drop_succ_cons, List.drop_zero, List.flatten_append, List.mem_append,
    List.flatten_singleton]
  rcases hlt with hlt | ⟨heq, hcol⟩
  · rw [List.getElem?_append_left (by omega)] at hr
    exact Or.inl (List.mem_flatten.2 ⟨texts, List.mem_of_getElem? hr, List.mem_of_getElem? hc⟩)
  · obtain rfl : row = above.length := by omega
    rw [List.getElem?_append_right (Nat.le_refl _), Nat.sub_self, List.getElem?_cons_zero] at hr
    obtain rfl := Option.some.inj hr
    rw [List.getElem?_append_left hcol] at hc
    exact Or.inr (List.mem_of_getElem? hc)

end Split

end CycleTable.Table
