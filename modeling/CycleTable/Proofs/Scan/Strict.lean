import CycleTable.Proofs.Scan.Position
import CycleTable.Proofs.Scan.Run

/-! # Where a strict scan stops

A strict scan gives what a lenient one gives, if every cell can be read. If not, it fails at
the first cell that cannot be read, in the order of rows and then columns, and names its place
and its number. Up to that cell both scans give the same entries.
-/
namespace CycleTable

open Timing (Accepted rejects entryOf)

namespace Table

/-- The first place behind the header row whose text cannot be read, row by row, and why. -/
structure FirstRejected (rows : Table) (row column : Nat) (source : CellError) : Prop where
  behindHeader : 1 ≤ row
  rejected : ∃ text, rows.textAt? row column = some text ∧ Timing.parse text = .error source
  first : ∀ r c text, 1 ≤ r → rows.textAt? r c = some text →
    r < row ∨ r = row ∧ c < column → Accepted text

theorem exists_around_of_not_accepted {rows : Table} (h : ¬ ∀ text ∈ rows.cells, Accepted text) :
    ∃ header above left text right below source,
      rows = around header above left text right below ∧
      (∀ t ∈ cells (header :: (above ++ [left])), Accepted t) ∧
      Timing.parse text = .error source := by
  -- The first row with such a cell, and then the first such cell of that row.
  have hrow : ((rows.drop 1).find? (·.any rejects)).isSome := by
    rw [List.find?_isSome]
    by_contra hnone
    refine h fun text htext => Timing.not_rejects_iff.1 ?_
    obtain ⟨texts, htexts, hmem⟩ := List.mem_flatten.1 htext
    by_contra hrejects
    exact hnone ⟨texts, htexts, List.any_eq_true.2 ⟨text, hmem, by simpa using hrejects⟩⟩
  obtain ⟨texts, hfind⟩ := Option.isSome_iff_exists.1 hrow
  obtain ⟨hany, above, below, hsplit, habove⟩ := List.find?_eq_some_iff_append.1 hfind
  obtain ⟨text, hfind'⟩ :=
    Option.isSome_iff_exists.1 (List.find?_isSome.2 (List.any_eq_true.1 hany))
  obtain ⟨hrejects, left, right, rfl, hleft⟩ := List.find?_eq_some_iff_append.1 hfind'
  obtain ⟨source, hsource⟩ := Timing.rejects_iff.1 hrejects
  cases rows with
  | nil => simp at hsplit
  | cons header rows =>
    refine ⟨header, above, left, text, right, below, source, ?_, fun t ht => ?_, hsource⟩
    · rw [around, ← hsplit]
      rfl
    · apply Timing.not_rejects_iff.1
      simp only [cells, List.drop_succ_cons, List.drop_zero, List.flatten_append,
        List.flatten_singleton, List.mem_append, List.mem_flatten] at ht
      rcases ht with ⟨row, hr, ht⟩ | ht
      · simpa using List.any_eq_false.1 (by simpa using habove row hr) t ht
      · simpa using hleft t ht

end Table

namespace Scan

open Table (around cells)

theorem lenient_entries (rows : Table) : entries rows .lenient = .ok (numbered 0 rows.cells) := by
  rw [entries_eq, result_of_readable 0 fun c _ => Or.inl rfl, Table.map_text_placedCells]

theorem lenient_entries_of_ok {rows : Table} {policy : Policy} {es : List Entry}
    (h : entries rows policy = .ok es) : entries rows .lenient = .ok es := by
  rw [entries_eq] at h
  rw [lenient_entries, eq_numbered_of_ok h, Table.map_text_placedCells]

theorem entries_of_accepted {rows : Table} (policy : Policy)
    (h : ∀ text ∈ rows.cells, Accepted text) :
    entries rows policy = .ok (numbered 0 rows.cells) := by
  have hcells : ∀ c ∈ rows.placedCells, Accepted c.text := by
    intro c hc
    apply h
    rw [← Table.map_text_placedCells]
    exact List.mem_map_of_mem hc
  rw [entries_eq, result_of_readable 0 fun c hc => Or.inr (hcells c hc),
    Table.map_text_placedCells]

theorem strict_entries_around {header : List String} {above : Table} {left : List String}
    {text : String} (right : List String) (below : Table) {source : CellError}
    (haccepted : ∀ t ∈ cells (header :: (above ++ [left])), Accepted t)
    (hsource : Timing.parse text = .error source) :
    entries (around header above left text right below) .strict =
      .error ⟨UInt32.ofNat (above.flatten.length + left.length), above.length + 1, left.length,
        source⟩ := by
  obtain ⟨behind, hsplit⟩ := Table.placedFrom_split 1 above left text right below
  have hbefore : ∀ d ∈ Table.placedFrom 1 (above ++ [left]), Accepted d.text := by
    intro d hd
    apply haccepted
    rw [cells, List.drop_one, List.tail_cons, ← Table.map_text_placedFrom 1]
    exact List.mem_map_of_mem hd
  have hlength : (Table.placedFrom 1 (above ++ [left])).length =
      above.flatten.length + left.length := by
    rw [← List.length_map (·.text), Table.map_text_placedFrom, List.flatten_append,
      List.length_append, List.flatten_singleton]
  have hzero : ∀ n, (0 : UInt32) + UInt32.ofNat n = UInt32.ofNat n := fun n => UInt32.zero_add _
  let c : PlacedCell := ⟨1 + above.length, left.length, text⟩
  have hc : Timing.parse c.text = .error source := hsource
  rw [entries_eq, Table.placedCells_eq, around, List.drop_one, List.tail_cons, hsplit,
    strict_result_of_error 0 hbefore hc, hlength, hzero, Nat.add_comm above.length]

/-- An error stops a scan at the first cell that cannot be read. It bears the number of that
cell. The entries of a lenient scan go on from there with the invalid one, and those in front
are the result of a strict scan of the table in front. -/
structure StopsAt (rows : Table) (error : ScanError) (es : List Entry) : Prop where
  place : rows.FirstRejected error.row error.column error.source
  number : error.opcode.toNat = rows.cellsAbove error.row + error.column
  invalid : es[error.opcode.toNat]? = some (.invalid error.opcode)
  inFront : entries (rows.cutBefore error.row error.column) .strict =
    .ok (es.take error.opcode.toNat)

theorem strict_failure {rows : Table} (h : rows.cells.length < UInt32.size)
    (hnot : ¬ ∀ text ∈ rows.cells, Accepted text) :
    ∃ error es, entries rows .strict = .error error ∧ entries rows .lenient = .ok es ∧
      StopsAt rows error es := by
  obtain ⟨header, above, left, text, right, below, source, rfl, haccepted, hsource⟩ :=
    Table.exists_around_of_not_accepted hnot
  have hfront := Table.length_cells_in_front header above left
  have hcells := Table.cells_around header above left text right below
  have hnumber : (UInt32.ofNat (above.flatten.length + left.length)).toNat =
      above.flatten.length + left.length := by
    apply UInt32.toNat_ofNat_of_lt'
    rw [hcells, List.length_append, hfront] at h
    omega
  refine ⟨_, _, strict_entries_around right below haccepted hsource, lenient_entries _,
    ?_, ?_, ?_, ?_⟩
  · refine ⟨Nat.succ_pos _, ⟨text, Table.textAt?_around .., hsource⟩, fun r c t hr ht hlt => ?_⟩
    exact haccepted t (Table.mem_cells_of_textAt?_around _ _ _ _ _ _ hr ht hlt)
  · rw [hnumber, Table.cellsAbove_around]
  · rw [hnumber, getElem?_numbered, hcells, List.getElem?_append_right (Nat.le_of_eq hfront),
      hfront, Nat.sub_self, List.getElem?_cons_zero, Option.map_some,
      Timing.entryOf_of_error hsource]
  · rw [hnumber, Table.cutBefore_around, entries_of_accepted .strict haccepted, hcells, ← hfront,
      take_numbered]

/-- A strict scan succeeds exactly if every cell can be read, and then it gives what a lenient
one gives. If not, it stops at the first cell that cannot be read. -/
theorem strict_scan_stops_at_first_rejected (rows : Table) (h : rows.cells.length < UInt32.size) :
    ((∃ es, entries rows .strict = .ok es) ↔ ∀ text ∈ rows.cells, Accepted text) ∧
    ((∀ text ∈ rows.cells, Accepted text) → entries rows .strict = entries rows .lenient) ∧
    ((¬ ∀ text ∈ rows.cells, Accepted text) → ∃ error es,
      entries rows .strict = .error error ∧ entries rows .lenient = .ok es ∧
      StopsAt rows error es) := by
  refine ⟨⟨?_, fun hall => ⟨_, entries_of_accepted .strict hall⟩⟩, ?_, strict_failure h⟩
  · rintro ⟨es, hes⟩
    by_contra hnot
    obtain ⟨error, _, herror, -⟩ := strict_failure h hnot
    rw [hes] at herror
    cases herror
  · intro hall
    rw [entries_of_accepted .strict hall, lenient_entries]

/-- Rows of different lengths, one of them empty. Two cells cannot be read, and one is read but
names itself invalid. -/
def raggedTable : Table :=
  [["x0", "x1"], ["<invalid>\nc 0"], [], ["BEQ\ncycles: 2-3", "???", "BAD\ncycles: x"]]

theorem strict_scan_stops_in_ragged_table :
    raggedTable.cells.length < UInt32.size ∧ (¬ ∀ text ∈ raggedTable.cells, Accepted text) ∧
    ∃ error es, entries raggedTable .strict = .error error ∧
      entries raggedTable .lenient = .ok es ∧ StopsAt raggedTable error es := by
  have hsize : raggedTable.cells.length < UInt32.size := by decide
  have hnot : ¬ ∀ text ∈ raggedTable.cells, Accepted text := by
    intro hall
    obtain ⟨timing, htiming⟩ := hall "???" (by decide)
    cases htiming
  exact ⟨hsize, hnot, (strict_scan_stops_at_first_rejected raggedTable hsize).2.2 hnot⟩

end Scan
end CycleTable
