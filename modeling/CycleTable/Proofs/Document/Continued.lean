import CycleTable.Proofs.Document.Page
import CycleTable.Proofs.Scan.Moved

/-! # One table behind another

What stands behind the tables of a document is scanned as one table with them. Only the first row
of all is a header row, so that the first row of a second table gives its cells. They are
numbered on from the cells in front, and their rows are counted on from the rows in front.
-/
namespace CycleTable

namespace Scan

/-- The scan of two documents in a row, the first of which has a row: an error in the first is
the error of both, and otherwise the outcome of the second is moved on by the cells and the rows
of the first. Numbers stay in range. -/
theorem numbering_continues {front behind : List Node} (policy : Policy) (header : List String)
    (hrow : Node.anyHolds "tr" front)
    (hsize : (tableRows (front ++ behind)).cells.length < UInt32.size) :
    tableRows (front ++ behind) = tableRows front ++ tableRows behind ∧
    (tableRows (front ++ behind)).cells =
      (tableRows front).cells ++ (tableRows behind).flatten ∧
    (∀ e, entries (tableRows front) policy = .error e →
      entries (tableRows (front ++ behind)) policy = .error e) ∧
    (∀ es es', entries (tableRows front) policy = .ok es →
      entries (header :: tableRows behind) policy = .ok es' →
      entries (tableRows (front ++ behind)) policy =
        .ok (es ++ es'.map (Entry.moved (UInt32.ofNat es.length))) ∧
      ∀ e ∈ es', (e.moved (UInt32.ofNat es.length)).opcode.toNat = e.opcode.toNat + es.length) ∧
    (∀ es e, entries (tableRows front) policy = .ok es →
      entries (header :: tableRows behind) policy = .error e →
      ∃ opcode, opcode.toNat = e.opcode.toNat + es.length ∧
        entries (tableRows (front ++ behind)) policy =
          .error ⟨opcode, e.row + (tableRows front).length - 1, e.column, e.source⟩) := by
  have hfront : tableRows front ≠ [] := by
    intro hnil
    have hnone : Node.contentsAll "tr" front = [] := List.map_eq_nil_iff.1 hnil
    rw [Node.contentsAll_eq_nil_iff, hrow] at hnone
    cases hnone
  have hcells := Table.cells_append hfront (tableRows behind)
  have hheader : Table.cells (header :: tableRows behind) = (tableRows behind).flatten := rfl
  rw [tableRows_append] at hsize ⊢
  rw [hcells, List.length_append] at hsize
  have hbelow : (Table.cells (header :: tableRows behind)).length < UInt32.size := by
    rw [hheader]
    omega
  refine ⟨rfl, hcells, fun e he => entries_append_of_error _ _ hfront he, ?_, ?_⟩
  · intro es es' hes hes'
    refine ⟨entries_append_of_ok _ _ header hfront hes hes', fun e he => ?_⟩
    have hopcode := opcode_lt_of_entries hes' hbelow he
    rw [hheader] at hopcode
    rw [length_of_entries hes]
    exact toNat_add_ofNat (by omega)
  · intro es e hes he
    have hopcode := opcode_lt_of_entries_error he hbelow
    have hlength := length_of_entries hes
    have hrows := List.length_pos_iff.2 hfront
    rw [hheader] at hopcode
    refine ⟨e.opcode + UInt32.ofNat es.length, toNat_add_ofNat (by omega), ?_⟩
    rw [entries_append_of_error_below _ _ header hfront hes he, ScanError.moved,
      Nat.add_sub_assoc hrows]

def upperTable : List Node :=
  [.element "table"
    [.element "tr" [.element "th" [.text "x0"]],
      .element "tr" [.element "td" [.text "NOP", .element "br" [], .text "1 4t"]]]]

def lowerTable : List Node :=
  [.element "table"
    [.element "tr" [.element "td" [.text "RLC B", .element "br" [], .text "2 8t"]],
      .element "tr" [.element "td" [.text "???"]]]]

theorem numbering_continues_in_lower_table :
    Node.anyHolds "tr" upperTable ∧
    (tableRows (upperTable ++ lowerTable)).cells.length < UInt32.size ∧
    ∃ opcode : UInt32, opcode.toNat = 2 ∧
      entries (tableRows (upperTable ++ lowerTable)) .strict =
        .error ⟨opcode, 3, 0, .missingTimingLine⟩ := by
  have hrow : Node.anyHolds "tr" upperTable := by decide
  have hsize : (tableRows (upperTable ++ lowerTable)).cells.length < UInt32.size := by decide
  have hupper : entries (tableRows upperTable) .strict = .ok [⟨0, "NOP", 4, 4⟩] := by
    decide +kernel
  have hlower : entries ([] :: tableRows lowerTable) .strict =
      .error ⟨1, 2, 0, .missingTimingLine⟩ := by
    decide +kernel
  obtain ⟨-, -, -, -, hbelow⟩ := numbering_continues .strict [] hrow hsize
  exact ⟨hrow, hsize, hbelow _ _ hupper hlower⟩

end Scan
end CycleTable
