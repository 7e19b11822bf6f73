import CycleTable.Document
import Mathlib.Data.List.Count

/-! # Elements that are not shown

The text of a cell leaves out what some elements hold, a template for one. Rows and cells are
selected without a look at these elements, the content of a template included. An element that is
not shown can therefore be taken out of a document without a trace only if it holds no row, and no
cell where a row is around it. Otherwise its rows stand between those in front and those behind,
and its cells are cells of every row around it, so that all cells behind are numbered higher.
-/
namespace CycleTable

open Node (contentsAll)

/-- An element that is not shown is taken out of a list of nodes, with all it holds. The elements
around it are named from the outside in. -/
inductive Removal (content : List Node) : List String → List Node → List Node → Prop
  | here {tag : String} (htag : tag ∈ Layout.skipped) (nodes : List Node) :
    Removal content [] (.element tag content :: nodes) nodes
  | behind (node : Node) {around : List String} {nodes nodes' : List Node}
    (h : Removal content around nodes nodes') :
    Removal content around (node :: nodes) (node :: nodes')
  | inElement (tag : String) (nodes : List Node) {around : List String}
    {children children' : List Node} (h : Removal content around children children') :
    Removal content (tag :: around) (.element tag children :: nodes)
      (.element tag children' :: nodes)
  | inFragment (nodes : List Node) {around : List String} {children children' : List Node}
    (h : Removal content around children children') :
    Removal content around (.fragment children :: nodes) (.fragment children' :: nodes)

/-- Two lists agree but in so many places, where the members are related. -/
inductive Differ {α : Type} (related : α → α → Prop) : Nat → List α → List α → Prop
  | nil : Differ related 0 [] []
  | same (a : α) {n : Nat} {as as' : List α} (h : Differ related n as as') :
    Differ related n (a :: as) (a :: as')
  | other {a a' : α} (ha : related a a') {n : Nat} {as as' : List α} (h : Differ related n as as') :
    Differ related (n + 1) (a :: as) (a' :: as')

def Gains (cells row row' : List String) : Prop :=
  ∃ front rest, row = front ++ rest ∧ row' = front ++ cells ++ rest

namespace Differ

variable {α β : Type} {related : α → α → Prop} {n : Nat} {as as' : List α}

theorem append_left (front : List α) (h : Differ related n as as') :
    Differ related n (front ++ as) (front ++ as') := by
  induction front with
  | nil => exact h
  | cons a front ih => exact .same a ih

theorem map {f : α → β} {related' : β → β → Prop}
    (hf : ∀ a a', related a a' → related' (f a) (f a')) (h : Differ related n as as') :
    Differ related' n (as.map f) (as'.map f) := by
  induction h with
  | nil => exact .nil
  | same a h ih => exact .same (f a) ih
  | other ha h ih => exact .other (hf _ _ ha) ih

theorem eq_of_related (hrelated : 0 < n → ∀ a a', related a a' → a = a')
    (h : Differ related n as as') : as = as' := by
  induction h with
  | nil => rfl
  | same a h ih => rw [ih hrelated]
  | other ha h ih =>
    have heq := hrelated (Nat.succ_pos _)
    rw [heq _ _ ha, ih fun _ => heq]

theorem length_eq (h : Differ related n as as') : as.length = as'.length := by
  induction h with
  | nil => rfl
  | same a h ih => rw [List.length_cons, List.length_cons, ih]
  | other ha h ih => rw [List.length_cons, List.length_cons, ih]

theorem length_flatten {cells : List String} {n : Nat} {rows rows' : Table}
    (h : Differ (Gains cells) n rows rows') :
    rows'.flatten.length = rows.flatten.length + n * cells.length := by
  induction h with
  | nil => simp
  | same row h ih =>
    rw [List.flatten_cons, List.flatten_cons, List.length_append, List.length_append, ih]
    omega
  | other hrow h ih =>
    obtain ⟨front, rest, rfl, rfl⟩ := hrow
    simp only [List.flatten_cons, List.length_append, ih, Nat.add_mul, Nat.one_mul]
    omega

end Differ

namespace Removal

variable {content document document' nodes nodes' : List Node} {around : List String}

theorem piecesAll_eq (h : Removal content around nodes nodes') (rest : List Layout.Piece) :
    Layout.piecesAll nodes' rest = Layout.piecesAll nodes rest := by
  induction h generalizing rest with
  | here htag nodes =>
    rw [Layout.piecesAll, Layout.pieces, if_neg ?_, if_pos htag]
    rintro rfl
    exact absurd htag (by decide)
  | behind node h ih => rw [Layout.piecesAll, Layout.piecesAll, ih]
  | inElement tag nodes h ih => simp only [Layout.piecesAll, Layout.pieces, ih]
  | inFragment nodes h ih => rfl

theorem innerText_eq (h : Removal content around nodes nodes') :
    Layout.innerText nodes' = Layout.innerText nodes := by
  rw [Layout.innerText, Layout.innerText, h.piecesAll_eq]

/-- What is selected inside the element stands behind all that is selected around it. -/
theorem contentsAll_split (tag : String) (htag : tag ∉ Layout.skipped)
    (h : Removal content around nodes nodes') :
    ∃ before before' behind, contentsAll tag nodes = before ++ contentsAll tag content ++ behind ∧
      contentsAll tag nodes' = before' ++ behind ∧
      Differ (fun inner' inner => ∃ around, Removal content around inner inner') (around.count tag)
        before' before := by
  induction h with
  | @here name hname nodes =>
    have hne : name ≠ tag := by
      rintro rfl
      exact htag hname
    refine ⟨[], [], contentsAll tag nodes, ?_, rfl, .nil⟩
    rw [Node.contentsAll, Node.contents, if_neg hne, List.nil_append]
  | behind node h ih =>
    obtain ⟨before, before', behind, hnodes, hnodes', hdiffer⟩ := ih
    refine ⟨Node.contents tag node ++ before, Node.contents tag node ++ before', behind, ?_, ?_,
      hdiffer.append_left _⟩
    · rw [Node.contentsAll, hnodes, List.append_assoc, List.append_assoc, List.append_assoc]
    · rw [Node.contentsAll, hnodes', List.append_assoc]
  | @inElement name nodes around children children' h ih =>
    obtain ⟨before, before', behind, hchildren, hchildren', hdiffer⟩ := ih
    by_cases hname : name = tag
    · subst hname
      refine ⟨children :: before, children' :: before', behind ++ contentsAll name nodes, ?_, ?_, ?_⟩
      · rw [Node.contentsAll, Node.contents, if_pos rfl, hchildren]
        simp only [List.cons_append, List.append_assoc]
      · rw [Node.contentsAll, Node.contents, if_pos rfl, hchildren']
        simp only [List.cons_append, List.append_assoc]
      · rw [List.count_cons_self]
        exact .other ⟨around, h⟩ hdiffer
    · refine ⟨before, before', behind ++ contentsAll tag nodes, ?_, ?_, ?_⟩
      · rw [Node.contentsAll, Node.contents, if_neg hname, hchildren, List.append_assoc]
      · rw [Node.contentsAll, Node.contents, if_neg hname, hchildren', List.append_assoc]
      · rwa [List.count_cons_of_ne hname]
  | inFragment nodes h ih =>
    obtain ⟨before, before', behind, hchildren, hchildren', hdiffer⟩ := ih
    refine ⟨before, before', behind ++ contentsAll tag nodes, ?_, ?_, hdiffer⟩
    · rw [Node.contentsAll, Node.contents, hchildren, List.append_assoc]
    · rw [Node.contentsAll, Node.contents, hchildren', List.append_assoc]

theorem gains_cellTexts (h : Removal content around nodes nodes') :
    Gains (cellTexts content) (cellTexts nodes') (cellTexts nodes) := by
  obtain ⟨before, before', behind, hnodes, hnodes', hdiffer⟩ :=
    h.contentsAll_split "td" (by decide)
  have hsame : Differ Eq (around.count "td") (before'.map Layout.innerText)
      (before.map Layout.innerText) := by
    apply hdiffer.map
    rintro cell' cell ⟨around, hcell⟩
    exact hcell.innerText_eq
  have htexts := hsame.eq_of_related fun _ _ _ heq => heq
  refine ⟨before.map Layout.innerText, behind.map Layout.innerText, ?_, ?_⟩
  · rw [cellTexts, hnodes', List.map_append, htexts]
  · rw [cellTexts, hnodes, List.map_append, List.map_append, cellTexts]

theorem tableRows_split (h : Removal content around document document') :
    ∃ before before' behind, tableRows document = before ++ tableRows content ++ behind ∧
      tableRows document' = before' ++ behind ∧
      Differ (Gains (cellTexts content)) (around.count "tr") before' before := by
  obtain ⟨before, before', behind, hrows, hrows', hdiffer⟩ :=
    h.contentsAll_split "tr" (by decide)
  refine ⟨before.map cellTexts, before'.map cellTexts, behind.map cellTexts, ?_, ?_, ?_⟩
  · rw [tableRows, tableOfRows, hrows, List.map_append, List.map_append]
    rfl
  · rw [tableRows, tableOfRows, hrows', List.map_append]
  · apply hdiffer.map
    rintro row' row ⟨around, hrow⟩
    exact hrow.gains_cellTexts

theorem length_cells (h : Removal content around document document') :
    (tableRows document).flatten.length = (tableRows document').flatten.length +
      around.count "tr" * (cellTexts content).length + (tableRows content).flatten.length := by
  obtain ⟨before, before', behind, hrows, hrows', hdiffer⟩ := h.tableRows_split
  have hbefore := hdiffer.length_flatten
  simp only [hrows, hrows', List.flatten_append, List.length_append]
  omega

theorem tableRows_eq_iff (h : Removal content around document document') :
    tableRows document' = tableRows document ↔
      contentsAll "tr" content = [] ∧ ("tr" ∈ around → contentsAll "td" content = []) := by
  have hcells := h.length_cells
  obtain ⟨before, before', behind, hrows, hrows', hdiffer⟩ := h.tableRows_split
  constructor
  · intro heq
    rw [heq] at hcells
    have hlength := congrArg List.length (hrows'.symm.trans (heq.trans hrows))
    simp only [List.length_append, hdiffer.length_eq] at hlength
    constructor
    · rw [← List.length_eq_zero_iff, ← List.length_map cellTexts]
      have hnone : (tableRows content).length = 0 := by omega
      exact hnone
    · intro hrow
      have hcount := List.count_pos_iff.2 hrow
      have hnone : around.count "tr" * (cellTexts content).length = 0 := by omega
      rcases Nat.mul_eq_zero.1 hnone with hzero | hzero
      · omega
      · rwa [cellTexts, List.length_map, List.length_eq_zero_iff] at hzero
  · rintro ⟨hnoRow, hnoCell⟩
    have hbefore : before' = before := by
      apply hdiffer.eq_of_related
      rintro hcount row' row ⟨front, rest, rfl, rfl⟩
      rw [cellTexts, hnoCell (List.count_pos_iff.1 hcount), List.map_nil, List.append_nil]
    have hnone : tableRows content = [] := by rw [tableRows, hnoRow]; rfl
    rw [hrows, hrows', hbefore, hnone, List.append_nil]

/-- An element that is not shown is left out of every text around it. Its rows are rows of the
document still, between those in front of its end and those behind it, and its cells are cells of
each row around it. So it can be taken out without a trace exactly if it holds no row, and no cell
unless no row is around it. -/
theorem unshown_element_in_tableRows (h : Removal content around document document') :
    Layout.innerText document' = Layout.innerText document ∧
    (∃ before before' behind, tableRows document = before ++ tableRows content ++ behind ∧
      tableRows document' = before' ++ behind ∧
      Differ (Gains (cellTexts content)) (around.count "tr") before' before) ∧
    (tableRows document).flatten.length = (tableRows document').flatten.length +
      around.count "tr" * (cellTexts content).length + (tableRows content).flatten.length ∧
    (tableRows document' = tableRows document ↔
      contentsAll "tr" content = [] ∧ ("tr" ∈ around → contentsAll "td" content = [])) := by
  exact ⟨h.innerText_eq, h.tableRows_split, h.length_cells, h.tableRows_eq_iff⟩

end Removal

def templateInCell (content : List Node) : List Node :=
  [.element "table" [.element "tr"
    [.element "td" [.text "NOP", .element "template" content, .element "br" [], .text "1 4t"]]]]

def bareCell : List Node :=
  [.element "table" [.element "tr" [.element "td" [.text "NOP", .element "br" [], .text "1 4t"]]]]

theorem removal_from_cell (content : List Node) :
    Removal content ["table", "tr", "td"] (templateInCell content) bareCell := by
  have hskipped : "template" ∈ Layout.skipped := by decide
  exact .inElement "table" [] (.inElement "tr" [] (.inElement "td" [] (.behind _ (.here hskipped _))))

/-- A text in the template makes no difference, a cell in it does. -/
theorem template_in_cell :
    Removal [.fragment [.text "2 8t"]] ["table", "tr", "td"]
      (templateInCell [.fragment [.text "2 8t"]]) bareCell ∧
    tableRows bareCell = tableRows (templateInCell [.fragment [.text "2 8t"]]) ∧
    tableRows bareCell ≠ tableRows (templateInCell [.fragment [.element "td" []]]) := by
  have htext := removal_from_cell [.fragment [.text "2 8t"]]
  have hcell := removal_from_cell [.fragment [.element "td" []]]
  refine ⟨htext, ?_, ?_⟩
  · exact (Removal.unshown_element_in_tableRows htext).2.2.2.2 (by decide)
  · intro heq
    have hnone := ((Removal.unshown_element_in_tableRows hcell).2.2.2.1 heq).2 (by decide)
    cases hnone

def templateInTable : List Node :=
  [.element "table" [.element "tr" [.element "th" []],
    .element "template" [.fragment [.element "tr" [.element "td" [.text "X", .element "br" [],
      .text "1 8t"]]]],
    .element "tr" [.element "td" [.text "NOP", .element "br" [], .text "1 4t"]]]]

def bareTable : List Node :=
  [.element "table" [.element "tr" [.element "th" []],
    .element "tr" [.element "td" [.text "NOP", .element "br" [], .text "1 4t"]]]]

/-- The row in the template gets the first opcode, and the row behind it another one. -/
theorem template_row_in_tableRows :
    (∃ content, Removal content ["table"] templateInTable bareTable) ∧
    tableRows templateInTable = [[], ["X\n1 8t"], ["NOP\n1 4t"]] ∧
    tableRows bareTable = [[], ["NOP\n1 4t"]] ∧
    Scan.entries (tableRows templateInTable) .strict = .ok [⟨0, "X", 8, 8⟩, ⟨1, "NOP", 4, 4⟩] ∧
    Scan.entries (tableRows bareTable) .strict = .ok [⟨0, "NOP", 4, 4⟩] := by
  have hskipped : "template" ∈ Layout.skipped := by decide
  refine ⟨⟨_, .inElement "table" [] (.behind _ (.here hskipped _))⟩, ?_, ?_, ?_, ?_⟩
  all_goals decide +kernel

end CycleTable
