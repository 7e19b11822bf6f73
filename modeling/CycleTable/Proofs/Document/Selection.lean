import CycleTable.Document
import CycleTable.Proofs.Document.Path

/-! # Which cells a row has

The rows of a document are its `tr` elements, and the cells of a row are the `td` elements below
it. The two are selected apart, so that a cell counts once for each row around it. If no row
stands inside another one, the cells of all rows are the cells below any row, each once and in
document order.
-/
namespace CycleTable

open Node (tagged)

namespace Document

def tagAt? (document : List Node) (path : Path) : Option String :=
  ((Node.fragment document).at? path).bind Node.tag?

def textAt (document : List Node) (path : Path) : String :=
  match (Node.fragment document).at? path with
  | some node => Layout.innerText node.children
  | none => ""

/-- The paths with a property are listed, each once and in document order. -/
structure Lists (paths : List Path) (P : Path → Prop) : Prop where
  ordered : paths.Pairwise (· < ·)
  exactly : ∀ path, path ∈ paths ↔ P path

def pathsOf (tag : String) (document : List Node) : List Path :=
  (tagged tag (.fragment document)).map fun found => found.path

/-- The paths of the cells below the row at a path. -/
def cellsBelow (document : List Node) (row : Path) : List Path :=
  (pathsOf "td" document).filter fun path => row.isPrefixOf path

def rowsAbove (document : List Node) (path : Path) : Nat :=
  (List.range path.length).countP fun n => tagAt? document (path.take n) == some "tr"

theorem Lists.nodup {paths : List Path} {P : Path → Prop} (h : Lists paths P) : paths.Nodup :=
  h.ordered.nodup

theorem Lists.eq {paths paths' : List Path} {P : Path → Prop} (h : Lists paths P)
    (h' : Lists paths' P) : paths = paths' :=
  h.ordered.eq_of_mem_iff h'.ordered fun path => (h.exactly path).trans (h'.exactly path).symm

theorem Lists.filter {paths : List Path} {P : Path → Prop} (h : Lists paths P)
    (p : Path → Bool) : Lists (paths.filter p) fun path => P path ∧ p path where
  ordered := h.ordered.filter p
  exactly path := by rw [List.mem_filter, h.exactly]

theorem lists_pathsOf (tag : String) (document : List Node) :
    Lists (pathsOf tag document) fun path => tagAt? document path = some tag where
  ordered := by
    rw [pathsOf, List.pairwise_map]
    exact (Node.pairwise_preorder _).filter _
  exactly path := by
    rw [pathsOf, List.mem_map, tagAt?, Option.bind_eq_some_iff]
    constructor
    · rintro ⟨found, hfound, rfl⟩
      exact ⟨found.node, Node.mem_tagged.1 hfound⟩
    · rintro ⟨node, hnode, htag⟩
      exact ⟨⟨path, node⟩, Node.mem_tagged.2 ⟨hnode, htag⟩, rfl⟩

theorem textAt_eq {document : List Node} {path : Path} {node : Node}
    (h : (Node.fragment document).at? path = some node) :
    textAt document path = Layout.innerText node.children := by
  rw [textAt, h]

theorem at?_append_of_some {document : List Node} {path : Path} {node : Node}
    (h : (Node.fragment document).at? path = some node) (below : Path) :
    (Node.fragment document).at? (path ++ below) = node.at? below := by
  rw [Node.at?_append, h, Option.bind_some]

theorem map_tagged_eq_cellsBelow {document : List Node} {row : Node.Found}
    (hrow : row ∈ tagged "tr" (.fragment document)) :
    (tagged "td" row.node).map (fun cell => row.path ++ cell.path) =
      cellsBelow document row.path := by
  obtain ⟨hnode, htag⟩ := Node.mem_tagged.1 hrow
  have hcells : Lists (cellsBelow document row.path) fun path =>
      tagAt? document path = some "td" ∧ row.path.isPrefixOf path :=
    (lists_pathsOf "td" document).filter _
  refine Lists.eq ⟨?_, fun path => ?_⟩ hcells
  · rw [List.pairwise_map]
    exact ((Node.pairwise_preorder row.node).filter _).imp fun hlt => List.append_left_lt hlt
  · rw [List.mem_map, List.isPrefixOf_iff_prefix, tagAt?, Option.bind_eq_some_iff]
    constructor
    · rintro ⟨cell, hcell, rfl⟩
      obtain ⟨hinner, hcelltag⟩ := Node.mem_tagged.1 hcell
      refine ⟨⟨cell.node, ?_, hcelltag⟩, List.prefix_append _ _⟩
      rw [at?_append_of_some hnode, hinner]
    · rintro ⟨⟨node, hat, hcelltag⟩, below, rfl⟩
      rw [at?_append_of_some hnode] at hat
      exact ⟨⟨below, node⟩, Node.mem_tagged.2 ⟨hat, hcelltag⟩, rfl⟩

theorem cellTexts_eq {document : List Node} {row : Node.Found}
    (hrow : row ∈ tagged "tr" (.fragment document)) :
    cellTexts row.node.children = (cellsBelow document row.path).map (textAt document) := by
  obtain ⟨hnode, htag⟩ := Node.mem_tagged.1 hrow
  -- The row itself is no cell, so that it makes no difference whether it is looked at.
  have hselect : Node.contentsAll "td" row.node.children = Node.contents "td" row.node := by
    cases hr : row.node with
    | element name children =>
      obtain rfl : name = "tr" := by simpa [hr, Node.tag?] using htag
      rfl
    | text content => rw [hr] at htag; cases htag
    | comment content => rw [hr] at htag; cases htag
    | fragment children => rw [hr] at htag; cases htag
  rw [cellTexts, hselect, Node.contents_eq_tagged, ← map_tagged_eq_cellsBelow hrow, List.map_map,
    List.map_map]
  refine List.map_congr_left fun cell hcell => ?_
  have hat : (Node.fragment document).at? (row.path ++ cell.path) = some cell.node := by
    rw [at?_append_of_some hnode, (Node.mem_tagged.1 hcell).1]
  exact (textAt_eq hat).symm

theorem tableRows_eq (document : List Node) :
    tableRows document =
      (pathsOf "tr" document).map fun row => (cellsBelow document row).map (textAt document) := by
  have hselect : Node.contentsAll "tr" document =
      (tagged "tr" (.fragment document)).map fun row => row.node.children :=
    Node.contents_eq_tagged "tr" (.fragment document)
  rw [tableRows, tableOfRows, hselect, pathsOf, List.map_map, List.map_map]
  exact List.map_congr_left fun row hrow => cellTexts_eq hrow

/-- For each row all cells below it, or for each cell all rows above it: the count is the same. -/
theorem count_flatMap_filter (rows cells : List Path) (path : Path) :
    (rows.flatMap fun row => cells.filter fun cell => row.isPrefixOf cell).count path =
      rows.countP (fun row => row.isPrefixOf path) * cells.count path := by
  induction rows with
  | nil => simp
  | cons row rows ih =>
    rw [List.flatMap_cons, List.count_append, ih, List.countP_cons, Nat.add_mul, Nat.add_comm]
    by_cases hrow : row.isPrefixOf path
    · rw [List.count_filter hrow, if_pos hrow, Nat.one_mul]
    · have hnot : path ∉ cells.filter fun cell => row.isPrefixOf cell := fun hmem =>
        hrow (List.mem_filter.1 hmem).2
      rw [List.count_eq_zero_of_not_mem hnot, if_neg hrow, Nat.zero_mul]

theorem count_pathsOf (tag : String) (document : List Node) (path : Path) :
    (pathsOf tag document).count path = if tagAt? document path = some tag then 1 else 0 := by
  have hlists := lists_pathsOf tag document
  rw [hlists.nodup.count]
  simp only [hlists.exactly]

theorem countP_isPrefixOf_eq {document : List Node} {path : Path}
    (hcell : tagAt? document path = some "td") :
    (pathsOf "tr" document).countP (fun row => row.isPrefixOf path) = rowsAbove document path := by
  have hrows := lists_pathsOf "tr" document
  let around := (List.range path.length).filter fun n => tagAt? document (path.take n) == some "tr"
  have hlengths : (around.map path.take).map List.length = around := by
    rw [List.map_map]
    refine (List.map_congr_left fun n hn => ?_).trans (List.map_id _)
    have := List.mem_range.1 (List.mem_filter.1 hn).1
    simp only [Function.comp_apply, List.length_take, id]
    omega
  have hnodup : (around.map path.take).Nodup := by
    apply List.Nodup.of_map List.length
    rw [hlengths]
    exact List.nodup_range.filter _
  have hperm : ((pathsOf "tr" document).filter fun row => row.isPrefixOf path).Perm
      (around.map path.take) := by
    refine (List.perm_ext_iff_of_nodup (hrows.nodup.filter _) hnodup).2 fun row => ?_
    simp only [around, List.mem_filter, List.mem_map, List.mem_range, hrows.exactly,
      List.isPrefixOf_iff_prefix, beq_iff_eq]
    constructor
    · rintro ⟨hrow, hpre⟩
      have htake : path.take row.length = row := (List.prefix_iff_eq_take.1 hpre).symm
      refine ⟨row.length, ⟨?_, by rwa [htake]⟩, htake⟩
      -- The row is not the cell, so that it is further up.
      refine Nat.lt_of_le_of_ne hpre.length_le fun heq => ?_
      rw [hpre.eq_of_length heq, hcell] at hrow
      exact absurd hrow (by decide)
    · rintro ⟨n, ⟨-, hrow⟩, rfl⟩
      exact ⟨hrow, List.take_prefix n path⟩
  rw [rowsAbove, List.countP_eq_length_filter, List.countP_eq_length_filter, hperm.length_eq,
    List.length_map]

theorem count_cells (document : List Node) (path : Path) :
    ((pathsOf "tr" document).flatMap (cellsBelow document)).count path =
      if tagAt? document path = some "td" then rowsAbove document path else 0 := by
  have hcount := count_flatMap_filter (pathsOf "tr" document) (pathsOf "td" document) path
  rw [count_pathsOf] at hcount
  by_cases hcell : tagAt? document path = some "td"
  · rw [if_pos hcell, Nat.mul_one, countP_isPrefixOf_eq hcell] at hcount
    rw [if_pos hcell]
    exact hcount
  · rw [if_neg hcell, Nat.mul_zero] at hcount
    rw [if_neg hcell]
    exact hcount

def FlatRows (document : List Node) : Prop :=
  ∀ path, tagAt? document path = some "tr" → rowsAbove document path = 0

theorem FlatRows.not_prefix {document : List Node} (h : FlatRows document) {row row' : Path}
    (hrow : tagAt? document row = some "tr") (hrow' : tagAt? document row' = some "tr")
    (hlt : row < row') : ¬ row <+: row' := by
  intro hpre
  have hlength : row.length < row'.length := by
    refine Nat.lt_of_le_of_ne hpre.length_le fun heq => ?_
    rw [hpre.eq_of_length heq] at hlt
    exact List.lt_irrefl _ hlt
  have hnone := List.countP_eq_zero.1 (h row' hrow') row.length (List.mem_range.2 hlength)
  rw [← List.prefix_iff_eq_take.1 hpre, hrow] at hnone
  exact hnone rfl

theorem append_lt_append {a b : Path} (hlt : a < b) (hnot : ¬ a <+: b) (x y : Path) :
    a ++ x < b ++ y := by
  induction a generalizing b with
  | nil => exact absurd (List.nil_prefix) hnot
  | cons i a ih =>
    cases b with
    | nil => exact absurd hlt (List.not_lt_nil _)
    | cons j b =>
      rw [List.cons_append, List.cons_append, List.cons_lt_cons_iff]
      rcases List.cons_lt_cons_iff.1 hlt with hij | ⟨rfl, hab⟩
      · exact Or.inl hij
      · refine Or.inr ⟨rfl, ih hab fun hpre => hnot ?_⟩
        exact List.cons_prefix_cons.2 ⟨rfl, hpre⟩

theorem FlatRows.pairwise_cells {document : List Node} (h : FlatRows document) :
    ((pathsOf "tr" document).flatMap (cellsBelow document)).Pairwise (· < ·) := by
  have hrows := lists_pathsOf "tr" document
  refine List.pairwise_flatMap.2 ⟨fun row _ => (lists_pathsOf "td" document).ordered.filter _, ?_⟩
  refine hrows.ordered.imp_of_mem fun hrow hrow' hlt cell hcell cell' hcell' => ?_
  have hnot := h.not_prefix ((hrows.exactly _).1 hrow) ((hrows.exactly _).1 hrow') hlt
  obtain ⟨below, rfl⟩ := List.isPrefixOf_iff_prefix.1 (List.mem_filter.1 hcell).2
  obtain ⟨below', rfl⟩ := List.isPrefixOf_iff_prefix.1 (List.mem_filter.1 hcell').2
  exact append_lt_append hlt hnot below below'

theorem FlatRows.flatMap_cellsBelow {document : List Node} (h : FlatRows document) :
    (pathsOf "tr" document).flatMap (cellsBelow document) =
      (pathsOf "td" document).filter fun path => 0 < rowsAbove document path := by
  have hcells := (lists_pathsOf "td" document).filter fun path => 0 < rowsAbove document path
  refine Lists.eq ⟨h.pairwise_cells, fun path => ?_⟩ hcells
  rw [← List.count_pos_iff, count_cells, decide_eq_true_iff]
  split
  next hcell => exact ⟨fun hpos => ⟨hcell, hpos⟩, fun hboth => hboth.2⟩
  next hcell => exact ⟨fun hpos => absurd hpos (Nat.lt_irrefl 0), fun hboth => absurd hboth.1 hcell⟩

/-- There is a row for each `tr` element, in document order, with the texts of the `td` elements
below it. A cell counts once for each row around it. If rows do not stand inside one another, the
texts of all rows are those of the cells with a row around them, each once and in document
order. -/
theorem tableRows_by_paths (document : List Node) :
    (∀ tag, Lists (pathsOf tag document) fun path => tagAt? document path = some tag) ∧
    tableRows document =
      (pathsOf "tr" document).map (fun row => (cellsBelow document row).map (textAt document)) ∧
    (∀ path, ((pathsOf "tr" document).flatMap (cellsBelow document)).count path =
      if tagAt? document path = some "td" then rowsAbove document path else 0) ∧
    (FlatRows document → (tableRows document).flatten =
      ((pathsOf "td" document).filter fun path => 0 < rowsAbove document path).map
        (textAt document)) ∧
    (tableRows document).length = (pathsOf "tr" document).length := by
  have hrows := tableRows_eq document
  refine ⟨fun tag => lists_pathsOf tag document, hrows, count_cells document, fun hflat => ?_, ?_⟩
  · rw [← hflat.flatMap_cellsBelow, hrows, List.map_flatMap, List.flatMap_def]
  · rw [hrows, List.length_map]

/-- The cells of a row inside a cell count for the outer row as well. -/
example : tableRows
    [.element "tr"
      [.element "td" [.element "table" [.element "tr" [.element "td" [.text "1"]]], .text "2"],
        .element "td" [.text "3"]]] =
    [["1\n2", "1", "3"], ["1"]] := by
  decide +kernel

end Document
end CycleTable
