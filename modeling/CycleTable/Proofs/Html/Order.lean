import CycleTable.Html.Page
import Mathlib.Data.List.Sort

/-! # The order of the rows of a page

The rows of a page are listed in the order in which they were made. In the document that the page
is, rows stand in tree order. Both list the same rows in the same order if the reader has moved
no row in front of an older one and has taken none out of the tree. In any case every row of the
document is a row of the page, once.
-/
namespace CycleTable.Html

namespace Dom

variable {dom : Dom} {id parent other : NodeId} {way : List NodeId}

/-- The way from a node up to the document: its parent, the parent of that, and so on. -/
inductive Way (dom : Dom) : NodeId → List NodeId → Prop
  | document : Way dom root []
  | up {id parent : NodeId} {way : List NodeId} (hparent : dom.parent? id = some parent)
    (hway : Way dom parent way) : Way dom id (parent :: way)

theorem parent?_root : dom.parent? root = none := dom.linked.rootless

theorem Way.unique {way' : List NodeId} (h : dom.Way id way) (h' : dom.Way id way') :
    way = way' := by
  induction h generalizing way' with
  | document =>
    cases h' with
    | document => rfl
    | up hparent => cases parent?_root.symm.trans hparent
  | up hparent _ ih =>
    cases h' with
    | document => cases parent?_root.symm.trans hparent
    | up hparent' hway' =>
      obtain rfl := Option.some.inj (hparent.symm.trans hparent')
      rw [ih hway']

theorem Way.child (h : dom.Way parent way) (hid : id ∈ (dom.children parent).reverse) :
    dom.Way id (parent :: way) :=
  .up (mem_children_iff.1 (List.mem_reverse.1 hid)) h

theorem Way.lt_size (h : dom.Way id way) : id < dom.items.size := by
  cases h with
  | document => exact dom.linked.nonempty
  | up hparent => exact Items.lt_size_of_parent? hparent

theorem Way.of_mem (h : dom.Way id way) (hother : other ∈ way) :
    ∃ above, dom.Way other above ∧ above.length < way.length := by
  induction h with
  | document => cases hother
  | @up id parent way _ hway ih =>
    rcases List.mem_cons.1 hother with rfl | hother
    · exact ⟨way, hway, Nat.lt_succ_self _⟩
    · obtain ⟨above, habove, hlength⟩ := ih hother
      exact ⟨above, habove, Nat.lt_succ_of_lt hlength⟩

theorem Way.not_mem (h : dom.Way id way) : id ∉ way := by
  intro hmem
  obtain ⟨above, habove, hlength⟩ := h.of_mem hmem
  rw [h.unique habove] at hlength
  exact Nat.lt_irrefl _ hlength

theorem Way.nodup (h : dom.Way id way) : (id :: way).Nodup := by
  induction h with
  | document => exact List.nodup_singleton root
  | up hparent hway ih => exact List.nodup_cons.2 ⟨(Way.up hparent hway).not_mem, ih⟩

/-- No way is longer than the tree has nodes, so that the depth of a tree is bounded. -/
theorem Way.length_lt (h : dom.Way id way) : way.length < dom.items.size := by
  have hsubset : id :: way ⊆ List.range dom.items.size := by
    intro other hother
    rw [List.mem_range]
    rcases List.mem_cons.1 hother with rfl | hother
    · exact h.lt_size
    · obtain ⟨above, habove, -⟩ := h.of_mem hother
      exact habove.lt_size
  have hlength := (List.subperm_of_subset h.nodup hsubset).length_le
  rwa [List.length_range, List.length_cons] at hlength

theorem nodes_eq_of_deep {depth depth' : Nat} (h : dom.Way id way)
    (hdepth : dom.items.size ≤ depth + way.length)
    (hdepth' : dom.items.size ≤ depth' + way.length) :
    dom.nodes depth (dom.children id).reverse = dom.nodes depth' (dom.children id).reverse := by
  induction depth generalizing depth' id way with
  | zero =>
    have hlength := h.length_lt
    omega
  | succ depth ih =>
    cases depth' with
    | zero =>
      have hlength := h.length_lt
      omega
    | succ depth' =>
      rw [nodes, nodes]
      apply List.filterMap_congr
      intro child hchild
      have hsame : dom.nodes depth (dom.children child).reverse =
          dom.nodes depth' (dom.children child).reverse := by
        apply ih (h.child hchild)
        · rw [List.length_cons]
          omega
        · rw [List.length_cons]
          omega
      rw [hsame]

theorem below_eq (h : dom.Way id way) {depth : Nat} (hdepth : dom.items.size ≤ depth + way.length) :
    dom.nodes depth (dom.children id).reverse = dom.below id :=
  nodes_eq_of_deep h hdepth (Nat.le_add_right _ _)

def isOpen (dom : Dom) (id : NodeId) : Bool :=
  match dom.content? id with
  | some (.element _) | some .fragment => true
  | _ => false

/-- The nodes below a node, in tree order, as far as the document shows them. -/
def order (dom : Dom) : Nat → NodeId → List NodeId
  | 0, _ => []
  | depth + 1, parent =>
    (dom.children parent).reverse.flatMap fun id =>
      id :: if dom.isOpen id then order dom depth id else []

/-- The elements of the document with a tag, in tree order. -/
def placed (dom : Dom) (tag : String) : List NodeId :=
  (dom.order dom.items.size root).filter (dom.isElement tag)

theorem exists_way_of_mem_order {depth : Nat} (h : dom.Way parent way)
    (hid : id ∈ dom.order depth parent) :
    ∃ whole, dom.Way id whole ∧ parent :: way <:+ whole := by
  induction depth generalizing parent way with
  | zero => cases hid
  | succ depth ih =>
    rw [order, List.mem_flatMap] at hid
    obtain ⟨child, hchild, hid⟩ := hid
    rcases List.mem_cons.1 hid with rfl | hid
    · exact ⟨parent :: way, h.child hchild, List.suffix_refl _⟩
    · split at hid
      · obtain ⟨whole, hwhole, hsuffix⟩ := ih (h.child hchild) hid
        exact ⟨whole, hwhole, (List.suffix_cons child _).trans hsuffix⟩
      · cases hid

theorem order_nodup {depth : Nat} (h : dom.Way parent way) : (dom.order depth parent).Nodup := by
  induction depth generalizing parent way with
  | zero => exact List.nodup_nil
  | succ depth ih =>
    have hover : ∀ child ∈ (dom.children parent).reverse, ∀ id,
        (id ∈ child :: if dom.isOpen child then dom.order depth child else []) →
        ∃ whole, dom.Way id whole ∧ child :: parent :: way <:+ id :: whole := by
      intro child hchild id hid
      rcases List.mem_cons.1 hid with rfl | hid
      · exact ⟨parent :: way, h.child hchild, List.suffix_refl _⟩
      · split at hid
        · obtain ⟨whole, hwhole, hsuffix⟩ := exists_way_of_mem_order (h.child hchild) hid
          exact ⟨whole, hwhole, hsuffix.trans (List.suffix_cons id whole)⟩
        · cases hid
    rw [order, List.nodup_flatMap]
    constructor
    · intro child hchild
      rw [List.nodup_cons]
      split
      · refine ⟨?_, ih (h.child hchild)⟩
        intro hmem
        obtain ⟨whole, hwhole, hsuffix⟩ := exists_way_of_mem_order (h.child hchild) hmem
        exact hwhole.not_mem (hsuffix.subset List.mem_cons_self)
      · exact ⟨List.not_mem_nil, List.nodup_nil⟩
    · apply (List.nodup_reverse.2 (dom.linked.once parent)).imp_of_mem
      intro child child' hchild hchild' hne id hid hid'
      obtain ⟨whole, hwhole, hsuffix⟩ := hover child hchild id hid
      obtain ⟨whole', hwhole', hsuffix'⟩ := hover child' hchild' id hid'
      rw [← hwhole.unique hwhole'] at hsuffix'
      have hsame := List.suffix_of_suffix_length_le hsuffix hsuffix' (Nat.le_refl _)
      exact hne (List.cons.inj (hsame.eq_of_length rfl)).1

theorem contentsAll_filterMap (tag : String) (node? : NodeId → Option Node) (ids : List NodeId) :
    Node.contentsAll tag (ids.filterMap node?) =
      ids.flatMap fun id => Node.contentsAll tag (node? id).toList := by
  induction ids with
  | nil => rfl
  | cons id ids ih =>
    rw [List.flatMap_cons, ← ih]
    cases h : node? id with
    | none => rw [List.filterMap_cons_none h, Option.toList_none, Node.contentsAll, List.nil_append]
    | some node =>
      rw [List.filterMap_cons_some h, Option.toList_some, ← Node.contentsAll_append,
        List.singleton_append]

theorem contentsAll_nodes (tag : String) {depth : Nat} (h : dom.Way parent way)
    (hdepth : dom.items.size ≤ depth + way.length) :
    Node.contentsAll tag (dom.nodes depth (dom.children parent).reverse) =
      ((dom.order depth parent).filter (dom.isElement tag)).map dom.below := by
  induction depth generalizing parent way with
  | zero => rfl
  | succ depth ih =>
    rw [nodes, order, contentsAll_filterMap, List.filter_flatMap, List.map_flatMap]
    apply List.flatMap_congr
    intro child hchild
    have hway := h.child hchild
    have hchildDepth : dom.items.size ≤ depth + (parent :: way).length := by
      rw [List.length_cons]
      omega
    have hbelow := ih hway hchildDepth
    rw [below_eq hway hchildDepth] at hbelow ⊢
    cases hcontent : dom.content? child with
    | none => simp [node?, isOpen, isElement, hcontent, Node.contentsAll]
    | some content =>
      cases content with
      | document => simp [node?, isOpen, isElement, hcontent, Node.contentsAll]
      | text cs => simp [node?, isOpen, isElement, hcontent, Node.contentsAll, Node.contents]
      | comment text => simp [node?, isOpen, isElement, hcontent, Node.contentsAll, Node.contents]
      | fragment =>
        simp [node?, isOpen, isElement, hcontent, Node.contentsAll, Node.contents, hbelow]
      | element name =>
        by_cases hname : name = tag
        · simp [node?, isOpen, isElement, hcontent, Node.contentsAll, Node.contents, hname, hbelow]
        · simp [node?, isOpen, isElement, hcontent, Node.contentsAll, Node.contents, hname, hbelow]

theorem contentsAll_below_root (dom : Dom) (tag : String) :
    Node.contentsAll tag (dom.below root) = (dom.placed tag).map dom.below :=
  contentsAll_nodes tag Way.document (Nat.le_add_right _ _)

theorem placed_nodup (dom : Dom) (tag : String) : (dom.placed tag).Nodup :=
  (order_nodup Way.document).filter _

theorem mem_elements_iff {tag : String} : id ∈ dom.elements tag ↔
    id < dom.items.size ∧ dom.isElement tag id ∧ (dom.parent? id).isSome := by
  rw [elements, List.mem_filter, List.mem_range, Bool.and_eq_true]

theorem mem_elements_of_placed {tag : String} (h : id ∈ dom.placed tag) :
    id ∈ dom.elements tag := by
  obtain ⟨hid, htag⟩ := List.mem_filter.1 h
  obtain ⟨whole, hway, hsuffix⟩ := exists_way_of_mem_order Way.document hid
  rw [mem_elements_iff]
  refine ⟨hway.lt_size, htag, ?_⟩
  cases hway with
  | document => cases List.suffix_nil.1 hsuffix
  | up hparent => exact Option.isSome_of_eq_some hparent

/-- Elements with a tag that have been taken out of the tree, alone or with what is around
them. -/
def astray (dom : Dom) (tag : String) : List NodeId :=
  (dom.elements tag).filter (· ∉ dom.placed tag)

theorem elements_pairwise (dom : Dom) (tag : String) : (dom.elements tag).Pairwise (· < ·) :=
  List.pairwise_lt_range.filter _

theorem elements_perm (dom : Dom) (tag : String) :
    (dom.elements tag).Perm (dom.placed tag ++ dom.astray tag) := by
  have hnodup : (dom.elements tag).Nodup := (dom.elements_pairwise tag).imp Nat.ne_of_lt
  have hdisjoint : List.Disjoint (dom.placed tag) (dom.astray tag) := by
    intro id hplaced hastray
    simpa [hplaced] using (List.mem_filter.1 hastray).2
  have hboth : (dom.placed tag ++ dom.astray tag).Nodup :=
    (dom.placed_nodup tag).append (hnodup.filter _) hdisjoint
  rw [List.perm_ext_iff_of_nodup hnodup hboth]
  intro id
  rw [List.mem_append, astray, List.mem_filter, decide_eq_true_eq]
  constructor
  · intro hid
    by_cases hplaced : id ∈ dom.placed tag
    · exact Or.inl hplaced
    · exact Or.inr ⟨hid, hplaced⟩
  · rintro (hplaced | ⟨hid, -⟩)
    · exact mem_elements_of_placed hplaced
    · exact hid

/-- The elements with a tag stand in tree order if and only if none is astray and each was made
after those in front of it. -/
theorem elements_eq_placed_iff {tag : String} : dom.elements tag = dom.placed tag ↔
    dom.astray tag = [] ∧ (dom.placed tag).Pairwise (· < ·) := by
  constructor
  · intro h
    refine ⟨?_, h ▸ dom.elements_pairwise tag⟩
    rw [astray, List.filter_eq_nil_iff]
    intro id hid
    simpa [h] using hid
  · rintro ⟨hastray, hordered⟩
    have hperm := dom.elements_perm tag
    rw [hastray, List.append_nil] at hperm
    apply hperm.eq_of_pairwise _ (dom.elements_pairwise tag) hordered
    intro id other _ _ hlt hgt
    exact absurd hgt (Nat.lt_asymm hlt)

end Dom

/-- Every row of the document is a row of the page, and the others have been taken out of the
tree. -/
theorem rows_perm (page : String) : (rows page).Perm
    (Node.contentsAll "tr" (document page) ++
      ((parse page).astray "tr").map (parse page).below) := by
  rw [document, Dom.contentsAll_below_root, ← List.map_append]
  exact ((parse page).elements_perm "tr").map _

/-- The table of a page is the table of the document that it is, unless rows have been moved in
front of older ones or taken out. -/
theorem pageTable_eq_tableRows {page : String} (hastray : (parse page).astray "tr" = [])
    (hordered : ((parse page).placed "tr").Pairwise (· < ·)) :
    pageTable page = tableRows (document page) := by
  have hids := Dom.elements_eq_placed_iff.2 ⟨hastray, hordered⟩
  rw [pageTable, rows, hids, tableRows, document, Dom.contentsAll_below_root]

/-- A row that stands in a table outside its rows is moved in front of the table. -/
example :
    let page := "<table><tr><td>A<br>1 4t</td></tr><svg><tr><td>B</td></tr></svg></table>"
    pageTable page = [["A\n1 4t"], ["B"]] ∧
      tableRows (document page) = [["B"], ["A\n1 4t"]] := by
  decide +kernel

end CycleTable.Html
