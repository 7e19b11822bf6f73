import CycleTable.Document
import Mathlib.Data.List.Sort

/-! # Paths in a document

A node inside another one has a path: the children to take on the way down. A path in front of
another one, in the order of words, is the path of a node around the other or to its left. This
is document order. The elements with a tag are those that are selected, and in this order.
-/
namespace CycleTable

abbrev Path := List Nat

namespace Node

def children : Node → List Node
  | .text _ => []
  | .comment _ => []
  | .element _ children => children
  | .fragment children => children

def tag? : Node → Option String
  | .element tag _ => some tag
  | _ => none

def at? (node : Node) : Path → Option Node
  | [] => some node
  | i :: path => node.children[i]?.bind fun child => child.at? path

theorem at?_append (node : Node) (path below : Path) :
    node.at? (path ++ below) = (node.at? path).bind fun inner => inner.at? below := by
  induction path generalizing node with
  | nil => rfl
  | cons i path ih =>
    rw [List.cons_append, at?, at?]
    cases node.children[i]? with
    | none => rfl
    | some child => exact ih child

theorem induct {motive : Node → Prop}
    (h : ∀ node, (∀ child ∈ node.children, motive child) → motive node) :
    ∀ node, motive node
  | .text content => h (.text content) (by simp [children])
  | .comment content => h (.comment content) (by simp [children])
  | .element tag nodes => h (.element tag nodes) fun child (_ : child ∈ nodes) => induct h child
  | .fragment nodes => h (.fragment nodes) fun child (_ : child ∈ nodes) => induct h child

structure Found where
  path : Path
  node : Node

mutual

def preorder : Node → List Found
  | .text content => [⟨[], .text content⟩]
  | .comment content => [⟨[], .comment content⟩]
  | .element tag nodes => ⟨[], .element tag nodes⟩ :: preorderAll 0 nodes
  | .fragment nodes => ⟨[], .fragment nodes⟩ :: preorderAll 0 nodes

/-- A node and all below it, each with its path from the parent, whose children are counted
from `i` on. A node stands before those inside it. -/
def preorderAll (i : Nat) : List Node → List Found
  | [] => []
  | node :: nodes =>
    (preorder node).map (fun found => ⟨i :: found.path, found.node⟩) ++ preorderAll (i + 1) nodes

end

theorem preorder_eq (node : Node) : preorder node = ⟨[], node⟩ :: preorderAll 0 node.children := by
  cases node <;> rfl

theorem mem_preorderAll {nodes : List Node} {i : Nat} {path : Path} {node : Node} :
    ⟨path, node⟩ ∈ preorderAll i nodes ↔
      ∃ j child below, nodes[j]? = some child ∧ path = (i + j) :: below ∧
        ⟨below, node⟩ ∈ preorder child := by
  induction nodes generalizing i with
  | nil => simp [preorderAll]
  | cons first nodes ih =>
    rw [preorderAll, List.mem_append, List.mem_map, ih]
    constructor
    · rintro (⟨⟨below, inner⟩, hinner, h⟩ | ⟨j, child, below, hchild, rfl, hinner⟩)
      · obtain ⟨rfl, rfl⟩ := Found.mk.inj h
        exact ⟨0, first, below, rfl, rfl, hinner⟩
      · exact ⟨j + 1, child, below, hchild, by rw [Nat.add_right_comm, Nat.add_assoc], hinner⟩
    · rintro ⟨j, child, below, hchild, rfl, hinner⟩
      cases j with
      | zero =>
        obtain rfl := Option.some.inj hchild
        exact Or.inl ⟨⟨below, node⟩, hinner, rfl⟩
      | succ j =>
        exact Or.inr ⟨j, child, below, hchild, by rw [Nat.add_right_comm, Nat.add_assoc], hinner⟩

theorem mem_preorder {root node : Node} {path : Path} :
    ⟨path, node⟩ ∈ preorder root ↔ root.at? path = some node := by
  induction root using induct generalizing path with
  | h root ih =>
    rw [preorder_eq, List.mem_cons, mem_preorderAll]
    cases path with
    | nil => simp [at?, eq_comm]
    | cons i path =>
      simp only [at?, Option.bind_eq_some_iff, Found.mk.injEq, List.cons_ne_nil, false_and,
        false_or, Nat.zero_add]
      constructor
      · rintro ⟨j, child, below, hchild, hpath, hinner⟩
        obtain ⟨rfl, rfl⟩ := List.cons.inj hpath
        exact ⟨child, hchild, (ih child (List.mem_of_getElem? hchild)).1 hinner⟩
      · rintro ⟨child, hchild, hinner⟩
        exact ⟨i, child, path, hchild, rfl, (ih child (List.mem_of_getElem? hchild)).2 hinner⟩

theorem pairwise_preorderAll {nodes : List Node}
    (h : ∀ node ∈ nodes, (preorder node).Pairwise fun a b => a.path < b.path) (i : Nat) :
    (preorderAll i nodes).Pairwise fun a b => a.path < b.path := by
  induction nodes generalizing i with
  | nil => exact .nil
  | cons node nodes ih =>
    rw [preorderAll, List.pairwise_append, List.pairwise_map]
    refine ⟨?_, ih (fun inner hinner => h inner (List.mem_cons_of_mem _ hinner)) (i + 1), ?_⟩
    · exact (h node List.mem_cons_self).imp fun hlt => List.cons_lt_cons_iff.2 (Or.inr ⟨rfl, hlt⟩)
    · -- A child stands before all that is inside the children behind it.
      intro a ha b hb
      obtain ⟨found, -, rfl⟩ := List.mem_map.1 ha
      obtain ⟨j, child, below, -, hpath, -⟩ := mem_preorderAll.1 hb
      rw [hpath]
      exact List.cons_lt_cons_iff.2 (Or.inl (by omega))

theorem pairwise_preorder (root : Node) :
    (preorder root).Pairwise fun a b => a.path < b.path := by
  induction root using induct with
  | h root ih =>
    rw [preorder_eq, List.pairwise_cons]
    refine ⟨fun found hfound => ?_, pairwise_preorderAll ih 0⟩
    obtain ⟨j, child, below, -, hpath, -⟩ := mem_preorderAll.1 hfound
    rw [hpath]
    exact List.nil_lt_cons _ _

def tagged (tag : String) (root : Node) : List Found :=
  (preorder root).filter fun found => found.node.tag? == some tag

theorem mem_tagged {tag : String} {root : Node} {found : Found} :
    found ∈ tagged tag root ↔ root.at? found.path = some found.node ∧ found.node.tag? = some tag := by
  rw [tagged, List.mem_filter, ← mem_preorder, beq_iff_eq]

theorem contentsAll_eq_of_forall {tag : String} {nodes : List Node}
    (h : ∀ node ∈ nodes, contents tag node = (tagged tag node).map fun found => found.node.children)
    (i : Nat) :
    contentsAll tag nodes =
      ((preorderAll i nodes).filter fun found => found.node.tag? == some tag).map
        fun found => found.node.children := by
  induction nodes generalizing i with
  | nil => rfl
  | cons node nodes ih =>
    rw [contentsAll, preorderAll, List.filter_append, List.map_append, h node List.mem_cons_self,
      ih (fun inner hinner => h inner (List.mem_cons_of_mem _ hinner)) (i + 1), tagged,
      List.filter_map, List.map_map]
    rfl

/-- What is selected by a tag is what the elements with the tag hold, in document order. -/
theorem contents_eq_tagged (tag : String) (root : Node) :
    contents tag root = (tagged tag root).map fun found => found.node.children := by
  induction root using induct with
  | h root ih =>
    cases root with
    | text content => rfl
    | comment content => rfl
    | fragment nodes => exact contentsAll_eq_of_forall ih 0
    | element name nodes =>
      have hnodes : contentsAll tag nodes = _ := contentsAll_eq_of_forall ih 0
      rw [tagged, preorder_eq, contents]
      by_cases hname : name = tag
      · rw [if_pos hname, List.filter_cons_of_pos (by simp [tag?, hname]), hnodes]
        rfl
      · rw [if_neg hname, List.filter_cons_of_neg (by simp [tag?, hname]), hnodes]

end Node
end CycleTable
