import CycleTable.Document

/-! # Trees under construction

While a page is read, nodes are made, moved and taken out. They are kept in one array, in the
order in which they were made, and refer to each other by their places in it. Place 0 is the
document. Children and characters are listed with the last one first.

A link is kept at both of its ends. No change of a tree can break one of them only: a tree holds
the proof that they agree.
-/
namespace CycleTable.Html

abbrev NodeId := Nat

inductive Content where
  | document
  | text (characters : List Char)
  | comment (content : String)
  | element (tag : String)
  | fragment
  deriving DecidableEq, Repr

def Content.addChar (c : Char) : Content → Content
  | .text cs => .text (c :: cs)
  | content => content

structure Item where
  content : Content
  parent : Option NodeId
  children : List NodeId
  deriving Repr

inductive Spot where
  | inside (parent : NodeId)
  | before (sibling : NodeId)
  deriving DecidableEq, Repr

/-! ## Links -/

namespace Items

variable {items : Array Item} {id parent : NodeId}

def parent? (items : Array Item) (id : NodeId) : Option NodeId := items[id]? >>= Item.parent

def children (items : Array Item) (id : NodeId) : List NodeId :=
  (items[id]?.map Item.children).getD []

def setParent (items : Array Item) (id : NodeId) (parent : Option NodeId) : Array Item :=
  items.modify id fun item => { item with parent := parent }

def changeChildren (items : Array Item) (id : NodeId) (change : List NodeId → List NodeId) :
    Array Item :=
  items.modify id fun item => { item with children := change item.children }

theorem lt_size_of_parent? (h : parent? items id = some parent) : id < items.size := by
  apply Nat.lt_of_not_le
  intro hle
  simp [parent?, hle] at h

theorem lt_size_of_mem_children {child : NodeId} (h : child ∈ children items id) :
    id < items.size := by
  apply Nat.lt_of_not_le
  intro hle
  simp [children, hle] at h

theorem parent?_setParent (hid : id < items.size) (new : Option NodeId) (other : NodeId) :
    parent? (setParent items id new) other = if other = id then new else parent? items other := by
  by_cases h : other = id
  · subst h
    rw [parent?, setParent, Array.getElem?_modify, Array.getElem?_eq_getElem hid, if_pos rfl,
      if_pos rfl]
    rfl
  · simp [parent?, setParent, Array.getElem?_modify, h, Ne.symm h]

@[simp] theorem children_setParent (new : Option NodeId) (other : NodeId) :
    children (setParent items id new) other = children items other := by
  simp only [children, setParent, Array.getElem?_modify]
  split
  · rw [Option.map_map]
    rfl
  · rfl

@[simp] theorem parent?_changeChildren (change : List NodeId → List NodeId) (other : NodeId) :
    parent? (changeChildren items id change) other = parent? items other := by
  simp only [parent?, changeChildren, Array.getElem?_modify]
  split
  · cases items[other]? <;> rfl
  · rfl

theorem children_changeChildren (hid : id < items.size) (change : List NodeId → List NodeId)
    (other : NodeId) : children (changeChildren items id change) other =
      if other = id then change (children items other) else children items other := by
  by_cases h : other = id
  · subst h
    rw [children, children, changeChildren, Array.getElem?_modify, Array.getElem?_eq_getElem hid,
      if_pos rfl, if_pos rfl]
    rfl
  · simp [children, changeChildren, Array.getElem?_modify, h, Ne.symm h]

/-- A node is listed below its parent, once, and nowhere else. The document has no parent. -/
structure Linked (items : Array Item) : Prop where
  listed : ∀ parent id, id ∈ children items parent ↔ parent? items id = some parent
  once : ∀ parent, (children items parent).Nodup
  rootless : parent? items 0 = none
  nonempty : 0 < items.size

def detach (items : Array Item) (id : NodeId) : Array Item :=
  match parent? items id with
  | none => items
  | some parent => setParent (changeChildren items parent (·.filter (· != id))) id none

def attach (items : Array Item) (parent id : NodeId) (place : List NodeId → List NodeId) :
    Array Item :=
  changeChildren (setParent items id (some parent)) parent place

@[simp] theorem size_detach : (detach items id).size = items.size := by
  unfold detach
  split
  · rfl
  · simp [setParent, changeChildren]

theorem parent?_detach (other : NodeId) :
    parent? (detach items id) other = if other = id then none else parent? items other := by
  unfold detach
  split
  · rename_i hnone
    split
    · subst other
      exact hnone
    · rfl
  · rename_i hsome
    rw [parent?_setParent (by simpa [changeChildren] using lt_size_of_parent? hsome),
      parent?_changeChildren]

theorem children_detach (h : Linked items) (other : NodeId) :
    children (detach items id) other = (children items other).filter (· != id) := by
  have hkeep : parent? items id ≠ some other →
      (children items other).filter (· != id) = children items other := by
    intro hother
    apply List.filter_eq_self.2
    intro child hchild
    have hne : child ≠ id := by
      rintro rfl
      exact hother ((h.listed other child).1 hchild)
    simpa using hne
  unfold detach
  split
  · rename_i hnone
    exact (hkeep (by simp [hnone])).symm
  · rename_i parent hsome
    have hlt := lt_size_of_mem_children ((h.listed parent id).2 hsome)
    rw [children_setParent, children_changeChildren hlt]
    by_cases hparent : other = parent
    · rw [if_pos hparent]
    · rw [if_neg hparent, hkeep]
      rw [hsome]
      intro heq
      exact hparent (Option.some.inj heq).symm

theorem Linked.detach (h : Linked items) (id : NodeId) : Linked (Items.detach items id) where
  listed parent other := by
    rw [children_detach h, parent?_detach, List.mem_filter, h.listed]
    by_cases hid : other = id
    · simp [hid]
    · simp [hid]
  once parent := by
    rw [children_detach h]
    exact (h.once parent).filter _
  rootless := by
    rw [parent?_detach, h.rootless, ite_self]
  nonempty := by
    rw [size_detach]
    exact h.nonempty

theorem Linked.attach (h : Linked items) {place : List NodeId → List NodeId}
    (hfree : parent? items id = none) (hroot : id ≠ 0) (hid : id < items.size)
    (hparent : parent < items.size)
    (hplace : (place (children items parent)).Perm (id :: children items parent)) :
    Linked (Items.attach items parent id place) := by
  have hparents : ∀ other, parent? (Items.attach items parent id place) other =
      if other = id then some parent else parent? items other := by
    intro other
    rw [Items.attach, parent?_changeChildren, parent?_setParent hid]
  have hchildren : ∀ other, children (Items.attach items parent id place) other =
      if other = parent then place (children items other) else children items other := by
    intro other
    rw [Items.attach, children_changeChildren (by simpa [setParent] using hparent),
      children_setParent]
  have hnew : ∀ other, id ∉ children items other := by
    intro other hmem
    cases hfree.symm.trans ((h.listed other id).1 hmem)
  refine ⟨?_, ?_, ?_, ?_⟩
  · intro above other
    rw [hparents, hchildren]
    by_cases habove : above = parent
    · subst habove
      rw [if_pos rfl, hplace.mem_iff, List.mem_cons, h.listed]
      by_cases hother : other = id
      · simp [hother]
      · simp [hother]
    · rw [if_neg habove, h.listed]
      by_cases hother : other = id
      · subst hother
        simp [hfree, Ne.symm habove]
      · rw [if_neg hother]
  · intro above
    rw [hchildren]
    by_cases habove : above = parent
    · subst habove
      rw [if_pos rfl, hplace.nodup_iff, List.nodup_cons]
      exact ⟨hnew above, h.once above⟩
    · rw [if_neg habove]
      exact h.once above
  · rw [hparents, if_neg (Ne.symm hroot)]
    exact h.rootless
  · simpa [Items.attach, changeChildren, setParent] using h.nonempty

theorem Linked.of_same {items' : Array Item} (h : Linked items)
    (hparent : ∀ id, parent? items' id = parent? items id)
    (hchildren : ∀ id, children items' id = children items id) (hsize : 0 < items'.size) :
    Linked items' where
  listed parent id := by
    rw [hparent, hchildren]
    exact h.listed parent id
  once parent := by
    rw [hchildren]
    exact h.once parent
  rootless := by
    rw [hparent]
    exact h.rootless
  nonempty := hsize

theorem Linked.push (h : Linked items) (content : Content) :
    Linked (items.push ⟨content, none, []⟩) := by
  apply h.of_same
  · intro id
    simp only [parent?, Array.getElem?_push]
    split
    · subst id
      simp
    · rfl
  · intro id
    simp only [children, Array.getElem?_push]
    split
    · subst id
      simp
    · rfl
  · simp

theorem Linked.changeContent (h : Linked items) (id : NodeId) (change : Content → Content) :
    Linked (items.modify id fun item => { item with content := change item.content }) := by
  apply h.of_same
  · intro other
    simp only [parent?, Array.getElem?_modify]
    split
    · cases items[other]? <;> rfl
    · rfl
  · intro other
    simp only [children, Array.getElem?_modify]
    split
    · rw [Option.map_map]
      rfl
    · rfl
  · rw [Array.size_modify]
    exact h.nonempty

end Items

/-! ## Trees -/

structure Dom where
  items : Array Item
  linked : Items.Linked items

namespace Dom

def root : NodeId := 0

def parent? (dom : Dom) (id : NodeId) : Option NodeId := Items.parent? dom.items id

/-- The children of a node, the last one first. -/
def children (dom : Dom) (id : NodeId) : List NodeId := Items.children dom.items id

theorem mem_children_iff {dom : Dom} {parent id : NodeId} :
    id ∈ dom.children parent ↔ dom.parent? id = some parent :=
  dom.linked.listed parent id

def content? (dom : Dom) (id : NodeId) : Option Content := dom.items[id]?.map Item.content

def nextId (dom : Dom) : NodeId := dom.items.size

def empty : Dom where
  items := #[⟨.document, none, []⟩]
  linked := by
    refine ⟨?_, ?_, rfl, Nat.one_pos⟩
    · intro parent id
      cases parent <;> cases id <;> simp [Items.children, Items.parent?]
    · intro parent
      cases parent <;> simp [Items.children]

def push (dom : Dom) (content : Content) : Dom :=
  ⟨dom.items.push ⟨content, none, []⟩, dom.linked.push content⟩

def detach (dom : Dom) (id : NodeId) : Dom := ⟨Items.detach dom.items id, dom.linked.detach id⟩

theorem parent?_detach_self (dom : Dom) (id : NodeId) :
    Items.parent? (dom.detach id).items id = none := by
  rw [detach, Items.parent?_detach, if_pos rfl]

def Movable (dom : Dom) (id : NodeId) : Prop := id ≠ root ∧ id < dom.items.size

instance (dom : Dom) (id : NodeId) : Decidable (dom.Movable id) :=
  inferInstanceAs (Decidable (_ ∧ _))

def append (dom : Dom) (parent id : NodeId) : Dom :=
  let rest := dom.detach id
  if h : rest.Movable id ∧ parent < rest.items.size then
    ⟨Items.attach rest.items parent id (id :: ·),
      rest.linked.attach (dom.parent?_detach_self id) h.1.1 h.1.2 h.2 (List.Perm.refl _)⟩
  else rest

def putBehind (sibling id : NodeId) : List NodeId → List NodeId
  | [] => []
  | node :: nodes =>
    if node = sibling then node :: id :: nodes else node :: putBehind sibling id nodes

theorem putBehind_perm {sibling id : NodeId} {nodes : List NodeId} (h : sibling ∈ nodes) :
    (putBehind sibling id nodes).Perm (id :: nodes) := by
  induction nodes with
  | nil => cases h
  | cons node nodes ih =>
    rw [putBehind]
    by_cases hnode : node = sibling
    · rw [if_pos hnode]
      exact List.Perm.swap id node nodes
    · rw [if_neg hnode]
      have hrest : sibling ∈ nodes := (List.mem_cons.1 h).resolve_left (Ne.symm hnode)
      exact ((ih hrest).cons node).trans (List.Perm.swap id node nodes)

def insertBefore (dom : Dom) (sibling id : NodeId) : Dom :=
  let rest := dom.detach id
  match hsibling : rest.parent? sibling with
  | none => rest
  | some parent =>
    if h : rest.Movable id then
      have hmem : sibling ∈ rest.children parent := mem_children_iff.2 hsibling
      ⟨Items.attach rest.items parent id (putBehind sibling id),
        rest.linked.attach (dom.parent?_detach_self id) h.1 h.2
          (Items.lt_size_of_mem_children hmem) (putBehind_perm hmem)⟩
    else rest

def previous? (dom : Dom) (sibling : NodeId) : Option NodeId := do
  let parent ← dom.parent? sibling
  ((dom.children parent).dropWhile (· != sibling))[1]?

def isText (dom : Dom) (id : NodeId) : Bool :=
  match dom.items[id]? with
  | some ⟨.text _, _, _⟩ => true
  | _ => false

def put (dom : Dom) (id : NodeId) : Spot → Dom
  | .inside parent => dom.append parent id
  | .before sibling => dom.insertBefore sibling id

/-- The text that a character at a spot goes on with, if there is one. -/
def textAt? (dom : Dom) (spot : Spot) : Option NodeId :=
  let neighbour := match spot with
    | .inside parent => (dom.children parent).head?
    | .before sibling => dom.previous? sibling
  neighbour.filter dom.isText

def putChar (dom : Dom) (c : Char) (spot : Spot) : Dom :=
  match dom.textAt? spot with
  | some id =>
    ⟨dom.items.modify id fun item => { item with content := item.content.addChar c },
      dom.linked.changeContent id (Content.addChar c)⟩
  | none =>
    let id := dom.nextId
    (dom.push (.text [c])).put id spot

def moveChildren (dom : Dom) (source target : NodeId) : Dom :=
  (dom.children source).reverse.foldl (fun dom child => dom.append target child) dom

/-! ## What a tree holds -/

def isElement (dom : Dom) (tag : String) (id : NodeId) : Bool :=
  dom.content? id == some (.element tag)

/-- The elements with a tag that have a parent, in the order in which they were made. -/
def elements (dom : Dom) (tag : String) : List NodeId :=
  (List.range dom.items.size).filter fun id => dom.isElement tag id && (dom.parent? id).isSome

def node? (dom : Dom) (id : NodeId) (below : List Node) : Option Node :=
  match dom.content? id with
  | some (.text cs) => some (.text (String.ofList cs.reverse))
  | some (.comment content) => some (.comment content)
  | some (.element tag) => some (.element tag below)
  | some .fragment => some (.fragment below)
  | some .document | none => none

def nodes (dom : Dom) : Nat → List NodeId → List Node
  | 0, _ => []
  | depth + 1, ids =>
    ids.filterMap fun id => dom.node? id (nodes dom depth (dom.children id).reverse)

/-- The nodes below a node. No path in a tree is longer than the tree has nodes. -/
def below (dom : Dom) (id : NodeId) : List Node :=
  dom.nodes dom.items.size (dom.children id).reverse

end Dom
end CycleTable.Html
