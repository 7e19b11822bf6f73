import CycleTable.Document
import Mathlib.Data.List.Forall2
import Mathlib.Logic.Relation

/-! # Edits that do not show

A comment may be put anywhere, a text may be cut in two, and nodes in a row may be put into an
element that is neither selected nor has a say in the layout. The tables of a document stay the
same, wherever this is done or undone, and so does all that is read from them.
-/
namespace CycleTable

/-- An element with such a tag does not show: it is no row and no cell, it ends no line and it
hides nothing. -/
structure Plain (tag : String) : Prop where
  notRow : tag ≠ "tr"
  notCell : tag ≠ "td"
  notBreak : tag ≠ "br"
  notSkipped : tag ∉ Layout.skipped
  notBlock : tag ∉ Layout.blocks

/-- One edit in a list of nodes, at its front, further behind, or inside one of the nodes. -/
inductive Edit : List Node → List Node → Prop
  | comment (content : String) (nodes : List Node) : Edit nodes (.comment content :: nodes)
  | split (left right : String) (nodes : List Node) :
    Edit (.text (left ++ right) :: nodes) (.text left :: .text right :: nodes)
  | wrap {tag : String} (htag : Plain tag) (run nodes : List Node) :
    Edit (run ++ nodes) (.element tag run :: nodes)
  | behind (node : Node) {nodes nodes' : List Node} (h : Edit nodes nodes') :
    Edit (node :: nodes) (node :: nodes')
  | inElement (tag : String) (nodes : List Node) {children children' : List Node}
    (h : Edit children children') :
    Edit (.element tag children :: nodes) (.element tag children' :: nodes)
  | inFragment (nodes : List Node) {children children' : List Node} (h : Edit children children') :
    Edit (.fragment children :: nodes) (.fragment children' :: nodes)

/-- Edits one after the other, each of them done or undone. -/
def Edits : List Node → List Node → Prop :=
  Relation.ReflTransGen fun document document' => Edit document document' ∨ Edit document' document

theorem Edits.trans {first second third : List Node} (h : Edits first second)
    (h' : Edits second third) : Edits first third := Relation.ReflTransGen.trans h h'

namespace Edit

theorem done {nodes nodes' : List Node} (h : Edit nodes nodes') : Edits nodes nodes' :=
  .single (Or.inl h)

theorem undone {nodes nodes' : List Node} (h : Edit nodes nodes') : Edits nodes' nodes :=
  .single (Or.inr h)

theorem piecesAll_eq {nodes nodes' : List Node} (h : Edit nodes nodes')
    (rest : List Layout.Piece) : Layout.piecesAll nodes rest = Layout.piecesAll nodes' rest := by
  induction h generalizing rest with
  | comment content nodes => rfl
  | split left right nodes =>
    simp only [Layout.piecesAll, Layout.pieces, String.toList_append, List.map_append,
      List.append_assoc]
  | wrap htag run nodes =>
    rw [Layout.piecesAll_append, Layout.piecesAll, Layout.pieces, if_neg htag.notBreak,
      if_neg htag.notSkipped, if_neg htag.notBlock]
  | behind node h ih => rw [Layout.piecesAll, Layout.piecesAll, ih]
  | inElement tag nodes h ih => simp only [Layout.piecesAll, Layout.pieces, ih]
  | inFragment nodes h ih => rfl

theorem innerText_eq {nodes nodes' : List Node} (h : Edit nodes nodes') :
    Layout.innerText nodes = Layout.innerText nodes' := by
  rw [Layout.innerText, Layout.innerText, h.piecesAll_eq]

/-- The same elements are selected, and at most the one around the edit holds other nodes. -/
theorem contentsAll {tag : String} (hshown : ∀ name, Plain name → name ≠ tag)
    {nodes nodes' : List Node} (h : Edit nodes nodes') :
    List.Forall₂ (Relation.ReflGen Edit) (Node.contentsAll tag nodes)
      (Node.contentsAll tag nodes') := by
  have hrefl : ∀ contents : List (List Node),
      List.Forall₂ (Relation.ReflGen Edit) contents contents :=
    fun contents => List.forall₂_refl contents
  induction h with
  | comment content nodes => exact hrefl _
  | split left right nodes => exact hrefl _
  | wrap htag run nodes =>
    rw [Node.contentsAll_append, Node.contentsAll, Node.contents, if_neg (hshown _ htag)]
    exact hrefl _
  | behind node h ih => exact List.rel_append (hrefl _) ih
  | @inElement name nodes children children' h ih =>
    rw [Node.contentsAll, Node.contentsAll, Node.contents, Node.contents]
    split
    · exact .cons (.single h) (List.rel_append ih (hrefl _))
    · exact List.rel_append ih (hrefl _)
  | inFragment nodes h ih => exact List.rel_append ih (hrefl _)

theorem map_contentsAll {β : Type} {f : List Node → β} {tag : String}
    (hf : ∀ {children children' : List Node}, Edit children children' → f children = f children')
    (hshown : ∀ name, Plain name → name ≠ tag) {nodes nodes' : List Node} (h : Edit nodes nodes') :
    (Node.contentsAll tag nodes).map f = (Node.contentsAll tag nodes').map f := by
  rw [← List.forall₂_eq_eq_eq, List.forall₂_map_left_iff, List.forall₂_map_right_iff]
  refine (h.contentsAll hshown).imp fun children children' hchildren => ?_
  cases hchildren with
  | refl => rfl
  | single hedit => exact hf hedit

theorem cellTexts_eq {row row' : List Node} (h : Edit row row') : cellTexts row = cellTexts row' :=
  h.map_contentsAll innerText_eq fun _ hname => hname.notCell

theorem tableRows_eq {document document' : List Node} (h : Edit document document') :
    tableRows document = tableRows document' :=
  h.map_contentsAll cellTexts_eq fun _ hname => hname.notRow

end Edit

theorem Edits.tableRows_eq {document document' : List Node} (h : Edits document document') :
    tableRows document' = tableRows document := by
  induction h with
  | refl => rfl
  | tail _ hedit ih =>
    rcases hedit with hedit | hedit
    · rw [← hedit.tableRows_eq, ih]
    · rw [hedit.tableRows_eq, ih]

/-- Whatever the edits, the tables stay the same, and so does the outcome of their scan under
either policy, with the place and the number in an error, and the list that is written. -/
theorem edits_do_not_show {document document' : List Node} (h : Edits document document') :
    tableRows document' = tableRows document ∧
    ∀ policy, Scan.entries (tableRows document') policy = Scan.entries (tableRows document) policy ∧
      Scan.extract (tableRows document') policy = Scan.extract (tableRows document) policy := by
  have hrows := h.tableRows_eq
  refine ⟨hrows, fun policy => ?_⟩
  rw [hrows]
  exact ⟨rfl, rfl⟩

def pageOfCell (cell : List Node) : List Node :=
  [.element "tr" [.element "th" []], .element "tr" [.element "td" cell]]

def slantedCell : List Node :=
  [.text ("JR " ++ "NZ,r8"), .element "br" [], .element "i" [.text "2 12t-8t"]]

def boldCell : List Node :=
  [.element "b" [.text "JR ", .text "NZ,r8"], .element "br" [], .text "2 12t-8t"]

theorem Edit.inPage {cell cell' : List Node} (h : Edit cell cell') :
    Edit (pageOfCell cell) (pageOfCell cell') :=
  .behind _ (.inElement "tr" [] (.inElement "td" [] h))

theorem edits_of_slanted_cell_do_not_show :
    Edits (pageOfCell slantedCell) (.comment " bold " :: pageOfCell boldCell) ∧
    tableRows (.comment " bold " :: pageOfCell boldCell) = tableRows (pageOfCell slantedCell) := by
  have hbold : Plain "b" := ⟨by decide, by decide, by decide, by decide, by decide⟩
  have hslanted : Plain "i" := ⟨by decide, by decide, by decide, by decide, by decide⟩
  have hunwrap : Edit [.text ("JR " ++ "NZ,r8"), .element "br" [], .text "2 12t-8t"] slantedCell :=
    .behind _ (.behind _ (.wrap hslanted [.text "2 12t-8t"] []))
  have hsplit : Edit [.text ("JR " ++ "NZ,r8"), .element "br" [], .text "2 12t-8t"]
      [.text "JR ", .text "NZ,r8", .element "br" [], .text "2 12t-8t"] :=
    .split "JR " "NZ,r8" _
  have hwrap : Edit [.text "JR ", .text "NZ,r8", .element "br" [], .text "2 12t-8t"] boldCell :=
    .wrap hbold [.text "JR ", .text "NZ,r8"] _
  have hcomment : Edit (pageOfCell boldCell) (.comment " bold " :: pageOfCell boldCell) :=
    .comment " bold " _
  have hedits : Edits (pageOfCell slantedCell) (.comment " bold " :: pageOfCell boldCell) :=
    hunwrap.inPage.undone.trans (hsplit.inPage.done.trans (hwrap.inPage.done.trans hcomment.done))
  exact ⟨hedits, (edits_do_not_show hedits).1⟩

end CycleTable
