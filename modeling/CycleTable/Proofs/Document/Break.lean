import CycleTable.Proofs.Document.Spacing

/-! # Elements cut at a break

A break parts the text of an element for good, however deep in inline elements it stands: the text
is that of the part in front of the break, a line feed, and that of the part behind it. Whatever
the part in front leaves waiting, a space or the boundary of a block, ends with it, and whatever
the part behind begins with leaves the lines in front as they are.
-/
namespace CycleTable.Layout

/-- An element with such a tag shows what it holds, and nothing else. -/
structure Inline (tag : String) : Prop where
  notBreak : tag ≠ "br"
  notSkipped : tag ∉ skipped
  notBlock : tag ∉ blocks

theorem Inline.shown_eq {tag : String} (h : Inline tag) (children : List Node) :
    shown (.element tag children) = shownAll children := by
  rw [shown, if_neg h.notBreak, if_neg h.notSkipped, if_neg h.notBlock]

/-- Nodes are cut at a break into those in front of it and those behind it. The break stands among
them or inside one of them, an inline element, which is then cut in two as well. What the break
itself holds is in neither part. -/
inductive CutAtBreak : List Node → List Node → List Node → Prop
  | here (before hidden behind : List Node) :
    CutAtBreak (before ++ .element "br" hidden :: behind) before behind
  | inside {tag : String} (htag : Inline tag) (before behind : List Node)
    {children front back : List Node} (h : CutAtBreak children front back) :
    CutAtBreak (before ++ .element tag children :: behind) (before ++ [.element tag front])
      (.element tag back :: behind)

namespace CutAtBreak

variable {nodes front back : List Node}

theorem shownAll_eq (h : CutAtBreak nodes front back) :
    shownAll nodes = shownAll front ++ .lineBreak :: shownAll back := by
  induction h with
  | here before hidden behind =>
    rw [shownAll_append, shownAll, shown, if_pos rfl, List.singleton_append]
  | @inside tag htag before behind children front back h ih =>
    -- The parts of an inline element add nothing of their own on either side of the break.
    have hfront : shownAll (before ++ [.element tag front]) =
        shownAll before ++ shownAll front := by
      rw [shownAll_append, shownAll, htag.shown_eq, shownAll, List.append_nil]
    have hback : shownAll (.element tag back :: behind) = shownAll back ++ shownAll behind := by
      rw [shownAll, htag.shown_eq]
    rw [shownAll_append, shownAll, htag.shown_eq, ih, hfront, hback]
    simp only [List.append_assoc, List.cons_append]

theorem toList_innerText_eq (h : CutAtBreak nodes front back) :
    (innerText nodes).toList = (innerText front).toList ++ '\n' :: (innerText back).toList := by
  rw [toList_innerText, toList_innerText, toList_innerText, h.shownAll_eq, layOut_lineBreak]

theorem innerText_eq (h : CutAtBreak nodes front back) :
    innerText nodes = innerText front ++ "\n" ++ innerText back := by
  apply String.toList_inj.1
  rw [h.toList_innerText_eq, String.toList_append, String.toList_append, List.append_assoc]
  rfl

theorem splitOn_innerText_eq (h : CutAtBreak nodes front back) :
    (innerText nodes).toList.splitOn '\n' =
      (innerText front).toList.splitOn '\n' ++ (innerText back).toList.splitOn '\n' := by
  rw [h.toList_innerText_eq, List.splitOn_append_cons_self]

end CutAtBreak

/-- A break among the children of an element separates the text in front of it from the text
behind it, and so does a break inside inline elements, which are cut in two. The lines of the
whole are those of the first part and then those of the second. Which elements the nodes and the
two parts are the children of does not matter. -/
theorem break_separates_lines :
    (∀ before hidden behind : List Node,
      innerText (before ++ .element "br" hidden :: behind) =
        innerText before ++ "\n" ++ innerText behind) ∧
    ∀ {nodes front back : List Node}, CutAtBreak nodes front back →
      innerText nodes = innerText front ++ "\n" ++ innerText back ∧
      (innerText nodes).toList.splitOn '\n' =
        (innerText front).toList.splitOn '\n' ++ (innerText back).toList.splitOn '\n' := by
  constructor
  · intro before hidden behind
    exact (CutAtBreak.here before hidden behind).innerText_eq
  · intro nodes front back h
    exact ⟨h.innerText_eq, h.splitOn_innerText_eq⟩

/-- A cell with a block and a space in front of a break inside inline elements, and with white
space and a block behind it. -/
def brokenCell : List Node :=
  [.text " JR ", .element "b" [.element "p" [.text "NZ "], .element "i" [.text " ",
    .element "br" [.text "r8"], .text "\n", .element "div" [.text "2  12t"]], .text " -8t"]]

def brokenCellFront : List Node :=
  [.text " JR ", .element "b" [.element "p" [.text "NZ "], .element "i" [.text " "]]]

def brokenCellBack : List Node :=
  [.element "b" [.element "i" [.text "\n", .element "div" [.text "2  12t"]], .text " -8t"]]

theorem brokenCell_separated :
    CutAtBreak brokenCell brokenCellFront brokenCellBack ∧
    innerText brokenCell = "JR\nNZ" ++ "\n" ++ "2 12t\n-8t" := by
  have hbold : Inline "b" := ⟨by decide, by decide, by decide⟩
  have hslanted : Inline "i" := ⟨by decide, by decide, by decide⟩
  have hcut : CutAtBreak brokenCell brokenCellFront brokenCellBack :=
    .inside hbold [.text " JR "] [] (.inside hslanted [.element "p" [.text "NZ "]] [.text " -8t"]
      (.here [.text " "] [.text "r8"] _))
  exact ⟨hcut, (break_separates_lines.2 hcut).1⟩

end CycleTable.Layout
