import CycleTable.Document
import CycleTable.Proofs.Cell
import CycleTable.Proofs.Document.Layout
import Mathlib.Data.List.Forall2

/-! # Pages that hold tables

A page is described by what its rows hold: one list of entries for each `tr` element, in document
order. Around the rows and between the cells there may be anything that holds neither. The text
of each cell reads as the timing of its entry.
-/
namespace CycleTable

open Numeral (IsRun isDigit)
open Timing (countText)

namespace Node

mutual

def holds (tag : String) : Node → Bool
  | .text _ => false
  | .comment _ => false
  | .fragment children => anyHolds tag children
  | .element name children => name == tag || anyHolds tag children

def anyHolds (tag : String) : List Node → Bool
  | [] => false
  | node :: nodes => holds tag node || anyHolds tag nodes

end

mutual

theorem contents_eq_nil_iff {tag : String} :
    ∀ {node : Node}, contents tag node = [] ↔ holds tag node = false
  | .text _ => by simp [contents, holds]
  | .comment _ => by simp [contents, holds]
  | .fragment _ => contentsAll_eq_nil_iff
  | .element name children => by
    rw [contents, holds]
    by_cases hname : name = tag
    · simp [hname]
    · simp [hname, contentsAll_eq_nil_iff]

theorem contentsAll_eq_nil_iff {tag : String} :
    ∀ {nodes : List Node}, contentsAll tag nodes = [] ↔ anyHolds tag nodes = false
  | [] => by simp [contentsAll, anyHolds]
  | node :: nodes => by
    rw [contentsAll, anyHolds, List.append_eq_nil_iff, contents_eq_nil_iff, contentsAll_eq_nil_iff,
      Bool.or_eq_false_iff]

end

end Node

/-- The counts of an entry as a cell gives them. One count is enough when they agree. -/
inductive Entry.Counts (e : Entry) : List Char → Prop
  | two : Counts e (countText e.cycles ++ '-' :: countText e.branchTaken)
  | one (h : e.cycles = e.branchTaken) : Counts e (countText e.cycles)

/-- The children of a cell for an entry. Its lines are the name, a length with the counts, and
any flags. -/
inductive CellOf (e : Entry) : List Node → Prop
  | lines {length counts : List Char} (flags : String) (hlength : IsRun isDigit length)
    (hcounts : e.Counts counts) :
    CellOf e [.text e.name, .element "br" [],
      .text (String.ofList (length ++ '\u00a0' :: '\u00a0' :: counts)), .element "br" [],
      .text flags]

/-- The children of a row, and the entries of its cells. Between the cells there may be header
cells, comments and texts. -/
inductive RowOf : List Node → List Entry → Prop
  | nil : RowOf [] []
  | other {node : Node} {nodes : List Node} {es : List Entry} (hrow : node.holds "tr" = false)
    (hcell : node.holds "td" = false) (h : RowOf nodes es) : RowOf (node :: nodes) es
  | cell {children nodes : List Node} {e : Entry} {es : List Entry} (hcell : CellOf e children)
    (h : RowOf nodes es) : RowOf (.element "td" children :: nodes) (e :: es)

/-- The nodes of a page, and the entries of its rows. Rows stand at any depth, but not in one
another. -/
inductive PageOf : List Node → List (List Entry) → Prop
  | nil : PageOf [] []
  | other {node : Node} {nodes : List Node} {rows : List (List Entry)}
    (hrow : node.holds "tr" = false) (h : PageOf nodes rows) : PageOf (node :: nodes) rows
  | row {children nodes : List Node} {es : List Entry} {rows : List (List Entry)}
    (hrow : RowOf children es) (h : PageOf nodes rows) :
    PageOf (.element "tr" children :: nodes) (es :: rows)
  | group {tag : String} {children nodes : List Node} {inner rows : List (List Entry)}
    (htag : tag ≠ "tr") (hinner : PageOf children inner) (h : PageOf nodes rows) :
    PageOf (.element tag children :: nodes) (inner ++ rows)

namespace Entry

def timing (e : Entry) : Timing := ⟨e.name, e.cycles, e.branchTaken⟩

theorem Counts.readCounts {e : Entry} {counts : List Char} (h : e.Counts counts) :
    Timing.readCounts counts = .ok (e.cycles, e.branchTaken) := by
  cases h with
  | two => exact Timing.readCounts_two e.cycles e.branchTaken
  | one heq => rw [Timing.readCounts_one, ← heq]

theorem Counts.not_white {e : Entry} {counts : List Char} (h : e.Counts counts) :
    counts ≠ [] ∧ ∀ c ∈ counts, Text.isWhite c = false := by
  cases h with
  | two =>
    refine ⟨by simp, fun c hc => ?_⟩
    rcases List.mem_append.1 hc with hc | hc
    · exact Timing.isWhite_countText hc
    · rcases List.mem_cons.1 hc with rfl | hc
      · decide
      · exact Timing.isWhite_countText hc
  | one => exact ⟨by simp [countText], fun c hc => Timing.isWhite_countText hc⟩

end Entry

namespace CellOf

theorem words_line {e : Entry} {length counts : List Char} (hlength : IsRun isDigit length)
    (hcounts : e.Counts counts) :
    Text.words (length ++ '\u00a0' :: '\u00a0' :: counts) = [length, counts] := by
  have hword : Text.words (counts ++ []) = counts :: Text.words [] :=
    Text.words_append hcounts.not_white.1 hcounts.not_white.2 (by simp)
  have hgap : Text.words (['\u00a0', '\u00a0'] ++ counts) = Text.words counts :=
    Text.words_of_white (by simp [Text.isWhite]) counts
  rw [List.append_nil] at hword
  rw [Text.words_append hlength.1 (fun c hc => Text.isWhite_of_isDigit (hlength.2 c hc))]
  · change length :: Text.words (['\u00a0', '\u00a0'] ++ counts) = _
    rw [hgap, hword, Text.words_nil]
  · intro c hc
    obtain rfl : '\u00a0' = c := by simpa using hc
    decide

theorem tidy_line {e : Entry} {length counts : List Char} (hlength : IsRun isDigit length)
    (hcounts : e.Counts counts) :
    Layout.Tidy (length ++ '\u00a0' :: '\u00a0' :: counts) := by
  apply Layout.tidy_of_no_white
  intro c hc
  simp only [List.mem_append, List.mem_cons] at hc
  rcases hc with hc | rfl | rfl | hc
  · have hwhite := Text.isWhite_of_isDigit (hlength.2 c hc)
    exact fun h => by simp [Text.isWhite_of_isAsciiWhite h] at hwhite
  · decide
  · decide
  · have hwhite := hcounts.not_white.2 c hc
    exact fun h => by simp [Text.isWhite_of_isAsciiWhite h] at hwhite

theorem parse_innerText {e : Entry} {children : List Node} (h : CellOf e children)
    (hname : Layout.Tidy e.name.toList) :
    Timing.parse (Layout.innerText children) = .ok e.timing := by
  obtain ⟨flags, hlength, hcounts⟩ := h
  have hline := tidy_line hlength hcounts
  have hword := words_line hlength hcounts
  rw [Timing.parse, Layout.innerText_lines hname (by simpa using hline), String.toList_ofList,
    String.toList_ofList, Timing.parseChars_of_lines (Layout.not_mem_newline_of_tidy hname)
      (Layout.not_mem_newline_of_tidy hline) (by rw [hword]; rfl) hcounts.readCounts,
    String.ofList_toList]
  rfl

theorem holds_nothing {e : Entry} {children : List Node} (h : CellOf e children) :
    Node.contentsAll "td" children = [] ∧ Node.contentsAll "tr" children = [] := by
  cases h
  simp [Node.contentsAll, Node.contents]

end CellOf

theorem RowOf.contentsAll {children : List Node} {es : List Entry} (h : RowOf children es) :
    List.Forall₂ CellOf es (Node.contentsAll "td" children) ∧
      Node.contentsAll "tr" children = [] := by
  induction h with
  | nil => exact ⟨.nil, rfl⟩
  | other hrow hcell h ih =>
    simpa [Node.contentsAll, Node.contents_eq_nil_iff.2 hrow, Node.contents_eq_nil_iff.2 hcell]
      using ih
  | cell hcell h ih =>
    have hnothing := hcell.holds_nothing
    simpa [Node.contentsAll, Node.contents, hnothing.1, hnothing.2, hcell] using ih

theorem PageOf.contentsAll {document : List Node} {rows : List (List Entry)}
    (h : PageOf document rows) :
    List.Forall₂ (fun es children => RowOf children es) rows (Node.contentsAll "tr" document) := by
  induction h with
  | nil => exact .nil
  | other hrow h ih =>
    rwa [Node.contentsAll, Node.contents_eq_nil_iff.2 hrow, List.nil_append]
  | row hrow h ih =>
    rw [Node.contentsAll, Node.contents, if_pos rfl, hrow.contentsAll.2, List.singleton_append]
    exact .cons hrow ih
  | group htag hinner h ihinner ih =>
    rw [Node.contentsAll, Node.contents, if_neg htag]
    exact List.rel_append ihinner ih

/-- Row by row and cell by cell, what is selected on a page reads as the timings of its entries,
as far as their names are laid out as they are. -/
theorem PageOf.parse_tableRows {document : List Node} {rows : List (List Entry)}
    (h : PageOf document rows) :
    List.Forall₂ (List.Forall₂ fun e text =>
      Layout.Tidy e.name.toList → Timing.parse text = .ok e.timing) rows (tableRows document) := by
  rw [tableRows, tableOfRows, List.forall₂_map_right_iff]
  refine h.contentsAll.imp fun es children hrow => ?_
  rw [cellTexts, List.forall₂_map_right_iff]
  exact hrow.contentsAll.1.imp fun e children hcell hname => hcell.parse_innerText hname

end CycleTable
