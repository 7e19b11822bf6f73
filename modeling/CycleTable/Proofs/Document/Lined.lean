import CycleTable.Document
import CycleTable.Proofs.Document.Normal

/-! # Normal texts as markup

The texts of elements are the normal ones: none other is laid out, and each of these is, for it
is the text of its own lines with breaks between them. A table of normal texts is therefore the
table of a document, and is scanned as such.
-/
namespace CycleTable

namespace Text

/-- What holds of a text on one line, and of a line in front of a text of which it holds, holds
of every text. -/
theorem lines_induct {motive : List Char → Prop} (line : ∀ cs, '\n' ∉ cs → motive cs)
    (next : ∀ cs rest, '\n' ∉ cs → motive rest → motive (cs ++ '\n' :: rest)) (cs : List Char) :
    motive cs := by
  induction hn : cs.length using Nat.strongRecOn generalizing cs with
  | ind n ih =>
    have hcut := cut_before '\n' cs
    generalize before '\n' cs = front at hcut
    cases hcut with
    | whole h => exact line _ h
    | ended h rest =>
      have hlt : rest.length < n := by
        rw [← hn, List.length_append, List.length_cons]
        omega
      exact next front rest h (ih rest.length hlt rest rfl)

end Text

namespace Layout

theorem normal_iff {cs : List Char} :
    Normal cs ↔ '\t' ∉ cs ∧ '\x0c' ∉ cs ∧ '\r' ∉ cs ∧ ¬ [' ', ' '] <:+: cs ∧
      ¬ [' ', '\n'] <:+: cs ∧ ¬ ['\n', ' '] <:+: cs ∧ cs.head? ≠ some ' ' ∧
      cs.getLast? ≠ some ' ' := by
  constructor
  · rintro ⟨hspaces, hsingle, hend, hstart, hfirst, hlast⟩
    have hother : ∀ c, Text.isAsciiWhite c → c ≠ ' ' → c ≠ '\n' → c ∉ cs := by
      intro c hwhite hspace hnewline hc
      rcases hspaces c hc hwhite with rfl | rfl
      · exact hspace rfl
      · exact hnewline rfl
    exact ⟨hother '\t' rfl (by decide) (by decide), hother '\x0c' rfl (by decide) (by decide),
      hother '\r' rfl (by decide) (by decide), hsingle, hend, hstart, hfirst, hlast⟩
  · rintro ⟨htab, hfeed, hreturn, hsingle, hend, hstart, hfirst, hlast⟩
    refine ⟨?_, hsingle, hend, hstart, hfirst, hlast⟩
    intro c hc hwhite
    simp only [Text.isAsciiWhite, Bool.or_eq_true, beq_iff_eq] at hwhite
    rcases hwhite with (((rfl | rfl) | rfl) | rfl) | rfl
    · exact Or.inl rfl
    · exact absurd hc htab
    · exact Or.inr rfl
    · exact absurd hc hfeed
    · exact absurd hc hreturn

theorem Normal.behind_line {line rest : List Char} (h : Normal (line ++ '\n' :: rest)) :
    Normal rest := by
  have hpart : rest <:+: line ++ '\n' :: rest := ⟨line ++ ['\n'], [], by simp⟩
  refine ⟨fun c hc => h.spaces c (hpart.subset hc), fun hpair => h.single (hpair.trans hpart),
    fun hpair => h.lineEnd (hpair.trans hpart), fun hpair => h.lineStart (hpair.trans hpart),
    ?_, ?_⟩
  · intro hfirst
    obtain ⟨rest, rfl⟩ := List.head?_eq_some_iff.1 hfirst
    exact h.lineStart ⟨line, rest, by simp⟩
  · intro hlast
    obtain ⟨front, rfl⟩ := List.getLast?_eq_some_iff.1 hlast
    apply h.last
    rw [← List.cons_append, ← List.append_assoc]
    exact List.getLast?_concat

/-- A text as markup: its lines, with a break between any two of them. -/
def lined (cs : List Char) : List Node :=
  ((cs.splitOn '\n').map fun line => .text (String.ofList line)).intersperse (.element "br" [])

theorem lined_of_line {line : List Char} (h : '\n' ∉ line) :
    lined line = [.text (String.ofList line)] := by
  rw [lined, List.splitOn_eq_singleton h]
  rfl

theorem lined_append {line : List Char} (h : '\n' ∉ line) (rest : List Char) :
    lined (line ++ '\n' :: rest) =
      .text (String.ofList line) :: .element "br" [] :: lined rest := by
  obtain ⟨next, lines, hlines⟩ := List.exists_cons_of_ne_nil (List.splitOn_ne_nil '\n' rest)
  rw [lined, lined, List.splitOn_append_cons_self_of_not_mem h, hlines, List.map_cons,
    List.map_cons, List.intersperse_cons_cons]

theorem layOut_lined {cs : List Char} (h : Normal cs) : layOut (piecesAll (lined cs) []) = cs := by
  induction cs using Text.lines_induct with
  | line cs hline =>
    have htidy := h.tidy_before
    rw [Text.before_eq_self hline] at htidy
    rw [lined_of_line hline, piecesAll, pieces, String.toList_ofList, piecesAll, List.append_nil,
      layOut_of_tidy htidy]
  | next cs rest hline ih =>
    have htidy := h.tidy_before
    rw [Text.before_append hline] at htidy
    rw [lined_append hline, piecesAll, pieces, String.toList_ofList, piecesAll, pieces, if_pos rfl,
      layOut_lineBreak, layOut_of_tidy htidy, ih h.behind_line]

theorem innerText_lined {text : String} (h : Normal text.toList) :
    innerText (lined text.toList) = text := by
  rw [innerText, layOut_lined h, String.ofList_toList]

/-- The texts of elements are the normal ones. -/
theorem exists_innerText_eq_iff {text : String} :
    (∃ children, innerText children = text) ↔ Normal text.toList := by
  constructor
  · rintro ⟨children, rfl⟩
    exact normal_innerText children
  · intro h
    exact ⟨lined text.toList, innerText_lined h⟩

theorem contentsAll_lined {tag : String} (htag : tag ≠ "br") (cs : List Char) :
    Node.contentsAll tag (lined cs) = [] := by
  induction cs using Text.lines_induct with
  | line cs hline =>
    rw [lined_of_line hline]
    rfl
  | next cs rest hline ih =>
    rw [lined_append hline, Node.contentsAll, Node.contents, Node.contentsAll, Node.contents,
      if_neg htag.symm, ih]
    rfl

end Layout

namespace Node

variable {α : Type} {tag : String} {f : α → List Node}

theorem contentsAll_map_element (h : ∀ x, contentsAll tag (f x) = []) (xs : List α) :
    contentsAll tag (xs.map fun x => .element tag (f x)) = xs.map f := by
  induction xs with
  | nil => rfl
  | cons x xs ih =>
    rw [List.map_cons, contentsAll, contents, if_pos rfl, h, ih]
    rfl

theorem contentsAll_map_other {name : String} (hname : name ≠ tag)
    (h : ∀ x, contentsAll tag (f x) = []) (xs : List α) :
    contentsAll tag (xs.map fun x => .element name (f x)) = [] := by
  induction xs with
  | nil => rfl
  | cons x xs ih =>
    rw [List.map_cons, contentsAll, contents, if_neg hname, h, ih]
    rfl

end Node

/-- A row as markup, and below it a table: one element for each row, and in it one for each
cell. -/
def markedRow (cells : List String) : List Node :=
  cells.map fun text => .element "td" (Layout.lined text.toList)

def marked (rows : Table) : List Node := rows.map fun cells => .element "tr" (markedRow cells)

theorem cellTexts_markedRow {cells : List String} (h : ∀ text ∈ cells, Layout.Normal text.toList) :
    cellTexts (markedRow cells) = cells := by
  have hcell : ∀ text : String, Node.contentsAll "td" (Layout.lined text.toList) = [] :=
    fun text => Layout.contentsAll_lined (by decide) text.toList
  rw [cellTexts, markedRow, Node.contentsAll_map_element hcell, List.map_map]
  calc cells.map (Layout.innerText ∘ fun text => Layout.lined text.toList)
    _ = cells.map id := List.map_congr_left fun text htext => Layout.innerText_lined (h text htext)
    _ = cells := List.map_id cells

theorem tableRows_marked {rows : Table}
    (h : ∀ cells ∈ rows, ∀ text ∈ cells, Layout.Normal text.toList) :
    tableRows (marked rows) = rows := by
  have hrow : ∀ cells : List String, Node.contentsAll "tr" (markedRow cells) = [] := by
    intro cells
    exact Node.contentsAll_map_other (by decide)
      (fun text : String => Layout.contentsAll_lined (by decide) text.toList) cells
  rw [tableRows, marked, Node.contentsAll_map_element hrow, tableOfRows, List.map_map]
  calc rows.map (cellTexts ∘ markedRow)
    _ = rows.map id := List.map_congr_left fun cells hcells => cellTexts_markedRow (h cells hcells)
    _ = rows := List.map_id rows

/-- The texts of elements are the normal texts, and a normal text is the text of its lines with
breaks between them. A table of normal texts is so the table of its markup, and what is extracted
from the markup, or the error, is that of the table. -/
theorem normal_texts_marked :
    (∀ text : String, (∃ children, Layout.innerText children = text) ↔
      Layout.Normal text.toList) ∧
    (∀ text : String, Layout.Normal text.toList →
      Layout.innerText (Layout.lined text.toList) = text) ∧
    (∀ rows : Table, (∀ cells ∈ rows, ∀ text ∈ cells, Layout.Normal text.toList) →
      tableRows (marked rows) = rows ∧
      ∀ policy, Scan.extract (tableRows (marked rows)) policy = Scan.extract rows policy) := by
  refine ⟨fun text => Layout.exists_innerText_eq_iff, fun text => Layout.innerText_lined, ?_⟩
  intro rows hrows
  have hmarked := tableRows_marked hrows
  refine ⟨hmarked, fun policy => ?_⟩
  rw [hmarked]

def brokenText : String := "\n\nNOP\n\n4t\u00a0\n"

def brokenRows : Table := [["Opcode"], [], [brokenText, "", "A b\nc"]]

theorem broken_rows_marked :
    Layout.Normal brokenText.toList ∧
    Layout.innerText (Layout.lined brokenText.toList) = brokenText ∧
    (∀ cells ∈ brokenRows, ∀ text ∈ cells, Layout.Normal text.toList) ∧
    tableRows (marked brokenRows) = brokenRows := by
  have hrows : ∀ cells ∈ brokenRows, ∀ text ∈ cells, Layout.Normal text.toList := by
    simp only [Layout.normal_iff]
    decide +kernel
  have htext : Layout.Normal brokenText.toList :=
    hrows [brokenText, "", "A b\nc"] (by decide) brokenText (by decide)
  exact ⟨htext, normal_texts_marked.2.1 _ htext, hrows, (normal_texts_marked.2.2 _ hrows).1⟩

end CycleTable
