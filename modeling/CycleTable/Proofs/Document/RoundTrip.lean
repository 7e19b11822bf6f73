import CycleTable.Proofs.Document.Page
import CycleTable.Proofs.Initializer.RoundTrip
import CycleTable.Proofs.Scan.Strict

/-! # From a page to a list and back

The cells of a page are numbered in document order, however they are spread over rows and
tables. If its entries bear these numbers, a scan of the page gives them back, and so does
reading the list that is written from it.
-/
namespace CycleTable

open Numeral (isRun_singleton)
open Timing (Accepted entryOf)

/-- A name that is laid out as it is, and that does not look like its own end in a list. -/
structure Entry.Legible (e : Entry) : Prop where
  tidy : Layout.Tidy e.name.toList
  unended : ∀ t, Written.IsTerminator t → ¬ t <:+: e.name.toList

theorem Entry.Legible.readable {e : Entry} (h : e.Legible) : Written.Readable e.name.toList :=
  ⟨Layout.not_mem_newline_of_tidy h.tidy, h.unended⟩

theorem Entry.legible_of_no_brace {e : Entry} (htidy : Layout.Tidy e.name.toList)
    (hbrace : '\x7d' ∉ e.name.toList) : e.Legible := by
  refine ⟨htidy, fun t ht hpart => hbrace (hpart.mem ?_)⟩
  obtain ⟨cycles, branchTaken, -, -, rfl⟩ := ht
  simp [Written.behindName, Written.closing_eq]

def NumberedInOrder (es : List Entry) : Prop :=
  ∀ (i : Nat) (h : i < es.length), es[i].opcode.toNat = i

namespace Scan

variable {es : List Entry} {texts : List String}

theorem accepted_of_parse
    (h : List.Forall₂ (fun e text => Timing.parse text = .ok e.timing) es texts) :
    ∀ text ∈ texts, Accepted text := by
  intro text htext
  obtain ⟨i, hi, rfl⟩ := List.getElem_of_mem htext
  exact ⟨_, h.get (h.length_eq ▸ hi) hi⟩

theorem numbered_of_parse
    (h : List.Forall₂ (fun e text => Timing.parse text = .ok e.timing) es texts)
    (hopcodes : NumberedInOrder es) : numbered 0 texts = es := by
  apply List.ext_getElem?
  intro i
  rw [getElem?_numbered]
  by_cases hi : i < es.length
  · have hi' : i < texts.length := h.length_eq ▸ hi
    have hparse : Timing.parse texts[i] = .ok es[i].timing := h.get hi hi'
    have hopcode : UInt32.ofNat i = es[i].opcode := calc
      UInt32.ofNat i = UInt32.ofNat es[i].opcode.toNat :=
        congrArg UInt32.ofNat (hopcodes i hi).symm
      _ = es[i].opcode := UInt32.ofNat_toNat
    rw [List.getElem?_eq_getElem hi, List.getElem?_eq_getElem hi', Option.map_some, entryOf, hparse,
      hopcode]
    rfl
  · have hi' : ¬ i < texts.length := h.length_eq ▸ hi
    rw [List.getElem?_eq_none (by omega), List.getElem?_eq_none (by omega), Option.map_none]

end Scan

theorem PageOf.parse_cells {document : List Node} {rows : List (List Entry)}
    (h : PageOf document rows) (hheader : ∀ row ∈ rows.head?, row = [])
    (hnames : ∀ e ∈ rows.flatten, e.Legible) :
    List.Forall₂ (fun e text => Timing.parse text = .ok e.timing) rows.flatten
      (tableRows document).cells := by
  -- The header row is skipped by the scan, and it has no entries to lose.
  have hflatten : (rows.drop 1).flatten = rows.flatten := by
    cases rows with
    | nil => rfl
    | cons row rows =>
      obtain rfl := hheader row rfl
      rfl
  have hcells := List.rel_flatten (List.forall₂_drop 1 h.parse_tableRows)
  rw [hflatten] at hcells
  have hboth := (List.forall₂_and_left _ _).2 ⟨hnames, hcells⟩
  exact hboth.imp fun e text hparse => hparse.2 hparse.1.tidy

/-- A page whose entries are numbered in order gives them back, under either policy and with no
number out of range, and so does the list that is written from it. Its first row is a header
row, without cells. -/
theorem page_round_trip {document : List Node} {rows : List (List Entry)}
    (hpage : PageOf document rows) (hheader : ∀ row ∈ rows.head?, row = [])
    (hnames : ∀ e ∈ rows.flatten, e.Legible) (hopcodes : NumberedInOrder rows.flatten)
    (hsize : rows.flatten.length < UInt32.size) (policy : Policy) :
    Scan.entries (tableRows document) policy = .ok rows.flatten ∧
    Scan.readCellsChecked policy 0 (tableRows document).placedCells =
      some (Scan.readCells policy 0 (tableRows document).placedCells) ∧
    ∃ text, Scan.extract (tableRows document) policy = .ok text ∧
      Initializer.parse (text ++ "\n") = .ok rows.flatten := by
  have hparse := hpage.parse_cells hheader hnames
  have hentries : Scan.entries (tableRows document) policy = .ok rows.flatten := by
    rw [Scan.entries_of_accepted policy (Scan.accepted_of_parse hparse),
      Scan.numbered_of_parse hparse hopcodes]
  have hreadable : ∀ e ∈ rows.flatten, Written.Readable e.name.toList := fun e he =>
    (hnames e he).readable
  refine ⟨hentries, ?_, Initializer.render rows.flatten, ?_,
    Initializer.parse_render_append ⟨"\n", by simp [Text.isWhite]⟩ hreadable⟩
  · apply Scan.readCellsChecked_eq_some
    rw [Table.length_placedCells, ← hparse.length_eq, UInt32.toNat_zero, Nat.zero_add]
    exact hsize
  · rw [Scan.extract, hentries]
    rfl

def firstTable : List Node :=
  [.element "tr" [.comment " header ", .element "th" [.text "x0"]],
    .element "tr"
      [.element "th" [.element "b" [.text "0x"]],
        .element "td"
          [.text "LD \"A\", 5, 6", .element "br" [], .text "2\u00a0\u00a08t",
            .element "br" [], .text "- - - -"],
        .text "\n",
        .element "td"
          [.text "JR NZ,r8", .element "br" [], .text "2\u00a0\u00a012t-8t",
            .element "br" [], .text ""]]]

def secondTable : List Node :=
  [.element "tr" [.element "th" []],
    .element "tr"
      [.element "td"
        [.text "NOP", .element "br" [], .text "1\u00a0\u00a04t-4t",
          .element "br" [], .text "\n"]]]

def splitPage : List Node :=
  [.element "body" [.element "table" firstTable, .text " ", .element "table" secondTable]]

def splitRows : List (List Entry) :=
  [[], [⟨0, "LD \"A\", 5, 6", 8, 8⟩, ⟨1, "JR NZ,r8", 12, 8⟩], [], [⟨2, "NOP", 4, 4⟩]]

theorem pageOf_splitPage : PageOf splitPage splitRows := by
  have hfirst : PageOf firstTable [[], [⟨0, "LD \"A\", 5, 6", 8, 8⟩, ⟨1, "JR NZ,r8", 12, 8⟩]] := by
    refine .row (.other rfl rfl (.other rfl rfl .nil)) (.row (.other rfl rfl ?_) .nil)
    refine .cell (.lines "- - - -" (isRun_singleton rfl) (.one rfl)) (.other rfl rfl ?_)
    exact .cell (.lines "" (isRun_singleton rfl) .two) .nil
  have hsecond : PageOf secondTable [[], [⟨2, "NOP", 4, 4⟩]] := by
    refine .row (.other rfl rfl .nil) (.row ?_ .nil)
    exact .cell (.lines "\n" (isRun_singleton rfl) .two) .nil
  have hspace : Node.holds "tr" (.text " ") = false := rfl
  have hbody := PageOf.group (by decide : "table" ≠ "tr") hfirst
    (.other hspace (.group (by decide : "table" ≠ "tr") hsecond .nil))
  exact .group (by decide : "body" ≠ "tr") hbody .nil

theorem split_page_round_trip :
    PageOf splitPage splitRows ∧ (∀ row ∈ splitRows.head?, row = []) ∧
    (∀ e ∈ splitRows.flatten, e.Legible) ∧ NumberedInOrder splitRows.flatten ∧
    splitRows.flatten.length < UInt32.size ∧
    ∀ policy, Scan.entries (tableRows splitPage) policy = .ok splitRows.flatten := by
  have hheader : ∀ row ∈ splitRows.head?, row = [] := by decide
  have hplain : ∀ e ∈ splitRows.flatten,
      Layout.Tidy e.name.toList ∧ '\x7d' ∉ e.name.toList := by
    simp only [Layout.tidy_iff]
    decide +kernel
  have hnames : ∀ e ∈ splitRows.flatten, e.Legible := fun e he =>
    Entry.legible_of_no_brace (hplain e he).1 (hplain e he).2
  have hopcodes : NumberedInOrder splitRows.flatten := by
    unfold NumberedInOrder
    decide
  have hsize : splitRows.flatten.length < UInt32.size := by decide
  exact ⟨pageOf_splitPage, hheader, hnames, hopcodes, hsize, fun policy =>
    (page_round_trip pageOf_splitPage hheader hnames hopcodes hsize policy).1⟩

end CycleTable
