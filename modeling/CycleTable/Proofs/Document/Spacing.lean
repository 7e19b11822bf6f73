import CycleTable.Proofs.Document.Layout
import Mathlib.Data.List.Induction

/-! # The rule of a layout

What an element shows is a row of characters, with white space, breaks and block boundaries
around them. Between two characters only the strongest of these counts: each break gives a line
feed, else a boundary gives one, else white space gives a space. In front of the first character
and behind the last one only breaks count.
-/
namespace CycleTable.Layout

mutual

def shown : Node → List Piece
  | .text content => content.toList.map charPiece
  | .comment _ => []
  | .fragment _ => []
  | .element tag children =>
    if tag = "br" then [.lineBreak]
    else if tag ∈ skipped then []
    else if tag ∈ blocks then [.boundary] ++ shownAll children ++ [.boundary]
    else shownAll children

def shownAll : List Node → List Piece
  | [] => []
  | node :: nodes => shown node ++ shownAll nodes

end

mutual

theorem pieces_eq : ∀ (node : Node) (rest : List Piece), pieces node rest = shown node ++ rest
  | .text _, _ => rfl
  | .comment _, _ => rfl
  | .fragment _, _ => rfl
  | .element tag children, rest => by
    rw [pieces, shown]
    split_ifs
    · rfl
    · rfl
    · rw [piecesAll_eq, List.append_assoc, List.append_assoc]
      rfl
    · exact piecesAll_eq children rest

theorem piecesAll_eq : ∀ (nodes : List Node) (rest : List Piece),
    piecesAll nodes rest = shownAll nodes ++ rest
  | [], _ => rfl
  | node :: nodes, rest => by
    rw [piecesAll, shownAll, pieces_eq, piecesAll_eq, List.append_assoc]

end

theorem shownAll_append (before behind : List Node) :
    shownAll (before ++ behind) = shownAll before ++ shownAll behind := by
  induction before with
  | nil => rfl
  | cons node before ih => rw [List.cons_append, shownAll, shownAll, ih, List.append_assoc]

theorem toList_innerText (children : List Node) :
    (innerText children).toList = layOut (shownAll children) := by
  rw [innerText, String.toList_ofList, piecesAll_eq, List.append_nil]

mutual

theorem not_white_of_mem_shown {c : Char} : ∀ {node : Node}, .char c ∈ shown node →
    Text.isAsciiWhite c = false
  | .text content, h => by
    obtain ⟨d, -, hd⟩ := List.mem_map.1 h
    unfold charPiece at hd
    split at hd
    next => cases hd
    next hwhite =>
      cases hd
      simpa using hwhite
  | .comment _, h => by cases h
  | .fragment _, h => by cases h
  | .element tag children, h => by
    rw [shown] at h
    split_ifs at h
    · simp at h
    · simp at h
    · exact not_white_of_mem_shownAll (by simpa using h)
    · exact not_white_of_mem_shownAll h

theorem not_white_of_mem_shownAll {c : Char} : ∀ {nodes : List Node}, .char c ∈ shownAll nodes →
    Text.isAsciiWhite c = false
  | [], h => by cases h
  | node :: nodes, h => by
    rcases List.mem_append.1 h with h | h
    · exact not_white_of_mem_shown h
    · exact not_white_of_mem_shownAll h

end

def Piece.char? : Piece → Option Char
  | .char c => some c
  | _ => none

def lineFeeds (gap : List Piece) : List Char := List.replicate (gap.count .lineBreak) '\n'

/-- What stands between two characters with these pieces between them. -/
def between (gap : List Piece) : List Char :=
  if .lineBreak ∈ gap then lineFeeds gap
  else if .boundary ∈ gap then ['\n']
  else if .space ∈ gap then [' ']
  else []

/-- What a gap and the characters behind it give, each of them with the gap behind it. -/
def goOn (gap : List Piece) : List (Char × List Piece) → List Char
  | [] => lineFeeds gap
  | (c, next) :: items => between gap ++ c :: goOn next items

/-- Pieces seen as characters with gaps around them: one in front, and one behind each
character. -/
structure Spaced where
  front : List Piece
  items : List (Char × List Piece)
  gap_front : ∀ p ∈ front, p.char? = none
  gap_items : ∀ item ∈ items, ∀ p ∈ item.2, p.char? = none

namespace Spaced

def pieces (s : Spaced) : List Piece :=
  s.front ++ s.items.flatMap fun item => .char item.1 :: item.2

def text (s : Spaced) : List Char :=
  match s.items with
  | [] => lineFeeds s.front
  | (c, gap) :: items => lineFeeds s.front ++ c :: goOn gap items

end Spaced

theorem exists_spaced (ps : List Piece) : ∃ s : Spaced, s.pieces = ps := by
  induction ps with
  | nil => exact ⟨⟨[], [], by simp, by simp⟩, rfl⟩
  | cons p ps ih =>
    obtain ⟨⟨front, items, hfront, hitems⟩, rfl⟩ := ih
    by_cases hp : p.char? = none
    · exact ⟨⟨p :: front, items, List.forall_mem_cons.2 ⟨hp, hfront⟩, hitems⟩, rfl⟩
    · -- The gap in front so far is the one behind this character.
      cases p with
      | char c =>
        exact ⟨⟨[], (c, front) :: items, by simp, List.forall_mem_cons.2 ⟨hfront, hitems⟩⟩, rfl⟩
      | space => exact absurd rfl hp
      | lineBreak => exact absurd rfl hp
      | boundary => exact absurd rfl hp

theorem lineFeeds_append (gap gap' : List Piece) :
    lineFeeds (gap ++ gap') = lineFeeds gap' ++ lineFeeds gap := by
  unfold lineFeeds
  rw [List.replicate_append_replicate, List.count_append, Nat.add_comm]

theorem lineFeeds_cons (p : Piece) (gap : List Piece) :
    lineFeeds (p :: gap) = lineFeeds gap ++ lineFeeds [p] := lineFeeds_append [p] gap

theorem lineFeeds_of_no_break {gap : List Piece} (h : .lineBreak ∉ gap) : lineFeeds gap = [] := by
  rw [lineFeeds, List.count_eq_zero.2 h, List.replicate_zero]

theorem reverse_lineFeeds (gap : List Piece) : (lineFeeds gap).reverse = lineFeeds gap :=
  List.reverse_replicate

theorem reverse_between (gap : List Piece) : (between gap).reverse = between gap := by
  unfold between
  split_ifs
  · exact reverse_lineFeeds gap
  · rfl
  · rfl
  · rfl

namespace Lines

theorem trimEnd_cons {c : Char} (hc : c ≠ ' ') (laid : List Char) :
    trimEnd (c :: laid) = c :: laid := by
  simp [trimEnd, hc]

theorem trimEnd_of_atLineStart {lines : Lines} (h : lines.atLineStart) :
    trimEnd lines.laid = lines.laid := by
  obtain ⟨laid, pending⟩ := lines
  cases laid with
  | nil => rfl
  | cons c laid =>
    obtain rfl : c = '\n' := by simpa [atLineStart] using h
    exact trimEnd_cons (by decide) laid

theorem add_of_atLineStart {lines : Lines} (h : lines.atLineStart) {p : Piece}
    (hp : p.char? = none) :
    (lines.add p).atLineStart ∧ (lines.add p).laid = lineFeeds [p] ++ lines.laid := by
  cases p with
  | char c => cases hp
  | space =>
    rw [add_space, h, Bool.true_or, if_pos rfl]
    exact ⟨h, rfl⟩
  | lineBreak =>
    refine ⟨rfl, ?_⟩
    change '\n' :: trimEnd lines.laid = _
    rw [trimEnd_of_atLineStart h]
    rfl
  | boundary => exact ⟨h, rfl⟩

theorem add_char_of_atLineStart {lines : Lines} (h : lines.atLineStart) (c : Char) :
    lines.add (.char c) = ⟨c :: lines.laid, false⟩ := by
  rw [add_char, h, Bool.not_true, Bool.and_false, if_neg Bool.false_ne_true]

theorem foldl_add_of_atLineStart {lines : Lines} (h : lines.atLineStart) {gap : List Piece}
    (hgap : ∀ p ∈ gap, p.char? = none) :
    (gap.foldl add lines).atLineStart ∧
      (gap.foldl add lines).laid = lineFeeds gap ++ lines.laid := by
  induction gap generalizing lines with
  | nil => exact ⟨h, rfl⟩
  | cons p gap ih =>
    obtain ⟨hstart, hlaid⟩ := add_of_atLineStart h (hgap p List.mem_cons_self)
    obtain ⟨hstart', hlaid'⟩ := ih hstart fun q hq => hgap q (List.mem_cons_of_mem p hq)
    refine ⟨hstart', ?_⟩
    rw [List.foldl_cons, hlaid', hlaid, lineFeeds_cons p gap, List.append_assoc]

section BehindChar

variable {c : Char} (hc : Text.isAsciiWhite c = false) (laid : List Char) {gap : List Piece}
  (hgap : ∀ p ∈ gap, p.char? = none)
include hc

theorem ne_space_and_ne_newline : c ≠ ' ' ∧ c ≠ '\n' := by
  constructor
  · rintro rfl
    cases hc
  · rintro rfl
    cases hc

theorem add_space_behind_char (pending : Bool) :
    add ⟨c :: laid, pending⟩ .space = ⟨' ' :: c :: laid, pending⟩ := by
  obtain ⟨hspace, hnewline⟩ := ne_space_and_ne_newline hc
  simp [add_space, atLineStart, hspace, hnewline]

theorem trimEnd_behind_char (p : Prop) [Decidable p] :
    trimEnd ((if p then [' '] else []) ++ c :: laid) = c :: laid := by
  have hend : trimEnd (c :: laid) = c :: laid := trimEnd_cons (ne_space_and_ne_newline hc).1 laid
  split
  · exact hend
  · exact hend

theorem atLineStart_behind_char (p : Prop) [Decidable p] (pending : Bool) :
    atLineStart ⟨(if p then [' '] else []) ++ c :: laid, pending⟩ = false := by
  split
  · rfl
  · exact beq_eq_false_iff_ne.2 (ne_space_and_ne_newline hc).2

include hgap

theorem foldl_add_of_no_break (hbreak : .lineBreak ∉ gap) :
    gap.foldl add ⟨c :: laid, false⟩ =
      ⟨(if .space ∈ gap then [' '] else []) ++ c :: laid, decide (.boundary ∈ gap)⟩ := by
  induction gap using List.reverseRecOn with
  | nil => rfl
  | append_singleton gap p ih =>
    have hgap' : ∀ q ∈ gap, q.char? = none := fun q hq => hgap q (List.mem_append_left [p] hq)
    have hbreak' : .lineBreak ∉ gap := fun h => hbreak (List.mem_append_left [p] h)
    rw [List.foldl_append, ih hgap' hbreak', List.foldl_cons, List.foldl_nil]
    cases p with
    | char d => cases hgap (.char d) (by simp)
    | space =>
      by_cases hspace : .space ∈ gap
      · simp [hspace, add_space]
      · simp [hspace, add_space_behind_char hc laid]
    | lineBreak => exact absurd (by simp) hbreak
    | boundary => simp [add]

theorem foldl_add_of_break (hbreak : .lineBreak ∈ gap) :
    (gap.foldl add ⟨c :: laid, false⟩).atLineStart ∧
      (gap.foldl add ⟨c :: laid, false⟩).laid = lineFeeds gap ++ c :: laid := by
  obtain ⟨front, rest, rfl, hfront⟩ := List.eq_append_cons_of_mem hbreak
  have hgap_front : ∀ p ∈ front, p.char? = none := fun p hp =>
    hgap p (List.mem_append_left _ hp)
  have hgap_rest : ∀ p ∈ rest, p.char? = none := fun p hp =>
    hgap p (List.mem_append_right _ (List.mem_cons_of_mem _ hp))
  have hnewLine : (front.foldl add ⟨c :: laid, false⟩).add .lineBreak =
      ⟨'\n' :: c :: laid, false⟩ := by
    rw [foldl_add_of_no_break hc laid hgap_front hfront, add, newLine, trimEnd_behind_char hc laid]
  have hstart : atLineStart ⟨'\n' :: c :: laid, false⟩ := rfl
  obtain ⟨hstart', hlaid⟩ := foldl_add_of_atLineStart hstart hgap_rest
  rw [List.foldl_append, List.foldl_cons, hnewLine]
  refine ⟨hstart', ?_⟩
  rw [hlaid, lineFeeds_append, lineFeeds_of_no_break hfront, List.append_nil, lineFeeds_cons,
    List.append_assoc]
  rfl

theorem text_foldl_add : (gap.foldl add ⟨c :: laid, false⟩).text =
    laid.reverse ++ c :: lineFeeds gap := by
  by_cases hbreak : .lineBreak ∈ gap
  · obtain ⟨hstart, hlaid⟩ := foldl_add_of_break hc laid hgap hbreak
    rw [text, trimEnd_of_atLineStart hstart, hlaid]
    simp [reverse_lineFeeds]
  · rw [foldl_add_of_no_break hc laid hgap hbreak, text, trimEnd_behind_char hc laid,
      lineFeeds_of_no_break hbreak, List.reverse_cons]

/-- The next character stands behind whatever is strongest in the gap. -/
theorem foldl_add_char (d : Char) : (gap.foldl add ⟨c :: laid, false⟩).add (.char d) =
    ⟨d :: (between gap ++ c :: laid), false⟩ := by
  by_cases hbreak : .lineBreak ∈ gap
  · obtain ⟨hstart, hlaid⟩ := foldl_add_of_break hc laid hgap hbreak
    rw [add_char_of_atLineStart hstart, hlaid, between, if_pos hbreak]
  · rw [foldl_add_of_no_break hc laid hgap hbreak, add_char, between, if_neg hbreak]
    by_cases hboundary : .boundary ∈ gap
    · have hline := atLineStart_behind_char hc laid (.space ∈ gap) true
      rw [if_pos hboundary, decide_eq_true hboundary, hline, newLine, trimEnd_behind_char hc laid]
      rfl
    · rw [if_neg hboundary, decide_eq_false hboundary]
      rfl

end BehindChar

/-- Behind a character, gaps and further characters are laid out by the rule. -/
theorem text_foldl_add_items {c : Char} {laid : List Char} {gap : List Piece}
    {items : List (Char × List Piece)} (hc : Text.isAsciiWhite c = false)
    (hgap : ∀ p ∈ gap, p.char? = none)
    (hitems : ∀ item ∈ items, Text.isAsciiWhite item.1 = false ∧ ∀ p ∈ item.2, p.char? = none) :
    ((gap ++ items.flatMap fun item => .char item.1 :: item.2).foldl add ⟨c :: laid, false⟩).text =
      laid.reverse ++ c :: goOn gap items := by
  induction items generalizing c laid gap with
  | nil =>
    rw [List.flatMap_nil, List.append_nil]
    exact text_foldl_add hc laid hgap
  | cons item items ih =>
    obtain ⟨d, next⟩ := item
    obtain ⟨hd, hnext⟩ := hitems (d, next) List.mem_cons_self
    rw [List.flatMap_cons, List.foldl_append, List.cons_append, List.foldl_cons,
      foldl_add_char hc laid hgap, ih hd hnext fun item hi => hitems item (List.mem_cons_of_mem _ hi)]
    simp [goOn, reverse_between]

end Lines

theorem Spaced.mem_pieces (s : Spaced) {item : Char × List Piece} (h : item ∈ s.items) :
    .char item.1 ∈ s.pieces :=
  List.mem_append_right _ (List.mem_flatMap.2 ⟨item, h, List.mem_cons_self⟩)

theorem layOut_pieces (s : Spaced) (hwhite : ∀ item ∈ s.items, Text.isAsciiWhite item.1 = false) :
    layOut s.pieces = s.text := by
  obtain ⟨front, items, hfront, hitems⟩ := s
  have hempty : Lines.empty.atLineStart := rfl
  obtain ⟨hstart, hlaid⟩ := Lines.foldl_add_of_atLineStart hempty hfront
  have hnil : Lines.empty.laid = [] := rfl
  rw [hnil, List.append_nil] at hlaid
  cases items with
  | nil =>
    rw [Spaced.pieces, List.flatMap_nil, List.append_nil, layOut, Lines.text,
      Lines.trimEnd_of_atLineStart hstart, hlaid]
    exact reverse_lineFeeds front
  | cons item items =>
    obtain ⟨c, gap⟩ := item
    have hitems' : ∀ item ∈ items,
        Text.isAsciiWhite item.1 = false ∧ ∀ p ∈ item.2, p.char? = none := fun item hi =>
      ⟨hwhite item (List.mem_cons_of_mem _ hi), hitems item (List.mem_cons_of_mem _ hi)⟩
    rw [Spaced.pieces, List.flatMap_cons, layOut, List.foldl_append, List.cons_append,
      List.foldl_cons, Lines.add_char_of_atLineStart hstart, hlaid,
      Lines.text_foldl_add_items (hwhite (c, gap) List.mem_cons_self)
        (hitems (c, gap) List.mem_cons_self) hitems', reverse_lineFeeds]
    rfl

/-- The text of an element is given by the rule for what its children show, which can always be
seen as characters with gaps around them. The tag of the element itself is not asked for. -/
theorem innerText_eq_rule (children : List Node) :
    (∃ s : Spaced, s.pieces = shownAll children) ∧
    ∀ s : Spaced, s.pieces = shownAll children → innerText children = String.ofList s.text := by
  refine ⟨exists_spaced _, fun s hs => ?_⟩
  have hwhite : ∀ item ∈ s.items, Text.isAsciiWhite item.1 = false := by
    intro item hi
    apply not_white_of_mem_shownAll
    rw [← hs]
    exact s.mem_pieces hi
  rw [innerText, piecesAll_eq, List.append_nil, ← hs, layOut_pieces s hwhite]

/-- A cell with boundaries beside white space, beside each other and beside a break. -/
def boxedCell : List Node :=
  [.text " a ", .element "div" [.element "p" [.text " b"]], .element "br" [],
    .element "div" [.text "c"], .text " "]

def boxedCellSpaced : Spaced where
  front := [.space]
  items := [('a', [.space, .boundary, .boundary, .space]),
    ('b', [.boundary, .boundary, .lineBreak, .boundary]), ('c', [.boundary, .space])]
  gap_front := by decide
  gap_items := by decide

theorem innerText_boxedCell :
    boxedCellSpaced.pieces = shownAll boxedCell ∧ innerText boxedCell = "a\nb\nc" := by
  have hpieces : boxedCellSpaced.pieces = shownAll boxedCell := by decide
  exact ⟨hpieces, (innerText_eq_rule boxedCell).2 boxedCellSpaced hpieces⟩

end CycleTable.Layout
