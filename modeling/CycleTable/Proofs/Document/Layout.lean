import CycleTable.Document
import Mathlib.Data.List.TakeWhile

/-! # Lines of a layout

A break ends a line for good: what is laid out behind it is laid out as if nothing stood in
front, and the spaces dropped behind it are never those in front. A text in which spaces stand
only one at a time between other characters is laid out as it is.
-/
namespace CycleTable.Layout

namespace Lines

/-- The same text, standing behind other lines, whose last character comes first. -/
def behind (lines : Lines) (front : List Char) : Lines :=
  ⟨lines.laid ++ '\n' :: front, lines.pending⟩

theorem trimEnd_behind (laid front : List Char) :
    trimEnd (laid ++ '\n' :: front) = trimEnd laid ++ '\n' :: front := by
  induction laid with
  | nil => rfl
  | cons c laid ih =>
    unfold trimEnd at ih ⊢
    rw [List.cons_append, List.dropWhile_cons, List.dropWhile_cons]
    split
    · exact ih
    · rfl

theorem atLineStart_behind (lines : Lines) (front : List Char) :
    (lines.behind front).atLineStart = lines.atLineStart := by
  obtain ⟨laid, pending⟩ := lines
  cases laid <;> rfl

theorem newLine_behind (lines : Lines) (front : List Char) :
    (lines.behind front).newLine = lines.newLine.behind front := by
  simp only [newLine, behind, trimEnd_behind, List.cons_append]

theorem endsInSpace_behind (lines : Lines) (front : List Char) :
    ((lines.behind front).laid.head? == some ' ') = (lines.laid.head? == some ' ') := by
  obtain ⟨laid, pending⟩ := lines
  cases laid <;> rfl

theorem add_char (lines : Lines) (c : Char) :
    lines.add (.char c) =
      ⟨c :: (if lines.pending && !lines.atLineStart then lines.newLine else lines).laid, false⟩ :=
  rfl

theorem add_space (lines : Lines) :
    lines.add .space =
      if lines.atLineStart || lines.laid.head? == some ' ' then lines
      else ⟨' ' :: lines.laid, lines.pending⟩ := rfl

theorem add_behind (lines : Lines) (front : List Char) (p : Piece) :
    (lines.behind front).add p = (lines.add p).behind front := by
  cases p with
  | char c =>
    have hpending : (lines.behind front).pending = lines.pending := rfl
    rw [add_char, add_char, atLineStart_behind, newLine_behind, hpending]
    split
    · rfl
    · rfl
  | space =>
    rw [add_space, add_space, atLineStart_behind, endsInSpace_behind]
    split
    · rfl
    · rfl
  | lineBreak => exact newLine_behind lines front
  | boundary => rfl

theorem foldl_add_behind (lines : Lines) (front : List Char) (ps : List Piece) :
    ps.foldl add (lines.behind front) = (ps.foldl add lines).behind front := by
  induction ps generalizing lines with
  | nil => rfl
  | cons p ps ih => rw [List.foldl_cons, List.foldl_cons, add_behind, ih]

theorem text_behind (lines : Lines) (front : List Char) :
    (lines.behind front).text = front.reverse ++ '\n' :: lines.text := by
  simp [text, behind, trimEnd_behind]

end Lines

theorem layOut_lineBreak (ps qs : List Piece) :
    layOut (ps ++ .lineBreak :: qs) = layOut ps ++ '\n' :: layOut qs := by
  -- The break leaves the lines in front as if nothing were laid out behind them yet.
  have hbreak : ((ps.foldl Lines.add .empty).add .lineBreak) =
      Lines.empty.behind (Lines.trimEnd (ps.foldl Lines.add .empty).laid) := rfl
  unfold layOut
  rw [List.foldl_append, List.foldl_cons, hbreak, Lines.foldl_add_behind, Lines.text_behind]
  rfl

/-- A line as a layout leaves it: of white space it has only spaces, each of them alone and
between two other characters. -/
structure Tidy (cs : List Char) : Prop where
  spaces : ∀ c ∈ cs, Text.isAsciiWhite c → c = ' '
  single : ¬ [' ', ' '] <:+: cs
  first : cs.head? ≠ some ' '
  last : cs.getLast? ≠ some ' '

theorem tidy_iff {cs : List Char} :
    Tidy cs ↔ cs.all (fun c => !Text.isAsciiWhite c || c == ' ') ∧ ¬ [' ', ' '] <:+: cs ∧
      cs.head? ≠ some ' ' ∧ cs.getLast? ≠ some ' ' := by
  have hall : (∀ c ∈ cs, Text.isAsciiWhite c → c = ' ') ↔
      cs.all (fun c => !Text.isAsciiWhite c || c == ' ') := by
    simp [List.all_eq_true, or_iff_not_imp_left]
  rw [← hall]
  constructor
  · rintro ⟨hspaces, hsingle, hfirst, hlast⟩
    exact ⟨hspaces, hsingle, hfirst, hlast⟩
  · rintro ⟨hspaces, hsingle, hfirst, hlast⟩
    exact ⟨hspaces, hsingle, hfirst, hlast⟩

theorem foldl_add_charPiece {cs laid : List Char}
    (hspaces : ∀ c ∈ cs, Text.isAsciiWhite c → c = ' ') (hsingle : ¬ [' ', ' '] <:+: cs)
    (hfirst : cs.head? = some ' ' → ∃ c rest, laid = c :: rest ∧ c ≠ ' ' ∧ c ≠ '\n') :
    (cs.map charPiece).foldl Lines.add ⟨laid, false⟩ = ⟨cs.reverse ++ laid, false⟩ := by
  induction cs generalizing laid with
  | nil => rfl
  | cons c cs ih =>
    have hspaces' : ∀ d ∈ cs, Text.isAsciiWhite d → d = ' ' := fun d hd =>
      hspaces d (List.mem_cons_of_mem c hd)
    have hsingle' : ¬ [' ', ' '] <:+: cs := fun h => hsingle (List.infix_cons h)
    have hadd : Lines.add ⟨laid, false⟩ (charPiece c) = ⟨c :: laid, false⟩ := by
      by_cases hc : Text.isAsciiWhite c
      · obtain rfl := hspaces c List.mem_cons_self hc
        obtain ⟨d, rest, rfl, hd, hd'⟩ := hfirst rfl
        simp [charPiece, Text.isAsciiWhite, Lines.add, Lines.atLineStart, hd, hd']
      · simp [charPiece, hc, Lines.add]
    -- A space that follows stands behind `c`, which is no space by `hsingle`.
    have hnext : cs.head? = some ' ' → ∃ d rest, c :: laid = d :: rest ∧ d ≠ ' ' ∧ d ≠ '\n' := by
      intro hhead
      obtain ⟨cs, rfl⟩ := List.head?_eq_some_iff.1 hhead
      refine ⟨c, laid, rfl, ?_, ?_⟩
      · rintro rfl
        exact hsingle ⟨[], cs, rfl⟩
      · rintro rfl
        exact absurd (hspaces '\n' List.mem_cons_self rfl) (by decide)
    rw [List.map_cons, List.foldl_cons, hadd, ih hspaces' hsingle' hnext, List.reverse_cons,
      List.append_assoc, List.singleton_append]

theorem layOut_of_tidy {cs : List Char} (h : Tidy cs) : layOut (cs.map charPiece) = cs := by
  have hend : Lines.trimEnd cs.reverse = cs.reverse := by
    have hhead : cs.reverse.head? ≠ some ' ' := by
      rw [List.head?_reverse]
      exact h.last
    exact List.dropWhile_beq_eq_self_of_head?_ne hhead
  unfold layOut Lines.empty
  rw [foldl_add_charPiece h.spaces h.single fun hhead => absurd hhead h.first, List.append_nil,
    Lines.text, hend, List.reverse_reverse]

theorem tidy_of_no_white {cs : List Char} (h : ∀ c ∈ cs, ¬ Text.isAsciiWhite c) : Tidy cs where
  spaces c hc hw := absurd hw (h c hc)
  single hdouble := h ' ' (hdouble.subset List.mem_cons_self) rfl
  first hhead := h ' ' (List.mem_of_mem_head? hhead) rfl
  last hlast := h ' ' (List.mem_of_getLast? hlast) rfl

theorem not_mem_newline_of_tidy {cs : List Char} (h : Tidy cs) : '\n' ∉ cs := fun hmem =>
  absurd (h.spaces '\n' hmem rfl) (by decide)

theorem innerText_lines {first second : String} (hfirst : Tidy first.toList)
    (hsecond : Tidy second.toList) (third : String) :
    innerText [.text first, .element "br" [], .text second, .element "br" [], .text third] =
      String.ofList (first.toList ++ '\n' :: (second.toList ++
        '\n' :: layOut (third.toList.map charPiece))) := by
  have hpieces : piecesAll [.text first, .element "br" [], .text second, .element "br" [],
      .text third] [] = first.toList.map charPiece ++ .lineBreak :: (second.toList.map charPiece ++
        .lineBreak :: third.toList.map charPiece) := by
    simp [piecesAll, pieces]
  rw [innerText, hpieces, layOut_lineBreak, layOut_lineBreak, layOut_of_tidy hfirst,
    layOut_of_tidy hsecond]

end CycleTable.Layout
