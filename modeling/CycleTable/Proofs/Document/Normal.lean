import CycleTable.Proofs.Cell
import CycleTable.Proofs.Document.Spacing

/-! # Normal texts

Of white space a layout leaves single spaces between other characters, and line feeds. This is
kept by every piece that is added, so that it holds of the text of any element and of each of
its lines. No other character is lost or made up.
-/
namespace CycleTable.Layout

/-- A text in which white space is normal: spaces stand alone, inside a line, and the only other
white space are the line feeds. -/
structure Normal (cs : List Char) : Prop where
  spaces : ∀ c ∈ cs, Text.isAsciiWhite c → c = ' ' ∨ c = '\n'
  single : ¬ [' ', ' '] <:+: cs
  lineEnd : ¬ [' ', '\n'] <:+: cs
  lineStart : ¬ ['\n', ' '] <:+: cs
  first : cs.head? ≠ some ' '
  last : cs.getLast? ≠ some ' '

theorem Normal.tidy_before {cs : List Char} (h : Normal cs) : Tidy (Text.before '\n' cs) := by
  have hcut := Text.cut_before '\n' cs
  have hnone := Text.not_mem_before '\n' cs
  have hpre : Text.before '\n' cs <+: cs := List.takeWhile_prefix _
  refine ⟨fun c hc hwhite => ?_, fun hdouble => h.single (hdouble.trans hpre.isInfix), ?_, ?_⟩
  · rcases h.spaces c (hpre.subset hc) hwhite with rfl | rfl
    · rfl
    · exact absurd hc hnone
  · intro hfirst
    obtain ⟨line, hline⟩ := List.head?_eq_some_iff.1 hfirst
    rw [hline] at hpre
    obtain ⟨rest, rfl⟩ := hpre
    exact h.first rfl
  · intro hlast
    obtain ⟨line, hline⟩ := List.getLast?_eq_some_iff.1 hlast
    rw [hline] at hcut
    cases hcut with
    | whole => exact h.last List.getLast?_concat
    | ended _ rest => exact h.lineEnd ⟨line, rest, by simp⟩

namespace Lines

/-- What is laid out, its last character first: a space stands behind a character that is no
white space, and never in front of a line feed. -/
inductive Clean : List Char → Prop
  | nil : Clean []
  | char {c : Char} {laid : List Char} (hc : Text.isAsciiWhite c = false) (h : Clean laid) :
    Clean (c :: laid)
  | lineFeed {laid : List Char} (hend : laid.head? ≠ some ' ') (h : Clean laid) :
    Clean ('\n' :: laid)
  | space {c : Char} {laid : List Char} (hc : Text.isAsciiWhite c = false) (h : Clean (c :: laid)) :
    Clean (' ' :: c :: laid)

theorem Clean.trimEnd {laid : List Char} (h : Clean laid) :
    Clean (trimEnd laid) ∧ (Lines.trimEnd laid).head? ≠ some ' ' := by
  cases h with
  | nil => exact ⟨.nil, by simp [Lines.trimEnd]⟩
  | @char c laid hc h =>
    have hspace := (ne_space_and_ne_newline hc).1
    rw [trimEnd_cons hspace]
    exact ⟨.char hc h, by simpa using hspace⟩
  | @lineFeed laid hend h =>
    rw [trimEnd_cons (by decide)]
    exact ⟨.lineFeed hend h, by simp⟩
  | @space c laid hc h =>
    have hspace := (ne_space_and_ne_newline hc).1
    have htrim : Lines.trimEnd (' ' :: c :: laid) = c :: laid := trimEnd_cons hspace laid
    rw [htrim]
    exact ⟨h, by simpa using hspace⟩

theorem Clean.newLine {lines : Lines} (h : Clean lines.laid) : Clean lines.newLine.laid :=
  .lineFeed h.trimEnd.2 h.trimEnd.1

theorem Clean.add {lines : Lines} (h : Clean lines.laid) {p : Piece}
    (hp : ∀ c, p = .char c → Text.isAsciiWhite c = false) : Clean (lines.add p).laid := by
  cases p with
  | char c =>
    rw [add_char]
    split
    · exact .char (hp c rfl) h.newLine
    · exact .char (hp c rfl) h
  | space =>
    obtain ⟨laid, pending⟩ := lines
    rw [add_space]
    split
    next => exact h
    next hline =>
      -- The last character stands on this line and is no space.
      cases h with
      | nil => simp [atLineStart] at hline
      | char hc h => exact .space hc (.char hc h)
      | lineFeed hend h => simp [atLineStart] at hline
      | space hc h => simp at hline
  | lineBreak => exact h.newLine
  | boundary => exact h

theorem Clean.foldl_add {ps : List Piece} (hps : ∀ c, .char c ∈ ps → Text.isAsciiWhite c = false)
    {lines : Lines} (h : Clean lines.laid) : Clean (ps.foldl Lines.add lines).laid := by
  induction ps generalizing lines with
  | nil => exact h
  | cons p ps ih =>
    have hp : ∀ c, p = .char c → Text.isAsciiWhite c = false := by
      rintro c rfl
      exact hps c List.mem_cons_self
    exact ih (fun c hc => hps c (List.mem_cons_of_mem p hc)) (h.add hp)

theorem Clean.spaces {laid : List Char} (h : Clean laid) :
    ∀ c ∈ laid, Text.isAsciiWhite c → c = ' ' ∨ c = '\n' := by
  induction h with
  | nil => simp
  | char hc h ih => exact List.forall_mem_cons.2 ⟨fun hwhite => by simp [hc] at hwhite, ih⟩
  | lineFeed hend h ih => exact List.forall_mem_cons.2 ⟨fun _ => Or.inr rfl, ih⟩
  | space hc h ih => exact List.forall_mem_cons.2 ⟨fun _ => Or.inl rfl, ih⟩

theorem Clean.beside_space {laid : List Char} (h : Clean laid) {c d : Char}
    (hcd : [c, d] <:+: laid) :
    (c = ' ' → Text.isAsciiWhite d = false) ∧ (d = ' ' → Text.isAsciiWhite c = false) := by
  induction h with
  | nil => simp at hcd
  | @char e laid he h ih =>
    rcases List.infix_cons_iff.1 hcd with hfirst | hrest
    · obtain ⟨rfl, -⟩ := List.cons_prefix_cons.1 hfirst
      exact ⟨fun hspace => absurd hspace (ne_space_and_ne_newline he).1, fun _ => he⟩
    · exact ih hrest
  | @lineFeed laid hend h ih =>
    rcases List.infix_cons_iff.1 hcd with hfirst | hrest
    · obtain ⟨rfl, hd⟩ := List.cons_prefix_cons.1 hfirst
      refine ⟨fun hspace => absurd hspace (by decide), ?_⟩
      rintro rfl
      obtain ⟨rest, rfl⟩ := hd
      exact absurd rfl hend
    · exact ih hrest
  | @space e laid he h ih =>
    rcases List.infix_cons_iff.1 hcd with hfirst | hrest
    · obtain ⟨rfl, hd⟩ := List.cons_prefix_cons.1 hfirst
      obtain ⟨rfl, -⟩ := List.cons_prefix_cons.1 hd
      exact ⟨fun _ => he, fun hspace => absurd hspace (ne_space_and_ne_newline he).1⟩
    · exact ih hrest

theorem Clean.getLast? {laid : List Char} (h : Clean laid) : laid.getLast? ≠ some ' ' := by
  induction h with
  | nil => simp
  | @char c laid hc h ih =>
    cases laid with
    | nil => simpa using (ne_space_and_ne_newline hc).1
    | cons d laid => simpa [List.getLast?_cons_cons] using ih
  | @lineFeed laid hend h ih =>
    cases laid with
    | nil => simp
    | cons d laid => simpa [List.getLast?_cons_cons] using ih
  | space hc h ih => simpa [List.getLast?_cons_cons] using ih

theorem infix_of_infix_reverse {c d : Char} {cs : List Char} (h : [c, d] <:+: cs.reverse) :
    [d, c] <:+: cs := by
  simpa using List.reverse_infix.2 h

theorem Clean.normal {laid : List Char} (h : Clean laid) (hend : laid.head? ≠ some ' ') :
    Normal laid.reverse where
  spaces c hc hwhite := h.spaces c (List.mem_reverse.1 hc) hwhite
  single hpair := absurd ((h.beside_space (infix_of_infix_reverse hpair)).1 rfl) (by decide)
  lineEnd hpair := absurd ((h.beside_space (infix_of_infix_reverse hpair)).2 rfl) (by decide)
  lineStart hpair := absurd ((h.beside_space (infix_of_infix_reverse hpair)).1 rfl) (by decide)
  first := by
    rw [List.head?_reverse]
    exact h.getLast?
  last := by
    rw [List.getLast?_reverse]
    exact hend

end Lines

theorem normal_layOut {ps : List Piece} (hps : ∀ c, .char c ∈ ps → Text.isAsciiWhite c = false) :
    Normal (layOut ps) := by
  have hempty : Lines.Clean Lines.empty.laid := .nil
  have hclean := hempty.foldl_add hps
  exact hclean.trimEnd.1.normal hclean.trimEnd.2

theorem normal_innerText (children : List Node) : Normal (innerText children).toList := by
  rw [toList_innerText]
  exact normal_layOut fun c hc => not_white_of_mem_shownAll hc

def isKept (c : Char) : Bool := !Text.isAsciiWhite c

namespace Lines

theorem filter_trimEnd (laid : List Char) : (trimEnd laid).filter isKept = laid.filter isKept := by
  induction laid with
  | nil => rfl
  | cons c laid ih =>
    by_cases hc : c = ' '
    · subst hc
      exact ih
    · rw [trimEnd_cons hc]

theorem filter_newLine (lines : Lines) :
    lines.newLine.laid.filter isKept = lines.laid.filter isKept := filter_trimEnd lines.laid

theorem filter_add (lines : Lines) {p : Piece} (hp : ∀ c, p = .char c → isKept c) :
    (lines.add p).laid.filter isKept = p.char?.toList ++ lines.laid.filter isKept := by
  cases p with
  | char c =>
    rw [add_char, List.filter_cons_of_pos (hp c rfl)]
    split
    · rw [filter_newLine]
      rfl
    · rfl
  | space =>
    rw [add_space]
    split
    · rfl
    · rfl
  | lineBreak => exact filter_newLine lines
  | boundary => rfl

theorem filter_foldl_add (lines : Lines) {ps : List Piece} (hps : ∀ c, .char c ∈ ps → isKept c) :
    (ps.foldl add lines).laid.filter isKept =
      (ps.filterMap Piece.char?).reverse ++ lines.laid.filter isKept := by
  induction ps generalizing lines with
  | nil => rfl
  | cons p ps ih =>
    have hp : ∀ c, p = .char c → isKept c := by
      rintro c rfl
      exact hps c List.mem_cons_self
    rw [List.foldl_cons, ih (lines.add p) fun c hc => hps c (List.mem_cons_of_mem p hc),
      filter_add lines hp]
    rw [List.filterMap_cons]
    cases p.char? <;> simp

end Lines

/-- White space apart, the text of an element has the characters of its markup, in order. -/
theorem filter_innerText (children : List Node) :
    (innerText children).toList.filter isKept = (shownAll children).filterMap Piece.char? := by
  have hkept : ∀ c, .char c ∈ shownAll children → isKept c := by
    intro c hc
    simp [isKept, not_white_of_mem_shownAll hc]
  rw [toList_innerText, layOut, Lines.text, List.filter_reverse, Lines.filter_trimEnd,
    Lines.filter_foldl_add Lines.empty hkept]
  simp [Lines.empty]

end CycleTable.Layout
