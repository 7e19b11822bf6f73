import CycleTable.Cell
import CycleTable.Proofs.Numeral
import Mathlib.Data.List.TakeWhile

/-! # Reading the text of a cell

A text is cut at the first line feed or minus sign, and a line falls into its words, whatever
white space stands between them. Counts with a unit read as they are written, and so does a
cell in which they are the second word of the second line.
-/
namespace CycleTable

namespace Text

theorem bne_of_not_mem {c : Char} {cs : List Char} (h : c ∉ cs) : ∀ d ∈ cs, (d != c) = true := by
  intro d hd
  rw [bne_iff_ne]
  rintro rfl
  exact h hd

theorem before_append {c : Char} {cs : List Char} (h : c ∉ cs) (rest : List Char) :
    before c (cs ++ c :: rest) = cs := by
  rw [before, List.takeWhile_append_of_pos (bne_of_not_mem h)]
  simp

theorem before_eq_self {c : Char} {cs : List Char} (h : c ∉ cs) : before c cs = cs :=
  List.takeWhile_eq_self_iff.2 (bne_of_not_mem h)

theorem not_mem_before (c : Char) (cs : List Char) : c ∉ before c cs := by
  intro h
  have hne := List.mem_takeWhile_imp h
  simp at hne

theorem after?_append {c : Char} {cs : List Char} (h : c ∉ cs) (rest : List Char) :
    after? c (cs ++ c :: rest) = some rest := by
  rw [after?, List.dropWhile_append_of_pos (bne_of_not_mem h)]
  simp

theorem after?_eq_none {c : Char} {cs : List Char} (h : c ∉ cs) : after? c cs = none := by
  rw [after?, List.dropWhile_eq_nil_iff.2 (bne_of_not_mem h)]
  rfl

/-- The part of a text in front of the first `c`: all of it, or what the first `c` ends. -/
inductive Cut (c : Char) (part : List Char) : List Char → Prop
  | whole (h : c ∉ part) : Cut c part part
  | ended (h : c ∉ part) (rest : List Char) : Cut c part (part ++ c :: rest)

theorem Cut.before_eq {c : Char} {part cs : List Char} (h : Cut c part cs) :
    before c cs = part := by
  cases h with
  | whole h => exact before_eq_self h
  | ended h rest => exact before_append h rest

theorem cut_before (c : Char) (cs : List Char) : Cut c (before c cs) cs := by
  by_cases hc : c ∈ cs
  · obtain ⟨part, rest, rfl, hpart⟩ := List.eq_append_cons_of_mem hc
    rw [before_append hpart]
    exact .ended hpart rest
  · rw [before_eq_self hc]
    exact .whole hc

theorem words_of_white {gap : List Char} (h : ∀ c ∈ gap, isWhite c) (cs : List Char) :
    words (gap ++ cs) = words cs := by
  induction gap with
  | nil => rfl
  | cons c gap ih =>
    rw [List.cons_append, words_cons, if_pos (h c List.mem_cons_self)]
    exact ih fun d hd => h d (List.mem_cons_of_mem c hd)

theorem words_append {word rest : List Char} (hne : word ≠ [])
    (hword : ∀ c ∈ word, isWhite c = false) (hrest : ∀ c ∈ rest.head?, isWhite c) :
    words (word ++ rest) = word :: words rest := by
  obtain ⟨c, cs, rfl⟩ := List.exists_cons_of_ne_nil hne
  have hcs : ∀ d ∈ cs, (!isWhite d) = true := fun d hd => by
    simp [hword d (List.mem_cons_of_mem c hd)]
  have hend : ∀ d ∈ rest.head?, (!isWhite d) = false := fun d hd => by simp [hrest d hd]
  obtain ⟨htake, hdrop⟩ := span_append hcs hend
  have hc : ¬ isWhite c := by simp [hword c List.mem_cons_self]
  rw [List.cons_append, words_cons, if_neg hc, htake, hdrop]

theorem isWhite_of_isDigit {c : Char} (h : Numeral.isDigit c) : isWhite c = false := by
  have := Numeral.isDigit_iff.1 h
  simp only [isWhite, Bool.or_eq_false_iff, Bool.and_eq_false_iff, decide_eq_false_iff_not,
    beq_eq_false_iff_ne]
  omega

theorem isWhite_of_isAsciiWhite {c : Char} (h : isAsciiWhite c) : isWhite c := by
  simp only [isAsciiWhite, Bool.or_eq_true, beq_iff_eq] at h
  rcases h with (((rfl | rfl) | rfl) | rfl) | rfl <;> rfl

end Text

namespace Timing

def countText (n : UInt32) : List Char := Numeral.decimal n.toNat ++ ['t']

theorem readCount_countText (n : UInt32) : readCount (countText n) = .ok n := by
  have hunit : withoutUnit (countText n) = Numeral.decimal n.toNat := by
    have hlast : (countText n).getLast? = some 't' := List.getLast?_concat
    have hunit : Numeral.isDigit 't' = false := by decide
    simp only [withoutUnit, hlast, hunit]
    exact List.dropLast_concat
  rw [readCount, hunit, Numeral.read_decimal]
  rfl

theorem isDigit_or_eq_of_mem_countText {n : UInt32} {c : Char} (h : c ∈ countText n) :
    Numeral.isDigit c ∨ c = 't' := by
  rcases List.mem_append.1 h with h | h
  · exact Or.inl ((Numeral.isRun_decimal n.toNat).2 c h)
  · exact Or.inr (List.mem_singleton.1 h)

theorem isWhite_countText {n : UInt32} {c : Char} (h : c ∈ countText n) :
    Text.isWhite c = false := by
  rcases isDigit_or_eq_of_mem_countText h with h | rfl
  · exact Text.isWhite_of_isDigit h
  · decide

theorem not_mem_minus_countText (n : UInt32) : '-' ∉ countText n := by
  intro h
  rcases isDigit_or_eq_of_mem_countText h with h | h
  · revert h
    decide
  · revert h
    decide

theorem readCounts_one (n : UInt32) : readCounts (countText n) = .ok (n, n) := by
  have hminus := not_mem_minus_countText n
  rw [readCounts, Text.before_eq_self hminus, Text.after?_eq_none hminus, readCount_countText]
  rfl

theorem readCounts_two (cycles branchTaken : UInt32) :
    readCounts (countText cycles ++ '-' :: countText branchTaken) = .ok (cycles, branchTaken) := by
  have hminus := not_mem_minus_countText cycles
  rw [readCounts, Text.before_append hminus, Text.after?_append hminus, readCount_countText]
  dsimp only [bind, Except.bind]
  rw [Text.before_eq_self (not_mem_minus_countText branchTaken), readCount_countText]
  rfl

theorem parseChars_of_lines {name line descriptor : List Char} {cycles branchTaken : UInt32}
    (hname : '\n' ∉ name) (hline : '\n' ∉ line) (hword : (Text.words line)[1]? = some descriptor)
    (hcounts : readCounts descriptor = .ok (cycles, branchTaken)) (rest : List Char) :
    parseChars (name ++ '\n' :: (line ++ '\n' :: rest)) =
      .ok ⟨String.ofList name, cycles, branchTaken⟩ := by
  rw [parseChars, Text.after?_append hname, Text.before_append hname]
  dsimp only
  rw [Text.before_append hline, hword]
  dsimp only
  rw [hcounts]
  rfl

end Timing
end CycleTable
