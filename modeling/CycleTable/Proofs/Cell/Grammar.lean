import CycleTable.Proofs.Cell
import CycleTable.Proofs.Outcome

/-! # The grammar of cells

A cell is read from its first line, which is the name, and from the second word of its second
line. Of that word the segments up to the second minus sign count. What stands in the other
words, segments and lines makes no difference.
-/
namespace CycleTable

open Numeral (IsRun isDigit)

namespace Text

/-- A line falls into words if these are runs of characters that are not white space, each of
them between white space or the ends of the line. -/
inductive FallsInto : List Char → List (List Char) → Prop
  | white {gap : List Char} (hgap : ∀ c ∈ gap, isWhite c) : FallsInto gap []
  | word {gap word rest : List Char} {words : List (List Char)} (hgap : ∀ c ∈ gap, isWhite c)
    (hne : word ≠ []) (hword : ∀ c ∈ word, isWhite c = false)
    (hrest : ∀ c ∈ rest.head?, isWhite c) (h : FallsInto rest words) :
    FallsInto (gap ++ (word ++ rest)) (word :: words)

theorem FallsInto.cons_white {c : Char} {cs : List Char} {words : List (List Char)}
    (hc : isWhite c) (h : FallsInto cs words) : FallsInto (c :: cs) words := by
  cases h with
  | white hgap => exact .white (List.forall_mem_cons.2 ⟨hc, hgap⟩)
  | @word gap word rest words hgap hne hword hrest h =>
    have hgap' : ∀ d ∈ c :: gap, isWhite d := List.forall_mem_cons.2 ⟨hc, hgap⟩
    exact .word hgap' hne hword hrest h

theorem fallsInto_words (cs : List Char) : FallsInto cs (words cs) := by
  induction cs using words.induct with
  | case1 =>
    rw [words_nil]
    exact .white (by simp)
  | case2 c cs hc ih =>
    rw [words_cons, if_pos hc]
    exact ih.cons_white hc
  | case3 c cs hc ih =>
    rw [words_cons, if_neg hc]
    have hword : ∀ d ∈ c :: cs.takeWhile fun d => !isWhite d, isWhite d = false := by
      refine List.forall_mem_cons.2 ⟨by simpa using hc, fun d hd => ?_⟩
      simpa using List.mem_takeWhile_imp hd
    have hrest : ∀ d ∈ (cs.dropWhile fun d => !isWhite d).head?, isWhite d := by
      intro d hd
      have hnot := List.head?_dropWhile_not (fun d => !isWhite d) cs
      rw [Option.mem_def.1 hd] at hnot
      simpa using hnot
    have hsplit : c :: cs = [] ++ ((c :: cs.takeWhile fun d => !isWhite d) ++
        cs.dropWhile fun d => !isWhite d) := by
      rw [List.nil_append, List.cons_append, List.takeWhile_append_dropWhile]
    rw [hsplit]
    exact .word (by simp) (by simp) hword hrest ih

theorem words_eq_iff {cs : List Char} {ws : List (List Char)} :
    words cs = ws ↔ FallsInto cs ws := by
  constructor
  · rintro rfl
    exact fallsInto_words cs
  · intro h
    induction h with
    | @white gap hgap =>
      have hwords := words_of_white hgap []
      rwa [List.append_nil, words_nil] at hwords
    | word hgap hne hword hrest h ih =>
      rw [words_of_white hgap, words_append hne hword hrest, ih]

end Text

namespace Timing

/-- What may stand behind the digits of a count: nothing, or one character that is no digit. -/
def EndsCount (unit : List Char) : Prop := unit = [] ∨ ∃ c, isDigit c = false ∧ unit = [c]

/-- A count as it may be written: digits with its value, perhaps with a plus sign in front, and
perhaps with a unit behind. -/
inductive CountOf (n : UInt32) : List Char → Prop
  | count {sign digits unit : List Char} (hsign : sign = [] ∨ sign = ['+'])
    (hdigits : IsRun isDigit digits) (hvalue : Numeral.value 10 digits = n.toNat)
    (hunit : EndsCount unit) : CountOf n (sign ++ digits ++ unit)

/-- The segments of a descriptor that count: the first one, and the second one if there is one.
What stands behind another minus sign is left out. -/
inductive Segments : List Char → List Char → Option (List Char) → Prop
  | one {first : List Char} (h : '-' ∉ first) : Segments first first none
  | two {first second behind : List Char} (h : '-' ∉ first) (h' : Text.Cut '-' second behind) :
    Segments (first ++ '-' :: behind) first (some second)

/-- The counts that segments give. One segment gives both. -/
inductive CountsOf (cycles branchTaken : UInt32) : List Char → Option (List Char) → Prop
  | one {first : List Char} (h : CountOf cycles first) (heq : branchTaken = cycles) :
    CountsOf cycles branchTaken first none
  | two {first second : List Char} (h : CountOf cycles first) (h' : CountOf branchTaken second) :
    CountsOf cycles branchTaken first (some second)

/-- The text of a cell with a name and with segments that count. They are those of the second
word of the second line. -/
inductive CellText (name first : List Char) (second : Option (List Char)) : List Char → Prop
  | lines {line below word descriptor : List Char} {words : List (List Char)}
    (hname : '\n' ∉ name) (hline : Text.Cut '\n' line below)
    (hwords : Text.FallsInto line (word :: descriptor :: words))
    (hsegments : Segments descriptor first second) :
    CellText name first second (name ++ '\n' :: below)

theorem withoutUnit_concat (front : List Char) (c : Char) :
    withoutUnit (front ++ [c]) = if isDigit c then front ++ [c] else front := by
  have hlast : (front ++ [c]).getLast? = some c := List.getLast?_concat
  simp only [withoutUnit, hlast, List.dropLast_concat]

theorem exists_unit (segment : List Char) :
    ∃ unit, EndsCount unit ∧ segment = withoutUnit segment ++ unit := by
  rcases List.eq_nil_or_concat segment with rfl | ⟨front, c, rfl⟩
  · exact ⟨[], Or.inl rfl, rfl⟩
  · rw [List.concat_eq_append, withoutUnit_concat]
    by_cases hc : isDigit c
    · rw [if_pos hc]
      exact ⟨[], Or.inl rfl, (List.append_nil _).symm⟩
    · rw [if_neg hc]
      exact ⟨[c], Or.inr ⟨c, by simpa using hc, rfl⟩, rfl⟩

theorem withoutUnit_append {front digits unit : List Char} (hdigits : IsRun isDigit digits)
    (hunit : EndsCount unit) : withoutUnit (front ++ digits ++ unit) = front ++ digits := by
  rcases hunit with rfl | ⟨c, hc, rfl⟩
  · -- The last character is the last of the digits, and so no unit.
    have hlast : isDigit (digits.getLast hdigits.1) := hdigits.2 _ (List.getLast_mem hdigits.1)
    rw [List.append_nil, ← List.dropLast_concat_getLast hdigits.1, ← List.append_assoc,
      withoutUnit_concat, if_pos hlast]
  · rw [withoutUnit_concat, hc, if_neg Bool.false_ne_true]

theorem readCount_eq_ok_iff {segment : List Char} {n : UInt32} :
    readCount segment = .ok n ↔ CountOf n segment := by
  rw [readCount, mapError_eq_ok_iff, Numeral.read_eq_ok_iff (by decide)]
  constructor
  · rintro ⟨sign, digits, hsign, hdigits, hvalue, heq⟩
    obtain ⟨unit, hunit, hsegment⟩ := exists_unit segment
    rw [hsegment, heq]
    exact .count hsign hdigits hvalue hunit
  · rintro ⟨hsign, hdigits, hvalue, hunit⟩
    exact ⟨_, _, hsign, hdigits, hvalue, withoutUnit_append hdigits hunit⟩

def readSegments (first : List Char) (second : Option (List Char)) :
    Except CellError (UInt32 × UInt32) := do
  let cycles ← readCount first
  match second with
  | none => return (cycles, cycles)
  | some second => return (cycles, ← readCount second)

theorem readSegments_eq_ok_iff {first : List Char} {second : Option (List Char)}
    {cycles branchTaken : UInt32} :
    readSegments first second = .ok (cycles, branchTaken) ↔
      CountsOf cycles branchTaken first second := by
  constructor
  · intro h
    obtain ⟨n, hfirst, h⟩ := bind_eq_ok_iff.1 h
    cases second with
    | none =>
      cases h
      exact .one (readCount_eq_ok_iff.1 hfirst) rfl
    | some second =>
      obtain ⟨m, hsecond, h⟩ := bind_eq_ok_iff.1 h
      cases h
      exact .two (readCount_eq_ok_iff.1 hfirst) (readCount_eq_ok_iff.1 hsecond)
  · intro h
    cases h with
    | one h heq =>
      subst heq
      exact bind_eq_ok_iff.2 ⟨_, readCount_eq_ok_iff.2 h, rfl⟩
    | two h h' =>
      refine bind_eq_ok_iff.2 ⟨_, readCount_eq_ok_iff.2 h, ?_⟩
      exact bind_eq_ok_iff.2 ⟨_, readCount_eq_ok_iff.2 h', rfl⟩

theorem Segments.readCounts_eq {descriptor first : List Char} {second : Option (List Char)}
    (h : Segments descriptor first second) :
    readCounts descriptor = readSegments first second := by
  cases h with
  | one h =>
    rw [readCounts, Text.before_eq_self h, Text.after?_eq_none h]
    rfl
  | two h h' =>
    rw [readCounts, Text.before_append h, Text.after?_append h]
    dsimp only
    rw [h'.before_eq]
    rfl

theorem exists_segments (descriptor : List Char) :
    ∃ first second, Segments descriptor first second := by
  by_cases hminus : '-' ∈ descriptor
  · obtain ⟨first, behind, rfl, hfirst⟩ := List.eq_append_cons_of_mem hminus
    exact ⟨first, some (Text.before '-' behind), .two hfirst (Text.cut_before '-' behind)⟩
  · exact ⟨descriptor, none, .one hminus⟩

theorem CellText.parseChars_eq {cell name first : List Char} {second : Option (List Char)}
    (h : CellText name first second cell) :
    parseChars cell = (readSegments first second).map fun counts =>
      ⟨String.ofList name, counts.1, counts.2⟩ := by
  obtain ⟨hname, hline, hwords, hsegments⟩ := h
  rw [parseChars, Text.after?_append hname, Text.before_append hname]
  dsimp only
  rw [hline.before_eq, Text.words_eq_iff.2 hwords]
  dsimp only [List.getElem?_cons_succ, List.getElem?_cons_zero]
  rw [hsegments.readCounts_eq]
  cases readSegments first second <;> rfl

inductive SecondLine (line : List Char) : List Char → Prop
  | lines {name below : List Char} (hname : '\n' ∉ name) (hline : Text.Cut '\n' line below) :
    SecondLine line (name ++ '\n' :: below)

theorem exists_shape (cell : List Char) :
    '\n' ∉ cell ∨ (∃ line, SecondLine line cell ∧ (Text.words line).length < 2) ∨
      ∃ name first second, CellText name first second cell := by
  by_cases hlines : '\n' ∈ cell
  · right
    obtain ⟨name, below, rfl, hname⟩ := List.eq_append_cons_of_mem hlines
    have hline := Text.cut_before '\n' below
    rcases hwords : Text.words (Text.before '\n' below) with _ | ⟨word, _ | ⟨descriptor, words⟩⟩
    · exact Or.inl ⟨_, .lines hname hline, by simp [hwords]⟩
    · exact Or.inl ⟨_, .lines hname hline, by simp [hwords]⟩
    · obtain ⟨first, second, hsegments⟩ := exists_segments descriptor
      exact Or.inr ⟨name, first, second,
        .lines hname hline (Text.words_eq_iff.1 hwords) hsegments⟩
  · exact Or.inl hlines

theorem parseChars_of_one_line {cell : List Char} (h : '\n' ∉ cell) :
    parseChars cell = .error .missingTimingLine := by
  rw [parseChars, Text.after?_eq_none h]

theorem SecondLine.parseChars_eq {line cell : List Char} (h : SecondLine line cell)
    (hfew : (Text.words line).length < 2) :
    parseChars cell = .error (.missingCycleDescriptor (String.ofList line)) := by
  obtain ⟨hname, hline⟩ := h
  have hnone : (Text.words line)[1]? = none := List.getElem?_eq_none (by omega)
  rw [parseChars, Text.after?_append hname]
  dsimp only
  rw [hline.before_eq, hnone]

theorem exists_cellText {cell : List Char} {timing : Timing} (h : parseChars cell = .ok timing) :
    ∃ name first second, CellText name first second cell := by
  rcases exists_shape cell with hline | ⟨line, hline, hfew⟩ | hcell
  · rw [parseChars_of_one_line hline] at h
    cases h
  · rw [hline.parseChars_eq hfew] at h
    cases h
  · exact hcell

theorem CellText.parseChars_eq_ok_iff {cell name first : List Char} {second : Option (List Char)}
    (h : CellText name first second cell) {timing : Timing} :
    parseChars cell = .ok timing ↔ timing.name = String.ofList name ∧
      CountsOf timing.cycles timing.branchTaken first second := by
  rw [h.parseChars_eq, ← readSegments_eq_ok_iff]
  constructor
  · intro hparse
    obtain ⟨counts, hcounts, rfl⟩ := map_eq_ok_iff.1 hparse
    exact ⟨rfl, hcounts⟩
  · rintro ⟨hname, hcounts⟩
    rw [hcounts, ← hname]
    rfl

theorem CellText.before_eq {cell name first : List Char} {second : Option (List Char)}
    (h : CellText name first second cell) : Text.before '\n' cell = name := by
  obtain ⟨hname, -, -, -⟩ := h
  exact Text.before_append hname _

theorem name_of_parse {text : String} {timing : Timing} (h : parse text = .ok timing) :
    timing.name = String.ofList (Text.before '\n' text.toList) := by
  obtain ⟨name, first, second, hcell⟩ := exists_cellText h
  rw [hcell.before_eq]
  exact (hcell.parseChars_eq_ok_iff.1 h).1

/-- A text is read as a cell exactly if it has the name in its first line and counts of the two
numbers in the second word of its second line. Two texts with the same name and the same
segments that count are read alike, whatever else they hold. -/
theorem parse_eq_ok_iff_counts (text : String) (timing : Timing) :
    (parse text = .ok timing ↔
      ∃ first second, CellText timing.name.toList first second text.toList ∧
        CountsOf timing.cycles timing.branchTaken first second) ∧
    (∀ (other : String) (name first : List Char) (second : Option (List Char)),
      CellText name first second text.toList → CellText name first second other.toList →
        parse other = parse text) := by
  refine ⟨⟨?_, ?_⟩, ?_⟩
  · intro h
    obtain ⟨name, first, second, hcell⟩ := exists_cellText h
    obtain ⟨hname, hcounts⟩ := hcell.parseChars_eq_ok_iff.1 h
    refine ⟨first, second, ?_, hcounts⟩
    rwa [hname, String.toList_ofList]
  · rintro ⟨first, second, hcell, hcounts⟩
    exact hcell.parseChars_eq_ok_iff.2 ⟨String.ofList_toList.symm, hcounts⟩
  · intro other name first second hcell hother
    rw [parse, parse, hcell.parseChars_eq, hother.parseChars_eq]

/-- A plus sign may be a sign and a unit, and a digit of another script is a unit. What stands
around the two counts makes no difference. -/
theorem signed_counts_read :
    parse "X\n+ +07+-9\u0663-t\n" = .ok ⟨"X", 7, 9⟩ ∧
    parse "X\n8 +07+-9\u0663 16t\nZ" = .ok ⟨"X", 7, 9⟩ := by
  have hname : '\n' ∉ "X".toList := by decide
  have hfirst : '-' ∉ "+07+".toList := by decide
  have hcell : CellText "X".toList "+07+".toList (some "9\u0663".toList)
      "X\n+ +07+-9\u0663-t\n".toList := by
    have hline : Text.Cut '\n' "+ +07+-9\u0663-t".toList "+ +07+-9\u0663-t\n".toList :=
      .ended (by decide) []
    have hwords : Text.words "+ +07+-9\u0663-t".toList =
        ["+".toList, "+07+-9\u0663-t".toList] := by decide +kernel
    have hbehind : Text.Cut '-' "9\u0663".toList "9\u0663-t".toList := .ended (by decide) ['t']
    exact .lines hname hline (Text.words_eq_iff.1 hwords) (.two hfirst hbehind)
  have hother : CellText "X".toList "+07+".toList (some "9\u0663".toList)
      "X\n8 +07+-9\u0663 16t\nZ".toList := by
    have hline : Text.Cut '\n' "8 +07+-9\u0663 16t".toList "8 +07+-9\u0663 16t\nZ".toList :=
      .ended (by decide) ['Z']
    have hwords : Text.words "8 +07+-9\u0663 16t".toList =
        ["8".toList, "+07+-9\u0663".toList, "16t".toList] := by decide +kernel
    have hbehind : Text.Cut '-' "9\u0663".toList "9\u0663".toList := .whole (by decide)
    exact .lines hname hline (Text.words_eq_iff.1 hwords) (.two hfirst hbehind)
  have hdigits : IsRun isDigit ['0', '7'] := ⟨by decide, List.all_eq_true.1 rfl⟩
  have hdigit : IsRun isDigit ['9'] := Numeral.isRun_singleton rfl
  have hseven : CountOf 7 "+07+".toList :=
    .count (Or.inr rfl) hdigits rfl (Or.inr ⟨'+', rfl, rfl⟩)
  have hnine : CountOf 9 "9\u0663".toList :=
    .count (Or.inl rfl) hdigit rfl (Or.inr ⟨'\u0663', rfl, rfl⟩)
  obtain ⟨hread, hsame⟩ := parse_eq_ok_iff_counts "X\n+ +07+-9\u0663-t\n" ⟨"X", 7, 9⟩
  have hparse := hread.2 ⟨_, _, hcell, .two hseven hnine⟩
  exact ⟨hparse, (hsame _ _ _ _ hcell hother).trans hparse⟩

end Timing
end CycleTable
