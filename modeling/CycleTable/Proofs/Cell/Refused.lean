import CycleTable.Proofs.Cell.Grammar

/-! # Why a cell is refused

A cell is refused if it has no second line, or if that line has no second word. What else can be
wrong is one of the two segments that count. The first such segment is named as it stands, with
its unit, and the reason is what is wrong with it from the left when the unit is taken off.
-/
namespace CycleTable

open Numeral (isDigit)

namespace Timing

/-- A segment and what is left of it without its unit. A last character that is no digit is
the unit. -/
inductive Unitless : List Char → List Char → Prop
  | unit {front : List Char} {c : Char} (hc : isDigit c = false) : Unitless (front ++ [c]) front
  | none {segment : List Char} (h : ∀ c ∈ segment.getLast?, isDigit c) : Unitless segment segment

theorem Unitless.withoutUnit_eq {segment front : List Char} (h : Unitless segment front) :
    withoutUnit segment = front := by
  cases h with
  | unit hc => rw [withoutUnit_concat, hc, if_neg Bool.false_ne_true]
  | none h =>
    unfold withoutUnit
    split
    next c hc => rw [if_pos (h c hc)]
    next => rfl

theorem unitless_withoutUnit (segment : List Char) : Unitless segment (withoutUnit segment) := by
  rcases List.eq_nil_or_concat segment with rfl | ⟨front, c, rfl⟩
  · exact .none (by simp)
  · rw [List.concat_eq_append, withoutUnit_concat]
    by_cases hc : isDigit c
    · rw [if_pos hc]
      exact .none (by simpa using hc)
    · rw [if_neg hc]
      exact .unit (by simpa using hc)

def IsCount (segment : List Char) : Prop := ∃ n, CountOf n segment

/-- A segment is no count, because of what is wrong with it when its unit is taken off. -/
def NoCount (reason : NumeralError) (segment : List Char) : Prop :=
  ∃ front, Unitless segment front ∧ Numeral.Wrong 10 reason front

theorem readCount_eq_error_iff {segment : List Char} {e : CellError} :
    readCount segment = .error e ↔
      ∃ reason, NoCount reason segment ∧ e = .badCycleCount (String.ofList segment) reason := by
  rw [readCount, mapError_eq_error_iff]
  simp only [Numeral.read_eq_error_iff (by decide : 0 < 10)]
  constructor
  · rintro ⟨reason, hwrong, rfl⟩
    exact ⟨reason, ⟨_, unitless_withoutUnit segment, hwrong⟩, rfl⟩
  · rintro ⟨reason, ⟨front, hfront, hwrong⟩, rfl⟩
    exact ⟨reason, hfront.withoutUnit_eq ▸ hwrong, rfl⟩

theorem not_isCount_iff {segment : List Char} :
    ¬ IsCount segment ↔ ∃ reason, NoCount reason segment := by
  simp only [IsCount, ← readCount_eq_ok_iff]
  constructor
  · intro hnot
    cases h : readCount segment with
    | ok n => exact absurd ⟨n, h⟩ hnot
    | error e =>
      obtain ⟨reason, hreason, -⟩ := readCount_eq_error_iff.1 h
      exact ⟨reason, hreason⟩
  · rintro ⟨reason, hreason⟩ ⟨n, hn⟩
    rw [readCount_eq_error_iff.2 ⟨reason, hreason, rfl⟩] at hn
    cases hn

/-- The first of the segments that is no count, and the reason. -/
inductive FirstBad (reason : NumeralError) (segment : List Char) :
    List Char → Option (List Char) → Prop
  | first {second : Option (List Char)} (h : NoCount reason segment) :
    FirstBad reason segment segment second
  | second {first : List Char} (hfirst : IsCount first) (h : NoCount reason segment) :
    FirstBad reason segment first (some segment)

theorem readSegments_eq_error_iff {first : List Char} {second : Option (List Char)}
    {e : CellError} :
    readSegments first second = .error e ↔
      ∃ segment reason, FirstBad reason segment first second ∧
        e = .badCycleCount (String.ofList segment) reason := by
  rw [readSegments, bind_eq_error_iff]
  constructor
  · rintro (hfirst | ⟨n, hfirst, h⟩)
    · obtain ⟨reason, hreason, rfl⟩ := readCount_eq_error_iff.1 hfirst
      exact ⟨first, reason, .first hreason, rfl⟩
    · cases second with
      | none => cases h
      | some second =>
        rcases bind_eq_error_iff.1 h with hsecond | ⟨m, -, h⟩
        · obtain ⟨reason, hreason, rfl⟩ := readCount_eq_error_iff.1 hsecond
          exact ⟨second, reason, .second ⟨n, readCount_eq_ok_iff.1 hfirst⟩ hreason, rfl⟩
        · cases h
  · rintro ⟨segment, reason, hbad, rfl⟩
    cases hbad with
    | first h => exact Or.inl (readCount_eq_error_iff.2 ⟨reason, h, rfl⟩)
    | second hfirst h =>
      obtain ⟨n, hn⟩ := hfirst
      refine Or.inr ⟨n, readCount_eq_ok_iff.2 hn, ?_⟩
      exact bind_eq_error_iff.2 (Or.inl (readCount_eq_error_iff.2 ⟨reason, h, rfl⟩))

inductive Refused (cell : List Char) : CellError → Prop
  | oneLine (h : '\n' ∉ cell) : Refused cell .missingTimingLine
  | fewWords {line : List Char} {words : List (List Char)} (hline : SecondLine line cell)
    (hwords : Text.FallsInto line words) (hfew : words.length < 2) :
    Refused cell (.missingCycleDescriptor (String.ofList line))
  | noCount {name first segment : List Char} {second : Option (List Char)} {reason : NumeralError}
    (hcell : CellText name first second cell) (h : FirstBad reason segment first second) :
    Refused cell (.badCycleCount (String.ofList segment) reason)

theorem Refused.parseChars_eq {cell : List Char} {e : CellError} (h : Refused cell e) :
    parseChars cell = .error e := by
  cases h with
  | oneLine h => exact parseChars_of_one_line h
  | fewWords hline hwords hfew =>
    rw [← Text.words_eq_iff.2 hwords] at hfew
    exact hline.parseChars_eq hfew
  | noCount hcell h =>
    rw [hcell.parseChars_eq, map_eq_error_iff]
    exact readSegments_eq_error_iff.2 ⟨_, _, h, rfl⟩

theorem parseChars_eq_error_iff {cell : List Char} {e : CellError} :
    parseChars cell = .error e ↔ Refused cell e := by
  refine ⟨fun h => ?_, Refused.parseChars_eq⟩
  rcases exists_shape cell with hline | ⟨line, hline, hfew⟩ | ⟨name, first, second, hcell⟩
  · rw [parseChars_of_one_line hline] at h
    obtain rfl := Except.error.inj h
    exact .oneLine hline
  · rw [hline.parseChars_eq hfew] at h
    obtain rfl := Except.error.inj h
    exact .fewWords hline (Text.fallsInto_words line) hfew
  · rw [hcell.parseChars_eq, map_eq_error_iff] at h
    obtain ⟨segment, reason, hbad, rfl⟩ := readSegments_eq_error_iff.1 h
    exact .noCount hcell hbad

theorem exists_firstBad_iff {first : List Char} {second : Option (List Char)} :
    (∃ segment reason, FirstBad reason segment first second) ↔
      ¬ IsCount first ∨ ∃ s ∈ second, ¬ IsCount s := by
  constructor
  · rintro ⟨segment, reason, hbad⟩
    cases hbad with
    | first h => exact Or.inl (not_isCount_iff.2 ⟨reason, h⟩)
    | second hfirst h => exact Or.inr ⟨segment, rfl, not_isCount_iff.2 ⟨reason, h⟩⟩
  · intro h
    by_cases hfirst : IsCount first
    · obtain ⟨s, rfl, hs⟩ := h.resolve_left (not_not_intro hfirst)
      obtain ⟨reason, hreason⟩ := not_isCount_iff.1 hs
      exact ⟨s, reason, .second hfirst hreason⟩
    · obtain ⟨reason, hreason⟩ := not_isCount_iff.1 hfirst
      exact ⟨first, reason, .first hreason⟩

theorem refused_oneLine_iff {cell : List Char} :
    Refused cell .missingTimingLine ↔ '\n' ∉ cell := by
  refine ⟨fun h => ?_, .oneLine⟩
  cases h with
  | oneLine h => exact h

theorem refused_fewWords_iff {cell : List Char} {line : String} :
    Refused cell (.missingCycleDescriptor line) ↔
      ∃ words, SecondLine line.toList cell ∧ Text.FallsInto line.toList words ∧
        words.length < 2 := by
  constructor
  · intro h
    cases h with
    | @fewWords line words hline hwords hfew =>
      exact ⟨words, by rwa [String.toList_ofList], by rwa [String.toList_ofList], hfew⟩
  · rintro ⟨words, hline, hwords, hfew⟩
    have hrefused := Refused.fewWords hline hwords hfew
    rwa [String.ofList_toList] at hrefused

theorem refused_noCount_iff {cell : List Char} {segment : String} {reason : NumeralError} :
    Refused cell (.badCycleCount segment reason) ↔
      ∃ name first second, CellText name first second cell ∧
        FirstBad reason segment.toList first second := by
  constructor
  · intro h
    cases h with
    | noCount hcell h => exact ⟨_, _, _, hcell, by rwa [String.toList_ofList]⟩
  · rintro ⟨name, first, second, hcell, h⟩
    have hrefused := Refused.noCount hcell h
    rwa [String.ofList_toList] at hrefused

theorem exists_countsOf_iff {first : List Char} {second : Option (List Char)} :
    (∃ cycles branchTaken, CountsOf cycles branchTaken first second) ↔
      IsCount first ∧ ∀ s ∈ second, IsCount s := by
  constructor
  · rintro ⟨cycles, branchTaken, hcounts⟩
    cases hcounts with
    | one h heq => exact ⟨⟨cycles, h⟩, by simp⟩
    | two h h' => exact ⟨⟨cycles, h⟩, by simpa using ⟨branchTaken, h'⟩⟩
  · rintro ⟨⟨cycles, hfirst⟩, hsecond⟩
    cases second with
    | none => exact ⟨cycles, cycles, .one hfirst rfl⟩
    | some second =>
      obtain ⟨branchTaken, h⟩ := hsecond second rfl
      exact ⟨cycles, branchTaken, .two hfirst h⟩

/-- A text is refused for its missing second line exactly if it is one line. It is refused for the
words of its second line, which is named, exactly if there are fewer than two. It is refused for a
count exactly if its first segment is none, or else its second one; that segment is named, with
what is wrong with it. Another segment is never looked at. -/
theorem parse_refuses_first_fault (text : String) :
    (parse text = .error .missingTimingLine ↔ '\n' ∉ text.toList) ∧
    (∀ line, parse text = .error (.missingCycleDescriptor line) ↔
      ∃ words, SecondLine line.toList text.toList ∧ Text.FallsInto line.toList words ∧
        words.length < 2) ∧
    (∀ segment reason, parse text = .error (.badCycleCount segment reason) ↔
      ∃ name first second, CellText name first second text.toList ∧
        FirstBad reason segment.toList first second) ∧
    ((∃ segment reason, parse text = .error (.badCycleCount segment reason)) ↔
      ∃ name first second, CellText name first second text.toList ∧
        (¬ IsCount first ∨ ∃ s ∈ second, ¬ IsCount s)) ∧
    ((∃ timing, parse text = .ok timing) ↔
      ∃ name first second, CellText name first second text.toList ∧
        IsCount first ∧ ∀ s ∈ second, IsCount s) := by
  simp only [parse, parseChars_eq_error_iff]
  refine ⟨refused_oneLine_iff, fun _ => refused_fewWords_iff, fun _ _ => refused_noCount_iff, ?_, ?_⟩
  · constructor
    · rintro ⟨segment, reason, h⟩
      obtain ⟨name, first, second, hcell, hbad⟩ := refused_noCount_iff.1 h
      exact ⟨name, first, second, hcell, exists_firstBad_iff.1 ⟨_, reason, hbad⟩⟩
    · rintro ⟨name, first, second, hcell, h⟩
      obtain ⟨segment, reason, hbad⟩ := exists_firstBad_iff.2 h
      exact ⟨String.ofList segment, reason, .noCount hcell hbad⟩
  · constructor
    · rintro ⟨timing, h⟩
      obtain ⟨name, first, second, hcell⟩ := exists_cellText h
      have hcounts := (hcell.parseChars_eq_ok_iff.1 h).2
      exact ⟨name, first, second, hcell, exists_countsOf_iff.1 ⟨_, _, hcounts⟩⟩
    · rintro ⟨name, first, second, hcell, h⟩
      obtain ⟨cycles, branchTaken, hcounts⟩ := exists_countsOf_iff.2 h
      exact ⟨⟨String.ofList name, cycles, branchTaken⟩,
        hcell.parseChars_eq_ok_iff.2 ⟨rfl, hcounts⟩⟩

/-- The segments behind the second one are no counts, and make no difference. -/
example : parse "X\nc +1t-2--\n" = .ok ⟨"X", 1, 2⟩ := by decide +kernel

/-- The value is too large in front of the character that is no digit. -/
example : parse "X\nc 7t-4294967296x0" = .error (.badCycleCount "4294967296x0" .posOverflow) := by
  decide +kernel

end Timing
end CycleTable
