import CycleTable.Proofs.Initializer.Shape
import CycleTable.Proofs.Initializer.Turn

/-! # Where a list goes wrong

A text that is no list is a list up to some place. Behind it there is neither white space nor an
entry, and the error is the place in bytes; or there is an entry with a number that is out of
range, and the error is the first such numeral. A text goes wrong in one of these ways only.
-/
namespace CycleTable

theorem InitializerError.moved_moved (e : InitializerError) (size size' : Nat) :
    (e.moved size).moved size' = e.moved (size' + size) := by
  cases e with
  | malformed offset => simp only [moved, Nat.add_assoc, Nat.add_comm size']
  | badNumber text reason => rfl

namespace Initializer

open Written (ShortestIn)

inductive FailsAtStart : List Char → InitializerError → Prop
  | stuck {rest : List Char} (h : Stuck rest) : FailsAtStart rest (.malformed 0)
  | badEntry {w : Written} {rest : List Char} {e : InitializerError} (hw : w.Listed)
    (hentry : w.toEntry = .error e) : FailsAtStart (w.chars ++ ',' :: rest) e

theorem FailsAtStart.readsAs {cs : List Char} {e : InitializerError} (h : FailsAtStart cs e) :
    ReadsAs cs (.error e) := by
  cases h with
  | stuck hrest => exact .stuck (List.forall_mem_nil _) hrest
  | badEntry hw hentry => exact .badEntry (List.forall_mem_nil _) hw hentry

theorem ReadsAs.exists_front {cs : List Char} {e : InitializerError} (h : ReadsAs cs (.error e)) :
    ∃ front rest es e', cs = front ++ rest ∧ ReadsAs front (.ok es) ∧ FailsAtStart rest e' ∧
      e = e'.moved (Text.byteCount front) := by
  generalize herror : Except.error e = outcome at h
  induction h generalizing e with
  | white => cases herror
  | @stuck gap rest hgap hrest =>
    cases herror
    refine ⟨gap, rest, [], .malformed 0, rfl, .white hgap, .stuck hrest, ?_⟩
    rw [InitializerError.moved, Nat.zero_add]
  | @badEntry gap rest w e hgap hw hentry =>
    cases herror
    refine ⟨gap, _, [], _, rfl, .white hgap, .badEntry hw hentry, ?_⟩
    exact (Except.error.inj (behind_of_toEntry [] _ hw hentry)).symm
  | @entry gap rest w entry outcome hgap hw hentry h ih =>
    cases outcome with
    | ok es => cases herror
    | error e₁ =>
      cases herror
      obtain ⟨front, behind, es, e', rfl, hfront, hbehind, rfl⟩ := ih rfl
      refine ⟨gap ++ (w.chars ++ ',' :: front), behind, _, e', ?_,
        .entry hgap hw hentry hfront, hbehind, ?_⟩
      · simp only [List.append_assoc, List.cons_append]
      · rw [InitializerError.moved_moved, byteCount_entry gap front]

theorem readsAs_error_iff {cs : List Char} {e : InitializerError} :
    ReadsAs cs (.error e) ↔
      ∃ front rest es e', cs = front ++ rest ∧ ReadsAs front (.ok es) ∧ FailsAtStart rest e' ∧
        e = e'.moved (Text.byteCount front) := by
  constructor
  · exact ReadsAs.exists_front
  · rintro ⟨front, rest, es, e', rfl, hfront, hrest, rfl⟩
    exact hfront.append hrest.readsAs

inductive FailsWith : String → InitializerError → Prop
  /-- Up to the place there is a list, and there neither white space begins nor an entry. -/
  | malformed {front behind : String} (hfront : ∃ es, parse front = .ok es)
    (hwhite : ∃ c ∈ behind.toList.head?, Text.isWhite c = false)
    (hentry : ∀ w : Written, w.Shaped → ¬ w.chars ++ [','] <+: behind.toList) :
    FailsWith (front ++ behind) (.malformed front.utf8ByteSize)
  /-- Behind a list there is an entry, with the shortest name in its place, and this is the first
  of its numerals whose value is out of range. -/
  | badNumber {front behind : String} {w : Written} {numeral : List Char}
    (hfront : ∃ es, parse front = .ok es) (hw : w.Shaped)
    (hshortest : w.ShortestIn (w.chars ++ ',' :: behind.toList))
    (hnumeral : w.tooLarge? = some numeral) :
    FailsWith (front ++ (String.ofList w.chars ++ ("," ++ behind)))
      (.badNumber (String.ofList numeral) .posOverflow)

theorem parse_eq_error_iff {text : String} {e : InitializerError} :
    parse text = .error e ↔ FailsWith text e := by
  rw [parse_eq_iff, readsAs_error_iff]
  constructor
  · rintro ⟨front, rest, es, e', htext, hfront, hrest, rfl⟩
    have hread : ∃ es, parse (String.ofList front) = .ok es := by
      refine ⟨es, parse_eq_iff.2 ?_⟩
      rwa [String.toList_ofList]
    have hsize : Text.byteCount front = (String.ofList front).utf8ByteSize :=
      (Text.utf8ByteSize_ofList front).symm
    cases hrest with
    | stuck h =>
      have hsplit : text = String.ofList front ++ String.ofList rest := by
        rw [← String.ofList_append, ← htext, String.ofList_toList]
      rw [hsplit, hsize, InitializerError.moved, Nat.zero_add]
      refine .malformed hread ?_ ?_
      · rw [String.toList_ofList]
        exact h.notWhite
      · rw [String.toList_ofList]
        exact Written.read?_comma_eq_none_iff.1 h.unread
    | @badEntry w rest e' hw hentry =>
      obtain ⟨numeral, hnumeral, rfl⟩ := (Written.toEntry_eq_error_iff hw.shaped).1 hentry
      have hsplit : text = String.ofList front ++
          (String.ofList w.chars ++ ("," ++ String.ofList rest)) := by
        rw [← String.toList_inj, htext]
        simp
      rw [hsplit]
      have hshortest := ((Written.listed_iff_shortest rest).1 hw).2
      refine .badNumber hread hw.shaped ?_ hnumeral
      rwa [String.toList_ofList]
  · intro h
    cases h with
    | @malformed front behind hfront hwhite hentry =>
      obtain ⟨es, hfront⟩ := hfront
      refine ⟨front.toList, behind.toList, es, .malformed 0, String.toList_append,
        parse_eq_iff.1 hfront, .stuck ⟨hwhite, Written.read?_comma_eq_none_iff.2 hentry⟩, ?_⟩
      rw [InitializerError.moved, Nat.zero_add, Text.byteCount_toList]
    | @badNumber front behind w numeral hfront hw hshortest hnumeral =>
      obtain ⟨es, hfront⟩ := hfront
      have hlisted := (Written.listed_iff_shortest _).2 ⟨hw, hshortest⟩
      refine ⟨front.toList, w.chars ++ ',' :: behind.toList, es, _, ?_, parse_eq_iff.1 hfront,
        .badEntry hlisted ((Written.toEntry_eq_error_iff hw).2 ⟨numeral, hnumeral, rfl⟩), rfl⟩
      simp

theorem place_of_malformed {text : String} {offset : Nat}
    (h : parse text = .error (.malformed offset)) :
    Text.IsPlace text offset ∧ offset < text.utf8ByteSize := by
  generalize herror : InitializerError.malformed offset = e at h
  cases parse_eq_error_iff.1 h with
  | badNumber => cases herror
  | @malformed front behind _ hwhite _ =>
    cases herror
    constructor
    · refine Text.isPlace_iff.2 ⟨front.toList, behind.toList, String.toList_append, ?_⟩
      exact Text.byteCount_toList front
    · have hne : behind.toList ≠ [] := by
        rintro hnil
        rw [hnil] at hwhite
        obtain ⟨c, hc, -⟩ := hwhite
        cases hc
      have hpos := Text.byteCount_pos hne
      rw [Text.byteCount_toList] at hpos
      rw [String.utf8ByteSize_append]
      omega

/-- A text that is no list fails in one way only, and the error tells it: the place behind a list
at which neither white space begins nor an entry, or the first numeral out of range in the entry
behind a list. The place is inside the text and between two characters. On its way there the
loop over offsets stands between two characters too, and each entry moves it on. -/
theorem parse_fails_in_place (text : String) :
    (∀ e, parse text = .error e ↔ FailsWith text e) ∧
    ((∃ es, parse text = .ok es) ↔ ∀ e, ¬ FailsWith text e) ∧
    (∀ e e', FailsWith text e → FailsWith text e' → e = e') ∧
    (∀ offset, parse text = .error (.malformed offset) →
      Text.IsPlace text offset ∧ offset < text.utf8ByteSize) ∧
    readFrom? text 0 = some (parse text) ∧
    (∀ offset entry next, turn? text offset = some (.read entry next) →
      Text.IsPlace text offset ∧ offset < next ∧ Text.IsPlace text next) := by
  refine ⟨fun e => parse_eq_error_iff, ?_, ?_, ?_, readFrom?_zero text, ?_⟩
  · constructor
    · rintro ⟨es, hes⟩ e he
      rw [parse_eq_error_iff.2 he] at hes
      cases hes
    · intro hnone
      cases h : parse text with
      | ok es => exact ⟨es, rfl⟩
      | error e => exact absurd (parse_eq_error_iff.1 h) (hnone e)
  · intro e e' he he'
    have h := parse_eq_error_iff.2 he
    rw [parse_eq_error_iff.2 he'] at h
    exact (Except.error.inj h).symm
  · intro offset h
    exact place_of_malformed h
  · intro offset entry next h
    exact next_of_turn? h

example : parse "\u3000\x7b 0x0, \"é\", 1, 2 \x7d,\n\x7b 0x1, \"\", 3 \x7d," =
    .error (.malformed 24) := by
  decide +kernel

example : parse "\x7b 0x1, \"A\", 4294967296, 99999999999 \x7d,???" =
    .error (.badNumber "4294967296" .posOverflow) := by
  decide +kernel

end Initializer
end CycleTable
