import CycleTable.Proofs.Initializer.Reading
import CycleTable.Proofs.Text.Bytes

/-! # One list behind another

A list is read to its end, or up to the first place where it goes wrong. Both are told by the
text, piece by piece: white space, entries with their commas, and what cannot be read. No piece
depends on what is behind it. A text behind a list that has been read is therefore read as it
would be alone, only that its place is counted in bytes from the start of the list.
-/
namespace CycleTable

def InitializerError.moved (size : Nat) : InitializerError → InitializerError
  | .malformed offset => .malformed (offset + size)
  | .badNumber text reason => .badNumber text reason

namespace Initializer

abbrev Outcome := Except InitializerError (List Entry)

/-- The outcome for a text that stands behind so many bytes with these entries. -/
def behind (front : List Entry) (size : Nat) : Outcome → Outcome
  | .ok es => .ok (front ++ es)
  | .error e => .error (e.moved size)

theorem behind_behind (front front' : List Entry) (size size' : Nat) (outcome : Outcome) :
    behind front size (behind front' size' outcome) =
      behind (front ++ front') (size + size') outcome := by
  cases outcome with
  | ok es => simp [behind, List.append_assoc]
  | error e => cases e <;> simp [behind, InitializerError.moved, Nat.add_comm, Nat.add_left_comm]

theorem behind_nil_zero (outcome : Outcome) : behind [] 0 outcome = outcome := by
  cases outcome with
  | ok es => rfl
  | error e => cases e <;> rfl

theorem behind_eq_ok {front es : List Entry} {size : Nat} {outcome : Outcome}
    (h : behind front size outcome = .ok es) : ∃ es', outcome = .ok es' ∧ es = front ++ es' := by
  cases outcome with
  | ok es' =>
    cases h
    exact ⟨es', rfl, rfl⟩
  | error e => cases h

theorem behind_eq_badNumber {front : List Entry} {size : Nat} {outcome : Outcome}
    {numeral : String} {reason : NumeralError}
    (h : behind front size outcome = .error (.badNumber numeral reason)) :
    outcome = .error (.badNumber numeral reason) := by
  cases outcome with
  | ok es => cases h
  | error e =>
    cases e with
    | malformed offset => cases h
    | badNumber numeral' reason' => exact h

theorem behind_of_toEntry (front : List Entry) (size : Nat) {w : Written} {e : InitializerError}
    (hw : w.Listed) (h : w.toEntry = .error e) : behind front size (.error e) = .error e := by
  obtain ⟨numeral, -, rfl⟩ := (Written.toEntry_eq_error_iff hw.shaped).1 h
  rfl

/-- What a text is read as, piece by piece. -/
inductive ReadsAs : List Char → Outcome → Prop
  | white {gap : List Char} (hgap : ∀ c ∈ gap, Text.isWhite c) : ReadsAs gap (.ok [])
  | stuck {gap rest : List Char} (hgap : ∀ c ∈ gap, Text.isWhite c) (hrest : Stuck rest) :
    ReadsAs (gap ++ rest) (.error (.malformed (Text.byteCount gap)))
  | badEntry {gap rest : List Char} {w : Written} {e : InitializerError}
    (hgap : ∀ c ∈ gap, Text.isWhite c) (hw : w.Listed) (hentry : w.toEntry = .error e) :
    ReadsAs (gap ++ (w.chars ++ ',' :: rest)) (.error e)
  | entry {gap rest : List Char} {w : Written} {e : Entry} {outcome : Outcome}
    (hgap : ∀ c ∈ gap, Text.isWhite c) (hw : w.Listed) (hentry : w.toEntry = .ok e)
    (h : ReadsAs rest outcome) :
    ReadsAs (gap ++ (w.chars ++ ',' :: rest))
      (behind [e] (Text.byteCount (gap ++ (w.chars ++ [',']))) outcome)

theorem exists_readsAs (cs : List Char) : ∃ outcome, ReadsAs cs outcome := by
  -- Behind an entry there is less to read.
  induction hn : cs.length using Nat.strongRecOn generalizing cs with
  | ind n ih =>
    obtain ⟨gap, rest, hgap, rfl, rfl | ⟨w, behind, hw, rfl⟩ | hstuck⟩ := exists_gap cs
    · rw [List.append_nil]
      exact ⟨_, .white hgap⟩
    · cases hentry : w.toEntry with
      | error e => exact ⟨_, .badEntry hgap hw hentry⟩
      | ok e =>
        have hlt : behind.length < n := by
          simp only [← hn, List.length_append, List.length_cons]
          omega
        obtain ⟨outcome, hbehind⟩ := ih behind.length hlt behind rfl
        exact ⟨_, .entry hgap hw hentry hbehind⟩
    · exact ⟨_, .stuck hgap hstuck⟩

theorem byteCount_entry (gap rest : List Char) (w : Written) :
    Text.byteCount (gap ++ (w.chars ++ ',' :: rest)) =
      Text.byteCount (gap ++ (w.chars ++ [','])) + Text.byteCount rest := by
  rw [← Text.byteCount_append]
  simp only [List.append_assoc, List.singleton_append]

theorem ReadsAs.parseRest_eq {cs : List Char} {outcome : Outcome} (h : ReadsAs cs outcome)
    (size : Nat) : parseRest (size + Text.byteCount cs) cs = behind [] size outcome := by
  induction h generalizing size with
  | white hgap => exact parseRest_of_white _ hgap
  | @stuck gap rest hgap hrest =>
    have hoffset : size + Text.byteCount (gap ++ rest) - Text.byteCount rest =
        Text.byteCount gap + size := by
      rw [Text.byteCount_append]
      omega
    rw [parseRest_of_stuck _ hgap hrest, hoffset]
    rfl
  | badEntry hgap hw hentry =>
    rw [parseRest_entry _ hgap hw, hentry, behind_of_toEntry [] size hw hentry]
    rfl
  | @entry gap rest w e outcome hgap hw hentry h ih =>
    rw [parseRest_entry _ hgap hw, hentry, byteCount_entry, ← Nat.add_assoc, ih, behind_behind]
    cases outcome <;> rfl

/-- A text is read as one thing only, and this is what the reader gives. -/
theorem parse_eq_iff {text : String} {outcome : Outcome} :
    parse text = outcome ↔ ReadsAs text.toList outcome := by
  have hparse : ∀ {outcome : Outcome}, ReadsAs text.toList outcome → parse text = outcome := by
    intro outcome h
    have hrest := h.parseRest_eq 0
    rwa [Nat.zero_add, behind_nil_zero] at hrest
  constructor
  · intro h
    obtain ⟨other, hother⟩ := exists_readsAs text.toList
    rwa [← h, hparse hother]
  · exact hparse

theorem ReadsAs.behind_gap {gap cs : List Char} {outcome : Outcome}
    (hgap : ∀ c ∈ gap, Text.isWhite c) (h : ReadsAs cs outcome) :
    ReadsAs (gap ++ cs) (behind [] (Text.byteCount gap) outcome) := by
  have hboth : ∀ {gap' : List Char}, (∀ c ∈ gap', Text.isWhite c) →
      ∀ c ∈ gap ++ gap', Text.isWhite c := fun hgap' => List.forall_mem_append.2 ⟨hgap, hgap'⟩
  cases h with
  | white hgap' => exact .white (hboth hgap')
  | @stuck gap' rest hgap' hrest =>
    have hoffset : Text.byteCount gap' + Text.byteCount gap = Text.byteCount (gap ++ gap') := by
      rw [Text.byteCount_append, Nat.add_comm]
    rw [← List.append_assoc, behind, InitializerError.moved, hoffset]
    exact .stuck (hboth hgap') hrest
  | badEntry hgap' hw hentry =>
    rw [← List.append_assoc, behind_of_toEntry _ _ hw hentry]
    exact .badEntry (hboth hgap') hw hentry
  | @entry gap' rest w e outcome hgap' hw hentry h =>
    have hsize : Text.byteCount gap + Text.byteCount (gap' ++ (w.chars ++ [','])) =
        Text.byteCount (gap ++ gap' ++ (w.chars ++ [','])) := by
      rw [List.append_assoc, Text.byteCount_append gap]
    rw [← List.append_assoc gap, behind_behind, List.nil_append, hsize]
    exact .entry (hboth hgap') hw hentry h

theorem ReadsAs.append {cs rest : List Char} {es : List Entry} {outcome : Outcome}
    (h : ReadsAs cs (.ok es)) (hrest : ReadsAs rest outcome) :
    ReadsAs (cs ++ rest) (behind es (Text.byteCount cs) outcome) := by
  generalize hok : Except.ok es = first at h
  induction h generalizing es with
  | white hgap =>
    cases hok
    exact hrest.behind_gap hgap
  | stuck => cases hok
  | badEntry => cases hok
  | entry hgap hw hentry _ ih =>
    obtain ⟨es', rfl, rfl⟩ := behind_eq_ok hok.symm
    have hnext := ReadsAs.entry hgap hw hentry (ih rfl)
    rw [behind_behind, ← byteCount_entry] at hnext
    rwa [List.append_assoc, List.append_assoc]

theorem ReadsAs.append_of_badNumber {cs : List Char} {numeral : String} {reason : NumeralError}
    (h : ReadsAs cs (.error (.badNumber numeral reason))) (rest : List Char) :
    ReadsAs (cs ++ rest) (.error (.badNumber numeral reason)) := by
  generalize hbad : Except.error (InitializerError.badNumber numeral reason) = outcome at h
  induction h with
  | white => cases hbad
  | stuck => cases hbad
  | badEntry hgap hw hentry =>
    rw [List.append_assoc, List.append_assoc]
    exact .badEntry hgap hw hentry
  | entry hgap hw hentry _ ih =>
    rw [List.append_assoc, List.append_assoc]
    exact .entry hgap hw hentry (ih (behind_eq_badNumber hbad.symm).symm)

/-- Behind a list that has been read, a text gives what it gives alone, its entries behind those
of the list, and its place counted in bytes from the start of the list. -/
theorem parse_append_of_ok {front : String} {es : List Entry} (h : parse front = .ok es)
    (rest : String) : parse (front ++ rest) = behind es front.utf8ByteSize (parse rest) := by
  rw [parse_eq_iff, String.toList_append, ← Text.byteCount_toList]
  exact (parse_eq_iff.1 h).append (parse_eq_iff.1 rfl)

/-- The outcome for two texts in a row. If the first is a list, the outcome is the one of the
second: its entries come behind those of the first, and a place in it is moved on by the bytes of
the first. If a number of the first is out of range, the second has no say. -/
theorem parse_append (front rest : String) :
    (∀ es, parse front = .ok es →
      (∀ es', parse rest = .ok es' → parse (front ++ rest) = .ok (es ++ es')) ∧
      (∀ offset, parse rest = .error (.malformed offset) →
        parse (front ++ rest) = .error (.malformed (offset + front.utf8ByteSize))) ∧
      (∀ numeral reason, parse rest = .error (.badNumber numeral reason) →
        parse (front ++ rest) = .error (.badNumber numeral reason))) ∧
    (∀ numeral reason, parse front = .error (.badNumber numeral reason) →
      parse (front ++ rest) = .error (.badNumber numeral reason)) := by
  constructor
  · intro es hfront
    have hboth := parse_append_of_ok hfront rest
    refine ⟨?_, ?_, ?_⟩
    · intro es' hrest
      rw [hboth, hrest]
      rfl
    · intro offset hrest
      rw [hboth, hrest]
      rfl
    · intro numeral reason hrest
      rw [hboth, hrest]
      rfl
  · intro numeral reason hfront
    rw [parse_eq_iff, String.toList_append]
    exact (parse_eq_iff.1 hfront).append_of_badNumber rest.toList

def listInFront : String := "\u3000\x7b 0xA, \"é\", 1, 02 \x7d,"

theorem place_behind_list_in_front :
    parse listInFront = .ok [⟨10, "é", 1, 2⟩] ∧
    parse "\u00a0\x7b 0xB" = .error (.malformed 2) ∧
    parse (listInFront ++ "\u00a0\x7b 0xB") = .error (.malformed 26) := by
  have hfront : parse listInFront = .ok [⟨10, "é", 1, 2⟩] := by decide +kernel
  have hrest : parse "\u00a0\x7b 0xB" = .error (.malformed 2) := by decide +kernel
  exact ⟨hfront, hrest, ((parse_append listInFront _).1 _ hfront).2.1 2 hrest⟩

end Initializer
end CycleTable
