import CycleTable.Initializer
import CycleTable.Proofs.Initializer.Terminator
import CycleTable.Proofs.Outcome
import Mathlib.Data.List.TakeWhile

/-! # Reading entries in a list

The reader of a list takes an entry off a text exactly when the text begins with one whose name
is readable. One entry is read at a time, and none of what is behind its comma matters to it.
-/
namespace CycleTable
namespace Written

open Numeral (IsRun isDigit isHexDigit)

def chars (w : Written) : List Char :=
  Entry.opening ++ (w.opcode ++ (Entry.nameOpening ++
    (w.name ++ behindName w.cycles w.branchTaken)))

structure Listed (w : Written) : Prop where
  opcode : IsRun isHexDigit w.opcode
  name : Readable w.name
  cycles : IsRun isDigit w.cycles
  branchTaken : IsRun isDigit w.branchTaken

/-- Numerals are runs of digits, while the name may be anything, line feeds included. -/
structure Numbered (w : Written) : Prop where
  opcode : IsRun isHexDigit w.opcode
  cycles : IsRun isDigit w.cycles
  branchTaken : IsRun isDigit w.branchTaken

/-- The form of an entry that stands alone: any name will do that is on one line. -/
structure Shaped (w : Written) : Prop extends Numbered w where
  line : '\n' ∉ w.name

theorem Listed.shaped {w : Written} (h : w.Listed) : w.Shaped :=
  ⟨⟨h.opcode, h.cycles, h.branchTaken⟩, h.name.1⟩

theorem Shaped.listed {w : Written} (h : w.Shaped) (hname : Readable w.name) : w.Listed :=
  ⟨h.opcode, hname, h.cycles, h.branchTaken⟩

def numerals (w : Written) : List (Nat × List Char) :=
  [(16, w.opcode), (10, w.cycles), (10, w.branchTaken)]

def tooLarge? (w : Written) : Option (List Char) :=
  (w.numerals.find? fun numeral => UInt32.size ≤ Numeral.value numeral.1 numeral.2).map Prod.snd

theorem number_eq_of_isRun {base : Nat} {numeral : List Char} (hbase : 0 < base)
    (hrun : IsRun (Numeral.isDigitOf base) numeral) :
    number base numeral =
      if Numeral.value base numeral < UInt32.size then
        .ok (UInt32.ofNat (Numeral.value base numeral))
      else .error (.badNumber (String.ofList numeral) .posOverflow) := by
  rw [number, Numeral.read_eq_of_isRun hbase hrun]
  split
  · rfl
  · rfl

theorem toEntry_eq_error_iff {w : Written} (hw : w.Shaped) {e : InitializerError} :
    w.toEntry = .error e ↔
      ∃ numeral, w.tooLarge? = some numeral ∧
        e = .badNumber (String.ofList numeral) .posOverflow := by
  have hopcode := number_eq_of_isRun (by decide : 0 < 16) hw.opcode
  have hcycles := number_eq_of_isRun (by decide : 0 < 10) hw.cycles
  have htaken := number_eq_of_isRun (by decide : 0 < 10) hw.branchTaken
  rw [toEntry, hopcode, hcycles, htaken, tooLarge?, numerals]
  -- The first numeral that is not in range is found on both sides.
  rcases Nat.lt_or_ge (Numeral.value 16 w.opcode) UInt32.size with ho | ho
  · rcases Nat.lt_or_ge (Numeral.value 10 w.cycles) UInt32.size with hc | hc
    · rcases Nat.lt_or_ge (Numeral.value 10 w.branchTaken) UInt32.size with ht | ht
      · simp [ho, hc, ht, bind, Except.bind, pure, Except.pure]
      · simp [ho, hc, ht, Nat.not_lt.2 ht, bind, Except.bind, eq_comm]
    · simp [ho, hc, Nat.not_lt.2 hc, bind, Except.bind, eq_comm]
  · simp [ho, Nat.not_lt.2 ho, bind, Except.bind, eq_comm]

theorem nameOpening_eq : Entry.nameOpening = [',', ' ', '"'] := by decide

theorem opening_eq : Entry.opening = ['\x7b', ' ', '0', 'x'] := by decide

theorem exists_cons_of_counts? {ending : Ending} {c : Char} {cs name behind : List Char}
    {found : List Char × List Char × List Char} (hc : counts? ending (c :: cs) = none)
    (hcs : c :: cs = name ++ behind) (hb : counts? ending behind = some found) :
    ∃ name', name = c :: name' ∧ cs = name' ++ behind := by
  cases name with
  | nil =>
    rw [List.nil_append] at hcs
    rw [hcs, hb] at hc
    cases hc
  | cons d name =>
    obtain ⟨rfl, rfl⟩ := List.cons.inj hcs
    exact ⟨name, rfl, rfl⟩

/-- The name ends at the first place where counts can be read. -/
theorem nameAndCounts?_eq_some_iff {ending : Ending}
    {cs name cycles branchTaken rest : List Char} :
    nameAndCounts? ending cs = some (name, cycles, branchTaken, rest) ↔
      '\n' ∉ name ∧ ∃ behind, cs = name ++ behind ∧
        counts? ending behind = some (cycles, branchTaken, rest) ∧
        ∀ q, q <:+ name → q ≠ [] → counts? ending (q ++ behind) = none := by
  induction cs generalizing name with
  | nil =>
    refine ⟨fun h => by simp [nameAndCounts?] at h, ?_⟩
    rintro ⟨-, behind, hcs, hc, -⟩
    rw [(List.append_eq_nil_iff.1 hcs.symm).2] at hc
    simp [counts?, Text.drop?, nameClosing_eq] at hc
  | cons c cs ih =>
    unfold nameAndCounts?
    cases hc : counts? ending (c :: cs) with
    | some found =>
      constructor
      · intro h
        obtain ⟨rfl, rfl⟩ := Prod.mk.inj (Option.some.inj h)
        exact ⟨by simp, c :: cs, rfl, hc, fun q hq hne => absurd (List.suffix_nil.1 hq) hne⟩
      · rintro ⟨-, behind, hcs, hb, hfirst⟩
        have hname : name = [] := by
          by_contra hne
          have := hfirst name (List.suffix_refl name) hne
          rw [← hcs, hc] at this
          cases this
        subst hname
        rw [List.nil_append] at hcs
        rw [hcs, hb] at hc
        rw [← Option.some.inj hc]
    | none =>
      by_cases hnl : c = '\n'
      · rw [if_pos hnl]
        refine ⟨fun h => absurd h (by simp), ?_⟩
        rintro ⟨hname, behind, hcs, hb, -⟩
        obtain ⟨name, rfl, -⟩ := exists_cons_of_counts? hc hcs hb
        simp [hnl] at hname
      · rw [if_neg hnl]
        simp only [Option.map_eq_some_iff]
        constructor
        · rintro ⟨⟨n, found⟩, hn, h⟩
          obtain ⟨rfl, rfl⟩ := Prod.mk.inj h
          obtain ⟨hname, behind, rfl, hb, hfirst⟩ := ih.1 hn
          refine ⟨by simp [Ne.symm hnl, hname], behind, rfl, hb, fun q hq hne => ?_⟩
          -- An earlier end would be in the rest of the name, or right here.
          rcases List.suffix_cons_iff.1 hq with rfl | hq
          · exact hc
          · exact hfirst q hq hne
        · rintro ⟨hname, behind, hcs, hb, hfirst⟩
          obtain ⟨name, rfl, rfl⟩ := exists_cons_of_counts? hc hcs hb
          refine ⟨(name, cycles, branchTaken, rest), ih.2 ⟨?_, behind, rfl, hb, ?_⟩, rfl⟩
          · exact fun hm => hname (List.mem_cons_of_mem c hm)
          · exact fun q hq hne => hfirst q (hq.trans (List.suffix_cons c name)) hne

theorem nameAndCounts?_comma_eq_some_iff {cs name cycles branchTaken rest : List Char} :
    nameAndCounts? .comma cs = some (name, cycles, branchTaken, rest) ↔
      Readable name ∧ IsRun isDigit cycles ∧ IsRun isDigit branchTaken ∧
        cs = name ++ (behindName cycles branchTaken ++ ',' :: rest) := by
  rw [nameAndCounts?_eq_some_iff]
  constructor
  · rintro ⟨hline, behind, rfl, hb, hfirst⟩
    obtain ⟨hrun, hrun', rfl⟩ := counts?_comma_eq_some_iff.1 hb
    refine ⟨⟨hline, ?_⟩, hrun, hrun', rfl⟩
    rintro t ht ⟨p, s, rfl⟩
    obtain ⟨u, rfl, -⟩ := ht.quote
    have hnone := hfirst ('"' :: u ++ s) (by simp [List.append_assoc]) (by simp)
    refine counts?_comma_eq_none_iff.1 hnone _ ht ?_
    rw [List.append_assoc]
    exact List.prefix_append _ _
  · rintro ⟨⟨hline, hname⟩, hrun, hrun', rfl⟩
    refine ⟨hline, _, rfl, counts?_comma_eq_some_iff.2 ⟨hrun, hrun', rfl⟩, fun q hq hne => ?_⟩
    refine counts?_comma_eq_none_iff.2 fun t ht hpre => hname t ht ?_
    -- A terminator that begins inside the name would have to end there too.
    rw [behindName, nameClosing_eq] at hpre
    exact (ht.prefix_of_prefix_append hne hpre).isInfix.trans hq.isInfix

theorem read?_eq_some_iff {ending : Ending} {cs rest : List Char} {w : Written} :
    read? ending cs = some (w, rest) ↔
      IsRun isHexDigit w.opcode ∧ ∃ behind,
        nameAndCounts? ending behind = some (w.name, w.cycles, w.branchTaken, rest) ∧
        cs = Entry.opening ++ (w.opcode ++ (Entry.nameOpening ++ behind)) := by
  simp only [read?, Option.bind_eq_bind, Option.bind_eq_some_iff]
  constructor
  · rintro ⟨a, ha, ⟨d, b⟩, hb, c, hc, ⟨n, f, g, e⟩, he, h⟩
    simp only [Option.some.injEq, Prod.mk.injEq] at h
    obtain ⟨rfl, rfl⟩ := h
    obtain ⟨hrun, rfl⟩ := of_digits? hb
    refine ⟨hrun, c, he, ?_⟩
    dsimp only at hc
    rw [Text.drop?_eq_some.1 ha, Text.drop?_eq_some.1 hc]
  · rintro ⟨hrun, behind, hfound, rfl⟩
    refine ⟨_, Text.drop?_eq_some.2 rfl, (_, _), digits?_append hrun ?_, _,
      Text.drop?_eq_some.2 rfl, (_, _, _, _), hfound, rfl⟩
    intro c hc
    obtain rfl : ',' = c := by simpa [nameOpening_eq] using hc
    decide

theorem read?_comma_eq_some_iff {cs rest : List Char} {w : Written} :
    read? .comma cs = some (w, rest) ↔ w.Listed ∧ cs = w.chars ++ ',' :: rest := by
  rw [read?_eq_some_iff]
  constructor
  · rintro ⟨hrun, behind, hfound, rfl⟩
    obtain ⟨hname, hcycles, htaken, rfl⟩ := nameAndCounts?_comma_eq_some_iff.1 hfound
    refine ⟨⟨hrun, hname, hcycles, htaken⟩, ?_⟩
    simp only [chars, List.append_assoc]
  · rintro ⟨hw, rfl⟩
    refine ⟨hw.opcode, _,
      nameAndCounts?_comma_eq_some_iff.2 ⟨hw.name, hw.cycles, hw.branchTaken, rfl⟩, ?_⟩
    simp only [chars, List.append_assoc]

end Written

namespace Initializer

theorem isWhite_head_chars (w : Written) (rest : List Char) :
    ∀ c ∈ (w.chars ++ rest).head?, Text.isWhite c = false := by
  intro c hc
  obtain rfl : '\x7b' = c := by simpa [Written.chars, Written.opening_eq] using hc
  decide

theorem trimStart_of_white {gap : List Char} (hgap : ∀ c ∈ gap, Text.isWhite c) :
    Text.trimStart gap = [] := by
  rw [Text.trimStart, List.dropWhile_eq_nil_iff]
  exact hgap

theorem trimStart_entry {gap : List Char} (hgap : ∀ c ∈ gap, Text.isWhite c) (w : Written)
    (rest : List Char) :
    Text.trimStart (gap ++ (w.chars ++ ',' :: rest)) = w.chars ++ ',' :: rest :=
  (Text.span_append hgap (isWhite_head_chars w _)).2

theorem parseRest_of_white (size : Nat) {cs : List Char} (h : ∀ c ∈ cs, Text.isWhite c) :
    parseRest size cs = .ok [] := by
  rw [parseRest]
  simp [trimStart_of_white h]

theorem parseRest_entry (size : Nat) {gap rest : List Char} {w : Written}
    (hgap : ∀ c ∈ gap, Text.isWhite c) (hw : w.Listed) :
    parseRest size (gap ++ (w.chars ++ ',' :: rest)) = (do
      let entry ← w.toEntry
      let entries ← parseRest size rest
      return entry :: entries) := by
  have htrim := trimStart_entry hgap w rest
  have hread : Written.read? .comma (w.chars ++ ',' :: rest) = some (w, rest) :=
    Written.read?_comma_eq_some_iff.2 ⟨hw, rfl⟩
  rw [parseRest]
  simp only [htrim]
  split
  next h => simp [Written.chars, Written.opening_eq] at h
  next =>
    split
    next h => rw [htrim, hread] at h; cases h
    next h =>
      rw [htrim, hread] at h
      obtain ⟨rfl, rfl⟩ := Prod.mk.inj (Option.some.inj h)
      rfl

/-- What a list cannot go on with: neither white space comes first, nor an entry. -/
structure Stuck (cs : List Char) : Prop where
  notWhite : ∃ c ∈ cs.head?, Text.isWhite c = false
  unread : Written.read? .comma cs = none

theorem Stuck.trimStart_eq {gap rest : List Char} (h : Stuck rest)
    (hgap : ∀ c ∈ gap, Text.isWhite c) : Text.trimStart (gap ++ rest) = rest ∧ rest ≠ [] := by
  obtain ⟨c, hc, hwhite⟩ := h.notWhite
  have hhead : ∀ d ∈ rest.head?, Text.isWhite d = false := by
    intro d hd
    rwa [Option.mem_unique hd hc]
  refine ⟨(Text.span_append hgap hhead).2, ?_⟩
  rintro rfl
  cases hc

theorem parseRest_of_stuck (size : Nat) {gap rest : List Char} (hgap : ∀ c ∈ gap, Text.isWhite c)
    (hrest : Stuck rest) :
    parseRest size (gap ++ rest) = .error (.malformed (size - Text.byteCount rest)) := by
  obtain ⟨htrim, hnil⟩ := hrest.trimStart_eq hgap
  rw [parseRest]
  simp only [htrim, if_neg hnil]
  split
  next => rfl
  next h =>
    rw [htrim, hrest.unread] at h
    cases h

theorem exists_gap (cs : List Char) : ∃ gap rest, (∀ c ∈ gap, Text.isWhite c) ∧ cs = gap ++ rest ∧
    (rest = [] ∨ (∃ (w : Written) (behind : List Char), w.Listed ∧ rest = w.chars ++ ',' :: behind) ∨
      Stuck rest) := by
  refine ⟨cs.takeWhile Text.isWhite, cs.dropWhile Text.isWhite, ?_,
    List.takeWhile_append_dropWhile.symm, ?_⟩
  · intro c hc
    exact List.all_eq_true.1 List.all_takeWhile c hc
  · by_cases hnil : cs.dropWhile Text.isWhite = []
    · exact Or.inl hnil
    · right
      cases hread : Written.read? .comma (cs.dropWhile Text.isWhite) with
      | some found =>
        exact Or.inl ⟨found.1, found.2, Written.read?_comma_eq_some_iff.1 hread⟩
      | none =>
        refine Or.inr ⟨⟨_, List.head_mem_head? hnil, ?_⟩, hread⟩
        exact List.head_dropWhile_not Text.isWhite hnil

/-- A list has been read exactly if it is white space, or an entry stands behind white space
and the text behind its comma has been read. -/
theorem parseRest_eq_ok_iff {size : Nat} {cs : List Char} {es : List Entry} :
    parseRest size cs = .ok es ↔
      ((∀ c ∈ cs, Text.isWhite c) ∧ es = []) ∨
      ∃ (gap : List Char) (w : Written) (rest : List Char) (e : Entry) (es' : List Entry),
        (∀ c ∈ gap, Text.isWhite c) ∧ w.Listed ∧ cs = gap ++ (w.chars ++ ',' :: rest) ∧
        w.toEntry = .ok e ∧ parseRest size rest = .ok es' ∧ es = e :: es' := by
  constructor
  · intro h
    obtain ⟨gap, rest, hgap, rfl, rfl | ⟨w, behind, hw, rfl⟩ | hstuck⟩ := exists_gap cs
    · rw [List.append_nil] at h ⊢
      rw [parseRest_of_white size hgap] at h
      exact Or.inl ⟨hgap, (Except.ok.inj h).symm⟩
    · rw [parseRest_entry size hgap hw] at h
      obtain ⟨e, hentry, h⟩ := bind_eq_ok_iff.1 h
      obtain ⟨es', hbehind, h⟩ := bind_eq_ok_iff.1 h
      exact Or.inr ⟨gap, w, behind, e, es', hgap, hw, rfl, hentry, hbehind,
        (Except.ok.inj h).symm⟩
    · rw [parseRest_of_stuck size hgap hstuck] at h
      cases h
  · rintro (⟨hwhite, rfl⟩ | ⟨gap, w, rest, e, es', hgap, hw, rfl, hentry, hrest, rfl⟩)
    · exact parseRest_of_white size hwhite
    · rw [parseRest_entry size hgap hw, hentry, hrest]
      rfl

/-- What holds of white space, and of an entry in front of a text of which it holds, holds of
every text that has been read, together with the entries in it. -/
theorem parseRest_induct {size : Nat} {motive : List Char → List Entry → Prop}
    (white : ∀ gap, (∀ c ∈ gap, Text.isWhite c) → motive gap [])
    (entry : ∀ (gap : List Char) (w : Written) (rest : List Char) (e : Entry) (es : List Entry),
      (∀ c ∈ gap, Text.isWhite c) → w.Listed → w.toEntry = .ok e → motive rest es →
      motive (gap ++ (w.chars ++ ',' :: rest)) (e :: es))
    {cs : List Char} {es : List Entry} (h : parseRest size cs = .ok es) : motive cs es := by
  -- What is left behind an entry is shorter, and has been read too.
  induction hn : cs.length using Nat.strongRecOn generalizing cs es with
  | ind n ih =>
    rcases parseRest_eq_ok_iff.1 h with
      ⟨hwhite, rfl⟩ | ⟨gap, w, rest, e, es', hgap, hw, rfl, hentry, hrest, rfl⟩
    · exact white cs hwhite
    · refine entry gap w rest e es' hgap hw hentry (ih rest.length ?_ hrest rfl)
      simp only [← hn, List.length_append, List.length_cons]
      omega

end Initializer
end CycleTable
