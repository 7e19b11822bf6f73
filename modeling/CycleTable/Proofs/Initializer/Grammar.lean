import CycleTable.Proofs.Initializer.RoundTrip
import Mathlib.Data.List.Forall2

/-! # The grammar of lists

A list has a form: white space, and entries that each have a comma and white space behind them.
Numerals may have leading zeros and hexadecimal digits of either case, so that one list has many
texts. A text has one form at most, although a name may hold quotes, commas and braces. What is
read from it can be written again.
-/
namespace CycleTable

open Written (Readable)

namespace Written

/-- The parts of a written entry stand for an entry if its numbers are the values of the
numerals. Any number of leading zeros makes no difference. -/
structure Denotes (w : Written) (e : Entry) : Prop where
  opcode : Numeral.value 16 w.opcode = e.opcode.toNat
  name : w.name = e.name.toList
  cycles : Numeral.value 10 w.cycles = e.cycles.toNat
  branchTaken : Numeral.value 10 w.branchTaken = e.branchTaken.toNat

theorem number_eq_ok_iff {base : Nat} {numeral : List Char} {n : UInt32} (hbase : 0 < base)
    (hrun : Numeral.IsRun (Numeral.isDigitOf base) numeral) :
    number base numeral = .ok n ↔ Numeral.value base numeral = n.toNat := by
  rw [number_eq_of_isRun hbase hrun]
  by_cases hvalue : Numeral.value base numeral < UInt32.size
  · rw [if_pos hvalue]
    constructor
    · intro h
      cases h
      exact (UInt32.toNat_ofNat_of_lt' hvalue).symm
    · intro h
      rw [h, UInt32.ofNat_toNat]
  · rw [if_neg hvalue]
    constructor
    · intro h
      cases h
    · intro h
      exact absurd (h ▸ n.toNat_lt_size) hvalue

theorem toEntry_eq_ok_iff {w : Written} (hw : w.Shaped) {e : Entry} :
    w.toEntry = .ok e ↔ w.Denotes e := by
  have hopcode := @number_eq_ok_iff 16 w.opcode e.opcode (by decide) hw.opcode
  have hcycles := @number_eq_ok_iff 10 w.cycles e.cycles (by decide) hw.cycles
  have htaken := @number_eq_ok_iff 10 w.branchTaken e.branchTaken (by decide) hw.branchTaken
  constructor
  · intro h
    have hname := name_of_toEntry h
    obtain ⟨opcode, ho, h⟩ := bind_eq_ok_iff.1 h
    obtain ⟨cycles, hc, h⟩ := bind_eq_ok_iff.1 h
    obtain ⟨branchTaken, ht, h⟩ := bind_eq_ok_iff.1 h
    cases h
    exact ⟨hopcode.1 ho, hname.symm, hcycles.1 hc, htaken.1 ht⟩
  · rintro ⟨ho, hname, hc, ht⟩
    rw [toEntry, hopcode.2 ho, hcycles.2 hc, htaken.2 ht, hname, String.ofList_toList]
    rfl

end Written

theorem Gap.eq_of_toList_eq {gap gap' : Gap} (h : gap.text.toList = gap'.text.toList) :
    gap = gap' := by
  obtain ⟨text, white⟩ := gap
  obtain ⟨text', white'⟩ := gap'
  obtain rfl : text = text' := String.toList_inj.1 h
  rfl

namespace Initializer

/-- Written entries as text, with white space in front of the first one and behind each comma. -/
def spelled (gap : Gap) : List (Written × Gap) → String
  | [] => gap.text
  | (w, next) :: items => gap.text ++ String.ofList w.chars ++ "," ++ spelled next items

theorem toList_spelled_cons (gap next : Gap) (w : Written) (items : List (Written × Gap)) :
    (spelled gap ((w, next) :: items)).toList =
      gap.text.toList ++ (w.chars ++ ',' :: (spelled next items).toList) := by
  simp [spelled]

/-- The form of a list: the white space in front, and the entries, each with the white space
behind its comma. -/
structure Form where
  front : Gap
  items : List (Written × Gap)
  listed : ∀ item ∈ items, item.1.Listed

namespace Form

def text (form : Form) : String := spelled form.front form.items

def entries (form : Form) : List Written := form.items.map Prod.fst

end Form

theorem parseRest_spelled (size : Nat) {gap : Gap} {items : List (Written × Gap)} {es : List Entry}
    (hlisted : ∀ item ∈ items, item.1.Listed)
    (hes : List.Forall₂ (fun item e => item.1.Denotes e) items es) :
    parseRest size (spelled gap items).toList = .ok es := by
  induction hes generalizing gap with
  | nil => exact parseRest_of_white size gap.white
  | @cons item e items es hitem _ ih =>
    obtain ⟨w, next⟩ := item
    have hw : w.Listed := hlisted (w, next) List.mem_cons_self
    have hentry : w.toEntry = .ok e := (Written.toEntry_eq_ok_iff hw.shaped).2 hitem
    rw [toList_spelled_cons, parseRest_entry size gap.white hw, hentry,
      ih fun item hi => hlisted item (List.mem_cons_of_mem _ hi)]
    rfl

theorem exists_form_of_parseRest {size : Nat} {cs : List Char} {es : List Entry}
    (h : parseRest size cs = .ok es) :
    ∃ form : Form, form.text.toList = cs ∧ List.Forall₂ Written.Denotes form.entries es := by
  refine parseRest_induct
    (motive := fun cs es => ∃ form : Form, form.text.toList = cs ∧
      List.Forall₂ Written.Denotes form.entries es) ?_ ?_ h
  · intro gap hgap
    have hwhite : ∀ c ∈ (String.ofList gap).toList, Text.isWhite c := by
      rwa [String.toList_ofList]
    exact ⟨⟨⟨String.ofList gap, hwhite⟩, [], by simp⟩, String.toList_ofList, .nil⟩
  · rintro gap w rest e es hgap hw hentry ⟨form, rfl, hform⟩
    have hwhite : ∀ c ∈ (String.ofList gap).toList, Text.isWhite c := by
      rwa [String.toList_ofList]
    have hlisted : ∀ item ∈ (w, form.front) :: form.items, item.1.Listed :=
      List.forall_mem_cons.2 ⟨hw, form.listed⟩
    refine ⟨⟨⟨String.ofList gap, hwhite⟩, (w, form.front) :: form.items, hlisted⟩, ?_, ?_⟩
    · rw [Form.text, toList_spelled_cons, String.toList_ofList, Form.text]
    · exact .cons ((Written.toEntry_eq_ok_iff hw.shaped).1 hentry) hform

theorem gap_eq_of_append_eq {gap gap' : Gap} {w w' : Written} {cs cs' : List Char}
    (h : gap.text.toList ++ (w.chars ++ cs) = gap'.text.toList ++ (w'.chars ++ cs')) :
    gap = gap' ∧ w.chars ++ cs = w'.chars ++ cs' := by
  obtain ⟨htake, hdrop⟩ := Text.span_append gap.white (isWhite_head_chars w cs)
  obtain ⟨htake', hdrop'⟩ := Text.span_append gap'.white (isWhite_head_chars w' cs')
  rw [h] at htake hdrop
  exact ⟨Gap.eq_of_toList_eq (htake.symm.trans htake'), hdrop.symm.trans hdrop'⟩

theorem not_white_spelled_cons {gap gap' next : Gap} {w : Written} {items : List (Written × Gap)} :
    (spelled gap' ((w, next) :: items)).toList ≠ gap.text.toList := by
  intro h
  have hmem : '\x7b' ∈ gap.text.toList := by
    rw [← h, toList_spelled_cons]
    simp [Written.chars, Written.opening_eq]
  exact absurd (gap.white _ hmem) (by decide)

/-- Names may hold what ends an entry elsewhere, and yet a text has one form at most: a readable
name ends where the reader ends it. -/
theorem spelled_inj {gap gap' : Gap} {items items' : List (Written × Gap)}
    (hlisted : ∀ item ∈ items, item.1.Listed) (hlisted' : ∀ item ∈ items', item.1.Listed)
    (h : (spelled gap items).toList = (spelled gap' items').toList) :
    gap = gap' ∧ items = items' := by
  induction items generalizing gap gap' items' with
  | nil =>
    cases items' with
    | nil => exact ⟨Gap.eq_of_toList_eq h, rfl⟩
    | cons item' items' => exact absurd h.symm not_white_spelled_cons
  | cons item items ih =>
    cases items' with
    | nil => exact absurd h not_white_spelled_cons
    | cons item' items' =>
      obtain ⟨w, next⟩ := item
      obtain ⟨w', next'⟩ := item'
      rw [toList_spelled_cons, toList_spelled_cons] at h
      obtain ⟨rfl, hrest⟩ := gap_eq_of_append_eq h
      have hw : w.Listed := hlisted (w, next) List.mem_cons_self
      have hw' : w'.Listed := hlisted' (w', next') List.mem_cons_self
      -- Both entries are what the reader takes off the same text.
      have hread : Written.read? .comma (w'.chars ++ ',' :: (spelled next' items').toList) =
          some (w, (spelled next items).toList) :=
        Written.read?_comma_eq_some_iff.2 ⟨hw, hrest.symm⟩
      rw [Written.read?_comma_eq_some_iff.2 ⟨hw', rfl⟩] at hread
      obtain ⟨rfl, hnext⟩ := Prod.mk.inj (Option.some.inj hread.symm)
      obtain ⟨rfl, rfl⟩ := ih (fun item hi => hlisted item (List.mem_cons_of_mem _ hi))
        (fun item hi => hlisted' item (List.mem_cons_of_mem _ hi)) hnext
      exact ⟨rfl, rfl⟩

/-- A text is read as a list exactly if it has the form of one, with numerals whose values are
the numbers of the entries. There is one such form at most. A list that has been read is read
again from the text that is written for it. -/
theorem parse_eq_ok_iff_form (text : String) (es : List Entry) :
    (parse text = .ok es ↔
      ∃ form : Form, form.text = text ∧ List.Forall₂ Written.Denotes form.entries es) ∧
    (∀ form form' : Form, form.text = text → form'.text = text → form = form') ∧
    (parse text = .ok es → parse (render es) = .ok es) := by
  refine ⟨⟨?_, ?_⟩, ?_, ?_⟩
  · intro h
    obtain ⟨form, htext, hform⟩ := exists_form_of_parseRest h
    exact ⟨form, String.toList_inj.1 htext, hform⟩
  · rintro ⟨form, rfl, hform⟩
    exact parseRest_spelled _ form.listed (List.forall₂_map_left_iff.1 hform)
  · rintro ⟨front, items, hlisted⟩ ⟨front', items', hlisted'⟩ rfl h
    obtain ⟨rfl, rfl⟩ := spelled_inj hlisted hlisted' (congrArg String.toList h.symm)
    rfl
  · intro h
    have hrender := parse_render_append ⟨"", by simp⟩ (readable_of_parseRest h)
    rwa [String.append_empty] at hrender

example : parse " \x7b 0x00aF, \"LD \"A\", 5\", 4, 0012 \x7d,\n" =
    .ok [⟨0xaf, "LD \"A\", 5", 4, 12⟩] := by
  decide +kernel

end Initializer
end CycleTable
