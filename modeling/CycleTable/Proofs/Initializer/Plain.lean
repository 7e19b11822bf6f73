import CycleTable.Proofs.Initializer.Grammar
import CycleTable.Scan
import Mathlib.Data.List.Induction

/-! # Lists as they are written

A list may be spelled in many ways, and is written in one: with nothing between its entries, and
with numerals that have no capital and no zero too many. Writing what has been read makes a text
plain, and so a text is given back exactly if it was plain. A name is not escaped, and may hold
what reads as the end of its entry and the start of another. A list with such a name is therefore
given back only if what the name holds is spelled as it would be written.
-/
namespace CycleTable

open Written (Readable)

namespace Numeral

/-- A numeral as it is written: no letter is a capital, and no zero stands in front of another
digit. -/
structure Plain (numeral : List Char) : Prop where
  lower : ∀ c ∈ numeral, c.isUpper = false
  shortest : ∀ rest, numeral = '0' :: rest → rest = []

theorem isUpper_digitChar {n : Nat} (hn : n < 16) : n.digitChar.isUpper = false := by
  interval_cases n <;> decide

theorem isUpper_iff {c : Char} : c.isUpper ↔ 0x41 ≤ c.toNat ∧ c.toNat ≤ 0x5a :=
  decide_eq_true_iff

theorem digitChar_of_digitValue? {base d : Nat} {c : Char} (hb : base ≤ 16)
    (hlower : c.isUpper = false) (h : digitValue? base c = some d) :
    d < base ∧ d.digitChar = c := by
  have hc : c = Char.ofNat c.toNat := (Char.ofNat_toNat c).symm
  have hcapital : ¬ (0x41 ≤ c.toNat ∧ c.toNat ≤ 0x5a) := by
    rw [← isUpper_iff, hlower]
    exact Bool.false_ne_true
  simp only [digitValue?, if_neg hcapital, Option.ite_none_right_eq_some, Option.some.injEq] at h
  obtain ⟨hlt, rfl⟩ := h
  refine ⟨hlt, ?_⟩
  generalize c.toNat = n at *
  subst hc
  split_ifs at hlt ⊢ with hdigit hletter
  · obtain ⟨hlow, hhigh⟩ := hdigit
    interval_cases n <;> rfl
  · have hlow := hletter.1
    have hhigh : n ≤ 0x66 := by omega
    interval_cases n <;> rfl
  · omega

theorem plain_toDigits {base : Nat} (hb : 1 < base) (hb' : base ≤ 16) (n : Nat) :
    Plain (Nat.toDigits base n) := by
  induction n using Nat.strongRecOn with
  | ind n ih =>
    rw [Nat.toDigits_eq_if hb]
    split
    next hn =>
      refine ⟨?_, fun rest h => (List.cons.inj h).2.symm⟩
      intro c hc
      rw [List.mem_singleton.1 hc]
      exact isUpper_digitChar (by omega)
    next hn =>
      have hm : n % base < base := Nat.mod_lt n (by omega)
      have hfront := ih (n / base) (Nat.div_lt_self (by omega) hb)
      constructor
      · intro c hc
        rcases List.mem_append.1 hc with hc | hc
        · exact hfront.lower c hc
        · rw [List.mem_singleton.1 hc]
          exact isUpper_digitChar (by omega)
      · intro rest h
        -- A zero in front would be all that stands in front of the last digit.
        have hvalue := value_toDigits hb hb' (n / base)
        have hpos : 0 < n / base := Nat.div_pos (by omega) (by omega)
        obtain ⟨c, front, hcons⟩ := List.exists_cons_of_ne_nil (@Nat.toDigits_ne_nil (n / base) base)
        rw [hcons] at h
        obtain rfl := (List.cons.inj h).1
        rw [hcons, hfront.shortest front hcons] at hvalue
        have hzero : value base ['0'] = 0 := by
          simp [value, digitValue?, Nat.lt_of_lt_of_le Nat.zero_lt_one hb.le]
        omega

theorem toDigits_value {base : Nat} (hb : 1 < base) (hb' : base ≤ 16) {numeral : List Char}
    (hrun : IsRun (isDigitOf base) numeral) (hplain : Plain numeral) :
    Nat.toDigits base (value base numeral) = numeral := by
  induction numeral using List.reverseRecOn with
  | nil => exact absurd rfl hrun.1
  | append_singleton front c ih =>
    obtain ⟨d, hd⟩ := Option.isSome_iff_exists.1 (hrun.2 c (by simp))
    obtain ⟨hlt, hchar⟩ := digitChar_of_digitValue? hb' (hplain.lower c (by simp)) hd
    have hdigit : Nat.toDigits base d = [c] := by
      rw [Nat.toDigits_of_lt_base hlt, hchar]
    rw [value_concat, hd, Option.getD_some]
    by_cases hfront : front = []
    · subst hfront
      have hvalue : value base [] * base + d = d := by simp [value]
      rw [hvalue, hdigit, List.nil_append]
    · have hzero : ∀ rest, front ≠ '0' :: rest := by
        rintro rest rfl
        have hnil := hplain.shortest (rest ++ [c]) rfl
        simp at hnil
      have hdigits : Nat.toDigits base (value base front) = front := by
        apply ih
        · exact ⟨hfront, fun x hx => hrun.2 x (List.mem_append_left _ hx)⟩
        · exact ⟨fun x hx => hplain.lower x (List.mem_append_left _ hx),
            fun rest h => absurd h (hzero rest)⟩
      have hpos : 0 < value base front := by
        rw [Nat.pos_iff_ne_zero]
        intro h
        rw [h] at hdigits
        exact hzero [] (hdigits.symm.trans (Nat.toDigits_of_lt_base (by omega)))
      calc Nat.toDigits base (value base front * base + d)
          = Nat.toDigits base (base * value base front + d) := by rw [Nat.mul_comm]
        _ = Nat.toDigits base (value base front) ++ Nat.toDigits base d :=
            (Nat.toDigits_append_toDigits hb hpos hlt).symm
        _ = front ++ [c] := by rw [hdigits, hdigit]

theorem toDigits_value_iff {base : Nat} (hb : 1 < base) (hb' : base ≤ 16) {numeral : List Char}
    (hrun : IsRun (isDigitOf base) numeral) :
    Nat.toDigits base (value base numeral) = numeral ↔ Plain numeral := by
  constructor
  · intro h
    rw [← h]
    exact plain_toDigits hb hb' _
  · exact toDigits_value hb hb' hrun

end Numeral

structure Written.Plain (w : Written) : Prop where
  opcode : Numeral.Plain w.opcode
  cycles : Numeral.Plain w.cycles
  branchTaken : Numeral.Plain w.branchTaken

theorem Written.eq_written_iff {w : Written} {e : Entry} (hw : w.Numbered) (h : w.Denotes e) :
    w = e.written ↔ w.Plain := by
  have hopcode := @Numeral.toDigits_value_iff 16 (by decide) (by decide) w.opcode hw.opcode
  have hcycles := @Numeral.toDigits_value_iff 10 (by decide) (by decide) w.cycles hw.cycles
  have htaken := @Numeral.toDigits_value_iff 10 (by decide) (by decide) w.branchTaken hw.branchTaken
  rw [h.opcode] at hopcode
  rw [h.cycles] at hcycles
  rw [h.branchTaken] at htaken
  constructor
  · intro heq
    refine ⟨hopcode.1 ?_, hcycles.1 ?_, htaken.1 ?_⟩
    · exact (congrArg Written.opcode heq).symm
    · exact (congrArg Written.cycles heq).symm
    · exact (congrArg Written.branchTaken heq).symm
  · rintro ⟨ho, hc, ht⟩
    rw [Entry.written, Numeral.hex, Numeral.decimal, Numeral.decimal, hopcode.2 ho, hcycles.2 hc,
      htaken.2 ht, ← h.name]

namespace Gap

def none : Gap := ⟨"", by simp⟩

theorem eq_none_iff {gap : Gap} : gap = none ↔ gap.text = "" := by
  constructor
  · rintro rfl
    rfl
  · intro h
    exact eq_of_toList_eq (congrArg String.toList h)

end Gap

namespace Initializer

structure Form.Plain (form : Form) : Prop where
  front : form.front.text = ""
  items : ∀ item ∈ form.items, item.1.Plain ∧ item.2.text = ""

def plainItems (es : List Entry) : List (Written × Gap) := es.map fun e => (e.written, Gap.none)

theorem spelled_plainItems (es : List Entry) : spelled Gap.none (plainItems es) = render es := by
  rw [← String.toList_inj]
  induction es with
  | nil => rfl
  | cons e es ih =>
    rw [plainItems, List.map_cons, toList_spelled_cons, ← plainItems, ih]
    simp [render, Entry.chars_written, Gap.none]

theorem eq_plainItems_iff {items : List (Written × Gap)} {es : List Entry}
    (hlisted : ∀ item ∈ items, item.1.Listed)
    (h : List.Forall₂ (fun item e => item.1.Denotes e) items es) :
    items = plainItems es ↔ ∀ item ∈ items, item.1.Plain ∧ item.2.text = "" := by
  induction h with
  | nil => simp [plainItems]
  | @cons item e items es hitem _ ih =>
    obtain ⟨w, next⟩ := item
    obtain ⟨hw, hitems⟩ := List.forall_mem_cons.1 hlisted
    have hplain := Written.eq_written_iff hw.shaped.toNumbered hitem
    have hrest := ih hitems
    rw [plainItems, List.map_cons, List.cons.injEq, Prod.mk.injEq, hplain, Gap.eq_none_iff,
      List.forall_mem_cons, ← plainItems, hrest]

/-- A text that has been read is written again as it was exactly if it was plain. -/
theorem render_eq_text_iff {form : Form} {es : List Entry}
    (hform : List.Forall₂ Written.Denotes form.entries es) :
    render es = form.text ↔ form.Plain := by
  have hdenotes := List.forall₂_map_left_iff.1 hform
  have hitems := eq_plainItems_iff form.listed hdenotes
  constructor
  · intro h
    have hreadable : ∀ e ∈ es, Readable e.name.toList :=
      readable_of_parseRest (@parseRest_spelled 0 form.front _ _ form.listed hdenotes)
    have hlisted : ∀ item ∈ plainItems es, item.1.Listed := by
      intro item hitem
      obtain ⟨e, he, rfl⟩ := List.mem_map.1 hitem
      exact Entry.listed_written (hreadable e he)
    rw [← spelled_plainItems] at h
    obtain ⟨hfront, heq⟩ := spelled_inj form.listed hlisted (congrArg String.toList h.symm)
    exact ⟨Gap.eq_none_iff.1 hfront, hitems.1 heq⟩
  · rintro ⟨hfront, hplain⟩
    rw [← spelled_plainItems, Form.text, Gap.eq_none_iff.2 hfront, hitems.2 hplain]

/-- A list may be read back as another one, since a name may hold what ends its entry and begins
the next. Written again, it gives the same text exactly if this text is plain, the entries that a
name imitates included. It is the list that was written if no name holds a line feed or a
terminator, and only then. In any case one reading is enough: what has been read is read again
from the text that is written for it. -/
theorem render_parse_render_iff {es fs : List Entry} (h : parse (render es) = .ok fs) :
    (render fs = render es ↔ ∃ form : Form, form.text = render es ∧ form.Plain) ∧
    (fs = es ↔ ∀ e ∈ es, Readable e.name.toList) ∧
    parse (render fs) = .ok fs := by
  have hagain := (parse_eq_ok_iff_form (render es) fs).2.2 h
  obtain ⟨form, htext, hform⟩ := ((parse_eq_ok_iff_form (render es) fs).1).1 h
  refine ⟨?_, ?_, hagain⟩
  · rw [← htext, render_eq_text_iff hform]
    constructor
    · intro hplain
      exact ⟨form, rfl, hplain⟩
    · rintro ⟨form', htext', hplain⟩
      obtain rfl := (parse_eq_ok_iff_form form.text fs).2.1 form' form htext' rfl
      exact hplain
  · constructor
    · rintro rfl
      exact readable_of_parseRest h
    · intro hreadable
      have hback := parse_render_append Gap.none hreadable
      rw [Gap.none, String.append_empty, h] at hback
      exact Except.ok.inj hback

/-- A name that reads as the end of an entry and the start of another, spelled as both are
written. -/
def plainImitation : Entry := ⟨0, "a\", 1, 2 \x7d,\x7b 0x0, \"b", 3, 4⟩

/-- The same with two zeros and a space too many. -/
def paddedImitation : Entry := ⟨0, "a\", 01, 2 \x7d, \x7b 0x00, \"b", 3, 4⟩

def imitated : List Entry := [⟨0, "a", 1, 2⟩, ⟨0, "b", 3, 4⟩]

theorem plainImitation_given_back :
    parse (render [plainImitation]) = .ok imitated ∧
    (∃ form : Form, form.text = render [plainImitation] ∧ form.Plain) ∧
    ¬ Readable plainImitation.name.toList := by
  have hparse : parse (render [plainImitation]) = .ok imitated := by decide +kernel
  obtain ⟨hrender, hentries, -⟩ := render_parse_render_iff hparse
  refine ⟨hparse, hrender.1 (by decide +kernel), ?_⟩
  intro hreadable
  have hne : imitated ≠ [plainImitation] := by decide +kernel
  exact hne (hentries.2 (List.forall_mem_singleton.2 hreadable))

/-- A table may have a padded name in it. What pads it is lost. -/
theorem paddedImitation_not_given_back :
    Scan.entries [[], ["a\", 01, 2 \x7d, \x7b 0x00, \"b\n1 3-4"]] .strict =
      .ok [paddedImitation] ∧
    '\n' ∉ paddedImitation.name.toList ∧
    parse (render [paddedImitation]) = .ok imitated ∧
    render imitated ≠ render [paddedImitation] := by
  decide +kernel

end Initializer
end CycleTable
