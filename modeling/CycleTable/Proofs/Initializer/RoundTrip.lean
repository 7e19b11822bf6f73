import CycleTable.Proofs.Initializer.Reading
import CycleTable.Proofs.Outcome

/-! # Writing a list and reading it back

Nothing in a name is escaped, and yet a list reads back as it was written, unless a name holds
a line feed or a terminator. Quotes, backslashes and braces do no harm. A list with another
name in it may be read, but never as itself: what has been read has readable names only.
-/
namespace CycleTable

open Written (Readable)

namespace Entry

def written (e : Entry) : Written :=
  ⟨Numeral.hex e.opcode.toNat, e.name.toList, Numeral.decimal e.cycles.toNat,
    Numeral.decimal e.branchTaken.toNat⟩

theorem chars_written (e : Entry) : e.written.chars = e.renderChars := by
  simp only [written, Written.chars, Written.behindName, renderChars, List.append_assoc]

theorem toEntry_written (e : Entry) : e.written.toEntry = .ok e := by
  simp [written, Written.toEntry, Written.number, Except.mapError, bind, Except.bind, pure,
    Except.pure]

theorem listed_written {e : Entry} (h : Readable e.name.toList) : e.written.Listed :=
  ⟨Numeral.isRun_hex _, h, Numeral.isRun_decimal _, Numeral.isRun_decimal _⟩

end Entry

theorem Written.name_of_toEntry {w : Written} {e : Entry} (h : w.toEntry = .ok e) :
    e.name.toList = w.name := by
  obtain ⟨opcode, -, h⟩ := bind_eq_ok_iff.1 h
  obtain ⟨cycles, -, h⟩ := bind_eq_ok_iff.1 h
  obtain ⟨branchTaken, -, h⟩ := bind_eq_ok_iff.1 h
  cases h
  exact String.toList_ofList

structure Gap where
  text : String
  white : ∀ c ∈ text.toList, Text.isWhite c = true

namespace Initializer

/-- A list of entries as text, with white space in front of the first entry and behind each
comma. -/
def spaced (gap : Gap) : List (Entry × Gap) → String
  | [] => gap.text
  | (entry, next) :: items => gap.text ++ entry.render ++ "," ++ spaced next items

theorem toList_spaced_cons (gap next : Gap) (e : Entry) (items : List (Entry × Gap)) :
    (spaced gap ((e, next) :: items)).toList =
      gap.text.toList ++ (e.written.chars ++ ',' :: (spaced next items).toList) := by
  simp [spaced, Entry.render, Entry.chars_written]

theorem exists_render_eq_spaced (es : List Entry) (last : Gap) :
    ∃ gap items, render es ++ last.text = spaced gap items ∧ items.map Prod.fst = es := by
  induction es with
  | nil => exact ⟨last, [], String.empty_append, rfl⟩
  | cons e es ih =>
    obtain ⟨next, items, hitems, hfst⟩ := ih
    refine ⟨⟨"", by simp⟩, (e, next) :: items, ?_, by rw [List.map_cons, hfst]⟩
    rw [← String.toList_inj] at hitems ⊢
    rw [toList_spaced_cons, ← hitems]
    simp [render, Entry.chars_written]

theorem readable_of_parseRest {size : Nat} {cs : List Char} {es : List Entry}
    (h : parseRest size cs = .ok es) : ∀ e ∈ es, Readable e.name.toList := by
  refine parseRest_induct (motive := fun _ es => ∀ e ∈ es, Readable e.name.toList) ?_ ?_ h
  · simp
  · intro gap w rest e es' _ hw hentry ih e' he
    rcases List.mem_cons.1 he with rfl | he
    · rw [Written.name_of_toEntry hentry]
      exact hw.name
    · exact ih e' he

theorem parseRest_spaced (size : Nat) (gap : Gap) {items : List (Entry × Gap)}
    (h : ∀ item ∈ items, Readable item.1.name.toList) :
    parseRest size (spaced gap items).toList = .ok (items.map Prod.fst) := by
  induction items generalizing gap with
  | nil => exact parseRest_of_white size gap.white
  | cons item items ih =>
    obtain ⟨e, next⟩ := item
    have hlisted := Entry.listed_written (h (e, next) List.mem_cons_self)
    rw [toList_spaced_cons, parseRest_entry size gap.white hlisted, Entry.toEntry_written,
      ih next fun item hi => h item (List.mem_cons_of_mem _ hi)]
    rfl

theorem parse_render_append (last : Gap) {es : List Entry}
    (h : ∀ e ∈ es, Readable e.name.toList) : parse (render es ++ last.text) = .ok es := by
  obtain ⟨gap, items, hitems, rfl⟩ := exists_render_eq_spaced es last
  rw [hitems, parse]
  exact parseRest_spaced _ gap fun item hi => h item.1 (List.mem_map_of_mem hi)

/-- A list gives its entries back exactly if each name is on one line and holds no terminator.
White space around entries and commas makes no difference. -/
theorem parse_spaced_eq_ok_iff (gap : Gap) (items : List (Entry × Gap)) :
    (parse (spaced gap items) = .ok (items.map Prod.fst) ↔
      ∀ e ∈ items.map Prod.fst, Readable e.name.toList) ∧
    (parse (render (items.map Prod.fst)) = .ok (items.map Prod.fst) ↔
      ∀ e ∈ items.map Prod.fst, Readable e.name.toList) := by
  constructor
  · refine ⟨readable_of_parseRest, fun h => ?_⟩
    exact parseRest_spaced _ gap fun item hi => h item.1 (List.mem_map_of_mem hi)
  · refine ⟨readable_of_parseRest, fun h => ?_⟩
    have hparse := parse_render_append ⟨"", by simp⟩ h
    rwa [String.append_empty] at hparse

end Initializer
end CycleTable
