import CycleTable.Proofs.Initializer.Grammar
import CycleTable.Proofs.Initializer.Shape

/-! # Entries alone and in a list

An entry that stands alone is read up to the end of its text, an entry of a list up to the first
comma that can end it. Both readers agree unless the name has in it what ends an entry of a list.
An entry alone is read back from what is written for it if its name is on one line; and two
entries are never written alike, even if their names are not.
-/
namespace CycleTable

namespace Text

theorem isWhite_head_trim (cs : List Char) : ∀ c ∈ (trim cs).head?, isWhite c = false := by
  intro c hc
  have hprefix : trim cs <+: trimStart cs := by
    rw [← List.reverse_suffix, trim, trimEnd, List.reverse_reverse]
    exact List.dropWhile_suffix isWhite
  obtain ⟨rest, hrest⟩ := hprefix
  have hhead := List.head?_dropWhile_not isWhite cs
  have hc' : (cs.dropWhile isWhite).head? = some c := by
    rw [← trimStart, ← hrest, List.head?_append, hc]
    rfl
  rw [hc'] at hhead
  simpa using hhead

theorem eq_nil_of_white {gap rest : List Char} (hgap : ∀ c ∈ gap, isWhite c)
    (hhead : ∀ c ∈ (gap ++ rest).head?, isWhite c = false) : gap = [] := by
  cases gap with
  | nil => rfl
  | cons c gap =>
    have hc := hhead c rfl
    rw [hgap c List.mem_cons_self] at hc
    cases hc

theorem isWhite_head_comma {cs : List Char} (h : ∀ c ∈ cs.head?, isWhite c = false) :
    ∀ c ∈ (cs ++ [',']).head?, isWhite c = false := by
  cases cs with
  | nil =>
    intro c hc
    obtain rfl : ',' = c := Option.some.inj hc
    decide
  | cons d cs => exact h

theorem eq_nil_of_append_comma {cs front rest : List Char} (hrest : ∀ c ∈ rest, isWhite c)
    (h : cs ++ [','] = front ++ ',' :: rest) : rest = [] := by
  rcases List.eq_nil_or_concat rest with hnil | ⟨behind, d, rfl⟩
  · exact hnil
  · have hcomma : cs ++ [','] = (front ++ ',' :: behind) ++ [d] := by
      rw [h, List.concat_eq_append, List.append_assoc, List.cons_append]
    obtain rfl : ',' = d := List.head_eq_of_cons_eq (List.append_inj_right' hcomma rfl)
    exact absurd (hrest ',' (by simp)) (by decide)

end Text

namespace Entry

/-- An entry is read alone exactly if the text, white space at its ends apart, is an entry with
the numbers of this one, all in range, and with its name, which may hold anything but a line feed. -/
theorem parse_eq_ok_iff {text : String} {e : Entry} :
    parse text = .ok e ↔ ∃ w : Written, w.Shaped ∧ Text.trim text.toList = w.chars ∧ w.Denotes e := by
  constructor
  · intro h
    unfold parse at h
    split at h
    next => cases h
    next w rest hread =>
      obtain ⟨hw, -, htext⟩ := Written.read?_text_eq_some_iff.1 hread
      exact ⟨w, hw, htext, (Written.toEntry_eq_ok_iff hw).1 h⟩
  · rintro ⟨w, hw, htext, hdenotes⟩
    have hread : Written.read? .text (Text.trim text.toList) = some (w, []) :=
      Written.read?_text_eq_some_iff.2 ⟨hw, rfl, htext⟩
    rw [parse, hread]
    exact (Written.toEntry_eq_ok_iff hw).2 hdenotes

theorem numbered_written (e : Entry) : e.written.Numbered :=
  ⟨Numeral.isRun_hex _, Numeral.isRun_decimal _, Numeral.isRun_decimal _⟩

theorem trim_renderChars (e : Entry) : Text.trim e.renderChars = e.renderChars := by
  apply Text.trim_eq_self
  · intro c hc
    rw [renderChars] at hc
    obtain rfl : '\x7b' = c := by simpa [Written.opening_eq] using hc
    decide
  · intro c hc
    rw [renderChars] at hc
    obtain rfl : '\x7d' = c := by simpa [Written.closing_eq] using hc
    decide

theorem name_of_parse {text : String} {e : Entry} (h : parse text = .ok e) :
    '\n' ∉ e.name.toList := by
  obtain ⟨w, hw, -, hdenotes⟩ := parse_eq_ok_iff.1 h
  rw [← hdenotes.name]
  exact hw.line

theorem parse_render_eq_ok_iff (e : Entry) : parse e.render = .ok e ↔ '\n' ∉ e.name.toList := by
  constructor
  · exact name_of_parse
  · intro hline
    have hw : e.written.Shaped := ⟨e.numbered_written, hline⟩
    refine parse_eq_ok_iff.2 ⟨e.written, hw, ?_, ?_⟩
    · rw [render, String.toList_ofList, trim_renderChars, chars_written]
    · exact (Written.toEntry_eq_ok_iff hw).1 e.toEntry_written

theorem render_injective : Function.Injective render := by
  intro e e' h
  have hchars : e.written.chars = e'.written.chars := by
    rw [chars_written, chars_written, String.ofList_injective h]
  have hwritten := e.numbered_written.eq_of_chars_eq e'.numbered_written hchars
  have hentry := e.toEntry_written
  rw [hwritten, toEntry_written] at hentry
  exact (Except.ok.inj hentry).symm

theorem exists_listed_of_parseRest {size : Nat} {cs : List Char} {e : Entry}
    (hhead : ∀ c ∈ cs.head?, Text.isWhite c = false)
    (h : Initializer.parseRest size (cs ++ [',']) = .ok [e]) :
    ∃ w : Written, w.Listed ∧ cs = w.chars ∧ w.toEntry = .ok e := by
  rcases Initializer.parseRest_eq_ok_iff.1 h with
    ⟨-, hnil⟩ | ⟨gap, w, rest, e', es, hgap, hw, hcs, hentry, hrest, hes⟩
  · cases hnil
  · obtain ⟨rfl, rfl⟩ := List.cons.inj hes
    have hwhite : ∀ c ∈ rest, Text.isWhite c := by
      rcases Initializer.parseRest_eq_ok_iff.1 hrest with
        ⟨hwhite, -⟩ | ⟨_, _, _, _, _, -, -, -, -, -, hnil⟩
      · exact hwhite
      · cases hnil
    obtain rfl : gap = [] := by
      apply Text.eq_nil_of_white hgap
      rw [← hcs]
      exact Text.isWhite_head_comma hhead
    obtain rfl : rest = [] := Text.eq_nil_of_append_comma hwhite hcs
    exact ⟨w, hw, List.append_cancel_right hcs, hentry⟩

theorem parse_list_eq_ok_iff {text : String} {e : Entry} :
    Initializer.parse (String.ofList (Text.trim text.toList) ++ ",") = .ok [e] ↔
      parse text = .ok e ∧ ∀ t, Written.IsTerminator t → ¬ t <:+: e.name.toList := by
  have hlist : (String.ofList (Text.trim text.toList) ++ ",").toList =
      Text.trim text.toList ++ [','] := by
    rw [String.toList_append, String.toList_ofList]
    rfl
  rw [Initializer.parse, hlist]
  constructor
  · intro h
    obtain ⟨w, hw, htext, hentry⟩ := exists_listed_of_parseRest (Text.isWhite_head_trim _) h
    have hdenotes := (Written.toEntry_eq_ok_iff hw.shaped).1 hentry
    refine ⟨parse_eq_ok_iff.2 ⟨w, hw.shaped, htext, hdenotes⟩, ?_⟩
    rw [← hdenotes.name]
    exact hw.name.2
  · rintro ⟨h, hname⟩
    obtain ⟨w, hw, htext, hdenotes⟩ := parse_eq_ok_iff.1 h
    have hlisted : w.Listed := hw.listed ⟨hw.line, fun t ht => hdenotes.name ▸ hname t ht⟩
    have hentry := (Written.toEntry_eq_ok_iff hw).2 hdenotes
    have hnone := List.forall_mem_nil (Text.isWhite ·)
    rw [htext]
    exact Initializer.parseRest_eq_ok_iff.2 (Or.inr ⟨[], w, [], e, [], hnone, hlisted, rfl, hentry,
      Initializer.parseRest_of_white _ hnone, rfl⟩)

/-- What an entry alone may look like, and where this differs from a list. Alone, its name may
hold anything but a line feed, and so it reads back as it was written unless there is one. With a
comma behind it, it is a list of this entry unless the name has in it what ends an entry there.
What is written always tells one entry from another. -/
theorem read_alone_and_listed :
    (∀ (text : String) (e : Entry), parse text = .ok e ↔
      ∃ w : Written, w.Shaped ∧ Text.trim text.toList = w.chars ∧ w.Denotes e) ∧
    (∀ e : Entry, parse e.render = .ok e ↔ '\n' ∉ e.name.toList) ∧
    (∀ (text : String) (e : Entry),
      Initializer.parse (String.ofList (Text.trim text.toList) ++ ",") = .ok [e] ↔
        parse text = .ok e ∧ ∀ t, Written.IsTerminator t → ¬ t <:+: e.name.toList) ∧
    Function.Injective render := by
  refine ⟨?_, parse_render_eq_ok_iff, ?_, render_injective⟩
  · intro text e
    exact parse_eq_ok_iff
  · intro text e
    exact parse_list_eq_ok_iff

example : parse " \x7b 0x0C, \"A\", 1, 2 \x7d, B\", 3, 04 \x7d\n" =
    .ok ⟨0xc, "A\", 1, 2 \x7d, B", 3, 4⟩ := by
  decide +kernel

end Entry
end CycleTable
