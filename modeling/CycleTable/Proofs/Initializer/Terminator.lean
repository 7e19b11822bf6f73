import CycleTable.Initializer
import CycleTable.Proofs.Numeral

/-! # Where a name ends

Names are written as they are, so that a name may hold what looks like its end. The reader takes
the first quote behind which two counts and the ending can be read. In a list such an end is a
terminator. It holds one quote only, at its start, so that none begins inside a name and ends
behind it.
-/
namespace CycleTable.Written

open Numeral (IsRun isDigit isHexDigit)

def behindName (cycles branchTaken : List Char) : List Char :=
  Entry.nameClosing ++ (cycles ++ (Entry.separator ++ (branchTaken ++ Entry.closing)))

/-- What ends a name in a list: a quote, two counts, the end of the entry and a comma. -/
def IsTerminator (t : List Char) : Prop :=
  ∃ cycles branchTaken, IsRun isDigit cycles ∧ IsRun isDigit branchTaken ∧
    t = behindName cycles branchTaken ++ [',']

/-- A name that a list gives back: on one line, and with no terminator in it. -/
def Readable (name : List Char) : Prop :=
  '\n' ∉ name ∧ ∀ t, IsTerminator t → ¬ t <:+: name

theorem nameClosing_eq : Entry.nameClosing = ['"', ',', ' '] := by decide

theorem separator_eq : Entry.separator = [',', ' '] := by decide

theorem closing_eq : Entry.closing = [' ', '\x7d'] := by decide

theorem digits?_append {p : Char → Bool} {ds rest : List Char} (hds : IsRun p ds)
    (hrest : ∀ c ∈ rest.head?, p c = false) : digits? p (ds ++ rest) = some (ds, rest) := by
  obtain ⟨htake, hdrop⟩ := Text.span_append hds.2 hrest
  unfold digits?
  rw [htake, hdrop]
  split
  next => exact absurd rfl hds.1
  next => rfl

theorem of_digits? {p : Char → Bool} {cs ds rest : List Char}
    (h : digits? p cs = some (ds, rest)) : IsRun p ds ∧ cs = ds ++ rest := by
  unfold digits? at h
  split at h
  next => cases h
  next hne =>
    simp only [Option.some.injEq, Prod.mk.injEq] at h
    obtain ⟨rfl, rfl⟩ := h
    refine ⟨⟨hne, fun c hc => ?_⟩, List.takeWhile_append_dropWhile.symm⟩
    exact List.all_eq_true.1 List.all_takeWhile c hc

theorem counts?_eq_some_iff {ending : Ending} {cs cycles branchTaken rest : List Char} :
    counts? ending cs = some (cycles, branchTaken, rest) ↔
      IsRun isDigit cycles ∧ IsRun isDigit branchTaken ∧
        ∃ behind, ending.drop? behind = some rest ∧
          cs = behindName cycles branchTaken ++ behind := by
  simp only [counts?, Option.bind_eq_bind, Option.bind_eq_some_iff]
  constructor
  · rintro ⟨a, ha, ⟨d, b⟩, hb, c, hc, ⟨d', e⟩, he, f, hf, g, hg, h⟩
    simp only [Option.some.injEq, Prod.mk.injEq] at h
    obtain ⟨rfl, rfl, rfl⟩ := h
    obtain ⟨hrun, rfl⟩ := of_digits? hb
    obtain ⟨hrun', rfl⟩ := of_digits? he
    refine ⟨hrun, hrun', f, hg, ?_⟩
    dsimp only at hc hf
    rw [Text.drop?_eq_some.1 ha, Text.drop?_eq_some.1 hc, Text.drop?_eq_some.1 hf]
    simp only [behindName, List.append_assoc]
  · rintro ⟨hrun, hrun', behind, hend, rfl⟩
    simp only [behindName, List.append_assoc]
    refine ⟨_, Text.drop?_eq_some.2 rfl, (_, _), digits?_append hrun ?_, _,
      Text.drop?_eq_some.2 rfl, (_, _), digits?_append hrun' ?_, _, Text.drop?_eq_some.2 rfl,
      rest, hend, rfl⟩
    · intro c hc
      obtain rfl : ',' = c := by simpa [separator_eq] using hc
      decide
    · intro c hc
      obtain rfl : ' ' = c := by simpa [closing_eq] using hc
      decide

theorem counts?_comma_eq_some_iff {cs cycles branchTaken rest : List Char} :
    counts? .comma cs = some (cycles, branchTaken, rest) ↔
      IsRun isDigit cycles ∧ IsRun isDigit branchTaken ∧
        cs = behindName cycles branchTaken ++ ',' :: rest := by
  rw [counts?_eq_some_iff]
  simp [Ending.drop?, Text.drop?_eq_some]

theorem counts?_comma_eq_none_iff {cs : List Char} :
    counts? .comma cs = none ↔ ∀ t, IsTerminator t → ¬ t <+: cs := by
  constructor
  · rintro h _ ⟨cycles, branchTaken, hrun, hrun', rfl⟩ ⟨rest, rfl⟩
    have hsome : counts? .comma (behindName cycles branchTaken ++ ',' :: rest) =
        some (cycles, branchTaken, rest) := counts?_comma_eq_some_iff.2 ⟨hrun, hrun', rfl⟩
    rw [List.append_assoc, List.singleton_append, hsome] at h
    cases h
  · intro h
    cases hc : counts? .comma cs with
    | none => rfl
    | some found =>
      obtain ⟨hrun, hrun', rfl⟩ := counts?_comma_eq_some_iff.1 hc
      refine absurd ⟨found.2.2, ?_⟩ (h _ ⟨found.1, found.2.1, hrun, hrun', rfl⟩)
      rw [List.append_assoc, List.singleton_append]

theorem isDigit_ne_quote {c : Char} (h : isDigit c) : c ≠ '"' := by
  rintro rfl
  revert h
  decide

theorem IsTerminator.quote {t : List Char} (h : IsTerminator t) :
    ∃ u, t = '"' :: u ∧ '"' ∉ u := by
  obtain ⟨cycles, branchTaken, hrun, hrun', rfl⟩ := h
  have h₁ : '"' ∉ cycles := fun hm => isDigit_ne_quote (hrun.2 _ hm) rfl
  have h₂ : '"' ∉ branchTaken := fun hm => isDigit_ne_quote (hrun'.2 _ hm) rfl
  rw [behindName, nameClosing_eq]
  refine ⟨_, rfl, ?_⟩
  simp [separator_eq, closing_eq, h₁, h₂]

/-- A terminator does not begin inside a name and reach the quote behind it. -/
theorem IsTerminator.prefix_of_prefix_append {t q u : List Char} (ht : IsTerminator t)
    (hq : q ≠ []) (h : t <+: q ++ '"' :: u) : t <+: q := by
  rcases List.prefix_or_prefix_of_prefix h (List.prefix_append q _) with h | ⟨s, rfl⟩
  · exact h
  · -- What stands behind `q` begins with a quote, which would be the second of the terminator.
    have hs := (List.prefix_append_right_inj q).1 h
    obtain ⟨v, hv, hquote⟩ := ht.quote
    obtain ⟨a, q, rfl⟩ := List.exists_cons_of_ne_nil hq
    cases s with
    | nil => simp
    | cons b s =>
      obtain ⟨rfl, -⟩ := List.cons_prefix_cons.1 hs
      obtain ⟨-, rfl⟩ := List.cons.inj hv
      simp at hquote

end CycleTable.Written
