import CycleTable.Proofs.Initializer.Reading

/-! # The shape of an entry

The same shape is read in two ways. An entry that stands alone ends with its text, so that its
name reaches up to the last quote. In a list the entry ends with the first comma that can end it,
so that its name is the shortest there is.
-/
namespace CycleTable.Written

open Numeral (IsRun isDigit isHexDigit)

theorem behindName_eq_quote (cycles branchTaken : List Char) (hcycles : IsRun isDigit cycles)
    (htaken : IsRun isDigit branchTaken) :
    ∃ rest, behindName cycles branchTaken = '"' :: rest ∧ '"' ∉ rest := by
  obtain ⟨rest, hrest, hquote⟩ := IsTerminator.quote ⟨cycles, branchTaken, hcycles, htaken, rfl⟩
  rw [behindName, nameClosing_eq] at hrest ⊢
  refine ⟨_, rfl, fun h => hquote ?_⟩
  rw [← (List.cons.inj hrest).2]
  exact List.mem_append_left _ h

theorem eq_nil_of_behindName_eq {q cycles branchTaken cycles' branchTaken' : List Char}
    (hcycles : IsRun isDigit cycles) (htaken : IsRun isDigit branchTaken)
    (h : behindName cycles branchTaken = q ++ behindName cycles' branchTaken') : q = [] := by
  obtain ⟨rest, hrest, hquote⟩ := behindName_eq_quote cycles branchTaken hcycles htaken
  by_contra hne
  obtain ⟨c, q, rfl⟩ := List.exists_cons_of_ne_nil hne
  rw [hrest] at h
  apply hquote
  rw [(List.cons.inj h).2, behindName, nameClosing_eq]
  simp

theorem counts?_text_eq_some_iff {cs cycles branchTaken rest : List Char} :
    counts? .text cs = some (cycles, branchTaken, rest) ↔
      IsRun isDigit cycles ∧ IsRun isDigit branchTaken ∧ rest = [] ∧
        cs = behindName cycles branchTaken := by
  rw [counts?_eq_some_iff]
  constructor
  · rintro ⟨hcycles, htaken, behind, hend, rfl⟩
    cases behind with
    | nil => exact ⟨hcycles, htaken, (Option.some.inj hend).symm, List.append_nil _⟩
    | cons c behind => cases hend
  · rintro ⟨hcycles, htaken, rfl, rfl⟩
    exact ⟨hcycles, htaken, [], rfl, (List.append_nil _).symm⟩

theorem read?_text_eq_some_iff {cs rest : List Char} {w : Written} :
    read? .text cs = some (w, rest) ↔ w.Shaped ∧ rest = [] ∧ cs = w.chars := by
  rw [read?_eq_some_iff]
  constructor
  · rintro ⟨hopcode, behind, hfound, rfl⟩
    obtain ⟨hline, counts, rfl, hcounts, -⟩ := nameAndCounts?_eq_some_iff.1 hfound
    obtain ⟨hcycles, htaken, rfl, rfl⟩ := counts?_text_eq_some_iff.1 hcounts
    exact ⟨⟨⟨hopcode, hcycles, htaken⟩, hline⟩, rfl, rfl⟩
  · rintro ⟨hw, rfl, rfl⟩
    refine ⟨hw.opcode, _, nameAndCounts?_eq_some_iff.2 ⟨hw.line, _, rfl,
      counts?_text_eq_some_iff.2 ⟨hw.cycles, hw.branchTaken, rfl, rfl⟩, ?_⟩, rfl⟩
    intro q _ hne
    rw [Option.eq_none_iff_forall_ne_some]
    rintro ⟨cycles, branchTaken, rest⟩ hsome
    obtain ⟨hcycles, htaken, -, h⟩ := counts?_text_eq_some_iff.1 hsome
    exact hne (eq_nil_of_behindName_eq hcycles htaken h.symm)

theorem exists_nameAndCounts? {ending : Ending} {name behind : List Char}
    {found : List Char × List Char × List Char} (hline : '\n' ∉ name)
    (hbehind : counts? ending behind = some found) :
    ∃ found', nameAndCounts? ending (name ++ behind) = some found' := by
  induction name with
  | nil =>
    cases behind with
    | nil => simp [counts?, Text.drop?, nameClosing_eq] at hbehind
    | cons c behind =>
      rw [List.nil_append, nameAndCounts?, hbehind]
      exact ⟨_, rfl⟩
  | cons c name ih =>
    obtain ⟨found', hfound'⟩ := ih fun h => hline (List.mem_cons_of_mem c h)
    have hc : c ≠ '\n' := by
      rintro rfl
      exact hline List.mem_cons_self
    rw [List.cons_append, nameAndCounts?, if_neg hc, hfound']
    cases counts? ending (c :: (name ++ behind)) with
    | some _ => exact ⟨_, rfl⟩
    | none => exact ⟨_, rfl⟩

theorem read?_comma_eq_none_iff {cs : List Char} :
    read? .comma cs = none ↔ ∀ w : Written, w.Shaped → ¬ w.chars ++ [','] <+: cs := by
  constructor
  · rintro hnone w hw ⟨rest, rfl⟩
    have hcounts : counts? .comma (behindName w.cycles w.branchTaken ++ ',' :: rest) =
        some (w.cycles, w.branchTaken, rest) :=
      counts?_comma_eq_some_iff.2 ⟨hw.cycles, hw.branchTaken, rfl⟩
    obtain ⟨⟨name, cycles, branchTaken, rest'⟩, hfound⟩ := exists_nameAndCounts? hw.line hcounts
    have hsome : read? .comma (w.chars ++ [','] ++ rest) =
        some (⟨w.opcode, name, cycles, branchTaken⟩, rest') := by
      refine read?_eq_some_iff.2 ⟨hw.opcode, _, hfound, ?_⟩
      simp only [chars, List.append_assoc, List.singleton_append]
    rw [hnone] at hsome
    cases hsome
  · intro hnone
    rw [Option.eq_none_iff_forall_ne_some]
    rintro ⟨w, rest⟩ hsome
    obtain ⟨hw, rfl⟩ := read?_comma_eq_some_iff.1 hsome
    refine hnone w hw.shaped ⟨rest, ?_⟩
    rw [List.append_assoc, List.singleton_append]

theorem opcode_eq_of_append_eq {w w' : Written} {rest rest' : List Char}
    (hw : IsRun isHexDigit w.opcode) (hw' : IsRun isHexDigit w'.opcode)
    (h : w.chars ++ rest = w'.chars ++ rest') :
    w.opcode = w'.opcode ∧ w.name ++ (behindName w.cycles w.branchTaken ++ rest) =
      w'.name ++ (behindName w'.cycles w'.branchTaken ++ rest') := by
  have hcomma : ∀ behind, ∀ c ∈ (Entry.nameOpening ++ behind).head?, isHexDigit c = false := by
    intro behind c hc
    obtain rfl : ',' = c := by simpa [nameOpening_eq] using hc
    decide
  simp only [chars, List.append_assoc, List.append_cancel_left_eq] at h
  obtain ⟨htake, hdrop⟩ := Text.span_append hw.2 (hcomma _)
  obtain ⟨htake', hdrop'⟩ := Text.span_append hw'.2 (hcomma _)
  rw [h] at htake hdrop
  refine ⟨htake.symm.trans htake', List.append_cancel_left (hdrop.symm.trans hdrop')⟩

theorem behindName_inj {cycles branchTaken cycles' branchTaken' : List Char}
    (hcycles : IsRun isDigit cycles) (htaken : IsRun isDigit branchTaken)
    (hcycles' : IsRun isDigit cycles') (htaken' : IsRun isDigit branchTaken')
    (h : behindName cycles branchTaken = behindName cycles' branchTaken') :
    cycles = cycles' ∧ branchTaken = branchTaken' := by
  have hcounts : counts? .text (behindName cycles branchTaken) = some (cycles, branchTaken, []) :=
    counts?_text_eq_some_iff.2 ⟨hcycles, htaken, rfl, rfl⟩
  rw [counts?_text_eq_some_iff.2 ⟨hcycles', htaken', rfl, h⟩] at hcounts
  obtain ⟨rfl, hrest⟩ := Prod.mk.inj (Option.some.inj hcounts)
  exact ⟨rfl, (Prod.mk.inj hrest).1.symm⟩

/-- What is written tells the parts of an entry, whatever its name. -/
theorem Numbered.eq_of_chars_eq {w w' : Written} (hw : w.Numbered) (hw' : w'.Numbered)
    (h : w.chars = w'.chars) : w = w' := by
  have happend : w.chars ++ [] = w'.chars ++ [] := by rw [h]
  obtain ⟨hopcode, hname⟩ := opcode_eq_of_append_eq hw.opcode hw'.opcode happend
  rw [List.append_nil, List.append_nil] at hname
  have hboth : w.name = w'.name ∧
      behindName w.cycles w.branchTaken = behindName w'.cycles w'.branchTaken := by
    rcases List.append_eq_append_iff.1 hname with ⟨q, hq, hbehind⟩ | ⟨q, hq, hbehind⟩
    · obtain rfl := eq_nil_of_behindName_eq hw.cycles hw.branchTaken hbehind
      exact ⟨by rw [hq, List.append_nil], hbehind⟩
    · obtain rfl := eq_nil_of_behindName_eq hw'.cycles hw'.branchTaken hbehind
      exact ⟨by rw [hq, List.append_nil], hbehind.symm⟩
  obtain ⟨hcycles, htaken⟩ :=
    behindName_inj hw.cycles hw.branchTaken hw'.cycles hw'.branchTaken hboth.2
  cases w
  cases w'
  simp only at hopcode hboth hcycles htaken
  rw [hopcode, hboth.1, hcycles, htaken]

def ShortestIn (w : Written) (cs : List Char) : Prop :=
  ∀ w' : Written, w'.Shaped → w'.chars ++ [','] <+: cs → w.name.length ≤ w'.name.length

theorem terminator_infix_of_lt {name name' cycles branchTaken t rest rest' : List Char}
    (hcycles : IsRun isDigit cycles) (htaken : IsRun isDigit branchTaken) (ht : IsTerminator t)
    (h : name' ++ (t ++ rest') = name ++ (behindName cycles branchTaken ++ rest))
    (hlt : name'.length < name.length) : t <:+: name := by
  rcases List.append_eq_append_iff.1 h with ⟨q, rfl, hq⟩ | ⟨q, rfl, -⟩
  · have hne : q ≠ [] := by
      rintro rfl
      simp at hlt
    obtain ⟨u, hu, -⟩ := behindName_eq_quote cycles branchTaken hcycles htaken
    have hprefix : t <+: q ++ '"' :: (u ++ rest) := by
      rw [← List.cons_append, ← hu, ← hq]
      exact List.prefix_append t rest'
    exact (ht.prefix_of_prefix_append hne hprefix).isInfix.trans (List.suffix_append _ q).isInfix
  · rw [List.length_append] at hlt
    omega

/-- An entry is listed exactly if it has the shortest name in its place. -/
theorem listed_iff_shortest {w : Written} (rest : List Char) :
    w.Listed ↔ w.Shaped ∧ w.ShortestIn (w.chars ++ ',' :: rest) := by
  constructor
  · intro hw
    refine ⟨hw.shaped, ?_⟩
    rintro w' hw' ⟨rest', h⟩
    have hend : IsTerminator (behindName w'.cycles w'.branchTaken ++ [',']) :=
      ⟨_, _, hw'.cycles, hw'.branchTaken, rfl⟩
    rw [List.append_assoc] at h
    obtain ⟨-, hname⟩ := opcode_eq_of_append_eq hw'.opcode hw.opcode h
    rw [← List.append_assoc (behindName w'.cycles w'.branchTaken)] at hname
    by_contra hlt
    exact hw.name.2 _ hend
      (terminator_infix_of_lt hw.cycles hw.branchTaken hend hname (Nat.not_le.1 hlt))
  · rintro ⟨hw, hshortest⟩
    refine hw.listed ⟨hw.line, ?_⟩
    rintro _ ⟨cycles, branchTaken, hcycles, htaken, rfl⟩ ⟨p, s, hname⟩
    -- The name in front of the terminator would do as well, and it is shorter.
    have hp : '\n' ∉ p := by
      intro h
      apply hw.line
      rw [← hname]
      simp [h]
    have hle := hshortest ⟨w.opcode, p, cycles, branchTaken⟩ ⟨⟨hw.opcode, hcycles, htaken⟩, hp⟩
      ⟨s ++ (behindName w.cycles w.branchTaken ++ ',' :: rest), by
        simp only [chars, ← hname, List.append_assoc]⟩
    rw [← hname] at hle
    simp only [List.length_append, List.length_singleton] at hle
    omega

end CycleTable.Written
