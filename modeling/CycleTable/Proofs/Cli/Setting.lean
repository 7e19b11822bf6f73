import CycleTable.Cli
import Mathlib.Tactic.Common

/-! # Levels as settings

The name of a level is a setting of its own. Under it a run shows what is at least as severe as
the level, whatever its source; without a setting it shows errors.
-/
namespace CycleTable.Cli

variable {c : Char} {name : String} {threshold : Option Level}

def IsLetter (c : Char) : Prop :=
  65 ≤ c.toNat ∧ c.toNat ≤ 90 ∨ 97 ≤ c.toNat ∧ c.toNat ≤ 122

theorem isLetter_of_toLower (h : IsLetter c.toLower) : IsLetter c := by
  unfold Char.toLower at h
  split at h
  · rename_i hupper
    exact Or.inl ⟨UInt32.le_iff_toNat_le.1 hupper.1, UInt32.le_iff_toNat_le.1 hupper.2⟩
  · exact h

theorem IsLetter.ne {other : Char} (h : IsLetter c) (hother : other.toNat < 65) : c ≠ other := by
  rintro rfl
  unfold IsLetter at h
  omega

theorem IsLetter.isWhite_eq (h : IsLetter c) : Text.isWhite c = false := by
  unfold IsLetter at h
  simp only [Text.isWhite, Bool.or_eq_false_iff, Bool.and_eq_false_iff, decide_eq_false_iff_not,
    beq_eq_false_iff_ne]
  omega

theorem letters_of_level (h : Level.thresholdOfName? name = some threshold) :
    name.toList ≠ [] ∧ ∀ c ∈ name.toList, IsLetter c := by
  have hwords : ∀ word : String, name.toLower = word → word.toList ≠ [] →
      (∀ c ∈ word.toList, IsLetter c) → name.toList ≠ [] ∧ ∀ c ∈ name.toList, IsLetter c := by
    rintro word rfl hword hletters
    have hlower : name.toLower.toList = name.toList.map Char.toLower := String.toList_map
    rw [hlower] at hword hletters
    refine ⟨fun hname => hword (by rw [hname, List.map_nil]), ?_⟩
    intro c hc
    exact isLetter_of_toLower (hletters _ (List.mem_map_of_mem hc))
  unfold Level.thresholdOfName? at h
  split at h
  case h_7 => cases h
  all_goals
    rename_i hname
    exact hwords _ hname (by decide) (by simp [IsLetter])

theorem read?_of_level (h : Level.thresholdOfName? name = some threshold) :
    Directive.read? name.toList = some ⟨[], threshold⟩ := by
  obtain ⟨-, hletters⟩ := letters_of_level h
  have hsign : '=' ∉ name.toList := fun hmem => (hletters _ hmem).ne (by decide) rfl
  rw [Directive.read?, List.splitOn_eq_singleton hsign]
  simp only [String.ofList_toList, h]

theorem Setting.read_of_level (h : Level.thresholdOfName? name = some threshold) :
    Setting.read name = ⟨[⟨[], threshold⟩], none⟩ := by
  obtain ⟨hne, hletters⟩ := letters_of_level h
  have hslash : '/' ∉ name.toList := fun hmem => (hletters _ hmem).ne (by decide) rfl
  have hcomma : ',' ∉ name.toList := fun hmem => (hletters _ hmem).ne (by decide) rfl
  have htrim : Text.trim name.toList = name.toList := by
    apply Text.trim_eq_self
    · intro c hc
      exact (hletters c (List.mem_of_mem_head? hc)).isWhite_eq
    · intro c hc
      exact (hletters c (List.mem_of_mem_getLast? hc)).isWhite_eq
  rw [Setting.read, List.splitOn_eq_singleton hslash]
  simp only [Setting.readDirectives, List.splitOn_eq_singleton hcomma, List.map_cons,
    List.map_nil, htrim, List.filter_cons, List.filter_nil, hne, ne_eq, not_false_eq_true,
    decide_true, if_true, List.filterMap_cons, List.filterMap_nil, read?_of_level h]

/-- A level alone is a threshold for every source. -/
theorem Setting.shows_of_level (h : Level.thresholdOfName? name = some threshold) (level : Level)
    (source message : String) :
    (Setting.read name).shows level source message = level.shownAt threshold := by
  rw [Setting.read_of_level h, Setting.shows, Option.all_none, Bool.and_true]
  rfl

variable {files : PagePath → Except ReadFailure ByteArray} {input : ByteArray}
  {arguments : List String}

theorem shown_of_level (h : Level.thresholdOfName? name = some threshold) :
    (extractor.execute (some name) files input arguments).shown =
      (run files input arguments).shown threshold := by
  apply List.filter_congr
  intro event _
  exact Setting.shows_of_level h event.level event.source event.message

theorem shown_without_setting :
    (extractor.execute none files input arguments).shown =
      (run files input arguments).shown (some .error) := by
  apply List.filter_congr
  intro event _
  have hread : Setting.read "" = ⟨[], none⟩ := by decide
  simp only [extractor, Option.getD_none, hread, Setting.shows, Option.all_none, Bool.and_true]
  rfl

end CycleTable.Cli
