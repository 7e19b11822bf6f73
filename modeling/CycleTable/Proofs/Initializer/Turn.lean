import CycleTable.Proofs.Initializer.Appended

/-! # Reading a list by places

The same reader as a loop over byte offsets. Each turn cuts the text at the offset, which is
only possible between two characters, and either is the last one or moves the offset on. The loop
never fails to cut, it comes to its end, and what it gives is what the reader of the rest gives.
-/
namespace CycleTable.Initializer

inductive Turn where
  | done
  | failed (e : InitializerError)
  | read (entry : Entry) (next : Nat)

def turnAt (offset : Nat) (rest : List Char) : Turn :=
  let trimmed := Text.trimStart rest
  let start := offset + (Text.byteCount rest - Text.byteCount trimmed)
  if trimmed = [] then .done
  else
    match Written.read? .comma trimmed with
    | none => .failed (.malformed start)
    | some (w, behind) =>
      match w.toEntry with
      | .error e => .failed e
      | .ok entry => .read entry (start + (Text.byteCount trimmed - Text.byteCount behind))

/-- There is no turn where the text cannot be cut. -/
def turn? (text : String) (offset : Nat) : Option Turn :=
  (Text.behind? text offset).map (turnAt offset)

section Gap

variable (offset : Nat) {gap rest : List Char} (hgap : ∀ c ∈ gap, Text.isWhite c)
include hgap

theorem turnAt_of_white : turnAt offset gap = .done := by
  simp only [turnAt, trimStart_of_white hgap, if_true]

theorem turnAt_of_stuck (hrest : Stuck rest) :
    turnAt offset (gap ++ rest) = .failed (.malformed (offset + Text.byteCount gap)) := by
  obtain ⟨htrim, hnil⟩ := hrest.trimStart_eq hgap
  simp only [turnAt, htrim, if_neg hnil, hrest.unread, Text.byteCount_append, Nat.add_sub_cancel]

theorem turnAt_entry {w : Written} (hw : w.Listed) :
    turnAt offset (gap ++ (w.chars ++ ',' :: rest)) =
      match w.toEntry with
      | .error e => .failed e
      | .ok entry => .read entry (offset + Text.byteCount (gap ++ (w.chars ++ [',']))) := by
  have htrim := trimStart_entry hgap w rest
  have hnil : w.chars ++ ',' :: rest ≠ [] := by simp
  have hread : Written.read? .comma (w.chars ++ ',' :: rest) = some (w, rest) :=
    Written.read?_comma_eq_some_iff.2 ⟨hw, rfl⟩
  have hcomma : Text.byteCount (',' :: rest) = Text.byteCount [','] + Text.byteCount rest :=
    Text.byteCount_append [','] rest
  simp only [turnAt, htrim, if_neg hnil, hread, Text.byteCount_append, hcomma]
  cases w.toEntry with
  | error e => rfl
  | ok entry =>
    dsimp only
    congr 1
    omega

end Gap

theorem next_of_turn? {text : String} {offset next : Nat} {entry : Entry}
    (h : turn? text offset = some (.read entry next)) :
    Text.IsPlace text offset ∧ offset < next ∧ Text.IsPlace text next := by
  obtain ⟨rest, hrest, hturn⟩ := Option.map_eq_some_iff.1 h
  obtain ⟨front, htext, rfl⟩ := Text.behind?_eq_some_iff.1 hrest
  refine ⟨Text.isPlace_of_behind? hrest, ?_⟩
  obtain ⟨gap, rest, hgap, rfl, rfl | ⟨w, behind, hw, rfl⟩ | hstuck⟩ := exists_gap rest
  · rw [List.append_nil, turnAt_of_white _ hgap] at hturn
    cases hturn
  · rw [turnAt_entry _ hgap hw] at hturn
    split at hturn
    next => cases hturn
    next =>
      cases hturn
      have hpos : 0 < Text.byteCount (gap ++ (w.chars ++ [','])) := Text.byteCount_pos (by simp)
      refine ⟨by omega, Text.isPlace_iff.2 ⟨front ++ (gap ++ (w.chars ++ [','])), behind, ?_, ?_⟩⟩
      · rw [htext]
        simp only [List.append_assoc, List.singleton_append]
      · exact Text.byteCount_append _ _
  · rw [turnAt_of_stuck _ hgap hstuck] at hturn
    cases hturn

/-- The loop. It has no outcome if it comes to an offset at which the text cannot be cut. -/
def readFrom? (text : String) (offset : Nat) : Option Outcome :=
  match _hturn : turn? text offset with
  | none => none
  | some .done => some (.ok [])
  | some (.failed e) => some (.error e)
  | some (.read entry next) =>
    (readFrom? text next).map fun outcome => outcome.map (entry :: ·)
termination_by text.utf8ByteSize - offset
decreasing_by
  obtain ⟨-, hlt, hplace⟩ := next_of_turn? _hturn
  have := Text.le_of_isPlace hplace
  omega

def Turn.outcome? (text : String) : Turn → Option Outcome
  | .done => some (.ok [])
  | .failed e => some (.error e)
  | .read entry next => (readFrom? text next).map fun outcome => outcome.map (entry :: ·)

theorem readFrom?_eq_outcome? {text : String} {front cs : List Char}
    (htext : text.toList = front ++ cs) :
    readFrom? text (Text.byteCount front) = (turnAt (Text.byteCount front) cs).outcome? text := by
  have hturn : turn? text (Text.byteCount front) = some (turnAt (Text.byteCount front) cs) := by
    rw [turn?, Text.behind?_eq_some_iff.2 ⟨front, htext, rfl⟩]
    rfl
  generalize turnAt (Text.byteCount front) cs = turn at hturn
  rw [readFrom?]
  split
  next h => rw [hturn] at h; cases h
  next h => rw [hturn] at h; cases h; rfl
  next h => rw [hturn] at h; cases h; rfl
  next h => rw [hturn] at h; cases h; rfl

theorem ReadsAs.readFrom?_eq {text : String} {cs : List Char} {outcome : Outcome}
    (h : ReadsAs cs outcome) {front : List Char} (htext : text.toList = front ++ cs) :
    readFrom? text (Text.byteCount front) =
      some (behind [] (Text.byteCount front) outcome) := by
  induction h generalizing front with
  | white hgap =>
    rw [readFrom?_eq_outcome? htext, turnAt_of_white _ hgap]
    rfl
  | stuck hgap hrest =>
    rw [readFrom?_eq_outcome? htext, turnAt_of_stuck _ hgap hrest, Nat.add_comm]
    rfl
  | badEntry hgap hw hentry =>
    rw [readFrom?_eq_outcome? htext, turnAt_entry _ hgap hw, hentry,
      behind_of_toEntry _ _ hw hentry]
    rfl
  | @entry gap rest w e outcome hgap hw hentry h ih =>
    have hnext : text.toList = front ++ (gap ++ (w.chars ++ [','])) ++ rest := by
      rw [htext]
      simp only [List.append_assoc, List.singleton_append]
    have hrest := ih hnext
    rw [Text.byteCount_append] at hrest
    rw [readFrom?_eq_outcome? htext, turnAt_entry _ hgap hw, hentry, behind_behind]
    simp only [Turn.outcome?, hrest, Option.map_some]
    cases outcome <;> rfl

/-- The loop over offsets is the reader, and it is never stuck inside a character. -/
theorem readFrom?_zero (text : String) : readFrom? text 0 = some (parse text) := by
  have h := (parse_eq_iff.1 (rfl : parse text = parse text)).readFrom?_eq
    (List.nil_append text.toList).symm
  have hzero : Text.byteCount [] = 0 := rfl
  rwa [hzero, behind_nil_zero] at h

end CycleTable.Initializer
