import CycleTable.Scan
import Mathlib.Tactic.Common

/-! # Runs over cells

One cell either gets its entry or ends the scan. From this follows what a run over many cells
gives: a run over two parts goes on behind the first with the counter moved on by its length,
a lenient run gives one entry a cell, and a strict run does the same up to the first cell
that cannot be read.
-/
namespace CycleTable

namespace Timing

def Accepted (text : String) : Prop := ∃ timing, parse text = .ok timing

/-- The entry of a cell with this text at a place where it cannot fail the scan. -/
def entryOf (text : String) (opcode : UInt32) : Entry :=
  match parse text with
  | .ok timing => timing.toEntry opcode
  | .error _ => .invalid opcode

def rejects (text : String) : Bool :=
  match parse text with
  | .ok _ => false
  | .error _ => true

theorem rejects_iff {text : String} : rejects text ↔ ∃ source, parse text = .error source := by
  unfold rejects
  cases parse text <;> simp

theorem not_rejects_iff {text : String} : rejects text = false ↔ Accepted text := by
  unfold rejects Accepted
  cases parse text <;> simp

theorem opcode_entryOf (text : String) (opcode : UInt32) : (entryOf text opcode).opcode = opcode := by
  unfold entryOf
  cases parse text <;> rfl

theorem entryOf_of_error {text : String} {source : CellError} (h : parse text = .error source)
    (opcode : UInt32) : entryOf text opcode = .invalid opcode := by
  simp only [entryOf, h]

end Timing

namespace Scan

open Timing (Accepted entryOf)

/-- What is told of a cell that gets its entry. Only a lenient scan tells that it has given a cell
up, and not if the cell has one line. -/
def told (policy : Policy) (opcode : UInt32) (c : PlacedCell) : List Event :=
  (match Timing.parse c.text, policy with
    | .error source, .lenient =>
      if source = .missingTimingLine then [] else [.cellGivenUp c.row c.column opcode source]
    | _, _ => []) ++
  [.entryMade c.row c.column (entryOf c.text opcode)]

theorem readCell_eq_told {policy : Policy} (opcode : UInt32) {c : PlacedCell}
    (h : policy = .lenient ∨ Accepted c.text) :
    readCell policy opcode c = .ok (told policy opcode c, entryOf c.text opcode) := by
  rcases h with rfl | ⟨timing, ht⟩
  · unfold readCell told entryOf
    cases Timing.parse c.text with
    | ok timing => rfl
    | error source => cases source <;> rfl
  · simp [readCell, told, entryOf, ht]

theorem readCell_strict_of_error (opcode : UInt32) {c : PlacedCell} {source : CellError}
    (h : Timing.parse c.text = .error source) :
    readCell .strict opcode c = .error ⟨opcode, c.row, c.column, source⟩ := by
  simp [readCell, h]

def andThen (scan next : Scan) : Scan :=
  match scan.result with
  | .error _ => scan
  | .ok entries => ⟨scan.events ++ next.events, next.result.map (entries ++ ·)⟩

theorem nil_andThen (scan : Scan) : andThen ⟨[], .ok []⟩ scan = scan := by
  obtain ⟨events, result⟩ := scan
  cases result <;> rfl

theorem andThen_assoc (a b c : Scan) : (a.andThen b).andThen c = a.andThen (b.andThen c) := by
  obtain ⟨events, result⟩ := a
  obtain ⟨events', result'⟩ := b
  obtain ⟨events'', result''⟩ := c
  cases result with
  | error e => rfl
  | ok entries =>
    cases result' with
    | error e => rfl
    | ok entries' => cases result'' <;> simp [andThen, Except.map, List.append_assoc]

theorem readCells_cons_of_error {policy : Policy} {opcode : UInt32} {c : PlacedCell}
    {e : ScanError} (h : readCell policy opcode c = .error e) (cs : List PlacedCell) :
    readCells policy opcode (c :: cs) = ⟨[], .error e⟩ := by
  simp only [readCells, h]

theorem readCells_cons_of_ok {policy : Policy} {opcode : UInt32} {c : PlacedCell}
    {events : List Event} {entry : Entry} (h : readCell policy opcode c = .ok (events, entry))
    (cs : List PlacedCell) :
    readCells policy opcode (c :: cs) =
      andThen ⟨events, .ok [entry]⟩ (readCells policy (opcode + 1) cs) := by
  simp only [readCells, h]
  rfl

theorem add_ofNat_succ (opcode : UInt32) (n : Nat) :
    opcode + UInt32.ofNat (n + 1) = opcode + 1 + UInt32.ofNat n := by
  rw [Nat.add_comm n 1, UInt32.ofNat_add, UInt32.add_assoc]
  rfl

/-- The second part of the cells is numbered on from the first. -/
theorem readCells_append (policy : Policy) (opcode : UInt32) (xs ys : List PlacedCell) :
    readCells policy opcode (xs ++ ys) =
      (readCells policy opcode xs).andThen
        (readCells policy (opcode + UInt32.ofNat xs.length) ys) := by
  -- The counter of a run over more cells is the one behind the first of them, moved on.
  induction xs generalizing opcode with
  | nil =>
    have hzero : opcode + UInt32.ofNat 0 = opcode := UInt32.add_zero opcode
    rw [List.nil_append, List.length_nil, hzero]
    exact (nil_andThen _).symm
  | cons x xs ih =>
    rw [List.cons_append, List.length_cons, add_ofNat_succ]
    cases h : readCell policy opcode x with
    | error e =>
      rw [readCells_cons_of_error h, readCells_cons_of_error h]
      rfl
    | ok made =>
      rw [readCells_cons_of_ok h, readCells_cons_of_ok h, ih, andThen_assoc]

def numbered (opcode : UInt32) (texts : List String) : List Entry :=
  texts.mapIdx fun i text => entryOf text (opcode + UInt32.ofNat i)

theorem numbered_cons (opcode : UInt32) (text : String) (texts : List String) :
    numbered opcode (text :: texts) = entryOf text opcode :: numbered (opcode + 1) texts := by
  unfold numbered
  rw [List.mapIdx_cons]
  have hzero : opcode + UInt32.ofNat 0 = opcode := UInt32.add_zero opcode
  simp only [hzero, add_ofNat_succ]

theorem getElem?_numbered (texts : List String) (i : Nat) :
    (numbered 0 texts)[i]? = texts[i]?.map fun text => entryOf text (UInt32.ofNat i) := by
  have hzero : (0 : UInt32) + UInt32.ofNat i = UInt32.ofNat i := UInt32.zero_add _
  rw [numbered, List.getElem?_mapIdx, hzero]

theorem length_numbered (opcode : UInt32) (texts : List String) :
    (numbered opcode texts).length = texts.length := List.length_mapIdx

theorem take_numbered (texts behind : List String) :
    (numbered 0 (texts ++ behind)).take texts.length = numbered 0 texts := by
  have hlength : texts.length = (numbered 0 texts).length := (length_numbered 0 texts).symm
  unfold numbered at hlength ⊢
  rw [List.mapIdx_append, hlength]
  exact List.take_left

def toldFrom (policy : Policy) (opcode : UInt32) (cells : List PlacedCell) : List Event :=
  (cells.mapIdx fun i c => told policy (opcode + UInt32.ofNat i) c).flatten

theorem toldFrom_cons (policy : Policy) (opcode : UInt32) (c : PlacedCell)
    (cs : List PlacedCell) :
    toldFrom policy opcode (c :: cs) = told policy opcode c ++ toldFrom policy (opcode + 1) cs := by
  unfold toldFrom
  rw [List.mapIdx_cons, List.flatten_cons]
  have hzero : opcode + UInt32.ofNat 0 = opcode := UInt32.add_zero opcode
  simp only [hzero, add_ofNat_succ]

theorem readCells_of_readable {policy : Policy} (opcode : UInt32) {cells : List PlacedCell}
    (h : ∀ c ∈ cells, policy = .lenient ∨ Accepted c.text) :
    readCells policy opcode cells =
      ⟨toldFrom policy opcode cells, .ok (numbered opcode (cells.map (·.text)))⟩ := by
  induction cells generalizing opcode with
  | nil => rfl
  | cons c cs ih =>
    have hread := readCell_eq_told opcode (h c List.mem_cons_self)
    have hrest := ih (opcode + 1) fun d hd => h d (List.mem_cons_of_mem c hd)
    rw [List.map_cons, numbered_cons, toldFrom_cons, readCells_cons_of_ok hread, hrest]
    rfl

theorem result_of_readable {policy : Policy} (opcode : UInt32) {cells : List PlacedCell}
    (h : ∀ c ∈ cells, policy = .lenient ∨ Accepted c.text) :
    (readCells policy opcode cells).result = .ok (numbered opcode (cells.map (·.text))) := by
  rw [readCells_of_readable opcode h]

theorem strict_readCells_of_error (opcode : UInt32) {before behind : List PlacedCell}
    {c : PlacedCell} {source : CellError} (hbefore : ∀ d ∈ before, Accepted d.text)
    (h : Timing.parse c.text = .error source) :
    readCells .strict opcode (before ++ c :: behind) =
      ⟨toldFrom .strict opcode before,
        .error ⟨opcode + UInt32.ofNat before.length, c.row, c.column, source⟩⟩ := by
  rw [readCells_append, readCells_cons_of_error (readCell_strict_of_error _ h),
    readCells_of_readable opcode fun d hd => Or.inr (hbefore d hd), andThen, List.append_nil]
  rfl

theorem strict_result_of_error (opcode : UInt32) {before behind : List PlacedCell}
    {c : PlacedCell} {source : CellError} (hbefore : ∀ d ∈ before, Accepted d.text)
    (h : Timing.parse c.text = .error source) :
    (readCells .strict opcode (before ++ c :: behind)).result =
      .error ⟨opcode + UInt32.ofNat before.length, c.row, c.column, source⟩ := by
  rw [strict_readCells_of_error opcode hbefore h]

theorem accepted_or_split (cells : List PlacedCell) :
    (∀ c ∈ cells, Accepted c.text) ∨
      ∃ before c behind source, cells = before ++ c :: behind ∧
        (∀ d ∈ before, Accepted d.text) ∧ Timing.parse c.text = .error source := by
  induction cells with
  | nil => exact Or.inl (by simp)
  | cons c cs ih =>
    cases hc : Timing.parse c.text with
    | error source => exact Or.inr ⟨[], c, cs, source, rfl, by simp, hc⟩
    | ok timing =>
      rcases ih with hall | ⟨before, d, behind, source, rfl, hbefore, hd⟩
      · exact Or.inl (List.forall_mem_cons.2 ⟨⟨timing, hc⟩, hall⟩)
      · exact Or.inr ⟨c :: before, d, behind, source, rfl,
          List.forall_mem_cons.2 ⟨⟨timing, hc⟩, hbefore⟩, hd⟩

/-- Whatever the policy, a run gives one entry for each cell, or it fails at a cell and names
its place and its number. -/
theorem result_cases (policy : Policy) (opcode : UInt32) (cells : List PlacedCell) :
    (readCells policy opcode cells).result = .ok (numbered opcode (cells.map (·.text))) ∨
      ∃ before c behind source, cells = before ++ c :: behind ∧
        (readCells policy opcode cells).result =
          .error ⟨opcode + UInt32.ofNat before.length, c.row, c.column, source⟩ := by
  cases policy with
  | lenient => exact Or.inl (result_of_readable opcode fun c _ => Or.inl rfl)
  | strict =>
    rcases accepted_or_split cells with hall | ⟨before, c, behind, source, rfl, hbefore, hc⟩
    · exact Or.inl (result_of_readable opcode fun c hc => Or.inr (hall c hc))
    · exact Or.inr ⟨before, c, behind, source, rfl, strict_result_of_error opcode hbefore hc⟩

theorem eq_numbered_of_ok {policy : Policy} {opcode : UInt32} {cells : List PlacedCell}
    {es : List Entry} (h : (readCells policy opcode cells).result = .ok es) :
    es = numbered opcode (cells.map (·.text)) := by
  rcases result_cases policy opcode cells with hok | ⟨_, _, _, _, -, herror⟩
  · rw [hok] at h
    exact (Except.ok.inj h).symm
  · rw [herror] at h
    cases h

theorem opcode_of_error {policy : Policy} {opcode : UInt32} {cells : List PlacedCell}
    {e : ScanError} (h : (readCells policy opcode cells).result = .error e) :
    ∃ i < cells.length, e.opcode = opcode + UInt32.ofNat i := by
  rcases result_cases policy opcode cells with hok | ⟨before, c, behind, source, rfl, herror⟩
  · rw [hok] at h
    cases h
  · rw [herror] at h
    cases h
    refine ⟨before.length, ?_, rfl⟩
    rw [List.length_append, List.length_cons]
    omega

theorem entries_eq (rows : Table) (policy : Policy) :
    entries rows policy = (readCells policy 0 rows.placedCells).result := by
  unfold entries ofTable conclude
  split
  · rfl
  · rfl

theorem toNat_add_ofNat {opcode : UInt32} {n : Nat} (h : opcode.toNat + n < UInt32.size) :
    (opcode + UInt32.ofNat n).toNat = opcode.toNat + n := by
  have hn : (UInt32.ofNat n).toNat = n := UInt32.toNat_ofNat_of_lt' (by omega)
  rw [UInt32.toNat_add, hn]
  exact Nat.mod_eq_of_lt h

/-- A run whose counter must not wrap around: there is no outcome if it would. -/
def readCellsChecked (policy : Policy) (opcode : UInt32) : List PlacedCell → Option Scan
  | [] => some ⟨[], .ok []⟩
  | c :: cs =>
    match readCell policy opcode c with
    | .error e => some ⟨[], .error e⟩
    | .ok (events, entry) =>
      if opcode.toNat + 1 < UInt32.size then
        (readCellsChecked policy (opcode + 1) cs).map fun rest =>
          ⟨events ++ rest.events, rest.result.map (entry :: ·)⟩
      else none

theorem readCellsChecked_eq_some (policy : Policy) {opcode : UInt32} {cells : List PlacedCell}
    (h : opcode.toNat + cells.length < UInt32.size) :
    readCellsChecked policy opcode cells = some (readCells policy opcode cells) := by
  induction cells generalizing opcode with
  | nil => rfl
  | cons c cs ih =>
    rw [List.length_cons] at h
    unfold readCellsChecked readCells
    cases readCell policy opcode c with
    | error e => rfl
    | ok made =>
      have hnext : (opcode + 1).toNat = opcode.toNat + 1 :=
        toNat_add_ofNat (n := 1) (by omega)
      dsimp only
      rw [if_pos (by omega), ih (by omega)]
      rfl

end Scan
end CycleTable
