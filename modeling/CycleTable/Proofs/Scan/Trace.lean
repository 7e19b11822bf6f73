import CycleTable.Proofs.Scan.Lenient
import CycleTable.Proofs.Scan.Message

/-! # What a scan tells of its cells

The records of a scan follow its cells one by one, each with its place and its number, and end with
a summary if there is an outcome. The cell at which a strict scan fails leaves no record, nor does
any behind it. A threshold takes records away and changes nothing else.
-/
namespace CycleTable

namespace Scan

open Timing (Accepted entryOf rejects)

def goesOn (policy : Policy) (c : PlacedCell) : Bool := policy == .lenient || !rejects c.text

theorem goesOn_iff {policy : Policy} {c : PlacedCell} :
    goesOn policy c ↔ policy = .lenient ∨ Accepted c.text := by
  rw [goesOn, Bool.or_eq_true, beq_iff_eq, Bool.not_eq_true', Timing.not_rejects_iff]

/-- The cells of which a scan tells: all of them, or those in front of the one that fails it. -/
def toldCells (policy : Policy) (cells : List PlacedCell) : List PlacedCell :=
  cells.takeWhile (goesOn policy)

theorem toldCells_of_readable {policy : Policy} {cells : List PlacedCell}
    (h : ∀ c ∈ cells, policy = .lenient ∨ Accepted c.text) : toldCells policy cells = cells :=
  List.takeWhile_eq_self_iff.2 fun c hc => goesOn_iff.2 (h c hc)

theorem toldCells_of_error {before behind : List PlacedCell} {c : PlacedCell} {source : CellError}
    (hbefore : ∀ d ∈ before, Accepted d.text) (h : Timing.parse c.text = .error source) :
    toldCells .strict (before ++ c :: behind) = before := by
  have hstop : goesOn .strict c = false := by
    have hrejects : rejects c.text := Timing.rejects_iff.2 ⟨source, h⟩
    rw [goesOn, hrejects]
    rfl
  have hgo : ∀ d ∈ before, goesOn .strict d := fun d hd => goesOn_iff.2 (Or.inr (hbefore d hd))
  rw [toldCells, List.takeWhile_append_of_pos hgo, List.takeWhile_cons_of_neg (by simp [hstop]),
    List.append_nil]

/-- What a run gives and what it tells, whatever the policy. -/
inductive RunOf (policy : Policy) (opcode : UInt32) (cells : List PlacedCell) : Scan → Prop
  | ended (hcells : toldCells policy cells = cells) :
    RunOf policy opcode cells
      ⟨toldFrom policy opcode cells, .ok (numbered opcode (cells.map (·.text)))⟩
  | failed {before behind : List PlacedCell} {c : PlacedCell} {source : CellError}
    (hpolicy : policy = .strict) (hcells : cells = before ++ c :: behind)
    (hbefore : toldCells policy cells = before) (hc : Timing.parse c.text = .error source) :
    RunOf policy opcode cells
      ⟨toldFrom policy opcode before,
        .error ⟨opcode + UInt32.ofNat before.length, c.row, c.column, source⟩⟩

theorem runOf_readCells (policy : Policy) (opcode : UInt32) (cells : List PlacedCell) :
    RunOf policy opcode cells (readCells policy opcode cells) := by
  by_cases hall : ∀ c ∈ cells, policy = .lenient ∨ Accepted c.text
  · rw [readCells_of_readable opcode hall]
    exact .ended (toldCells_of_readable hall)
  · cases policy with
    | lenient => exact absurd (fun c _ => Or.inl rfl) hall
    | strict =>
      rcases accepted_or_split cells with haccepted | ⟨before, c, behind, source, rfl, hbefore, hc⟩
      · exact absurd (fun c hc => Or.inr (haccepted c hc)) hall
      · rw [strict_readCells_of_error opcode hbefore hc]
        exact .failed rfl rfl (toldCells_of_error hbefore hc) hc

theorem mem_told {policy : Policy} {opcode : UInt32} {c : PlacedCell} {event : Event}
    (h : event ∈ told policy opcode c) :
    (∃ source, event = .cellGivenUp c.row c.column opcode source) ∨
      event = .entryMade c.row c.column (entryOf c.text opcode) := by
  rcases List.mem_append.1 h with h | h
  · split at h
    next source _ _ =>
      split at h
      · cases h
      · exact Or.inl ⟨source, List.mem_singleton.1 h⟩
    next => cases h
  · exact Or.inr (List.mem_singleton.1 h)

theorem mem_toldFrom {policy : Policy} {opcode : UInt32} {cells : List PlacedCell} {event : Event}
    (h : event ∈ toldFrom policy opcode cells) : ∃ c ∈ cells, ∃ n, event ∈ told policy n c := by
  obtain ⟨events, hevents, hevent⟩ := List.mem_flatten.1 h
  obtain ⟨i, hi, rfl⟩ := List.mem_mapIdx.1 hevents
  exact ⟨cells[i], List.getElem_mem hi, _, hevent⟩

def gaveUp (policy : Policy) (c : PlacedCell) : Bool :=
  match Timing.parse c.text, policy with
  | .error source, .lenient => source != .missingTimingLine
  | _, _ => false

theorem rejects_of_gaveUp {policy : Policy} {c : PlacedCell} (h : gaveUp policy c) :
    rejects c.text := by
  unfold gaveUp at h
  split at h
  next source hsource => exact Timing.rejects_iff.2 ⟨source, hsource⟩
  next => cases h

theorem gaveUp_strict (c : PlacedCell) : gaveUp .strict c = false := by
  unfold gaveUp
  cases Timing.parse c.text <;> rfl

theorem countP_told (policy : Policy) (opcode : UInt32) (c : PlacedCell) :
    (told policy opcode c).countP (·.level == .debug) = 1 ∧
      (told policy opcode c).countP (·.level == .warn) = if gaveUp policy c then 1 else 0 := by
  unfold told gaveUp
  cases Timing.parse c.text with
  | ok timing => exact ⟨rfl, rfl⟩
  | error source =>
    cases policy with
    | strict => exact ⟨rfl, rfl⟩
    | lenient =>
      by_cases hsource : source = .missingTimingLine
      · simp [hsource, Event.level]
      · simp [hsource, Event.level]

theorem countP_toldFrom (policy : Policy) (opcode : UInt32) (cells : List PlacedCell) :
    (toldFrom policy opcode cells).countP (·.level == .debug) = cells.length ∧
      (toldFrom policy opcode cells).countP (·.level == .warn) = cells.countP (gaveUp policy) := by
  induction cells generalizing opcode with
  | nil => exact ⟨rfl, rfl⟩
  | cons c cs ih =>
    obtain ⟨hdebug, hwarn⟩ := countP_told policy opcode c
    obtain ⟨ihdebug, ihwarn⟩ := ih (opcode + 1)
    rw [toldFrom_cons, List.countP_append, List.countP_append, List.countP_cons, List.length_cons]
    omega

theorem countP_gaveUp_le (policy : Policy) (cells : List PlacedCell) :
    cells.countP (gaveUp policy) ≤ (cells.map (·.text)).countP rejects := by
  rw [List.countP_map]
  exact List.countP_mono_left fun c _ h => rejects_of_gaveUp h

theorem oneLine_of_mem_told {policy : Policy} {opcode : UInt32} {c : PlacedCell} {event : Event}
    (h : event ∈ told policy opcode c) : OneLine event.message := by
  have hname : OneLine (entryOf c.text opcode).name := by
    rcases Timing.name_entryOf c.text opcode with hname | hname
    · rw [hname]
      decide
    · rw [hname, OneLine, String.toList_ofList]
      exact Text.not_mem_before '\n' c.text.toList
  apply Event.oneLine_message
  intro row column entry hevent
  rcases mem_told h with ⟨source, rfl⟩ | rfl
  · cases hevent
  · cases hevent
    exact hname

def finale : Except ScanError (List Entry) → List Event
  | .ok es => [.finished (.of es)]
  | .error _ => []

theorem countP_finale (result : Except ScanError (List Entry)) :
    (finale result).countP (·.level == .debug) = 0 ∧
      (finale result).countP (·.level == .warn) = 0 := by
  cases result with
  | ok es => exact ⟨rfl, rfl⟩
  | error e => exact ⟨rfl, rfl⟩

theorem oneLine_of_mem_finale {result : Except ScanError (List Entry)} {event : Event}
    (h : event ∈ finale result) : OneLine event.message := by
  cases result with
  | ok es =>
    obtain rfl := List.mem_singleton.1 h
    exact Event.oneLine_message (by simp)
  | error e => cases h

theorem conclude_eq (scan : Scan) : scan.conclude = ⟨scan.events ++ finale scan.result, scan.result⟩ := by
  obtain ⟨events, result⟩ := scan
  cases result with
  | ok es => rfl
  | error e => simp [conclude, finale]

def write (threshold : Option Level) (log : List Event) (event : Event) : List Event :=
  if event.level.shownAt threshold then log ++ [event] else log

def writeCells (threshold : Option Level) (policy : Policy) (opcode : UInt32) (log : List Event) :
    List PlacedCell → Scan
  | [] => ⟨log, .ok []⟩
  | c :: cs =>
    match readCell policy opcode c with
    | .error e => ⟨log, .error e⟩
    | .ok (events, entry) =>
      let rest := writeCells threshold policy (opcode + 1) (events.foldl (write threshold) log) cs
      ⟨rest.events, rest.result.map (entry :: ·)⟩

/-- A scan that writes nothing the threshold does not show. -/
def writeTable (threshold : Option Level) (rows : Table) (policy : Policy) : Scan :=
  let scan := writeCells threshold policy 0 [] rows.placedCells
  ⟨(finale scan.result).foldl (write threshold) scan.events, scan.result⟩

theorem foldl_write (threshold : Option Level) (log events : List Event) :
    events.foldl (write threshold) log = log ++ events.filter (·.level.shownAt threshold) := by
  induction events generalizing log with
  | nil => simp
  | cons event events ih =>
    rw [List.foldl_cons, ih, write]
    by_cases h : event.level.shownAt threshold
    · simp [h]
    · simp [h]

theorem writeCells_eq (threshold : Option Level) (policy : Policy) (opcode : UInt32)
    (log : List Event) (cells : List PlacedCell) :
    writeCells threshold policy opcode log cells =
      ⟨log ++ (readCells policy opcode cells).events.filter (·.level.shownAt threshold),
        (readCells policy opcode cells).result⟩ := by
  induction cells generalizing opcode log with
  | nil => simp [writeCells, readCells]
  | cons c cs ih =>
    unfold writeCells readCells
    cases readCell policy opcode c with
    | error e => simp
    | ok made => simp [ih, foldl_write]

theorem writeTable_eq (threshold : Option Level) (rows : Table) (policy : Policy) :
    writeTable threshold rows policy =
      ⟨(ofTable rows policy).events.filter (·.level.shownAt threshold),
        (ofTable rows policy).result⟩ := by
  rw [writeTable, writeCells_eq, ofTable, conclude_eq, foldl_write]
  simp

/-- The records of a scan are told of its cells, in order and each with its true place and number,
and at the end of its outcome. -/
structure Traced (rows : Table) (policy : Policy) : Prop where
  events : (ofTable rows policy).events =
    ((toldCells policy rows.placedCells).mapIdx fun i c =>
      told policy (UInt32.ofNat i) c).flatten ++ finale (ofTable rows policy).result
  places : ∀ i c, rows.placedCells[i]? = some c ↔
    1 ≤ c.row ∧ rows.textAt? c.row c.column = some c.text ∧ i = rows.cellsAbove c.row + c.column
  numbers : ∀ i < rows.placedCells.length, (UInt32.ofNat i).toNat = i
  /-- An outcome has the entries that are told, one for each cell. -/
  outcome : ∀ es, (ofTable rows policy).result = .ok es →
    toldCells policy rows.placedCells = rows.placedCells ∧
    es.length = rows.placedCells.length ∧
    ∀ i c, rows.placedCells[i]? = some c → es[i]? = some (entryOf c.text (UInt32.ofNat i))
  /-- Nothing is told of the cell that fails a scan, nor of those behind it. -/
  failure : ∀ e, (ofTable rows policy).result = .error e → policy = .strict ∧
    toldCells policy rows.placedCells = rows.placedCells.take e.opcode.toNat ∧
    ∃ text, rows.placedCells[e.opcode.toNat]? = some ⟨e.row, e.column, text⟩ ∧
      Timing.parse text = .error e.source
  debugs : (ofTable rows policy).events.countP (·.level == .debug) =
    match (ofTable rows policy).result with
    | .ok es => es.length
    | .error e => e.opcode.toNat
  warns : (ofTable rows policy).events.countP (·.level == .warn) ≤
    match (ofTable rows policy).result with
    | .ok es => (Summary.of es).invalid
    | .error _ => 0
  oneLine : ∀ event ∈ (ofTable rows policy).events, '\n' ∉ event.message.toList
  shown : ∀ event ∈ (ofTable rows policy).events, event.level.shownAt (some .debug)
  threshold : ∀ threshold, writeTable threshold rows policy =
    ⟨(ofTable rows policy).events.filter (·.level.shownAt threshold), (ofTable rows policy).result⟩

variable (rows : Table) (policy : Policy)

theorem ofTable_eq : ofTable rows policy =
    ⟨(readCells policy 0 rows.placedCells).events ++
        finale (readCells policy 0 rows.placedCells).result,
      (readCells policy 0 rows.placedCells).result⟩ :=
  conclude_eq _

theorem events_ofTable : (ofTable rows policy).events =
    toldFrom policy 0 (toldCells policy rows.placedCells) ++ finale (ofTable rows policy).result := by
  have hrun := runOf_readCells policy 0 rows.placedCells
  rw [ofTable_eq]
  generalize readCells policy 0 rows.placedCells = run at hrun ⊢
  cases hrun with
  | ended hcells => rw [hcells]
  | failed hpolicy hcells hbefore hc => rw [hbefore]

theorem toldFrom_zero (cells : List PlacedCell) :
    toldFrom policy 0 cells = (cells.mapIdx fun i c => told policy (UInt32.ofNat i) c).flatten := by
  simp only [toldFrom, UInt32.zero_add]

variable {rows policy}

theorem outcome_ofTable {es : List Entry} (h : (ofTable rows policy).result = .ok es) :
    toldCells policy rows.placedCells = rows.placedCells ∧ es = numbered 0 rows.cells := by
  have hrun := runOf_readCells policy 0 rows.placedCells
  rw [ofTable_eq] at h
  generalize readCells policy 0 rows.placedCells = run at hrun h
  cases hrun with
  | ended hcells =>
    rw [← Table.map_text_placedCells]
    exact ⟨hcells, (Except.ok.inj h).symm⟩
  | failed => cases h

theorem failure_ofTable {e : ScanError} (hsize : rows.cells.length < UInt32.size)
    (h : (ofTable rows policy).result = .error e) : policy = .strict ∧
      toldCells policy rows.placedCells = rows.placedCells.take e.opcode.toNat ∧
      e.opcode.toNat < rows.placedCells.length ∧
      ∃ text, rows.placedCells[e.opcode.toNat]? = some ⟨e.row, e.column, text⟩ ∧
        Timing.parse text = .error e.source := by
  have hrun := runOf_readCells policy 0 rows.placedCells
  rw [ofTable_eq] at h
  generalize readCells policy 0 rows.placedCells = run at hrun h
  cases hrun with
  | ended => cases h
  | @failed before behind c source hpolicy hcells hbefore hc =>
    obtain rfl := Except.error.inj h
    have hlength : before.length < rows.placedCells.length := by simp [hcells]
    have hnumber : ((0 : UInt32) + UInt32.ofNat before.length).toNat = before.length := by
      rw [UInt32.zero_add]
      rw [Table.length_placedCells] at hlength
      exact UInt32.toNat_ofNat_of_lt' (Nat.lt_trans hlength hsize)
    dsimp only
    rw [hnumber]
    refine ⟨hpolicy, ?_, hlength, c.text, ?_, hc⟩
    · rw [hbefore, hcells, List.take_left]
    · rw [hcells, List.getElem?_append_right (Nat.le_refl _), Nat.sub_self]
      rfl

/-- Whatever the table and the policy, the records of a scan are a true trace of it, as long as there
are enough opcodes. -/
theorem scan_is_traced (rows : Table) (policy : Policy) (h : rows.cells.length < UInt32.size) :
    Traced rows policy where
  events := by rw [events_ofTable, toldFrom_zero]
  places i c := Table.getElem?_placedCells_iff
  numbers i hi := by
    rw [Table.length_placedCells] at hi
    exact UInt32.toNat_ofNat_of_lt' (Nat.lt_trans hi h)
  outcome es hes := by
    obtain ⟨hcells, rfl⟩ := outcome_ofTable hes
    refine ⟨hcells, ?_, fun i c hc => ?_⟩
    · rw [length_numbered, Table.length_placedCells]
    · rw [getElem?_numbered, ← Table.map_text_placedCells, List.getElem?_map, hc]
      rfl
  failure e he := by
    obtain ⟨hpolicy, hcells, -, hplace⟩ := failure_ofTable h he
    exact ⟨hpolicy, hcells, hplace⟩
  debugs := by
    rw [events_ofTable, List.countP_append, (countP_toldFrom policy 0 _).1, (countP_finale _).1,
      Nat.add_zero]
    cases hresult : (ofTable rows policy).result with
    | ok es =>
      obtain ⟨hcells, rfl⟩ := outcome_ofTable hresult
      rw [hcells, Table.length_placedCells]
      exact (length_numbered 0 rows.cells).symm
    | error e =>
      obtain ⟨-, hcells, hlt, -⟩ := failure_ofTable h hresult
      rw [hcells]
      exact List.length_take_of_le (Nat.le_of_lt hlt)
  warns := by
    rw [events_ofTable, List.countP_append, (countP_toldFrom policy 0 _).2, (countP_finale _).2,
      Nat.add_zero]
    cases hresult : (ofTable rows policy).result with
    | ok es =>
      obtain ⟨hcells, rfl⟩ := outcome_ofTable hresult
      have hle := countP_gaveUp_le policy rows.placedCells
      have hinvalid := countP_isInvalid_numbered 0 rows.cells
      rw [Table.map_text_placedCells] at hle
      rw [hcells]
      dsimp only [Summary.of]
      omega
    | error e =>
      obtain ⟨rfl, -⟩ := failure_ofTable h hresult
      simp [gaveUp_strict]
  oneLine event hevent := by
    rw [events_ofTable] at hevent
    rcases List.mem_append.1 hevent with hevent | hevent
    · obtain ⟨c, -, n, hc⟩ := mem_toldFrom hevent
      exact oneLine_of_mem_told hc
    · exact oneLine_of_mem_finale hevent
  shown event hevent := by
    cases event <;> rfl
  threshold threshold := writeTable_eq threshold rows policy

theorem ragged_table_is_traced :
    raggedTable.cells.length < UInt32.size ∧
    Traced raggedTable .lenient ∧ Traced raggedTable .strict ∧
    (ofTable raggedTable .lenient).events.map (fun event => (event.level, event.message)) =
      [(.debug, "Row 1, column 0: \x7b 0x0, \"<invalid>\", 0, 0 \x7d"),
        (.debug, "Row 3, column 0: \x7b 0x1, \"BEQ\", 2, 3 \x7d"),
        (.debug, "Row 3, column 1: \x7b 0x2, \"<invalid>\", 0, 0 \x7d"),
        (.warn, "Cell at row 3, column 2 (opcode 0x3) is malformed, marking invalid: " ++
          "Invalid cycle count \"x\""),
        (.debug, "Row 3, column 2: \x7b 0x3, \"<invalid>\", 0, 0 \x7d"),
        (.info, "Scanned 4 opcode entries, 3 invalid")] ∧
    (ofTable raggedTable .strict).events.length = 2 := by
  have hsize : raggedTable.cells.length < UInt32.size := by decide
  exact ⟨hsize, scan_is_traced raggedTable .lenient hsize, scan_is_traced raggedTable .strict hsize,
    by decide +kernel, by decide +kernel⟩

end Scan
end CycleTable
