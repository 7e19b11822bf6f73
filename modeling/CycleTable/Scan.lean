import CycleTable.Cell
import CycleTable.Initializer
import CycleTable.Log

/-! # Scans of a table

A scan makes one entry of each cell of a table. What happens while a table is found and scanned
is told by events. Each has a level and a text; the text names rows and columns from zero, the
header row included.
-/
namespace CycleTable

/-- How many entries a scan has given, and how many of them stand for unusable cells. -/
structure Summary where
  entries : Nat
  invalid : Nat
  deriving DecidableEq, Repr

def Summary.of (entries : List Entry) : Summary :=
  ⟨entries.length, entries.countP Entry.isInvalid⟩

def opcodeText (opcode : UInt32) : String := "0x" ++ String.ofList (Numeral.hex opcode.toNat)

structure ScanError where
  opcode : UInt32
  row : Nat
  column : Nat
  source : CellError
  deriving DecidableEq, Repr

def ScanError.message (e : ScanError) : String :=
  "Malformed cell at row " ++ toString e.row ++ ", column " ++ toString e.column ++
    " (opcode " ++ opcodeText e.opcode ++ "): " ++ e.source.message

inductive Event where
  | tableFound (rows cells : Nat)
  /-- A lenient scan has given up a cell that looked like one in use. -/
  | cellGivenUp (row column : Nat) (opcode : UInt32) (error : CellError)
  | entryMade (row column : Nat) (entry : Entry)
  | finished (summary : Summary)
  deriving DecidableEq, Repr

namespace Event

def level : Event → Level
  | .tableFound .. => .debug
  | .cellGivenUp .. => .warn
  | .entryMade .. => .debug
  | .finished _ => .info

def source : Event → String
  | .tableFound .. => "opcode_timings::html"
  | _ => "opcode_timings::scanner"

def message : Event → String
  | .tableFound rows cells =>
    "Found " ++ toString rows ++ " table rows with " ++ toString cells ++ " cells"
  | .cellGivenUp row column opcode error =>
    "Cell at row " ++ toString row ++ ", column " ++ toString column ++ " (opcode " ++
      opcodeText opcode ++ ") is malformed, marking invalid: " ++ error.message
  | .entryMade row column entry =>
    "Row " ++ toString row ++ ", column " ++ toString column ++ ": " ++ entry.render
  | .finished summary =>
    "Scanned " ++ toString summary.entries ++ " opcode entries, " ++
      toString summary.invalid ++ " invalid"

end Event

/-! ## Scanning a table

A table is a list of rows of cell texts. The first row is a header. The cells behind it are
numbered from zero, row after row, whatever the length of a row, and each gets one entry. A cell
that cannot be read gets the invalid entry, or ends the scan, as the policy says.
-/

inductive Policy where
  | lenient
  | strict
  deriving DecidableEq, Repr

instance : Inhabited Policy := ⟨.lenient⟩

abbrev Table := List (List String)

structure PlacedCell where
  row : Nat
  column : Nat
  text : String
  deriving DecidableEq, Repr

namespace Table

def placedRow (row : Nat) (cells : List String) : List PlacedCell :=
  cells.zipIdx.map fun (text, column) => ⟨row, column, text⟩

/-- The cells behind the header row, in the order in which they are numbered. -/
def placedCells (rows : Table) : List PlacedCell :=
  (rows.zipIdx.drop 1).flatMap fun (cells, row) => placedRow row cells

end Table

/-- The outcome of a scan, and the events up to it. -/
structure Scan where
  events : List Event
  result : Except ScanError (List Entry)

namespace Scan

def readCell (policy : Policy) (opcode : UInt32) (cell : PlacedCell) :
    Except ScanError (List Event × Entry) :=
  let made (entry : Entry) := Event.entryMade cell.row cell.column entry
  match Timing.parse cell.text, policy with
  | .ok timing, _ => .ok ([made (timing.toEntry opcode)], timing.toEntry opcode)
  | .error source, .strict => .error ⟨opcode, cell.row, cell.column, source⟩
  | .error .missingTimingLine, .lenient => .ok ([made (.invalid opcode)], .invalid opcode)
  | .error source, .lenient =>
    .ok ([.cellGivenUp cell.row cell.column opcode source, made (.invalid opcode)],
      .invalid opcode)

def readCells (policy : Policy) (opcode : UInt32) : List PlacedCell → Scan
  | [] => ⟨[], .ok []⟩
  | c :: cs =>
    match readCell policy opcode c with
    | .error e => ⟨[], .error e⟩
    | .ok (events, entry) =>
      let rest := readCells policy (opcode + 1) cs
      ⟨events ++ rest.events, rest.result.map (entry :: ·)⟩

def conclude (scan : Scan) : Scan :=
  match scan.result with
  | .ok entries => { scan with events := scan.events ++ [.finished (.of entries)] }
  | .error _ => scan

def ofTable (rows : Table) (policy : Policy) : Scan :=
  (readCells policy 0 rows.placedCells).conclude

def entries (rows : Table) (policy : Policy) : Except ScanError (List Entry) :=
  (ofTable rows policy).result

def extract (rows : Table) (policy : Policy) : Except ScanError String :=
  (entries rows policy).map Initializer.render

end Scan
end CycleTable
