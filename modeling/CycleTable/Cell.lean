import CycleTable.Entry
import CycleTable.Text.Quoted
import CycleTable.Text.White

/-! # Cells

The first line of a cell is the name of an instruction. The second word of the second line
gives its cycle counts: one count, or two with a minus sign between them, the second for a
branch that is taken. A count may carry one character of unit behind its digits.
-/
namespace CycleTable

inductive CellError where
  /-- There is only one line. Opcodes that are not in use look like this. -/
  | missingTimingLine
  | missingCycleDescriptor (line : String)
  | badCycleCount (segment : String) (reason : NumeralError)
  deriving DecidableEq, Repr

def CellError.message : CellError → String
  | .missingTimingLine => "Cell has no cycle count line"
  | .missingCycleDescriptor line =>
    "Cycle count line " ++ Text.quoted line ++ " has no cycle descriptor"
  | .badCycleCount segment _ => "Invalid cycle count " ++ Text.quoted segment

structure Timing where
  name : String
  cycles : UInt32
  branchTaken : UInt32
  deriving DecidableEq, Repr

namespace Timing

def toEntry (t : Timing) (opcode : UInt32) : Entry := ⟨opcode, t.name, t.cycles, t.branchTaken⟩

/-- A count without its unit: one last character that is not an ASCII digit. -/
def withoutUnit (segment : List Char) : List Char :=
  match segment.getLast? with
  | some last => if Numeral.isDigit last then segment else segment.dropLast
  | none => segment

def readCount (segment : List Char) : Except CellError UInt32 :=
  (Numeral.read 10 (withoutUnit segment)).mapError (.badCycleCount (String.ofList segment))

/-- Reads the counts of a descriptor; what stands behind a second minus sign is ignored. -/
def readCounts (descriptor : List Char) : Except CellError (UInt32 × UInt32) := do
  let cycles ← readCount (Text.before '-' descriptor)
  match Text.after? '-' descriptor with
  | none => return (cycles, cycles)
  | some rest => return (cycles, ← readCount (Text.before '-' rest))

def parseChars (cell : List Char) : Except CellError Timing :=
  match Text.after? '\n' cell with
  | none => .error .missingTimingLine
  | some rest =>
    let line := Text.before '\n' rest
    match (Text.words line)[1]? with
    | none => .error (.missingCycleDescriptor (String.ofList line))
    | some descriptor => do
      let (cycles, branchTaken) ← readCounts descriptor
      return ⟨String.ofList (Text.before '\n' cell), cycles, branchTaken⟩

def parse (text : String) : Except CellError Timing := parseChars text.toList

end Timing
end CycleTable
