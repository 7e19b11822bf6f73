import CycleTable.Numeral

/-! # Entries

An entry says how many cycles the instruction with a given number takes. It is written as an
initializer, the number in hexadecimal and the name between quotes, with nothing escaped.
-/
namespace CycleTable

/-- The timing of one opcode. For a conditional branch `cycles` is the cost of not taking it;
for anything else the two counts agree. -/
structure Entry where
  opcode : UInt32
  name : String
  cycles : UInt32
  branchTaken : UInt32
  deriving DecidableEq, Repr

namespace Entry

def invalidName : String := "<invalid>"

def invalid (opcode : UInt32) : Entry := ⟨opcode, invalidName, 0, 0⟩

/-- Whether an entry stands for a cell without a usable timing. The opcode has no say in it. -/
def isInvalid (e : Entry) : Bool := e.name == invalidName && e.cycles == 0 && e.branchTaken == 0

def isConditional (e : Entry) : Bool := e.cycles != e.branchTaken

def opening : List Char := "\x7b 0x".toList

def nameOpening : List Char := ", \"".toList

def nameClosing : List Char := "\", ".toList

def separator : List Char := ", ".toList

def closing : List Char := " \x7d".toList

def renderChars (e : Entry) : List Char :=
  opening ++ Numeral.hex e.opcode.toNat ++ nameOpening ++ e.name.toList ++ nameClosing ++
    Numeral.decimal e.cycles.toNat ++ separator ++ Numeral.decimal e.branchTaken.toNat ++ closing

def render (e : Entry) : String := String.ofList e.renderChars

end Entry
end CycleTable
