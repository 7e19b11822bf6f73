import CycleTable.Entry
import CycleTable.Text.Quoted
import CycleTable.Text.White

/-! # Entries and lists of them, written and read back

A written entry is taken apart before its numerals are read, so that a text of the wrong form
and a number that is too large are different errors. The name ends at the first place where
the rest of the entry can be read; it holds any characters but a line feed.
-/
namespace CycleTable

/-- The parts of a written entry: three numerals, unread, and the name. -/
structure Written where
  opcode : List Char
  name : List Char
  cycles : List Char
  branchTaken : List Char
  deriving DecidableEq, Repr

inductive Ending where
  | text
  | comma
  deriving DecidableEq, Repr

def Ending.drop? : Ending → List Char → Option (List Char)
  | .text, [] => some []
  | .text, _ :: _ => none
  | .comma, cs => Text.drop? [','] cs

namespace Written

def digits? (isDigit : Char → Bool) (cs : List Char) : Option (List Char × List Char) :=
  match cs.takeWhile isDigit with
  | [] => none
  | ds => some (ds, cs.dropWhile isDigit)

/-- The two counts behind a name, from the closing quote to the ending, and the text behind. -/
def counts? (ending : Ending) (cs : List Char) : Option (List Char × List Char × List Char) := do
  let cs ← Text.drop? Entry.nameClosing cs
  let (cycles, cs) ← digits? Numeral.isDigit cs
  let cs ← Text.drop? Entry.separator cs
  let (branchTaken, cs) ← digits? Numeral.isDigit cs
  let cs ← Text.drop? Entry.closing cs
  let rest ← ending.drop? cs
  some (cycles, branchTaken, rest)

/-- The shortest name that counts follow, those counts, and the text behind them. -/
def nameAndCounts? (ending : Ending) :
    List Char → Option (List Char × List Char × List Char × List Char)
  | [] => none
  | c :: cs =>
    match counts? ending (c :: cs) with
    | some found => some ([], found)
    | none =>
      if c = '\n' then none
      else (nameAndCounts? ending cs).map fun (name, found) => (c :: name, found)

def read? (ending : Ending) (cs : List Char) : Option (Written × List Char) := do
  let cs ← Text.drop? Entry.opening cs
  let (opcode, cs) ← digits? Numeral.isHexDigit cs
  let cs ← Text.drop? Entry.nameOpening cs
  let (name, cycles, branchTaken, rest) ← nameAndCounts? ending cs
  some (⟨opcode, name, cycles, branchTaken⟩, rest)

theorem length_of_digits? {p : Char → Bool} {cs ds rest : List Char}
    (h : digits? p cs = some (ds, rest)) : rest.length ≤ cs.length := by
  unfold digits? at h
  split at h
  · cases h
  · simp only [Option.some.injEq, Prod.mk.injEq] at h
    rw [← h.2]
    exact (List.dropWhile_suffix p).length_le

theorem length_of_drop? {es cs rest : List Char} (h : Text.drop? es cs = some rest) :
    rest.length + es.length = cs.length := by
  rw [Text.drop?_eq_some.1 h, List.length_append, Nat.add_comm]

theorem length_of_ending {ending : Ending} {cs rest : List Char}
    (h : ending.drop? cs = some rest) : rest.length ≤ cs.length := by
  cases ending with
  | text =>
    cases cs with
    | nil => simp [Ending.drop?] at h; simp [← h]
    | cons c cs => simp [Ending.drop?] at h
  | comma => have := length_of_drop? h; omega

theorem length_of_counts? {ending : Ending} {cs cycles branchTaken rest : List Char}
    (h : counts? ending cs = some (cycles, branchTaken, rest)) : rest.length ≤ cs.length := by
  simp only [counts?, Option.bind_eq_bind, Option.bind_eq_some_iff] at h
  obtain ⟨a, ha, ⟨d, b⟩, hb, c, hc, ⟨d', e⟩, he, f, hf, g, hg, h⟩ := h
  simp only [Option.some.injEq, Prod.mk.injEq] at h
  obtain ⟨-, -, rfl⟩ := h
  have := length_of_drop? ha
  have := length_of_digits? hb
  have := length_of_drop? hc
  have := length_of_digits? he
  have := length_of_drop? hf
  have := length_of_ending hg
  dsimp only at *
  omega

theorem length_of_nameAndCounts? {ending : Ending} {cs name rest : List Char}
    {found : List Char × List Char}
    (h : nameAndCounts? ending cs = some (name, found.1, found.2, rest)) :
    rest.length ≤ cs.length := by
  induction cs generalizing name with
  | nil => simp [nameAndCounts?] at h
  | cons c cs ih =>
    unfold nameAndCounts? at h
    split at h
    next found' hc =>
      obtain ⟨a, b, r⟩ := found'
      simp only [Option.some.injEq, Prod.mk.injEq] at h
      obtain ⟨-, -, -, rfl⟩ := h
      exact length_of_counts? hc
    next =>
      split at h
      · cases h
      · simp only [Option.map_eq_some_iff] at h
        obtain ⟨⟨n, a, b, r⟩, hn, h⟩ := h
        simp only [Prod.mk.injEq] at h
        obtain ⟨-, rfl, rfl, rfl⟩ := h
        have := ih hn
        simp only [List.length_cons]
        omega

theorem length_of_read? {ending : Ending} {cs rest : List Char} {w : Written}
    (h : read? ending cs = some (w, rest)) : rest.length < cs.length := by
  simp only [read?, Option.bind_eq_bind, Option.bind_eq_some_iff] at h
  obtain ⟨a, ha, ⟨d, b⟩, hb, c, hc, ⟨n, f, g, e⟩, he, h⟩ := h
  simp only [Option.some.injEq, Prod.mk.injEq] at h
  obtain ⟨-, rfl⟩ := h
  have h1 := length_of_drop? ha
  have := length_of_digits? hb
  have := length_of_drop? hc
  have : e.length ≤ c.length := @length_of_nameAndCounts? _ _ _ _ (f, g) he
  have : Entry.opening.length = 4 := by decide
  dsimp only at *
  omega

end Written

/-! ## Initializer lists

Entries are listed one behind the other, each with a comma behind it. Reading a list back
allows any white space around an entry and its comma, and stops at the first place where no
entry begins.
-/

inductive InitializerError where
  /-- No entry begins after so many bytes. -/
  | malformed (offset : Nat)
  | badNumber (text : String) (reason : NumeralError)
  deriving DecidableEq, Repr

def InitializerError.message : InitializerError → String
  | .malformed offset => "Expected an opcode entry at byte offset " ++ toString offset
  | .badNumber text _ => "Number " ++ Text.quoted text ++ " in opcode entry is out of range"

namespace Written

def number (base : Nat) (numeral : List Char) : Except InitializerError UInt32 :=
  (Numeral.read base numeral).mapError (.badNumber (String.ofList numeral))

def toEntry (w : Written) : Except InitializerError Entry := do
  let opcode ← number 16 w.opcode
  let cycles ← number 10 w.cycles
  let branchTaken ← number 10 w.branchTaken
  return ⟨opcode, String.ofList w.name, cycles, branchTaken⟩

end Written

/-- Reads one entry with no comma behind it; white space around it is ignored. -/
def Entry.parse (text : String) : Except InitializerError Entry :=
  match Written.read? .text (Text.trim text.toList) with
  | none => .error (.malformed 0)
  | some (w, _) => w.toEntry

namespace Initializer

def render (entries : List Entry) : String :=
  String.ofList (entries.flatMap fun e => e.renderChars ++ [','])

/-- Reads the entries in the rest of a text that takes `size` bytes in all. -/
def parseRest (size : Nat) (cs : List Char) : Except InitializerError (List Entry) :=
  let trimmed := Text.trimStart cs
  if trimmed = [] then .ok []
  else
    match _found : Written.read? .comma trimmed with
    | none => .error (.malformed (size - Text.byteCount trimmed))
    | some (w, rest) => do
      let entry ← w.toEntry
      let entries ← parseRest size rest
      return entry :: entries
termination_by cs.length
decreasing_by
  have := Written.length_of_read? _found
  have : trimmed.length ≤ cs.length := (List.dropWhile_suffix _).length_le
  omega

def parse (text : String) : Except InitializerError (List Entry) :=
  parseRest (Text.byteCount text.toList) text.toList

end Initializer
end CycleTable
