import CycleTable.Html.Reference.Names
import CycleTable.Html.Token
import CycleTable.Numeral

/-! # Characters by name and number

A page may write a character by its number or by a name. The names are kept letter by letter, so
that a name can be followed while it is read.
-/
namespace CycleTable.Html

/-- Names behind some first letters: the characters of the name that ends here, and the names
that go on with each letter. -/
inductive NameTree where
  | node (value : Option (List Char)) (next : List (Char × NameTree))

namespace NameTree

def empty : NameTree := .node none []

def value? : NameTree → Option (List Char)
  | .node value _ => value

def next? (c : Char) : NameTree → Option NameTree
  | .node _ next => next.lookup c

def insert (value : List Char) : List Char → NameTree → NameTree
  | [], .node _ next => .node (some value) next
  | c :: cs, .node here next =>
    let below := insert value cs ((next.lookup c).getD empty)
    .node here ((c, below) :: next.filter fun entry => entry.1 != c)

/-- Adds a written name: the name, a colon, and code points with plus signs between them. -/
def insertText (names : NameTree) (text : String) : NameTree :=
  match text.splitOn ":" with
  | [name, points] =>
    let value := (points.splitOn "+").map fun p => Char.ofNat (Numeral.value 16 p.toList)
    insert value name.toList names
  | _ => names

def all : NameTree :=
  (referenceRows.flatMap fun row => row.splitOn " ").foldl insertText empty

end NameTree

/-! ## Character references

A reference stands for a character by its number or by its name. It is read one character at a
time. What turns out not to be a reference is plain text. A name is read as far as any known
name goes, and the longest known name in what was read counts; inside an attribute a name
without a semicolon does not count if a letter, a digit or an equals sign follows. The character
that ends a name is read with it and then once more, and a carriage return does not always
survive that.
-/

/-- The characters that the numbers from 128 to 159 stand for, by tradition. -/
def traditional : List (Nat × Nat) :=
  [(0x80, 0x20ac), (0x82, 0x201a), (0x83, 0x0192), (0x84, 0x201e), (0x85, 0x2026),
    (0x86, 0x2020), (0x87, 0x2021), (0x88, 0x02c6), (0x89, 0x2030), (0x8a, 0x0160),
    (0x8b, 0x2039), (0x8c, 0x0152), (0x8e, 0x017d), (0x91, 0x2018), (0x92, 0x2019),
    (0x93, 0x201c), (0x94, 0x201d), (0x95, 0x2022), (0x96, 0x2013), (0x97, 0x2014),
    (0x98, 0x02dc), (0x99, 0x2122), (0x9a, 0x0161), (0x9b, 0x203a), (0x9c, 0x0153),
    (0x9e, 0x017e), (0x9f, 0x0178)]

def numbered (n : Nat) : Char :=
  if n = 0 ∨ 0x10ffff < n ∨ (0xd800 ≤ n ∧ n ≤ 0xdfff) then replacement
  else Char.ofNat ((traditional.lookup n).getD n)

inductive Reference where
  | opened
  | hash
  /-- the letter of a hexadecimal number, if there is one, and the value of the digits -/
  | number (letter : Option Char) (value : Option Nat)
  /-- the characters of a name, the names they may become, the longest name met so far and
  the characters read behind it -/
  | name (read : List Char) (names : NameTree) (met : Option (List Char × List Char))

namespace Reference

inductive Progress where
  | reading (r : Reference)
  /-- The reference is over and gives a text. It is flawed if its semicolon is missing; the last
  character is to be read again if it is not part of it. -/
  | over (text : List Char) (flawed again : Bool)

def literal : Reference → List Char
  | .opened => ['&']
  | .hash => ['&', '#']
  | .number letter _ => ['&', '#'] ++ letter.toList
  | .name read _ _ => '&' :: read.reverse

def addDigit (base : Nat) (value : Option Nat) (digit : Nat) : Nat :=
  min (value.getD 0 * base + digit) 0x110000

/-- Ends a name in front of a character, or at the end of the page: its text, and whether its
semicolon is missing. -/
def endName (inAttribute : Bool) (next : Option Char) (read : List Char) :
    Option (List Char × List Char) → List Char × Bool
  | none => ('&' :: read.reverse, false)
  | some (value, behind) =>
    let following := (behind.getLast?).or next
    if read.head? = some ';' then (value, false)
    else if inAttribute && following.any (fun c => c = '=' || isAlphanumeric c) then
      ('&' :: read.reverse, false)
    else (value ++ behind.reverse, true)

def feed (inAttribute : Bool) (c : Char) : Reference → Progress
  | .opened =>
    if c = '#' then .reading .hash
    else
      match NameTree.all.next? c with
      | none => .over ['&'] false true
      | some names => .reading (.name [c] names none)
  | .hash =>
    if c = 'x' ∨ c = 'X' then .reading (.number (some c) none)
    else
      match Numeral.digitValue? 10 c with
      | some d => .reading (.number none (some d))
      | none => .over ['&', '#'] false true
  | .number letter value =>
    let base := if letter.isSome then 16 else 10
    match Numeral.digitValue? base c, value with
    | some d, _ => .reading (.number letter (some (addDigit base value d)))
    | none, some n =>
      if c = ';' then .over [numbered n] false false else .over [numbered n] true true
    | none, none => .over (literal (.number letter none)) false true
  | .name read names met =>
    match names.next? c with
    | none =>
      let (text, flawed) := endName inAttribute (some c) read met
      .over text flawed true
    | some names =>
      match names.value? with
      | some value => .reading (.name (c :: read) names (some (value, [])))
      | none =>
        .reading (.name (c :: read) names
          (met.map fun (value, behind) => (value, c :: behind)))

def finish (inAttribute : Bool) : Reference → List Char × Bool
  | .number _ (some n) => ([numbered n], true)
  | .name read _ met => endName inAttribute none read met
  | r => (r.literal, false)

def isNamed : Reference → Bool
  | .opened | .name .. => true
  | .hash | .number .. => false

/-- Whether a carriage return that ends the reference is lost. It is when nothing but the line
feed it stands for is read once more: behind the ampersand alone, and right behind a name. -/
def losesReturn : Reference → Bool
  | .opened | .name _ _ (some (_, [])) => true
  | _ => false

end Reference
end CycleTable.Html
