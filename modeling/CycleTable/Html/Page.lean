import CycleTable.Document
import CycleTable.Html.Place
import CycleTable.Html.Tree.Foreign

/-! # Pages

A page is read character by character into a tree. Any text is a page: whatever is wrong with
the markup has its place in the rules. The page is read afresh behind the end tag of a script, so
that a byte order mark is dropped there as it is at the start.
-/
namespace CycleTable.Html

def byteOrderMark : Char := '\ufeff'

structure Reader where
  place : Place
  lastTag : String
  builder : Builder
  /-- whether a byte order mark is dropped if it comes next -/
  afresh : Bool
  /-- whether a line feed is skipped if it comes next, behind a carriage return -/
  returned : Bool

namespace Reader

def start : Reader := ⟨.data, "", .start, true, false⟩

def endsScript (r : Reader) (token : Token) : Bool :=
  r.builder.mode = .text && token == .endTag "script"

def take (r : Reader) (token : Token) : Reader :=
  let afresh := r.endsScript token
  match r with
  | ⟨place, lastTag, builder, _, returned⟩ =>
    let b := builder.take token
    let place := b.next.getD place
    let lastTag := match token with
      | .startTag tag => tag.name
      | _ => lastTag
    ⟨place, lastTag, { b with next := none }, afresh, returned⟩

def isForeign (r : Reader) : Bool := r.builder.isIn fun e => e.vocabulary ≠ .html

def follow (r : Reader) (returned : Bool) (step : Place.Step) : Reader :=
  step.2.foldl take { r with place := step.1, afresh := false, returned := returned }

def feed (r : Reader) (c : Char) : Reader :=
  if c = byteOrderMark ∧ r.afresh then { r with afresh := false }
  else if c = '\n' ∧ r.returned then r.follow false (r.place.skipLineFeed, [])
  else if c = '\r' then
    let (step, returned) := r.place.readReturn r.isForeign r.lastTag
    r.follow returned step
  else r.follow false (r.place.read r.isForeign r.lastTag c)

def finish (r : Reader) : Dom :=
  ((r.place.atEnd ++ [Token.endOfPage]).foldl take r).builder.dom

end Reader

def parse (page : String) : Dom := (page.toList.foldl Reader.feed Reader.start).finish

def document (page : String) : List Node := (parse page).below Dom.root

/-- The rows of a page, each given by its children: all `tr` elements that have a place in the
tree, in the order in which they were made. -/
def rows (page : String) : List (List Node) :=
  let dom := parse page
  (dom.elements "tr").map dom.below

def pageTable (page : String) : Table := tableOfRows (rows page)

end CycleTable.Html
