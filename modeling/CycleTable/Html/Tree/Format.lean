import CycleTable.Html.Tree.Builder

/-! # Formatting elements

Elements such as bold or a link go on formatting behind the end of a block they were opened
in. They are opened again in front of the next text. When one is closed while a block inside
it is open, the tree is rebuilt so that both are properly nested.
-/
namespace CycleTable.Html.Builder

def dropToMark (b : Builder) : Builder :=
  { b with formatting := (b.formatting.dropWhile fun f => !f.isMark).drop 1 }

def mark (b : Builder) : Builder := { b with formatting := .mark :: b.formatting }

def sinceMark (b : Builder) : List Formatting := b.formatting.takeWhile fun f => !f.isMark

def formats (b : Builder) (id : NodeId) : Bool := b.formatting.any (·.isFor id)

def unformat (b : Builder) (id : NodeId) : Builder :=
  { b with formatting := b.formatting.filter fun f => !f.isFor id }

def reformat (b : Builder) (id : NodeId) (entries : List Formatting) : Builder :=
  { b with formatting := b.formatting.flatMap fun f => if f.isFor id then entries else [f] }

def isInForce (b : Builder) : Formatting → Bool
  | .mark => true
  | .element e _ => b.opened.any fun o => o.id == e.id

/-- Opens the formatting elements again that have been closed since the last one in force. -/
def reopen (b : Builder) : Builder :=
  let lost := b.formatting.takeWhile fun f => !b.isInForce f
  let kept := b.formatting.dropWhile fun f => !b.isInForce f
  lost.foldr
    (fun entry b =>
      match entry with
      | .mark => b
      | .element e attributes =>
        let (new, b) := b.insertIn .html e.tag
        { b with formatting := .element new attributes :: b.formatting })
    { b with formatting := kept }

/-- Opens a formatting element. Of more than three alike the earliest is dropped. -/
def insertFormatting (b : Builder) (tag : Tag) : Builder :=
  let b := match b.sinceMark.filter (·.isLike tag) with
    | _ :: _ :: third :: more =>
      match (third :: more).getLast? with
      | some (.element e _) => b.unformat e.id
      | _ => b
    | _ => b
  let (e, b) := b.insertIn .html tag.name
  { b with formatting := .element e tag.attributes :: b.formatting }

/-- Closes the innermost element with a tag, unless a special element is inside it. -/
def closeAny (b : Builder) (tag : String) : Builder :=
  match b.opened.find? fun e => e.is tag || e.isSpecial with
  | some e =>
    if e.is tag then (b.closeImpliedBut tag).close fun o => o.id == e.id else b
  | none => b

structure Moving where
  builder : Builder
  kept : List Opened
  last : NodeId
  behind : Option NodeId

/-- Passes one open element between the block and the formatting element. Of the elements that
still format, at most three are made anew and put around what moves. -/
def Moving.pass (block : NodeId) (m : Moving) (step : Opened × Nat) : Moving :=
  let (e, count) := step
  match m.builder.formatting.find? (Formatting.isFor e.id) with
  | some (.element _ attributes) =>
    if 3 ≤ count then { m with builder := m.builder.unformat e.id }
    else
      let new := m.builder.upcoming .html e.tag
      let b := (m.builder.make new).reformat e.id [.element new attributes]
      { builder := { b with dom := b.dom.append new.id m.last }
        kept := m.kept ++ [new]
        last := new.id
        behind := if m.last = block then some new.id else m.behind }
  | _ => m

/-- Closes a formatting element around an open block: the block moves out, and a new formatting
element takes its content. `inner` are the elements inside the block, `between` those between
the block and the formatting element, and `outer` those around the latter. -/
def moveOut (b : Builder) (e : Opened) (attributes : List Attribute) (inner : List Opened)
    (block : Opened) (between outer : List Opened) : Builder :=
  let m := between.zipIdx.foldl (Moving.pass block.id) ⟨b, [], block.id, none⟩
  let b := m.builder
  let b := { b with dom := b.dom.detach m.last }
  let b := b.put m.last (b.spotIn (outer.head?.getD e))
  let new := b.upcoming .html e.tag
  let b := b.make new
  let b := { b with dom := (b.dom.moveChildren block.id new.id).append block.id new.id }
  let entry := Formatting.element new attributes
  let b := match m.behind with
    | none => b.reformat e.id [entry]
    | some previous =>
      let old := b.formatting.find? (Formatting.isFor previous)
      (b.reformat previous (entry :: old.toList)).unformat e.id
  { b with opened := inner ++ new :: block :: m.kept ++ outer }

inductive Closing where
  | over (b : Builder)
  | again (b : Builder)

def closeFormattingOnce (b : Builder) (tag : String) : Closing :=
  let isSubject : Formatting → Bool
    | .element e _ => e.tag == tag
    | .mark => false
  match b.sinceMark.find? isSubject with
  | some (.element e attributes) =>
    if !b.opened.any (fun o => o.id == e.id) then .over (b.unformat e.id)
    else if !inReach Opened.isBarrier (fun o => o.id == e.id) b.opened then .over b
    else
      let inside := b.opened.takeWhile fun o => o.id != e.id
      let outer := popThrough (fun o => o.id == e.id) b.opened
      match inside.reverse.span fun o => !o.isSpecial with
      | (_, []) => .over { b.unformat e.id with opened := outer }
      | (between, block :: inner) =>
        .again (b.moveOut e attributes inner.reverse block between.reverse outer)
  | _ => .over (b.closeAny tag)

def closeFormattingTimes (tag : String) : Nat → Builder → Builder
  | 0, b => b
  | n + 1, b =>
    match b.closeFormattingOnce tag with
    | .over b => b
    | .again b => closeFormattingTimes tag n b

def closeFormatting (b : Builder) (tag : String) : Builder :=
  match b.opened with
  | e :: _ =>
    if e.is tag && !b.formats e.id then b.pop else closeFormattingTimes tag 8 b
  | [] => b

end CycleTable.Html.Builder
