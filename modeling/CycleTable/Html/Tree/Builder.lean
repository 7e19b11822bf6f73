import CycleTable.Html.Dom
import CycleTable.Html.Place
import CycleTable.Html.Token

/-! # What a tree is built with

A tree is built from tokens, one after the other. An element is open from its start tag to its
end tag. Open elements form a stack, the innermost first. How far a tag can reach into the stack
depends on the elements in between.
-/
namespace CycleTable.Html

inductive Vocabulary where
  | html
  | svg
  | mathml
  deriving DecidableEq, Repr

structure Opened where
  id : NodeId
  vocabulary : Vocabulary
  tag : String
  deriving DecidableEq, Repr

/-- An element that formats the text behind it, or a mark that formatting does not pass. -/
inductive Formatting where
  | mark
  | element (e : Opened) (attributes : List Attribute)
  deriving DecidableEq, Repr

namespace Opened

def is (e : Opened) (tag : String) : Bool := e.vocabulary = .html && e.tag == tag

def isOneOf (e : Opened) (tags : List String) : Bool :=
  e.vocabulary = .html && tags.contains e.tag

def holdsMathText (e : Opened) : Bool :=
  e.vocabulary = .mathml && ["mi", "mo", "mn", "ms", "mtext"].contains e.tag

def holdsElements (e : Opened) : Bool :=
  e.vocabulary = .svg && ["foreignObject", "desc", "title"].contains e.tag

/-- Elements that hide the open elements around them from most tags. -/
def isBarrier (e : Opened) : Bool :=
  e.isOneOf ["applet", "caption", "html", "table", "td", "th", "marquee", "object", "template"]
    || e.holdsMathText || e.holdsElements

def isItemBarrier (e : Opened) : Bool := e.isBarrier || e.isOneOf ["ol", "ul"]

def isParagraphBarrier (e : Opened) : Bool := e.isBarrier || e.is "button"

def isTableBarrier (e : Opened) : Bool := e.isOneOf ["html", "table", "template"]

def isSelectBarrier (e : Opened) : Bool := !e.isOneOf ["optgroup", "option"]

def mayEnd (e : Opened) : Bool :=
  e.isOneOf ["dd", "dt", "li", "option", "optgroup", "p", "rb", "rp", "rt", "rtc"]

def mayEndInTemplate (e : Opened) : Bool :=
  e.mayEnd || e.isOneOf ["caption", "colgroup", "tbody", "td", "tfoot", "th", "thead", "tr"]

def isHeading (e : Opened) : Bool := e.isOneOf ["h1", "h2", "h3", "h4", "h5", "h6"]

def isCell (e : Opened) : Bool := e.isOneOf ["td", "th"]

def isTablePart (e : Opened) : Bool := e.isOneOf ["table", "tbody", "tfoot", "thead", "tr"]

def specialTags : List String :=
  ["address", "applet", "area", "article", "aside", "base", "basefont", "bgsound", "blockquote",
    "body", "br", "button", "caption", "center", "col", "colgroup", "dd", "details", "dir", "div",
    "dl", "dt", "embed", "fieldset", "figcaption", "figure", "footer", "form", "frame",
    "frameset", "h1", "h2", "h3", "h4", "h5", "h6", "head", "header", "hgroup", "hr", "html",
    "iframe", "img", "input", "isindex", "li", "link", "listing", "main", "marquee", "menu",
    "meta", "nav", "noembed", "noframes", "noscript", "object", "ol", "p", "param", "plaintext",
    "pre", "script", "section", "select", "source", "style", "summary", "table", "tbody", "td",
    "template", "textarea", "tfoot", "th", "thead", "title", "tr", "track", "ul", "wbr", "xmp"]

def isSpecial (e : Opened) : Bool := e.isOneOf specialTags

def keepsItem (e : Opened) : Bool := e.isSpecial && !e.isOneOf ["address", "div", "p"]

end Opened

/-- Whether an open element is wanted and not hidden by a barrier. A barrier itself can be
wanted. -/
def inReach (barrier wanted : Opened → Bool) : List Opened → Bool
  | [] => false
  | e :: es => wanted e || (!barrier e && inReach barrier wanted es)

def popThrough (wanted : Opened → Bool) (es : List Opened) : List Opened :=
  (es.dropWhile fun e => !wanted e).drop 1

namespace Formatting

def isMark : Formatting → Bool
  | .mark => true
  | .element .. => false

def isFor (id : NodeId) : Formatting → Bool
  | .mark => false
  | .element e _ => e.id == id

/-- Whether an entry is for an element of the same tag with the same attributes, in any order. -/
def isLike (tag : Tag) : Formatting → Bool
  | .mark => false
  | .element e attributes =>
    e.tag == tag.name && attributes.length == tag.attributes.length &&
      attributes.all tag.attributes.contains

end Formatting

/-! ## Building a tree

A builder takes one token after the other. It holds the tree made so far, the open elements,
the formatting that is in force, and the part of the page it is in. Text and elements that have
no place inside a table go in front of it.
-/

inductive Mode where
  | initial
  | beforeHtml
  | beforeHead
  | inHead
  | afterHead
  | inBody
  | text
  | inTable
  | inTableText
  | inCaption
  | inColumnGroup
  | inTableBody
  | inRow
  | inCell
  | inSelect
  | inSelectInTable
  | inTemplate
  | afterBody
  | inFrameset
  | afterFrameset
  | afterAfterBody
  | afterAfterFrameset
  deriving DecidableEq, Repr

structure Builder where
  dom : Dom
  mode : Mode
  /-- the mode to return to behind raw text or text in a table -/
  savedMode : Mode
  /-- the modes of the open templates, the innermost first -/
  templateModes : List Mode
  /-- the text in a table whose place is not yet known, the last character first -/
  pending : List Char
  /-- whether tables stay inside a paragraph, as in old pages -/
  legacy : Bool
  opened : List Opened
  formatting : List Formatting
  /-- the head of the page, once it has been met -/
  head : Option Opened
  form : Option NodeId
  /-- whether the page may still turn out to be a set of frames -/
  mayHaveFrames : Bool
  /-- whether a line feed is dropped if it is the next token -/
  dropLineFeed : Bool
  /-- whether misplaced content goes in front of the table -/
  fostering : Bool
  /-- where the page is to be read on, if not in ordinary text -/
  next : Option Place

/-- What a token does to a builder: it is used up, or it is to be taken again in the new mode. -/
inductive Outcome where
  | done (b : Builder)
  | again (b : Builder)

namespace Builder

def start : Builder where
  dom := .empty
  mode := .initial
  savedMode := .initial
  templateModes := []
  pending := []
  legacy := false
  opened := []
  formatting := []
  head := none
  form := none
  mayHaveFrames := true
  dropLineFeed := false
  fostering := false
  next := none

def go (b : Builder) (mode : Mode) : Builder := { b with mode := mode }

def isIn (b : Builder) (wanted : Opened → Bool) : Bool := b.opened.head?.any wanted

def inTemplate (b : Builder) : Bool := b.opened.any (·.is "template")

def contentOf (b : Builder) (template : NodeId) : NodeId :=
  ((b.dom.children template).getLast?).getD template

/-- Where content goes that belongs in front of the innermost table. A table that has been taken
out of the tree leaves it behind the content of the element around. -/
def fosterSpot (b : Builder) : List Opened → Spot
  | [] => .inside Dom.root
  | e :: around =>
    if e.is "template" then .inside (b.contentOf e.id)
    else if e.is "table" then
      if (b.dom.parent? e.id).isSome then .before e.id
      else .inside ((around.head?.map Opened.id).getD Dom.root)
    else if around.isEmpty then .inside e.id
    else fosterSpot b around

def spotIn (b : Builder) (target : Opened) : Spot :=
  if b.fostering && target.isTablePart then b.fosterSpot b.opened
  else if target.is "template" then .inside (b.contentOf target.id)
  else .inside target.id

def spot (b : Builder) : Spot :=
  match b.opened with
  | [] => .inside Dom.root
  | e :: _ => b.spotIn e

def put (b : Builder) (id : NodeId) (spot : Spot) : Builder := { b with dom := b.dom.put id spot }

def putChar (b : Builder) (c : Char) : Builder :=
  let spot := b.spot
  { b with dom := b.dom.putChar c spot }

def push (b : Builder) (content : Content) : Builder := { b with dom := b.dom.push content }

def putCommentAt (b : Builder) (content : String) (spot : Spot) : Builder :=
  let id := b.dom.nextId
  (b.push (.comment content)).put id spot

def putComment (b : Builder) (content : String) : Builder := b.putCommentAt content b.spot

/-- Makes an element. The content of a template goes into a fragment of its own. -/
def make (b : Builder) (e : Opened) : Builder :=
  let b := b.push (.element e.tag)
  if e.is "template" then
    let content := b.dom.nextId
    (b.push .fragment).put content (.inside e.id)
  else b

def upcoming (b : Builder) (vocabulary : Vocabulary) (tag : String) : Opened :=
  ⟨b.dom.nextId, vocabulary, tag⟩

def addIn (b : Builder) (vocabulary : Vocabulary) (tag : String) : Opened × Builder :=
  let e := b.upcoming vocabulary tag
  let spot := b.spot
  (e, (b.make e).put e.id spot)

def add (b : Builder) (tag : String) : Builder := (b.addIn .html tag).2

def insertIn (b : Builder) (vocabulary : Vocabulary) (tag : String) : Opened × Builder :=
  let (e, b) := b.addIn vocabulary tag
  (e, { b with opened := e :: b.opened })

def insert (b : Builder) (tag : String) : Builder := (b.insertIn .html tag).2

def pop (b : Builder) : Builder := { b with opened := b.opened.drop 1 }

/-- Closes the innermost element that is wanted and all inside it; everything, if none is. -/
def close (b : Builder) (wanted : Opened → Bool) : Builder :=
  { b with opened := popThrough wanted b.opened }

def closeTo (b : Builder) (wanted : Opened → Bool) : Builder :=
  { b with opened := b.opened.dropWhile fun e => !wanted e }

def closeImplied (b : Builder) (mayEnd : Opened → Bool) : Builder :=
  { b with opened := b.opened.dropWhile mayEnd }

def closeImpliedBut (b : Builder) (tag : String) : Builder :=
  b.closeImplied fun e => e.mayEnd && !e.is tag

def forget (b : Builder) (id : NodeId) : Builder :=
  { b with opened := b.opened.filter fun e => e.id != id }

def reaches (b : Builder) (tag : String) : Bool :=
  inReach Opened.isBarrier (·.is tag) b.opened

def reachesInTable (b : Builder) (tag : String) : Bool :=
  inReach Opened.isTableBarrier (·.is tag) b.opened

def closeParagraph (b : Builder) : Builder :=
  if inReach Opened.isParagraphBarrier (·.is "p") b.opened then
    (b.closeImpliedBut "p").close (·.is "p")
  else b

def readRaw (b : Builder) (kind : RawText) : Builder :=
  { b with mode := .text, savedMode := b.mode, next := some (.raw kind) }

def noFrames (b : Builder) : Builder := { b with mayHaveFrames := false }

def selectMode : List Opened → Mode
  | [] => .inSelect
  | e :: around =>
    if e.is "template" then .inSelect
    else if e.is "table" then .inSelectInTable
    else selectMode around

def modeFor (b : Builder) : List Opened → Mode
  | [] => .inBody
  | e :: around =>
    if e.vocabulary ≠ .html then modeFor b around
    else if e.tag = "select" then selectMode around
    else if e.isCell && !around.isEmpty then .inCell
    else if e.tag = "tr" then .inRow
    else if e.isOneOf ["tbody", "thead", "tfoot"] then .inTableBody
    else if e.tag = "caption" then .inCaption
    else if e.tag = "colgroup" then .inColumnGroup
    else if e.tag = "table" then .inTable
    else if e.tag = "template" then b.templateModes.head?.getD .inBody
    else if e.tag = "head" && !around.isEmpty then .inHead
    else if e.tag = "body" then .inBody
    else if e.tag = "frameset" then .inFrameset
    else if e.tag = "html" then (if b.head.isSome then .afterHead else .beforeHead)
    else modeFor b around

def resetMode (b : Builder) : Builder := b.go (b.modeFor b.opened)

end Builder
end CycleTable.Html
