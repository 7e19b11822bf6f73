import CycleTable.Html.Tree.Head

/-! # The body of a page

Most tags of the body open or close one element. Some close a paragraph or a list item first;
some open formatting again; some change how the page is read on.
-/
namespace CycleTable.Html

def Tag.isHidden (tag : Tag) : Bool :=
  (tag.value? "type").any fun v => lowerAll v.toList == "hidden".toList

namespace Builder

def blockTags : List String :=
  ["address", "article", "aside", "blockquote", "center", "details", "dialog", "dir", "div", "dl",
    "fieldset", "figcaption", "figure", "footer", "header", "hgroup", "main", "menu", "nav",
    "ol", "p", "section", "summary", "ul"]

def headingTags : List String := ["h1", "h2", "h3", "h4", "h5", "h6"]

def formattingTags : List String :=
  ["a", "b", "big", "code", "em", "font", "i", "nobr", "s", "small", "strike", "strong", "tt",
    "u"]

def objectTags : List String := ["applet", "marquee", "object"]

def voidTags : List String := ["area", "br", "embed", "img", "keygen", "wbr"]

def tablePartTags : List String :=
  ["caption", "col", "colgroup", "tbody", "td", "tfoot", "th", "thead", "tr"]

def body? (b : Builder) : Option Opened := b.opened.reverse[1]?.filter (·.is "body")

def startFrames (b : Builder) : Builder :=
  match b.mayHaveFrames, b.body? with
  | true, some body =>
    let b := { b with dom := b.dom.detach body.id, opened := b.opened.getLast?.toList }
    (b.insert "frameset").go .inFrameset
  | _, _ => b

/-- Closes the list item, or the term or description, that a new one ends. -/
def closeItem (b : Builder) (tags : List String) : Builder :=
  match b.opened.find? fun e => e.isOneOf tags || e.keepsItem with
  | some e =>
    if e.isOneOf tags then (b.closeImpliedBut e.tag).close (·.is e.tag) else b
  | none => b

def insertBlock (b : Builder) (tag : String) : Builder := b.closeParagraph.insert tag

def startForm (b : Builder) : Builder :=
  if b.form.isSome && !b.inTemplate then b
  else
    let (form, b) := b.closeParagraph.insertIn .html "form"
    if b.inTemplate then b else { b with form := some form.id }

def closeLink (b : Builder) : Builder :=
  let isLink : Formatting → Bool
    | .element e _ => e.tag == "a"
    | .mark => false
  match b.sinceMark.find? isLink with
  | some (.element e _) => ((b.closeFormatting "a").unformat e.id).forget e.id
  | _ => b

def startSelect (b : Builder) : Builder :=
  let inTable := [Mode.inTable, .inCaption, .inTableBody, .inRow, .inCell].contains b.mode
  (b.reopen.insert "select").noFrames.go (if inTable then .inSelectInTable else .inSelect)

/-- Opens an element of other markup, or adds it if its tag says that it has no content. -/
def startForeign (b : Builder) (vocabulary : Vocabulary) (name : String) (selfClosing : Bool) :
    Builder :=
  if selfClosing then (b.addIn vocabulary name).2 else (b.insertIn vocabulary name).2

def rawTags : List String :=
  ["textarea", "xmp", "iframe", "noembed", "noscript", "plaintext"]

def startRaw (b : Builder) (tag : String) : Builder :=
  if tag = "textarea" then
    { ((b.insert tag).noFrames.readRaw .rcdata) with dropLineFeed := true }
  else if tag = "xmp" then (b.closeParagraph.reopen.insert tag).noFrames.readRaw .rawtext
  else if tag = "iframe" then (b.insert tag).noFrames.readRaw .rawtext
  else if tag = "plaintext" then { b.insertBlock tag with next := some .plaintext }
  else (b.insert tag).readRaw .rawtext

def ruledBlockTags : List String :=
  headingTags ++ ["pre", "listing", "form", "li", "dd", "dt", "hr", "table"]

def startBlock (b : Builder) (tag : String) : Builder :=
  if headingTags.contains tag then
    let b := b.closeParagraph
    (if b.isIn Opened.isHeading then b.pop else b).insert tag
  else if tag = "pre" ∨ tag = "listing" then
    { (b.insertBlock tag).noFrames with dropLineFeed := true }
  else if tag = "form" then b.startForm
  else if tag = "li" then (b.noFrames.closeItem ["li"]).insertBlock tag
  else if tag = "dd" ∨ tag = "dt" then (b.noFrames.closeItem ["dd", "dt"]).insertBlock tag
  else if tag = "hr" then (b.closeParagraph.add tag).noFrames
  else if tag = "table" then
    ((if b.legacy then b else b.closeParagraph).insert tag).noFrames.go .inTable
  else b.insertBlock tag

def startFormatting (b : Builder) (tag : Tag) : Builder :=
  if tag.name = "a" then b.closeLink.reopen.insertFormatting tag
  else if tag.name = "nobr" then
    let b := b.reopen
    (if b.reaches "nobr" then (b.closeFormatting "nobr").reopen else b).insertFormatting tag
  else b.reopen.insertFormatting tag

def startInline (b : Builder) (tag : Tag) : Builder :=
  let name := tag.name
  if name = "button" then
    let b := if b.reaches name then (b.closeImplied Opened.mayEnd).close (·.is name) else b
    (b.reopen.insert name).noFrames
  else if objectTags.contains name then (b.reopen.insert name).mark.noFrames
  else if voidTags.contains name then (b.reopen.add name).noFrames
  else if name = "image" then (b.reopen.add "img").noFrames
  else if name = "input" then
    let b := b.reopen.add name
    if tag.isHidden then b else b.noFrames
  else if ["param", "source", "track"].contains name then b.add name
  else if name = "select" then b.startSelect
  else if name = "optgroup" ∨ name = "option" then
    (if b.isIn (·.is "option") then b.pop else b).reopen.insert name
  else if name = "rb" ∨ name = "rtc" then
    (if b.reaches "ruby" then b.closeImplied Opened.mayEnd else b).insert name
  else if name = "rp" ∨ name = "rt" then
    (if b.reaches "ruby" then b.closeImpliedBut "rtc" else b).insert name
  else if name = "math" then b.startForeign .mathml name tag.selfClosing
  else if name = "svg" then b.startForeign .svg name tag.selfClosing
  else b.reopen.insert name

def startInBody (b : Builder) (tag : Tag) : Builder :=
  let name := tag.name
  if headTags.contains name then b.startInHead name
  else if name = "html" ∨ name = "head" ∨ name = "frame" then b
  else if name = "body" then
    if b.body?.isSome && !b.inTemplate then b.noFrames else b
  else if name = "frameset" then b.startFrames
  else if tablePartTags.contains name then b
  else if rawTags.contains name then b.startRaw name
  else if blockTags.contains name ∨ ruledBlockTags.contains name then b.startBlock name
  else if formattingTags.contains name then b.startFormatting tag
  else b.startInline tag

def endForm (b : Builder) : Builder :=
  if b.inTemplate then
    if b.reaches "form" then (b.closeImplied Opened.mayEnd).close (·.is "form") else b
  else
    match b.form with
    | none => b
    | some id =>
      let b := { b with form := none }
      if inReach Opened.isBarrier (fun e => e.id == id) b.opened then
        (b.closeImplied Opened.mayEnd).forget id
      else b

def endBlock (b : Builder) (tag : String) : Builder :=
  if b.reaches tag then (b.closeImplied Opened.mayEnd).close (·.is tag) else b

def endItem (b : Builder) (tag : String) : Builder :=
  let barrier := if tag = "li" then Opened.isItemBarrier else Opened.isBarrier
  if inReach barrier (·.is tag) b.opened then (b.closeImpliedBut tag).close (·.is tag) else b

def endHeading (b : Builder) : Builder :=
  if inReach Opened.isBarrier Opened.isHeading b.opened then
    (b.closeImplied Opened.mayEnd).close Opened.isHeading
  else b

/-- Takes the end tag of a paragraph. It opens one if none is open. -/
def endParagraph (b : Builder) : Builder :=
  let open? := inReach Opened.isParagraphBarrier (·.is "p") b.opened
  ((if open? then b else b.insert "p").closeImpliedBut "p").close (·.is "p")

def endInBody (b : Builder) (tag : String) : Outcome :=
  if tag = "template" then .done b.endTemplate
  else if tag = "body" then .done (if b.reaches "body" then b.go .afterBody else b)
  else if tag = "html" then
    if b.reaches "body" then .again (b.go .afterBody) else .done b
  else if tag = "form" then .done b.endForm
  else if tag = "p" then .done b.endParagraph
  else if tag = "li" ∨ tag = "dd" ∨ tag = "dt" then .done (b.endItem tag)
  else if headingTags.contains tag then .done b.endHeading
  else if blockTags.contains tag ∨ ["button", "listing", "pre"].contains tag then
    .done (b.endBlock tag)
  else if formattingTags.contains tag then .done (b.closeFormatting tag)
  else if objectTags.contains tag then
    .done (if b.reaches tag then (b.endBlock tag).dropToMark else b)
  else if tag = "br" then .done (b.startInBody ⟨"br", [], false⟩)
  else .done (b.closeAny tag)

def charInBody (b : Builder) (c : Char) : Builder :=
  (if Text.isAsciiWhite c then b.reopen else b.reopen.noFrames).putChar c

def endPageInTemplate (b : Builder) : Outcome :=
  if b.inTemplate then .again b.leaveTemplate else .done b

def stepInBody (b : Builder) (token : Token) : Outcome :=
  match token with
  | .char c => .done (b.charInBody c)
  | .comment content => .done (b.putComment content)
  | .startTag tag => .done (b.startInBody tag)
  | .endTag tag => b.endInBody tag
  | .endOfPage => if b.templateModes.isEmpty then .done b else b.endPageInTemplate
  | _ => .done b

end Builder
end CycleTable.Html
