import CycleTable.Html.Tree.Body

/-! # Tables and selections of a page

Inside a table only its parts, and white space between them, have a place; everything else goes
in front of it. A part that is left out is added where a later one needs it, and a part
that is still open is closed where the next one starts.
-/
namespace CycleTable.Html

def Outcome.settle : Outcome → Outcome
  | .done b => .done { b with fostering := false }
  | .again b => .again { b with fostering := false }

namespace Builder

/-- Takes a token as in the body, with misplaced content in front of the table. -/
def foster (b : Builder) (token : Token) : Outcome :=
  ({ b with fostering := true }.stepInBody token).settle

def toTable (b : Builder) : Builder := b.closeTo Opened.isTableBarrier

def toRowGroup (b : Builder) : Builder :=
  b.closeTo (·.isOneOf ["tbody", "tfoot", "thead", "template", "html"])

def toRow (b : Builder) : Builder := b.closeTo (·.isOneOf ["tr", "template", "html"])

def closeTable (b : Builder) : Builder := (b.close (·.is "table")).resetMode

def startInTable (b : Builder) (tag : Tag) : Outcome :=
  let name := tag.name
  if name = "caption" then .done ((b.toTable.mark.insert name).go .inCaption)
  else if name = "colgroup" then .done ((b.toTable.insert name).go .inColumnGroup)
  else if name = "col" then .again ((b.toTable.insert "colgroup").go .inColumnGroup)
  else if ["tbody", "tfoot", "thead"].contains name then
    .done ((b.toTable.insert name).go .inTableBody)
  else if ["td", "th", "tr"].contains name then
    .again ((b.toTable.insert "tbody").go .inTableBody)
  else if name = "table" then
    if b.reachesInTable name then .again b.closeTable else .done b
  else if ["style", "script", "template"].contains name then
    .done (b.startInHead name)
  else if name = "input" ∧ tag.isHidden then .done (b.add name)
  else if name = "form" then
    if b.inTemplate || b.form.isSome then .done b
    else
      let (form, b) := b.addIn .html name
      .done { b with form := some form.id }
  else b.foster (.startTag tag)

def endInTable (b : Builder) (tag : String) : Outcome :=
  if tag = "table" then .done (if b.reachesInTable tag then b.closeTable else b)
  else if tag = "body" ∨ tag = "html" ∨ tablePartTags.contains tag then .done b
  else if tag = "template" then .done b.endTemplate
  else b.foster (.endTag tag)

def stepInTable (b : Builder) (token : Token) : Outcome :=
  match token with
  | .null => .done b
  | .char _ =>
    if b.isIn Opened.isTablePart then
      .again { b with savedMode := b.mode, mode := .inTableText, pending := [] }
    else b.foster token
  | .comment content => .done (b.putComment content)
  | .startTag tag => b.startInTable tag
  | .endTag tag => b.endInTable tag
  | .endOfPage => b.stepInBody token
  | _ => b.foster token

/-- Puts the text that was held back: into the table if it is white space, else in front. -/
def putPending (b : Builder) : Builder :=
  let text := b.pending.reverse
  let b := { b with pending := [] }
  if text.all Text.isAsciiWhite then text.foldl putChar b
  else { text.foldl charInBody { b with fostering := true } with fostering := false }

def stepInTableText (b : Builder) (token : Token) : Outcome :=
  match token with
  | .null => .done b
  | .char c => .done { b with pending := c :: b.pending }
  | _ => .again (b.putPending.go b.savedMode)

def closeCaption (b : Builder) : Builder :=
  ((b.closeImplied Opened.mayEnd).close (·.is "caption")).dropToMark.go .inTable

def endCaption (b : Builder) : Outcome :=
  if b.reachesInTable "caption" then .again b.closeCaption else .done b

def stepInCaption (b : Builder) (token : Token) : Outcome :=
  match token with
  | .startTag tag =>
    if tablePartTags.contains tag.name then b.endCaption else b.stepInBody token
  | .endTag tag =>
    if tag = "caption" then .done (if b.reachesInTable tag then b.closeCaption else b)
    else if tag = "table" then b.endCaption
    else if tag = "body" ∨ tag = "html" ∨ tablePartTags.contains tag then .done b
    else b.stepInBody token
  | _ => b.stepInBody token

def closeColumnGroup? (b : Builder) : Option Builder :=
  if b.isIn (·.is "colgroup") then some (b.pop.go .inTable) else none

def endColumnGroup (b : Builder) : Outcome :=
  match b.closeColumnGroup? with
  | some b => .again b
  | none => .done b

def stepInColumnGroup (b : Builder) (token : Token) : Outcome :=
  match token with
  | .comment content => .done (b.putComment content)
  | .startTag tag =>
    if tag.name = "html" then .done b
    else if tag.name = "col" then .done (b.add tag.name)
    else if tag.name = "template" then .done (b.startInHead tag.name)
    else b.endColumnGroup
  | .endTag tag =>
    if tag = "colgroup" then .done (b.closeColumnGroup?.getD b)
    else if tag = "col" then .done b
    else if tag = "template" then .done b.endTemplate
    else b.endColumnGroup
  | .endOfPage => b.stepInBody token
  | .char c => if token.isWhite then .done (b.putChar c) else b.endColumnGroup
  | _ => b.endColumnGroup

def closeRowGroup (b : Builder) : Builder := b.toRowGroup.pop.go .inTable

def endRowGroup (b : Builder) : Outcome :=
  if inReach Opened.isTableBarrier (·.isOneOf ["table", "tbody", "tfoot"]) b.opened then
    .again b.closeRowGroup
  else .done b

def stepInTableBody (b : Builder) (token : Token) : Outcome :=
  match token with
  | .startTag tag =>
    if tag.name = "tr" then .done ((b.toRowGroup.insert tag.name).go .inRow)
    else if tag.name = "th" ∨ tag.name = "td" then
      .again ((b.toRowGroup.insert "tr").go .inRow)
    else if tablePartTags.contains tag.name then b.endRowGroup
    else b.stepInTable token
  | .endTag tag =>
    if ["tbody", "tfoot", "thead"].contains tag then
      .done (if b.reachesInTable tag then b.closeRowGroup else b)
    else if tag = "table" then b.endRowGroup
    else if tag = "body" ∨ tag = "html" ∨ tablePartTags.contains tag then .done b
    else b.stepInTable token
  | _ => b.stepInTable token

def closeRow (b : Builder) : Builder := b.toRow.pop.go .inTableBody

def endRow (b : Builder) : Outcome :=
  if b.reachesInTable "tr" then .again b.closeRow else .done b

def stepInRow (b : Builder) (token : Token) : Outcome :=
  match token with
  | .startTag tag =>
    if tag.name = "th" ∨ tag.name = "td" then
      .done ((b.toRow.insert tag.name).go .inCell).mark
    else if tablePartTags.contains tag.name then b.endRow
    else b.stepInTable token
  | .endTag tag =>
    if tag = "tr" then .done (if b.reachesInTable tag then b.closeRow else b)
    else if tag = "table" then b.endRow
    else if ["tbody", "tfoot", "thead"].contains tag then
      if b.reachesInTable tag then b.endRow else .done b
    else if tag = "body" ∨ tag = "html" ∨ tablePartTags.contains tag then .done b
    else b.stepInTable token
  | _ => b.stepInTable token

def closeCell (b : Builder) : Builder :=
  ((b.closeImplied Opened.mayEnd).close Opened.isCell).dropToMark.go .inRow

def stepInCell (b : Builder) (token : Token) : Outcome :=
  match token with
  | .startTag tag =>
    if tablePartTags.contains tag.name then
      if inReach Opened.isTableBarrier Opened.isCell b.opened then .again b.closeCell
      else .done b
    else b.stepInBody token
  | .endTag tag =>
    if tag = "td" ∨ tag = "th" then
      if b.reachesInTable tag then
        .done (((b.closeImplied Opened.mayEnd).close (·.is tag)).dropToMark.go .inRow)
      else .done b
    else if ["table", "tbody", "tfoot", "thead", "tr"].contains tag then
      if b.reachesInTable tag then .again b.closeCell else .done b
    else if tag = "body" ∨ tag = "html" ∨ tablePartTags.contains tag then .done b
    else b.stepInBody token
  | _ => b.stepInBody token

end Builder
end CycleTable.Html

/-! ## Selections

Inside a selection only options and their groups have a place. A tag of a table around it
closes it.
-/
namespace CycleTable.Html.Builder

def closeSelect (b : Builder) : Builder := (b.close (·.is "select")).resetMode

def reachesSelect (b : Builder) : Bool :=
  inReach Opened.isSelectBarrier (·.is "select") b.opened

def popIf (b : Builder) (tag : String) : Builder := if b.isIn (·.is tag) then b.pop else b

def startInSelect (b : Builder) (tag : String) : Outcome :=
  if tag = "option" then .done ((b.popIf "option").insert tag)
  else if tag = "optgroup" then .done (((b.popIf "option").popIf "optgroup").insert tag)
  else if tag = "select" then .done (if b.reachesSelect then b.closeSelect else b)
  else if ["input", "keygen", "textarea"].contains tag then
    if b.reachesSelect then .again b.closeSelect else .done b
  else if tag = "script" ∨ tag = "template" then .done (b.startInHead tag)
  else .done b

def endInSelect (b : Builder) (tag : String) : Outcome :=
  if tag = "optgroup" then
    let b := if (b.opened[1]?).any (·.is "optgroup") then b.popIf "option" else b
    .done (b.popIf "optgroup")
  else if tag = "option" then .done (b.popIf "option")
  else if tag = "select" then .done (if b.reachesSelect then b.closeSelect else b)
  else if tag = "template" then .done b.endTemplate
  else .done b

def stepInSelect (b : Builder) (token : Token) : Outcome :=
  match token with
  | .char c => .done (b.putChar c)
  | .comment content => .done (b.putComment content)
  | .startTag tag => b.startInSelect tag.name
  | .endTag tag => b.endInSelect tag
  | .endOfPage => b.stepInBody token
  | _ => .done b

def selectEndingTags : List String :=
  ["caption", "table", "tbody", "tfoot", "thead", "tr", "td", "th"]

def stepInSelectInTable (b : Builder) (token : Token) : Outcome :=
  match token with
  | .startTag tag =>
    if selectEndingTags.contains tag.name then .again b.closeSelect else b.stepInSelect token
  | .endTag tag =>
    if selectEndingTags.contains tag then
      if b.reachesInTable tag then .again b.closeSelect else .done b
    else b.stepInSelect token
  | _ => b.stepInSelect token

end CycleTable.Html.Builder
