import CycleTable.Html.Tree.Format
import CycleTable.Text.White

/-! # The start of a page

Up to the body, elements that a page leaves out are added as soon as something needs them.
-/
namespace CycleTable.Html

def Token.isWhite : Token → Bool
  | .char c => Text.isAsciiWhite c
  | _ => false

namespace Builder

def headVoidTags : List String := ["base", "basefont", "bgsound", "link", "meta"]

def headTags : List String :=
  headVoidTags ++ ["noframes", "script", "style", "template", "title"]

/-- End tags that stand for the content they would end. -/
def impliesContent (tag : String) : Bool := ["body", "html", "br"].contains tag

def openHtml (b : Builder) : Builder := (b.insert "html").go .beforeHead

def openHead (b : Builder) : Builder :=
  let (head, b) := b.insertIn .html "head"
  { b with head := some head, mode := .inHead }

def openBody (b : Builder) : Builder := (b.insert "body").go .inBody

def leaveTemplate (b : Builder) : Builder :=
  let b := (b.close (·.is "template")).dropToMark
  { b with templateModes := b.templateModes.drop 1 }.resetMode

def endTemplate (b : Builder) : Builder :=
  if b.inTemplate then (b.closeImplied Opened.mayEndInTemplate).leaveTemplate else b

def stepInitial (b : Builder) (token : Token) : Outcome :=
  match token with
  | .comment content => .done (b.putCommentAt content (.inside Dom.root))
  | _ =>
    if token.isWhite then .done b else .again { b with legacy := true, mode := .beforeHtml }

def stepBeforeHtml (b : Builder) (token : Token) : Outcome :=
  match token with
  | .comment content => .done (b.putCommentAt content (.inside Dom.root))
  | .startTag tag => if tag.name = "html" then .done b.openHtml else .again b.openHtml
  | .endTag tag => if impliesContent tag ∨ tag = "head" then .again b.openHtml else .done b
  | _ => if token.isWhite then .done b else .again b.openHtml

def stepBeforeHead (b : Builder) (token : Token) : Outcome :=
  match token with
  | .comment content => .done (b.putComment content)
  | .startTag tag =>
    if tag.name = "html" then .done b
    else if tag.name = "head" then .done b.openHead
    else .again b.openHead
  | .endTag tag => if impliesContent tag ∨ tag = "head" then .again b.openHead else .done b
  | _ => if token.isWhite then .done b else .again b.openHead

def startInHead (b : Builder) (tag : String) : Builder :=
  if headVoidTags.contains tag then b.add tag
  else if tag = "title" then (b.insert tag).readRaw .rcdata
  else if tag = "script" then (b.insert tag).readRaw .script
  else if tag = "template" then
    let b := (b.insert tag).mark.noFrames.go .inTemplate
    { b with templateModes := .inTemplate :: b.templateModes }
  else (b.insert tag).readRaw .rawtext

def closeHead (b : Builder) : Builder := b.pop.go .afterHead

def stepInHead (b : Builder) (token : Token) : Outcome :=
  match token with
  | .comment content => .done (b.putComment content)
  | .startTag tag =>
    if headTags.contains tag.name ∨ tag.name = "noscript" then .done (b.startInHead tag.name)
    else if tag.name = "html" ∨ tag.name = "head" then .done b
    else .again b.closeHead
  | .endTag tag =>
    if tag = "head" then .done b.closeHead
    else if tag = "template" then .done b.endTemplate
    else if impliesContent tag then .again b.closeHead
    else .done b
  | .char c => if token.isWhite then .done (b.putChar c) else .again b.closeHead
  | _ => .again b.closeHead

def startInLeftHead (b : Builder) (tag : String) : Builder :=
  match b.head with
  | some head => ({ b with opened := head :: b.opened }.startInHead tag).forget head.id
  | none => b.startInHead tag

def stepAfterHead (b : Builder) (token : Token) : Outcome :=
  match token with
  | .comment content => .done (b.putComment content)
  | .startTag tag =>
    if tag.name = "html" ∨ tag.name = "head" then .done b
    else if tag.name = "body" then .done b.openBody.noFrames
    else if tag.name = "frameset" then .done ((b.insert tag.name).go .inFrameset)
    else if headTags.contains tag.name then .done (b.startInLeftHead tag.name)
    else .again b.openBody
  | .endTag tag =>
    if tag = "template" then .done b.endTemplate
    else if impliesContent tag then .again b.openBody
    else .done b
  | .char c => if token.isWhite then .done (b.putChar c) else .again b.openBody
  | _ => .again b.openBody

def closeRaw (b : Builder) : Builder := b.pop.go b.savedMode

def stepText (b : Builder) (token : Token) : Outcome :=
  match token with
  | .char c => .done (b.putChar c)
  | .endTag _ => .done b.closeRaw
  | .endOfPage => .again b.closeRaw
  | _ => .done b

end Builder
end CycleTable.Html
