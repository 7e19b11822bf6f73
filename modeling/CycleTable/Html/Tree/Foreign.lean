import CycleTable.Html.Tree.Table

/-! # Templates, frames, graphics and the end of a page

A template takes the mode that its first element calls for. Behind the body and around frames
hardly anything has a place; what belongs into the body leads back to it. Inside graphics a token
is taken by rules of their own, and else by the mode that the builder is in.
-/
namespace CycleTable.Html.Builder

def templateMode (tag : String) : Mode :=
  if ["caption", "colgroup", "tbody", "tfoot", "thead"].contains tag then .inTable
  else if tag = "col" then .inColumnGroup
  else if tag = "tr" then .inTableBody
  else if tag = "td" ∨ tag = "th" then .inRow
  else .inBody

def stepInTemplate (b : Builder) (token : Token) : Outcome :=
  match token with
  | .char _ => b.stepInBody token
  | .comment _ => b.stepInBody token
  | .startTag tag =>
    if headTags.contains tag.name then .done (b.startInHead tag.name)
    else
      let mode := templateMode tag.name
      .again { b with templateModes := mode :: b.templateModes.drop 1, mode := mode }
  | .endTag tag => .done (if tag = "template" then b.endTemplate else b)
  | .endOfPage => b.endPageInTemplate
  | _ => .done b

def outermost (b : Builder) : NodeId := (b.opened.getLast?.map Opened.id).getD Dom.root

def stepAfterBody (b : Builder) (token : Token) : Outcome :=
  match token with
  | .comment content => .done (b.putCommentAt content (.inside b.outermost))
  | .startTag tag => if tag.name = "html" then .done b else .again (b.go .inBody)
  | .endTag tag => if tag = "html" then .done (b.go .afterAfterBody) else .again (b.go .inBody)
  | .endOfPage => .done b
  | _ => if token.isWhite then b.stepInBody token else .again (b.go .inBody)

def stepAfterAfterBody (b : Builder) (token : Token) : Outcome :=
  match token with
  | .comment content => .done (b.putCommentAt content (.inside Dom.root))
  | .startTag tag => if tag.name = "html" then .done b else .again (b.go .inBody)
  | .endOfPage => .done b
  | _ => if token.isWhite then b.stepInBody token else .again (b.go .inBody)

def stepInFrameset (b : Builder) (token : Token) : Outcome :=
  match token with
  | .char c => .done (if token.isWhite then b.putChar c else b)
  | .comment content => .done (b.putComment content)
  | .startTag tag =>
    .done <|
      if tag.name = "frameset" then b.insert tag.name
      else if tag.name = "frame" then b.add tag.name
      else if tag.name = "noframes" then b.startInHead tag.name
      else b
  | .endTag tag =>
    if tag = "frameset" ∧ b.opened.length ≠ 1 then
      let b := b.pop
      .done (if b.isIn (·.is "frameset") then b else b.go .afterFrameset)
    else .done b
  | _ => .done b

def stepAfterFrameset (b : Builder) (token : Token) : Outcome :=
  .done <|
    match token with
    | .char c => if token.isWhite then b.putChar c else b
    | .comment content => b.putComment content
    | .startTag tag =>
      if tag.name = "noframes" then b.startInHead tag.name else b
    | .endTag tag => if tag = "html" then b.go .afterAfterFrameset else b
    | _ => b

def stepAfterAfterFrameset (b : Builder) (token : Token) : Outcome :=
  match token with
  | .comment content => .done (b.putCommentAt content (.inside Dom.root))
  | .startTag tag =>
    .done (if tag.name = "noframes" then b.startInHead tag.name else b)
  | _ => if token.isWhite then b.stepInBody token else .done b

def stepInMode (b : Builder) (token : Token) : Outcome :=
  match b.mode with
  | .initial => b.stepInitial token
  | .beforeHtml => b.stepBeforeHtml token
  | .beforeHead => b.stepBeforeHead token
  | .inHead => b.stepInHead token
  | .afterHead => b.stepAfterHead token
  | .inBody => b.stepInBody token
  | .text => b.stepText token
  | .inTable => b.stepInTable token
  | .inTableText => b.stepInTableText token
  | .inCaption => b.stepInCaption token
  | .inColumnGroup => b.stepInColumnGroup token
  | .inTableBody => b.stepInTableBody token
  | .inRow => b.stepInRow token
  | .inCell => b.stepInCell token
  | .inSelect => b.stepInSelect token
  | .inSelectInTable => b.stepInSelectInTable token
  | .inTemplate => b.stepInTemplate token
  | .afterBody => b.stepAfterBody token
  | .inFrameset => b.stepInFrameset token
  | .afterFrameset => b.stepAfterFrameset token
  | .afterAfterBody => b.stepAfterAfterBody token
  | .afterAfterFrameset => b.stepAfterAfterFrameset token

/-! ## Graphics and mathematics in a page

Inside graphics and mathematics tags open elements of the same kind. A start tag that can only
belong to ordinary text leaves them; an end tag that closes none of them is taken as if they were
ordinary elements, and leaves them open.
-/

def leavingTags : List String :=
  ["b", "big", "blockquote", "body", "br", "center", "code", "dd", "div", "dl", "dt", "em",
    "embed", "h1", "h2", "h3", "h4", "h5", "h6", "head", "hr", "i", "img", "li", "listing", "menu",
    "meta", "nobr", "ol", "p", "pre", "ruby", "s", "small", "span", "strong", "strike", "sub",
    "sup", "table", "tt", "u", "ul", "var"]

def leavesForeign (tag : Tag) : Bool :=
  leavingTags.contains tag.name ||
    (tag.name == "font" && ["color", "face", "size"].any fun a => (tag.value? a).isSome)

def graphicsTags : List String :=
  ["altGlyph", "altGlyphDef", "altGlyphItem", "animateColor", "animateMotion",
    "animateTransform", "clipPath", "feBlend", "feColorMatrix", "feComponentTransfer",
    "feComposite", "feConvolveMatrix", "feDiffuseLighting", "feDisplacementMap",
    "feDistantLight", "feDropShadow", "feFlood", "feFuncA", "feFuncB", "feFuncG", "feFuncR",
    "feGaussianBlur", "feImage", "feMerge", "feMergeNode", "feMorphology", "feOffset",
    "fePointLight", "feSpecularLighting", "feSpotLight", "feTile", "feTurbulence",
    "foreignObject", "glyphRef", "linearGradient", "radialGradient", "textPath"]

def graphicsTag (name : String) : String :=
  (graphicsTags.find? fun t => lowerAll t.toList == name.toList).getD name

def isForeign (b : Builder) (token : Token) : Bool :=
  match b.opened with
  | [] => false
  | e :: _ =>
    e.vocabulary ≠ .html &&
      match token with
      | .endOfPage => false
      | .char _ | .null => !e.holdsMathText && !e.holdsElements
      | .startTag tag =>
        !e.holdsElements &&
          !(e.holdsMathText && tag.name != "mglyph" && tag.name != "malignmark") &&
          !(e.vocabulary = .mathml && e.tag == "annotation-xml" && tag.name == "svg")
      | _ => true

def leaveForeign (b : Builder) (token : Token) : Outcome :=
  (b.closeTo fun e => e.vocabulary = .html || e.holdsMathText || e.holdsElements).stepInMode
    token

def startSame (b : Builder) (tag : Tag) : Builder :=
  match b.opened with
  | [] => b
  | e :: _ =>
    let name := if e.vocabulary = .svg then graphicsTag tag.name else tag.name
    b.startForeign e.vocabulary name tag.selfClosing

/-- Takes an end tag in graphics or mathematics: it closes an element of that name, in any case,
unless an ordinary element comes first. The outermost element is never closed. -/
def endForeign (b : Builder) (tag : String) (isFirst : Bool) : List Opened → Outcome
  | [] => .done b
  | [_] => .done b
  | e :: around =>
    if !isFirst && e.vocabulary = .html then b.stepInMode (.endTag tag)
    else if lowerAll e.tag.toList = tag.toList then .done { b with opened := around }
    else endForeign b tag false around

def stepForeign (b : Builder) (token : Token) : Outcome :=
  match token with
  | .null => .done (b.putChar replacement)
  | .char c => .done ((if token.isWhite then b else b.noFrames).putChar c)
  | .comment content => .done (b.putComment content)
  | .startTag tag =>
    if leavesForeign tag then b.leaveForeign token else .done (b.startSame tag)
  | .endTag tag => b.endForeign tag true b.opened
  | _ => .done b

def step (b : Builder) (token : Token) : Outcome :=
  if b.isForeign token then b.stepForeign token else b.stepInMode token

def settle (token : Token) : Nat → Outcome → Builder
  | _, .done b => b
  | 0, .again b => b
  | n + 1, .again b => settle token n (b.step token)

/-- Takes one token of the page. A token is taken again only behind a mode or an element that it
ends, so that the modes and the open elements bound how often. -/
def take (b : Builder) (token : Token) : Builder :=
  let dropped := b.dropLineFeed && token == .char '\n'
  let b := { b with dropLineFeed := false }
  match token with
  | .flaw => b
  | .doctype legacy =>
    if b.mode = .initial then { b with legacy := legacy, mode := .beforeHtml } else b
  | _ =>
    if dropped then b
    else
      match b.step token with
      | .done b => b
      | .again b => settle token (32 + 4 * b.opened.length) (.again b)

end CycleTable.Html.Builder
