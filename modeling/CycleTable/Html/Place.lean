import CycleTable.Html.Reference
import CycleTable.Html.Token

/-! # Reading the markup of a page

A page is read one character after the other, and each step gives the tokens that it ends. What
a character means depends on where in the markup the reader is. A place holds what has been read
of the tag, the comment or the reference it is in; lists of characters hold the last one first.
The ends of lines in a document type are held as they are written.
-/
namespace CycleTable.Html

inductive RawText where
  | rcdata
  | rawtext
  | script
  /-- a script behind the start of a comment -/
  | escaped
  /-- a script inside a script inside a comment -/
  | doubleEscaped
  deriving DecidableEq, Repr

inductive Quote where
  | double
  | single
  | none
  deriving DecidableEq, Repr

structure OpenTag where
  closing : Bool
  name : List Char
  attributes : List Attribute
  deriving DecidableEq, Repr

namespace OpenTag

def add (tag : OpenTag) (name value : List Char) : OpenTag :=
  let new : Attribute := ⟨String.ofList name.reverse, String.ofList value.reverse⟩
  if tag.attributes.any (fun a => a.name == new.name) then tag
  else { tag with attributes := new :: tag.attributes }

def token (tag : OpenTag) (selfClosing : Bool) : Token :=
  let name := String.ofList tag.name.reverse
  if tag.closing then .endTag name else .startTag ⟨name, tag.attributes.reverse, selfClosing⟩

end OpenTag

inductive ReferencePlace where
  | data
  | rcdata
  | value (tag : OpenTag) (name : List Char) (quote : Quote) (value : List Char)

inductive Place where
  | data
  | plaintext
  | raw (kind : RawText)
  | reference (r : Reference) (place : ReferencePlace)
  | tagOpen
  | endTagOpen
  | tagName (tag : OpenTag)
  | beforeAttribute (tag : OpenTag)
  | attributeName (tag : OpenTag) (name : List Char)
  | afterAttributeName (tag : OpenTag) (name : List Char)
  | beforeValue (tag : OpenTag) (name : List Char)
  /-- in front of a value, with the next character passed over -/
  | beforeValueBut (tag : OpenTag) (name : List Char)
  | value (tag : OpenTag) (name : List Char) (quote : Quote) (value : List Char)
  | afterValue (tag : OpenTag)
  | slash (tag : OpenTag)
  | rawTagOpen (kind : RawText)
  | rawEndTagOpen (kind : RawText)
  | rawEndTagName (kind : RawText) (name : List Char)
  /-- behind the exclamation mark that starts a comment in a script, or behind its first dash -/
  | escapeStart (dash : Bool)
  | escapedDash (kind : RawText)
  | escapedDashes (kind : RawText)
  | doubleEscapeStart (name : List Char)
  | doubleEscapeEnd (name : List Char)
  /-- behind a less-than sign and an exclamation mark -/
  | declaration (read : List Char)
  | bogusComment (content : List Char)
  | commentStart
  | commentStartDash
  | comment (content : List Char)
  | commentDash (content : List Char)
  | commentDashes (content : List Char)
  | commentBang (content : List Char)
  | doctype (content : List Char)
  | cdata
  | cdataBracket
  | cdataBrackets

namespace ReferencePlace

def place : ReferencePlace → Place
  | .data => .data
  | .rcdata => .raw .rcdata
  | .value tag name quote read => .value tag name quote read

def inAttribute : ReferencePlace → Bool
  | .value .. => true
  | _ => false

def put (text : List Char) : ReferencePlace → ReferencePlace × List Token
  | .value tag name quote read => (.value tag name quote (text.reverse ++ read), [])
  | place => (place, text.map .char)

end ReferencePlace
end CycleTable.Html

/-! ## Reading tokens

The markup of a page is read one character at a time. A step leads from a place and a character
to the next place and the tokens that are complete. Where a character only shows that
something else is over, the step is that of the surrounding place.

A carriage return is read as a line feed, and a line feed right behind it belongs to it and is
skipped. Where what comes next has been looked at before, this goes wrong by one character: the
line feed in front of a value takes the character behind it along, and a carriage return can be
lost behind a reference.
-/
namespace CycleTable.Html.Place

abbrev Step := Place × List Token

def after (cs : List Char) (step : Step) : Step := (step.1, cs.map Token.char ++ step.2)

def give (place : Place) (c : Char) : Step := (place, [.char c])

def finish (tag : OpenTag) (selfClosing : Bool) : Step := (.data, [tag.token selfClosing])

def finishComment (content : List Char) : Step :=
  (.data, [.comment (String.ofList content.reverse)])

def readData (c : Char) : Step :=
  if c = '&' then (.reference .opened .data, [])
  else if c = '<' then (.tagOpen, [])
  else if c = '\x00' then (.data, [.null])
  else give .data c

def readRaw (kind : RawText) (c : Char) : Step :=
  if c = '\x00' then give (.raw kind) replacement
  else if c = '<' then
    if kind = .doubleEscaped then give (.rawTagOpen kind) c else (.rawTagOpen kind, [])
  else if c = '&' ∧ kind = .rcdata then (.reference .opened .rcdata, [])
  else if c = '-' ∧ (kind = .escaped ∨ kind = .doubleEscaped) then give (.escapedDash kind) c
  else give (.raw kind) c

def readBogusComment (content : List Char) (c : Char) : Step :=
  if c = '>' then finishComment content else (.bogusComment (withoutNull c :: content), [])

def readTagOpen (c : Char) : Step :=
  if c = '!' then (.declaration [], [])
  else if c = '/' then (.endTagOpen, [])
  else if c = '?' then (.bogusComment [c], [])
  else if isLetter c then (.tagName ⟨false, [lower c], []⟩, [])
  else after ['<'] (readData c)

def readEndTagOpen (c : Char) : Step :=
  if isLetter c then (.tagName ⟨true, [lower c], []⟩, [])
  else if c = '>' then (.data, [.flaw])
  else readBogusComment [] c

def readTagName (tag : OpenTag) (c : Char) : Step :=
  if Text.isAsciiWhite c then (.beforeAttribute tag, [])
  else if c = '/' then (.slash tag, [])
  else if c = '>' then finish tag false
  else (.tagName { tag with name := withoutNull (lower c) :: tag.name }, [])

def readBeforeAttribute (tag : OpenTag) (c : Char) : Step :=
  if Text.isAsciiWhite c then (.beforeAttribute tag, [])
  else if c = '/' then (.slash tag, [])
  else if c = '>' then finish tag false
  else (.attributeName tag [withoutNull (lower c)], [])

def readAttributeName (tag : OpenTag) (name : List Char) (c : Char) : Step :=
  if Text.isAsciiWhite c then (.afterAttributeName tag name, [])
  else if c = '/' then (.slash (tag.add name []), [])
  else if c = '=' then (.beforeValue tag name, [])
  else if c = '>' then finish (tag.add name []) false
  else (.attributeName tag (withoutNull (lower c) :: name), [])

def readAfterAttributeName (tag : OpenTag) (name : List Char) (c : Char) : Step :=
  if c = '=' then (.beforeValue tag name, [])
  else if Text.isAsciiWhite c then (.afterAttributeName tag name, [])
  else readBeforeAttribute (tag.add name []) c

def readValue (tag : OpenTag) (name : List Char) (quote : Quote) (value : List Char) (c : Char) :
    Step :=
  match quote, c with
  | _, '&' => (.reference .opened (.value tag name quote value), [])
  | .double, '"' => (.afterValue (tag.add name value), [])
  | .single, '\'' => (.afterValue (tag.add name value), [])
  | .none, '>' => finish (tag.add name value) false
  | _, _ =>
    if quote = .none ∧ Text.isAsciiWhite c then (.beforeAttribute (tag.add name value), [])
    else (.value tag name quote (withoutNull c :: value), [])

def readBeforeValue (tag : OpenTag) (name : List Char) (c : Char) : Step :=
  if Text.isAsciiWhite c then (.beforeValue tag name, [])
  else if c = '"' then (.value tag name .double [], [])
  else if c = '\'' then (.value tag name .single [], [])
  else readValue tag name .none [] c

def readSlash (tag : OpenTag) (c : Char) : Step :=
  if c = '>' then finish tag true else readBeforeAttribute tag c

def readRawTagOpen (kind : RawText) (c : Char) : Step :=
  match kind, c with
  | .doubleEscaped, '/' => give (.doubleEscapeEnd []) c
  | .doubleEscaped, _ => readRaw kind c
  | _, '/' => (.rawEndTagOpen kind, [])
  | .script, '!' => (.escapeStart false, [.char '<', .char '!'])
  | _, _ =>
    if kind = .escaped ∧ isLetter c then
      (.doubleEscapeStart [lower c], [.char '<', .char c])
    else after ['<'] (readRaw kind c)

def readRawEndTagOpen (kind : RawText) (c : Char) : Step :=
  if isLetter c then (.rawEndTagName kind [c], []) else after ['<', '/'] (readRaw kind c)

/-- A name behind a less-than sign and a slash in raw text. Only the name of the element that the
text is in makes it an end tag. -/
def readRawEndTagName (element : String) (kind : RawText) (name : List Char) (c : Char) : Step :=
  let tag : OpenTag := ⟨true, lowerAll name, []⟩
  let matching := String.ofList tag.name.reverse = element
  if matching ∧ (Text.isAsciiWhite c ∨ c = '/' ∨ c = '>') then readTagName tag c
  else if isLetter c then (.rawEndTagName kind (c :: name), [])
  else after (['<', '/'] ++ name.reverse) (readRaw kind c)

def readEscapeStart (dash : Bool) (c : Char) : Step :=
  if c = '-' then give (if dash then .escapedDashes .escaped else .escapeStart true) c
  else readRaw .script c

def readEscapedDash (kind : RawText) (c : Char) : Step :=
  if c = '-' then give (.escapedDashes kind) c else readRaw kind c

def readEscapedDashes (kind : RawText) (c : Char) : Step :=
  if c = '-' then give (.escapedDashes kind) c
  else if c = '>' then give (.raw .script) c
  else readRaw kind c

/-- The name of a tag in the comment of a script. The name of a script leads from `here` to
`there`. -/
def readScriptName (here there : RawText) (going : List Char → Place) (name : List Char)
    (c : Char) : Step :=
  if Text.isAsciiWhite c ∨ c = '/' ∨ c = '>' then
    give (.raw (if name.reverse = "script".toList then there else here)) c
  else if isLetter c then give (going (lower c :: name)) c
  else readRaw here c

/-- Behind a less-than sign and an exclamation mark. Raw character sections count only in
`foreign` elements. -/
def readDeclaration (foreign : Bool) (read : List Char) (c : Char) : Step :=
  let text := (c :: read).reverse
  if text = "--".toList then (.commentStart, [])
  else if lowerAll text = "doctype".toList then (.doctype [], [])
  else if foreign ∧ text = "[CDATA[".toList then (.cdata, [])
  else if text.isPrefixOf "--".toList ∨ (lowerAll text).isPrefixOf "doctype".toList ∨
      (foreign ∧ text.isPrefixOf "[CDATA[".toList) then (.declaration (c :: read), [])
  else readBogusComment read c

def readComment (content : List Char) (c : Char) : Step :=
  if c = '-' then (.commentDash content, []) else (.comment (withoutNull c :: content), [])

/-- The start of a comment, perhaps behind one dash. A greater-than sign ends it at once. -/
def readCommentStart (dash : Bool) (c : Char) : Step :=
  if c = '>' then finishComment []
  else if c = '-' then (if dash then .commentDashes [] else .commentStartDash, [])
  else readComment (if dash then ['-'] else []) c

def readCommentDash (content : List Char) (c : Char) : Step :=
  if c = '-' then (.commentDashes content, []) else readComment ('-' :: content) c

def readCommentDashes (content : List Char) (c : Char) : Step :=
  if c = '>' then finishComment content
  else if c = '!' then (.commentBang content, [])
  else if c = '-' then (.commentDashes ('-' :: content), [])
  else readComment ('-' :: '-' :: content) c

def readCommentBang (content : List Char) (c : Char) : Step :=
  if c = '>' then finishComment content
  else readComment ('!' :: '-' :: '-' :: content) c

/-- A document type. It ends at the first greater-than sign, even inside quotes. -/
def readDoctype (content : List Char) (c : Char) : Step :=
  if c = '>' then (.data, [.doctype (Doctype.isLegacy content.reverse)])
  else (.doctype (withoutNull c :: content), [])

def readCdata (c : Char) : Step :=
  if c = ']' then (.cdataBracket, [])
  else if c = '\x00' then (.cdata, [.null])
  else give .cdata c

def readCdataBracket (c : Char) : Step :=
  if c = ']' then (.cdataBrackets, []) else after [']'] (readCdata c)

def readCdataBrackets (c : Char) : Step :=
  if c = ']' then give .cdataBrackets c
  else if c = '>' then (.data, [])
  else after [']', ']'] (readCdata c)

def readReferencePlace (c : Char) : ReferencePlace → Step
  | .data => readData c
  | .rcdata => readRaw .rcdata c
  | .value tag name quote content => readValue tag name quote content c

/-- A character reference. A character that ends it without being part of it is read `behind`. -/
def readReference (behind : Char → ReferencePlace → Step) (r : Reference) (place : ReferencePlace)
    (c : Char) : Step :=
  match r.feed place.inAttribute c with
  | .reading r => (.reference r place, [])
  | .over text flawed again =>
    let (place, tokens) := place.put text
    let step := if again then behind c place else (place.place, [])
    (step.1, (if flawed then [Token.flaw] else []) ++ tokens ++ step.2)

def read (foreign : Bool) (element : String) (c : Char) : Place → Step
  | .data => readData c
  | .plaintext => give .plaintext (withoutNull c)
  | .raw kind => readRaw kind c
  | .reference r place => readReference readReferencePlace r place c
  | .tagOpen => readTagOpen c
  | .endTagOpen => readEndTagOpen c
  | .tagName tag => readTagName tag c
  | .beforeAttribute tag => readBeforeAttribute tag c
  | .attributeName tag name => readAttributeName tag name c
  | .afterAttributeName tag name => readAfterAttributeName tag name c
  | .beforeValue tag name => readBeforeValue tag name c
  | .beforeValueBut tag name => (.beforeValue tag name, [])
  | .value tag name quote content => readValue tag name quote content c
  | .afterValue tag =>
    if Text.isAsciiWhite c then (.beforeAttribute tag, []) else readBeforeAttribute tag c
  | .slash tag => readSlash tag c
  | .rawTagOpen kind => readRawTagOpen kind c
  | .rawEndTagOpen kind => readRawEndTagOpen kind c
  | .rawEndTagName kind name => readRawEndTagName element kind name c
  | .escapeStart dash => readEscapeStart dash c
  | .escapedDash kind => readEscapedDash kind c
  | .escapedDashes kind => readEscapedDashes kind c
  | .doubleEscapeStart name =>
    readScriptName .escaped .doubleEscaped .doubleEscapeStart name c
  | .doubleEscapeEnd name =>
    readScriptName .doubleEscaped .escaped .doubleEscapeEnd name c
  | .declaration text => readDeclaration foreign text c
  | .bogusComment content => readBogusComment content c
  | .commentStart => readCommentStart false c
  | .commentStartDash => readCommentStart true c
  | .comment content => readComment content c
  | .commentDash content => readCommentDash content c
  | .commentDashes content => readCommentDashes content c
  | .commentBang content => readCommentBang content c
  | .doctype content => readDoctype content c
  | .cdata => readCdata c
  | .cdataBracket => readCdataBracket c
  | .cdataBrackets => readCdataBrackets c

/-- Reads a carriage return, and tells whether a line feed right behind it belongs to it. -/
def readReturn (foreign : Bool) (element : String) (place : Place) : Step × Bool :=
  match place with
  | .doctype content => ((.doctype ('\r' :: content), []), true)
  | .reference r place =>
    let behind := fun c (place : ReferencePlace) =>
      if r.losesReturn then (place.place, []) else readReferencePlace c place
    (readReference behind r place '\n', !r.isNamed)
  | place => (read foreign element '\n' place, true)

def skipLineFeed : Place → Place
  | .doctype content => .doctype ('\n' :: content)
  | .beforeValue tag name => .beforeValueBut tag name
  | place => place

/-- The tokens that the end of the page completes. A tag that has not ended is lost. -/
def atEnd : Place → List Token
  | .reference r place =>
    let (text, flawed) := r.finish place.inAttribute
    (if flawed then [.flaw] else []) ++ (place.put text).2
  | .tagOpen => [.char '<']
  | .endTagOpen => [.char '<', .char '/']
  | .rawTagOpen kind => if kind = .doubleEscaped then [] else [.char '<']
  | .rawEndTagOpen _ => [.char '<', .char '/']
  | .rawEndTagName _ name => .char '<' :: .char '/' :: name.reverse.map .char
  | .declaration content | .bogusComment content | .comment content | .commentDash content
  | .commentDashes content | .commentBang content => (finishComment content).2
  | .commentStart | .commentStartDash => (finishComment []).2
  | .doctype _ => [.doctype true]
  | .cdataBracket => [.char ']']
  | .cdataBrackets => [.char ']', .char ']']
  | _ => []

end CycleTable.Html.Place
