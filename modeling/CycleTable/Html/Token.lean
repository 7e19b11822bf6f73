import CycleTable.Text.White

/-! # Tokens of a page

The markup of a page is a sequence of tokens: tags, characters, comments and document types. It
ignores the case of ASCII letters and of no others.
-/
namespace CycleTable.Html

def isLetter (c : Char) : Bool :=
  (0x61 ≤ c.toNat && c.toNat ≤ 0x7a) || (0x41 ≤ c.toNat && c.toNat ≤ 0x5a)

def isAlphanumeric (c : Char) : Bool := isLetter c || (0x30 ≤ c.toNat && c.toNat ≤ 0x39)

def lower (c : Char) : Char :=
  if 0x41 ≤ c.toNat ∧ c.toNat ≤ 0x5a then Char.ofNat (c.toNat + 0x20) else c

def lowerAll (cs : List Char) : List Char := cs.map lower

def replacement : Char := Char.ofNat 0xfffd

def withoutNull (c : Char) : Char := if c = '\x00' then replacement else c

/-! ## Tags and tokens

A page is read as a sequence of tags, comments and characters. The names of tags and of
attributes are in lower case.
-/

structure Attribute where
  name : String
  value : String
  deriving DecidableEq, Repr

/-- A start tag. No two of its attributes have the same name. -/
structure Tag where
  name : String
  attributes : List Attribute
  selfClosing : Bool
  deriving DecidableEq, Repr

def Tag.value? (tag : Tag) (name : String) : Option String :=
  (tag.attributes.find? fun a => a.name == name).map Attribute.value

inductive Token where
  | doctype (legacy : Bool)
  | startTag (tag : Tag)
  | endTag (name : String)
  | comment (content : String)
  | char (c : Char)
  | null
  /-- A slip in the markup that gives nothing else. -/
  | flaw
  | endOfPage
  deriving DecidableEq, Repr

end CycleTable.Html

/-! ## Document types of legacy pages

The standard lists the identifiers of the document types that ask for the layout of old pages.
All are given in lower case; their case does not count. A public identifier is made of parts with
two slashes between them: a dash, the owner, the title, and what follows the title.
-/
namespace CycleTable.Html.Doctype

def beginning (owner title : String) : String := "//".intercalate ["-", owner, "dtd " ++ title, ""]

def legacyTitles : List (String × List String) :=
  [("advasoft ltd", ["html 3.0 aswedit + extensions"]),
    ("as", ["html 3.0 aswedit + extensions"]),
    ("ietf",
      ["html 2.0 level 1", "html 2.0 level 2", "html 2.0 strict level 1",
        "html 2.0 strict level 2", "html 2.0 strict", "html 2.0", "html 2.1e", "html 3.0",
        "html 3.2 final", "html 3.2", "html 3", "html level 0", "html level 1", "html level 2",
        "html level 3", "html strict level 0", "html strict level 1", "html strict level 2",
        "html strict level 3", "html strict", "html"]),
    ("metrius", ["metrius presentational"]),
    ("microsoft",
      ["internet explorer 2.0 html strict", "internet explorer 2.0 html",
        "internet explorer 2.0 tables", "internet explorer 3.0 html strict",
        "internet explorer 3.0 html", "internet explorer 3.0 tables"]),
    ("netscape comm. corp.", ["html", "strict html"]),
    ("o'reilly and associates", ["html 2.0", "html extended 1.0", "html extended relaxed 1.0"]),
    ("softquad software", ["hotmetal pro 6.0::19990601::extensions to html 4.0"]),
    ("softquad", ["hotmetal pro 4.0::19971010::extensions to html 4.0"]),
    ("spyglass", ["html 2.0 extended"]),
    ("sq", ["html 2.0 hotmetal + extensions"]),
    ("sun microsystems corp.", ["hotjava html", "hotjava strict html"]),
    ("w3c",
      ["html 3 1995-03-24", "html 3.2 draft", "html 3.2 final", "html 3.2", "html 3.2s draft",
        "html 4.0 frameset", "html 4.0 transitional", "html experimental 19960712",
        "html experimental 970421", "w3 html"]),
    ("w3o", ["w3 html 3.0"]),
    ("webtechs", ["mozilla html 2.0", "mozilla html"])]

def legacyBeginnings : List String :=
  "//".intercalate ["+", "silmaril", "dtd html pro v0r11 19970101", ""] ::
    legacyTitles.flatMap fun (owner, titles) => titles.map (beginning owner)

/-- How the public identifiers begin that are legacy ones unless a system identifier follows. -/
def halfLegacyBeginnings : List String :=
  ["html 4.01 frameset", "html 4.01 transitional"].map (beginning "w3c")

def legacyPublicIds : List String :=
  ["//".intercalate ["-", "w3o", "dtd w3 html strict 3.0", "en", ""],
    "/".intercalate ["-", "w3c", "dtd html 4.0 transitional", "en"], "html"]

def legacySystemIds : List String :=
  ["/".intercalate ["http:", "", "www.ibm.com", "data", "dtd", "v11",
    "ibmxhtml1-transitional.dtd"]]

/-! ## Document types

A document type names the rules a page was written for: the word `html`, then perhaps a public
identifier, a system identifier or both, each in quotes. Pages that name no rules, or old ones,
are legacy pages: there a table does not end the paragraph in front of it.
-/

structure Identifiers where
  publicId : Option (List Char)
  systemId : Option (List Char)
  deriving DecidableEq, Repr

def beginsLike (beginnings : List String) (identifier : List Char) : Bool :=
  beginnings.any fun b => b.toList.isPrefixOf (lowerAll identifier)

def isOneOf (wanted : List String) (identifier : List Char) : Bool :=
  wanted.any fun w => w.toList == lowerAll identifier

def Identifiers.areLegacy (ids : Identifiers) : Bool :=
  ids.publicId.any (isOneOf legacyPublicIds) || ids.systemId.any (isOneOf legacySystemIds) ||
    ids.publicId.any (beginsLike legacyBeginnings) ||
    (ids.systemId.isNone && ids.publicId.any (beginsLike halfLegacyBeginnings))

def skipWhite (cs : List Char) : List Char := cs.dropWhile Text.isAsciiWhite

def quoted? (cs : List Char) : Option (List Char × List Char) :=
  match skipWhite cs with
  | q :: rest =>
    if q = '"' ∨ q = '\'' then (Text.after? q rest).map (Text.before q rest, ·) else none
  | [] => none

def public? (cs : List Char) : Option Identifiers := do
  let (publicId, rest) ← quoted? cs
  if skipWhite rest = [] then some ⟨some publicId, none⟩
  else
    let (systemId, _) ← quoted? rest
    some ⟨some publicId, some systemId⟩

/-- The identifier behind the keyword for a system one. What follows it is ignored. -/
def system? (cs : List Char) : Option Identifiers := do
  let (systemId, _) ← quoted? cs
  some ⟨none, some systemId⟩

def endsInLineEnd (cs : List Char) : Bool := "\r\n".toList.isSuffixOf cs

/-- The identifiers behind the name of a document type, unless they are broken. A keyword is not
known right behind an end of line of two characters. -/
def identifiers? (cs : List Char) : Option Identifiers :=
  match skipWhite cs with
  | [] => some ⟨none, none⟩
  | rest =>
    let keyword := lowerAll (rest.take 6)
    if endsInLineEnd (cs.takeWhile Text.isAsciiWhite) then none
    else if keyword = "public".toList then public? (rest.drop 6)
    else if keyword = "system".toList then system? (rest.drop 6)
    else none

def isLegacy (cs : List Char) : Bool :=
  let cs := skipWhite cs
  let name := lowerAll (cs.takeWhile fun c => !Text.isAsciiWhite c)
  let ids := identifiers? (cs.dropWhile fun c => !Text.isAsciiWhite c)
  name ≠ "html".toList || !ids.any fun ids => !ids.areLegacy

end CycleTable.Html.Doctype
