import CycleTable.Scan
import CycleTable.Text.White

/-! # Documents and their tables

A document is a forest of nodes. Only elements have a name, which is compared as it is. A
fragment groups nodes without being an element, as the content of a template does; what is
selected is looked for inside it, while text is not taken from it. A table is what a document
has in its rows and cells, each cell with its text laid out in lines.
-/
namespace CycleTable

inductive Node where
  | text (content : String)
  | element (tag : String) (children : List Node)
  | comment (content : String)
  | fragment (children : List Node)
  deriving Repr

namespace Node

mutual

def contents (tag : String) : Node → List (List Node)
  | .text _ => []
  | .comment _ => []
  | .fragment children => contentsAll tag children
  | .element name children =>
    if name = tag then children :: contentsAll tag children else contentsAll tag children

/-- The children of each element with a tag, in tree order: an element stands before the
elements inside it. -/
def contentsAll (tag : String) : List Node → List (List Node)
  | [] => []
  | node :: nodes => contents tag node ++ contentsAll tag nodes

end

theorem contentsAll_append (tag : String) (before behind : List Node) :
    contentsAll tag (before ++ behind) = contentsAll tag before ++ contentsAll tag behind := by
  induction before with
  | nil => rfl
  | cons node before ih =>
    rw [List.cons_append, contentsAll, contentsAll, ih, List.append_assoc]

end Node
end CycleTable

/-! ## Layout of text in lines

The text of an element is laid out roughly as a browser shows it. White space of the source
collapses to single spaces, which never stand at the start or the end of a line. A break ends
a line at once. A block element asks for a line of its own: the line ends when the next
character comes, if there is anything on it by then.
-/
namespace CycleTable.Layout

inductive Piece where
  | char (c : Char)
  | space
  | lineBreak
  | boundary
  deriving DecidableEq, Repr

def skipped : List String := ["head", "script", "style", "template", "noscript"]

def blocks : List String :=
  ["address", "article", "aside", "blockquote", "caption", "dd", "div", "dl", "dt", "figcaption",
    "figure", "footer", "form", "h1", "h2", "h3", "h4", "h5", "h6", "header", "hr", "li", "main",
    "nav", "ol", "p", "pre", "section", "table", "tr", "ul"]

def charPiece (c : Char) : Piece := if Text.isAsciiWhite c then .space else .char c

mutual

/-- The pieces of one node, in front of the pieces behind it. A break hides what lies inside it. -/
def pieces : Node → List Piece → List Piece
  | .text content, rest => content.toList.map charPiece ++ rest
  | .comment _, rest => rest
  | .fragment _, rest => rest
  | .element tag children, rest =>
    if tag = "br" then .lineBreak :: rest
    else if tag ∈ skipped then rest
    else if tag ∈ blocks then .boundary :: piecesAll children (.boundary :: rest)
    else piecesAll children rest

def piecesAll : List Node → List Piece → List Piece
  | [], rest => rest
  | node :: nodes, rest => pieces node (piecesAll nodes rest)

end

theorem piecesAll_append (before behind : List Node) (rest : List Piece) :
    piecesAll (before ++ behind) rest = piecesAll before (piecesAll behind rest) := by
  induction before with
  | nil => rfl
  | cons node before ih => rw [List.cons_append, piecesAll, piecesAll, ih]

/-- The text laid out so far, its last character first, and whether a block boundary waits for
the next character. -/
structure Lines where
  laid : List Char
  pending : Bool
  deriving DecidableEq, Repr

namespace Lines

def empty : Lines := ⟨[], false⟩

def trimEnd (laid : List Char) : List Char := laid.dropWhile (· == ' ')

def newLine (lines : Lines) : Lines := ⟨'\n' :: trimEnd lines.laid, false⟩

def atLineStart (lines : Lines) : Bool :=
  match lines.laid with
  | [] => true
  | last :: _ => last == '\n'

def add (lines : Lines) : Piece → Lines
  | .char c =>
    let lines := if lines.pending && !lines.atLineStart then lines.newLine else lines
    ⟨c :: lines.laid, false⟩
  | .space =>
    if lines.atLineStart || lines.laid.head? == some ' ' then lines
    else { lines with laid := ' ' :: lines.laid }
  | .lineBreak => lines.newLine
  | .boundary => { lines with pending := true }

def text (lines : Lines) : List Char := (trimEnd lines.laid).reverse

end Lines

def layOut (ps : List Piece) : List Char := (ps.foldl Lines.add Lines.empty).text

/-- The text of an element with the given children. The element itself has no say in it. -/
def innerText (children : List Node) : String := String.ofList (layOut (piecesAll children []))

end CycleTable.Layout

/-! ## Rows of a document

The rows of a document are its `tr` elements in document order; a row inside a cell of another
row is a row too. The cells of a row are the `td` elements below it, at any depth, so that a
cell counts once for every row around it.
-/
namespace CycleTable

def cellTexts (row : List Node) : List String :=
  (Node.contentsAll "td" row).map Layout.innerText

def tableOfRows (rows : List (List Node)) : Table := rows.map cellTexts

def tableRows (document : List Node) : Table :=
  tableOfRows (Node.contentsAll "tr" document)

theorem tableRows_append (before behind : List Node) :
    tableRows (before ++ behind) = tableRows before ++ tableRows behind := by
  rw [tableRows, Node.contentsAll_append]
  exact List.map_append

def Table.found (rows : Table) : Event := .tableFound rows.length rows.flatten.length

end CycleTable
