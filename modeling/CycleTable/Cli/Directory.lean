/-! # Paths and files

A path is a run of bytes, which need not be a text. A slash divides it. Two paths are the same
path if their components are the same; how many slashes stand between two components, and which
single dots, does not count.

A path is followed part by part from a directory that holds files only. What lies outside the
directory is not known, so that a path through it leads to nothing.
-/
namespace CycleTable.Cli

abbrev PagePath := List UInt8

namespace PagePath

def slash : UInt8 := 0x2f

def dot : UInt8 := 0x2e

def dash : UInt8 := 0x2d

def ofText (text : String) : PagePath := text.toList.flatMap String.utf8EncodeChar

/-- The components of a path. A slash at the start is one, and so is a single dot there. Behind
the start only names and double dots are. -/
def components (path : PagePath) : List PagePath :=
  match path.splitOn slash with
  | [] => []
  | first :: rest =>
    let start :=
      if first ≠ [] then [first]
      else if rest = [] then []
      else [[slash]]
    start ++ rest.filter fun part => part ≠ [] ∧ part ≠ [dot]

/-- Whether a path is a dash, which names the standard input. -/
def isDash (path : PagePath) : Bool := path.components == components [dash]

end PagePath

inductive ReadFailure where
  | notFound
  | isDirectory
  | notDirectory
  | notText
  | other (message : String)
  deriving DecidableEq, Repr

def ReadFailure.message : ReadFailure → String
  | .notFound => "No such file or directory (os error 2)"
  | .isDirectory => "Is a directory (os error 21)"
  | .notDirectory => "Not a directory (os error 20)"
  | .notText => "stream did not contain valid UTF-8"
  | .other message => message

abbrev Directory := List (String × ByteArray)

inductive Directory.Location where
  | here
  | outside
  | file (content : ByteArray)

namespace Directory

def file? (files : Directory) (name : PagePath) : Option ByteArray :=
  (files.find? fun file => PagePath.ofText file.1 == name).map Prod.snd

def follow (files : Directory) (part : PagePath) : Location → Except ReadFailure Location
  | .file _ => .error .notDirectory
  | .here =>
    if part = [] ∨ part = [PagePath.dot] then .ok .here
    else if part = [PagePath.dot, PagePath.dot] then .ok .outside
    else
      match files.file? part with
      | some content => .ok (.file content)
      | none => .error .notFound
  | .outside =>
    if part = [] ∨ part = [PagePath.dot] ∨ part = [PagePath.dot, PagePath.dot] then .ok .outside
    else .error .notFound

def read (files : Directory) (path : PagePath) : Except ReadFailure ByteArray :=
  let start := if path.head? = some PagePath.slash then Location.outside else .here
  match (path.splitOn PagePath.slash).foldlM (fun location part => files.follow part location)
    start with
  | .ok (.file content) => .ok content
  | .ok _ => .error .isDirectory
  | .error failure => .error failure

end Directory
end CycleTable.Cli
