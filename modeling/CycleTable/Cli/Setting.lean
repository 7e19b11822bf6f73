import CycleTable.Log
import CycleTable.Text.White

/-! # Settings of the log

A setting is a list of directives with commas between them. A directive is a threshold for every
source, or a target with a threshold for the sources whose names begin with it; a target alone
shows everything from there. Directives that cannot be read are left out, and without any
directive only errors are shown. Behind a slash may stand a pattern, and then only the records
that contain it are shown. A pattern is taken as it is, not as a regular expression.
-/
namespace CycleTable.Cli

structure Directive where
  target : List Char
  threshold : Option Level
  deriving DecidableEq, Repr

def Directive.read? (text : List Char) : Option Directive :=
  match text.splitOn '=' with
  | [name] =>
    match Level.thresholdOfName? (String.ofList name) with
    | some threshold => some ⟨[], threshold⟩
    | none => some ⟨name, some .trace⟩
  | [target, name] =>
    if Text.trim name = [] then some ⟨target, some .trace⟩
    else
      (Level.thresholdOfName? (String.ofList (Text.trim name))).map fun threshold =>
        ⟨target, threshold⟩
  | _ => none

structure Setting where
  directives : List Directive
  pattern : Option (List Char)
  deriving DecidableEq, Repr

namespace Setting

def readDirectives (list : List Char) : List Directive :=
  (((list.splitOn ',').map Text.trim).filter (· ≠ [])).filterMap Directive.read?

/-- The setting that a text gives. A text with more than one slash gives none. -/
def read (text : String) : Setting :=
  match text.toList.splitOn '/' with
  | [list] => ⟨readDirectives list, none⟩
  | [list, pattern] => ⟨readDirectives list, some pattern⟩
  | _ => ⟨[], none⟩

def closer (found : Option Directive) (directive : Directive) : Option Directive :=
  match found with
  | some best => if directive.target.length < best.target.length then some best else some directive
  | none => some directive

/-- The threshold for the records of a source: the directive with the longest target decides. -/
def threshold (setting : Setting) (source : String) : Option Level :=
  if setting.directives = [] then some .error
  else
    let reaching := setting.directives.filter fun d => d.target.isPrefixOf source.toList
    (reaching.foldl closer none).bind Directive.threshold

def shows (setting : Setting) (level : Level) (source message : String) : Bool :=
  level.shownAt (setting.threshold source) &&
    setting.pattern.all fun pattern => message.contains (String.ofList pattern)

end Setting
end CycleTable.Cli
