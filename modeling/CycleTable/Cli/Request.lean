import CycleTable.Cli.Directory
import CycleTable.Scan
import CycleTable.Text.White

/-! # Command lines

A command line names at most one page and at most one way to handle malformed cells. Behind two
dashes alone every argument is a page. Arguments are taken from left to right, and the first
wrong one decides, unless help is asked for before it.
-/
namespace CycleTable.Cli

/-- What is to be done with malformed cells, as the command line names it. -/
inductive PolicySelector where
  | lenient
  | strict
  deriving DecidableEq, Repr

instance : Inhabited PolicySelector := ⟨.lenient⟩

namespace PolicySelector

def policy : PolicySelector → Policy
  | .lenient => .lenient
  | .strict => .strict

def name : PolicySelector → String
  | .lenient => "lenient"
  | .strict => "strict"

def ofName? (name : String) : Option PolicySelector :=
  [lenient, strict].find? fun selector => selector.name == name

end PolicySelector

structure Arguments where
  page : Option PagePath
  onMalformed : PolicySelector
  deriving DecidableEq, Repr

inductive Request where
  | help
  | extract (arguments : Arguments)
  deriving DecidableEq, Repr

inductive Refusal where
  | unknownOption (argument : String)
  | missingPolicy
  | unknownPolicy (value : String)
  | secondPolicy
  | emptyPage
  | secondPage (page : String)
  deriving DecidableEq, Repr

def Refusal.message : Refusal → String
  | .unknownOption argument => "unexpected argument '" ++ argument ++ "' found"
  | .missingPolicy =>
    "a value is required for '--on-malformed <ON_MALFORMED>' but none was supplied"
  | .unknownPolicy value =>
    "invalid value '" ++ value ++ "' for '--on-malformed <ON_MALFORMED>'"
  | .secondPolicy =>
    "the argument '--on-malformed <ON_MALFORMED>' cannot be used multiple times"
  | .emptyPage => "a value is required for '[PAGE]' but none was supplied"
  | .secondPage page => "unexpected argument '" ++ page ++ "' found"

structure Taken where
  page : Option String
  selector : Option PolicySelector
  deriving DecidableEq, Repr

namespace Taken

def addPage (taken : Taken) (page : String) : Except Refusal Taken :=
  if taken.page.isSome then .error (.secondPage page)
  else if page = "" then .error .emptyPage
  else .ok { taken with page := some page }

def addSelector (taken : Taken) (name : String) : Except Refusal Taken :=
  if taken.selector.isSome then .error .secondPolicy
  else
    match PolicySelector.ofName? name with
    | some selector => .ok { taken with selector := some selector }
    | none => .error (.unknownPolicy name)

def request (taken : Taken) : Request :=
  .extract ⟨taken.page.map PagePath.ofText, taken.selector.getD default⟩

end Taken

/-- Whether an argument looks like an option. A dash alone does not. -/
def isOption (argument : String) : Bool :=
  match argument.toList with
  | '-' :: _ :: _ => true
  | _ => false

/-- Whether an argument asks for help. Of short options in a row the first one decides. -/
def asksForHelp (argument : String) : Bool :=
  argument == "--help" ||
    match argument.toList with
    | '-' :: 'h' :: _ => true
    | _ => false

def attachedName? (argument : String) : Option String :=
  (Text.drop? "--on-malformed=".toList argument.toList).map String.ofList

def readArguments (taken : Taken) : List String → Except Refusal Request
  | [] => .ok taken.request
  | "--" :: pages => do return (← pages.foldlM Taken.addPage taken).request
  | ["--on-malformed"] => .error .missingPolicy
  | "--on-malformed" :: name :: rest =>
    if isOption name then .error .missingPolicy
    else do readArguments (← taken.addSelector name) rest
  | argument :: rest =>
    if asksForHelp argument then .ok .help
    else
      match attachedName? argument with
      | some name => do readArguments (← taken.addSelector name) rest
      | none =>
        if isOption argument then .error (.unknownOption argument)
        else do readArguments (← taken.addPage argument) rest

def Request.parse (arguments : List String) : Except Refusal Request :=
  readArguments ⟨none, none⟩ arguments

end CycleTable.Cli
