import CycleTable.Cli.Request
import CycleTable.Cli.Setting
import CycleTable.Html.Page

/-! # The command

The command reads one page, writes the entries of its table on one line, and logs what it does.
A run that fails writes nothing. How command lines, pages and settings of the log are read is not
its business: it is given a reader of each, and whatever these say, a run is put together from it
in the same way.
-/
namespace CycleTable.Cli

inductive Event where
  | pageRead (bytes : Nat)
  | pageUnreadable (failure : ReadFailure)
  | table (event : CycleTable.Event)
  | scanFailed (error : ScanError)

namespace Event

def level : Event → Level
  | .pageRead _ => .info
  | .pageUnreadable _ => .error
  | .table event => event.level
  | .scanFailed _ => .error

def source : Event → String
  | .table event => event.source
  | _ => "extract_opcode_timings"

def message : Event → String
  | .pageRead bytes => "Read " ++ toString bytes ++ " bytes of HTML"
  | .pageUnreadable failure => "Unable to read opcode table page: " ++ failure.message
  | .table event => event.message
  | .scanFailed error => error.message

end Event

/-- The outcome of a run: the exit code, the text written, and the events that are logged. -/
structure Run where
  exit : Nat
  output : String
  log : List Event

def Run.shown (run : Run) (threshold : Option Level) : List Event :=
  run.log.filter fun event => event.level.shownAt threshold

/-- What is seen of a run from outside. -/
structure Outcome where
  exit : Nat
  output : String
  shown : List Event

def decode (bytes : ByteArray) : Except ReadFailure String :=
  match String.fromUTF8? bytes with
  | some page => .ok page
  | none => .error .notText

/-- Reads the whole page from the file with a path, or from the standard input. -/
def readPage (files : PagePath → Except ReadFailure ByteArray) (input : ByteArray) :
    Option PagePath → Except ReadFailure String
  | some path => if path.isDash then decode input else files path >>= decode
  | none => decode input

/-- The readers that a command is made of. A page is read into its rows, each given by the nodes
inside it. -/
structure Command (Argument Fault Config : Type) where
  request : List Argument → Except Fault Request
  help : String
  rows : String → List (List Node)
  shows : Config → Event → Bool

namespace Command

variable {Argument Fault Config : Type}

def extract (command : Command Argument Fault Config) (policy : Policy)
    (page : Except ReadFailure String) : Run :=
  match page with
  | .error failure => ⟨1, "", [.pageUnreadable failure]⟩
  | .ok page =>
    let rows := tableOfRows (command.rows page)
    let events :=
      .pageRead page.utf8ByteSize :: (rows.found :: (Scan.ofTable rows policy).events).map .table
    match Scan.extract rows policy with
    | .ok text => ⟨0, text ++ "\n", events⟩
    | .error error => ⟨1, "", events ++ [.scanFailed error]⟩

def run (command : Command Argument Fault Config)
    (files : PagePath → Except ReadFailure ByteArray) (input : ByteArray)
    (arguments : List Argument) : Run :=
  match command.request arguments with
  | .error _ => ⟨2, "", []⟩
  | .ok .help => ⟨0, command.help, []⟩
  | .ok (.extract asked) =>
    command.extract asked.onMalformed.policy (readPage files input asked.page)

def execute (command : Command Argument Fault Config) (config : Config)
    (files : PagePath → Except ReadFailure ByteArray) (input : ByteArray)
    (arguments : List Argument) : Outcome :=
  let run := command.run files input arguments
  ⟨run.exit, run.output, run.log.filter (command.shows config)⟩

end Command

def help : String :=
  "Prints the opcode timings from an HTML opcode table as C initializer literals

Usage: extract-opcode-timings [OPTIONS] [PAGE]

Arguments:
  [PAGE]  HTML page containing the opcode table. Read from stdin if omitted or `-`

Options:
      --on-malformed <ON_MALFORMED>  What to do with table cells that don't contain valid timings
                                     [default: lenient] [possible values: lenient, strict]
  -h, --help                         Print help
"

/-- The command with its own readers. -/
def extractor : Command String Refusal (Option String) where
  request := Request.parse
  help := help
  rows := Html.rows
  shows setting event :=
    (Setting.read (setting.getD "")).shows event.level event.source event.message

def run (files : PagePath → Except ReadFailure ByteArray) (input : ByteArray)
    (arguments : List String) : Run :=
  extractor.run files input arguments

end CycleTable.Cli
