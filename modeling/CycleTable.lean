import CycleTable.Main
import CycleTable.Proofs.Cell.Grammar
import CycleTable.Proofs.Cell.Refused
import CycleTable.Proofs.Cli
import CycleTable.Proofs.Cli.Setting
import CycleTable.Proofs.Document.Break
import CycleTable.Proofs.Document.Continued
import CycleTable.Proofs.Document.Edit
import CycleTable.Proofs.Document.Lined
import CycleTable.Proofs.Document.Names
import CycleTable.Proofs.Document.Normal
import CycleTable.Proofs.Document.Path
import CycleTable.Proofs.Document.RoundTrip
import CycleTable.Proofs.Document.Selection
import CycleTable.Proofs.Document.Spacing
import CycleTable.Proofs.Document.Unshown
import CycleTable.Proofs.Html.Order
import CycleTable.Proofs.Initializer.Alone
import CycleTable.Proofs.Initializer.Appended
import CycleTable.Proofs.Initializer.Grammar
import CycleTable.Proofs.Initializer.Located
import CycleTable.Proofs.Initializer.Plain
import CycleTable.Proofs.Initializer.RoundTrip
import CycleTable.Proofs.Initializer.Turn
import CycleTable.Proofs.Scan.Lenient
import CycleTable.Proofs.Scan.Moved
import CycleTable.Proofs.Scan.Trace
