import Provision.Main
import Provision.Proofs.Expr.Reads
import Provision.Proofs.Numeral
import Provision.Proofs.Json.Lexing
import Provision.Proofs.Json.RoundTrip
import Provision.Proofs.Value.Order
import Provision.Proofs.Value.Equality
import Provision.Proofs.Expr.RoundTrip
import Provision.Proofs.Expr.Replacement
import Provision.Proofs.Schedule.Spacing
import Provision.Proofs.Calendar.Gregorian
import Provision.Proofs.Schedule.Boundary
import Provision.Proofs.Schedule.Book
import Provision.Proofs.Scope.Calls
import Provision.Proofs.Scope.Lineage
import Provision.Proofs.Scope.Visibility
import Provision.Proofs.Config.Faults
import Provision.Proofs.Value.Trichotomy
import Provision.Proofs.Calendar.ClockText
import Provision.Proofs.Calendar.LocalTime
import Provision.Proofs.Command.Binding
import Provision.Proofs.Value.Arithmetic
import Provision.Proofs.Numeral.Pattern
import Provision.Proofs.Schedule.Filters
import Provision.Proofs.Schedule.Shown
import Provision.Proofs.Calendar.CivilOrder
import Provision.Proofs.Config.EntryOrder
import Provision.Proofs.Schedule.Matching
import Provision.Proofs.Expr.Preorder
import Provision.Proofs.Json.SignedDigits
import Provision.Proofs.Command.NumberText
import Provision.Proofs.Command.Answer
