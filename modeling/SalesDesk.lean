import SalesDesk.Service.Routes
import SalesDesk.Proofs.Conversation.Invariant
import SalesDesk.Proofs.Answer.EntityScope
import SalesDesk.Proofs.Answer.StageScope
import SalesDesk.Proofs.Answer.Total
import SalesDesk.Proofs.Conversation.Failure
import SalesDesk.Proofs.Answer.NamedCustomer
import SalesDesk.Proofs.Answer.FollowUps
import SalesDesk.Proofs.Answer.Casing
import SalesDesk.Proofs.Answer.Quiet
import SalesDesk.Proofs.Ledger.Stack
import SalesDesk.Proofs.Ledger.Export
import SalesDesk.Proofs.Answer.KeyFigures
import SalesDesk.Proofs.Analysis.Formed
import SalesDesk.Proofs.Answer.Formed
import SalesDesk.Proofs.Answer.RankedWithin
import SalesDesk.Proofs.Answer.HeldNames
import SalesDesk.Proofs.Ledger.Usable
import SalesDesk.Proofs.Analysis.RowOrder
import SalesDesk.Proofs.Reply.Figures
import SalesDesk.Proofs.Reply.Marks
import SalesDesk.Proofs.Assistant.Currency
import SalesDesk.Proofs.Analysis.NamedGroup
import SalesDesk.Proofs.Analysis.Comparison
import SalesDesk.Proofs.Analysis.Trend
import SalesDesk.Proofs.Text.Places
import SalesDesk.Proofs.Query.Alignment
import SalesDesk.Proofs.Query.Verbatim
import SalesDesk.Proofs.Ledger.Echo
import SalesDesk.Proofs.Ledger.Spellings
import SalesDesk.Proofs.Reply.Subject
import SalesDesk.Proofs.Reply.Guessed
import SalesDesk.Proofs.Reply.LeftPairs
import SalesDesk.Proofs.Report.Shown
import SalesDesk.Proofs.Report.Minus
import SalesDesk.Proofs.Ledger.Assigned
import SalesDesk.Proofs.Reply.WordLimit
