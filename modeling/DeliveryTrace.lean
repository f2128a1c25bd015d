import DeliveryTrace.Main
import DeliveryTrace.Proofs.Command.FirstFault
import DeliveryTrace.Proofs.Correlation.Attempts
import DeliveryTrace.Proofs.Correlation.Belonging
import DeliveryTrace.Proofs.Correlation.Chain
import DeliveryTrace.Proofs.Correlation.ContentFilter
import DeliveryTrace.Proofs.Correlation.Depth
import DeliveryTrace.Proofs.Correlation.Digits
import DeliveryTrace.Proofs.Correlation.Exclusive
import DeliveryTrace.Proofs.Correlation.Growth
import DeliveryTrace.Proofs.Correlation.Identifiers
import DeliveryTrace.Proofs.Correlation.Index
import DeliveryTrace.Proofs.Correlation.Involved
import DeliveryTrace.Proofs.Correlation.LoggedSend
import DeliveryTrace.Proofs.Correlation.Lookup
import DeliveryTrace.Proofs.Correlation.Pruning
import DeliveryTrace.Proofs.Correlation.Search
import DeliveryTrace.Proofs.History
import DeliveryTrace.Proofs.Log.Handoff
import DeliveryTrace.Proofs.Log.LoggedReply
import DeliveryTrace.Proofs.Log.Record
import DeliveryTrace.Proofs.Log.SmtpError
import DeliveryTrace.Proofs.Log.StatedStatus
import DeliveryTrace.Proofs.Log.WellFormed
import DeliveryTrace.Proofs.Text.Partition
import DeliveryTrace.Proofs.Verdict
import DeliveryTrace.Proofs.Window.BrokenRead
import DeliveryTrace.Proofs.Window.Lines
import DeliveryTrace.Proofs.Window.Retention
