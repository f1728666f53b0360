import Zrotext.Failover.Intent
import Zrotext.Failover.Cancellation
import Zrotext.Failover.Rejoin
import Zrotext.Failover.EpochMemory
import Zrotext.Failover.Store.Skew
import Zrotext.Failover.Store.Serving
import Zrotext.Failover.Store.Reference
import Zrotext.Delivery.Coherence
import Zrotext.Delivery.SegmentEvidence
import Zrotext.Delivery.UsageLedger
import Zrotext.Delivery.ConflictEvidence
import Zrotext.Delivery.Refinement
import Zrotext.Delivery.RequestBytes
import Zrotext.Exchange.Agreement
import Zrotext.Phone.ManifestJournal
import Zrotext.Inbound.Unsolicited
import Zrotext.Inbound.LatestWithdrawal
import Zrotext.Provider.Receipts
import Zrotext.Provider.Transmission
import Zrotext.Abuse.Pruning
import Zrotext.Abuse.Lanes
import Zrotext.Abuse.Accounting
import Zrotext.Webhook.Run
import Zrotext.Billing.Binding
import Zrotext.Billing.Fingerprint
import Zrotext.Billing.Grace
import Zrotext.Domain.Law
import Zrotext.Managed.Narrowing
import Zrotext.Template.Segments
