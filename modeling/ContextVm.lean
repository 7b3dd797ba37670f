import ContextVm.Payments.ChargedOnce
import ContextVm.Payments.PayingChain
import ContextVm.Oversized.RoundTrip
import ContextVm.Oversized.Overflow
import ContextVm.Oversized.Isolation
import ContextVm.Transport.Broadcast
import ContextVm.Transport.ModeAgreement
import ContextVm.Transport.Reassembly
import ContextVm.Transport.Answerable
import ContextVm.Transport.Leftovers
import ContextVm.OpenStream.Delivery
import ContextVm.OpenStream.Indexes
import ContextVm.OpenStream.EndToEnd
import ContextVm.Payments.Heartbeats
import ContextVm.Payments.TouchLoops
import ContextVm.OpenStream.OwnStreams
import ContextVm.Payments.Retries
import ContextVm.Payments.Outcomes
import ContextVm.Payments.RetryEvents
import ContextVm.OpenStream.Keepalive
import ContextVm.Payments.OfferCycles
import ContextVm.Transport.SlotRuns
import ContextVm.Payments.Invocations
import ContextVm.Transport.StreamedCall
import ContextVm.Oversized.Sizing
import ContextVm.Oversized.Books
import ContextVm.OpenStream.CloseGrace
import ContextVm.OpenStream.Lifecycle
