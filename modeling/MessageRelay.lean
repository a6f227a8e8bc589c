import MessageRelay.Config.Duration
import MessageRelay.Main
import MessageRelay.Shell.Terminal
import MessageRelay.Proofs.Broker.Order
import MessageRelay.Proofs.Envelope.RoundTrip
import MessageRelay.Proofs.Relay.JoinAndClose
import MessageRelay.Proofs.Exchange.Accountability
import MessageRelay.Proofs.Exchange.Provenance
import MessageRelay.Proofs.Node.Shutdown
import MessageRelay.Proofs.Exchange.Sessions
import MessageRelay.Proofs.Node.Accounted
import MessageRelay.Proofs.Exchange.Pressure
import MessageRelay.Proofs.Node.Finality
import MessageRelay.Proofs.Direct.Agreement
import MessageRelay.Proofs.Node.Processing
import MessageRelay.Proofs.Broker.Rotation
import MessageRelay.Proofs.Exchange.Publication
import MessageRelay.Proofs.Exchange.Connecting
import MessageRelay.Proofs.Direct.Reception
import MessageRelay.Proofs.Envelope.Truncation
import MessageRelay.Proofs.Envelope.Forwarding
import MessageRelay.Proofs.Broker.Counting
import MessageRelay.Proofs.Config.Resolution
import MessageRelay.Proofs.Config.Merging
import MessageRelay.Proofs.Config.Rewriting
import MessageRelay.Proofs.Net.Credentials
import MessageRelay.Proofs.Net.Peer
import MessageRelay.Proofs.Shell.Conversation
import MessageRelay.Proofs.Shell.EventLines
