import ChatRelay.Live.World
import ChatRelay.Main
import ChatRelay.Proofs.Conversation
import ChatRelay.Proofs.Delivery
import ChatRelay.Proofs.Persistence
import ChatRelay.Proofs.Visibility
import ChatRelay.Proofs.Paging
import ChatRelay.Registry.Lemmas
import ChatRelay.Proofs.Sending
import ChatRelay.Proofs.Blind
import ChatRelay.Proofs.Secrecy
import ChatRelay.Proofs.Convergence
import ChatRelay.Proofs.RoundTrip.Records
import ChatRelay.Proofs.Store.Integrity
import ChatRelay.Proofs.Permanence
import ChatRelay.Proofs.Identity
import ChatRelay.Proofs.FanOut
import ChatRelay.Proofs.Lifecycle
import ChatRelay.Proofs.Store.Openings
import ChatRelay.Proofs.Copies
import ChatRelay.Proofs.Partition
import ChatRelay.Proofs.Effects
import ChatRelay.Proofs.Rejection
import ChatRelay.Proofs.Grammar.Request
import ChatRelay.Proofs.Store.Listing
import ChatRelay.Proofs.Heartbeat
import ChatRelay.Proofs.Store.Migration
import ChatRelay.Proofs.Refusals
import ChatRelay.Proofs.Settings
import ChatRelay.Proofs.Payloads
