import Greenhouse.Main
import Greenhouse.Proofs.Autosave.Attention
import Greenhouse.Proofs.Autosave.Failure
import Greenhouse.Proofs.Autosave.Isolation
import Greenhouse.Proofs.Autosave.Journal
import Greenhouse.Proofs.Autosave.Refinement
import Greenhouse.Proofs.Channel.Delivery
import Greenhouse.Proofs.Channel.Lifecycle
import Greenhouse.Proofs.Channel.Overlap
import Greenhouse.Proofs.Channel.Pacing
import Greenhouse.Proofs.Config.Address
import Greenhouse.Proofs.Console.Capacity
import Greenhouse.Proofs.Console.Configuration
import Greenhouse.Proofs.Console.Ending
import Greenhouse.Proofs.Console.Wording
import Greenhouse.Proofs.Events.Listening
import Greenhouse.Proofs.Message.Acceptance
import Greenhouse.Proofs.Message.Conveyance
import Greenhouse.Proofs.Message.Reencoding
import Greenhouse.Proofs.Order.Agreement
import Greenhouse.Proofs.Order.Slots
import Greenhouse.Proofs.Order.Toggle
import Greenhouse.Proofs.Registry.History
import Greenhouse.Proofs.Registry.Readings
import Greenhouse.Proofs.Registry.Release
import Greenhouse.Proofs.Request.Excerpt
import Greenhouse.Proofs.Request.Refusal
import Greenhouse.Proofs.Service.Holding
import Greenhouse.Proofs.Service.Reckoning
import Greenhouse.Proofs.Service.Routing
import Greenhouse.Proofs.Service.Silence
import Greenhouse.Proofs.Service.Stopping
import Greenhouse.Proofs.Watchdog.Listener
import Greenhouse.Proofs.Watchdog.Verdict
import Greenhouse.Rehearsal.Visitors
