import CpaGateway.Stream.Delivery
import CpaGateway.Kiro.Resynchronisation
import CpaGateway.Kiro.Projection
import CpaGateway.Kiro.Discipline
import CpaGateway.Anthropic.Segmentation
import CpaGateway.Responses.Segmentation
import CpaGateway.Chat.Segmentation
import CpaGateway.Router.HealthSafety
import CpaGateway.Upstream.LeaseCounter
import CpaGateway.Router.Visibility
import CpaGateway.Router.Explanation
import CpaGateway.Router.RecordedDeadlines
import CpaGateway.Anthropic.Reassembly
import CpaGateway.Chat.Reassembly
import CpaGateway.Responses.WireGrammar
import CpaGateway.Catalog.Removal
import CpaGateway.Catalog.SingleFlight
import CpaGateway.Grok.QuotaRestart
import CpaGateway.Store.EventWriter
import CpaGateway.Control.PublicationRace
import CpaGateway.Grok.ReplayHistory
import CpaGateway.Grok.Schedules
import CpaGateway.Grok.RefreshFlight
import CpaGateway.Grok.OfficialRoundTrip
import CpaGateway.Router.WeightedSlots
import CpaGateway.Control.CodexOAuth
import CpaGateway.Router.Selection
import CpaGateway.Kiro.Draining
import CpaGateway.Router.RuntimeProbe
