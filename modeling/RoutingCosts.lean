import RoutingCosts.Hierarchy
import RoutingCosts.Profile
import RoutingCosts.Proofs.Configuration
import RoutingCosts.Proofs.Graph.LastWrite
import RoutingCosts.Proofs.Graph.Writes
import RoutingCosts.Proofs.Hierarchy
import RoutingCosts.Proofs.Json.Grammar
import RoutingCosts.Proofs.Json.Numeral
import RoutingCosts.Proofs.Json.Skipping
import RoutingCosts.Proofs.Number.Amount
import RoutingCosts.Proofs.Number.Arithmetic
import RoutingCosts.Proofs.Number.Nearest
import RoutingCosts.Proofs.Number.Rounding
import RoutingCosts.Proofs.Number.Saturation
import RoutingCosts.Proofs.Number.Sign
import RoutingCosts.Proofs.Number.Value
import RoutingCosts.Proofs.Number.Words
import RoutingCosts.Proofs.Profile
import RoutingCosts.Proofs.RecognisedFields
import RoutingCosts.Proofs.Registry
import RoutingCosts.Proofs.Session
import RoutingCosts.Proofs.Text.LowerCase
import RoutingCosts.Proofs.Text.SettledCase
import RoutingCosts.Proofs.TurnCost.Charge
import RoutingCosts.Proofs.TurnCost.Contract
import RoutingCosts.Proofs.TurnCost.Extension
import RoutingCosts.Proofs.TurnCost.Forbidden
import RoutingCosts.Proofs.TurnCost.History
import RoutingCosts.Proofs.TurnCost.Numbering
import RoutingCosts.Proofs.Weighting.Bounds
import RoutingCosts.Proofs.Weighting.Canonical
import RoutingCosts.Proofs.Weighting.Constructible
import RoutingCosts.Proofs.Weighting.FileName
import RoutingCosts.Proofs.Weighting.ForbiddenTurn
import RoutingCosts.Proofs.Weighting.Identity
import RoutingCosts.Proofs.Weighting.Layers
import RoutingCosts.Proofs.Weighting.Loop
import RoutingCosts.Proofs.Weighting.OwnProperties
import RoutingCosts.Proofs.Weighting.Path
import RoutingCosts.Proofs.Weighting.SharedKey
import RoutingCosts.Proofs.Weighting.SingleTurn
import RoutingCosts.Proofs.Weighting.TravelTime
import RoutingCosts.Proofs.Weighting.Verdict
