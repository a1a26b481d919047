import AdaptiveRouting.Proof.Crowding
import AdaptiveRouting.Proof.Dependencies
import AdaptiveRouting.Proof.Revalidation
import AdaptiveRouting.Proof.Session
import AdaptiveRouting.Proof.Publication
import AdaptiveRouting.Proof.Payload
import AdaptiveRouting.Proof.Honesty
import AdaptiveRouting.Proof.Names
import AdaptiveRouting.Proof.HoldDown
import AdaptiveRouting.Proof.Registration
import AdaptiveRouting.Proof.Terminal
import AdaptiveRouting.Proof.Recorded
import AdaptiveRouting.Proof.Generations
import AdaptiveRouting.Proof.GenerationTable
import AdaptiveRouting.Proof.Placement
import AdaptiveRouting.Proof.Unrelated
import AdaptiveRouting.Proof.UpstreamOrder
import AdaptiveRouting.Proof.Dependents
import AdaptiveRouting.Proof.Freshness
import AdaptiveRouting.Proof.Restart
import AdaptiveRouting.Proof.Rejections
import AdaptiveRouting.Proof.Structure
import AdaptiveRouting.Proof.Retained
import AdaptiveRouting.Proof.Currentness
import AdaptiveRouting.Proof.Overtake
import AdaptiveRouting.Proof.Frames
import AdaptiveRouting.Proof.Messages
import AdaptiveRouting.Proof.Tenure
import AdaptiveRouting.Proof.Outstanding
import AdaptiveRouting.Proof.Identities
import AdaptiveRouting.Proof.Annals
import AdaptiveRouting.Proof.Staleness
import AdaptiveRouting.Proof.Ranked
import AdaptiveRouting.Fabric.Explain
import AdaptiveRouting.Proof.Verdict
import AdaptiveRouting.Proof.Emergency
import AdaptiveRouting.Proof.Merit
import AdaptiveRouting.Proof.Dampening
import AdaptiveRouting.Proof.Decay
import AdaptiveRouting.Proof.Stability
import AdaptiveRouting.Proof.Offers
import AdaptiveRouting.Proof.Resend
import AdaptiveRouting.Proof.Asymmetry
import AdaptiveRouting.Proof.Totality
import AdaptiveRouting.Proof.FirstFailure
import AdaptiveRouting.Proof.Exits
import AdaptiveRouting.Proof.Consistency
import AdaptiveRouting.Proof.Findings
import AdaptiveRouting.Proof.Series
import AdaptiveRouting.Proof.Incarnations
import AdaptiveRouting.Proof.Drift
import AdaptiveRouting.Proof.Weights
import AdaptiveRouting.Proof.Optional
import AdaptiveRouting.Proof.Scores
import AdaptiveRouting.Proof.Aggregation
import AdaptiveRouting.Proof.Lookup
import AdaptiveRouting.Proof.Composed
import AdaptiveRouting.Proof.Queries
import AdaptiveRouting.Proof.PolicyDigest
import AdaptiveRouting.Proof.Reproducible
import AdaptiveRouting.Proof.Diffs
import AdaptiveRouting.Fabric.Topics
import AdaptiveRouting.Lib.StopAndWait
import AdaptiveRouting.Proof.Exchange
import AdaptiveRouting.Proof.StoreFile
import AdaptiveRouting.Proof.Foretold
import AdaptiveRouting.Proof.Server
import AdaptiveRouting.Proof.Shutdown
import AdaptiveRouting.Proof.Patience
import AdaptiveRouting.Proof.Installation
