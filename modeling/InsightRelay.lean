import InsightRelay.Client.Scripted
import InsightRelay.Main
import InsightRelay.Message.Schema
import InsightRelay.Proofs.Client.Credentials
import InsightRelay.Proofs.Command.Configuration
import InsightRelay.Proofs.Command.Run
import InsightRelay.Proofs.Config.Document
import InsightRelay.Proofs.Insight
import InsightRelay.Proofs.Manifest.Document
import InsightRelay.Proofs.Manifest.FirstProblem
import InsightRelay.Proofs.Manifest.Graph
import InsightRelay.Proofs.Message.Merge
import InsightRelay.Proofs.Queue.Barrier
import InsightRelay.Proofs.Queue.Wake
import InsightRelay.Proofs.Registry.Log
import InsightRelay.Proofs.Relay.Breakdown
import InsightRelay.Proofs.Relay.Confluence
import InsightRelay.Proofs.Relay.Drain
import InsightRelay.Proofs.Relay.Routing
import InsightRelay.Queue.Settle
import InsightRelay.Wire.Code
