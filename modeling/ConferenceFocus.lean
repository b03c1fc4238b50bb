import ConferenceFocus.Identity
import ConferenceFocus.Media.Streams
import ConferenceFocus.Colibri.Draft
import ConferenceFocus.Colibri.Allocation
import ConferenceFocus.Control.Call
import ConferenceFocus.Simulation.ScriptedBridge
import ConferenceFocus.Simulation.SimulatedBridge
import ConferenceFocus.Membership.Roster
import ConferenceFocus.Fleet.Services
import ConferenceFocus.Fleet.Subscription
import ConferenceFocus.Settings.Configuration
import ConferenceFocus.Telemetry.Registry
import ConferenceFocus.Json.Descriptions
import ConferenceFocus.Json.Reader
import ConferenceFocus.Json.Writer
import ConferenceFocus.Simulation.Sample
import ConferenceFocus.Proofs.RosterConvergence
import ConferenceFocus.Proofs.ConfirmedState
import ConferenceFocus.Proofs.BridgeExpiry
import ConferenceFocus.Proofs.SourceReplacement
import ConferenceFocus.Proofs.QueueNetting
import ConferenceFocus.Proofs.RosterChanges
import ConferenceFocus.Proofs.WithdrawnSources
import ConferenceFocus.Proofs.StaleSources
import ConferenceFocus.Proofs.ConferenceIdentity
import ConferenceFocus.Proofs.SendingConditions
import ConferenceFocus.Proofs.SequenceNumbers
import ConferenceFocus.Proofs.ConferenceShape
import ConferenceFocus.Proofs.GrantRetention
import ConferenceFocus.Proofs.LapsedConferences
import ConferenceFocus.Proofs.OpeningSignal
import ConferenceFocus.Proofs.AllocationOutcome
import ConferenceFocus.Proofs.SharedBridge
import ConferenceFocus.Proofs.SourceOwners
import ConferenceFocus.Proofs.GroupCoverage
import ConferenceFocus.Proofs.RearrangedQueues
import ConferenceFocus.Proofs.BridgeEvents
import ConferenceFocus.Proofs.IndependentChanges
import ConferenceFocus.Proofs.DepartedNodes
import ConferenceFocus.Proofs.RetractedStreams
import ConferenceFocus.Proofs.DirectionChanges
import ConferenceFocus.Proofs.MergedReplies
import ConferenceFocus.Proofs.AddressedDescriptors
import ConferenceFocus.Proofs.RejectedRequests
import ConferenceFocus.Proofs.ImportedAnswers
import ConferenceFocus.Proofs.BridgeChoice
import ConferenceFocus.Proofs.StateVersions
import ConferenceFocus.Proofs.RequestCounts
import ConferenceFocus.Proofs.CheckedSettings
import ConferenceFocus.Proofs.BuiltSets
import ConferenceFocus.Proofs.SetAlgebra
import ConferenceFocus.Proofs.SetLoops
