import EnvMarkers.Environment.Declaration
import EnvMarkers.Fault
import EnvMarkers.Marker.Cache
import EnvMarkers.Proofs.CacheStates
import EnvMarkers.Proofs.CompiledOrders
import EnvMarkers.Proofs.DeclaredTexts
import EnvMarkers.Proofs.DisplayedItems
import EnvMarkers.Proofs.Duality
import EnvMarkers.Proofs.Histories
import EnvMarkers.Proofs.JoinedTexts
import EnvMarkers.Proofs.MoreCandidates
import EnvMarkers.Proofs.OpenComparisons
import EnvMarkers.Proofs.OperandKinds
import EnvMarkers.Proofs.Parentheses
import EnvMarkers.Proofs.ParsePrint
import EnvMarkers.Proofs.PatternMatches
import EnvMarkers.Proofs.QuotedValues
import EnvMarkers.Proofs.ReadNames
import EnvMarkers.Proofs.ReportedFaults
import EnvMarkers.Proofs.SharedCache
import EnvMarkers.Proofs.SinglePass
import EnvMarkers.Proofs.TreeWalks
import EnvMarkers.Proofs.VersionTexts
import EnvMarkers.Proofs.Walk
