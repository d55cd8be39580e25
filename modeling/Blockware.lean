import Blockware.Session
import Blockware.Proofs.Keyed
import Blockware.Proofs.FirstOccurrences
import Blockware.Proofs.Walk
import Blockware.Proofs.Program.Visits
import Blockware.Proofs.Program.Conservation
import Blockware.Proofs.Registry.History
import Blockware.Proofs.Conflicts
import Blockware.Proofs.Dict
import Blockware.Proofs.Json.Canonical
import Blockware.Proofs.Json.Reading
import Blockware.Proofs.Stored.Params
import Blockware.Proofs.Stored.RoundTrip
import Blockware.Proofs.Program.Locality
import Blockware.Proofs.Program.FunctionTable
import Blockware.Proofs.Program.Irrelevance
import Blockware.Proofs.Program.Partition
import Blockware.Proofs.Policy
import Blockware.Proofs.Program.Interleaving
import Blockware.Proofs.Program.Linking
import Blockware.Proofs.Text.Lines
import Blockware.Proofs.Program.Heartbeat
import Blockware.Proofs.Program.CallOrder
import Blockware.Proofs.Text.Braces
import Blockware.Proofs.Program.ShownTexts
import Blockware.Proofs.Program.Levels
import Blockware.Proofs.Program.Scopes
import Blockware.Proofs.Stored.GivenIds
import Blockware.Proofs.Session
import Blockware.Proofs.Program.Requirements
import Blockware.Proofs.BlockTypes
import Blockware.Proofs.Stored.Conflicts
import Blockware.Proofs.Registry.Warning
import Blockware.Proofs.Program.Writing
import Blockware.Proofs.Template
import Blockware.Proofs.Program.DrivenPins
import Blockware.Proofs.Registry.Lookup
import Blockware.Proofs.Program.RepeatedNames
import Blockware.Proofs.Stored.Depth
import Blockware.Proofs.Stored.Detours
import Blockware.Proofs.Stored.OlderBodies
import Blockware.Proofs.Catalog
import Blockware.Proofs.Stored.Definitions
import Blockware.Proofs.InitialParams
import Blockware.Proofs.Program.Configured
import Blockware.Proofs.Program.RepeatedModules
import Blockware.Proofs.Program.Preview
import Blockware.Proofs.Program.Printing
import Blockware.Proofs.Program.UnknownTypes
import Blockware.Proofs.PinRanges
import Blockware.Proofs.BusSpeeds
import Blockware.Proofs.Program.Locals
import Blockware.Proofs.Program.ClaimedPins
