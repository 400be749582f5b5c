import RuntimeBridge.Json.Printer
import RuntimeBridge.Type.Json
import RuntimeBridge.Scene.Script
import RuntimeBridge.Scene.Session
import RuntimeBridge.Proofs.Cell.Payload
import RuntimeBridge.Proofs.Type.Tag
import RuntimeBridge.Proofs.Value.Tree
import RuntimeBridge.Proofs.Wire.Leaf
import RuntimeBridge.Proofs.Wire.Structure
import RuntimeBridge.Proofs.Wire.Form
import RuntimeBridge.Proofs.Wire.Dimensions
import RuntimeBridge.Proofs.Wire.ArrayTags
import RuntimeBridge.Proofs.Wire.Decoding
import RuntimeBridge.Proofs.Wire.Traversal
import RuntimeBridge.Proofs.World.Registered
import RuntimeBridge.Proofs.Wire.Identities
import RuntimeBridge.Proofs.Wire.RoundTrip
import RuntimeBridge.Proofs.Abi.ErrorSlot
import RuntimeBridge.Proofs.Call.Exported
import RuntimeBridge.Proofs.Wire.Conforming
import RuntimeBridge.Proofs.Call.Transparency
import RuntimeBridge.Proofs.Engine.Lifecycle
import RuntimeBridge.Proofs.Engine.LiveCounts
import RuntimeBridge.Proofs.Engine.Turns
import RuntimeBridge.Proofs.World.Freeing
import RuntimeBridge.Proofs.World.Sound
import RuntimeBridge.Proofs.Wire.Marks
import RuntimeBridge.Proofs.Call.Buffers
import RuntimeBridge.Proofs.Wire.Accounting
import RuntimeBridge.Proofs.Wire.Noted
import RuntimeBridge.Proofs.Call.Events
import RuntimeBridge.Proofs.Call.Balance
import RuntimeBridge.Proofs.World.Ledger
import RuntimeBridge.Proofs.Host.Isolation
import RuntimeBridge.Proofs.World.Lent
import RuntimeBridge.Proofs.Call.Lending
import RuntimeBridge.Proofs.Host.Custody
import RuntimeBridge.Proofs.World.Extends
import RuntimeBridge.Proofs.Host.Aliases
import RuntimeBridge.Proofs.Wire.Marshalled
import RuntimeBridge.Proofs.Wire.Settled
import RuntimeBridge.Proofs.Wire.Idempotent
import RuntimeBridge.Proofs.Wire.Integers
import RuntimeBridge.Proofs.Handle.History
import RuntimeBridge.Proofs.Host.Serving
import RuntimeBridge.Proofs.Host.Resolution
import RuntimeBridge.Proofs.Wire.Lockstep
import RuntimeBridge.Proofs.Wire.Announced
import RuntimeBridge.Proofs.Wire.Contract
import RuntimeBridge.Proofs.Wire.Pins
import RuntimeBridge.Proofs.Call.Pins
import RuntimeBridge.Proofs.Call.Routes
import RuntimeBridge.Proofs.Text.Decoding
import RuntimeBridge.Proofs.Cell.TextCodec
import RuntimeBridge.Proofs.Error.Place
import RuntimeBridge.Proofs.Wire.Rows
import RuntimeBridge.Proofs.Wire.Checks
import RuntimeBridge.Proofs.Wire.FirstFailure
import RuntimeBridge.Proofs.Call.Delivery
import RuntimeBridge.Proofs.Value.Leaves
import RuntimeBridge.Proofs.World.Growth
import RuntimeBridge.Proofs.Wire.Nameless
import RuntimeBridge.Proofs.Wire.Footprint
import RuntimeBridge.Proofs.Call.FailedDispatch
import RuntimeBridge.Proofs.Cell.CharCodec
import RuntimeBridge.Proofs.Value.Conversion
import RuntimeBridge.Proofs.Environment.References
import RuntimeBridge.Proofs.Environment.SinglePass
import RuntimeBridge.Proofs.Text.Trimming
import RuntimeBridge.Proofs.Entity.Items
import RuntimeBridge.Proofs.Entity.Order
import RuntimeBridge.Proofs.Entity.Reading
import RuntimeBridge.Proofs.Entity.Canonical
import RuntimeBridge.Proofs.Host.Registration
import RuntimeBridge.Proofs.Type.Descriptors
import RuntimeBridge.Proofs.Type.Names
import RuntimeBridge.Proofs.Json.RoundTrip
import RuntimeBridge.Proofs.Type.SignatureJson
import RuntimeBridge.Proofs.Cell.Stored
import RuntimeBridge.Proofs.Cell.Lifetime
import RuntimeBridge.Proofs.Wire.PathStack
import RuntimeBridge.Proofs.Wire.Overheard
import RuntimeBridge.Proofs.Wire.Reports
