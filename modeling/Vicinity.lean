import Vicinity.Channel.Stage
import Vicinity.Executor.Workshop
import Vicinity.Frame.Update
import Vicinity.Hub.Session
import Vicinity.Interest.Filter
import Vicinity.Interest.Routes
import Vicinity.Json.Field
import Vicinity.Log.Session
import Vicinity.Network.Stage
import Vicinity.Queue.Store
import Vicinity.Settings.Layers
import Vicinity.Settings.Written
import Vicinity.System.Notes
import Vicinity.Text.Order
import Vicinity.World.Square
import Vicinity.Proofs.Channel
import Vicinity.Proofs.Broker.InProcess
import Vicinity.Proofs.Network.InProcess
import Vicinity.Proofs.System.History
import Vicinity.Proofs.System.InProcess
import Vicinity.Proofs.Broker.Middleware
import Vicinity.Proofs.Network.Exchange
import Vicinity.Proofs.Network.Relay
import Vicinity.Proofs.Network.Dispatch
import Vicinity.Proofs.Broker.Attachment
import Vicinity.Proofs.Broker.Deferred
import Vicinity.Proofs.Network.Deferred
import Vicinity.Proofs.System.Middleware
import Vicinity.Proofs.Executor.Events
import Vicinity.Proofs.Executor.Accounting
import Vicinity.Proofs.Executor.Lifecycle
import Vicinity.Proofs.Queue.Requests
import Vicinity.Proofs.Queue.Conservation
import Vicinity.Proofs.Queue.Sort
import Vicinity.Proofs.Queue.Consumption
import Vicinity.Proofs.Queue.Removal
import Vicinity.Proofs.Channel.Register
import Vicinity.Proofs.Channel.Reentry
import Vicinity.Proofs.Hub.Threads
import Vicinity.Proofs.Hub.Passage
import Vicinity.Proofs.Hub.Protocol
import Vicinity.Proofs.Hub.Standing
import Vicinity.Proofs.Dyconit.Chunks
import Vicinity.Proofs.Executor.Shutdown
import Vicinity.Proofs.Executor.Refresh
import Vicinity.Proofs.Executor.RunOrder
import Vicinity.Proofs.System.Likeness
import Vicinity.Proofs.System.Interleaving
import Vicinity.Proofs.System.Churn
import Vicinity.Proofs.Broker.Confinement
import Vicinity.Proofs.Network.Acts
import Vicinity.Proofs.Network.Retired
import Vicinity.Proofs.Network.Names
import Vicinity.Proofs.World.Square
import Vicinity.Proofs.World.Sweep
import Vicinity.Proofs.Interest.Isolation
import Vicinity.Proofs.Dyconit.Descriptor
import Vicinity.Proofs.Dyconit.Grammar
import Vicinity.Proofs.Dyconit.Gradient
import Vicinity.Proofs.Kind
import Vicinity.Proofs.Settings.Validate
import Vicinity.Proofs.Settings.Build
import Vicinity.Proofs.Settings.Layers
import Vicinity.Proofs.Text.Utf8
import Vicinity.Proofs.Json.Text
import Vicinity.Proofs.Json.Number
import Vicinity.Proofs.Json.Value
import Vicinity.Proofs.Json.Shape
import Vicinity.Proofs.Frame.RoundTrip
import Vicinity.Proofs.Broker.Fate
import Vicinity.Proofs.Network.Course
import Vicinity.Proofs.Network.Tally
import Vicinity.Proofs.Network.Accounts
import Vicinity.Proofs.Network.Balance
