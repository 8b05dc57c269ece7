import AgvDispatch.Allocation.Distributor
import AgvDispatch.Allocation.Mode
import AgvDispatch.Allocation.OriginTable
import AgvDispatch.Allocation.Strategy
import AgvDispatch.CommandLine.Arguments
import AgvDispatch.CommandLine.Options
import AgvDispatch.CommandLine.Report
import AgvDispatch.CommandLine.Usage
import AgvDispatch.Decimal.Reading
import AgvDispatch.Decimal.Rounded
import AgvDispatch.Decimal.Shortest
import AgvDispatch.Dispatch.Dispatcher
import AgvDispatch.Dispatch.Lane
import AgvDispatch.Dispatch.Rehearsal
import AgvDispatch.Fault
import AgvDispatch.Fleet.Basic
import AgvDispatch.Fleet.Command
import AgvDispatch.Fleet.Planning
import AgvDispatch.Fleet.Report
import AgvDispatch.Fleet.Sink
import AgvDispatch.Fleet.Snapshot
import AgvDispatch.Geometry.Clearance
import AgvDispatch.Geometry.Curve
import AgvDispatch.Geometry.Envelope
import AgvDispatch.Geometry.Point
import AgvDispatch.Geometry.Segment
import AgvDispatch.Geometry.Skeleton
import AgvDispatch.Ini.Reader
import AgvDispatch.Json.Basic
import AgvDispatch.Json.Decode
import AgvDispatch.Json.Fleet
import AgvDispatch.Json.Reader
import AgvDispatch.Json.Settings
import AgvDispatch.Json.Shape
import AgvDispatch.Json.Task
import AgvDispatch.Json.Timestamp
import AgvDispatch.Json.Vehicle
import AgvDispatch.Json.Writer
import AgvDispatch.Json5.Number
import AgvDispatch.Json5.Quoted
import AgvDispatch.Json5.Reader
import AgvDispatch.Main
import AgvDispatch.Network.Edge
import AgvDispatch.Network.Graph
import AgvDispatch.Network.Lattice
import AgvDispatch.Network.Route
import AgvDispatch.Network.Search
import AgvDispatch.Network.Waypoint
import AgvDispatch.Proofs.Allocation.Available
import AgvDispatch.Proofs.Allocation.Labels
import AgvDispatch.Proofs.Allocation.Listed
import AgvDispatch.Proofs.Allocation.Optimum
import AgvDispatch.Proofs.Allocation.OriginKey
import AgvDispatch.Proofs.Allocation.OriginTable
import AgvDispatch.Proofs.Allocation.Parking
import AgvDispatch.Proofs.Allocation.Registered
import AgvDispatch.Proofs.Allocation.Revalidation
import AgvDispatch.Proofs.Dispatch.Accounting
import AgvDispatch.Proofs.Dispatch.Fifo
import AgvDispatch.Proofs.Dispatch.Flush
import AgvDispatch.Proofs.Dispatch.Lane
import AgvDispatch.Proofs.Fleet.Atomicity
import AgvDispatch.Proofs.Fleet.Booking
import AgvDispatch.Proofs.Fleet.Bookkeeping
import AgvDispatch.Proofs.Fleet.Collision
import AgvDispatch.Proofs.Fleet.Commitment
import AgvDispatch.Proofs.Fleet.Cost
import AgvDispatch.Proofs.Fleet.Delivery
import AgvDispatch.Proofs.Fleet.Detour
import AgvDispatch.Proofs.Fleet.Effect
import AgvDispatch.Proofs.Fleet.Event
import AgvDispatch.Proofs.Fleet.Following
import AgvDispatch.Proofs.Fleet.Grounded
import AgvDispatch.Proofs.Fleet.Ledger
import AgvDispatch.Proofs.Fleet.Lifecycle
import AgvDispatch.Proofs.Fleet.Naming
import AgvDispatch.Proofs.Fleet.Offline
import AgvDispatch.Proofs.Fleet.OnMap
import AgvDispatch.Proofs.Fleet.Operation
import AgvDispatch.Proofs.Fleet.Protocol
import AgvDispatch.Proofs.Fleet.Queue
import AgvDispatch.Proofs.Fleet.Separation
import AgvDispatch.Proofs.Geometry.Clearance
import AgvDispatch.Proofs.Geometry.Curve
import AgvDispatch.Proofs.Geometry.Distance
import AgvDispatch.Proofs.Geometry.Segment
import AgvDispatch.Proofs.Geometry.Skeleton
import AgvDispatch.Proofs.ListParts
import AgvDispatch.Proofs.Network.BreadthFirst
import AgvDispatch.Proofs.Network.Fingerprint
import AgvDispatch.Proofs.Network.Lattice
import AgvDispatch.Proofs.Network.LatticeRoute
import AgvDispatch.Proofs.Network.Length
import AgvDispatch.Proofs.Network.Near
import AgvDispatch.Proofs.Network.Route
import AgvDispatch.Proofs.Network.Search
import AgvDispatch.Proofs.Network.TwoWay
import AgvDispatch.Proofs.Scalar.Arithmetic
import AgvDispatch.Proofs.Scalar.Bounds
import AgvDispatch.Proofs.Scalar.Nearest
import AgvDispatch.Proofs.Scalar.Ranked
import AgvDispatch.Proofs.Scalar.Real
import AgvDispatch.Proofs.Scalar.Unpacked
import AgvDispatch.Proofs.Scalar.Unsigned
import AgvDispatch.Proofs.Scalar.Value
import AgvDispatch.Proofs.Settings.Check
import AgvDispatch.Proofs.Simulation.Accounting
import AgvDispatch.Proofs.Simulation.Assembly
import AgvDispatch.Proofs.Simulation.Collision
import AgvDispatch.Proofs.Simulation.Completion
import AgvDispatch.Proofs.Simulation.Course
import AgvDispatch.Proofs.Simulation.GridSide
import AgvDispatch.Proofs.Simulation.Guidance
import AgvDispatch.Proofs.Simulation.Trail
import AgvDispatch.Proofs.Task.Backlog
import AgvDispatch.Proofs.Task.Numbered
import AgvDispatch.Proofs.Task.SubTask
import AgvDispatch.Proofs.Text.Integer
import AgvDispatch.Proofs.Text.Listing
import AgvDispatch.Proofs.Traffic.Avoidance
import AgvDispatch.Proofs.Traffic.BackOff
import AgvDispatch.Proofs.Traffic.BoxIndex
import AgvDispatch.Proofs.Traffic.BroadPhase
import AgvDispatch.Proofs.Traffic.Claim
import AgvDispatch.Proofs.Traffic.Contact
import AgvDispatch.Proofs.Traffic.Corridor
import AgvDispatch.Proofs.Traffic.DoubleIndex
import AgvDispatch.Proofs.Traffic.Event
import AgvDispatch.Proofs.Traffic.Footprint
import AgvDispatch.Proofs.Traffic.Region
import AgvDispatch.Proofs.Traffic.Reservation
import AgvDispatch.Proofs.Traffic.Safety
import AgvDispatch.Proofs.Traffic.Scan
import AgvDispatch.Proofs.Traffic.Table
import AgvDispatch.Proofs.Vehicle.Registry
import AgvDispatch.Ron.Number
import AgvDispatch.Ron.Quoted
import AgvDispatch.Ron.Reader
import AgvDispatch.Scalar.Basic
import AgvDispatch.Scalar.Double
import AgvDispatch.Settings.Basic
import AgvDispatch.Settings.Check
import AgvDispatch.Settings.Document
import AgvDispatch.Settings.FileTree
import AgvDispatch.Settings.Layer
import AgvDispatch.Settings.Reading
import AgvDispatch.Settings.Source
import AgvDispatch.Settings.Tree
import AgvDispatch.Simulation.ChaCha
import AgvDispatch.Simulation.Demand
import AgvDispatch.Simulation.GridSide
import AgvDispatch.Simulation.Run
import AgvDispatch.Simulation.Summary
import AgvDispatch.Task.Backlog
import AgvDispatch.Task.Order
import AgvDispatch.Task.Stage
import AgvDispatch.Task.SubTask
import AgvDispatch.Text.Blank
import AgvDispatch.Text.Cased
import AgvDispatch.Text.Digit
import AgvDispatch.Text.Gap
import AgvDispatch.Text.Integer
import AgvDispatch.Text.Letter
import AgvDispatch.Text.Listing
import AgvDispatch.Text.Lower
import AgvDispatch.Text.NameMark
import AgvDispatch.Text.Range
import AgvDispatch.Text.Surrogate
import AgvDispatch.Text.Upper
import AgvDispatch.Time.Calendar
import AgvDispatch.Toml.Basic
import AgvDispatch.Toml.Moment
import AgvDispatch.Toml.Number
import AgvDispatch.Toml.Quoted
import AgvDispatch.Toml.Reader
import AgvDispatch.Traffic.Basic
import AgvDispatch.Traffic.BoxIndex
import AgvDispatch.Traffic.Safety
import AgvDispatch.Vehicle.Basic
import AgvDispatch.Vehicle.Registry
import AgvDispatch.Yaml.Basic
import AgvDispatch.Yaml.BlockText
import AgvDispatch.Yaml.Cursor
import AgvDispatch.Yaml.Layout
import AgvDispatch.Yaml.Node
import AgvDispatch.Yaml.Plain
import AgvDispatch.Yaml.Property
import AgvDispatch.Yaml.Quoted
import AgvDispatch.Yaml.Reader
import AgvDispatch.Yaml.Token
