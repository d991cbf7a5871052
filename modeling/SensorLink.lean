import SensorLink.Bench.Bus
import SensorLink.Bench.CallerStore
import SensorLink.Bench.Fault
import SensorLink.Bench.FourWireTarget
import SensorLink.Bench.Link
import SensorLink.Bench.Recorder
import SensorLink.Bench.ScriptedBus
import SensorLink.Bench.Session
import SensorLink.Bench.Station
import SensorLink.Bench.TwoWireTarget
import SensorLink.Bench.Watch
import SensorLink.Bytes
import SensorLink.Bytes.Number
import SensorLink.Bytes.Scratch
import SensorLink.Bytes.Store
import SensorLink.Control.Boundary
import SensorLink.Control.Command
import SensorLink.Control.Endpoint
import SensorLink.Control.Request
import SensorLink.Count
import SensorLink.Future
import SensorLink.Outcome
import SensorLink.Readiness
import SensorLink.Readiness.Waiter
import SensorLink.Register.Access
import SensorLink.Register.Address
import SensorLink.Register.Borrowed
import SensorLink.Register.Bus
import SensorLink.Register.File
import SensorLink.Register.Span
import SensorLink.Sensor
import SensorLink.Text.Hex
import SensorLink.Wire.Binding
import SensorLink.Wire.FourWire
import SensorLink.Wire.Header
import SensorLink.Wire.Setup
import SensorLink.Wire.TwoWire
import SensorLink.Proofs.Contents
import SensorLink.Proofs.Register.Tiling
import SensorLink.Proofs.Simulation
import SensorLink.Proofs.Register.Serving
import SensorLink.Proofs.Control.CallerMemory
import SensorLink.Proofs.Control.Progress
import SensorLink.Proofs.Bench.Serving
import SensorLink.Proofs.Control.FailureAccounting
import SensorLink.Proofs.Control.TransferCorrect
import SensorLink.Proofs.Control.BufferCheck
import SensorLink.Proofs.FlatSensor
import SensorLink.Proofs.Register.ChunkProtocol
import SensorLink.Proofs.Register.AddressSpace
import SensorLink.Proofs.Register.Answering
import SensorLink.Proofs.Operations
import SensorLink.Proofs.Wire.Answering
import SensorLink.Proofs.NoTraps
import SensorLink.Proofs.Readiness.Occurrences
import SensorLink.Proofs.Wire.Overwriting
import SensorLink.Proofs.StaleBytes
import SensorLink.Proofs.Control.Retrying
import SensorLink.Proofs.Control.Status
import SensorLink.Proofs.Control.Independence
import SensorLink.Proofs.Jobs
import SensorLink.Proofs.Wire.Transparency
import SensorLink.Proofs.Wire.WireLog
import SensorLink.Proofs.Wire.SplitReads
import SensorLink.Proofs.Control.Stretches
import SensorLink.Proofs.Control.Staging
import SensorLink.Proofs.Detection
import SensorLink.Proofs.Control.SpanChecks
import SensorLink.Proofs.Control.CopyFailure
import SensorLink.Proofs.Readiness.TimedWait
import SensorLink.Proofs.Control.WindowCalls
import SensorLink.Proofs.Positional
import SensorLink.Proofs.Control.CommandNumbers
import SensorLink.Proofs.Control.RequestRecords
