import SyntheticInput.Files.Tree
import SyntheticInput.Main
import SyntheticInput.Session
import SyntheticInput.Proofs.Dispatcher.History
import SyntheticInput.Proofs.Script.Alias
import SyntheticInput.Proofs.Simulator.Send
import SyntheticInput.Proofs.Trajectory.Account
import SyntheticInput.Proofs.Key.Masking
import SyntheticInput.Proofs.Device.Reliable
import SyntheticInput.Proofs.Simulator.Working
import SyntheticInput.Proofs.Simulator.Move
import SyntheticInput.Proofs.Simulator.Naming
import SyntheticInput.Proofs.Simulator.Turn
import SyntheticInput.Proofs.Simulator.Seeding
import SyntheticInput.Proofs.Session.Quiet
import SyntheticInput.Proofs.Session.Interference
import SyntheticInput.Proofs.Simulator.Cancelling
import SyntheticInput.Proofs.Device.Agreement
import SyntheticInput.Proofs.CommandLine.Input
import SyntheticInput.Proofs.CommandLine.Record
import SyntheticInput.Proofs.CommandLine.Script
import SyntheticInput.Proofs.Command.Target
import SyntheticInput.Proofs.Text.Caseless
import SyntheticInput.Proofs.Simulator.Caseless
import SyntheticInput.Proofs.Script.Directive
import SyntheticInput.Proofs.Trajectory.Landing
import SyntheticInput.Proofs.Decimal.Reader
import SyntheticInput.Proofs.Script.Indexed
import SyntheticInput.Proofs.Trajectory.Course
import SyntheticInput.Proofs.Trajectory.Rounding
import SyntheticInput.Proofs.Trajectory.Tracking
import SyntheticInput.Proofs.Config.Culprit
import SyntheticInput.Proofs.Trajectory.Counting
import SyntheticInput.Proofs.Trajectory.Extent
import SyntheticInput.Proofs.Trajectory.Pacing
import SyntheticInput.Proofs.Trajectory.Bounds
import SyntheticInput.Proofs.Trajectory.Box
import SyntheticInput.Proofs.Text.Pieces
import SyntheticInput.Proofs.Decimal.Integer
import SyntheticInput.Proofs.Event.Object
import SyntheticInput.Proofs.Event.Line
import SyntheticInput.Proofs.CommandLine.Printed
