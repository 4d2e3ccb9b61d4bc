import Compositor.Config.Bindings
import Compositor.Config.Document
import Compositor.Config.Invalid
import Compositor.Config.Loading
import Compositor.Config.Schema
import Compositor.Event
import Compositor.Failure
import Compositor.Fault
import Compositor.Flags
import Compositor.Geometry
import Compositor.Grab
import Compositor.Handle
import Compositor.Headless
import Compositor.Host
import Compositor.Host.Error
import Compositor.Host.Path
import Compositor.KeyBindings
import Compositor.Keysym
import Compositor.Launch.Command
import Compositor.Launch.Options
import Compositor.Logging.Level
import Compositor.Logging.Setup
import Compositor.Registry.Basic
import Compositor.Registry.Process
import Compositor.Server.Basic
import Compositor.Server.Call
import Compositor.Server.Dispatch
import Compositor.Server.Focus
import Compositor.Server.Keyboard
import Compositor.Server.Lifecycle
import Compositor.Server.Output
import Compositor.Server.Pointer
import Compositor.Server.Shell
import Compositor.Simulation.Files.Error
import Compositor.Simulation.Files.Tree
import Compositor.Simulation.Host
import Compositor.Simulation.Scenario
import Compositor.Simulation.Script.Arithmetic
import Compositor.Simulation.Script.Builtins
import Compositor.Simulation.Script.Builtins.Basic
import Compositor.Simulation.Script.Builtins.Control
import Compositor.Simulation.Script.Builtins.Surroundings
import Compositor.Simulation.Script.Builtins.Text
import Compositor.Simulation.Script.Builtins.Variables
import Compositor.Simulation.Script.Calendar
import Compositor.Simulation.Script.Command
import Compositor.Simulation.Script.Condition
import Compositor.Simulation.Script.Escapes
import Compositor.Simulation.Script.Expansion
import Compositor.Simulation.Script.Formatted
import Compositor.Simulation.Script.Machine
import Compositor.Simulation.Script.Matching
import Compositor.Simulation.Script.Meaning
import Compositor.Simulation.Script.Mode
import Compositor.Simulation.Script.Pattern
import Compositor.Simulation.Script.Programs
import Compositor.Simulation.Script.Programs.Basic
import Compositor.Simulation.Script.Programs.Bytes
import Compositor.Simulation.Script.Programs.Characters
import Compositor.Simulation.Script.Programs.Comparing
import Compositor.Simulation.Script.Programs.Comparing.Differences
import Compositor.Simulation.Script.Programs.Comparing.Shortest
import Compositor.Simulation.Script.Programs.Digests
import Compositor.Simulation.Script.Programs.Editing
import Compositor.Simulation.Script.Programs.Editing.Basic
import Compositor.Simulation.Script.Programs.Editing.Reading
import Compositor.Simulation.Script.Programs.Editing.Running
import Compositor.Simulation.Script.Programs.Facts
import Compositor.Simulation.Script.Programs.Fields
import Compositor.Simulation.Script.Programs.Finding
import Compositor.Simulation.Script.Programs.Finding.Basic
import Compositor.Simulation.Script.Programs.Finding.Reading
import Compositor.Simulation.Script.Programs.Lines
import Compositor.Simulation.Script.Programs.Listing
import Compositor.Simulation.Script.Programs.Making
import Compositor.Simulation.Script.Programs.Names
import Compositor.Simulation.Script.Programs.Numbers
import Compositor.Simulation.Script.Programs.Options
import Compositor.Simulation.Script.Programs.Plain
import Compositor.Simulation.Script.Programs.Searching
import Compositor.Simulation.Script.Programs.Sorting
import Compositor.Simulation.Script.Programs.Starting
import Compositor.Simulation.Script.Programs.System
import Compositor.Simulation.Script.Programs.Transfer
import Compositor.Simulation.Script.Reading
import Compositor.Simulation.Script.Redirecting
import Compositor.Simulation.Script.Regular
import Compositor.Simulation.Script.Running
import Compositor.Simulation.Script.Session
import Compositor.Simulation.Script.Shell
import Compositor.Simulation.Script.Signal
import Compositor.Simulation.Script.Source
import Compositor.Text.Characters
import Compositor.Text.Lowercase
import Compositor.Text.Lowercase.Tables
import Compositor.Text.Quoted
import Compositor.Text.Quoted.Tables
import Compositor.Text.Reader
import Compositor.Text.Shortest
import Compositor.Text.Structural
import Compositor.Toml.Document
import Compositor.Toml.Scalar
import Compositor.Toml.Text
import Compositor.Toml.Value
import Compositor.Toolkit
import Compositor.WindowTable
import Compositor.Proofs.Config.Acceptance
import Compositor.Proofs.Config.Overriding
import Compositor.Proofs.Config.Resolving
import Compositor.Proofs.Config.Validity
import Compositor.Proofs.Grab.Axes
import Compositor.Proofs.Grab.Resizing
import Compositor.Proofs.Grab.Translation
import Compositor.Proofs.Grab.Whole
import Compositor.Proofs.Keys.Naming
import Compositor.Proofs.Keys.Table
import Compositor.Proofs.Logging.Keeping
import Compositor.Proofs.Registry.Acts
import Compositor.Proofs.Registry.Answers
import Compositor.Proofs.Registry.Change
import Compositor.Proofs.Registry.Coherent
import Compositor.Proofs.Registry.Conservation
import Compositor.Proofs.Registry.Destruction
import Compositor.Proofs.Registry.Firing
import Compositor.Proofs.Registry.Incarnation
import Compositor.Proofs.Registry.Independence
import Compositor.Proofs.Registry.Indexed
import Compositor.Proofs.Registry.Ledger
import Compositor.Proofs.Registry.Refinement
import Compositor.Proofs.Registry.Registration
import Compositor.Proofs.Registry.Retirement
import Compositor.Proofs.Registry.Run
import Compositor.Proofs.Registry.Snapshots
import Compositor.Proofs.Registry.Steps
import Compositor.Proofs.Registry.WellFormed
import Compositor.Proofs.Server.Activation
import Compositor.Proofs.Server.Coherence
import Compositor.Proofs.Server.Confluence
import Compositor.Proofs.Server.Cycling
import Compositor.Proofs.Server.Devices
import Compositor.Proofs.Server.Dragging
import Compositor.Proofs.Server.Faults
import Compositor.Proofs.Server.Final
import Compositor.Proofs.Server.FocusStack
import Compositor.Proofs.Server.FrontFocus
import Compositor.Proofs.Server.Granting
import Compositor.Proofs.Server.KeyRouting
import Compositor.Proofs.Server.Lifetimes
import Compositor.Proofs.Server.Mapping
import Compositor.Proofs.Server.Misfits
import Compositor.Proofs.Server.PaintOrder
import Compositor.Proofs.Server.Parting
import Compositor.Proofs.Server.Records
import Compositor.Proofs.Server.ScenePlaces
import Compositor.Proofs.Server.Starting
import Compositor.Proofs.Server.Termination
import Compositor.Proofs.Server.Tracking
import Compositor.Proofs.Windows.Recency
