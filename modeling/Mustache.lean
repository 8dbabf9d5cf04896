import Mustache.CommandLine.Arguments
import Mustache.CommandLine.Config
import Mustache.CommandLine.Log
import Mustache.CommandLine.Run
import Mustache.Context
import Mustache.Data.Json.Number
import Mustache.Data.Json.Reader
import Mustache.Data.Json.Token
import Mustache.Data.Toml.Datetime
import Mustache.Data.Toml.Document
import Mustache.Data.Toml.Item
import Mustache.Data.Toml.Node
import Mustache.Data.Toml.Number
import Mustache.Data.Toml.Scan
import Mustache.Data.Toml.Statement
import Mustache.Data.Toml.Text
import Mustache.Fault
import Mustache.Files.Basic
import Mustache.Files.Path
import Mustache.Files.Tree
import Mustache.Library
import Mustache.Main
import Mustache.Number.Arithmetic
import Mustache.Number.Binary64
import Mustache.Number.Notation
import Mustache.Number.Reading
import Mustache.Number.Rounding
import Mustache.Number.Shortest
import Mustache.Number.Word
import Mustache.Parser
import Mustache.Partial.Binding
import Mustache.Partial.Custom
import Mustache.Partial.Inspect
import Mustache.Partial.Ready
import Mustache.Partial.Registry
import Mustache.Partial.Resolver
import Mustache.Proofs.Partial.Binding
import Mustache.Proofs.Partial.Evolution
import Mustache.Proofs.Partial.Growth
import Mustache.Proofs.Partial.Reach
import Mustache.Proofs.Render.Agreement
import Mustache.Proofs.Render.Closure
import Mustache.Proofs.Render.Outcome
import Mustache.Proofs.Render.Schedule
import Mustache.Proofs.Render.Simulation
import Mustache.Proofs.Session.Abandonment
import Mustache.Proofs.Session.Basic
import Mustache.Proofs.Session.Soundness
import Mustache.Proofs.Session.Stability
import Mustache.Proofs.Template.Acceptance
import Mustache.Proofs.Template.Derivation
import Mustache.Proofs.Template.Grammar
import Mustache.Proofs.Template.Passage
import Mustache.Proofs.Template.References
import Mustache.Proofs.Template.Scan
import Mustache.Proofs.Template.Spelling
import Mustache.Render.Basic
import Mustache.Render.Channel
import Mustache.Render.Recorder
import Mustache.Render.Section
import Mustache.Render.Sink
import Mustache.Render.Walk
import Mustache.Render.Writer
import Mustache.Template.Basic
import Mustache.Template.Delimiters
import Mustache.Template.Element
import Mustache.Template.Flaw
import Mustache.Template.Inspect
import Mustache.Template.Reader
import Mustache.Template.Scan
import Mustache.Template.Tag
import Mustache.Text.Blank
import Mustache.Text.Entity
import Mustache.Text.Printable
import Mustache.Text.Quoted
import Mustache.Text.Ranges
import Mustache.Value.Basic
import Mustache.Value.Datum
import Mustache.Value.Display
import Mustache.Value.Equality
import Mustache.Value.Inspect
import Mustache.Value.Lookup
import Mustache.Proofs.Render.Obliviousness
import Mustache.Proofs.Render.Failure
import Mustache.Proofs.Render.Halves
import Mustache.Proofs.Partial.Mirror
import Mustache.Proofs.Partial.Cache
import Mustache.Proofs.Partial.Course
import Mustache.Proofs.Render.Mirrored
import Mustache.Proofs.Render.Escaping
import Mustache.Proofs.Session.Transparency
import Mustache.Proofs.Session.History
import Mustache.Proofs.Session.Consistency
import Mustache.Proofs.Session.Resolution
import Mustache.Proofs.Session.Registration
import Mustache.Proofs.Template.Formation
import Mustache.Proofs.Template.Writing
import Mustache.Proofs.Partial.Comparison
import Mustache.Proofs.Partial.Dependence
import Mustache.Proofs.Render.Encoding
import Mustache.Proofs.Session.ByName
import Mustache.Proofs.Session.Directory
import Mustache.Proofs.CommandLine.Effect
import Mustache.Proofs.CommandLine.Rendering
import Mustache.Proofs.CommandLine.Checking
import Mustache.Proofs.Value.Equality
import Mustache.Proofs.Value.Lookup
import Mustache.Proofs.Context.Resolution
import Mustache.Proofs.Context.ScalarFrame
import Mustache.Proofs.Context.Finiteness
import Mustache.Proofs.Render.Complement
import Mustache.Proofs.Session.Listing
import Mustache.Proofs.Session.Joining
import Mustache.Proofs.Template.Location
import Mustache.Proofs.Template.TagEnd
import Mustache.Proofs.Template.Leftmost
import Mustache.Proofs.Render.Framing
import Mustache.Proofs.Render.Termination
import Mustache.Proofs.Context.Truncation
import Mustache.Proofs.Render.Laziness
import Mustache.Proofs.Template.Usability
