import CmdletForge.Data.Format
import CmdletForge.Data.Mismatch
import CmdletForge.Data.Value
import CmdletForge.Decimal.Notation
import CmdletForge.Decimal.Shortest
import CmdletForge.Description.Buffered
import CmdletForge.Description.Document
import CmdletForge.Description.Load
import CmdletForge.Description.Lowering
import CmdletForge.Generation.Failure
import CmdletForge.Generation.Report
import CmdletForge.Generation.Synthesis
import CmdletForge.Json.Lexeme
import CmdletForge.Json.Printer
import CmdletForge.Json.Reader
import CmdletForge.Json.Value
import CmdletForge.Namespace.Basic
import CmdletForge.Namespace.Commands
import CmdletForge.Namespace.ModelCommands
import CmdletForge.Namespace.Models
import CmdletForge.Namespace.Service
import CmdletForge.Namespace.Support
import CmdletForge.Naming.Casing
import CmdletForge.Naming.Unique
import CmdletForge.Naming.Words
import CmdletForge.Output.Descriptor
import CmdletForge.Output.Staging
import CmdletForge.Output.Substitution
import CmdletForge.Project.Assembly
import CmdletForge.Project.Document
import CmdletForge.Project.Emission
import CmdletForge.Proofs.Naming.Characters
import CmdletForge.Proofs.Naming.Unique
import CmdletForge.Proofs.Order.FirstSeen
import CmdletForge.Proofs.Schema.Closed
import CmdletForge.Proofs.Types.Core
import CmdletForge.Proofs.Types.Registry
import CmdletForge.Proofs.Types.Transcript
import CmdletForge.Schema.Model
import CmdletForge.Schema.Validation
import CmdletForge.Settings.Config
import CmdletForge.Settings.Layout
import CmdletForge.Settings.Project
import CmdletForge.Settings.Reading
import CmdletForge.Text.Alphabetic
import CmdletForge.Text.Blank
import CmdletForge.Text.CaseMap
import CmdletForge.Text.CodeRange
import CmdletForge.Text.LetterCase
import CmdletForge.Text.Numeric
import CmdletForge.Text.Quoted
import CmdletForge.Types.Declaration
import CmdletForge.Types.Literal
import CmdletForge.Types.Override
import CmdletForge.Types.Registry
import CmdletForge.Types.Resolver
import CmdletForge.Yaml.Cursor
import CmdletForge.Yaml.Event
import CmdletForge.Yaml.Node
import CmdletForge.Yaml.Reader
import CmdletForge.Yaml.Resolution
import CmdletForge.Yaml.ScalarText
import CmdletForge.Yaml.Tag
import CmdletForge.Yaml.Token
import CmdletForge.Proofs.Types.Resolution
import CmdletForge.Proofs.Generation.Steps
import CmdletForge.Proofs.Namespace.Definitions
import CmdletForge.Proofs.Namespace.Drain
import CmdletForge.Proofs.Namespace.Models
import CmdletForge.Proofs.Types.Reach
import CmdletForge.Proofs.Settings.Keys
import CmdletForge.Proofs.Namespace.Commands
import CmdletForge.Proofs.Namespace.Trees
import CmdletForge.Proofs.Namespace.Insertion
import CmdletForge.Proofs.Project.Assembly
import CmdletForge.Proofs.Types.Standing
import CmdletForge.Proofs.Generation.Yields
import CmdletForge.Proofs.Namespace.Completeness
import CmdletForge.Proofs.Order.Groups
import CmdletForge.Proofs.Namespace.Variants
import CmdletForge.Proofs.Namespace.Partition
import CmdletForge.Proofs.Project.Completeness
import CmdletForge.Proofs.Output.Rewriting
import CmdletForge.Proofs.Json.Layout
import CmdletForge.Proofs.Output.Encoding
import CmdletForge.Proofs.Json.Lexeme
import CmdletForge.Proofs.Json.Reader
import CmdletForge.Proofs.Output.Staging
import CmdletForge.Proofs.Project.Document
import CmdletForge.Proofs.Project.Emission
import CmdletForge.Proofs.Project.Atomicity
import CmdletForge.Proofs.Namespace.Indexed
import CmdletForge.Proofs.Namespace.Lifecycle
import CmdletForge.Proofs.Schema.Nested
import CmdletForge.Proofs.Description.Placement
import CmdletForge.Proofs.Description.Shaping
import CmdletForge.Proofs.Description.Lowering
import CmdletForge.Proofs.Types.Extension
import CmdletForge.Proofs.Generation.Follows
import CmdletForge.Proofs.Namespace.Growth
import CmdletForge.Proofs.Settings.Defaults
import CmdletForge.Proofs.Schema.Building
import CmdletForge.Proofs.Types.Chain
import CmdletForge.Proofs.Types.InPlace
import CmdletForge.Proofs.Types.Optional
import CmdletForge.Proofs.Namespace.Properties
import CmdletForge.Proofs.Namespace.ClassNames
import CmdletForge.Proofs.Naming.Ascii
import CmdletForge.Proofs.Namespace.Aliases
import CmdletForge.Proofs.Namespace.Parameters
import CmdletForge.Proofs.Description.Faults
import CmdletForge.Proofs.Description.References
import CmdletForge.Proofs.Data.Matching
import CmdletForge.Proofs.Data.Whole
import CmdletForge.Proofs.Json.Skipping
import CmdletForge.Proofs.Json.Streaming
import CmdletForge.Proofs.Description.Decoding
import CmdletForge.Proofs.Description.Attempts
import CmdletForge.Proofs.Description.Openings
import CmdletForge.Proofs.Description.AdditionalProperties
import CmdletForge.Proofs.Output.Additions
import CmdletForge.Proofs.Output.Tiling
import CmdletForge.Proofs.Output.Precedence
import CmdletForge.Proofs.Output.Seams
import CmdletForge.Proofs.Project.Frame
import CmdletForge.Proofs.Schema.Validation
import CmdletForge.Proofs.Types.Defaults
import CmdletForge.Proofs.Naming.Beginnings
import CmdletForge.Proofs.Generation.NewTypes
import CmdletForge.Proofs.Namespace.Beginnings
import CmdletForge.Proofs.Naming.Scanning
import CmdletForge.Proofs.Naming.Boundaries
import CmdletForge.Proofs.Naming.Recasing
import CmdletForge.Proofs.Naming.Humps
import CmdletForge.Proofs.Namespace.Members
import CmdletForge.Proofs.Naming.Letters
import CmdletForge.Proofs.Naming.Marks
import CmdletForge.Proofs.Naming.Numbering
import CmdletForge.Proofs.Namespace.Grouping
import CmdletForge.Proofs.Types.Literals
