import ImportMacros.Code
import ImportMacros.Code.Cursor
import ImportMacros.Code.Element
import ImportMacros.Code.Expression
import ImportMacros.Code.Layout
import ImportMacros.Code.Parser
import ImportMacros.Code.Pattern
import ImportMacros.Code.Printer
import ImportMacros.Code.Reader
import ImportMacros.Code.Scope
import ImportMacros.Code.Statement
import ImportMacros.Config.Explorer
import ImportMacros.Config.Merge
import ImportMacros.Config.Place
import ImportMacros.Data.Decimal
import ImportMacros.Data.Double
import ImportMacros.Data.Json
import ImportMacros.Data.Json5
import ImportMacros.Data.Nesting
import ImportMacros.Data.Value
import ImportMacros.Data.Yaml
import ImportMacros.Data.Yaml.Event
import ImportMacros.Data.Yaml.Token
import ImportMacros.Event
import ImportMacros.Expansion
import ImportMacros.Failure
import ImportMacros.FileSystem
import ImportMacros.FileSystem.Disk
import ImportMacros.FileSystem.Memory
import ImportMacros.Macro
import ImportMacros.Module
import ImportMacros.Module.Debug
import ImportMacros.Path
import ImportMacros.Proofs.Canonical
import ImportMacros.Proofs.Collection
import ImportMacros.Proofs.Deletion
import ImportMacros.Proofs.Detour
import ImportMacros.Proofs.Documents
import ImportMacros.Proofs.Drop
import ImportMacros.Proofs.Edit
import ImportMacros.Proofs.Explorer
import ImportMacros.Proofs.Fields
import ImportMacros.Proofs.Finder
import ImportMacros.Proofs.Foremost
import ImportMacros.Proofs.Forms
import ImportMacros.Proofs.Isolation
import ImportMacros.Proofs.Join
import ImportMacros.Proofs.Lines
import ImportMacros.Proofs.Locals
import ImportMacros.Proofs.Look
import ImportMacros.Proofs.Lookup
import ImportMacros.Proofs.Loop
import ImportMacros.Proofs.Merge
import ImportMacros.Proofs.Normalize
import ImportMacros.Proofs.Occurrence
import ImportMacros.Proofs.Order
import ImportMacros.Proofs.Path
import ImportMacros.Proofs.Pattern
import ImportMacros.Proofs.Persistence
import ImportMacros.Proofs.Phases
import ImportMacros.Proofs.Placement
import ImportMacros.Proofs.Precedence
import ImportMacros.Proofs.Raised
import ImportMacros.Proofs.Reach
import ImportMacros.Proofs.Removal
import ImportMacros.Proofs.Resolution
import ImportMacros.Proofs.Rise
import ImportMacros.Proofs.Roles
import ImportMacros.Proofs.Seat
import ImportMacros.Proofs.Sketch
import ImportMacros.Proofs.SourceOrder
import ImportMacros.Proofs.Termination
import ImportMacros.Proofs.Tidy
import ImportMacros.Proofs.Tree
import ImportMacros.Proofs.Twins
import ImportMacros.Proofs.Unused
import ImportMacros.Proofs.Usage
import ImportMacros.Proofs.Writes
import ImportMacros.Recipe
import ImportMacros.References
import ImportMacros.Resolve
import ImportMacros.Resolve.Debug
import ImportMacros.Resolve.Error
import ImportMacros.Resolve.Look
import ImportMacros.Resolve.Metadata
import ImportMacros.Resolve.Package
import ImportMacros.Resolve.Sight
import ImportMacros.Resolve.Source
import ImportMacros.Resolve.Target
import ImportMacros.Statement
import ImportMacros.Statement.Find
import ImportMacros.Statement.Remove
import ImportMacros.Text.Blank
import ImportMacros.Text.Debug
import ImportMacros.Text.Entity
import ImportMacros.Text.Letter
import ImportMacros.Text.Pattern
import ImportMacros.Text.Quoted
import ImportMacros.Tree
import ImportMacros.Tree.Json
import ImportMacros.Tree.Kind
import ImportMacros.Tree.Variables
