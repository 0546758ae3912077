import Componentry.Attribute.Basic
import Componentry.Attribute.Props
import Componentry.Cursor.Attribute
import Componentry.Cursor.Basic
import Componentry.Cursor.Expansion
import Componentry.Cursor.Naming
import Componentry.Cursor.Tag
import Componentry.Definition.Basic
import Componentry.Definition.Marker
import Componentry.Definition.Placeholder
import Componentry.Diagnostic
import Componentry.Digest.Sha256
import Componentry.Discovery
import Componentry.Document.Builder.Body
import Componentry.Document.Builder.Foreign
import Componentry.Document.Builder.Formatting
import Componentry.Document.Builder.Head
import Componentry.Document.Builder.Insert
import Componentry.Document.Builder.Other
import Componentry.Document.Builder.State
import Componentry.Document.Builder.Table
import Componentry.Document.Doctype
import Componentry.Document.Draft
import Componentry.Document.Named
import Componentry.Document.Node
import Componentry.Document.Parse
import Componentry.Document.Reference
import Componentry.Document.Tag
import Componentry.Document.Token
import Componentry.Document.Tokenizer
import Componentry.Engine.Basic
import Componentry.Engine.Compiled
import Componentry.Engine.Load
import Componentry.Engine.Options
import Componentry.Expansion.Basic
import Componentry.Expansion.Recovery
import Componentry.Expansion.Unit
import Componentry.FileTree.Basic
import Componentry.FileTree.Listing
import Componentry.FileTree.Resolve
import Componentry.Glob
import Componentry.Json.Basic
import Componentry.Json.Skip
import Componentry.Log
import Componentry.Namespace
import Componentry.Number.Binary
import Componentry.Number.Shortest
import Componentry.Path
import Componentry.Proofs.Attribute.Interpolation
import Componentry.Proofs.Attribute.Precedence
import Componentry.Proofs.Attribute.Printing
import Componentry.Proofs.BlockEnds
import Componentry.Proofs.CanonicalText
import Componentry.Proofs.Capitals
import Componentry.Proofs.CommonDirectory
import Componentry.Proofs.Compilation
import Componentry.Proofs.Coupling.Calls
import Componentry.Proofs.Coupling.Code
import Componentry.Proofs.Coupling.Definitions
import Componentry.Proofs.Coupling.Evaluation
import Componentry.Proofs.Coupling.Execution
import Componentry.Proofs.Coupling.Runs
import Componentry.Proofs.Coupling.Scopes
import Componentry.Proofs.Cursor.Attributes
import Componentry.Proofs.Cursor.Bytes
import Componentry.Proofs.Cursor.Expansion
import Componentry.Proofs.Cursor.Matching
import Componentry.Proofs.Cursor.Scan
import Componentry.Proofs.Cursor.Spans
import Componentry.Proofs.Cursor.Tags
import Componentry.Proofs.Cursor.Unclosed
import Componentry.Proofs.Depth
import Componentry.Proofs.Diagnostics
import Componentry.Proofs.Excerpts
import Componentry.Proofs.Fallback
import Componentry.Proofs.Irrelevance.Code
import Componentry.Proofs.Irrelevance.Contexts
import Componentry.Proofs.Irrelevance.Evaluation
import Componentry.Proofs.Irrelevance.PlainProjects
import Componentry.Proofs.Irrelevance.Rendering
import Componentry.Proofs.Levels.Evaluation
import Componentry.Proofs.Levels.Execution
import Componentry.Proofs.Levels.Runs
import Componentry.Proofs.Levels.Scopes
import Componentry.Proofs.Listing
import Componentry.Proofs.MacroExpansion.Environments
import Componentry.Proofs.MacroExpansion.Exceptions
import Componentry.Proofs.MacroExpansion.Project
import Componentry.Proofs.MacroExpansion.Rendering
import Componentry.Proofs.MacroExpansion.Simulation
import Componentry.Proofs.MacroExpansion.Statements
import Componentry.Proofs.MacroExpansion.Translation
import Componentry.Proofs.MacroExpansion.Tree
import Componentry.Proofs.Markers.Blocks
import Componentry.Proofs.Markers.Segments
import Componentry.Proofs.Markers.Tags
import Componentry.Proofs.Markup.Attributes
import Componentry.Proofs.Markup.EmptyElements
import Componentry.Proofs.Markup.Expansion
import Componentry.Proofs.Markup.Gather
import Componentry.Proofs.Markup.Markers
import Componentry.Proofs.Markup.QuotedTags
import Componentry.Proofs.Markup.Search
import Componentry.Proofs.Markup.Tags
import Componentry.Proofs.Markup.Tree
import Componentry.Proofs.Markup.WrittenAttributes
import Componentry.Proofs.Numbering
import Componentry.Proofs.Origins
import Componentry.Proofs.Patterns
import Componentry.Proofs.Provenance.Code
import Componentry.Proofs.Provenance.Expressions
import Componentry.Proofs.Provenance.Invocation
import Componentry.Proofs.Provenance.Operations
import Componentry.Proofs.Provenance.PlainProjects
import Componentry.Proofs.Provenance.Statements
import Componentry.Proofs.Provenance.Tokens
import Componentry.Proofs.Provenance.Values
import Componentry.Proofs.Quoting
import Componentry.Proofs.RawBlocks
import Componentry.Proofs.References.Outline
import Componentry.Proofs.References.Ownership
import Componentry.Proofs.References.Resolution
import Componentry.Proofs.Slots.Extraction
import Componentry.Proofs.Slots.Fallbacks
import Componentry.Proofs.Slots.Installation
import Componentry.Proofs.Slots.Labels
import Componentry.Proofs.Slots.Pages
import Componentry.Proofs.Slots.Placeholders
import Componentry.Proofs.Slots.Precedence
import Componentry.Proofs.Slots.Shadowing
import Componentry.Proofs.StringLiterals
import Componentry.Proofs.Template.Code
import Componentry.Proofs.Template.Events
import Componentry.Proofs.Template.Lexing
import Componentry.Proofs.Template.Maps
import Componentry.Proofs.Template.Parsing
import Componentry.Proofs.Template.Paths
import Componentry.Proofs.Template.Refusals
import Componentry.Proofs.Template.Results
import Componentry.Proofs.Template.Running
import Componentry.Proofs.UnitOrder
import Componentry.Proofs.Verbatim
import Componentry.Regex
import Componentry.Registry
import Componentry.Session
import Componentry.Slot.Basic
import Componentry.Source
import Componentry.Tag.Basic
import Componentry.Tag.Block
import Componentry.Tag.Location
import Componentry.Tag.Scan
import Componentry.Template.Arguments
import Componentry.Template.Constant
import Componentry.Template.Escape
import Componentry.Template.Eval
import Componentry.Template.Exec
import Componentry.Template.Failure
import Componentry.Template.Filter
import Componentry.Template.Filter.Items
import Componentry.Template.Filter.Test
import Componentry.Template.Filter.Text
import Componentry.Template.Function
import Componentry.Template.Host
import Componentry.Template.Lexer
import Componentry.Template.Literal
import Componentry.Template.Names
import Componentry.Template.Operation
import Componentry.Template.Parser.Basic
import Componentry.Template.Parser.Expression
import Componentry.Template.Parser.Statement
import Componentry.Template.Run
import Componentry.Template.Scope
import Componentry.Template.Token
import Componentry.Template.Tree
import Componentry.Template.Value
import Componentry.Text.Basic
import Componentry.Text.Case
import Componentry.Text.Display
import Componentry.Text.Letter
import Componentry.Text.Quoted
import Componentry.Text.Search
