import TemplateBuild.CommandLine.Arguments
import TemplateBuild.CommandLine.Completion
import TemplateBuild.CommandLine.Execution
import TemplateBuild.CommandLine.Invocation
import TemplateBuild.CommandLine.Parameter
import TemplateBuild.CommandLine.UsageError
import TemplateBuild.Config.Error
import TemplateBuild.Config.File
import TemplateBuild.Config.Layer
import TemplateBuild.Config.Settings
import TemplateBuild.Config.Table
import TemplateBuild.Config.Value
import TemplateBuild.Decimal.Binary64
import TemplateBuild.Decimal.Digits
import TemplateBuild.Decimal.Format
import TemplateBuild.Decimal.Remainder
import TemplateBuild.Duration
import TemplateBuild.Duration.Reading
import TemplateBuild.Encoding.Basic
import TemplateBuild.Encoding.CodePage
import TemplateBuild.Encoding.Decode
import TemplateBuild.Encoding.Encode
import TemplateBuild.Encoding.FourByte
import TemplateBuild.Encoding.Index
import TemplateBuild.Encoding.Labels
import TemplateBuild.Encoding.Signs
import TemplateBuild.Engine.Error
import TemplateBuild.Engine.Fetch
import TemplateBuild.Engine.Identity
import TemplateBuild.Engine.Listing
import TemplateBuild.Engine.Provision
import TemplateBuild.Environment
import TemplateBuild.FileTree.Basic
import TemplateBuild.FileTree.Change
import TemplateBuild.FileTree.Failure
import TemplateBuild.FileTree.Reading
import TemplateBuild.FileTree.Route
import TemplateBuild.HelperGate
import TemplateBuild.Http.Network
import TemplateBuild.JavaScript.Action
import TemplateBuild.JavaScript.Display
import TemplateBuild.JavaScript.Evaluation
import TemplateBuild.JavaScript.Host
import TemplateBuild.JavaScript.Interpreter
import TemplateBuild.JavaScript.Library.Addresses
import TemplateBuild.JavaScript.Library.Basic
import TemplateBuild.JavaScript.Library.Collections
import TemplateBuild.JavaScript.Library.Functions
import TemplateBuild.JavaScript.Library.Json
import TemplateBuild.JavaScript.Library.Lists
import TemplateBuild.JavaScript.Library.Numbers
import TemplateBuild.JavaScript.Library.Objects
import TemplateBuild.JavaScript.Library.Regexes
import TemplateBuild.JavaScript.Library.Texts
import TemplateBuild.JavaScript.Numeral
import TemplateBuild.JavaScript.Objects
import TemplateBuild.JavaScript.Operators
import TemplateBuild.JavaScript.Parser
import TemplateBuild.JavaScript.Patterns
import TemplateBuild.JavaScript.Reader
import TemplateBuild.JavaScript.Regex.Match
import TemplateBuild.JavaScript.Regex.Parser
import TemplateBuild.JavaScript.Regex.Syntax
import TemplateBuild.JavaScript.Syntax
import TemplateBuild.JavaScript.Token
import TemplateBuild.JavaScript.Value
import TemplateBuild.Json.Reader
import TemplateBuild.Json.Writer
import TemplateBuild.Layout
import TemplateBuild.Lua.Action
import TemplateBuild.Lua.Chunk
import TemplateBuild.Lua.Evaluation
import TemplateBuild.Lua.Host
import TemplateBuild.Lua.Interpreter
import TemplateBuild.Lua.Jumps
import TemplateBuild.Lua.Library.Arguments
import TemplateBuild.Lua.Library.Basic
import TemplateBuild.Lua.Library.Format
import TemplateBuild.Lua.Library.Mathematics
import TemplateBuild.Lua.Library.Pattern
import TemplateBuild.Lua.Library.Scripts
import TemplateBuild.Lua.Library.Surroundings
import TemplateBuild.Lua.Library.Tables
import TemplateBuild.Lua.Library.Texts
import TemplateBuild.Lua.Library.Threads
import TemplateBuild.Lua.Library.Unicode
import TemplateBuild.Lua.Numeral
import TemplateBuild.Lua.Operators
import TemplateBuild.Lua.Parser
import TemplateBuild.Lua.Syntax
import TemplateBuild.Lua.Table
import TemplateBuild.Lua.Token
import TemplateBuild.Lua.Value
import TemplateBuild.Main
import TemplateBuild.Module.Text
import TemplateBuild.Module.Writer
import TemplateBuild.Path
import TemplateBuild.Proofs.CommandLine.Formats
import TemplateBuild.Proofs.CommandLine.Provisioning
import TemplateBuild.Proofs.Config.Acceptance
import TemplateBuild.Proofs.Config.Stacking
import TemplateBuild.Proofs.Config.Tables
import TemplateBuild.Proofs.Config.Timeouts
import TemplateBuild.Proofs.Decimal.Rounding
import TemplateBuild.Proofs.Encoding.Characters
import TemplateBuild.Proofs.Encoding.Chinese
import TemplateBuild.Proofs.Encoding.Iso2022
import TemplateBuild.Proofs.Encoding.Pairs
import TemplateBuild.Proofs.Encoding.RoundTrip
import TemplateBuild.Proofs.Engine.Again
import TemplateBuild.Proofs.Engine.Entries
import TemplateBuild.Proofs.Engine.Lookup
import TemplateBuild.Proofs.Engine.Naming
import TemplateBuild.Proofs.Engine.Provision
import TemplateBuild.Proofs.Engine.Redirects
import TemplateBuild.Proofs.Engine.Requests
import TemplateBuild.Proofs.Engine.Resolving
import TemplateBuild.Proofs.Environment
import TemplateBuild.Proofs.FileTree.Above
import TemplateBuild.Proofs.FileTree.Arriving
import TemplateBuild.Proofs.FileTree.Below
import TemplateBuild.Proofs.FileTree.Changing
import TemplateBuild.Proofs.FileTree.Directories
import TemplateBuild.Proofs.FileTree.Entering
import TemplateBuild.Proofs.FileTree.Entries
import TemplateBuild.Proofs.FileTree.Following
import TemplateBuild.Proofs.FileTree.Growing
import TemplateBuild.Proofs.FileTree.Reaching
import TemplateBuild.Proofs.FileTree.Repeating
import TemplateBuild.Proofs.FileTree.Replacing
import TemplateBuild.Proofs.FileTree.Retracing
import TemplateBuild.Proofs.FileTree.Sorting
import TemplateBuild.Proofs.Interleaving
import TemplateBuild.Proofs.JavaScript.Options
import TemplateBuild.Proofs.Json.Strings
import TemplateBuild.Proofs.Json.Values
import TemplateBuild.Proofs.Lua.Borders
import TemplateBuild.Proofs.Lua.Options
import TemplateBuild.Proofs.Lua.Tables
import TemplateBuild.Proofs.Module.Encoded
import TemplateBuild.Proofs.Module.Registrations
import TemplateBuild.Proofs.Module.Writing
import TemplateBuild.Proofs.Path.Endings
import TemplateBuild.Proofs.Path.Joining
import TemplateBuild.Proofs.Run.Account
import TemplateBuild.Proofs.Run.Collisions
import TemplateBuild.Proofs.Run.Dryness
import TemplateBuild.Proofs.Run.Flatten
import TemplateBuild.Proofs.Run.Foreseeing
import TemplateBuild.Proofs.Run.Foretelling
import TemplateBuild.Proofs.Run.Fresh
import TemplateBuild.Proofs.Run.Policies
import TemplateBuild.Proofs.Run.Preparing
import TemplateBuild.Proofs.Run.Repeating
import TemplateBuild.Proofs.Run.Retaking
import TemplateBuild.Proofs.Run.Rewalking
import TemplateBuild.Proofs.Run.Sparing
import TemplateBuild.Proofs.Run.Stages
import TemplateBuild.Proofs.Run.Steps
import TemplateBuild.Proofs.Run.Success
import TemplateBuild.Proofs.Run.Unordered
import TemplateBuild.Proofs.Sandbox.Gate
import TemplateBuild.Proofs.Sandbox.Heap
import TemplateBuild.Proofs.Text.Bytes
import TemplateBuild.Proofs.Text.Canonical
import TemplateBuild.Proofs.Text.Ordering
import TemplateBuild.Proofs.Text.Units
import TemplateBuild.Proofs.Text.Utf8
import TemplateBuild.Proofs.Walk.Agenda
import TemplateBuild.Proofs.Walk.Directory
import TemplateBuild.Proofs.Walk.Discovery
import TemplateBuild.Proofs.Walk.Flatten
import TemplateBuild.Proofs.Walk.Growing
import TemplateBuild.Proofs.Walk.Linked
import TemplateBuild.Proofs.Walk.Order
import TemplateBuild.Proofs.Walk.Output
import TemplateBuild.Proofs.Walk.Sheltered
import TemplateBuild.Proofs.World
import TemplateBuild.Run.Basic
import TemplateBuild.Run.Error
import TemplateBuild.Sandbox.Basic
import TemplateBuild.Sandbox.Error
import TemplateBuild.Sandbox.Output
import TemplateBuild.Text.Blank
import TemplateBuild.Text.LetterCase
import TemplateBuild.Text.Quoted
import TemplateBuild.Text.Units
import TemplateBuild.Text.Utf8
import TemplateBuild.Url.Basic
import TemplateBuild.Url.Escape
import TemplateBuild.Url.Host
import TemplateBuild.Url.Parser
import TemplateBuild.Url.Punycode
import TemplateBuild.Walk.Bundle
import TemplateBuild.Walk.Error
import TemplateBuild.Walk.Read
import TemplateBuild.Walk.Visit
import TemplateBuild.Whitespace
import TemplateBuild.World
