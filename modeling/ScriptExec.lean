import ScriptExec.ArgList
import ScriptExec.Builtin
import ScriptExec.Builtin.Call
import ScriptExec.Builtin.Files
import ScriptExec.Builtin.Handles
import ScriptExec.Bytes
import ScriptExec.CallArgs
import ScriptExec.CommandLine
import ScriptExec.Config
import ScriptExec.ExecError
import ScriptExec.Executor
import ScriptExec.Guard
import ScriptExec.Host.FileTree
import ScriptExec.Host.Layout
import ScriptExec.Host.Program
import ScriptExec.Host.Replacement
import ScriptExec.Host.System
import ScriptExec.IoError
import ScriptExec.Launch
import ScriptExec.Launch.Concurrent
import ScriptExec.Log.Filter
import ScriptExec.Log.Level
import ScriptExec.Log.Record
import ScriptExec.Main
import ScriptExec.Multiplexer
import ScriptExec.Named
import ScriptExec.Path
import ScriptExec.Privileges
import ScriptExec.Program
import ScriptExec.Request
import ScriptExec.SearchPath
import ScriptExec.Session
import ScriptExec.Shell.Capture
import ScriptExec.Shell.Eval
import ScriptExec.Shell.Fields
import ScriptExec.Shell.Format
import ScriptExec.Shell.Machine
import ScriptExec.Shell.Parser
import ScriptExec.Shell.Pattern
import ScriptExec.Shell.Syntax
import ScriptExec.Shell.Utility
import ScriptExec.Text.Alphanumeric
import ScriptExec.Text.Blank
import ScriptExec.Text.Quoted
import ScriptExec.Text.Ranges
import ScriptExec.Text.Unprintable
import ScriptExec.Text.Utf8
import ScriptExec.Toml.Parser
import ScriptExec.Toml.Scalar
import ScriptExec.Toml.Value
import ScriptExec.Value
import ScriptExec.Value.Array
import ScriptExec.WorkingDirectory
import ScriptExec.World
import ScriptExec.Writing
import ScriptExec.Proofs.Interleaving
import ScriptExec.Proofs.Multiplexer.Delivery
import ScriptExec.Proofs.Multiplexer.Verdict
import ScriptExec.Proofs.Launch.Step
import ScriptExec.Proofs.Launch.Agreement
import ScriptExec.Proofs.Launch.Trace
import ScriptExec.Proofs.Launch.Output
import ScriptExec.Proofs.Launch.Frame
import ScriptExec.Proofs.Launch.Cleanup
import ScriptExec.Proofs.Launch.Journey
import ScriptExec.Proofs.Host.ContainingDir
import ScriptExec.Proofs.Executor.Calls
import ScriptExec.Proofs.Host.Choice
import ScriptExec.Proofs.Executor.Spawning
import ScriptExec.Proofs.Executor.Relocation
import ScriptExec.Proofs.Bytes
import ScriptExec.Proofs.Executor.InPlace
import ScriptExec.Proofs.Launch.Course
import ScriptExec.Proofs.Launch.Order
import ScriptExec.Proofs.Launch.Holding
import ScriptExec.Proofs.Concurrent.Exclusion
import ScriptExec.Proofs.Executor.Sharing
import ScriptExec.Proofs.Concurrent.Nesting
import ScriptExec.Proofs.Concurrent.Pair
import ScriptExec.Proofs.Guard.History
import ScriptExec.Proofs.Guard.Faithful
import ScriptExec.Proofs.Executor.OpenFiles
import ScriptExec.Proofs.Builtin.Handles
import ScriptExec.Proofs.Builtin.Contexts
import ScriptExec.Proofs.Host.Descriptors
import ScriptExec.Proofs.Executor.Reports
import ScriptExec.Proofs.Writing
import ScriptExec.Proofs.Builtin.Reports
import ScriptExec.Proofs.Launch.Narration
import ScriptExec.Proofs.Host.Tries
import ScriptExec.Proofs.Executor.Discovery
import ScriptExec.Proofs.Text.Utf8
import ScriptExec.Proofs.Value.Forms
import ScriptExec.Proofs.Launch.Requests
import ScriptExec.Proofs.Builtin.ByteForms
import ScriptExec.Proofs.Launch.Abandonment
import ScriptExec.Proofs.Builtin.Files
import ScriptExec.Proofs.Lookup
import ScriptExec.Proofs.Strokes
import ScriptExec.Proofs.Host.Strides
import ScriptExec.Proofs.Host.Entries
import ScriptExec.Proofs.Host.Renaming
import ScriptExec.Proofs.Host.Temporary
import ScriptExec.Proofs.Host.Replacement
import ScriptExec.Proofs.Host.Contents
import ScriptExec.Proofs.Builtin.Ledger
import ScriptExec.Proofs.Builtin.Sessions
import ScriptExec.Proofs.Host.Pieces
import ScriptExec.Proofs.Writing.Answers
import ScriptExec.Proofs.Builtin.Writes
import ScriptExec.Proofs.Host.Keeping
import ScriptExec.Proofs.Builtin.Cursors
import ScriptExec.Proofs.Launch.Offspring
import ScriptExec.Proofs.Executor.Remains
import ScriptExec.Proofs.Builtin.Failures
import ScriptExec.Proofs.Launch.Arguments
import ScriptExec.Proofs.Executor.Arguments
import ScriptExec.Proofs.Builtin.Arguments
import ScriptExec.Proofs.CommandLine.Vectors
import ScriptExec.Proofs.Value.Integers
import ScriptExec.Proofs.WorkingDirectory
import ScriptExec.Proofs.Executor.Reserve
import ScriptExec.Proofs.Program
import ScriptExec.Proofs.Path.Stripped
import ScriptExec.Proofs.Host.LookupDirectory
import ScriptExec.Proofs.Text.Order
import ScriptExec.Proofs.Named
import ScriptExec.Proofs.Value.Stores
import ScriptExec.Proofs.Text.Blank
import ScriptExec.Proofs.Log.Level
import ScriptExec.Proofs.Launch.Reading
import ScriptExec.Proofs.Config
