import LuaShell.Command.Arguments
import LuaShell.Command.Basic
import LuaShell.Command.Directory
import LuaShell.Command.Error
import LuaShell.Command.Files
import LuaShell.Command.General
import LuaShell.Command.Running
import LuaShell.Console.Log
import LuaShell.Console.Palette
import LuaShell.FileSystem.Basic
import LuaShell.FileSystem.Edit
import LuaShell.FileSystem.Error
import LuaShell.FileSystem.Lookup
import LuaShell.FileSystem.Open
import LuaShell.FileSystem.Tree
import LuaShell.Hook.Registry
import LuaShell.Host
import LuaShell.Lua.Act
import LuaShell.Lua.Arithmetic
import LuaShell.Lua.Binary
import LuaShell.Lua.Compile
import LuaShell.Lua.Emit
import LuaShell.Lua.Format
import LuaShell.Lua.Grammar
import LuaShell.Lua.Instruction
import LuaShell.Lua.Interpreter
import LuaShell.Lua.Library
import LuaShell.Lua.Library.Base
import LuaShell.Lua.Library.Dates
import LuaShell.Lua.Library.Garbage
import LuaShell.Lua.Library.Modules
import LuaShell.Lua.Library.Numbers
import LuaShell.Lua.Library.Streams
import LuaShell.Lua.Library.Strings
import LuaShell.Lua.Library.System
import LuaShell.Lua.Library.Tables
import LuaShell.Lua.Library.Threads
import LuaShell.Lua.Library.Unicode
import LuaShell.Lua.Machine
import LuaShell.Lua.Naming
import LuaShell.Lua.Nesting
import LuaShell.Lua.Numeral
import LuaShell.Lua.Operand
import LuaShell.Lua.Operation
import LuaShell.Lua.Operator
import LuaShell.Lua.Packing
import LuaShell.Lua.Pattern
import LuaShell.Lua.Raise
import LuaShell.Lua.Reachable
import LuaShell.Lua.Reaction
import LuaShell.Lua.Reader
import LuaShell.Lua.Scope
import LuaShell.Lua.State
import LuaShell.Lua.Step
import LuaShell.Lua.Stream
import LuaShell.Lua.Table
import LuaShell.Lua.Token
import LuaShell.Lua.Traceback
import LuaShell.Lua.Value
import LuaShell.Lua.Word
import LuaShell.Main
import LuaShell.Number.Binary64
import LuaShell.Number.Calendar
import LuaShell.Number.Decimal
import LuaShell.Number.Notation
import LuaShell.Number.Random
import LuaShell.Number.Read
import LuaShell.Path.Basic
import LuaShell.Path.Home
import LuaShell.Path.Normal
import LuaShell.Path.WorkingDirectory
import LuaShell.Process.Launch
import LuaShell.Process.Pipe
import LuaShell.Process.Program
import LuaShell.Process.Request
import LuaShell.Process.Script
import LuaShell.Proofs.Command.DirectoryKept
import LuaShell.Proofs.Command.ExitCode
import LuaShell.Proofs.Command.FileContract
import LuaShell.Proofs.Command.Listing
import LuaShell.Proofs.Command.Parameters
import LuaShell.Proofs.Command.PrintedBytes
import LuaShell.Proofs.Command.ProcessDirectory
import LuaShell.Proofs.Command.Removal
import LuaShell.Proofs.Command.SameDirectory
import LuaShell.Proofs.Command.TwoProcesses
import LuaShell.Proofs.Command.WalkingUp
import LuaShell.Proofs.Copy.Descent
import LuaShell.Proofs.Copy.Fresh
import LuaShell.Proofs.Copy.Growth
import LuaShell.Proofs.Copy.IntoItself
import LuaShell.Proofs.Copy.Merge
import LuaShell.Proofs.Copy.SingleFile
import LuaShell.Proofs.FileSystem.Entries
import LuaShell.Proofs.FileSystem.Folding
import LuaShell.Proofs.FileSystem.Growth
import LuaShell.Proofs.FileSystem.Passing
import LuaShell.Proofs.FileSystem.Places
import LuaShell.Proofs.FileSystem.PlainLookup
import LuaShell.Proofs.FileSystem.ProcessDirectory
import LuaShell.Proofs.FileSystem.PushedName
import LuaShell.Proofs.FileSystem.Removal
import LuaShell.Proofs.FileSystem.Slots
import LuaShell.Proofs.FileSystem.Sound
import LuaShell.Proofs.FileSystem.Spelled
import LuaShell.Proofs.Hook.History
import LuaShell.Proofs.Hook.Registry
import LuaShell.Proofs.Lua.Globals
import LuaShell.Proofs.Lua.LineNumber
import LuaShell.Proofs.Lua.Piece
import LuaShell.Proofs.Number.Binary64
import LuaShell.Proofs.Number.Nearest
import LuaShell.Proofs.Number.Numeral
import LuaShell.Proofs.Path.Canonical
import LuaShell.Proofs.Path.Components
import LuaShell.Proofs.Path.Dots
import LuaShell.Proofs.Path.Home
import LuaShell.Proofs.Path.NormalForm
import LuaShell.Proofs.Path.Normalization
import LuaShell.Proofs.Path.Steps
import LuaShell.Proofs.Path.Textual
import LuaShell.Proofs.Path.WorkingDirectory
import LuaShell.Proofs.Process.Calls
import LuaShell.Proofs.Process.LocalProgram
import LuaShell.Proofs.Process.SameProgram
import LuaShell.Proofs.Script.CallStack
import LuaShell.Proofs.Script.ChunkName
import LuaShell.Proofs.Script.FirstFrame
import LuaShell.Proofs.Script.Leaving
import LuaShell.Proofs.Script.LineCount
import LuaShell.Proofs.Script.Location
import LuaShell.Proofs.Script.NativeFailure
import LuaShell.Proofs.Script.Outcome
import LuaShell.Proofs.Script.Place
import LuaShell.Proofs.Script.Sequence
import LuaShell.Proofs.Script.SourceLine
import LuaShell.Proofs.Script.Underline
import LuaShell.Proofs.Script.Verdict
import LuaShell.Proofs.Shell.Actions
import LuaShell.Proofs.Shell.CompletedPath
import LuaShell.Proofs.Shell.Completion
import LuaShell.Proofs.Shell.HookChange
import LuaShell.Proofs.Shell.Hooks
import LuaShell.Proofs.Shell.Leaving
import LuaShell.Proofs.Shell.Lines
import LuaShell.Proofs.Shell.OpenString
import LuaShell.Proofs.Shell.Respelling
import LuaShell.Proofs.Text.Truncated
import LuaShell.Proofs.Text.Utf8
import LuaShell.Regex.CharClass
import LuaShell.Regex.Fault
import LuaShell.Regex.Grammar
import LuaShell.Regex.Matcher
import LuaShell.Regex.Meaning
import LuaShell.Regex.Syntax
import LuaShell.Script.Diagnostic
import LuaShell.Script.Engine
import LuaShell.Script.EngineError
import LuaShell.Script.Unit
import LuaShell.Shell.Basic
import LuaShell.Shell.CommandLine
import LuaShell.Shell.Completion
import LuaShell.Shell.Flags
import LuaShell.Shell.Loop
import LuaShell.Shell.Startup
import LuaShell.SystemShell.Arithmetic
import LuaShell.SystemShell.Builtin
import LuaShell.SystemShell.Calculation
import LuaShell.SystemShell.Expansion
import LuaShell.SystemShell.Grammar
import LuaShell.SystemShell.Pattern
import LuaShell.SystemShell.Printed
import LuaShell.SystemShell.Run
import LuaShell.SystemShell.Search
import LuaShell.SystemShell.Syntax
import LuaShell.SystemShell.Test
import LuaShell.SystemShell.Token
import LuaShell.SystemShell.Utility
import LuaShell.Text.Blank
import LuaShell.Text.Digit
import LuaShell.Text.Folding
import LuaShell.Text.Grapheme
import LuaShell.Text.Letter
import LuaShell.Text.Quoted
import LuaShell.Text.Utf8
import LuaShell.Text.Word
