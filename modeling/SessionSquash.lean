import SessionSquash.Binary.Format
import SessionSquash.Binary.Float
import SessionSquash.Decimal.Shortest
import SessionSquash.Json.Value
import SessionSquash.Json.Write
import SessionSquash.Json.Read
import SessionSquash.Text.Printable
import SessionSquash.Text.GraphemeExtend
import SessionSquash.Text.Alphanumeric
import SessionSquash.Text.Quoted
import SessionSquash.Json.Decode
import SessionSquash.Record.Kind
import SessionSquash.Record.Shared
import SessionSquash.Record.Entity
import SessionSquash.Record.Chunk
import SessionSquash.Record.World
import SessionSquash.Record.Window
import SessionSquash.Record.Team
import SessionSquash.Record.Session
import SessionSquash.Record.Message
import SessionSquash.Record.Basic
import SessionSquash.Text.Space
import SessionSquash.Coord
import SessionSquash.Registry
import SessionSquash.ErrorCode
import SessionSquash.Log.Line
import SessionSquash.Squash.Config
import SessionSquash.Data.KeyMap
import SessionSquash.Squash.Entity
import SessionSquash.Squash.Chunk
import SessionSquash.Squash.Team
import SessionSquash.Squash.Window
import SessionSquash.Squash.Session
import SessionSquash.Squash.Engine
import SessionSquash.Hash.Blake3
import SessionSquash.Replay.View
import SessionSquash.Toml.Document
import SessionSquash.Toml.Grammar
import SessionSquash.Toml.Table
import SessionSquash.Settings
import SessionSquash.Text.Integer
import SessionSquash.Text.Pattern.Syntax
import SessionSquash.Text.Pattern.Parse
import SessionSquash.Text.Pattern
import SessionSquash.Cli.Spec
import SessionSquash.Cli.Similar
import SessionSquash.Cli.Invocation
import SessionSquash.Cli.Parse
import SessionSquash.Cli.Trace
import SessionSquash.Cli.Host
import SessionSquash.Cli.Workspace
import SessionSquash.Cli.Report
import SessionSquash.Cli.Program
import SessionSquash.Main
import SessionSquash.Proofs.KeyMap
import SessionSquash.Proofs.Replay.Commute
import SessionSquash.Proofs.Replay.Sort
import SessionSquash.Proofs.Squash.Entities
import SessionSquash.Proofs.Coord
import SessionSquash.Proofs.Squash.Chunks
import SessionSquash.Proofs.Squash.EntityTimes
import SessionSquash.Proofs.Squash.Windows
import SessionSquash.Proofs.Squash.Session
import SessionSquash.Proofs.Squash.Teams
import SessionSquash.Proofs.Squash.Routing
import SessionSquash.Proofs.Squash.Finish
import SessionSquash.Proofs.Squash.Stamps
import SessionSquash.Proofs.Squash.Output
import SessionSquash.Proofs.Squash.TieOrder
import SessionSquash.Proofs.Squash.TeamChanges
import SessionSquash.Proofs.Squash.EntityReplay
import SessionSquash.Proofs.Json.Tree
import SessionSquash.Proofs.Replay.Blocks
import SessionSquash.Proofs.Squash.ChunkReplay
import SessionSquash.Proofs.Squash.Loads
import SessionSquash.Proofs.Squash.OutputSize
import SessionSquash.Proofs.Json.Compact
import SessionSquash.Proofs.Replay.Digest
import SessionSquash.Proofs.Squash.TeamPending
import SessionSquash.Proofs.Squash.Drain
import SessionSquash.Proofs.Squash.ChunkCalls
import SessionSquash.Proofs.Squash.SharedRecords
import SessionSquash.Proofs.Log.LineLayout
import SessionSquash.Proofs.Log.Reading
import SessionSquash.Proofs.Squash.Unread
import SessionSquash.Proofs.Squash.Undecoded
import SessionSquash.Proofs.Squash.SessionReplay
import SessionSquash.Proofs.Cli.Stats
import SessionSquash.Proofs.Log.RoundTrip
