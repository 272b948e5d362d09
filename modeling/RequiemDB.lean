import RequiemDB.Lib.Program
import RequiemDB.Lib.Quoted
import RequiemDB.Idmef.Message
import RequiemDB.Sql.Statement
import RequiemDB.Sql.Operation
import RequiemDB.Classic.Insert
import RequiemDB.Classic.Rows
import RequiemDB.Classic.Script
import RequiemDB.Classic.AllOrNothing
import RequiemDB.Classic.Ownership
import RequiemDB.Classic.Delete
import RequiemDB.Classic.Reachable
import RequiemDB.Classic.Deletion
import RequiemDB.Admin.Copy
import RequiemDB.Admin.Delete
import RequiemDB.Admin.Fallback
import RequiemDB.Admin.Move
import RequiemDB.Admin.Requested
import RequiemDB.Admin.Save
import RequiemDB.Admin.Window
import RequiemDB.Sql.Confinement
import RequiemDB.Classic.Concurrent
import RequiemDB.Idmef.Path
import RequiemDB.Query.Join
import RequiemDB.Query.Resolve
import RequiemDB.Query.Values
import RequiemDB.Query.Columns
import RequiemDB.Query.TopTable
import RequiemDB.Query.Sharing
import RequiemDB.Query.Binding
import RequiemDB.Classic.Places
import RequiemDB.Query.Chain
import RequiemDB.Query.Selection
import RequiemDB.Query.Permissions
import RequiemDB.Query.Ordinals
import RequiemDB.Sql.LockBalance
import RequiemDB.Lib.Machine
import RequiemDB.Sql.Cursor
import RequiemDB.Sql.Sessions
import RequiemDB.Lib.Condition
import RequiemDB.Sql.Calendar
import RequiemDB.Query.Criteria
import RequiemDB.Query.Server
import RequiemDB.Query.Complement
import RequiemDB.Query.BrokenDownTime
import RequiemDB.Idmef.Shape
import RequiemDB.Sql.Token
import RequiemDB.Classic.Shape
import RequiemDB.Classic.Transcript
import RequiemDB.Query.CriteriaShape
import RequiemDB.Sql.Field
import RequiemDB.Sql.Escaping
import RequiemDB.Sql.Conversions
import RequiemDB.Classic.Get
import RequiemDB.Classic.Reading
import RequiemDB.Classic.Payload
import RequiemDB.Classic.Shown
import RequiemDB.Classic.Footprint
import RequiemDB.Idmef.Texts
import RequiemDB.Classic.Answered
import RequiemDB.Classic.Rebuild
import RequiemDB.Classic.Returned
import RequiemDB.Classic.RoundTrip
import RequiemDB.Classic.EmptyTexts
import RequiemDB.Classic.Failures
import RequiemDB.Classic.PrimaryKeys
import RequiemDB.Classic.Collisions
import RequiemDB.Sql.Settings
import RequiemDB.Lib.Pattern
import RequiemDB.Query.Patterns
import RequiemDB.Lib.Threads
import RequiemDB.Sql.Steps
import RequiemDB.Sql.Apart
import RequiemDB.Admin.Stages
import RequiemDB.Admin.Resume
import RequiemDB.Admin.Batches
import RequiemDB.Admin.Resumption
import RequiemDB.Query.SelectedStrings
import RequiemDB.Classic.IdentList
import RequiemDB.Classic.IdentStream
import RequiemDB.Initialisation
import RequiemDB.Admin.Load
import RequiemDB.Lib.Listing
import RequiemDB.Query.Listing
import RequiemDB.Sql.Timestamps
import RequiemDB.Classic.Integers
import RequiemDB.Classic.Successes
import RequiemDB.Classic.ListKeys
import RequiemDB.Classic.ListIndexes
import RequiemDB.Admin.DeleteTable
import RequiemDB.Lib.Routine
import RequiemDB.Sql.PgsqlErrors
import RequiemDB.Sql.Scanner
import RequiemDB.Sql.ScannerLoop
import RequiemDB.Lib.Archive
import RequiemDB.Classic.Archive
import RequiemDB.Classic.ArchiveReading
import RequiemDB.Lib.Confined
import RequiemDB.Classic.Locality
import RequiemDB.Classic.Generations
import RequiemDB.Admin.Sites
import RequiemDB.Lib.Simulation
import RequiemDB.Admin.Mirror
import RequiemDB.Admin.SafeMove
import RequiemDB.Admin.WholeCopy
import RequiemDB.Admin.Print
import RequiemDB.Classic.Undisturbed
import RequiemDB.Lib.Pages
import RequiemDB.Query.Pages
import RequiemDB.Lib.OuterJoin
import RequiemDB.Query.Matching
import RequiemDB.Query.Elements
import RequiemDB.Query.Meaning
import RequiemDB.Query.Search
import RequiemDB.Query.Found
import RequiemDB.Query.ReadBack
import RequiemDB.Classic.Literals
