import FunctionConsole.Api.Call
import FunctionConsole.Api.Client
import FunctionConsole.Api.Error
import FunctionConsole.Api.Payload
import FunctionConsole.ApiReference
import FunctionConsole.Canvas.Ansi
import FunctionConsole.Canvas.Box
import FunctionConsole.Canvas.Buffer
import FunctionConsole.Canvas.Layout
import FunctionConsole.Canvas.Line
import FunctionConsole.Canvas.Paragraph
import FunctionConsole.Canvas.Rect
import FunctionConsole.Canvas.Simplex
import FunctionConsole.Canvas.Style
import FunctionConsole.Canvas.Table
import FunctionConsole.Canvas.Tabs
import FunctionConsole.CodeExample
import FunctionConsole.CommandLine
import FunctionConsole.Console
import FunctionConsole.Decimal.Shortest
import FunctionConsole.Dialog
import FunctionConsole.Editor.EnvEditor
import FunctionConsole.Editor.TextArea
import FunctionConsole.Editor.TextInput
import FunctionConsole.ErrorReport
import FunctionConsole.Frame
import FunctionConsole.Frame.Code
import FunctionConsole.Frame.Create
import FunctionConsole.Frame.Diff
import FunctionConsole.Frame.Execution
import FunctionConsole.Frame.Executions
import FunctionConsole.Frame.Functions
import FunctionConsole.Frame.Gallery
import FunctionConsole.Frame.Login
import FunctionConsole.Frame.Settings
import FunctionConsole.Frame.Test
import FunctionConsole.Frame.Versions
import FunctionConsole.Gallery
import FunctionConsole.Json.Basic
import FunctionConsole.Json.Codec
import FunctionConsole.Json.Cursor
import FunctionConsole.Json.Fault
import FunctionConsole.Json.Reader
import FunctionConsole.Json.Writer
import FunctionConsole.Key
import FunctionConsole.KeyEvent
import FunctionConsole.Main
import FunctionConsole.Paging
import FunctionConsole.Palette
import FunctionConsole.Paths
import FunctionConsole.Piece.ApiTabs
import FunctionConsole.Piece.Badge
import FunctionConsole.Piece.Button
import FunctionConsole.Piece.Card
import FunctionConsole.Piece.CodeView
import FunctionConsole.Piece.DialogWindow
import FunctionConsole.Piece.DiffView
import FunctionConsole.Piece.Field
import FunctionConsole.Piece.FunctionFrame
import FunctionConsole.Piece.Header
import FunctionConsole.Piece.KeyHints
import FunctionConsole.Piece.LogView
import FunctionConsole.Piece.PagingBar
import FunctionConsole.Piece.PaletteWindow
import FunctionConsole.Piece.Placeholder
import FunctionConsole.Piece.ToastStack
import FunctionConsole.Problem
import FunctionConsole.Proofs.Address
import FunctionConsole.Proofs.AnswerStatus
import FunctionConsole.Proofs.BarePicture
import FunctionConsole.Proofs.CallLogs
import FunctionConsole.Proofs.CalledAddress
import FunctionConsole.Proofs.CardRows
import FunctionConsole.Proofs.CleanEditor
import FunctionConsole.Proofs.ComparedVersions
import FunctionConsole.Proofs.Confirmation
import FunctionConsole.Proofs.Cursor
import FunctionConsole.Proofs.DiffRows
import FunctionConsole.Proofs.Division
import FunctionConsole.Proofs.Drawing
import FunctionConsole.Proofs.DrawnText
import FunctionConsole.Proofs.Effects
import FunctionConsole.Proofs.Example.Literals
import FunctionConsole.Proofs.Example.Program
import FunctionConsole.Proofs.Example.Script
import FunctionConsole.Proofs.Example.Words
import FunctionConsole.Proofs.Expiry
import FunctionConsole.Proofs.FailedCreate
import FunctionConsole.Proofs.FieldErrors
import FunctionConsole.Proofs.FirstLoad
import FunctionConsole.Proofs.FittedText
import FunctionConsole.Proofs.FlatText
import FunctionConsole.Proofs.FocusedRow
import FunctionConsole.Proofs.FollowUps
import FunctionConsole.Proofs.FoundText
import FunctionConsole.Proofs.GeneralSave
import FunctionConsole.Proofs.Identity
import FunctionConsole.Proofs.InRange
import FunctionConsole.Proofs.Invariant
import FunctionConsole.Proofs.Json.Brackets
import FunctionConsole.Proofs.Json.Formats
import FunctionConsole.Proofs.Json.Written
import FunctionConsole.Proofs.KeptRows
import FunctionConsole.Proofs.LastAnswer
import FunctionConsole.Proofs.Layers
import FunctionConsole.Proofs.LogRows
import FunctionConsole.Proofs.LogScroll
import FunctionConsole.Proofs.Markers
import FunctionConsole.Proofs.Masking
import FunctionConsole.Proofs.Overlay
import FunctionConsole.Proofs.PageNumbers
import FunctionConsole.Proofs.PageTurning
import FunctionConsole.Proofs.PagedList
import FunctionConsole.Proofs.PaletteLoading
import FunctionConsole.Proofs.PaletteResults
import FunctionConsole.Proofs.ParsedAddress
import FunctionConsole.Proofs.Pattern
import FunctionConsole.Proofs.ReportSections
import FunctionConsole.Proofs.RequestPath
import FunctionConsole.Proofs.RoundTrip
import FunctionConsole.Proofs.Rows
import FunctionConsole.Proofs.Run
import FunctionConsole.Proofs.SavedRows
import FunctionConsole.Proofs.SavedVariables
import FunctionConsole.Proofs.SavesInFlight
import FunctionConsole.Proofs.Scrolling
import FunctionConsole.Proofs.Selections
import FunctionConsole.Proofs.SettingsSources
import FunctionConsole.Proofs.SettledAddress
import FunctionConsole.Proofs.ShownFunction
import FunctionConsole.Proofs.SignedOut
import FunctionConsole.Proofs.SolvedForm
import FunctionConsole.Proofs.StagedEdits
import FunctionConsole.Proofs.StoredInput
import FunctionConsole.Proofs.Subject
import FunctionConsole.Proofs.Submissions
import FunctionConsole.Proofs.TextEnds
import FunctionConsole.Proofs.TickPace
import FunctionConsole.Proofs.Tickets
import FunctionConsole.Proofs.ToastLifetimes
import FunctionConsole.Proofs.Turn
import FunctionConsole.Proofs.Typing
import FunctionConsole.Proofs.UsableSettings
import FunctionConsole.Proofs.Web.Coding
import FunctionConsole.Proofs.Web.Extension
import FunctionConsole.Proofs.Web.Paths
import FunctionConsole.Proofs.Web.Reading
import FunctionConsole.Proofs.Web.Segments
import FunctionConsole.Proofs.WrappedText
import FunctionConsole.Proofs.Wrapping
import FunctionConsole.Recording.Field
import FunctionConsole.Recording.Picture
import FunctionConsole.Recording.Snapshot
import FunctionConsole.Recording.Value
import FunctionConsole.Resource.Diff
import FunctionConsole.Resource.EnvVars
import FunctionConsole.Resource.Execution
import FunctionConsole.Resource.Function
import FunctionConsole.Resource.Listing
import FunctionConsole.Route
import FunctionConsole.Screen
import FunctionConsole.Screen.Basic
import FunctionConsole.Screen.Code
import FunctionConsole.Screen.Create
import FunctionConsole.Screen.Diff
import FunctionConsole.Screen.Execution
import FunctionConsole.Screen.Executions
import FunctionConsole.Screen.Functions
import FunctionConsole.Screen.Gallery
import FunctionConsole.Screen.Login
import FunctionConsole.Screen.Settings
import FunctionConsole.Screen.Test
import FunctionConsole.Screen.Versions
import FunctionConsole.Session
import FunctionConsole.Settings
import FunctionConsole.Settings.File
import FunctionConsole.Template
import FunctionConsole.Text.Blank
import FunctionConsole.Text.Cluster
import FunctionConsole.Text.Fit
import FunctionConsole.Text.Lowercase
import FunctionConsole.Text.Marks
import FunctionConsole.Text.Quoted
import FunctionConsole.Text.Utf8
import FunctionConsole.Text.Width
import FunctionConsole.Text.Word
import FunctionConsole.Theme
import FunctionConsole.TickClock
import FunctionConsole.Timestamp
import FunctionConsole.Toasts
import FunctionConsole.Toml.Basic
import FunctionConsole.Toml.Lexeme
import FunctionConsole.Toml.Reader
import FunctionConsole.Web.Cookies
import FunctionConsole.Web.Exchange
import FunctionConsole.Web.Host
import FunctionConsole.Web.Percent
import FunctionConsole.Web.Punycode
import FunctionConsole.Web.Url
