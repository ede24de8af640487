import FunctionConsole.Resource.Diff
import FunctionConsole.Resource.Execution

/-!
# Gallery of components

The pieces that the preview screen shows, with the sample data it shows them on.
-/

namespace FunctionConsole

/-- A piece of the gallery. -/
inductive GalleryPiece where
  | badges
  | buttons
  | cards
  | pagination
  | diffViewer
  | toasts
  | logViewer
  | forms
  | apiReference
  deriving DecidableEq, Repr, Inhabited

namespace GalleryPiece

/-- The pieces in their order. -/
def all : List GalleryPiece :=
  [.badges, .buttons, .cards, .pagination, .diffViewer, .toasts, .logViewer, .forms, .apiReference]

/-- The segment of a path that names a piece. -/
def slug : GalleryPiece → String
  | .badges => "badges"
  | .buttons => "buttons"
  | .cards => "cards"
  | .pagination => "pagination"
  | .diffViewer => "diff-viewer"
  | .toasts => "toasts"
  | .logViewer => "log-viewer"
  | .forms => "forms"
  | .apiReference => "api-reference"

/-- The label of a piece. -/
def label : GalleryPiece → String
  | .badges => "Badges"
  | .buttons => "Buttons"
  | .cards => "Cards"
  | .pagination => "Pagination"
  | .diffViewer => "Diff Viewer"
  | .toasts => "Toasts"
  | .logViewer => "Log Viewer"
  | .forms => "Forms"
  | .apiReference => "API Reference"

/-- The position of a piece. -/
def index : GalleryPiece → Nat
  | .badges => 0
  | .buttons => 1
  | .cards => 2
  | .pagination => 3
  | .diffViewer => 4
  | .toasts => 5
  | .logViewer => 6
  | .forms => 7
  | .apiReference => 8

/-- The piece that a segment of a path names. -/
def ofSlug? (s : String) : Option GalleryPiece := all.find? fun p => p.slug = s

end GalleryPiece

namespace Gallery

/-- A difference that shows every kind of line. -/
def sampleDiff : VersionDiff :=
  { oldVersion := 1
    newVersion := 2
    diff :=
      [⟨some 1, some 1, .unchanged, "function handler(ctx, event)"⟩,
       ⟨some 2, none, .removed, "  return \x7b statusCode = 200 \x7d"⟩,
       ⟨none, some 2, .added, "  local name = event.query.name or \"World\""⟩,
       ⟨none, some 3, .added,
        "  return \x7b statusCode = 200, body = \"Hello, \" .. name \x7d"⟩,
       ⟨some 3, some 4, .unchanged, "end"⟩] }

/-- A log line of the sample. -/
def sampleLog (id : Int64) (level : LogLevel) (message : String) : ExecutionLog :=
  { id, executionId := "exec-sample", level, message, createdAt := 1700000000 + id }

/-- Log lines of every level. -/
def sampleLogs : List ExecutionLog :=
  [sampleLog 1 .debug "Parsing request body",
   sampleLog 2 .info "Processing request for user 42",
   sampleLog 3 .warn "Cache miss, falling back to database",
   sampleLog 4 .error "Upstream returned 503"]

end Gallery

end FunctionConsole
