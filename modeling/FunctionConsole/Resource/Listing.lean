import FunctionConsole.Resource.Function
import FunctionConsole.Resource.Execution

/-!
# Pages of lists

The server sends lists one page at a time, with a block that says which page it is and how many
rows there are in all. A list that is `null` is an empty one.
-/

namespace FunctionConsole

open Json (Format Fields Field)

/-- Which part of a list a page holds. -/
structure Pagination where
  total : UInt64
  limit : UInt64
  offset : UInt64
  deriving DecidableEq, Repr, Inhabited

/-- The block as a document. -/
def Pagination.format : Format Pagination :=
  (Format.record "Pagination"
    (.cons ⟨"total", .u64, some 0⟩ <|
     .cons ⟨"limit", .u64, some 0⟩ <|
     .cons ⟨"offset", .u64, some 0⟩ .nil)).convert
    (fun (total, limit, offset, _) => { total, limit, offset })
    (fun p => (p.total, p.limit, p.offset, ()))

/-- One page of a list of rows. -/
structure Listing (α : Type) where
  rows : List α
  pagination : Pagination
  deriving DecidableEq, Repr, Inhabited

/-- A page as a document: the rows under `key`, and the block. -/
def Listing.format {α : Type} (name key : String) (row : Format α) : Format (Listing α) :=
  (Format.record name
    (.cons ⟨key, Format.orNull [] row.list, some []⟩ <|
     .cons ⟨"pagination", Pagination.format, some ⟨0, 0, 0⟩⟩ .nil)).convert
    (fun (rows, pagination, _) => { rows, pagination })
    (fun l => (l.rows, l.pagination, ()))

/-- A page of functions. -/
abbrev FunctionList := Listing Function

/-- A page of versions. -/
abbrev VersionList := Listing Version

/-- A page of executions. -/
abbrev ExecutionList := Listing Execution

/-- A page of log lines. -/
abbrev LogList := Listing ExecutionLog

namespace Listing

/-- A page of functions as a document. -/
def functions : Format FunctionList := Listing.format "FunctionList" "functions" Function.format

/-- A page of versions as a document. -/
def versions : Format VersionList := Listing.format "VersionList" "versions" Version.format

/-- A page of executions as a document. -/
def executions : Format ExecutionList :=
  Listing.format "ExecutionList" "executions" Execution.format

/-- A page of log lines as a document. -/
def logs : Format LogList := Listing.format "LogList" "logs" ExecutionLog.format

end Listing

end FunctionConsole
