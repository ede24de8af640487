import FunctionConsole.Json.Codec
import FunctionConsole.Text.Blank

/-!
# Executions and their logs
-/

namespace FunctionConsole

open Json (Format Fields Field)

/-- How an invocation ended. A word the console does not know is `unknown`. -/
inductive ExecutionStatus where
  | success
  | error
  | unknown
  deriving DecidableEq, Repr, Inhabited

namespace ExecutionStatus

/-- The server's word for a status. -/
def word : ExecutionStatus → String
  | .success => "success"
  | .error => "error"
  | .unknown => "unknown"

/-- The upper-case label of a status. -/
def label : ExecutionStatus → String
  | .success => "SUCCESS"
  | .error => "ERROR"
  | .unknown => "UNKNOWN"

/-- A status as a document. -/
def format : Format ExecutionStatus :=
  .enumeration ⟨word, [("success", .success), ("error", .error), ("unknown", .unknown)],
    some .unknown⟩

end ExecutionStatus

/-- The record of one invocation of a function. -/
structure Execution where
  id : String
  functionId : String
  status : ExecutionStatus
  durationMs : Option UInt64
  createdAt : Int64
  eventJson : Option String
  errorMessage : Option String
  deriving DecidableEq, Repr, Inhabited

namespace Execution

/-- An execution as a document. -/
def format : Format Execution :=
  (Format.record "Execution"
    (.cons ⟨"id", .string, none⟩ <|
     .cons ⟨"function_id", .string, none⟩ <|
     .cons ⟨"status", ExecutionStatus.format, none⟩ <|
     .cons ⟨"duration_ms", Format.u64.option, some none⟩ <|
     .cons ⟨"created_at", .i64, some 0⟩ <|
     .cons ⟨"event_json", Format.string.option, some none⟩ <|
     .cons ⟨"error_message", Format.string.option, some none⟩ .nil)).convert
    (fun (id, functionId, status, durationMs, createdAt, eventJson, errorMessage, _) =>
      { id, functionId, status, durationMs, createdAt, eventJson, errorMessage })
    (fun e => (e.id, e.functionId, e.status, e.durationMs, e.createdAt, e.eventJson,
      e.errorMessage, ()))

/-- The first eight characters of the id. -/
def shortId (e : Execution) : String := String.ofList (e.id.toList.take 8)

/-- The duration in milliseconds, or `N/A` if none or zero was reported. -/
def durationLabel (e : Execution) : String :=
  match e.durationMs with
  | some ms => if ms.toNat > 0 then toString ms.toNat ++ "ms" else "N/A"
  | none => "N/A"

end Execution

/-- The spread form of a text that is a document, and otherwise the text. -/
def prettyText (s : String) : String :=
  match Json.parse s with
  | .ok v => v.spread
  | .error _ => s

/-- The event of an execution, trimmed and spread out; none if there is none or it is blank. -/
def Execution.prettyEvent (e : Execution) : Option String :=
  match e.eventJson with
  | none => none
  | some raw => (Text.nonBlank? (Text.trim raw)).map prettyText

/-- How severe a log line is. -/
inductive LogLevel where
  | debug
  | info
  | warn
  | error
  deriving DecidableEq, Repr, Inhabited

namespace LogLevel

/-- The label of a level, which is also the server's word for it. -/
def label : LogLevel → String
  | .debug => "DEBUG"
  | .info => "INFO"
  | .warn => "WARN"
  | .error => "ERROR"

/-- A level as a document. -/
def format : Format LogLevel :=
  .enumeration ⟨label, [("DEBUG", .debug), ("INFO", .info), ("WARN", .warn), ("ERROR", .error)],
    none⟩

end LogLevel

/-- A log line that a function wrote during one execution. -/
structure ExecutionLog where
  id : Int64
  executionId : String
  level : LogLevel
  message : String
  createdAt : Int64
  deriving DecidableEq, Repr, Inhabited

/-- A log line as a document. -/
def ExecutionLog.format : Format ExecutionLog :=
  (Format.record "ExecutionLog"
    (.cons ⟨"id", .i64, some 0⟩ <|
     .cons ⟨"execution_id", .string, some ""⟩ <|
     .cons ⟨"level", LogLevel.format, none⟩ <|
     .cons ⟨"message", .string, none⟩ <|
     .cons ⟨"created_at", .i64, some 0⟩ .nil)).convert
    (fun (id, executionId, level, message, createdAt, _) =>
      { id, executionId, level, message, createdAt })
    (fun l => (l.id, l.executionId, l.level, l.message, l.createdAt, ()))

end FunctionConsole
