import FunctionConsole.Json.Codec

/-!
# Differences between two versions

The server computes the difference; the console shows it. Line numbers start at 1, and 0 or none
means that the side has no such line. An added line never has an old number and a removed line
never a new one, whatever the server sent.
-/

namespace FunctionConsole

open Json (Format Fields Field)

/-- What happened to a line. -/
inductive LineType where
  | added
  | removed
  | unchanged
  deriving DecidableEq, Repr, Inhabited

namespace LineType

/-- The server's word for the kind of a line. -/
def word : LineType → String
  | .added => "added"
  | .removed => "removed"
  | .unchanged => "unchanged"

/-- The sign in front of a line. -/
def symbol : LineType → Char
  | .added => '+'
  | .removed => '-'
  | .unchanged => ' '

/-- The kind of a line as a document. -/
def format : Format LineType :=
  .enumeration ⟨word, [("added", .added), ("removed", .removed), ("unchanged", .unchanged)], none⟩

end LineType

/-- One line of a difference. -/
structure DiffLine where
  oldLine : Option UInt32
  newLine : Option UInt32
  lineType : LineType
  content : String
  deriving DecidableEq, Repr, Inhabited

namespace DiffLine

/-- A line as a document. -/
def format : Format DiffLine :=
  (Format.record "DiffLine"
    (.cons ⟨"old_line", Format.u32.option, some none⟩ <|
     .cons ⟨"new_line", Format.u32.option, some none⟩ <|
     .cons ⟨"line_type", LineType.format, none⟩ <|
     .cons ⟨"content", .string, some ""⟩ .nil)).convert
    (fun (oldLine, newLine, lineType, content, _) => { oldLine, newLine, lineType, content })
    (fun l => (l.oldLine, l.newLine, l.lineType, l.content, ()))

/-- A line number, unless it is 0. -/
def positive? (n : Option UInt32) : Option UInt32 := n.filter fun n => n > 0

/-- The number of the line on the old side. -/
def oldNumber (l : DiffLine) : Option UInt32 :=
  if l.lineType = .added then none else positive? l.oldLine

/-- The number of the line on the new side. -/
def newNumber (l : DiffLine) : Option UInt32 :=
  if l.lineType = .removed then none else positive? l.newLine

/-- The content, with one space for an empty line. -/
def displayContent (l : DiffLine) : String := if l.content = "" then " " else l.content

end DiffLine

/-- The difference between two versions of a function. -/
structure VersionDiff where
  oldVersion : UInt32
  newVersion : UInt32
  diff : List DiffLine
  deriving DecidableEq, Repr, Inhabited

namespace VersionDiff

/-- A difference as a document. -/
def format : Format VersionDiff :=
  (Format.record "VersionDiff"
    (.cons ⟨"old_version", .u32, none⟩ <|
     .cons ⟨"new_version", .u32, none⟩ <|
     .cons ⟨"diff", DiffLine.format.list, some []⟩ .nil)).convert
    (fun (oldVersion, newVersion, diff, _) => { oldVersion, newVersion, diff })
    (fun d => (d.oldVersion, d.newVersion, d.diff, ()))

/-- How many lines were added. -/
def additions (d : VersionDiff) : Nat := d.diff.countP fun l => l.lineType = .added

/-- How many lines were removed. -/
def deletions (d : VersionDiff) : Nat := d.diff.countP fun l => l.lineType = .removed

end VersionDiff

end FunctionConsole
