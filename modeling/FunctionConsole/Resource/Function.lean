import FunctionConsole.Resource.EnvVars
import FunctionConsole.Text.Blank

/-!
# Functions and their versions

A function is a snapshot of what the server holds: nothing in it is changed in place. Its code
belongs to the version that serves its traffic.
-/

namespace FunctionConsole

open Json (Format Fields Field)

/-- The version that serves a function's traffic. -/
structure ActiveVersion where
  version : UInt32
  code : String
  deriving DecidableEq, Repr, Inhabited

/-- A serverless function of the user. -/
structure Function where
  id : String
  name : String
  description : Option String
  disabled : Bool
  activeVersion : ActiveVersion
  envVars : EnvVars
  createdAt : Option Int64
  updatedAt : Option Int64
  deriving DecidableEq, Repr, Inhabited

/-- An immutable snapshot of a function's code. -/
structure Version where
  version : UInt32
  createdAt : Int64
  code : String
  deriving DecidableEq, Repr, Inhabited

/-- The active version as a document. -/
def ActiveVersion.format : Format ActiveVersion :=
  (Format.record "ActiveVersion"
    (.cons ⟨"version", .u32, none⟩ <|
     .cons ⟨"code", .string, some ""⟩ .nil)).convert
    (fun (version, code, _) => ⟨version, code⟩)
    (fun v => (v.version, v.code, ()))

namespace Function

/-- A function as a document. -/
def format : Format Function :=
  (Format.record "Function"
    (.cons ⟨"id", .string, none⟩ <|
     .cons ⟨"name", .string, none⟩ <|
     .cons ⟨"description", Format.string.option, some none⟩ <|
     .cons ⟨"disabled", .bool, some false⟩ <|
     .cons ⟨"active_version", ActiveVersion.format, some ⟨0, ""⟩⟩ <|
     .cons ⟨"env_vars", EnvVars.format, some .empty⟩ <|
     .cons ⟨"created_at", Format.i64.option, some none⟩ <|
     .cons ⟨"updated_at", Format.i64.option, some none⟩ .nil)).convert
    (fun (id, name, description, disabled, activeVersion, envVars, createdAt, updatedAt, _) =>
      { id, name, description, disabled, activeVersion, envVars, createdAt, updatedAt })
    (fun f => (f.id, f.name, f.description, f.disabled, f.activeVersion, f.envVars, f.createdAt,
      f.updatedAt, ()))

/-- The trimmed description, unless it is absent or blank. -/
def descriptionText (f : Function) : Option String :=
  f.description.bind fun d => Text.nonBlank? (Text.trim d)

/-- The label of the active version, such as `v3`. -/
def versionLabel (f : Function) : String := "v" ++ toString f.activeVersion.version.toNat

end Function

namespace Version

/-- A version as a document. -/
def format : Format Version :=
  (Format.record "Version"
    (.cons ⟨"version", .u32, none⟩ <|
     .cons ⟨"created_at", .i64, some 0⟩ <|
     .cons ⟨"code", .string, some ""⟩ .nil)).convert
    (fun (version, createdAt, code, _) => { version, createdAt, code })
    (fun v => (v.version, v.createdAt, v.code, ()))

/-- Whether a version is the active one of a function. -/
def isActive (v : Version) (f : Function) : Bool := v.version == f.activeVersion.version

end Version

end FunctionConsole
