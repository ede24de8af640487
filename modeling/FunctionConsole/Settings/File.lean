import FunctionConsole.Settings
import FunctionConsole.Toml.Reader

/-!
# Settings in a file

The settings file is a TOML document with the tables `server` and `ui`. Whatever the file leaves
out keeps its assumed value, and keys of other names do not matter. A table may also be written as
an array, with the values in the order of their fields.
-/

namespace FunctionConsole

/-- Why there are no settings. -/
inductive SettingsFault where
  /-- The file that was asked for does not exist. -/
  | notFound
  /-- The file is no text. -/
  | unreadable
  /-- The text is no settings document. -/
  | invalid
  deriving DecidableEq, Repr, Inhabited

namespace Settings

open Toml (Item Entries)

/-- The values of a table's fields, of those that are given. -/
def fieldValues? (names : List String) : Item → Option (List (Option Item))
  | .braced es => some (names.map (Entries.get? es))
  | .table _ es => some (names.map (Entries.get? es))
  | .array vs => some (names.mapIdx fun i _ => vs[i]?)
  | .tables newest older =>
    some (names.mapIdx fun i _ => (older.reverse ++ [newest])[i]?.map Item.braced)
  | .moment => some (names.map fun _ => none)
  | _ => none

/-- A field with a text, which may be missing. -/
def textField? (assumed : String) : Option Item → Option String
  | none => some assumed
  | some (.text s) => some s
  | some _ => none

/-- A field with a count, which may be missing. -/
def countField? (assumed : UInt64) : Option Item → Option UInt64
  | none => some assumed
  | some (.integer n) => if 0 ≤ n then some (UInt64.ofNat n.toNat) else none
  | some _ => none

/-- The table `server`. -/
def server? (v : Item) : Option ServerSettings := do
  let assumed : ServerSettings := {}
  match ← fieldValues? ["base_url", "api_key"] v with
  | [url, key] =>
    let url ← textField? assumed.baseUrl url
    match key with
    | none => some { baseUrl := url }
    | some key => (textField? "" (some key)).map fun key => { baseUrl := url, apiKey := some key }
  | _ => none

/-- The table `ui`. -/
def ui? (v : Item) : Option UiSettings := do
  let assumed : UiSettings := {}
  match ← fieldValues? ["page_size", "toast_duration_ms", "palette_limit", "tick_rate_ms"] v with
  | [size, toast, limit, tick] =>
    some
      { pageSize := ← countField? assumed.pageSize size
        toastDurationMs := ← countField? assumed.toastDurationMs toast
        paletteLimit := ← countField? assumed.paletteLimit limit
        tickRateMs := ← countField? assumed.tickRateMs tick }
  | _ => none

/-- The settings that a document gives. -/
def ofEntries? (es : Entries) : Option Settings := do
  let server ← match es.get? "server" with
    | none => some {}
    | some v => server? v
  let ui ← match es.get? "ui" with
    | none => some {}
    | some v => ui? v
  some { server, ui }

/-- The settings in a file's bytes, as they are written there. -/
def ofFile (bytes : ByteArray) : Except SettingsFault Settings :=
  match String.fromUTF8? bytes with
  | none => .error .unreadable
  | some text =>
    match (Toml.read? text).bind ofEntries? with
    | none => .error .invalid
    | some s => .ok s

/-- The settings in a file that was asked for by name; it has to be there and be right. -/
def ofRequiredFile : Option ByteArray → Except SettingsFault Settings
  | none => .error .notFound
  | some bytes => ofFile bytes

/-- The settings in the file at the usual place; without a good file everything is assumed. -/
def ofOptionalFile (file : Option ByteArray) : Settings :=
  match file.map ofFile with
  | some (.ok s) => s
  | _ => {}

/-- The settings to start with: the file's, over them the environment's, all made usable. -/
def load (required : Bool) (file : Option ByteArray) (environment : Overrides) :
    Except SettingsFault Settings := do
  let s ← if required then ofRequiredFile file else .ok (ofOptionalFile file)
  .ok (s.apply environment).validated

end Settings

/-- Everything that the settings of a start come from. -/
structure SettingsSources where
  /-- The file was asked for by name, so it has to be there and be right. -/
  required : Bool := false
  file : Option ByteArray := none
  environment : Overrides := {}
  commandLine : Overrides := {}
  deriving Inhabited

/-- The settings of a start: those of the file and the environment, over them the command line's,
once more made usable. -/
def SettingsSources.settings (x : SettingsSources) : Except SettingsFault Settings := do
  let s ← Settings.load x.required x.file x.environment
  .ok (s.apply x.commandLine).validated

end FunctionConsole
