import FunctionConsole.Api.Client
import FunctionConsole.Canvas.Ansi
import FunctionConsole.CommandLine
import FunctionConsole.Frame
import FunctionConsole.Recording.Value
import FunctionConsole.Session
import FunctionConsole.Settings.File
import FunctionConsole.TickClock

/-!
# The program

Reads the settings, opens the first screen, and then a line of input at a time: the name of a key,
such as `Enter` or `Ctrl:k`, or else characters that are typed. After every line the screen is drawn
anew, with moments in UTC. The program brings no network of its own, so every call fails like one to
a server that cannot be reached.
-/

namespace FunctionConsole.Program

/-- The way to a server, of which there is none. -/
def nowhere : Web.Transport IO := fun _ => pure none

/-- The bytes of a file, if it can be read. -/
def bytesOf? (path : String) : IO (Option ByteArray) := do
  try return some (← IO.FS.readBinFile path) catch _ => return none

/-- The wording of a fault in the settings. -/
def faultMessage (path : String) : SettingsFault → String
  | .notFound => (Problem.configNotFound path).message
  | .unreadable => (Problem.io "stream did not contain valid UTF-8").message
  | .invalid => (Problem.configInvalid path).message

/-- The settings that file, environment and command line give. -/
def readSettings (c : CommandLine) : IO (Except String Settings) := do
  let vars : DirectoryVars :=
    ⟨← IO.getEnv "HOME", ← IO.getEnv "XDG_DATA_HOME", ← IO.getEnv "XDG_CONFIG_HOME"⟩
  let path := c.config <|> Paths.configFile? vars
  let file ← match path with
    | some p => bytesOf? p
    | none => pure none
  let environment : Overrides := ⟨← IO.getEnv "LUNAR_URL", ← IO.getEnv "LUNAR_API_KEY"⟩
  let sources : SettingsSources :=
    { required := c.config.isSome, file, environment, commandLine := c.overrides }
  return match sources.settings with
    | .ok s => .ok s
    | .error e => .error (faultMessage (path.getD "") e)

/-- The keys of a line of input. -/
def keysOf (line : String) : List Key :=
  match Key.ofRecord? line with
  | some k => [k]
  | none => line.toList.map Key.char

/-- A size that the environment gives, or the one that is assumed. -/
def sizeOf? (name : String) (assumed : Nat) : IO Nat := do
  return ((← IO.getEnv name).bind String.toNat?).getD assumed

/-- Draws the screen, with moments in UTC, and takes the next line, until the user quits or the input
ends. -/
partial def run (client : Client) (size : Nat × Nat) (c : Console) (clock : TickClock) :
    StateT Web.Cookies IO Unit := do
  if c.shouldQuit then return ()
  IO.print (c.frame .utc size.1 size.2).ansi
  let line ← (← IO.getStdin).getLine
  if line.isEmpty then return ()
  let now : Moment := (← IO.monoMsNow)
  let keys := keysOf (String.ofList (Text.dropEndWhile (· == '\n') line.toList))
  let c ← keys.foldlM (fun c k => c.processWith (client.backend nowhere) now (.key k)) c
  let (clock, due) := clock.due now
  let c ← if due then c.processWith (client.backend nowhere) now .tick else pure c
  run client size c clock

/-- Reads the command line and runs the console; the answer is the exit code. -/
def runWith (arguments : List String) : IO UInt32 := do
  match CommandLine.ofArguments arguments with
  | .error e =>
    IO.eprintln e.message
    return 2
  | .ok commands =>
    let some route := Route.parse commands.route
      | IO.eprintln (Problem.unknownRoute commands.route).message
        return 1
    match ← readSettings commands with
    | .error e =>
      IO.eprintln e
      return 1
    | .ok settings =>
      match Client.ofAddress settings.server.baseUrl with
      | .error p =>
        IO.eprintln p.message
        return 1
      | .ok client =>
        let size := (← sizeOf? "COLUMNS" 80, ← sizeOf? "LINES" 24)
        let now : Moment := (← IO.monoMsNow)
        let start := Console.start settings
        let program : StateT Web.Cookies IO Unit := do
          let c ← start.processWith (client.backend nowhere) now
            (.startup route settings.server.apiKey)
          run client size c { rate := settings.ui.tickRateMs.toNat, last := now }
        let _ ← program.run []
        return 0

end FunctionConsole.Program

/-- Runs the console. -/
def main (arguments : List String) : IO UInt32 := FunctionConsole.Program.runWith arguments
