import FunctionConsole.Paging
import FunctionConsole.Paths
import FunctionConsole.Text.Blank

/-!
# Settings of the console

Where the server is, the key to log in with, and the sizes and times of the interface. Values come
from a file, over that from the environment, and over that from the command line; a blank value
never counts.
-/

namespace FunctionConsole

/-- Where the server is and the key to log in with. -/
structure ServerSettings where
  baseUrl : String := "http://localhost:3000"
  apiKey : Option String := none
  deriving DecidableEq, Repr, Inhabited

/-- Sizes and times of the interface. -/
structure UiSettings where
  pageSize : UInt64 := 20
  toastDurationMs : UInt64 := 3000
  /-- How many functions the palette loads. -/
  paletteLimit : UInt64 := 100
  tickRateMs : UInt64 := 50
  deriving DecidableEq, Repr, Inhabited

/-- All settings. -/
structure Settings where
  server : ServerSettings := {}
  ui : UiSettings := {}
  deriving DecidableEq, Repr, Inhabited

/-- Values that replace those of the settings. -/
structure Overrides where
  baseUrl : Option String := none
  apiKey : Option String := none
  deriving DecidableEq, Repr, Inhabited

namespace Settings

/-- The shortest time between two ticks. -/
def minTickRateMs : UInt64 := 16

/-- A value that overrides: trimmed, and not blank. -/
def overriding? (s : Option String) : Option String := s.bind fun s => Text.nonBlank? (Text.trim s)

/-- Replaces what the overrides give. -/
def apply (s : Settings) (o : Overrides) : Settings :=
  { s with server :=
    { baseUrl := (overriding? o.baseUrl).getD s.server.baseUrl
      apiKey := (overriding? o.apiKey) <|> s.server.apiKey } }

/-- How far apart two words are. -/
def distance (a b : UInt64) : UInt64 := if a ≤ b then b - a else a - b

/-- The page size nearest to a number; of two equally near, the smaller. -/
def nearestPageSize (n : UInt64) : UInt64 :=
  pageSizes.foldl (fun best o => if distance o n < distance best n then o else best)
    (pageSizes.headD 20)

/-- An address without blanks around it and slashes at its end, or the one that is assumed. -/
def cleanUrl (url : String) : String :=
  let l := Text.dropEndWhile (· == '/') (Text.trimChars url.toList)
  if l.isEmpty then ({} : ServerSettings).baseUrl else String.ofList l

/-- The settings with every value made usable. -/
def validated (s : Settings) : Settings :=
  { server := { s.server with baseUrl := cleanUrl s.server.baseUrl }
    ui :=
      { s.ui with
        pageSize := nearestPageSize s.ui.pageSize
        tickRateMs := max s.ui.tickRateMs minTickRateMs
        paletteLimit :=
          if s.ui.paletteLimit = 0 then ({} : UiSettings).paletteLimit else s.ui.paletteLimit } }

end Settings

/-- The settings file, if a directory for it is known. -/
def Paths.configFile? (vars : DirectoryVars) : Option String :=
  (Paths.baseDirectory? vars.home vars.configHome ".config").map fun base =>
    Paths.join (Paths.join base "lunar") "config.toml"

end FunctionConsole
