import FunctionConsole.Palette
import FunctionConsole.Screen
import FunctionConsole.Settings

/-!
# The console

The whole state of the console and the one function that changes it. `update` takes a message and
returns the new state, the calls that go out, and at most one message that follows.

A key goes to the topmost layer: the question that waits for an answer, then the palette, then the
screen, and what the screen leaves alone goes to the bindings of the console. Every new screen
starts a new generation, and a response counts only in the generation that asked for it.
-/

namespace FunctionConsole

/-- What can happen to the console. -/
inductive Message where
  | key (k : Key)
  | tick
  | quit
  /-- The first message of a run: the screen to open, and the key to log in with first. -/
  | startup (route : Route) (apiKey : Option String)
  | navigate (route : Route)
  | back
  | reload
  | logout
  | togglePalette
  | confirmAccepted
  | confirmDeclined
  /-- A change that the user has confirmed. -/
  | mutate (m : Mutation)
  | api (ticket : Ticket) (response : Response)

/-- The state of the console. -/
structure Console where
  settings : Settings
  route : Route
  screen : Screen
  /-- How many screens were opened. The number has no bound here; that one of 64 bits would start
  anew after 2 ^ 64 screens is left out. -/
  generation : Nat
  toasts : Toasts
  palette : Palette
  /-- The question that waits for an answer. -/
  confirm : Option Dialog
  shouldQuit : Bool
  deriving DecidableEq, Repr

/-- What the console wants done after a message. -/
structure Reply where
  calls : List Call := []
  next : Option Message := none

namespace Reply

/-- Nothing. -/
def none : Reply := {}

/-- Another message. -/
def follow (m : Message) : Reply := { next := some m }

end Reply

namespace Console

/-- The state before the first message. -/
def start (settings : Settings) : Console :=
  { settings
    route := .login
    screen := .login { redirect := .functions }
    generation := 0
    toasts := { duration := settings.ui.toastDurationMs.toNat }
    palette := {}
    confirm := none
    shouldQuit := false }

/-- What new screens are made from. -/
def screenContext (c : Console) : ScreenContext :=
  { pageSize := c.settings.ui.pageSize, baseUrl := c.settings.server.baseUrl }

/-- The ticket of the current screen. -/
def ticket (c : Console) : Ticket := ⟨.view, c.generation⟩

/-- Requests as calls of the current screen. -/
def calls (c : Console) (requests : List Request) : List Call :=
  requests.map fun r => ⟨c.ticket, r⟩

/-- Where the way back leads. -/
def backRoute (c : Console) : Option Route := c.route.back c.screen.executionFunctionId?

/-- The function that the screen is about, once it is known. -/
def currentFunction (c : Console) : Option Function := c.screen.function?

/-- The function whose tabs can be switched to. -/
def tabFunctionId (c : Console) : Option String :=
  c.route.functionId? <|> c.screen.executionFunctionId?

-- ==================================================== navigation

/-- Opens the fresh screen of an address, as a new generation. -/
def enter (c : Console) (route : Route) : Console × List Call :=
  let (screen, requests) := Screen.ofRoute c.screenContext route
  let c' := { c with generation := c.generation + 1, confirm := none, screen, route }
  (c', c'.calls requests)

/-- Opens the screen of an address. -/
def goTo (c : Console) (route : Route) : Console × Reply :=
  ((c.enter route).1, { calls := (c.enter route).2 })

/-- Opens the login screen with a known key already submitted. -/
def autoLogin (c : Console) (apiKey : String) (redirect : Route) : Console × Reply :=
  let (screen, requests) := LoginScreen.submitted apiKey redirect
  let c' := { c with generation := c.generation + 1, screen := .login screen, route := .login }
  (c', { calls := c'.calls requests })

/-- Opens the login screen, from which a login leads to an address. -/
def requireLogin (c : Console) (redirect : Route) : Console :=
  { c with
    generation := c.generation + 1
    confirm := none
    screen := .login { redirect }
    route := .login }

/-- Ends the session: the login screen first, then word to the server. -/
def logout (c : Console) : Console × Reply :=
  let (c', calls) := { c with palette := c.palette.close }.enter .login
  (c', { calls := calls ++ c'.calls [.logout] })

/-- Adds toasts, all at one moment. -/
def addToasts (c : Console) (now : Moment) (toasts : List (String × ToastKind)) : Console :=
  { c with toasts := toasts.foldl (fun t p => t.push p.1 p.2 now) c.toasts }

/-- Does what a screen asked for. Its requests are made in its own generation, before another
screen opens. -/
def applyEffects (c : Console) (now : Moment) (e : Effects) : Console × Reply :=
  let c' := { c.addToasts now e.toasts with confirm := e.confirm <|> c.confirm }
  match e.navigate with
  | none => (c', { calls := c'.calls e.requests })
  | some route => ((c'.enter route).1, { calls := c'.calls e.requests ++ (c'.enter route).2 })

-- ==================================================== keys

/-- What a key does while a question waits. -/
def confirmKey : Key → Reply
  | .char 'y' | .char 'Y' | .enter => .follow .confirmAccepted
  | .char 'n' | .char 'N' | .esc => .follow .confirmDeclined
  | _ => .none

/-- What a key does while the palette is open. -/
def paletteKey (c : Console) (key : Key) : Console × Reply :=
  match c.palette.handleKey key with
  | (palette, .none) => ({ c with palette }, .none)
  | (palette, .close) => ({ c with palette := palette.close }, .none)
  | (palette, .navigate route) => ({ c with palette }, .follow (.navigate route))

/-- Opens a tab of the function that the screen belongs to, unless it is open already. -/
def switchTab (c : Console) (index : Nat) : Console × Reply :=
  match c.tabFunctionId, FunctionTab.all[index]? with
  | some id, some tab => if tab.route id = c.route then (c, .none) else c.goTo (tab.route id)
  | _, _ => (c, .none)

/-- The tab that a digit names. -/
def tabOfDigit? (d : Char) : Option Nat :=
  if '1' ≤ d && d ≤ '5' then some (d.toNat - '1'.toNat) else none

/-- The tab that a function key names. -/
def tabOfFunctionKey? (n : UInt8) : Option Nat := if 1 ≤ n && n ≤ 5 then some (n.toNat - 1) else none

/-- What a key does that the screen left alone. -/
def globalKey (c : Console) : Key → Console × Reply
  | .esc => (c, .follow .back)
  | .char 'q' => (c, .follow .quit)
  | .char 'r' => (c, .follow .reload)
  | .ctrl 'l' => if c.route = .login then (c, .none) else (c, .follow .logout)
  | .char d =>
    match tabOfDigit? d with
    | some i => c.switchTab i
    | none => (c, .none)
  | _ => (c, .none)

/-- What a key does to the screen, or else to the console. -/
def screenKey (c : Console) (now : Moment) (key : Key) : Console × Reply :=
  match c.screen.handleKey key with
  | some (screen, effects) => { c with screen }.applyEffects now effects
  | none => c.globalKey key

/-- What a key does when neither a question nor the palette is in front. -/
def openKey (c : Console) (now : Moment) (key : Key) : Console × Reply :=
  if key = .ctrl 'k' && c.route ≠ .login then (c, .follow .togglePalette)
  else match key with
    | .f n =>
      match tabOfFunctionKey? n with
      | some i => c.switchTab i
      | none => c.screenKey now key
    | _ => c.screenKey now key

/-- What a key does. -/
def handleKey (c : Console) (now : Moment) (key : Key) : Console × Reply :=
  if key = .ctrl 'c' then (c, .follow .quit)
  else if c.confirm.isSome then (c, confirmKey key)
  else if c.palette.isOpen then c.paletteKey key
  else c.openKey now key

-- ==================================================== responses

/-- The session is gone: word of it, and the login screen. -/
def sessionExpired (c : Console) (now : Moment) : Console × Reply :=
  (c.addToasts now [("Session expired. Please log in again.", .error)]).goTo .login

/-- A response for the palette. -/
def paletteResponse (c : Console) (now : Moment) (response : Response) : Console × Reply :=
  match response with
  | .functions _ (.ok list) => ({ c with palette := c.palette.setFunctions list.rows }, .none)
  | .functions _ (.error e) =>
    if e.isUnauthorized then { c with palette := c.palette.close }.sessionExpired now
    else ({ c with palette := c.palette.setFunctions [] }, .none)
  | _ => (c, .none)

/-- Whether a response says that the session is gone. A refused login does not. -/
def isExpiry (response : Response) : Bool :=
  match response with
  | .loggedIn _ => false
  | r => r.error?.any ApiError.isUnauthorized

/-- A response for the screen. -/
def viewResponse (c : Console) (now : Moment) (response : Response) : Console × Reply :=
  match response with
  | .loggedOut _ => (c, .none)
  | _ =>
    if isExpiry response then c.sessionExpired now
    else
      let (screen, effects) := c.screen.handleResponse response
      { c with screen }.applyEffects now effects

/-- What a response does; one whose generation has passed does nothing. -/
def handleResponse (c : Console) (now : Moment) (ticket : Ticket) (response : Response) :
    Console × Reply :=
  match ticket.scope with
  | .palette =>
    if c.palette.isOpen && ticket.generation == c.palette.generation then
      c.paletteResponse now response
    else (c, .none)
  | .view => if ticket.generation == c.generation then c.viewResponse now response else (c, .none)

-- ==================================================== messages

/-- The first screen of a run. -/
def startup (c : Console) (route : Route) (apiKey : Option String) : Console × Reply :=
  match apiKey.bind fun k => Text.nonBlank? (Text.trim k) with
  | some key => c.autoLogin key (if route = .login then .functions else route)
  | none => if route.isPublic then c.goTo route else (c.requireLogin route, .none)

/-- Opens the palette and loads its functions, or closes it. On the login screen it stays shut. -/
def togglePalette (c : Console) : Console × Reply :=
  if c.palette.isOpen then ({ c with palette := c.palette.close }, .none)
  else if c.route = .login then (c, .none)
  else
    let palette := c.palette.opened
    ({ c with palette },
      { calls := [⟨⟨.palette, palette.generation⟩,
        .listFunctions c.settings.ui.paletteLimit 0⟩] })

/-- The request that makes a change. -/
def mutationRequest : Mutation → Request
  | .deleteFunction id => .deleteFunction id
  | .setDisabled id disabled => .updateFunction id { disabled := some disabled }
  | .activateVersion id version => .activateVersion id version

/-- What a message does at a moment. -/
def update (c : Console) (now : Moment) : Message → Console × Reply
  | .key k => c.handleKey now k
  | .tick => ({ c with toasts := (c.toasts.expire now).1 }, .none)
  | .quit => ({ c with shouldQuit := true }, .none)
  | .startup route apiKey => c.startup route apiKey
  | .navigate route => { c with palette := c.palette.close }.goTo route
  | .back =>
    match c.backRoute with
    | some route => c.goTo route
    | none => (c, .none)
  | .reload => c.goTo c.route
  | .logout => c.logout
  | .togglePalette => c.togglePalette
  | .confirmAccepted =>
    match c.confirm with
    | some dialog => ({ c with confirm := none }, .follow (.mutate dialog.onConfirm))
    | none => (c, .none)
  | .confirmDeclined => ({ c with confirm := none }, .none)
  | .mutate m => (c, { calls := c.calls [mutationRequest m] })
  | .api ticket response => c.handleResponse now ticket response

/-- No chain of messages is longer than this: a key, its answer to a question, and the change. -/
def longestChain : Nat := 3

/-- A message and what follows it, through at most `n` updates, with all calls in order. -/
def chain (now : Moment) : Nat → Console → Message → Console × List Call
  | 0, c, _ => (c, [])
  | n + 1, c, m =>
    let (c', reply) := c.update now m
    match reply.next with
    | none => (c', reply.calls)
    | some m' =>
      let (c'', calls) := chain now n c' m'
      (c'', reply.calls ++ calls)

/-- A message and all that follows it. -/
def process (c : Console) (now : Moment) (m : Message) : Console × List Call :=
  chain now longestChain c m

end Console

end FunctionConsole
