import Compositor.Config.Bindings
import Compositor.Launch.Command
import Compositor.Server.Dispatch

set_option autoImplicit false

/-!
# From start to shutdown

## Main definitions

* `Server.create` — the server around a toolkit, listening to the global objects.
* `Server.start` — opens the display and runs the startup command.
* `Emission`, `Server.run` — processes events until there are no more or the session ends.
* `Server.shutdown` — takes everything down.
-/

namespace Compositor

/-- A signal as an event source delivers it. -/
structure Emission where
  /-- The object. -/
  handle : Handle
  /-- The signal. -/
  signal : Signal
  /-- The payload. -/
  event : Event

namespace Server

variable {T : Type} [Toolkit T]

/-! ## Creation -/

/-- What is listened to on the global objects. The cursor is the only one whose lifetime is not
tracked. -/
def globalWiring (toolkit : T) : List Wiring :=
  let backend := Toolkit.backend toolkit
  let shell := Toolkit.shell toolkit
  let cursor := Toolkit.cursor toolkit
  let seat := Toolkit.seat toolkit
  [.run backend .newOutput .newOutput, .run backend .newInput .newInput, .track backend,
    .run shell .newToplevel .newToplevel, .run shell .newPopup .newPopup, .track shell,
    .run cursor .motion .motion, .run cursor .motionAbsolute .motionAbsolute,
    .run cursor .button .button, .run cursor .axis .axis, .run cursor .pointerFrame .pointerFrame,
    .run seat .requestSetCursor .requestSetCursor, .track seat]

/-- Makes subscriptions in turn, up to the first that is refused. -/
def wireAll (server : Server T) : List Wiring → Except Refusal (Server T)
  | [] => .ok server
  | wiring :: rest =>
    match server.register wiring.handle wiring.signal wiring.callback with
    | (.ok _, wired) => wired.wireAll rest
    | (.error refusal, _) => .error refusal

/-- The server before it listens to anything. -/
def unwired (toolkit : T) (config : Config) (bindings : KeyBindings) (display : Option String) :
    Server T where
  toolkit := toolkit
  registry := Registry.empty
  config := config
  bindings := bindings
  windows := WindowTable.empty
  interaction := .passThrough
  keyboards := []
  outputs := []
  socket := none
  running := false
  nextWindow := 1
  display := display
  journal := []

/-- Builds the server around a toolkit. -/
def create (toolkit : T) (config : Config) (display : Option String) :
    Except Failure (Server T) :=
  match config.bindings.resolve with
  | .error cause => .error (.config (.invalid cause))
  | .ok bindings =>
    let themed :=
      (unwired toolkit config bindings display).perform
        (.loadCursorTheme config.cursor.theme config.cursor.size)
    match themed.wireAll (globalWiring themed.toolkit) with
    | .ok server => .ok server
    | .error refusal => .error (.registry refusal)

/-! ## Start -/

/-- Opens a listening socket. -/
def openSocket (server : Server T) : Except ToolkitError String × Server T :=
  let answer := Toolkit.openSocket server.toolkit
  (answer.1, { server with toolkit := answer.2 }.note .openSocket)

/-- Starts the backend. -/
def startBackend (server : Server T) : Except ToolkitError Unit × Server T :=
  let answer := Toolkit.startBackend server.toolkit
  (answer.1, { server with toolkit := answer.2 }.note .startBackend)

/-- Runs the startup command, if there is one. -/
def launch (server : Server T) (host : Host) (socket : String) : Except Failure Unit :=
  match server.config.startupCommand with
  | none => .ok ()
  | some command => (Launch.run host command socket).map fun _ => ()

/-- Tells clients the name of the socket, runs the startup command and begins to process events. -/
def publish (server : Server T) (host : Host) (socket : String) :
    Outcome T (Except Failure String) :=
  if hasNul socket then server.fail (.unsettableVariable Launch.displayVariable socket)
  else
    let advertised := { server with display := some socket }
    match advertised.launch host socket with
    | .error failure => advertised.finish (.error failure)
    | .ok () => { advertised with socket := some socket, running := true }.finish (.ok socket)

/-- Opens the display; the name of its socket. -/
def start (server : Server T) (host : Host) : Outcome T (Except Failure String) :=
  match server.openSocket with
  | (.error cause, opened) => opened.finish (.error (.startup .creatingSocket cause))
  | (.ok socket, opened) =>
    match opened.startBackend with
    | (.error cause, started) => started.finish (.error (.startup .startingBackend cause))
    | (.ok (), started) => started.publish host socket

omit [Toolkit T] in
/-- A publication changes nothing but the socket, whether events are processed, and the display of
clients. -/
theorem publish_server (server : Server T) (host : Host) (name : String) :
    ∃ socket running display, (server.publish host name).server =
      { server with socket := socket, running := running, display := display } := by
  unfold publish
  split
  · exact ⟨server.socket, server.running, server.display, rfl⟩
  · dsimp only
    split
    · exact ⟨server.socket, server.running, some name, rfl⟩
    · exact ⟨some name, true, some name, rfl⟩

/-- However a start ends, it has asked for the socket and perhaps for the backend, and has changed
nothing of its own but the socket, whether events are processed, and the display of clients. -/
theorem start_server (server : Server T) (host : Host) :
    ∃ asked, (asked = server.openSocket.2 ∨ asked = server.openSocket.2.startBackend.2) ∧
      ∃ socket running display, (server.start host).server =
        { asked with socket := socket, running := running, display := display } := by
  unfold start
  split <;> rename_i hsocket
  · obtain rfl := congrArg Prod.snd hsocket
    exact ⟨_, .inl rfl, _, _, _, rfl⟩
  · obtain rfl := congrArg Prod.snd hsocket
    split <;> rename_i hbackend
    · obtain rfl := congrArg Prod.snd hbackend
      exact ⟨_, .inr rfl, _, _, _, rfl⟩
    · obtain rfl := congrArg Prod.snd hbackend
      exact ⟨_, .inr rfl, publish_server _ host _⟩

/-! ## Events -/

/-- Processes events while the session runs; the number of those processed, and those left. -/
def run (server : Server T) : List Emission → Outcome T (Nat × List Emission)
  | [] => server.finish (0, [])
  | emission :: rest =>
    if server.running then
      let dispatched := server.dispatch emission.handle emission.signal emission.event
      match dispatched.result with
      | .error fault => dispatched.server.fail fault
      | .ok _ =>
        (dispatched.server.run rest).map fun done => (done.1 + 1, done.2)
    else server.finish (0, emission :: rest)

/-! ## Shutdown -/

/-- Disconnects the clients, takes the scene down and releases all listeners. -/
def shutdown (server : Server T) : Server T :=
  let quiet := { server with running := false }.perform .destroyClients
  let cleared :=
    { quiet with interaction := .passThrough, windows := WindowTable.empty }.perform .destroyScene
  let released := cleared.registry.clear
  let bare := { cleared with registry := released.2 }.disconnectAll released.1
  { bare with socket := none }

end Server

end Compositor
