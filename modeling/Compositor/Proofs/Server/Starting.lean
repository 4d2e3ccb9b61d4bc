import Compositor.Proofs.Server.Census
import Compositor.Proofs.Server.Reachable

set_option autoImplicit false

/-!
# A start that fails

A start opens the socket, starts the backend, tells clients the name of the socket and runs the
startup command. The socket and the backend can fail before anything is published. The startup
command is run last. The machine may refuse to start the shell for any reason of its own, or the
thread that waits for its end, and by then clients have been told of a display that is never served.

## Main definitions

* `Launch.Fails` — the ways in which a command can fail to be started.
* `Server.StartFails` — the ways in which a start can fail, and the state that each leaves.

## Main results

* `Server.startFails_iff` — there are no other ways, and each of them makes a start fail.
* `Server.kept_of_failed_start` — what a failed start leaves as it was.
* `Server.exists_display_of_failed_start` — it can leave clients told of a display.
-/

namespace Compositor

/-! ## The startup command -/

namespace Launch

variable {host : Host} {command socket : String} {failure : Failure}

/-- The ways in which a command can fail to be started on a machine. -/
inductive Fails (host : Host) (command socket : String) : Failure → Prop
  /-- The command or the name of the socket has a NUL character. The machine is not asked. -/
  | nul : (hasNul command || hasNul socket) = true →
    Fails host command socket (.launch command .nulInCommand)
  /-- The machine does not start the shell. -/
  | shell {cause : SystemError} : (hasNul command || hasNul socket) = false →
    host.startShell command socket = .error cause →
    Fails host command socket (.launch command cause)
  /-- The machine starts the shell, and not the thread that waits for its end. -/
  | reaper {process : Nat} {cause : SystemError} : (hasNul command || hasNul socket) = false →
    host.startShell command socket = .ok process → host.startThread reaperName = .error cause →
    Fails host command socket (.io cause)

/-- A command fails to be started just in these ways. -/
lemma run_eq_error_iff :
    run host command socket = .error failure ↔ Fails host command socket failure := by
  constructor
  · intro h
    unfold run at h
    split at h <;> rename_i hnul
    · cases h
      exact .nul hnul
    have hplain : (hasNul command || hasNul socket) = false := by simpa using hnul
    split at h <;> rename_i hshell
    · cases h
      exact .shell hplain hshell
    split at h <;> rename_i hthread
    · cases h
      exact .reaper hplain hshell hthread
    · cases h
  · intro h
    cases h with
    | nul hnul => simp [run, hnul]
    | shell hplain hshell => simp [run, hplain, hshell]
    | reaper hplain hshell hthread => simp [run, hplain, hshell, hthread]

end Launch

namespace Server

variable {T : Type} {server left : Server T} {host : Host} {failure : Failure}

/-- Running the startup command fails just if there is one and it fails to be started. -/
lemma launch_eq_error_iff {socket : String} :
    server.launch host socket = .error failure ↔
      ∃ command, server.config.startupCommand = some command ∧
        Launch.Fails host command socket failure := by
  unfold launch
  cases server.config.startupCommand with
  | none => simp
  | some command =>
    simp only [Option.some.injEq, exists_eq_left', ← Launch.run_eq_error_iff]
    cases Launch.run host command socket <;> simp [Except.map]

/-- Publishing the display fails just if the startup command does. Clients are told of the display
all the same. -/
lemma publish_fails_iff {socket : String} :
    ((server.publish host socket).result = .ok (.error failure) ∧
        (server.publish host socket).server = left) ↔
      hasNul socket = false ∧
        (∃ command, server.config.startupCommand = some command ∧
          Launch.Fails host command socket failure) ∧
        left = { server with display := some socket } := by
  have hlaunch : launch { server with display := some socket } host socket = .error failure ↔
      ∃ command, server.config.startupCommand = some command ∧
        Launch.Fails host command socket failure := launch_eq_error_iff
  rw [← hlaunch]
  unfold publish
  cases hasNul socket with
  | true => simp [fail]
  | false =>
    simp only [Bool.false_eq_true, if_false, true_and]
    cases launch { server with display := some socket } host socket with
    | ok _ => simp [finish]
    | error cause => simp [finish, eq_comm]

/-! ## The start -/

variable [Toolkit T]

/-- The ways in which a start can fail on a machine, and the state that each leaves. -/
inductive StartFails (server : Server T) (host : Host) : Failure → Server T → Prop
  /-- The socket cannot be opened. -/
  | socket {cause : ToolkitError} : server.openSocket.1 = .error cause →
    StartFails server host (.startup .creatingSocket cause) server.openSocket.2
  /-- The backend cannot be started. -/
  | backend {socket : String} {cause : ToolkitError} : server.openSocket.1 = .ok socket →
    server.openSocket.2.startBackend.1 = .error cause →
    StartFails server host (.startup .startingBackend cause) server.openSocket.2.startBackend.2
  /-- The startup command fails to be started. By then clients are told the name of the socket. -/
  | command {command socket : String} {failure : Failure} : server.openSocket.1 = .ok socket →
    server.openSocket.2.startBackend.1 = .ok () → hasNul socket = false →
    server.config.startupCommand = some command → Launch.Fails host command socket failure →
    StartFails server host failure
      { server.openSocket.2.startBackend.2 with display := some socket }

/-- A start takes three steps. -/
lemma start_eq (server : Server T) (host : Host) :
    server.start host =
      match server.openSocket.1 with
      | .error cause => server.openSocket.2.finish (.error (.startup .creatingSocket cause))
      | .ok socket =>
        match server.openSocket.2.startBackend.1 with
        | .error cause =>
          server.openSocket.2.startBackend.2.finish (.error (.startup .startingBackend cause))
        | .ok () => server.openSocket.2.startBackend.2.publish host socket := by
  unfold start
  obtain ⟨answer, opened⟩ := server.openSocket
  cases answer with
  | error _ => rfl
  | ok _ =>
    dsimp only
    obtain ⟨answer, started⟩ := opened.startBackend
    cases answer <;> rfl

/-- A start fails just in these ways. -/
lemma startFails_iff :
    StartFails server host failure left ↔
      (server.start host).result = .ok (.error failure) ∧ (server.start host).server = left := by
  rw [start_eq]
  constructor
  · intro h
    cases h with
    | socket hs => simp [hs, finish]
    | backend hs hb => simp [hs, hb, finish]
    | command hs hb hn hc hf =>
      simp only [hs, hb]
      exact publish_fails_iff.2 ⟨hn, ⟨_, hc, hf⟩, rfl⟩
  · intro h
    cases hs : server.openSocket.1 with
    | error cause =>
      simp only [hs] at h
      obtain ⟨hresult, rfl⟩ := h
      cases hresult
      exact .socket hs
    | ok socket =>
      simp only [hs] at h
      cases hb : server.openSocket.2.startBackend.1 with
      | error cause =>
        simp only [hb] at h
        obtain ⟨hresult, rfl⟩ := h
        cases hresult
        exact .backend hs hb
      | ok _ =>
        simp only [hb] at h
        obtain ⟨hn, ⟨command, hc, hf⟩, rfl⟩ := publish_fails_iff.1 h
        exact .command hs hb hn hc hf

/-- **A failed start leaves no trace, but for a startup command that fails to be started.** Whatever
fails, and whatever the machine answers, the name of the socket is not taken over, and events are
processed just if they were before. If the socket or the backend fails, clients are told of no
display either. A startup command fails for a NUL character, or because the machine does not start
the shell or the thread that waits for its end, and leaves the name of the socket among the
variables of the process.

**Proof sketch.** Opening the socket and starting the backend change nothing but the toolkit and the
journal, and the start is over before it sets more than the variable, see `startFails_iff`. -/
theorem kept_of_failed_start (h : (server.start host).result = .ok (.error failure)) :
    (server.start host).server.socket = server.socket ∧
      (server.start host).server.running = server.running ∧
      ((∃ stage cause, failure = .startup stage cause ∧
          (server.start host).server.display = server.display) ∨
        ∃ command socket, server.config.startupCommand = some command ∧
          Launch.Fails host command socket failure ∧ server.openSocket.1 = .ok socket ∧
          (server.start host).server.display = some socket) := by
  have hfails : StartFails server host failure (server.start host).server :=
    startFails_iff.2 ⟨h, rfl⟩
  generalize (server.start host).server = left at hfails ⊢
  cases hfails with
  | socket _ => exact ⟨rfl, rfl, .inl ⟨_, _, rfl, rfl⟩⟩
  | backend _ _ => exact ⟨rfl, rfl, .inl ⟨_, _, rfl, rfl⟩⟩
  | command hs _ _ hc hf => exact ⟨rfl, rfl, .inr ⟨_, _, hc, hf, hs, rfl⟩⟩

/-- A machine that starts no more threads. The shell runs, and the start fails all the same. -/
theorem kept_of_failed_start_crowded :
    let busy : SystemError := ⟨some 11, .other "WouldBlock", "Resource temporarily unavailable"⟩
    let host := { Host.willing with startThread := fun _ => .error busy }
    let server := { standard with
      config := { Config.standard with startupCommand := some "foot" } }
    (server.start host).result = .ok (.error (.io busy)) ∧
      (server.start host).server.socket = none ∧ (server.start host).server.running = false ∧
      (server.start host).server.display = some "wayland-1" := by
  intro busy host server
  have hresult : (server.start host).result = .ok (.error (.io busy)) := rfl
  obtain ⟨hsocket, hrunning, ⟨_, _, hstartup, -⟩ | ⟨_, socket, -, -, hopened, hdisplay⟩⟩ :=
    kept_of_failed_start hresult
  · cases hstartup
  · obtain rfl : "wayland-1" = socket := Except.ok.inj hopened
    exact ⟨hresult, hsocket, hrunning, hdisplay⟩

/-- A server whose startup command has a NUL character. -/
def unrunnable : Server Headless :=
  (create Headless.standard { Config.standard with startupCommand := some "true\x00" }
    none).toOption.get (by decide +kernel)

/-- The server was just created. -/
lemma reachable_unrunnable : Reachable unrunnable [] :=
  .create (eq_ok_get_toOption _)

/-- **A failed start can leave a trace**: a server whose startup command has a NUL character fails
to start on every machine, and clients are told of a display that was not there before. -/
theorem exists_display_of_failed_start : ∃ server : Server Headless, Reachable server [] ∧
    server.display = none ∧ ∀ host,
      (server.start host).result = .ok (.error (.launch "true\x00" .nulInCommand)) ∧
        (server.start host).server.display = some "wayland-1" := by
  refine ⟨unrunnable, reachable_unrunnable, by decide +kernel, fun host => ?_⟩
  have hopened : unrunnable.openSocket.1 = .ok "wayland-1" := by decide +kernel
  have hstarted : unrunnable.openSocket.2.startBackend.1 = .ok () := by decide +kernel
  have hcommand : unrunnable.config.startupCommand = some "true\x00" := by decide +kernel
  have hfails : StartFails unrunnable host (.launch "true\x00" .nulInCommand)
      { unrunnable.openSocket.2.startBackend.2 with display := some "wayland-1" } :=
    .command hopened hstarted (by decide +kernel) hcommand (.nul (by decide +kernel))
  obtain ⟨hresult, hleft⟩ := startFails_iff.1 hfails
  exact ⟨hresult, by rw [hleft]⟩

end Server

end Compositor
