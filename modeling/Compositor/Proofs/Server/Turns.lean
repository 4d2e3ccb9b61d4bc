import Compositor.Proofs.Server.Focusing
import Compositor.Proofs.Server.Placement
import Mathlib.Data.List.Pairwise

set_option autoImplicit false

/-!
# Turns

What becomes of windows and focus depends on the toolkit as much as on the server. The toolkit
announces windows, tells that they are mapped, unmapped or destroyed, and takes the focus from a
surface that leaves. It may do the last before the server hears of the event or after it is done
with it. A turn is one event, together with the toolkit as the server finds it then and as the
toolkit is when the turn is over. What the toolkit may be at these two times is said by promises,
which each result names.

## Main definitions

* `Server.Desktop` — the live windows, as told by the dispatched events alone.
* `Server.Desktop.takes`, `Server.Desktop.held` — the surfaces that lose the focus by an event, and
  what is left of the focus.
* `Server.Turn` — one event and the toolkit around it.
* `Server.Turn.Fair` — what toolkits promise in a turn.
* `Server.Session` — the states of a server between turns, under a promise.

## Main results

* `Server.Session.driven` — turns are dispatches, so that callbacks are where they belong.
-/

namespace Compositor

/-- Whether an event is the destruction of a window. -/
def Emission.destroys (emission : Emission) (face : Face) : Bool :=
  emission.signal = .destroy ∧ face.toplevel = emission.handle

namespace Server

/-! ## Live windows -/

/-- A window that lives. -/
structure LiveWindow where
  /-- The toplevel. -/
  toplevel : Handle
  /-- The root surface. -/
  surface : Handle
  /-- Whether it is mapped. -/
  mapped : Bool
deriving DecidableEq

/-- Notes whether the window with a given root surface is mapped. -/
def LiveWindow.mark (surface : Handle) (mapped : Bool) (window : LiveWindow) : LiveWindow :=
  if window.surface = surface then { window with mapped } else window

/-- Two windows have distinct root surfaces, and neither has the toplevel of the other as its root
surface. -/
def LiveWindow.Apart (window other : LiveWindow) : Prop :=
  window.surface ≠ other.surface ∧ window.surface ≠ other.toplevel ∧
    window.toplevel ≠ other.surface

instance : DecidableRel LiveWindow.Apart :=
  fun window other => inferInstanceAs (Decidable (window.surface ≠ other.surface ∧
    window.surface ≠ other.toplevel ∧ window.toplevel ≠ other.surface))

instance : Std.Symm LiveWindow.Apart :=
  ⟨fun _ _ h => ⟨h.1.symm, h.2.2.symm, h.2.1.symm⟩⟩

/-- The live windows, in the order of their announcement. -/
structure Desktop where
  /-- The shell, which announces them. -/
  shell : Handle
  /-- The windows. -/
  windows : List LiveWindow

namespace Desktop

/-- The window that an event announces. -/
def announced? (desktop : Desktop) (emission : Emission) : Option LiveWindow :=
  match emission.event with
  | .newToplevel toplevel surface =>
    if emission.handle = desktop.shell then some ⟨toplevel, surface, false⟩ else none
  | _ => none

/-- The live windows after an event. -/
def after (desktop : Desktop) (emission : Emission) : Desktop :=
  { desktop with
    windows :=
      match emission.signal with
      | .newToplevel => desktop.windows ++ (desktop.announced? emission).toList
      | .map => desktop.windows.map (.mark emission.handle true)
      | .unmap => desktop.windows.map (.mark emission.handle false)
      | .destroy => desktop.windows.filter fun window => window.toplevel ≠ emission.handle
      | _ => desktop.windows }

/-- Whether an event takes the focus from a surface: the surface is unmapped, or it or its toplevel
is destroyed. -/
def takes (desktop : Desktop) (emission : Emission) (surface : Handle) : Bool :=
  match emission.signal with
  | .unmap => surface = emission.handle
  | .destroy => surface = emission.handle ∨ ∃ window ∈ desktop.windows,
      window.toplevel = emission.handle ∧ window.surface = surface
  | _ => false

/-- What is left of the focus after an event. -/
def held (desktop : Desktop) (emission : Emission) (focus : Option Handle) : Option Handle :=
  focus.filter fun surface => !desktop.takes emission surface

/-- What is left of a focus that an event does not take. -/
lemma held_of_takes_eq_false {desktop : Desktop} {emission : Emission} {surface : Handle}
    {focus : Option Handle} (hf : focus = some surface)
    (ht : desktop.takes emission surface = false) : desktop.held emission focus = some surface := by
  rw [hf, held, Option.filter_some, ht]
  rfl

/-- The live windows share no objects, as far as root surfaces go. -/
def Apart (desktop : Desktop) : Prop :=
  desktop.windows.Pairwise LiveWindow.Apart

/-- A root surface belongs to one live window. -/
lemma Apart.eq {desktop : Desktop} (h : desktop.Apart) {window other : LiveWindow}
    (hw : window ∈ desktop.windows) (ho : other ∈ desktop.windows)
    (he : window.surface = other.surface) : window = other := by
  by_contra hne
  exact (List.Pairwise.forall h hw ho hne).1 he

end Desktop

/-! ## Turns -/

/-- One event, and the toolkit around it. -/
structure Turn (T : Type) where
  /-- The event. -/
  emission : Emission
  /-- The toolkit as the server finds it. -/
  opening : T
  /-- The toolkit when the turn is over. -/
  closing : T

variable {T : Type} [Toolkit T]

namespace Turn

/-- The server as the event finds it. -/
def start (turn : Turn T) (server : Server T) : Server T :=
  { server with toolkit := turn.opening }

/-- The server once it is done with the event. -/
def dispatched (turn : Turn T) (server : Server T) : Server T :=
  ((turn.start server).dispatch turn.emission.handle turn.emission.signal
    turn.emission.event).server

/-- The server when the turn is over. -/
def result (turn : Turn T) (server : Server T) : Server T :=
  { turn.dispatched server with toolkit := turn.closing }

/-- What toolkits promise in a turn. -/
structure Fair (desktop : Desktop) (server : Server T) (turn : Turn T) : Prop where
  /-- Before the server hears of the event, the focus stays as it is, or is taken by the event. -/
  opening_focus : Toolkit.keyboardFocus turn.opening = Toolkit.keyboardFocus server.toolkit ∨
    Toolkit.keyboardFocus turn.opening =
      desktop.held turn.emission (Toolkit.keyboardFocus server.toolkit)
  /-- In the end it is taken by the event if it was not yet, and not otherwise. -/
  closing_focus : Toolkit.keyboardFocus turn.closing =
    desktop.held turn.emission (Toolkit.keyboardFocus (turn.dispatched server).toolkit)
  /-- The live windows share no objects. -/
  apart : (desktop.after turn.emission).Apart
  /-- A toplevel is destroyed before its root surface. -/
  toplevel_first : turn.emission.signal = .destroy → ∀ window ∈ desktop.windows,
    window.surface = turn.emission.handle → window.toplevel = turn.emission.handle
  /-- A button of the pointer is pressed over mapped windows only: no other surfaces are hit. -/
  hits_mapped : ∀ time button state, turn.emission.event = .pointerButton time button state →
    ∀ place hit, Toolkit.surfaceAt
      (Toolkit.perform (.pointerButton time button state) turn.opening) place = some hit →
    ∀ window ∈ desktop.windows, Toolkit.toplevelOf
      (Toolkit.perform (.pointerButton time button state) turn.opening) hit.surface =
        some window.toplevel → window.mapped = true

end Turn

/-! ## Sessions -/

/-- The states of a server between turns, with the live windows. All turns keep a given promise. -/
inductive Session (promise : Desktop → Server T → Turn T → Prop) : Desktop → Server T → Prop
  /-- A server is built. No surface was given the focus yet. -/
  | create {toolkit origin : T} {config : Config} {display : Option String} {server : Server T} :
    Server.create toolkit config display = .ok server →
      Toolkit.perform (.loadCursorTheme config.cursor.theme config.cursor.size) toolkit = origin →
      Toolkit.keyboardFocus toolkit = none →
      Session promise ⟨Toolkit.shell origin, []⟩ server
  /-- The display is opened, on any machine. -/
  | start {desktop : Desktop} {server : Server T} (host : Host) :
    Session promise desktop server → Session promise desktop (server.start host).server
  /-- An event happens. -/
  | turn {desktop : Desktop} {server : Server T} (turn : Turn T) :
    Session promise desktop server → promise desktop server turn →
    Session promise (desktop.after turn.emission) (turn.result server)

namespace Session

variable {promise weaker : Desktop → Server T → Turn T → Prop} {desktop : Desktop}
  {server : Server T}

/-- A promise that keeps more keeps less. -/
lemma mono (h : Session promise desktop server)
    (hp : ∀ desktop server turn, promise desktop server turn → weaker desktop server turn) :
    Session weaker desktop server := by
  induction h with
  | create hc ho hn => exact .create hc ho hn
  | start host _ ih => exact .start host ih
  | turn turn _ hpromise ih => exact .turn turn ih (hp _ _ _ hpromise)

/-- Turns are dispatches. -/
lemma driven (h : Session promise desktop server) :
    ∃ origin, Driven origin server ∧ Toolkit.shell origin = desktop.shell := by
  induction h with
  | create hc ho _ => exact ⟨_, .create hc ho, rfl⟩
  | start host _ ih =>
    obtain ⟨origin, hdriven, hshell⟩ := ih
    exact ⟨origin, .call (.start host) hdriven rfl, hshell⟩
  | turn turn _ _ ih =>
    obtain ⟨origin, hdriven, hshell⟩ := ih
    exact ⟨origin, .toolkit _ (.emit turn.emission (.toolkit turn.opening hdriven)), hshell⟩

end Session

/-! ## The headless toolkit -/

/-- A turn of the headless toolkit. It is changed from outside before, and takes the focus at the
end. -/
def Turn.headless (desktop : Desktop) (server : Server Headless) (settings : List Headless.Setting)
    (emission : Emission) : Turn Headless :=
  let opening := settings.foldl Headless.configure server.toolkit
  let dispatched := ({ server with toolkit := opening }.dispatch emission.handle emission.signal
    emission.event).server
  { emission
    opening
    closing :=
      { dispatched.toolkit with
        keyboardFocus := desktop.held emission dispatched.toolkit.keyboardFocus } }

/-- Turns of the headless toolkit, one after another, as long as they pass a check. -/
def rehearse (check : Desktop → Server Headless → Turn Headless → Bool) (desktop : Desktop)
    (server : Server Headless) :
    List (List Headless.Setting × Emission) → Option (Desktop × Server Headless)
  | [] => some (desktop, server)
  | (settings, emission) :: rest =>
    let turn := Turn.headless desktop server settings emission
    if check desktop server turn then
      rehearse check (desktop.after emission) (turn.result server) rest
    else none

/-- A rehearsal of turns that keep a promise is a session. -/
lemma Session.rehearse {promise : Desktop → Server Headless → Turn Headless → Prop}
    {check : Desktop → Server Headless → Turn Headless → Bool}
    (hcheck : ∀ desktop server turn, check desktop server turn = true →
      promise desktop server turn)
    {desktop desktop' : Desktop} {server server' : Server Headless}
    {script : List (List Headless.Setting × Emission)} (h : Session promise desktop server)
    (hs : Server.rehearse check desktop server script = some (desktop', server')) :
    Session promise desktop' server' := by
  induction script generalizing desktop server with
  | nil =>
    cases hs
    exact h
  | cons entry rest ih =>
    obtain ⟨settings, emission⟩ := entry
    unfold Server.rehearse at hs
    dsimp only at hs
    split at hs <;> rename_i hc
    · exact ih (h.turn _ (hcheck _ _ _ hc)) hs
    · cases hs

/-- A session on the headless toolkit begins without windows. -/
lemma Session.standard (promise : Desktop → Server Headless → Turn Headless → Prop) :
    Session promise ⟨Headless.standard.shell, []⟩ Server.standard :=
  .create create_standard rfl rfl

/-- What a rehearsal with a new server leads to. -/
lemma Session.exists_of_rehearse {promise : Desktop → Server Headless → Turn Headless → Prop}
    {check : Desktop → Server Headless → Turn Headless → Bool}
    (hcheck : ∀ desktop server turn, check desktop server turn = true →
      promise desktop server turn)
    (script : List (List Headless.Setting × Emission)) (seen : Server Headless → Bool)
    (h : (Server.rehearse check ⟨Headless.standard.shell, []⟩ Server.standard script).any
      (fun state => seen state.2) = true) :
    ∃ desktop server, Session promise desktop server ∧ seen server = true := by
  cases hs : Server.rehearse check ⟨Headless.standard.shell, []⟩ Server.standard script with
  | none =>
    rw [hs] at h
    cases h
  | some state =>
    rw [hs] at h
    exact ⟨state.1, state.2, .rehearse hcheck (.standard promise) hs, h⟩

/-- Checks that a turn without buttons is fair. -/
def Turn.isFair (desktop : Desktop) (server : Server Headless) (turn : Turn Headless) : Bool :=
  let focus := server.toolkit.keyboardFocus
  let emission := turn.emission
  (turn.opening.keyboardFocus = focus ∨
      turn.opening.keyboardFocus = desktop.held emission focus) &&
    turn.closing.keyboardFocus =
      desktop.held emission (turn.dispatched server).toolkit.keyboardFocus &&
    (desktop.after emission).windows.Pairwise LiveWindow.Apart &&
    (emission.signal = .destroy → ∀ window ∈ desktop.windows,
      window.surface = emission.handle → window.toplevel = emission.handle) &&
    match emission.event with
    | .pointerButton _ _ _ => false
    | _ => true

/-- The check of a turn is right: what it has passed is fair. -/
lemma Turn.fair_of_isFair (desktop : Desktop) (server : Server Headless) (turn : Turn Headless)
    (h : turn.isFair desktop server = true) : turn.Fair desktop server := by
  simp only [Turn.isFair, Bool.and_eq_true, decide_eq_true_eq] at h
  obtain ⟨⟨⟨⟨hopening, hclosing⟩, hapart⟩, hfirst⟩, hevent⟩ := h
  refine ⟨hopening, hclosing, hapart, hfirst, fun time button state he => ?_⟩
  rw [he] at hevent
  cases hevent

/-- Two windows are announced and mapped. -/
def twoWindows : List (List Headless.Setting × Emission) :=
  [([.window ⟨0x50⟩ ⟨0x51⟩ none none none],
      ⟨⟨0x20⟩, .newToplevel, .newToplevel ⟨0x50⟩ ⟨0x51⟩⟩),
    ([], ⟨⟨0x51⟩, .map, .empty⟩),
    ([.window ⟨0x60⟩ ⟨0x61⟩ none none none],
      ⟨⟨0x20⟩, .newToplevel, .newToplevel ⟨0x60⟩ ⟨0x61⟩⟩),
    ([], ⟨⟨0x61⟩, .map, .empty⟩)]

end Server

end Compositor
