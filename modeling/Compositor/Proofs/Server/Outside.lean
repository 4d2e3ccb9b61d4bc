import Compositor.Server.Dispatch
import Mathlib.Tactic.Common

set_option autoImplicit false

/-!
# What happens outside the server

Most of what the server does happens outside of it: the toolkit is told something, listeners are
connected or released, and all of it goes into the journal. The server's own state stays as it is.
This module says so once for all these steps, so that what is said of the windows, the grab and the
devices does not have to look into them.

## Main definitions

* `Server.OnlyOutside` — a state differs from another in toolkit, registry and journal only.

## Main results

* `Server.OnlyOutside.register`, `Server.OnlyOutside.listenAll` — subscriptions.
* `Server.OnlyOutside.unregisterAll`, `Server.OnlyOutside.retire`,
  `Server.OnlyOutside.unsubscribe` — releases.
-/

namespace Compositor.Server

variable {T : Type}

/-- A state differs from an earlier one in the toolkit, the registry and the journal only. -/
def OnlyOutside (before after : Server T) : Prop :=
  ∃ toolkit registry journal,
    after = { before with toolkit := toolkit, registry := registry, journal := journal }

namespace OnlyOutside

variable {before middle after : Server T}

/-- A state does not differ from itself. -/
lemma refl (server : Server T) : OnlyOutside server server := ⟨_, _, _, rfl⟩

/-- Steps outside in turn are outside. -/
lemma trans (h : OnlyOutside before middle) (h' : OnlyOutside middle after) :
    OnlyOutside before after := by
  obtain ⟨_, _, _, rfl⟩ := h
  obtain ⟨_, _, _, rfl⟩ := h'
  exact ⟨_, _, _, rfl⟩

/-- The windows are as before. -/
lemma windows_eq (h : OnlyOutside before after) : after.windows = before.windows := by
  obtain ⟨_, _, _, rfl⟩ := h
  rfl

/-- The number of the next window is as before. -/
lemma nextWindow_eq (h : OnlyOutside before after) : after.nextWindow = before.nextWindow := by
  obtain ⟨_, _, _, rfl⟩ := h
  rfl

/-- The grab is as before. -/
lemma interaction_eq (h : OnlyOutside before after) : after.interaction = before.interaction := by
  obtain ⟨_, _, _, rfl⟩ := h
  rfl

/-- A mark is taken back in the registry. -/
lemma revive (server : Server T) (handle : Handle) : OnlyOutside server (server.revive handle) :=
  ⟨_, _, _, rfl⟩

variable [Toolkit T]

/-- A command goes to the toolkit and into the journal. -/
lemma perform (server : Server T) (command : Command) :
    OnlyOutside server (server.perform command) := ⟨_, _, _, rfl⟩

/-- A disconnection goes to the toolkit and into the journal. -/
lemma disconnect (server : Server T) (token : Token) :
    OnlyOutside server (server.disconnect token) := ⟨_, _, _, rfl⟩

/-! ## Subscriptions -/

/-- A registration concerns the registry, and connects a native listener at most. -/
lemma register (server : Server T) (handle : Handle) (signal : Signal)
    (callback : Callback Handler) :
    OnlyOutside server (server.register handle signal callback).2 := by
  unfold Server.register
  split
  · exact refl server
  · split
    · exact ⟨_, _, _, rfl⟩
    · exact ⟨_, _, _, rfl⟩

/-- Wirings are registrations, one after the other. -/
lemma listenAll (server : Server T) (wirings : List Wiring) :
    OnlyOutside server (server.listenAll wirings) := by
  induction wirings generalizing server with
  | nil => exact refl server
  | cons wiring rest ih => exact (register server _ _ _).trans (ih _)

/-! ## Releases -/

/-- Listeners are disconnected one after the other. -/
lemma disconnectAll (server : Server T) (listeners : List (Listener Handler)) :
    OnlyOutside server (server.disconnectAll listeners) := by
  unfold Server.disconnectAll
  induction listeners generalizing server with
  | nil => exact refl server
  | cons listener rest ih => exact (disconnect server listener.token).trans (ih _)

/-- The listeners of a handle are taken from the registry and disconnected. -/
lemma unregisterAll (server : Server T) (handle : Handle) :
    OnlyOutside server (server.unregisterAll handle).2 :=
  trans ⟨_, _, _, rfl⟩ (disconnectAll _ _)

/-- The listeners of a handle that is retired are taken from the registry and disconnected. -/
lemma retire (server : Server T) (handle : Handle) : OnlyOutside server (server.retire handle) :=
  trans ⟨_, _, _, rfl⟩ (disconnectAll _ _)

/-- A subscriber is removed from the registry, and its listener disconnected at most. -/
lemma unsubscribe (server : Server T) (id : SubscriptionId) :
    OnlyOutside server (server.unsubscribe id).2 := by
  unfold Server.unsubscribe
  split
  · exact refl server
  · exact ⟨_, _, _, rfl⟩
  · exact ⟨_, _, _, rfl⟩

/-! ## Parts of handlers -/

/-- At most one toplevel is told that it is not active any more. -/
lemma deactivatePrevious (server : Server T) (previous : Option Handle) (toplevel : Handle) :
    OnlyOutside server (server.deactivatePrevious previous toplevel) := by
  unfold Server.deactivatePrevious
  split
  · split
    · exact refl server
    · exact perform server _
  · exact refl server

/-- At most the cursor is changed. -/
lemma showDefaultCursor (server : Server T) (hit : Option SurfaceHit) :
    OnlyOutside server (server.showDefaultCursor hit) := by
  unfold Server.showDefaultCursor
  split
  · exact refl server
  · exact perform server _

/-- Motion that passes through is told to the toolkit alone. -/
lemma processPassThrough (server : Server T) (time : UInt32) :
    OnlyOutside server (server.processPassThrough time) := by
  unfold Server.processPassThrough
  dsimp only
  split
  · exact (showDefaultCursor server _).trans ((perform _ _).trans (perform _ _))
  · exact (showDefaultCursor server _).trans (perform _ _)

/-- Modifiers are told to the toolkit alone. -/
lemma handleModifiers (server : Server T) (device : Handle) :
    OnlyOutside server (server.handleModifiers device) :=
  (perform _ _).trans (perform _ _)

/-- A request of an output is handed to the toolkit. -/
lemma handleRequestState (server : Server T) (output state : Handle) :
    OnlyOutside server (server.handleRequestState output state) := ⟨_, _, _, rfl⟩

/-- The cursor is set by the toolkit, if at all. -/
lemma handleSetCursorRequest (server : Server T) (client : Handle) (surface : Option Handle)
    (hotspot : Point Int32) :
    OnlyOutside server (server.handleSetCursorRequest client surface hotspot) := by
  unfold Server.handleSetCursorRequest
  split
  · exact perform server _
  · exact refl server

/-- A popup has a node and listeners, but no record. -/
lemma handleNewPopup (server : Server T) (popup : Handle) (parent : Option Handle) :
    OnlyOutside server (server.handleNewPopup popup parent).server := by
  unfold Server.handleNewPopup
  split
  · exact refl server
  · exact trans ⟨_, _, _, rfl⟩ (listenAll _ _)

end OnlyOutside

end Compositor.Server
