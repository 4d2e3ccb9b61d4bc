import Compositor.Proofs.Keys.Table
import Compositor.Proofs.Server.Census
import Compositor.Proofs.Server.Journal
import Compositor.Proofs.Server.Moments
import Compositor.Proofs.Server.Outside
import Compositor.Proofs.Server.Replay

set_option autoImplicit false

/-!
# Where a key goes

A key event goes to one of two places. If it is a press of a bound key while the accelerator is
held, the compositor runs an action and the focused client never hears of it. In all other cases the
client gets it, and the compositor does nothing. A key may stand for several keysyms and several of
these may be bound; then the first of them decides.

## Main definitions

* `Server.IsChord` — a key event that the compositor keeps to itself.
* `Record.isForwarding` — entries by which a key goes to the focused client.

## Main results

* `Server.dispatch_eq_of_sole` — a signal with one subscriber is handled by that one alone.
* `Server.key_has_one_destination` — where a key goes.
-/

namespace Compositor

/-! ## Forwarding -/

/-- Whether an entry is part of handing a key to the focused client. -/
def Record.isForwarding : Record → Bool
  | command (.setSeatKeyboard _) | command (.keyboardKey _ _ _) => true
  | _ => false

namespace Server

variable {T : Type} [Toolkit T] {server : Server T}

/-- A key event is a press while the accelerator is held, and a keysym of the key is bound. -/
def IsChord (server : Server T) (device : Handle) (keycode : UInt32) (state : Press) : Prop :=
  state = .pressed ∧
    (Toolkit.keyboardModifiers server.toolkit device).Includes server.bindings.modifier ∧
    ∃ keysym ∈ Toolkit.keysyms server.toolkit device keycode,
      ∃ action, server.bindings.Binds keysym action

/-- The first bound keysym of a chord decides. -/
lemma boundAction?_eq_some_iff {device : Handle} {keycode : UInt32} {state : Press}
    {action : Action} (h : server.IsChord device keycode state) :
    server.boundAction? device keycode state = some action ↔
      server.bindings.FirstBound (Toolkit.keysyms server.toolkit device keycode) action := by
  obtain ⟨rfl, hheld, -⟩ := h
  exact KeyBindings.findSome?_lookup?_eq_some_iff hheld

/-- Only chords have an action. -/
lemma boundAction?_eq_none_iff {device : Handle} {keycode : UInt32} {state : Press} :
    server.boundAction? device keycode state = none ↔
      ¬ server.IsChord device keycode state := by
  unfold boundAction? IsChord
  cases state with
  | released => simp
  | pressed =>
    dsimp only
    by_cases hheld : (Toolkit.keyboardModifiers server.toolkit device).Includes
        server.bindings.modifier
    · simp only [KeyBindings.findSome?_lookup?_eq_none_iff hheld, true_and, hheld]
    · simp [hheld, KeyBindings.lookup?_of_not_includes hheld]

/-! ## What is asked of the toolkit -/

omit [Toolkit T] in
/-- What was put into the journal is read from it, oldest first. -/
lemma recordsSince_of_append {before after : Server T} {records : List Record}
    (h : after.journal = records ++ before.journal) :
    after.recordsSince before = records.reverse := by
  simp [recordsSince, h]

/-- What is asked of the toolkit in a step does not hand a key to the focused client. -/
def KeepsKeys (before after : Server T) : Prop :=
  Noted (fun record => record.isForwarding = false) before after

namespace KeepsKeys

/-- A command hands on a key only if it is the one to do so. -/
lemma perform (server : Server T) {command : Command}
    (h : (Record.command command).isForwarding = false) :
    KeepsKeys server (server.perform command) := Noted.of_cons rfl h

/-- A toplevel that is told that it is not active gets no key. -/
lemma deactivatePrevious (server : Server T) (previous : Option Handle) (toplevel : Handle) :
    KeepsKeys server (server.deactivatePrevious previous toplevel) := by
  unfold Server.deactivatePrevious
  split
  · split
    · exact Noted.refl server
    · exact perform server rfl
  · exact Noted.refl server

/-- A window that gets the focus is raised, told and entered, but gets no key. -/
lemma focusWindow (server : Server T) (id : WindowId) (surface : Handle) :
    KeepsKeys server (server.focusWindow id surface) := by
  unfold Server.focusWindow
  dsimp only
  split
  · exact Noted.refl server
  · split
    · exact Noted.refl server
    · rename_i window _
      let told := server.deactivatePrevious (Toolkit.keyboardFocus server.toolkit) window.toplevel
      let raised := told.perform (.raiseToTop window.scene)
      let moved : Server T := { raised with windows := raised.windows.moveToFront id }
      have htold : KeepsKeys server told := deactivatePrevious server _ _
      have hraised : KeepsKeys told raised := perform told rfl
      have hmoved : KeepsKeys raised moved := Noted.of_eq rfl
      have hactive : KeepsKeys moved (moved.perform (.setActivated window.toplevel true)) :=
        perform moved rfl
      exact (((htold.trans hraised).trans hmoved).trans hactive).trans (perform _ rfl)

/-- Actions keep the key to themselves. -/
lemma runAction (server : Server T) (action : Action) :
    KeepsKeys server (server.runAction action) := by
  cases action with
  | terminate =>
    have hstopped : KeepsKeys server { server with running := false } := Noted.of_eq rfl
    exact hstopped.trans (perform _ rfl)
  | cycleFocus =>
    show KeepsKeys server server.cycleFocus
    unfold Server.cycleFocus
    split
    · exact Noted.refl server
    · split
      · exact Noted.refl server
      · exact focusWindow server _ _

end KeepsKeys

/-! ## Where a key goes -/

/-- A signal with one subscriber is handled by that one alone. -/
lemma dispatch_eq_of_sole {handle : Handle} {signal : Signal} {event : Event} {handler : Handler}
    (h : server.registry.callbacks handle signal = [.run handler])
    (hr : (handler.run event server).result = .ok ()) :
    server.dispatch handle signal event = (handler.run event server).server.finish 1 := by
  unfold dispatch
  dsimp only
  rw [h, serve, runCallback, hr]
  rfl

/-- **Each key event has one destination.** If it is a press while the accelerator is held and some
keysym of the key is bound, just one action is run, that of the first bound keysym, and nothing that
is asked of the toolkit hands the key to the focused client. Otherwise no action is run. The
keyboard is made the active one, the key is handed on as it is, and nothing else is done, so that
windows, focus and grab stay as they are. Where nobody but the compositor listens to the keys of the
keyboard, this is all that comes of the key's signal.

**Proof sketch.** The search through the keysyms finds the first one that is bound while the
accelerator is held, and nothing otherwise. An action gives commands of other kinds only; without
one, just two commands are given, neither of which concerns the focus. -/
theorem key_has_one_destination (server : Server T) (device : Handle) (time keycode : UInt32)
    (state : Press) :
    let handled := (Handler.key device).run (.key time keycode state) server
    handled.result = .ok () ∧
    (server.IsChord device keycode state →
      (∃ action, server.bindings.FirstBound (Toolkit.keysyms server.toolkit device keycode) action ∧
        (∀ other, server.bindings.FirstBound (Toolkit.keysyms server.toolkit device keycode) other →
          other = action) ∧
        handled.server = server.runAction action) ∧
      ∀ record ∈ handled.server.recordsSince server, record.isForwarding = false) ∧
    (¬ server.IsChord device keycode state →
      handled.server.recordsSince server =
        [.command (.setSeatKeyboard device), .command (.keyboardKey time keycode state)] ∧
      handled.server = (server.perform (.setSeatKeyboard device)).perform
        (.keyboardKey time keycode state) ∧
      handled.server.windows = server.windows ∧
      handled.server.interaction = server.interaction ∧
      (KeepsFocus T →
        Toolkit.keyboardFocus handled.server.toolkit = Toolkit.keyboardFocus server.toolkit)) ∧
    (server.registry.callbacks device .key = [.run (.key device)] →
      server.dispatch device .key (.key time keycode state) = handled.server.finish 1) := by
  intro handled
  have hhandled : handled = (server.handleKey device time keycode state).finish () := rfl
  refine ⟨rfl, fun hchord => ?_, fun hchord => ?_, fun hsole => dispatch_eq_of_sole hsole rfl⟩
  · obtain ⟨action, haction⟩ : ∃ action, server.boundAction? device keycode state = some action :=
      Option.ne_none_iff_exists'.1 fun hnone => boundAction?_eq_none_iff.1 hnone hchord
    have hserver : handled.server = server.runAction action := by
      rw [hhandled]
      show server.handleKey device time keycode state = _
      rw [handleKey, haction]
    refine ⟨⟨action, (boundAction?_eq_some_iff hchord).1 haction, fun other ho => ?_, hserver⟩, ?_⟩
    · rw [← boundAction?_eq_some_iff hchord, haction] at ho
      exact (Option.some.inj ho).symm
    · rw [hserver]
      exact fun record hr => (KeepsKeys.runAction server action).of_mem_recordsSince hr
  · have hserver : handled.server = (server.perform (.setSeatKeyboard device)).perform
        (.keyboardKey time keycode state) := by
      rw [hhandled]
      show server.handleKey device time keycode state = _
      rw [handleKey, boundAction?_eq_none_iff.2 hchord]
    have hjournal : handled.server.journal = [.command (.keyboardKey time keycode state),
        .command (.setSeatKeyboard device)] ++ server.journal := by
      rw [hserver]
      rfl
    have houtside : OnlyOutside server handled.server := by
      rw [hserver]
      exact (OnlyOutside.perform server _).trans (OnlyOutside.perform _ _)
    refine ⟨recordsSince_of_append hjournal, hserver, houtside.windows_eq,
      houtside.interaction_eq, fun _ => ?_⟩
    have hled : Led [.command (.keyboardKey time keycode state),
        .command (.setSeatKeyboard device)] server.toolkit handled.server.toolkit := by
      rw [hserver]
      exact ⟨_, ⟨_, rfl, rfl⟩, rfl⟩
    exact hled.keyboardFocus_eq

/-- Two windows and a keyboard, on which a modifier is held. One key stands for three keysyms, of
which the last two are bound. -/
def chorded : Server Headless :=
  (standard.enact
    [([.window ⟨0x50⟩ ⟨0x51⟩ none none none],
        .emit ⟨0x20⟩ .newToplevel (.newToplevel ⟨0x50⟩ ⟨0x51⟩)),
      ([], .emit ⟨0x51⟩ .map .empty),
      ([.window ⟨0x60⟩ ⟨0x61⟩ none none none],
        .emit ⟨0x20⟩ .newToplevel (.newToplevel ⟨0x60⟩ ⟨0x61⟩)),
      ([], .emit ⟨0x61⟩ .map .empty),
      ([.modifiers Modifiers.alt, .key 59 [⟨0x61⟩, .f1, .escape]],
        .emit ⟨0x10⟩ .newInput (.newInput ⟨0x80⟩ .keyboard))]).2

/-- The key cycles through the windows. It does not also end the session, and no client hears of
it. -/
theorem key_has_one_destination_chorded :
    chorded.IsChord ⟨0x80⟩ 59 .pressed ∧
      chorded.dispatch ⟨0x80⟩ .key (.key 5 59 .pressed) = chorded.cycleFocus.finish 1 ∧
      chorded.windows.stack = [⟨2⟩, ⟨1⟩] ∧ chorded.cycleFocus.windows.stack = [⟨1⟩, ⟨2⟩] ∧
      ∀ record ∈ chorded.cycleFocus.recordsSince chorded, record.isForwarding = false := by
  obtain ⟨-, hkept, -, hdispatched⟩ := key_has_one_destination chorded ⟨0x80⟩ 5 59 .pressed
  have haction : chorded.boundAction? ⟨0x80⟩ 59 .pressed = some .cycleFocus := by decide +kernel
  have hchord : chorded.IsChord ⟨0x80⟩ 59 .pressed := by
    by_contra hn
    cases haction.symm.trans (boundAction?_eq_none_iff.2 hn)
  obtain ⟨⟨action, -, hunique, hserver⟩, hrecords⟩ := hkept hchord
  obtain rfl : Action.cycleFocus = action :=
    hunique _ ((boundAction?_eq_some_iff hchord).1 haction)
  have hsole : chorded.registry.callbacks ⟨0x80⟩ .key = [.run (.key ⟨0x80⟩)] := by decide +kernel
  rw [hserver] at hrecords hdispatched
  exact ⟨hchord, hdispatched hsole, by decide +kernel, by decide +kernel, hrecords⟩

end Server

end Compositor
