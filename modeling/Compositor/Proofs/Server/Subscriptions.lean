import Compositor.Proofs.Registry.Callbacks
import Compositor.Proofs.Server.Journal
import Compositor.Proofs.Server.Outside
import Compositor.Server.Lifecycle

set_option autoImplicit false

/-!
# Subscriptions of the server

The server subscribes to the objects that are announced to it with lists of wirings, and lets go of
them with all listeners of a handle at once. This module says what both do to the callbacks of every
pair and what they put into the journal.

## Main definitions

* `Server.callbacksIn` — the callbacks that wirings add to a pair.
* `Server.Wired` — a state has the subscriptions of an earlier one, and those of some wirings.

## Main results

* `Server.Wired.listenAll`, `Server.Wired.wireAll` — subscriptions to handles that admit them.
* `Server.Wired.of_create` — the subscriptions of a new server.
* `Server.registry_unregisterAll`, `Server.registry_retire` — the registry after a release.
* `Server.Noted.unregisterAll`, `Server.Noted.retire` — a release disconnects, and no more.
-/

namespace Compositor.Server

variable {T : Type}

/-- The callbacks that wirings add to a pair. -/
def callbacksIn (wirings : List Wiring) (handle : Handle) (signal : Signal) :
    List (Callback Handler) :=
  (wirings.filter fun wiring => wiring.handle = handle ∧ wiring.signal = signal).map
    Wiring.callback

/-- A wiring comes before the others of its pair. -/
lemma callbacksIn_cons (wiring : Wiring) (rest : List Wiring) (handle : Handle) (signal : Signal) :
    callbacksIn (wiring :: rest) handle signal =
      (if handle = wiring.handle ∧ signal = wiring.signal then [wiring.callback] else []) ++
        callbacksIn rest handle signal := by
  unfold callbacksIn
  by_cases h : handle = wiring.handle ∧ signal = wiring.signal
  · simp [h]
  · have hn : ¬ (wiring.handle = handle ∧ wiring.signal = signal) :=
      fun he => h ⟨he.1.symm, he.2.symm⟩
    simp [h, hn]

/-- Only the wirings of a handle matter for its callbacks. -/
lemma callbacksIn_of_filter {wirings : List Wiring} {handle : Handle} (own : List Wiring)
    (h : wirings.filter (fun wiring => wiring.handle = handle) = own) (signal : Signal) :
    callbacksIn wirings handle signal =
      (own.filter fun wiring => wiring.signal = signal).map Wiring.callback := by
  rw [← h, List.filter_filter, callbacksIn]
  simp [Bool.and_comm]

/-- No wiring concerns a handle. -/
lemma callbacksIn_eq_nil {wirings : List Wiring} {handle : Handle}
    (h : ∀ wiring ∈ wirings, wiring.handle ≠ handle) (signal : Signal) :
    callbacksIn wirings handle signal = [] := by
  unfold callbacksIn
  rw [List.map_eq_nil_iff, List.filter_eq_nil_iff]
  intro wiring hw
  simp [h wiring hw]

/-- The callbacks of wirings for one object alone. -/
lemma callbacksIn_of_forall {wirings : List Wiring} (object : Handle)
    (h : ∀ wiring ∈ wirings, wiring.handle = object) (handle : Handle) (signal : Signal) :
    callbacksIn wirings handle signal =
      if handle = object then
        (wirings.filter fun wiring => wiring.signal = signal).map Wiring.callback
      else [] := by
  split <;> rename_i ho
  · subst ho
    refine callbacksIn_of_filter _ (List.filter_eq_self.2 fun wiring hw => ?_) signal
    simp [h wiring hw]
  · exact callbacksIn_eq_nil (fun wiring hw he => ho (he.symm.trans (h wiring hw))) signal

/-- A state has the subscriptions of an earlier one and, after them, those of some wirings. -/
structure Wired (wirings : List Wiring) (before after : Server T) : Prop where
  /-- The callbacks of every pair. -/
  callbacks_eq (handle : Handle) (signal : Signal) :
    after.registry.callbacks handle signal =
      before.registry.callbacks handle signal ++ callbacksIn wirings handle signal
  /-- The tables still agree. -/
  coherent : before.registry.Coherent → after.registry.Coherent
  /-- The same handles admit registrations. -/
  check_eq (handle : Handle) : after.registry.check handle = before.registry.check handle
  /-- Only listeners were connected. -/
  noted : Noted (fun record => ∃ wiring ∈ wirings, ∃ token,
    record = .connected wiring.handle wiring.signal token) before after
  /-- The server's own state is as it was. -/
  onlyOutside : OnlyOutside before after

namespace Wired

variable {wirings : List Wiring} {before middle after : Server T}

/-- No subscriptions. -/
lemma refl (server : Server T) : Wired [] server server where
  callbacks_eq _ _ := (List.append_nil _).symm
  coherent c := c
  check_eq _ := rfl
  noted := .refl server
  onlyOutside := .refl server

/-- One subscription and then others. -/
lemma cons {wiring : Wiring} (h : Wired [wiring] before middle) (h' : Wired wirings middle after) :
    Wired (wiring :: wirings) before after where
  callbacks_eq handle signal := by
    rw [h'.callbacks_eq, h.callbacks_eq, callbacksIn_cons, callbacksIn_cons, List.append_assoc]
    simp [callbacksIn]
  coherent c := h'.coherent (h.coherent c)
  check_eq handle := (h'.check_eq handle).trans (h.check_eq handle)
  noted := by
    refine (h.noted.mono fun record hr => ?_).trans (h'.noted.mono fun record hr => ?_)
    · obtain ⟨found, hf, hr⟩ := hr
      exact ⟨found, List.mem_cons.2 (.inl (List.mem_singleton.1 hf)), hr⟩
    · obtain ⟨found, hf, hr⟩ := hr
      exact ⟨found, List.mem_cons_of_mem _ hf, hr⟩
  onlyOutside := h.onlyOutside.trans h'.onlyOutside

variable [Toolkit T]

/-- A subscription to a handle that admits it adds its callback to its pair. -/
lemma register {server : Server T} (wiring : Wiring)
    (hc : server.registry.check wiring.handle = .ok ()) :
    Wired [wiring] server
      (server.register wiring.handle wiring.signal wiring.callback).2 := by
  unfold Server.register
  rw [hc]
  dsimp only
  cases ha : server.registry.append? wiring.handle wiring.signal wiring.callback with
  | some registry =>
    obtain ⟨hretired, hshut, -⟩ := Registry.marks_append ha
    exact {
      callbacks_eq := fun handle signal => by
        rw [callbacksIn_cons, Registry.callbacks_append ha]
        simp [callbacksIn]
      coherent := fun c => c.append hc ha
      check_eq := fun handle => by
        rw [Registry.check, Registry.isRetired, hretired, hshut]
        rfl
      noted := .of_eq rfl
      onlyOutside := ⟨_, _, _, rfl⟩ }
  | none =>
    exact {
      callbacks_eq := fun handle signal => by
        rw [callbacksIn_cons, Registry.callbacks_install ha]
        simp [callbacksIn]
      coherent := fun c => c.install hc ha _
      check_eq := fun handle => rfl
      noted := .of_cons rfl ⟨wiring, List.mem_singleton.2 rfl, _, rfl⟩
      onlyOutside := ⟨_, _, _, rfl⟩ }

/-- Subscriptions to handles that admit them are all made. -/
lemma listenAll {server : Server T}
    (h : ∀ wiring ∈ wirings, server.registry.check wiring.handle = .ok ()) :
    Wired wirings server (server.listenAll wirings) := by
  induction wirings generalizing server with
  | nil => exact refl server
  | cons wiring rest ih =>
    have hfirst := register wiring (h wiring (List.mem_cons_self ..))
    refine hfirst.cons (ih fun other ho => ?_)
    rw [hfirst.check_eq]
    exact h other (List.mem_cons_of_mem _ ho)

/-- If no subscription was refused, all were made. -/
lemma wireAll {server : Server T} (h : server.wireAll wirings = .ok after) :
    Wired wirings server after := by
  induction wirings generalizing server with
  | nil =>
    cases h
    exact refl after
  | cons wiring rest ih =>
    unfold Server.wireAll at h
    split at h <;> rename_i wired hr
    · have hc : server.registry.check wiring.handle = .ok () := by
        cases hc : server.registry.check wiring.handle with
        | ok admitted => rfl
        | error refusal => simp [Server.register, hc] at hr
      have hfirst := register wiring hc
      rw [hr] at hfirst
      exact hfirst.cons (ih h)
    · cases h

/-- A new server has subscribed to the global objects, and done no more. -/
lemma of_create {toolkit : T} {config : Config} {display : Option String} {server : Server T}
    (h : create toolkit config display = .ok server) : ∃ bindings : KeyBindings,
    Wired (globalWiring (Toolkit.perform
        (.loadCursorTheme config.cursor.theme config.cursor.size) toolkit))
      ((unwired toolkit config bindings display).perform
        (.loadCursorTheme config.cursor.theme config.cursor.size)) server := by
  unfold create at h
  split at h
  · cases h
  · rename_i bindings _
    dsimp only at h
    split at h <;> rename_i hwired
    · cases h
      exact ⟨bindings, .wireAll hwired⟩
    · cases h

end Wired

/-! ## Releases -/

variable [Toolkit T]

/-- Disconnecting does not change the registry, which has forgotten the listeners before. -/
@[simp]
lemma registry_disconnectAll (server : Server T) (listeners : List (Listener Handler)) :
    (server.disconnectAll listeners).registry = server.registry := by
  unfold disconnectAll
  induction listeners generalizing server with
  | nil => rfl
  | cons listener rest ih => exact ih _

/-- A released handle is taken from the registry. -/
lemma registry_unregisterAll (server : Server T) (handle : Handle) :
    (server.unregisterAll handle).2.registry = (server.registry.take handle).2 :=
  registry_disconnectAll _ _

/-- A retired handle is marked and taken from the registry. -/
lemma registry_retire (server : Server T) (handle : Handle) :
    (server.retire handle).registry = (server.registry.retire handle).2 :=
  registry_disconnectAll _ _

/-- The end of the session clears the registry. -/
lemma registry_shutdown (server : Server T) :
    server.shutdown.registry = server.registry.clear.2 :=
  registry_disconnectAll _ _

/-- The end of the session drops all windows. -/
lemma windows_shutdown (server : Server T) : server.shutdown.windows = WindowTable.empty :=
  (OnlyOutside.disconnectAll _ _).windows_eq

/-- The end of the session uses up no number of a window. -/
lemma nextWindow_shutdown (server : Server T) : server.shutdown.nextWindow = server.nextWindow :=
  (OnlyOutside.disconnectAll _ _).nextWindow_eq

/-- Listeners are disconnected, and nothing else is asked. -/
lemma Noted.disconnectAll (server : Server T) (listeners : List (Listener Handler)) :
    Noted (fun record => ∃ token, record = .disconnected token) server
      (server.disconnectAll listeners) := by
  unfold Server.disconnectAll
  induction listeners generalizing server with
  | nil => exact .refl server
  | cons listener rest ih => exact Noted.trans (.of_cons rfl ⟨_, rfl⟩) (ih _)

/-- A release disconnects, and nothing else is asked. -/
lemma Noted.unregisterAll (server : Server T) (handle : Handle) :
    Noted (fun record => ∃ token, record = .disconnected token) server
      (server.unregisterAll handle).2 :=
  Noted.trans (.of_eq rfl) (.disconnectAll _ _)

/-- A retirement disconnects, and nothing else is asked. -/
lemma Noted.retire (server : Server T) (handle : Handle) :
    Noted (fun record => ∃ token, record = .disconnected token) server (server.retire handle) :=
  Noted.trans (.of_eq rfl) (.disconnectAll _ _)

end Compositor.Server
