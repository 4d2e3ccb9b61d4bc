import Compositor.Proofs.Server.Holding
import Compositor.Proofs.Server.Live

set_option autoImplicit false

/-!
# Shutdown is final

A server can be used after it was shut down: events may still be dispatched to it, the display may be
opened again, and whoever has a handle may try to subscribe. All this comes to nothing. The registry
stays shut down, so that no callback is run and no listener is connected; and since only callbacks
bring windows and grabs, there are none of these either.

## Main definitions

* `Server.Operated` — what calls and the shutting down of the registry by itself lead to.
* `Server.Closed` — the registry is shut down, and there is neither a window nor a grab.
* `Server.Idle` — a step that does nothing of consequence.
* `Server.Final` — what is the case after the end.

## Main results

* `Server.Idle.call` — after the end no call does anything of consequence.
* `Server.final_of_shutdown` — shutdown is final.
-/

namespace Compositor

/-- Whether an entry is the connection of a native listener. -/
def Record.isConnection : Record → Bool
  | connected _ _ _ => true
  | _ => false

namespace Server

variable {T : Type}

/-- What calls from outside lead to, if the toolkit may change by itself in between. The registry may
be shut down directly as well. -/
inductive Operated [Toolkit T] (start : Server T) : Server T → Prop
  /-- Nothing is done. -/
  | refl : Operated start start
  /-- A call is made; it may end by a fault. -/
  | call {server : Server T} (call : Call) :
    Operated start server → Operated start (server.call call).server
  /-- The registry is shut down. -/
  | closeRegistry {server : Server T} : Operated start server → Operated start server.closeRegistry
  /-- The toolkit changes by itself, so that its next answers may be any. -/
  | toolkit {server : Server T} (toolkit : T) :
    Operated start server → Operated start { server with toolkit := toolkit }

/-- The account of the live listeners stays right. -/
lemma Operated.accounted [Toolkit T] {start server : Server T} (h : Operated start server)
    (a : Accounted start) : Accounted server := by
  induction h with
  | refl => exact a
  | call call _ ih => exact .composed (Composed.call _ call) ih
  | closeRegistry _ ih => exact ih.closeRegistry
  | toolkit toolkit _ ih => exact ih.congr rfl rfl

/-! ## A closed server -/

/-- The registry is shut down, and there is neither a window nor a grab. -/
structure Closed (server : Server T) : Prop where
  /-- The tables of the registry agree. -/
  coherent : server.registry.Coherent
  /-- The registry is shut down. -/
  isShutDown : server.registry.isShutDown = true
  /-- There is no window. -/
  windows_eq : server.windows = WindowTable.empty
  /-- There is no grab. -/
  interaction_eq : server.interaction = .passThrough

/-- A shut-down server is closed. -/
lemma closed_shutdown [Toolkit T] (server : Server T) : Closed server.shutdown where
  coherent := by
    rw [registry_shutdown]
    exact .clear _
  isShutDown := by
    rw [registry_shutdown]
    rfl
  windows_eq := windows_shutdown server
  interaction_eq := (OnlyOutside.disconnectAll _ _).interaction_eq

namespace Closed

variable {server : Server T}

/-- No signal runs anything. -/
lemma callbacks_eq (c : Closed server) (handle : Handle) (signal : Signal) :
    server.registry.callbacks handle signal = [] := by
  by_contra hne
  have hopen := c.coherent.isShutDown_eq_false hne
  rw [c.isShutDown] at hopen
  cases hopen

/-- No token belongs to a handle. -/
lemma target?_eq (c : Closed server) (token : Token) : server.registry.target? token = none := by
  rw [Registry.target?, (c.coherent.tables_of_isShutDown c.isShutDown).2.1]
  simp

/-- No window has a record. -/
lemma get?_eq (c : Closed server) (id : WindowId) : server.windows.get? id = none := by
  rw [c.windows_eq, WindowTable.get?_empty]

/-- No listeners are handed back. -/
lemma fst_take (c : Closed server) (handle : Handle) : (server.registry.take handle).1 = [] := by
  rw [Registry.fst_take, Registry.listenersOf,
    (c.coherent.tables_of_isShutDown c.isShutDown).1]
  simp

/-- No listeners are left to hand back. -/
lemma fst_clear (c : Closed server) : server.registry.clear.1 = [] := by
  unfold Registry.clear
  rw [(c.coherent.tables_of_isShutDown c.isShutDown).1]
  simp

variable [Toolkit T]

/-- A dispatch runs nothing. -/
lemma dispatch_eq (c : Closed server) (handle : Handle) (signal : Signal) (event : Event) :
    server.dispatch handle signal event = server.finish 0 := by
  unfold dispatch
  dsimp only
  rw [c.callbacks_eq]
  rfl

/-- A native dispatch runs nothing. -/
lemma dispatchNative_eq (c : Closed server) (token : Token) (event : Event) :
    server.dispatchNative token event = server.finish 0 := by
  unfold dispatchNative
  rw [c.target?_eq]

/-- Events in turn do nothing, whether or not the session runs. -/
lemma run_eq (c : Closed server) (emissions : List Emission) :
    (server.run emissions).server = server := by
  induction emissions with
  | nil => rfl
  | cons emission rest ih =>
    unfold Server.run
    split
    · rw [c.dispatch_eq]
      exact ih
    · rfl

/-- Every registration is refused, since the registry is shut down. -/
lemma register_eq (c : Closed server) (handle : Handle) (signal : Signal)
    (callback : Callback Handler) :
    server.register handle signal callback = (.error .shutDown, server) := by
  have hcheck : server.registry.check handle = .error .shutDown := by
    unfold Registry.check
    rw [if_pos c.isShutDown]
  unfold register
  rw [hcheck]

/-- No subscriber is left to be removed. -/
lemma unsubscribe_eq (c : Closed server) (id : SubscriptionId) :
    server.unsubscribe id = (false, server) := by
  have hnone : server.registry.unsubscribe? id = none := by
    unfold Registry.unsubscribe?
    rw [(c.coherent.tables_of_isShutDown c.isShutDown).2.2]
    simp
  unfold unsubscribe
  rw [hnone]

/-- No call runs a callback. -/
lemma deed_ne_callback (c : Closed server) {call : Call} {moment : Moment T}
    (hm : moment ∈ server.moments call) (event : Event) (callback : Callback Handler) :
    moment.deed ≠ .callback event callback := by
  have hdispatch {emission : Emission} (h : moment ∈ server.dispatchMoments emission) :
      moment.deed ≠ .callback event callback := by
    unfold dispatchMoments at h
    rw [c.callbacks_eq] at h
    obtain rfl := List.mem_singleton.1 h
    exact nofun
  by_cases hd : call.isDirect = true
  · rw [moments_of_isDirect server hd] at hm
    obtain rfl := List.mem_singleton.1 hm
    exact nofun
  · cases call with
    | emit handle signal event => exact hdispatch hm
    | emitNative token event =>
      rw [moments_emitNative, c.target?_eq] at hm
      cases hm
    | run emissions =>
      have hrun : moment ∈ server.runMoments emissions := hm
      clear hm hd
      induction emissions with
      | nil => cases hrun
      | cons emission rest ih =>
        unfold runMoments at hrun
        split at hrun
        · rw [c.dispatch_eq] at hrun
          exact (List.mem_append.1 hrun).elim hdispatch ih
        · cases hrun
    | _ => exact absurd rfl hd

end Closed

/-! ## Idle steps -/

/-- Neither the windows nor the grab change, nor whether the registry is shut down, and no native
listener is connected. -/
structure Idle (before after : Server T) : Prop where
  /-- The tables of the registry still agree. -/
  coherent : before.registry.Coherent → after.registry.Coherent
  /-- The registry is as much shut down as it was. -/
  isShutDown_eq : after.registry.isShutDown = before.registry.isShutDown
  /-- The windows are the same. -/
  windows_eq : after.windows = before.windows
  /-- The grab is the same. -/
  interaction_eq : after.interaction = before.interaction
  /-- No listener is connected. -/
  noted : Noted (fun record => record.isConnection = false) before after

namespace Idle

variable {before middle after server : Server T}

/-- A state is idle from itself. -/
lemma refl (server : Server T) : Idle server server :=
  ⟨fun c => c, rfl, rfl, rfl, .refl server⟩

/-- Idle steps in turn are idle. -/
lemma trans (h : Idle before middle) (h' : Idle middle after) : Idle before after where
  coherent c := h'.coherent (h.coherent c)
  isShutDown_eq := h'.isShutDown_eq.trans h.isShutDown_eq
  windows_eq := h'.windows_eq.trans h.windows_eq
  interaction_eq := h'.interaction_eq.trans h.interaction_eq
  noted := h.noted.trans h'.noted

/-- A closed server stays closed. -/
lemma closed (h : Idle before after) (c : Closed before) : Closed after where
  coherent := h.coherent c.coherent
  isShutDown := h.isShutDown_eq.trans c.isShutDown
  windows_eq := h.windows_eq.trans c.windows_eq
  interaction_eq := h.interaction_eq.trans c.interaction_eq

/-- Without windows, entries about the objects of windows connect no listener. -/
lemma isConnection_of_from (hw : server.windows = WindowTable.empty) {record : Record}
    (h : record.From server.windows []) : record.isConnection = false := by
  cases record with
  | connected handle signal token =>
    have hstored : handle ∈ (Record.connected handle signal token).stored :=
      List.mem_singleton.2 rfl
    obtain hm | ⟨id, window, hget, -⟩ := h.stored hstored
    · cases hm
    · rw [hw, WindowTable.get?_empty] at hget
      cases hget
  | _ => rfl

/-- A steady step that leaves windows and grab alone. -/
lemma of_steady (c : Closed before) (h : Steady [] before after)
    (hw : after.windows = before.windows) (hi : after.interaction = before.interaction) :
    Idle before after where
  coherent := by
    rw [h.registry_eq]
    exact fun c => c
  isShutDown_eq := by rw [h.registry_eq]
  windows_eq := hw
  interaction_eq := hi
  noted := h.noted.mono fun _ hr => isConnection_of_from c.windows_eq hr

variable [Toolkit T]

/-- Nothing was handed back, so that nothing is disconnected. -/
lemma released (registry : Registry Handler) {listeners : List (Listener Handler)}
    (hl : listeners = []) (hc : before.registry.Coherent → registry.Coherent)
    (hs : registry.isShutDown = before.registry.isShutDown) :
    Idle before ({ before with registry := registry }.disconnectAll listeners) := by
  subst hl
  exact ⟨hc, hs, rfl, rfl, .of_eq rfl⟩

/-- A start neither connects listeners nor touches windows and grab. -/
lemma start (c : Closed server) (host : Host) : Idle server (server.start host).server := by
  have hkept : (server.start host).server.windows = server.windows ∧
      (server.start host).server.interaction = server.interaction := by
    obtain ⟨asked, rfl | rfl, socket, running, display, hstart⟩ := server.start_server host <;>
      rw [hstart] <;> exact ⟨rfl, rfl⟩
  exact of_steady c (.start server host) hkept.1 hkept.2

/-- There is no window to be focused. -/
lemma focusWindow (c : Closed server) (id : WindowId) (surface : Handle) :
    Idle server (server.focusWindow id surface) := by
  unfold Server.focusWindow
  dsimp only
  rw [c.get?_eq]
  split
  · exact refl server
  · exact refl server

/-- The focus is not cycled, since no window is stacked. -/
lemma cycleFocus (c : Closed server) : Idle server server.cycleFocus := by
  have hnext : server.windows.next? = none := by
    rw [c.windows_eq]
    rfl
  unfold Server.cycleFocus
  rw [hnext]
  exact refl server

/-- Every request is denied, since its window has no record. -/
lemma beginInteractive (c : Closed server) (id : WindowId) (mode : GrabMode) (edges : Edges) :
    Idle server (server.beginInteractive id mode edges).server := by
  have hnone : server.grabFor? id mode edges = .ok none := by
    unfold grabFor?
    rw [c.get?_eq]
  unfold Server.beginInteractive
  rw [hnone]
  exact refl server

/-- Motion passes through, since there is no grab. -/
lemma processMotion (c : Closed server) (time : UInt32) :
    Idle server (server.processMotion time).server := by
  have hpass : server.processMotion time = (server.processPassThrough time).finish () := by
    unfold Server.processMotion
    rw [c.interaction_eq]
  have hsteady : Steady [] server (server.processPassThrough time) :=
    .processPassThrough server time
  have houtside := OnlyOutside.processPassThrough server time
  rw [hpass]
  exact of_steady c hsteady houtside.windows_eq houtside.interaction_eq

/-- The registry has no listeners left to release. -/
lemma closeRegistry (c : Closed server) : Idle server server.closeRegistry :=
  released _ c.fst_clear (fun _ => .clear _) c.isShutDown.symm

/-- A second end of the session finds nothing to take down but the scene, and connects nothing. -/
lemma shutdown (c : Closed server) : Idle server server.shutdown := by
  let quiet := { server with running := false }.perform .destroyClients
  let cleared := { quiet with interaction := .passThrough, windows := WindowTable.empty }.perform
    .destroyScene
  have hquiet : Noted (fun record => record.isConnection = false) server quiet :=
    .of_cons rfl rfl
  have hcleared : Idle server cleared :=
    ⟨fun c => c, rfl, c.windows_eq.symm, c.interaction_eq.symm, hquiet.trans (.of_cons rfl rfl)⟩
  have hclosed := hcleared.trans (closeRegistry (hcleared.closed c))
  exact ⟨hclosed.coherent, hclosed.isShutDown_eq, hclosed.windows_eq, hclosed.interaction_eq,
    hclosed.noted⟩

/-- **After the end no call does anything of consequence**, whether or not it ends by a fault. -/
theorem call (c : Closed server) (call : Call) : Idle server (server.call call).server := by
  cases call with
  | emit handle signal event =>
    have hsame : (server.call (.emit handle signal event)).server = server :=
      congrArg Outcome.server (c.dispatch_eq handle signal event)
    rw [hsame]
    exact refl server
  | emitNative token event =>
    have hsame : (server.call (.emitNative token event)).server = server :=
      congrArg Outcome.server (c.dispatchNative_eq token event)
    rw [hsame]
    exact refl server
  | start host => exact start c host
  | run emissions =>
    have hsame : (server.call (.run emissions)).server = server := c.run_eq emissions
    rw [hsame]
    exact refl server
  | terminate => exact of_steady c (.terminate server) rfl rfl
  | shutdown => exact shutdown c
  | cycleFocus => exact cycleFocus c
  | focusWindow id surface => exact focusWindow c id surface
  | beginInteractive id mode edges => exact beginInteractive c id mode edges
  | processMotion time => exact processMotion c time
  | observe handle signal label =>
    have hsame : (server.call (.observe handle signal label)).server = server :=
      congrArg Prod.snd (c.register_eq handle signal _)
    rw [hsame]
    exact refl server
  | track handle signal =>
    have hsame : (server.call (.track handle signal)).server = server :=
      congrArg Prod.snd (c.register_eq handle signal _)
    rw [hsame]
    exact refl server
  | unregisterAll handle => exact released _ (c.fst_take handle) (fun c => c.take handle) rfl
  | unsubscribe id =>
    have hsame : (server.call (.unsubscribe id)).server = server :=
      congrArg Prod.snd (c.unsubscribe_eq id)
    rw [hsame]
    exact refl server
  | revive handle => exact ⟨fun c => c.revive handle, rfl, rfl, rfl, .of_eq rfl⟩

/-- Whatever is done with a closed server from outside is idle. -/
lemma operated (c : Closed before) (h : Operated before after) : Idle before after := by
  induction h with
  | refl => exact refl before
  | call called _ ih => exact ih.trans (call (ih.closed c) called)
  | closeRegistry _ ih => exact ih.trans (closeRegistry (ih.closed c))
  | toolkit toolkit _ ih => exact ih.trans ⟨fun c => c, rfl, rfl, rfl, .of_eq rfl⟩

end Idle

/-! ## The end -/

/-- What is the case in a state after the end. -/
structure Final [Toolkit T] (ended server : Server T) : Prop where
  /-- A dispatch runs nothing and leaves everything as it is. -/
  dispatch_eq (handle : Handle) (signal : Signal) (event : Event) :
    server.dispatch handle signal event = server.finish 0
  /-- So does a dispatch by a native listener. -/
  dispatchNative_eq (token : Token) (event : Event) :
    server.dispatchNative token event = server.finish 0
  /-- No call whatever runs a callback. -/
  deed_ne_callback (call : Call) (moment : Moment T) : moment ∈ server.moments call →
    ∀ event callback, moment.deed ≠ .callback event callback
  /-- There is no window. -/
  windows_eq : server.windows = WindowTable.empty
  /-- There is no grab. -/
  interaction_eq : server.interaction = .passThrough
  /-- No native listener is live. -/
  live_eq : server.live = []
  /-- No native listener was connected since the end. -/
  noted : Noted (fun record => record.isConnection = false) ended server
  /-- Every subscription is refused, be it of a handler or to track a lifetime. -/
  register_eq (handle : Handle) (signal : Signal) (callback : Callback Handler) :
    server.register handle signal callback = (.error .shutDown, server)

/-- **Shutdown is final.** Whatever state a server is shut down in, and whatever is done with it
afterwards, no callback is run, no listener is live or connected, nothing can be subscribed, and
there is neither a window nor a grab.

**Proof sketch.** The shutdown leaves a closed server. No call does anything of consequence to one,
since its registry runs nothing and takes nothing in; so it stays closed. The live listeners are
those that the registry has installed, from the start on, and a closed one has none. -/
theorem final_of_shutdown [Toolkit T] {start before server : Server T} {servings : List Serving}
    (hr : Reachable start servings) (hb : Operated start before)
    (h : Operated before.shutdown server) : Final before.shutdown server := by
  have hidle := Idle.operated (closed_shutdown before) h
  have hclosed := hidle.closed (closed_shutdown before)
  have hended : Accounted before.shutdown := (Operated.call .shutdown hb).accounted hr.accounted
  have hlive := (h.accounted hended).live_perm
  have hnone : server.registry.tokens = [] := by
    rw [Registry.tokens_eq, hclosed.fst_clear, List.map_nil]
  exact {
    dispatch_eq := hclosed.dispatch_eq
    dispatchNative_eq := hclosed.dispatchNative_eq
    deed_ne_callback := fun _ _ hm => hclosed.deed_ne_callback hm
    windows_eq := hclosed.windows_eq
    interaction_eq := hclosed.interaction_eq
    live_eq := by
      rw [hnone] at hlive
      exact hlive.eq_nil
    noted := hidle.noted
    register_eq := hclosed.register_eq }

/-- Calls in turn on the headless toolkit are operations. -/
lemma Operated.enact {start server : Server Headless} (h : Operated start server)
    (script : List (List Headless.Setting × Call)) :
    Operated start (server.enact script).2 := by
  induction script generalizing server with
  | nil => exact h
  | cons entry rest ih =>
    obtain ⟨settings, call⟩ := entry
    exact ih ((h.toolkit (settings.foldl Headless.configure server.toolkit)).call call)

/-- After the end the display is opened again, a handle is taken back and observed, and a window and
a keyboard are announced. -/
def afterwards : List (List Headless.Setting × Call) :=
  [([], .start .willing), ([], .revive ⟨0x20⟩), ([], .observe ⟨0x20⟩ .newToplevel "late"),
    ([.window ⟨0x60⟩ ⟨0x61⟩ none none none],
      .run [⟨⟨0x20⟩, .newToplevel, .newToplevel ⟨0x60⟩ ⟨0x61⟩⟩,
        ⟨⟨0x10⟩, .newInput, .newInput ⟨0x80⟩ .keyboard⟩]),
    ([], .processMotion 9)]

/-- A server that is shut down during a grab, and used again. -/
theorem final_of_shutdown_used :
    let before := (standard.enact (underPointer ++ [moveRequest])).2
    let server := (before.shutdown.enact afterwards).2
    (before.live.length = 20 ∧ before.interaction.grabbed? = some ⟨1⟩ ∧ server.running = true) ∧
      server.live = [] ∧ server.windows = WindowTable.empty ∧ server.interaction = .passThrough ∧
        server.dispatch ⟨0x20⟩ .newPopup .empty = server.finish 0 ∧
          server.register ⟨0x70⟩ .map (.retire ⟨0x70⟩) = (.error .shutDown, server) := by
  intro before server
  have hfinal : Final before.shutdown server :=
    final_of_shutdown (reachable_enact _) .refl (Operated.refl.enact afterwards)
  have hused : before.live.length = 20 ∧ before.interaction.grabbed? = some ⟨1⟩ ∧
      server.running = true := by decide +kernel
  exact ⟨hused, hfinal.live_eq, hfinal.windows_eq, hfinal.interaction_eq,
    hfinal.dispatch_eq _ _ _, hfinal.register_eq _ _ _⟩

end Server

end Compositor
