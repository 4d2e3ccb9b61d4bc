import Compositor.Proofs.Server.Arrivals
import Compositor.Proofs.Server.FocusStack

set_option autoImplicit false

/-!
# A server follows the census

If no value in use is announced again, a server always listens to just the objects that are in the
census, with the handlers that they should have, and has a record of every window there. This
module says what a dispatch can do to such a server, once for all that is said of dispatches
afterwards, and that the server follows the census on and on.

What a dispatch does can be read off the census. An event may have nothing to do with the coming and
going of objects, it may announce some, or it may tell of the destruction of one that was not known,
of a window, or of another one.

## Main definitions

* `Server.Follows` — listeners and records are those of the objects in the census.
* `Server.Effect` — what a dispatch can do.

## Main results

* `Server.Follows.effect` — what a dispatch does.
* `Server.Follows.emit` — a dispatch leaves a server that follows the census.
* `Server.Course.follows` — so does a run.
-/

namespace Compositor.Server

variable {T : Type}

/-- Listeners and records are those of the objects in the census. -/
structure Follows (census : Census) (server : Server T) : Prop where
  /-- The tables of windows agree. -/
  orderly : Orderly server
  /-- The tables of the registry agree. -/
  coherent : server.registry.Coherent
  /-- The objects have distinct values. -/
  distinct : (census.residents.map Resident.handle).Nodup
  /-- A signal runs what it should. -/
  callbacks_eq {signal : Signal} : signal.isPointer = false → ∀ handle,
    server.registry.callbacks handle signal = census.callbacks handle signal
  /-- A signal of the cursor runs nothing but what the cursor's does. -/
  pointer {signal : Signal} : signal.isPointer = true → ∀ handle,
    server.registry.callbacks handle signal = [] ∨ handle = census.cursor ∧
      server.registry.callbacks handle signal = cursorCallbacks signal
  /-- A toplevel has a record. -/
  recorded {handle surface : Handle} {id : WindowId} :
    ⟨handle, .toplevel id surface⟩ ∈ census.residents → ∃ window,
      server.windows.get? id = some window ∧ window.toplevel = handle ∧ window.surface = surface
  /-- The next window will have the number that the census gives it. -/
  next_eq : census.next = server.nextWindow

/-! ## Steps that keep to the census -/

namespace Follows

variable {census : Census} {server before after : Server T} {handle : Handle}

/-- Steady steps leave the objects as they are. -/
lemma steady (f : Follows census before) {own : List Handle} (h : Steady own before after)
    (o : Orderly after) : Follows census after where
  orderly := o
  coherent := by
    rw [h.registry_eq]
    exact f.coherent
  distinct := f.distinct
  callbacks_eq := by
    rw [h.registry_eq]
    exact f.callbacks_eq
  pointer := by
    rw [h.registry_eq]
    exact f.pointer
  recorded hm := by
    obtain ⟨window, hw, rfl, rfl⟩ := f.recorded hm
    obtain ⟨kept, hk, he⟩ := h.sameHandles.symm.exists_of_get? hw
    exact ⟨kept, hk, congrArg Prod.fst he, congrArg (fun handles => handles.2.1) he⟩
  next_eq := f.next_eq.trans h.nextWindow_eq.symm

/-- Announced objects are there, if no object had their values. -/
lemma receive (f : Follows census before) {arrival : Arrival} (h : Arrived arrival before after)
    (o : Orderly after) (hnodup : arrival.handles.Nodup)
    (hfree : ∀ handle ∈ arrival.handles, census.role? handle = none) :
    Follows (census.receive arrival) after where
  orderly := o
  coherent := h.coherent f.coherent
  distinct := Census.nodup_receive f.distinct hnodup hfree
  callbacks_eq {signal} hp handle := by
    rw [h.callbacks_eq, f.callbacks_eq hp, Arrival.callbacksIn_wirings hnodup,
      Census.callbacks_receive hfree, f.next_eq]
  pointer {signal} hp handle := by
    rw [h.callbacks_eq, Arrival.callbacksIn_of_isPointer hnodup hp, List.append_nil]
    exact f.pointer hp handle
  recorded {handle surface id} hm := by
    rcases List.mem_append.1 hm with hold | hnew
    · obtain ⟨window, hw, ht, hs⟩ := f.recorded hold
      have hid : id ≠ ⟨before.nextWindow⟩ := by
        rintro rfl
        exact Nat.lt_irrefl _ (f.orderly.lt_nextWindow hw)
      exact ⟨window, h.get?_of_get? hid hw, ht, hs⟩
    · rw [f.next_eq] at hnew
      exact h.exists_get? hnew
  next_eq := by
    rw [h.nextWindow_eq, ← f.next_eq]
    rfl

/-- What was released is gone, and everything else is as it was. -/
lemma bury (f : Follows census before) (o : Orderly after) (c : after.registry.Coherent)
    (hcallbacks : ∀ other signal, signal.isPointer = false →
      after.registry.callbacks other signal =
        if other ∈ census.released handle then [] else before.registry.callbacks other signal)
    (hpointer : ∀ other signal, after.registry.callbacks other signal = [] ∨
      after.registry.callbacks other signal = before.registry.callbacks other signal)
    (hrecords : ∀ id window, before.windows.get? id = some window →
      window.toplevel ∉ census.released handle → ∃ kept, after.windows.get? id = some kept ∧
        kept.toplevel = window.toplevel ∧ kept.surface = window.surface)
    (hn : after.nextWindow = before.nextWindow) : Follows (census.bury handle) after where
  orderly := o
  coherent := c
  distinct := (List.filter_sublist.map _).nodup f.distinct
  callbacks_eq {signal} hp other := by
    rw [hcallbacks other signal hp, Census.callbacks_bury, f.callbacks_eq hp]
  pointer {signal} hp other := by
    rcases hpointer other signal with hnil | hkept
    · exact .inl hnil
    · rw [hkept]
      exact f.pointer hp other
  recorded {other surface id} hm := by
    obtain ⟨hold, hkept⟩ := List.mem_filter.1 hm
    obtain ⟨window, hw, rfl, rfl⟩ := f.recorded hold
    exact hrecords id window hw (of_decide_eq_true hkept)
  next_eq := f.next_eq.trans hn.symm

/-- The destruction of an object that was not there changes nothing. -/
lemma missed (f : Follows census before) (hr : census.role? handle = none) :
    Follows (census.bury handle) before := by
  refine f.bury f.orderly f.coherent (fun other signal hp => ?_) (fun _ _ => .inr rfl)
    (fun id window hw _ => ⟨window, hw, rfl, rfl⟩) rfl
  rw [Census.released_of_surface? fun role ho => by simp [hr] at ho]
  split <;> rename_i ho
  · rw [f.callbacks_eq hp, List.mem_singleton.1 ho, Census.callbacks_of_none hr]
  · rfl

end Follows

variable [Toolkit T]

/-! ## What a dispatch can do -/

/-- What the dispatch of an event can do to a server that follows the census. -/
inductive Effect (census : Census) (emission : Emission) (before after : Server T) : Prop
  /-- No object comes or goes. -/
  | steady {own : List Handle} (arrival : census.arrival? emission = none)
    (signal : emission.signal ≠ .destroy)
    (known : ∀ object ∈ own, ∃ role, census.role? object = some role)
    (step : Steady own before after)
  /-- Objects are announced. -/
  | arrived {announced : Arrival} (arrival : census.arrival? emission = some announced)
    (step : Arrived announced before after)
  /-- An object was destroyed that is not listened to. -/
  | missed (signal : emission.signal = .destroy) (role : census.role? emission.handle = none)
    (step : after = before)
  /-- An object other than a toplevel was destroyed. -/
  | retired {found : Role} {middle : Server T} (signal : emission.signal = .destroy)
    (role : census.role? emission.handle = some found) (surface : found.surface? = none)
    (forgotten : Steady [] before middle) (windows : middle.windows = before.windows)
    (interaction : middle.interaction = before.interaction)
    (step : after = middle.retire emission.handle)
  /-- A toplevel was destroyed. -/
  | destroyed {id : WindowId} {surface : Handle} (signal : emission.signal = .destroy)
    (role : census.role? emission.handle = some (.toplevel id surface))
    (step : after = (before.handleToplevelDestroyed id).retire emission.handle)

/-- One steady handler is run. -/
lemma Steady.serve_singleton (server : Server T) {own : List Handle} {handler : Handler}
    {event : Event} (h : handler.isSteady = true)
    (ho : ∀ object, handler.object? = some object → object ∈ own) :
    Steady own server (server.serve event [.run handler]).server :=
  .serve server event fun _ hc => ⟨handler, List.mem_singleton.1 hc, h, ho⟩

/-- The handlers of the cursor are steady, and pass on no object. -/
lemma steady_serve_cursorCallbacks (server : Server T) (event : Event) (signal : Signal) :
    Steady [] server (server.serve event (cursorCallbacks signal)).server := by
  unfold cursorCallbacks
  split
  all_goals first
    | exact .serve_singleton server rfl fun _ ho => by cases ho
    | exact .refl server

namespace Role

variable {role : Role} {handle : Handle} {signal : Signal} {event : Event} {arrival : Arrival}

/-- A signal other than that of destruction, with which nothing is announced, is a steady step.

**Proof sketch.** A signal of an object runs one handler at most. It is steady, or it is one of the
four that take in objects; each of these finds another payload and ends by a fault, which leaves the
state alone. -/
lemma steady_serve (server : Server T) (ha : role.announced? ⟨handle, signal, event⟩ = none)
    (hs : signal ≠ .destroy) :
    Steady [handle] server (server.serve event (role.callbacks handle signal)).server := by
  unfold callbacks
  split
  -- the handlers that take in objects
  case h_1 => cases event <;> first | exact .refl server | cases ha
  case h_2 => cases event <;> first | exact .refl server | cases ha
  case h_4 => cases event <;> first | exact .refl server | cases ha
  case h_5 =>
    cases event with
    | newPopup popup parent => cases parent <;> first | exact .refl server | cases ha
    | _ => exact .refl server
  -- the others
  all_goals first
    | exact absurd rfl hs
    | exact .refl server
    | exact .serve_singleton server rfl fun object ho => by simp_all [Handler.object?]

/-- What is announced is taken in. -/
lemma arrived_serve {server : Server T} (hopen : server.registry.isShutDown = false)
    (ha : role.announced? ⟨handle, signal, event⟩ = some arrival) :
    Arrived arrival server (server.serve event (role.callbacks handle signal)).server := by
  unfold announced? at ha
  dsimp only at ha
  split at ha <;> cases ha
  · exact .newOutput hopen _
  · exact .newInput hopen _ _
  · exact .newToplevel hopen _ _
  · exact .newPopup hopen _ _

end Role

namespace Follows

variable {census : Census} {server : Server T} {handle : Handle} {role : Role} {signal : Signal}
  {event : Event}

/-- The destruction of an object that is listened to retires it at the end; before, the handler of
its kind is run. -/
lemma effect_destroy (hr : census.role? handle = some role) :
    Effect census ⟨handle, .destroy, event⟩ server
      (server.serve event (role.callbacks handle .destroy)).server := by
  cases role with
  | toplevel id surface => exact .destroyed rfl hr rfl
  | output =>
    have hforgotten : Steady [] server (server.handleOutputDestroyed handle) :=
      .run server (.outputDestroyed handle) rfl (fun _ ho => by cases ho) event
    exact .retired rfl hr rfl hforgotten rfl rfl rfl
  | keyboard =>
    have hdetached : Steady [] server (server.detachKeyboard handle) :=
      .run server (.keyboardDestroyed handle) rfl (fun _ ho => by cases ho) event
    exact .retired rfl hr rfl hdetached rfl rfl rfl
  | backend => exact .retired rfl hr rfl (.refl server) rfl rfl rfl
  | shell => exact .retired rfl hr rfl (.refl server) rfl rfl rfl
  | seat => exact .retired rfl hr rfl (.refl server) rfl rfl rfl
  | popup => exact .retired rfl hr rfl (.refl server) rfl rfl rfl
  | surface id => exact .retired rfl hr rfl (.refl server) rfl rfl rfl

/-- A signal of the cursor has nothing to do with objects that come or go. -/
lemma effect_of_isPointer (f : Follows census server) (hp : signal.isPointer = true) :
    Effect census ⟨handle, signal, event⟩ server
      (server.serve event (server.registry.callbacks handle signal)).server := by
  have hs : signal ≠ .destroy := by
    rintro rfl
    cases hp
  have ha : census.arrival? ⟨handle, signal, event⟩ = none := by
    cases hr : census.role? handle with
    | none => exact Census.arrival?_of_none hr
    | some role => exact (Census.arrival?_of_role? hr).trans (role.announced?_of_isPointer hp)
  have hstep : Steady [] server
      (server.serve event (server.registry.callbacks handle signal)).server := by
    rcases f.pointer hp handle with hnil | ⟨-, hcursor⟩
    · rw [hnil]
      exact .refl server
    · rw [hcursor]
      exact steady_serve_cursorCallbacks server event signal
  exact .steady ha hs (fun _ ho => by cases ho) hstep

/-- Nobody cares for an object that is not there. -/
lemma effect_of_none (hr : census.role? handle = none) :
    Effect census ⟨handle, signal, event⟩ server (server.serve event []).server := by
  by_cases hs : signal = .destroy
  · exact .missed hs hr rfl
  · have hstep : Steady [] server server := .refl server
    exact .steady (Census.arrival?_of_none hr) hs (fun _ ho => by cases ho) hstep

/-- A signal of an object that is there, which runs what it should run. -/
lemma effect_of_role? (f : Follows census server) (hr : census.role? handle = some role)
    (hcallbacks : server.registry.callbacks handle signal = role.callbacks handle signal) :
    Effect census ⟨handle, signal, event⟩ server
      (server.serve event (role.callbacks handle signal)).server := by
  by_cases hs : signal = .destroy
  · subst hs
    exact effect_destroy hr
  · have ha : census.arrival? ⟨handle, signal, event⟩ =
        role.announced? ⟨handle, signal, event⟩ := Census.arrival?_of_role? hr
    cases hrole : role.announced? ⟨handle, signal, event⟩ with
    | none =>
      refine .steady (ha.trans hrole) hs (fun object ho => ?_) (role.steady_serve server hrole hs)
      rw [List.mem_singleton.1 ho]
      exact ⟨role, hr⟩
    | some arrival =>
      -- what has callbacks is not shut down, so that the subscriptions will be made
      have hrun : server.registry.callbacks handle signal ≠ [] := by
        rw [hcallbacks]
        exact Role.callbacks_ne_nil hrole handle
      exact .arrived (ha.trans hrole)
        (role.arrived_serve (f.coherent.isShutDown_eq_false hrun) hrole)

/-- **What a dispatch does.** It is one of five things, and the census tells which.

**Proof sketch.** A signal of the cursor runs its steady handler or nothing. Any other runs what the
object should run: nothing if there is no such object; what its destruction calls for; the taking in
of what is announced; and a steady handler otherwise. -/
theorem effect (f : Follows census server) (emission : Emission) :
    Effect census emission server
      (server.dispatch emission.handle emission.signal emission.event).server := by
  obtain ⟨handle, signal, event⟩ := emission
  have hdispatch : (server.dispatch handle signal event).server =
      (server.serve event (server.registry.callbacks handle signal)).server := rfl
  dsimp only
  rw [hdispatch]
  cases hp : signal.isPointer with
  | true => exact f.effect_of_isPointer hp
  | false =>
    have hcallbacks := f.callbacks_eq hp handle
    cases hr : census.role? handle with
    | none =>
      rw [hcallbacks, Census.callbacks_of_none hr]
      exact effect_of_none hr
    | some role =>
      rw [Census.callbacks_of_role? hr] at hcallbacks
      rw [hcallbacks]
      exact f.effect_of_role? hr hcallbacks

end Follows

/-! ## The end of a window -/

/-- A grab on another window is not released. -/
lemma release_of_ne {interaction : Interaction} {id other : WindowId}
    (h : interaction.grabbed? = some other) (hne : other ≠ id) :
    interaction.release id = interaction := by
  unfold Interaction.release
  rw [if_neg]
  rw [h]
  exact fun he => hne (Option.some.inj he)

/-- A released window is not grabbed. -/
lemma grabbed?_release_ne (interaction : Interaction) (id : WindowId) :
    (interaction.release id).grabbed? ≠ some id := by
  unfold Interaction.release
  split <;> rename_i hg
  · exact fun h => by cases h
  · exact hg

section Destroyed

variable {server : Server T} {id : WindowId} {window : Window}
  (hw : server.windows.get? id = some window)

include hw

/-- A window that has a record is destroyed by dropping the record, its place in the focus stack and
its grab, and by releasing the listeners of its surface. -/
lemma handleToplevelDestroyed_eq :
    server.handleToplevelDestroyed id =
      ({ server.releaseGrab id with windows := server.windows.destroy id }.unregisterAll
        window.surface).2 := by
  have hreleased : (server.releaseGrab id).windows.get? id = some window := hw
  unfold handleToplevelDestroyed
  dsimp only
  rw [hreleased]
  rfl

/-- The listeners of its surface are taken out of the registry. -/
lemma registry_handleToplevelDestroyed :
    (server.handleToplevelDestroyed id).registry = (server.registry.take window.surface).2 := by
  rw [handleToplevelDestroyed_eq hw, registry_unregisterAll]
  rfl

/-- The window is dropped from the table. -/
lemma windows_handleToplevelDestroyed :
    (server.handleToplevelDestroyed id).windows = server.windows.destroy id := by
  rw [handleToplevelDestroyed_eq hw, (OnlyOutside.unregisterAll _ _).windows_eq]

/-- No number of a window is used up. -/
lemma nextWindow_handleToplevelDestroyed :
    (server.handleToplevelDestroyed id).nextWindow = server.nextWindow := by
  rw [handleToplevelDestroyed_eq hw, (OnlyOutside.unregisterAll _ _).nextWindow_eq]
  rfl

/-- The window's grab ends, and no other one. -/
lemma interaction_handleToplevelDestroyed :
    (server.handleToplevelDestroyed id).interaction = server.interaction.release id := by
  rw [handleToplevelDestroyed_eq hw, (OnlyOutside.unregisterAll _ _).interaction_eq]
  rfl

/-- Nothing is asked of the toolkit but to disconnect listeners. -/
lemma Noted.handleToplevelDestroyed :
    Noted (fun record => ∃ token, record = .disconnected token) server
      (server.handleToplevelDestroyed id) := by
  rw [handleToplevelDestroyed_eq hw]
  exact Noted.trans (.of_eq rfl) (.unregisterAll _ _)

/-- After the destruction of a toplevel nothing is run by its signals or those of the surface in its
record, and all other signals run what they ran. -/
lemma callbacks_destroyed (toplevel other : Handle) (signal : Signal) :
    ((server.handleToplevelDestroyed id).retire toplevel).registry.callbacks other signal =
      if other ∈ [toplevel, window.surface] then []
      else server.registry.callbacks other signal := by
  rw [registry_retire, Registry.callbacks_retire, registry_handleToplevelDestroyed hw,
    Registry.callbacks_take]
  by_cases ht : other = toplevel
  · simp [ht]
  · by_cases hs : other = window.surface <;> simp [ht, hs]

end Destroyed

/-! ## The census is followed on and on -/

namespace Follows

variable {census : Census} {before middle after server : Server T} {handle : Handle}
  {emission : Emission}

/-- An object other than a toplevel is retired, after steps that leave objects and windows alone. -/
lemma retired (f : Follows census before) {role : Role} (hr : census.role? handle = some role)
    (hsurface : role.surface? = none) {own : List Handle} (hmiddle : Steady own before middle)
    (hwindows : middle.windows = before.windows) (o : Orderly (middle.retire handle)) :
    Follows (census.bury handle) (middle.retire handle) := by
  have hreleased : census.released handle = [handle] :=
    Census.released_of_surface? fun found ho => by
      rw [hr] at ho
      cases ho
      exact hsurface
  have hregistry : (middle.retire handle).registry = (before.registry.retire handle).2 := by
    rw [registry_retire, hmiddle.registry_eq]
  have hcallbacks (other : Handle) (signal : Signal) :
      (middle.retire handle).registry.callbacks other signal =
        if other ∈ [handle] then [] else before.registry.callbacks other signal := by
    rw [hregistry, Registry.callbacks_retire]
    simp
  refine f.bury o ?_ (fun other signal _ => hreleased ▸ hcallbacks other signal)
    (fun other signal => ?_) (fun id window hw _ => ?_) ?_
  · rw [hregistry]
    exact f.coherent.retire _
  · rw [hcallbacks]
    split <;> simp
  · rw [(OnlyOutside.retire _ _).windows_eq, hwindows]
    exact ⟨window, hw, rfl, rfl⟩
  · rw [(OnlyOutside.retire _ _).nextWindow_eq, hmiddle.nextWindow_eq]

/-- A window is destroyed, and its toplevel retired. -/
lemma destroyed (f : Follows census server) {id : WindowId} {surface : Handle}
    (hr : census.role? handle = some (.toplevel id surface))
    (o : Orderly ((server.handleToplevelDestroyed id).retire handle)) :
    Follows (census.bury handle) ((server.handleToplevelDestroyed id).retire handle) := by
  have hreleased := Census.released_of_toplevel hr
  obtain ⟨window, hw, htoplevel, rfl⟩ := f.recorded (Census.mem_of_role? hr)
  refine f.bury o ?_ (fun other signal _ => ?_) (fun other signal => ?_)
    (fun other found hfound hkept => ?_) ?_
  · rw [registry_retire, registry_handleToplevelDestroyed hw]
    exact (f.coherent.take _).retire _
  · rw [hreleased, callbacks_destroyed hw]
  · rw [callbacks_destroyed hw]
    split <;> simp
  · have hother : other ≠ id := by
      rintro rfl
      rw [hw] at hfound
      cases hfound
      rw [hreleased, htoplevel] at hkept
      simp at hkept
    rw [(OnlyOutside.retire _ _).windows_eq, windows_handleToplevelDestroyed hw,
      WindowTable.get?_destroy, if_neg hother]
    exact ⟨found, hfound, rfl, rfl⟩
  · rw [(OnlyOutside.retire _ _).nextWindow_eq, nextWindow_handleToplevelDestroyed hw]

/-- What a dispatch can do leaves a server that follows the census. -/
lemma of_effect (f : Follows census before) (hfresh : census.Fresh emission)
    (h : Effect census emission before after) (o : Orderly after) :
    Follows (census.after emission) after := by
  cases h with
  | steady ha hs hknown hstep =>
    rw [Census.after_of_ne_destroy ha hs]
    exact f.steady hstep o
  | arrived ha hstep =>
    obtain ⟨hnodup, hfree⟩ := hfresh _ ha
    rw [Census.after_of_arrival ha]
    exact f.receive hstep o hnodup hfree
  | missed hs hr hstep =>
    rw [Census.after_of_destroy hs, hstep]
    exact f.missed hr
  | retired hs hr hsurface hmiddle hwindows _ hstep =>
    subst hstep
    rw [Census.after_of_destroy hs]
    exact f.retired hr hsurface hmiddle hwindows o
  | destroyed hs hr hstep =>
    subst hstep
    rw [Census.after_of_destroy hs]
    exact f.destroyed hr o

/-- A dispatch leaves a server that follows the census. -/
theorem emit (f : Follows census server) (hfresh : census.Fresh emission) :
    Follows (census.after emission)
      (server.dispatch emission.handle emission.signal emission.event).server :=
  f.of_effect hfresh (f.effect emission) (f.orderly.dispatch _ _ _)

/-- After the end of the session nothing is listened to. -/
lemma close (f : Follows census server) : Follows census.close server.shutdown where
  orderly := f.orderly.call .shutdown
  coherent := by
    rw [registry_shutdown]
    exact .clear _
  distinct := List.nodup_nil
  callbacks_eq _ handle := by
    rw [registry_shutdown, Registry.callbacks_clear]
    rfl
  pointer _ handle := by
    rw [registry_shutdown, Registry.callbacks_clear]
    exact .inl rfl
  recorded hm := nomatch hm
  next_eq := f.next_eq.trans (nextWindow_shutdown server).symm

end Follows

/-- A new server follows the census of the global objects. -/
lemma follows_of_create {toolkit : T} {config : Config} {display : Option String}
    {server : Server T} (h : create toolkit config display = .ok server)
    {themed : T} (ht : Toolkit.perform (.loadCursorTheme config.cursor.theme config.cursor.size)
      toolkit = themed)
    (hd : [Toolkit.backend themed, Toolkit.shell themed, Toolkit.cursor themed,
      Toolkit.seat themed].Nodup) : Follows (.initial themed) server := by
  subst ht
  obtain ⟨bindings, hw⟩ := Wired.of_create h
  have hcallbacks := fun handle signal => (hw.callbacks_eq handle signal).trans
    (congrArg₂ (· ++ ·) (Registry.callbacks_empty handle signal)
      (callbacksIn_globalWiring hd handle signal))
  exact {
    orderly := orderly_of_create h
    coherent := hw.coherent .empty
    distinct := Census.nodup_initial hd
    callbacks_eq := fun {signal} hp handle => by
      rw [hcallbacks, List.nil_append, cursorCallbacks_eq_nil hp, ite_self, List.append_nil]
    pointer := fun {signal} hp handle => by
      rw [hcallbacks, List.nil_append, Census.callbacks_of_isPointer _ _ hp, List.nil_append]
      split <;> rename_i hc
      · exact .inr ⟨hc, rfl⟩
      · exact .inl rfl
    recorded := fun hm => by simp [Census.initial] at hm
    next_eq := hw.onlyOutside.nextWindow_eq.symm }

/-- **A server follows the census** on every run on which no value in use is announced again. -/
theorem Course.follows {promise : Census → Emission → Prop} {census : Census} {server : Server T}
    (hp : ∀ census emission, promise census emission → census.Fresh emission)
    (h : Course promise server census) : Follows census server := by
  induction h with
  | create hc ht hd => exact follows_of_create hc ht hd
  | emit emission _ hpromise ih => exact ih.emit (hp _ _ hpromise)
  | call _ hsteady ih => exact ih.steady (Steady.call _ hsteady) (ih.orderly.call _)
  | @toolkit server _ toolkit _ ih =>
    have hstep : Steady [] server { server with toolkit := toolkit } := .of_toolkit server toolkit
    exact ih.steady hstep (ih.orderly.congr rfl rfl)
  | shutdown _ ih => exact ih.close

end Compositor.Server
