import Compositor.Proofs.Registry.Retirement
import Compositor.Proofs.Server.Coherence
import Compositor.Proofs.Server.Following

set_option autoImplicit false

/-!
# The two ends of a window

A window ends twice: its toplevel is destroyed, and so is its surface. Either may come first. Both
orders release the same listeners in the same order and drop the record, the place in the focus stack
and the grab. They differ in one mark. If the surface goes first, its own subscriber retires it. If
the toplevel goes first, that subscriber is released along with all others of the surface, and nobody
is left who would retire the surface when it goes.

## Main definitions

* `Server.mark` — puts the mark of a destroyed handle, and does no more.
* `Server.drop` — drops what a server keeps of a window, and does no more.

## Main results

* `Server.retire_eq`, `Server.handleToplevelDestroyed_eq_drop` — both ends as steps of these kinds.
* `Server.ends_commute` — the two orders of the two ends, but for one mark.
* `Server.windowEnds_agree_but_for_mark` — both ends in a reachable state, in both orders.
* `Server.exists_ends_differ` — the mark makes a difference.
-/

namespace Compositor.Server

variable {T : Type}

/-! ## Steps of the ends -/

/-- Puts the mark of a destroyed handle. -/
def mark (server : Server T) (handle : Handle) : Server T :=
  { server with
    registry := { server.registry with retired := server.registry.retired.insert handle } }

/-- Drops the record of a window, its place in the focus stack and its grab. -/
def drop (server : Server T) (id : WindowId) : Server T :=
  { server.releaseGrab id with windows := server.windows.destroy id }

/-- Marks are put in any order. -/
lemma mark_comm (server : Server T) (first second : Handle) :
    (server.mark first).mark second = (server.mark second).mark first := by
  have hretired : (server.registry.retired.insert first).insert second =
      (server.registry.retired.insert second).insert first :=
    Std.ExtTreeSet.ext_mem fun handle => by
      simp only [Std.ExtTreeSet.mem_insert]
      exact or_left_comm
  unfold mark
  rw [hretired]

/-- A window is dropped and a mark is put in any order. -/
lemma drop_mark (server : Server T) (handle : Handle) (id : WindowId) :
    (server.mark handle).drop id = (server.drop id).mark handle := rfl

variable [Toolkit T]

/-- The listeners that are disconnected do not depend on a mark. -/
lemma disconnectAll_mark (server : Server T) (handle : Handle)
    (listeners : List (Listener Handler)) :
    (server.mark handle).disconnectAll listeners = (server.disconnectAll listeners).mark handle := by
  unfold disconnectAll
  induction listeners generalizing server with
  | nil => rfl
  | cons listener rest ih => exact ih (server.disconnect listener.token)

/-- The listeners that are disconnected do not depend on the windows. -/
lemma disconnectAll_drop (server : Server T) (id : WindowId) (listeners : List (Listener Handler)) :
    (server.drop id).disconnectAll listeners = (server.disconnectAll listeners).drop id := by
  unfold disconnectAll
  induction listeners generalizing server with
  | nil => rfl
  | cons listener rest ih => exact ih (server.disconnect listener.token)

/-- A handle is released in the same way with another mark put. -/
lemma unregisterAll_mark (server : Server T) (handle other : Handle) :
    ((server.mark other).unregisterAll handle).2 = (server.unregisterAll handle).2.mark other :=
  disconnectAll_mark { server with registry := (server.registry.take handle).2 } other _

/-- A handle is released in the same way with a window dropped. -/
lemma unregisterAll_drop (server : Server T) (handle : Handle) (id : WindowId) :
    ((server.drop id).unregisterAll handle).2 = (server.unregisterAll handle).2.drop id :=
  disconnectAll_drop { server with registry := (server.registry.take handle).2 } id _

/-- A second release of a handle does nothing. -/
lemma unregisterAll_unregisterAll (server : Server T) (handle : Handle) :
    ((server.unregisterAll handle).2.unregisterAll handle).2 = (server.unregisterAll handle).2 := by
  have htake : (server.unregisterAll handle).2.registry.take handle =
      ([], (server.unregisterAll handle).2.registry) := by
    rw [registry_unregisterAll]
    exact Registry.take_take _ _
  conv_lhs => rw [unregisterAll]
  rw [htake]
  rfl

/-- A retirement is a mark and a release. -/
lemma retire_eq (server : Server T) (handle : Handle) :
    server.retire handle = ((server.mark handle).unregisterAll handle).2 := rfl

/-- The destruction of a window drops what is kept of it and releases the listeners of its
surface. -/
lemma handleToplevelDestroyed_eq_drop {server : Server T} {id : WindowId} {window : Window}
    (hw : server.windows.get? id = some window) :
    server.handleToplevelDestroyed id = ((server.drop id).unregisterAll window.surface).2 :=
  handleToplevelDestroyed_eq hw

/-- **The two ends of a window commute, but for one mark.** The destruction of the toplevel's window
and the retirement of the toplevel, before or after the retirement of the surface. -/
lemma ends_commute {server : Server T} {id : WindowId} {window : Window}
    (hw : server.windows.get? id = some window) :
    ((server.retire window.surface).handleToplevelDestroyed id).retire window.toplevel =
      ((server.handleToplevelDestroyed id).retire window.toplevel).mark window.surface := by
  have hretired : (server.retire window.surface).windows.get? id = some window := by
    rw [(OnlyOutside.retire _ _).windows_eq]
    exact hw
  have hdestroyed : (server.retire window.surface).handleToplevelDestroyed id =
      (server.handleToplevelDestroyed id).mark window.surface :=
    calc (server.retire window.surface).handleToplevelDestroyed id
      _ = (((server.retire window.surface).drop id).unregisterAll window.surface).2 :=
        handleToplevelDestroyed_eq_drop hretired
      _ = ((((server.drop id).mark window.surface).unregisterAll window.surface).2.unregisterAll
          window.surface).2 := by
        rw [retire_eq, ← unregisterAll_drop, drop_mark]
      _ = (((server.drop id).mark window.surface).unregisterAll window.surface).2 :=
        unregisterAll_unregisterAll _ _
      _ = ((server.drop id).unregisterAll window.surface).2.mark window.surface :=
        unregisterAll_mark _ _ _
      _ = (server.handleToplevelDestroyed id).mark window.surface := by
        rw [handleToplevelDestroyed_eq_drop hw]
  rw [hdestroyed, retire_eq, retire_eq, mark_comm, unregisterAll_mark]

/-! ## Both orders -/

/-- Dispatches the destruction of two objects in turn, the second if the first went without a fault;
the number of callbacks. -/
def destroyInTurn (server : Server T) (first second : Handle) (event other : Event) :
    Outcome T Nat :=
  let ended := server.dispatch first .destroy event
  match ended.result with
  | .error fault => ended.server.fail fault
  | .ok count => (ended.server.dispatch second .destroy other).map fun more => count + more

section Orders

variable {server : Server T} {id : WindowId} {window : Window} {event other : Event}

/-- A signal without callbacks does nothing. -/
lemma dispatch_of_nil {handle : Handle} {signal : Signal}
    (h : server.registry.callbacks handle signal = []) :
    server.dispatch handle signal event = ⟨.ok 0, server⟩ := by
  unfold dispatch
  rw [h]
  rfl

/-- The end of a toplevel that nobody else is interested in. -/
lemma dispatch_toplevelDestroyed {toplevel : Handle}
    (h : server.registry.callbacks toplevel .destroy =
      [.run (.toplevelDestroyed id), .retire toplevel]) :
    server.dispatch toplevel .destroy event =
      ⟨.ok 2, (server.handleToplevelDestroyed id).retire toplevel⟩ := by
  unfold dispatch
  rw [h]
  rfl

/-- The end of a surface that nobody else is interested in. -/
lemma dispatch_retire {surface : Handle}
    (h : server.registry.callbacks surface .destroy = [.retire surface]) :
    server.dispatch surface .destroy event = ⟨.ok 1, server.retire surface⟩ := by
  unfold dispatch
  rw [h]
  rfl

/-- If the toplevel of a window goes first, nobody is left who would notice the end of its
surface. -/
lemma destroyInTurn_toplevel (hw : server.windows.get? id = some window)
    (ht : server.registry.callbacks window.toplevel .destroy =
      [.run (.toplevelDestroyed id), .retire window.toplevel]) :
    server.destroyInTurn window.toplevel window.surface event other =
      ⟨.ok 2, (server.handleToplevelDestroyed id).retire window.toplevel⟩ := by
  have hnone : ((server.handleToplevelDestroyed id).retire window.toplevel).registry.callbacks
      window.surface .destroy = [] := by
    rw [callbacks_destroyed hw]
    simp
  unfold destroyInTurn
  rw [dispatch_toplevelDestroyed ht]
  dsimp only
  rw [dispatch_of_nil hnone]
  rfl

/-- If the surface goes first, it is marked in addition. -/
lemma destroyInTurn_surface (hw : server.windows.get? id = some window)
    (ht : server.registry.callbacks window.toplevel .destroy =
      [.run (.toplevelDestroyed id), .retire window.toplevel])
    (hs : server.registry.callbacks window.surface .destroy = [.retire window.surface])
    (hne : window.toplevel ≠ window.surface) :
    server.destroyInTurn window.surface window.toplevel other event =
      ⟨.ok 3, ((server.handleToplevelDestroyed id).retire window.toplevel).mark
        window.surface⟩ := by
  have hstays : (server.retire window.surface).registry.callbacks window.toplevel .destroy =
      [.run (.toplevelDestroyed id), .retire window.toplevel] := by
    rw [registry_retire, Registry.callbacks_retire, if_neg hne, ht]
  unfold destroyInTurn
  rw [dispatch_retire hs]
  dsimp only
  rw [dispatch_toplevelDestroyed hstays, ends_commute hw]
  rfl

/-- **The two ends of a window come to the same, but for one mark.** In a reachable state, let only
the server itself be interested in the ends of the toplevel and the surface of a window. Whichever
is destroyed first, all goes without a fault. The record, the place in the focus stack, the grab and
all listeners of both are gone, and the toplevel is retired. The final states are equal in toolkit,
journal, tables and everything else, except that the surface is retired only if it went first.

**Proof sketch.** The subscriber that would retire the surface is released by the end of the
toplevel. If the surface went first, there is nothing left that the end of the toplevel could
release, so the same listeners are released in the same order; see `ends_commute`. -/
theorem windowEnds_agree_but_for_mark {servings : List Serving} (h : Reachable server servings)
    (hw : server.windows.get? id = some window)
    (ht : server.registry.callbacks window.toplevel .destroy =
      [.run (.toplevelDestroyed id), .retire window.toplevel])
    (hs : server.registry.callbacks window.surface .destroy = [.retire window.surface])
    (event other : Event) :
    ∃ final : Server T,
      server.destroyInTurn window.toplevel window.surface event other = ⟨.ok 2, final⟩ ∧
      server.destroyInTurn window.surface window.toplevel other event =
        ⟨.ok 3, final.mark window.surface⟩ ∧
      final.registry.isRetired window.surface = false ∧
      final.registry.isRetired window.toplevel = true ∧
      (∀ handle ∈ [window.toplevel, window.surface], final.registry.listenersOf handle = []) ∧
      final.windows.get? id = none ∧ id ∉ final.windows.stack ∧
      final.interaction.grabbed? ≠ some id := by
  have hne : window.toplevel ≠ window.surface := by
    intro he
    rw [he, hs] at ht
    simp at ht
  have hwindows : ((server.handleToplevelDestroyed id).retire window.toplevel).windows =
      server.windows.destroy id := by
    rw [(OnlyOutside.retire _ _).windows_eq, windows_handleToplevelDestroyed hw]
  have hregistry : ((server.handleToplevelDestroyed id).retire window.toplevel).registry =
      ((server.registry.take window.surface).2.retire window.toplevel).2 := by
    rw [registry_retire, registry_handleToplevelDestroyed hw]
  refine ⟨_, destroyInTurn_toplevel hw ht, destroyInTurn_surface hw ht hs hne, ?_, ?_, ?_, ?_, ?_,
    ?_⟩
  · have hrun : server.registry.callbacks window.surface .destroy ≠ [] := by simp [hs]
    have hmark : (server.registry.take window.surface).2.isRetired window.surface = false :=
      h.coherent.not_isRetired (h.coherent.isTracked_of_callbacks hrun)
    rw [hregistry, Registry.isRetired_retire, hmark]
    simpa using hne.symm
  · rw [hregistry, Registry.isRetired_retire]
    simp
  · intro handle hm
    rw [hregistry, Registry.listenersOf_retire, Registry.listenersOf_take]
    rcases List.mem_cons.1 hm with rfl | hm
    · exact if_pos rfl
    · rw [List.mem_singleton.1 hm, if_pos rfl, ite_self]
  · rw [hwindows, WindowTable.get?_destroy, if_pos rfl]
  · rw [hwindows, WindowTable.stack_destroy]
    exact h.orderly.agrees.stack_nodup.not_mem_erase
  · rw [(OnlyOutside.retire _ _).interaction_eq, interaction_handleToplevelDestroyed hw]
    exact grabbed?_release_ne _ _

end Orders

/-- A window was created and mapped. -/
def mappedWindow : Server Headless :=
  standard.callAll [.emit ⟨0x20⟩ .newToplevel (.newToplevel ⟨0x50⟩ ⟨0x51⟩),
    .emit ⟨0x51⟩ .map .empty]

/-- The window was mapped in a reachable state. -/
lemma reachable_mappedWindow : Reachable mappedWindow [] :=
  (Reachable.create create_standard).callAll _

/-- The window is recorded as mapped, with its objects. -/
lemma get?_mappedWindow : ∃ window, mappedWindow.windows.get? ⟨1⟩ = some window ∧
    window.toplevel = ⟨0x50⟩ ∧ window.surface = ⟨0x51⟩ ∧ window.mapped = true := by
  have hshown : (mappedWindow.windows.get? ⟨1⟩).map (fun window =>
      (window.toplevel, window.surface, window.mapped)) = some (⟨0x50⟩, ⟨0x51⟩, true) := by
    decide +kernel
  obtain ⟨window, hw, he⟩ := Option.map_eq_some_iff.1 hshown
  simp only [Prod.mk.injEq] at he
  exact ⟨window, hw, he⟩

/-- Both orders for a mapped window, which has the focus. -/
theorem windowEnds_agree_but_for_mark_mapped :
    mappedWindow.windows.stack = [⟨1⟩] ∧ ∃ final : Server Headless,
      mappedWindow.destroyInTurn ⟨0x50⟩ ⟨0x51⟩ .empty .empty = ⟨.ok 2, final⟩ ∧
      mappedWindow.destroyInTurn ⟨0x51⟩ ⟨0x50⟩ .empty .empty = ⟨.ok 3, final.mark ⟨0x51⟩⟩ ∧
      ⟨1⟩ ∉ final.windows.stack := by
  obtain ⟨window, hw, htoplevel, hsurface, -⟩ := get?_mappedWindow
  have ht : mappedWindow.registry.callbacks window.toplevel .destroy =
      [.run (.toplevelDestroyed ⟨1⟩), .retire window.toplevel] := by
    rw [htoplevel]
    decide +kernel
  have hs : mappedWindow.registry.callbacks window.surface .destroy =
      [.retire window.surface] := by
    rw [hsurface]
    decide +kernel
  obtain ⟨final, hfirst, hsecond, -, -, -, -, hstack, -⟩ :=
    windowEnds_agree_but_for_mark reachable_mappedWindow hw ht hs .empty .empty
  rw [htoplevel, hsurface] at hfirst
  rw [htoplevel, hsurface] at hsecond
  exact ⟨by decide +kernel, final, hfirst, hsecond, hstack⟩

/-- **The order of the ends of a window matters.** In a reachable state with a mapped window whose
toplevel and surface are both tracked, the surface is retired in the end if it goes first, and it is
not if the toplevel goes first. -/
theorem exists_ends_differ : ∃ (server : Server Headless) (window : Window),
    Reachable server [] ∧ server.windows.get? ⟨1⟩ = some window ∧ window.mapped = true ∧
    server.registry.isTracked window.toplevel = true ∧
    server.registry.isTracked window.surface = true ∧
    (server.destroyInTurn window.surface window.toplevel .empty .empty).server.registry.isRetired
      window.surface = true ∧
    (server.destroyInTurn window.toplevel window.surface .empty .empty).server.registry.isRetired
      window.surface = false := by
  obtain ⟨window, hw, htoplevel, hsurface, hmapped⟩ := get?_mappedWindow
  refine ⟨mappedWindow, window, reachable_mappedWindow, hw, hmapped, ?_⟩
  rw [htoplevel, hsurface]
  decide +kernel

end Compositor.Server
