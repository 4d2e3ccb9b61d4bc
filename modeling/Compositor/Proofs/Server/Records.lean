import Compositor.Proofs.Server.Following
import Compositor.Proofs.Server.Residents
import Compositor.Proofs.Windows.Agreement

set_option autoImplicit false

/-!
# Listeners and records follow the objects

A server that follows the census has a record of every window in it. If no value is announced that a
window goes by, there are no other records: a record goes with its window, and the destruction of
another window does not take the window away from it.

If the toolkit also keeps the global objects and destroys windows before their surfaces, listeners
and records follow the objects from announcement to destruction, however often their values are used
again: each object that is there has just the listeners of its kind, what they run knows the object
itself or its window, and nothing else is listened to.

## Main definitions

* `Server.Listed` — every record is that of a window in the census.

## Main results

* `Server.Course.listed` — there are no records of other windows.
* `Server.Follows.get?_iff` — a window is in the census if and only if it has a record.
* `Server.Listed.distinct_toplevel`, `Server.Listed.distinct_surface` — records share neither
  toplevels nor surfaces.
* `Server.Follows.callbacks_of_ne_cursor`, `Server.Follows.signals_perm` — what is listened to, and
  what is run.
* `Server.listeners_match_residents` — listeners and records are those of the objects that are
  there.
-/

namespace Compositor.Server

variable {T : Type} {census : Census} {server before after : Server T}

/-- Every record is that of a window in the census. -/
def Listed (census : Census) (server : Server T) : Prop :=
  ∀ id window, server.windows.get? id = some window →
    ⟨window.toplevel, .toplevel id window.surface⟩ ∈ census.residents

namespace Listed

/-- A table without records. -/
lemma of_forall (h : ∀ id, server.windows.get? id = none) : Listed census server :=
  fun id window hw => by simp [h id] at hw

/-- The handles in the records are what matters. -/
lemma sameHandles (l : Listed census before) (h : before.windows.SameHandles after.windows) :
    Listed census after := by
  intro id window hw
  obtain ⟨old, hold, he⟩ := h.exists_of_get? hw
  obtain ⟨ht, hs, -⟩ : old.toplevel = window.toplevel ∧ old.surface = window.surface ∧
    old.scene = window.scene := by simpa [Window.handles] using he
  rw [← ht, ← hs]
  exact l id old hold

/-- The record of an announced window is that of the resident with the next number. -/
lemma receive (l : Listed census before) {arrival : Arrival} (h : Arrived arrival before after)
    (hn : census.next = before.nextWindow) : Listed (census.receive arrival) after := by
  intro id window hw
  rcases h.get?_cases hw with hold | hnew
  · exact List.mem_append_left _ (l id window hold)
  · refine List.mem_append_right _ ?_
    rw [hn]
    exact hnew

/-- Records stay whose windows are not released. -/
lemma bury (l : Listed census before) {handle : Handle}
    (h : ∀ id window, after.windows.get? id = some window →
      before.windows.get? id = some window ∧ window.toplevel ∉ census.released handle) :
    Listed (census.bury handle) after := by
  intro id window hw
  obtain ⟨hold, hkept⟩ := h id window hw
  exact Census.mem_bury_iff.2 ⟨l id window hold, hkept⟩

/-- Records do not share a toplevel. -/
lemma distinct_toplevel (l : Listed census server) (s : census.Separated) :
    server.windows.Distinct Window.toplevel := by
  intro id other window found hw hf he
  have hsame := Census.role?_of_mem s.distinct (l id window hw)
  rw [he, Census.role?_of_mem s.distinct (l other found hf)] at hsame
  injection hsame with hrole
  injection hrole with hid
  exact hid.symm

/-- Records do not share a surface. -/
lemma distinct_surface (l : Listed census server) (s : census.Separated) :
    server.windows.Distinct Window.surface := by
  intro id other window found hw hf he
  have hwindow := l id window hw
  rw [he] at hwindow
  exact l.distinct_toplevel s id other window found hw hf
    (s.toplevel_eq hwindow (l other found hf))

/-- A window is not released with an object other than a window. -/
lemma not_mem_released (l : Listed census server) (s : census.Separated) {handle : Handle}
    {role : Role} (hr : census.role? handle = some role) (hsurface : role.surface? = none)
    {id : WindowId} {window : Window} (hw : server.windows.get? id = some window) :
    window.toplevel ∉ census.released handle := by
  intro hreleased
  rcases Census.mem_released_iff.1 hreleased with he | ⟨number, ht⟩
  · rw [← he, Census.role?_of_mem s.distinct (l id window hw)] at hr
    cases hr
    cases hsurface
  · rw [hr] at ht
    cases ht
    cases hsurface

variable [Toolkit T]

/-- A dispatch leaves no record behind whose window is gone. -/
lemma of_effect (l : Listed census before) (f : Follows census before) (s : census.Separated)
    {emission : Emission} (h : Effect census emission before after) :
    Listed (census.after emission) after := by
  cases h with
  | steady ha hs _ hstep =>
    rw [Census.after_of_ne_destroy ha hs]
    exact l.sameHandles hstep.sameHandles
  | arrived ha hstep =>
    rw [Census.after_of_arrival ha]
    exact l.receive hstep f.next_eq
  | missed hs hr hstep =>
    subst hstep
    rw [Census.after_of_destroy hs]
    refine l.bury fun id window hw => ⟨hw, fun hreleased => ?_⟩
    rcases Census.mem_released_iff.1 hreleased with he | ⟨number, ht⟩
    · exact Census.role?_eq_none_iff.1 hr _ (l id window hw) he
    · simp [hr] at ht
  | @retired role middle hs hr hsurface _ hwindows _ hstep =>
    subst hstep
    rw [Census.after_of_destroy hs]
    refine l.bury fun id window hw => ?_
    rw [(OnlyOutside.retire _ _).windows_eq, hwindows] at hw
    exact ⟨hw, l.not_mem_released s hr hsurface hw⟩
  | @destroyed id surface hs hr hstep =>
    subst hstep
    rw [Census.after_of_destroy hs]
    obtain ⟨gone, hgone, -, -⟩ := f.recorded (Census.mem_of_role? hr)
    refine l.bury fun other window hw => ?_
    rw [(OnlyOutside.retire _ _).windows_eq, windows_handleToplevelDestroyed hgone,
      WindowTable.get?_destroy] at hw
    split at hw <;> rename_i ho
    · cases hw
    -- the record of another window, which is neither the destroyed one nor its surface
    · refine ⟨hw, fun hreleased => ?_⟩
      rcases Census.mem_released_iff.1 hreleased with he | ⟨number, ht⟩
      · rw [← he, Census.role?_of_mem s.distinct (l other window hw)] at hr
        cases hr
        exact ho rfl
      · cases s.surface_eq (Census.mem_of_role? ht) (l other window hw)

end Listed

/-- A window is in the census if and only if it has a record. -/
lemma Follows.get?_iff (f : Follows census server) (l : Listed census server) {id : WindowId}
    {toplevel surface : Handle} : ⟨toplevel, .toplevel id surface⟩ ∈ census.residents ↔
      ∃ window, server.windows.get? id = some window ∧ window.toplevel = toplevel ∧
        window.surface = surface := by
  refine ⟨f.recorded, ?_⟩
  rintro ⟨window, hw, rfl, rfl⟩
  exact l id window hw

/-- The objects that are there, apart from the cursor, are listened to as they should be, and no
other object is. -/
lemma Follows.callbacks_of_ne_cursor (f : Follows census server) {handle : Handle}
    (h : handle ≠ census.cursor) (signal : Signal) :
    server.registry.callbacks handle signal = census.callbacks handle signal := by
  cases hp : signal.isPointer with
  | false => exact f.callbacks_eq hp handle
  | true =>
    rw [Census.callbacks_of_isPointer _ _ hp]
    exact (f.pointer hp handle).resolve_right fun hc => h hc.1

/-- The signals that are listened to. -/
lemma Follows.signals_perm (f : Follows census server) {handle : Handle}
    (h : handle ≠ census.cursor) :
    ((server.registry.listenersOf handle).map Listener.signal).Perm
      ((census.role? handle).elim [] Role.signals) := by
  have hcallbacks (signal : Signal) : server.registry.callbacks handle signal =
      (census.role? handle).elim [] fun role => role.callbacks handle signal :=
    f.callbacks_of_ne_cursor h signal
  cases hr : census.role? handle with
  | none => exact f.coherent.signals_perm List.nodup_nil fun signal => by simp [hcallbacks, hr]
  | some role =>
    refine f.coherent.signals_perm role.signals_nodup fun signal => ?_
    rw [hcallbacks, hr]
    exact role.mem_signals_iff handle signal

variable [Toolkit T]

/-- **There are no records of windows that are not there** if no value is announced that a window
goes by. -/
theorem Course.listed {promise : Census → Emission → Prop}
    (hp : ∀ census emission, promise census emission → census.Unnamed emission)
    (h : Course promise server census) : Listed census server := by
  induction h with
  | create hc =>
    obtain ⟨bindings, hw⟩ := Wired.of_create hc
    exact .of_forall fun id => by
      rw [hw.onlyOutside.windows_eq]
      exact WindowTable.get?_empty id
  | emit emission hcourse hpromise ih =>
    have f := hcourse.follows fun census emission hk => (hp census emission hk).1
    exact ih.of_effect f (hcourse.separated hp) (f.effect emission)
  | call _ hsteady ih => exact ih.sameHandles (Steady.call _ hsteady).sameHandles
  | toolkit _ _ ih => exact ih.sameHandles (.refl _)
  | shutdown _ _ =>
    exact .of_forall fun id => by
      rw [windows_shutdown]
      exact WindowTable.get?_empty id

/-- **Listeners and records are those of the objects that are there**, throughout every run on which
no value is announced that an object has or a window goes by, no global object is destroyed, and
windows are destroyed before their surfaces.

An object that is there is listened to for just the signals of its kind, and each of them runs just
the handler that is meant for it; nothing else is listened to, apart from the cursor. There is a
record for each window, whose surface is there as long as it is, and no other. No two records share
a toplevel or a surface, so that a record is found by either in whatever order the records are
visited.

**Proof sketch.** The server follows the census, see `Course.follows`, which settles the listeners.
The promises keep windows and their surfaces together and apart from other objects, see
`Course.paired` and `Course.separated`, and the records are those of the windows, see
`Course.listed`. -/
theorem listeners_match_residents (h : Course Census.InOrder server census) :
    (∀ handle role, census.role? handle = some role ↔ ⟨handle, role⟩ ∈ census.residents) ∧
    (∀ handle, handle ≠ census.cursor →
      ((server.registry.listenersOf handle).map Listener.signal).Perm
          ((census.role? handle).elim [] Role.signals) ∧
        ∀ signal, server.registry.callbacks handle signal =
          (census.role? handle).elim [] fun role => role.callbacks handle signal) ∧
    (∀ id toplevel surface, ⟨toplevel, .toplevel id surface⟩ ∈ census.residents ↔
      ∃ window, server.windows.get? id = some window ∧ window.toplevel = toplevel ∧
        window.surface = surface) ∧
    (∀ id surface, ⟨surface, .surface id⟩ ∈ census.residents ↔
      ∃ toplevel, ⟨toplevel, .toplevel id surface⟩ ∈ census.residents) ∧
    server.windows.Distinct Window.toplevel ∧ server.windows.Distinct Window.surface ∧
    ∀ order : List Window, order.Perm server.windows.windows → ∀ handle,
      (order.find? fun window => window.toplevel = handle).map Window.id =
          server.windows.findByToplevel? handle ∧
        (order.find? fun window => window.surface = handle).map Window.id =
          server.windows.findBySurface? handle := by
  have f := h.follows fun _ _ hp => hp.1.1
  have s := h.separated fun _ _ hp => hp.1
  have l := h.listed fun _ _ hp => hp.1
  have p := h.paired fun _ _ hp => hp
  have htoplevel := l.distinct_toplevel s
  have hsurface := l.distinct_surface s
  refine ⟨fun handle role => ⟨Census.mem_of_role?, Census.role?_of_mem s.distinct⟩,
    fun handle hc => ⟨f.signals_perm hc, f.callbacks_of_ne_cursor hc⟩,
    fun id toplevel surface => f.get?_iff l,
    fun id surface => ⟨p.exists_toplevel, fun ⟨_, ht⟩ => p.surface_mem ht⟩,
    htoplevel, hsurface, fun order ho handle => ⟨?_, ?_⟩⟩
  · rw [WindowTable.find?_perm htoplevel ho]
    rfl
  · rw [WindowTable.find?_perm hsurface ho]
    rfl

/-- A window comes and goes, and then its surface. The two values are announced again for a second
window, the other way round, along with an output, a keyboard and a popup. -/
def swappedValues : List Emission :=
  [⟨⟨0x20⟩, .newToplevel, .newToplevel ⟨0x50⟩ ⟨0x51⟩⟩, ⟨⟨0x51⟩, .map, .empty⟩,
    ⟨⟨0x50⟩, .destroy, .empty⟩, ⟨⟨0x51⟩, .destroy, .empty⟩,
    ⟨⟨0x10⟩, .newOutput, .newOutput ⟨0x70⟩⟩, ⟨⟨0x10⟩, .newInput, .newInput ⟨0x80⟩ .keyboard⟩,
    ⟨⟨0x20⟩, .newToplevel, .newToplevel ⟨0x51⟩ ⟨0x50⟩⟩,
    ⟨⟨0x20⟩, .newPopup, .newPopup ⟨0x90⟩ (some ⟨0x50⟩)⟩]

/-- The values of the first window belong to the second one. -/
theorem listeners_match_residents_swapped :
    ∃ server : Server Headless, server.nextWindow = 3 ∧
      ((server.registry.listenersOf ⟨0x50⟩).map Listener.signal).Perm
        [.map, .unmap, .commit, .destroy] ∧
      server.registry.callbacks ⟨0x50⟩ .map = [.run (.map ⟨2⟩)] ∧
      server.registry.callbacks ⟨0x51⟩ .destroy =
        [.run (.toplevelDestroyed ⟨2⟩), .retire ⟨0x51⟩] ∧
      server.registry.callbacks ⟨0x80⟩ .key = [.run (.key ⟨0x80⟩)] ∧
      ∃ window : Window, server.windows.get? ⟨2⟩ = some window ∧ window.toplevel = ⟨0x51⟩ ∧
        window.surface = ⟨0x50⟩ := by
  let census := (Census.initial Headless.standard).afterAll swappedValues
  have hcourse := (Course.standard Census.InOrder).emitAll swappedValues (by decide +kernel)
  obtain ⟨-, hlisteners, hrecords, -⟩ := listeners_match_residents hcourse
  have hsurface : census.role? ⟨0x50⟩ = some (.surface ⟨2⟩) := by decide +kernel
  have htoplevel : census.role? ⟨0x51⟩ = some (.toplevel ⟨2⟩ ⟨0x50⟩) := by decide +kernel
  have hkeyboard : census.role? ⟨0x80⟩ = some .keyboard := by decide +kernel
  have hroot := hlisteners ⟨0x50⟩ (by decide +kernel)
  have hobject := (hlisteners ⟨0x51⟩ (by decide +kernel)).2 .destroy
  have hdevice := (hlisteners ⟨0x80⟩ (by decide +kernel)).2 .key
  rw [hsurface] at hroot
  rw [htoplevel] at hobject
  rw [hkeyboard] at hdevice
  exact ⟨_, by decide +kernel, hroot.1, hroot.2 .map, hobject, hdevice,
    (hrecords _ _ _).1 (Census.mem_of_role? htoplevel)⟩

end Compositor.Server
