import Compositor.Proofs.Registry.Retirement
import Compositor.Proofs.Server.Following
import Compositor.Proofs.Windows.Agreement

set_option autoImplicit false

/-!
# A window goes

When a window is destroyed, the other windows should not notice. Their records, their order in the
focus stack and a grab on one of them are left alone. Their listeners are left alone as well, but for
those of one handle: the listeners of the surface that is in the record of the destroyed window are
released, and if that surface is long gone, its value may have become another object's.

## Main definitions

* `Server.OthersKept` — the windows other than that of a toplevel are left alone.

## Main results

* `Server.othersKept_of_destroy` — what the destruction of a toplevel leaves alone.
* `Server.exists_listeners_lost` — another window can lose the listeners of its surface.
-/

namespace Compositor.Server

variable {T : Type} {census : Census} {server before middle after : Server T} {toplevel : Handle}
  {id : WindowId} {window : Window}

/-- Whether a window has a record with a toplevel other than a given one. -/
def hasOtherToplevel (server : Server T) (toplevel : Handle) (id : WindowId) : Bool :=
  (server.windows.get? id).any fun window => window.toplevel ≠ toplevel

/-- The windows with a toplevel other than a given one are left alone, except for listeners of the
surfaces in the records with this toplevel. -/
structure OthersKept (toplevel : Handle) (before after : Server T) : Prop where
  /-- Their records are as before. -/
  records {id : WindowId} {window : Window} : before.windows.get? id = some window →
    window.toplevel ≠ toplevel → after.windows.get? id = some window
  /-- A grab on one of them goes on. -/
  grab {id : WindowId} {window : Window} : before.windows.get? id = some window →
    window.toplevel ≠ toplevel → before.interaction.grabbed? = some id →
    after.interaction = before.interaction
  /-- Their toplevels and surfaces have the listeners and subscribers that they had, unless a record
  with the given toplevel names the same handle as its surface. -/
  listeners {id : WindowId} {window : Window} {handle : Handle} :
    before.windows.get? id = some window → handle ∈ [window.toplevel, window.surface] →
    handle ≠ toplevel → (∀ other destroyed, before.windows.get? other = some destroyed →
      destroyed.toplevel = toplevel → destroyed.surface ≠ handle) →
    after.registry.listenersOf handle = before.registry.listenersOf handle
  /-- They have the focus in the same order. -/
  stack : after.windows.stack.filter (before.hasOtherToplevel toplevel) =
    before.windows.stack.filter (before.hasOtherToplevel toplevel)

namespace OthersKept

/-- Doing nothing leaves all windows alone. -/
lemma refl (toplevel : Handle) (server : Server T) : OthersKept toplevel server server :=
  ⟨fun hw _ => hw, fun _ _ _ => rfl, fun _ _ _ _ => rfl, rfl⟩

variable [Toolkit T]

/-- An object is retired after a step that leaves the windows alone. -/
lemma of_retire (hregistry : middle.registry = before.registry)
    (hwindows : middle.windows = before.windows)
    (hinteraction : middle.interaction = before.interaction) :
    OthersKept toplevel before (middle.retire toplevel) := by
  have hout := OnlyOutside.retire middle toplevel
  exact {
    records := fun hw _ => by rw [hout.windows_eq, hwindows, hw]
    grab := fun _ _ _ => by rw [hout.interaction_eq, hinteraction]
    listeners := fun _ _ hne _ => by
      rw [registry_retire, Registry.listenersOf_retire, if_neg hne, hregistry]
    stack := by rw [hout.windows_eq, hwindows] }

/-- A window is destroyed, and its toplevel retired. -/
lemma of_handleToplevelDestroyed (o : Orderly server) (hw : server.windows.get? id = some window) :
    OthersKept window.toplevel server
      ((server.handleToplevelDestroyed id).retire window.toplevel) := by
  have hout := OnlyOutside.retire (server.handleToplevelDestroyed id) window.toplevel
  -- numbers are told apart by the toplevels in the records
  have hother {other : WindowId} {found : Window} (hf : server.windows.get? other = some found)
      (hne : found.toplevel ≠ window.toplevel) : other ≠ id := by
    rintro rfl
    rw [hw] at hf
    cases hf
    exact hne rfl
  exact {
    records := fun hf hne => by
      rw [hout.windows_eq, windows_handleToplevelDestroyed hw, WindowTable.get?_destroy,
        if_neg (hother hf hne), hf]
    grab := fun hf hne hg => by
      rw [hout.interaction_eq, interaction_handleToplevelDestroyed hw,
        release_of_ne hg (hother hf hne)]
    listeners := fun _ _ hne hsurface => by
      rw [registry_retire, Registry.listenersOf_retire, if_neg hne,
        registry_handleToplevelDestroyed hw, Registry.listenersOf_take,
        if_neg (Ne.symm (hsurface id window hw rfl))]
    stack := by
      rw [hout.windows_eq, windows_handleToplevelDestroyed hw, WindowTable.stack_destroy,
        o.agrees.stack_nodup.erase_eq_filter, List.filter_filter]
      refine List.filter_congr fun other _ => ?_
      by_cases ho : other = id
      · simp [ho, hasOtherToplevel, hw]
      · simp [ho] }

end OthersKept

variable [Toolkit T]

/-- **The other windows are left alone** by the destruction of a toplevel, on every run on which no
value in use is announced: every window with another toplevel has its record, a grab on it goes on,
the other windows have the focus in the same order, and their toplevels and surfaces have the
listeners and subscribers that they had, unless the handle is the surface in the record of the
destroyed window.

**Proof sketch.** By the effect of the dispatch (`Follows.effect`). The destruction of what the
server does not know does nothing, and that of an object without a record retires its handle only.
That of a toplevel drops its record, and the listeners of the two handles in there. -/
theorem othersKept_of_destroy (h : Course Census.Fresh server census) (toplevel : Handle)
    (event : Event) :
    OthersKept toplevel server (server.dispatch toplevel .destroy event).server := by
  have f := h.follows fun _ _ hp => hp
  have heffect := f.effect ⟨toplevel, .destroy, event⟩
  dsimp only at heffect
  cases heffect with
  | steady _ hs => exact absurd rfl hs
  | arrived ha => exact absurd rfl (Census.signal_ne_destroy ha)
  | missed _ _ hstep =>
    rw [hstep]
    exact .refl toplevel server
  | retired _ _ _ hmiddle hwindows hinteraction hstep =>
    rw [hstep]
    exact .of_retire hmiddle.registry_eq hwindows hinteraction
  | @destroyed id surface _ hr hstep =>
    obtain ⟨window, hw, rfl, -⟩ := f.recorded (Census.mem_of_role? hr)
    rw [hstep]
    exact .of_handleToplevelDestroyed f.orderly hw

/-- Two windows come and are mapped, and the older one gets the focus back. -/
def twoMapped : List Emission :=
  [⟨⟨0x20⟩, .newToplevel, .newToplevel ⟨0x50⟩ ⟨0x51⟩⟩, ⟨⟨0x51⟩, .map, .empty⟩,
    ⟨⟨0x20⟩, .newToplevel, .newToplevel ⟨0x60⟩ ⟨0x61⟩⟩, ⟨⟨0x61⟩, .map, .empty⟩,
    ⟨⟨0x51⟩, .map, .empty⟩]

/-- The newer of two windows is left alone when the older one, in front of it, is destroyed. -/
theorem othersKept_of_destroy_front :
    ∃ (server : Server Headless) (window : Window), server.windows.stack = [⟨1⟩, ⟨2⟩] ∧
      server.windows.get? ⟨2⟩ = some window ∧ window.surface = ⟨0x61⟩ ∧
      (server.dispatch ⟨0x50⟩ .destroy .empty).server.windows.get? ⟨2⟩ = some window ∧
      (server.dispatch ⟨0x50⟩ .destroy .empty).server.registry.listenersOf ⟨0x61⟩ =
        server.registry.listenersOf ⟨0x61⟩ ∧
      (server.dispatch ⟨0x50⟩ .destroy .empty).server.windows.stack.filter
        (server.hasOtherToplevel ⟨0x50⟩) = [⟨2⟩] := by
  have hcourse := (Course.standard Census.Fresh).emitAll twoMapped (by decide +kernel)
  have hstack : (standard.emitAll twoMapped).windows.stack = [⟨1⟩, ⟨2⟩] := by decide +kernel
  have hshown : ((standard.emitAll twoMapped).windows.get? ⟨2⟩).map (fun window =>
      (window.toplevel, window.surface)) = some (⟨0x60⟩, ⟨0x61⟩) := by decide +kernel
  have hothers : ∀ destroyed ∈ (standard.emitAll twoMapped).windows.windows,
      destroyed.toplevel = ⟨0x50⟩ → destroyed.surface ≠ ⟨0x61⟩ := by decide +kernel
  obtain ⟨window, hw, he⟩ := Option.map_eq_some_iff.1 hshown
  obtain ⟨htoplevel, hsurface⟩ := Prod.mk.inj he
  have hne : window.toplevel ≠ ⟨0x50⟩ := by
    rw [htoplevel]
    decide
  have hkept := othersKept_of_destroy hcourse ⟨0x50⟩ .empty
  have hlisteners := hkept.listeners hw (by simp [hsurface]) (by decide)
    fun other destroyed hd => hothers destroyed (WindowTable.mem_windows_iff.2 ⟨other, hd⟩)
  exact ⟨_, window, hstack, hw, hsurface, hkept.records hw hne, hlisteners,
    hkept.stack.trans (by decide +kernel)⟩

/-- The surface of a window is destroyed before the window itself, and its value is announced again
as the surface of a second window. -/
def reusedSurface : List Emission :=
  [⟨⟨0x20⟩, .newToplevel, .newToplevel ⟨0x50⟩ ⟨0x51⟩⟩, ⟨⟨0x51⟩, .destroy, .empty⟩,
    ⟨⟨0x20⟩, .newToplevel, .newToplevel ⟨0x60⟩ ⟨0x51⟩⟩]

/-- **Another window can lose the listeners of its surface.** When the first window is destroyed,
the second one, which has both its objects, is no longer listened to on its surface. -/
theorem exists_listeners_lost :
    ∃ (server : Server Headless) (census : Census) (window : Window),
      Course Census.Fresh server census ∧ server.windows.get? ⟨2⟩ = some window ∧
      ⟨window.toplevel, .toplevel ⟨2⟩ window.surface⟩ ∈ census.residents ∧
      ⟨window.surface, .surface ⟨2⟩⟩ ∈ census.residents ∧ window.toplevel ≠ ⟨0x50⟩ ∧
      (server.registry.listenersOf window.surface).length = 4 ∧
      (server.dispatch ⟨0x50⟩ .destroy .empty).server.registry.listenersOf window.surface = [] := by
  have hcourse := (Course.standard Census.Fresh).emitAll reusedSurface (by decide +kernel)
  have hshown : ((standard.emitAll reusedSurface).windows.get? ⟨2⟩).map (fun window =>
      (window.toplevel, window.surface)) = some (⟨0x60⟩, ⟨0x51⟩) := by decide +kernel
  obtain ⟨window, hw, he⟩ := Option.map_eq_some_iff.1 hshown
  obtain ⟨htoplevel, hsurface⟩ := Prod.mk.inj he
  have hreleased : ((standard.emitAll reusedSurface).dispatch ⟨0x50⟩ .destroy
      .empty).server.registry.listenersOf ⟨0x51⟩ = [] := by
    rw [← List.length_eq_zero_iff]
    decide +kernel
  refine ⟨_, _, window, hcourse, hw, ?_⟩
  rw [htoplevel, hsurface]
  exact ⟨by decide +kernel, by decide +kernel, by decide, by decide +kernel, hreleased⟩

end Compositor.Server
