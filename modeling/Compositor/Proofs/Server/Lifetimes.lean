import Compositor.Proofs.Server.Records

set_option autoImplicit false

/-!
# What the toolkit is asked about

All handles that are passed to the toolkit should be those of live objects. The server passes on
what it was told: in the event itself, when it subscribed, or when a window was created. The first
two are no danger, since a callback goes with its object, and neither are toplevels and scene nodes,
since a record goes with its toplevel. But the surface in a record may be destroyed before the
toplevel, and the record goes on to name it: if that window gets the focus, the keyboard enters a
surface that is gone.

## Main definitions

* `Server.Census.Vouches` — a journal entry passes on no handle of a destroyed object, but for the
  surface of a window that outlived it.

## Main results

* `Server.Follows.vouched_of_effect` — what a dispatch puts into the journal.
* `Server.passed_handles_alive` — the same for dispatches and calls throughout a run.
* `Server.exists_gone_surface_entered` — the exception occurs.
-/

namespace Compositor.Server

variable {T : Type} {census : Census} {server before after : Server T}

/-- A journal entry passes on no value of an object that is gone, except that the keyboard may enter
the surface of a window that is still there; and it passes on no scene nodes but those in the
records of windows that are there. -/
structure Census.Vouches (census : Census) (windows : WindowTable) (record : Record) : Prop where
  /-- The values of objects. -/
  stored {handle : Handle} : handle ∈ record.stored → handle ∈ census.gone →
    record = .command (.keyboardEnter handle) ∧
      ∃ toplevel id, ⟨toplevel, .toplevel id handle⟩ ∈ census.residents
  /-- The scene nodes. -/
  nodes {node : Handle} : node ∈ record.nodes → ∃ id window, windows.get? id = some window ∧
    window.scene = node ∧ ⟨window.toplevel, .toplevel id window.surface⟩ ∈ census.residents

namespace Census.Vouches

variable {record : Record}

/-- Disconnecting passes on no handle. -/
lemma disconnected {windows : WindowTable} (h : ∃ token, record = .disconnected token) :
    census.Vouches windows record := by
  obtain ⟨token, rfl⟩ := h
  exact ⟨fun hm => (List.not_mem_nil hm).elim, fun hm => (List.not_mem_nil hm).elim⟩

/-- An entry about windows that are there and objects that are not gone. -/
lemma of_from {own : List Handle} (h : record.From server.windows own) (s : census.Separated)
    (l : Listed census server) (hown : ∀ handle ∈ own, handle ∉ census.gone) :
    census.Vouches server.windows record where
  stored hm hgone := by
    rcases h.stored hm with ho | ⟨id, window, hw, rfl | ⟨rfl, hrecord⟩⟩
    · exact absurd hgone (hown _ ho)
    · exact absurd hgone (s.not_gone (l id window hw))
    · exact ⟨hrecord, window.toplevel, id, l id window hw⟩
  nodes hm := by
    obtain ⟨id, window, hw, rfl⟩ := h.nodes hm
    exact ⟨id, window, hw, rfl, l id window hw⟩

/-- What is gone and not the surface of a window is not passed on. -/
lemma not_mem_stored {windows : WindowTable} (v : census.Vouches windows record) {handle : Handle}
    (hgone : handle ∈ census.gone)
    (hunnamed : ∀ resident ∈ census.residents, resident.role.surface? ≠ some handle) :
    handle ∉ record.stored := by
  intro hm
  obtain ⟨-, toplevel, id, hresident⟩ := v.stored hm hgone
  exact hunnamed _ hresident rfl

end Census.Vouches

variable [Toolkit T] {emission : Emission}

/-- **What a dispatch passes on** is vouched for by the census after the event.

**Proof sketch.** A steady step is about windows in the census and about the object that the event
came from. With an announcement, the announced objects are passed on as well. A destruction leaves
the windows alone whose records are still used, and releases listeners otherwise. -/
lemma Follows.vouched_of_effect (f : Follows census before) (s : census.Separated)
    (l : Listed census before) (hu : census.Unnamed emission)
    (h : Effect census emission before after) :
    Noted ((census.after emission).Vouches before.windows) before after := by
  cases h with
  | steady ha hs hknown hstep =>
    rw [Census.after_of_ne_destroy ha hs]
    refine hstep.noted.mono fun record hr => .of_from hr s l fun object ho => ?_
    obtain ⟨role, hrole⟩ := hknown object ho
    exact s.not_gone (Census.mem_of_role? hrole)
  | arrived ha hstep =>
    rw [Census.after_of_arrival ha]
    refine hstep.noted.mono fun record hr => .of_from hr (s.receive hu ha) ?_ fun object ho => ?_
    · exact fun id window hw => List.mem_append_left _ (l id window hw)
    · simp [Census.receive, ho]
  | missed _ _ hstep =>
    subst hstep
    exact .refl after
  | @retired role middle hs hr hsurface hmiddle hwindows _ hstep =>
    subst hstep
    -- the windows are still there, so that entries about them are vouched for afterwards as well
    have hlisted : Listed (census.bury emission.handle) before :=
      l.bury fun id window hw => ⟨hw, l.not_mem_released s hr hsurface hw⟩
    rw [Census.after_of_destroy hs]
    refine Noted.trans ?_ ((Noted.retire _ _).mono fun record => .disconnected)
    exact hmiddle.noted.mono fun record hr => .of_from hr (s.bury _) hlisted (by simp)
  | destroyed hs hr hstep =>
    subst hstep
    obtain ⟨gone, hgone, -, -⟩ := f.recorded (Census.mem_of_role? hr)
    exact ((Noted.handleToplevelDestroyed hgone).trans (.retire _ _)).mono
      fun record => .disconnected

/-- **No handle of a destroyed object is passed on, except that the keyboard may enter a surface
that was destroyed before its window.** Throughout every run on which no value is announced that an
object has or a window goes by, whatever is destroyed and when: neither a dispatch nor a call of the
server passes on a value that the toolkit did not supply just before and whose object was destroyed,
nor a scene node of a window that is gone, with this one exception.

**Proof sketch.** The server follows the census throughout (`Course.follows`), so a dispatch has one
of the effects that the census tells, and what each of them passes on is vouched for
(`Follows.vouched_of_effect`). A call of the server is steady: it is about the windows that have
records. -/
theorem passed_handles_alive (h : Course Census.Unnamed server census) :
    (∀ emission, census.Unnamed emission →
      ∀ record ∈ (server.dispatch emission.handle emission.signal
        emission.event).server.recordsSince server,
        (census.after emission).Vouches server.windows record) ∧
    ∀ call, call.isSteady = true → ∀ record ∈ (server.call call).server.recordsSince server,
      census.Vouches server.windows record := by
  have f := h.follows fun _ _ hp => hp.1
  have s := h.separated fun _ _ hp => hp
  have l := h.listed fun _ _ hp => hp
  refine ⟨fun emission hu record hr => ?_, fun call hc record hr => ?_⟩
  · exact (f.vouched_of_effect s l hu (f.effect emission)).of_mem_recordsSince hr
  · exact .of_from ((Steady.call server hc).noted.of_mem_recordsSince hr) s l (by simp)

/-- Two windows come and are mapped, and the surface of the older one is destroyed. -/
def orphaned : List Emission :=
  [⟨⟨0x10⟩, .newInput, .newInput ⟨0x80⟩ .keyboard⟩,
    ⟨⟨0x20⟩, .newToplevel, .newToplevel ⟨0x50⟩ ⟨0x51⟩⟩, ⟨⟨0x51⟩, .map, .empty⟩,
    ⟨⟨0x20⟩, .newToplevel, .newToplevel ⟨0x60⟩ ⟨0x61⟩⟩, ⟨⟨0x61⟩, .map, .empty⟩,
    ⟨⟨0x51⟩, .destroy, .empty⟩]

/-- Then the toplevel is destroyed as well. -/
def parted : List Emission :=
  orphaned ++ [⟨⟨0x50⟩, .destroy, .empty⟩]

/-- After that the other window is configured without mention of either. -/
theorem passed_handles_alive_parted :
    ∃ server : Server Headless,
      (∃ record ∈ (server.dispatch ⟨0x61⟩ .commit (.commit true)).server.recordsSince server,
        ⟨0x60⟩ ∈ record.stored) ∧
      ∀ record ∈ (server.dispatch ⟨0x61⟩ .commit (.commit true)).server.recordsSince server,
        ⟨0x50⟩ ∉ record.stored ∧ ⟨0x51⟩ ∉ record.stored := by
  have hcourse := (Course.standard Census.Unnamed).emitAll parted (by decide +kernel)
  have hvouches := (passed_handles_alive hcourse).1 ⟨⟨0x61⟩, .commit, .commit true⟩
    (by decide +kernel)
  refine ⟨standard.emitAll parted, by decide +kernel, fun record hr => ⟨?_, ?_⟩⟩
  · exact (hvouches record hr).not_mem_stored (by decide +kernel) (by decide +kernel)
  · exact (hvouches record hr).not_mem_stored (by decide +kernel) (by decide +kernel)

/-- The accelerator is held, and a window's surface is gone. -/
def orphanedWindow : Server Headless :=
  let server := standard.emitAll orphaned
  { server with toolkit := { server.toolkit with modifiers := Modifiers.alt } }

/-- **The keyboard can enter a surface that is gone.** After a run of events that keep the promise,
one more event, which announces nothing, lets the server pass on a surface after its destruction. -/
theorem exists_gone_surface_entered :
    ∃ (server : Server Headless) (census : Census) (emission : Emission),
      Course Census.Unnamed server census ∧ census.Unnamed emission ∧
      census.arrival? emission = none ∧ ⟨0x51⟩ ∈ census.gone ∧
      ∃ record ∈ (server.dispatch emission.handle emission.signal
        emission.event).server.recordsSince server, ⟨0x51⟩ ∈ record.stored := by
  have hcourse := (Course.standard Census.Unnamed).emitAll orphaned (by decide +kernel)
  refine ⟨orphanedWindow, _, ⟨⟨0x80⟩, .key, .key 0 59 .pressed⟩, hcourse.toolkit _, ?_⟩
  decide +kernel

end Compositor.Server
