import Compositor.Proofs.Server.Census

set_option autoImplicit false

/-!
# The objects that are there

What the promises of the toolkit make of a census. If no value is announced that a window goes by,
windows have surfaces of their own, and no other object gets in between a window and its surface. If
windows go before their surfaces, every window that is there has its surface, and every surface its
window.

## Main definitions

* `Server.Census.Separated` — objects are told apart by their values, and so are windows by their
  surfaces.
* `Server.Census.Paired` — windows and surfaces are there in pairs.

## Main results

* `Server.Course.separated`, `Server.Course.paired` — the promises have these effects.
-/

namespace Compositor.Server

/-! ## Announced windows -/

namespace Arrival

variable {arrival : Arrival} {id number : WindowId} {toplevel surface : Handle}

/-- A window is among announced objects if it is what was announced. -/
lemma toplevel_mem_residents_iff : ⟨toplevel, .toplevel id surface⟩ ∈ arrival.residents number ↔
    arrival = .toplevel toplevel surface ∧ id = number := by
  cases arrival with
  | device object kind => cases kind <;> simp [residents]
  | toplevel object root =>
    simp only [residents, List.mem_cons, List.not_mem_nil, or_false, Resident.mk.injEq,
      Role.toplevel.injEq, Arrival.toplevel.injEq, reduceCtorEq, and_false]
    constructor
    · rintro ⟨rfl, rfl, rfl⟩
      exact ⟨⟨rfl, rfl⟩, rfl⟩
    · rintro ⟨⟨rfl, rfl⟩, rfl⟩
      exact ⟨rfl, rfl, rfl⟩
  | _ => simp [residents]

/-- A surface is among announced objects if its window was announced. -/
lemma surface_mem_residents_iff : ⟨surface, .surface id⟩ ∈ arrival.residents number ↔
    ∃ toplevel, arrival = .toplevel toplevel surface ∧ id = number := by
  cases arrival with
  | device object kind => cases kind <;> simp [residents]
  | toplevel object root =>
    simp only [residents, List.mem_cons, List.not_mem_nil, or_false, Resident.mk.injEq,
      Role.surface.injEq, Arrival.toplevel.injEq, reduceCtorEq, and_false, false_or]
    constructor
    · rintro ⟨rfl, rfl⟩
      exact ⟨object, ⟨rfl, rfl⟩, rfl⟩
    · rintro ⟨_, ⟨_, rfl⟩, rfl⟩
      exact ⟨rfl, rfl⟩
  | _ => simp [residents]

/-- The root surface of an announced window is announced with it. -/
lemma surface_mem_handles (h : ⟨toplevel, .toplevel id surface⟩ ∈ arrival.residents number) :
    surface ∈ arrival.handles := by
  obtain ⟨rfl, -⟩ := toplevel_mem_residents_iff.1 h
  simp [handles]

end Arrival

namespace Census

variable {census : Census} {emission : Emission} {arrival : Arrival} {handle : Handle}

/-- Who is left after a destruction was there and is not released. -/
lemma mem_bury_iff {resident : Resident} : resident ∈ (census.bury handle).residents ↔
    resident ∈ census.residents ∧ resident.handle ∉ census.released handle := by
  simp [bury]

/-- A destroyed object is released, and so is the surface of a destroyed window. -/
lemma mem_released_iff {other : Handle} : other ∈ census.released handle ↔
    other = handle ∨ ∃ id, census.role? handle = some (.toplevel id other) := by
  unfold released
  split <;> rename_i hr
  · simp [hr, eq_comm]
  · simp only [List.mem_singleton, iff_self_or]
    rintro ⟨id, ht⟩
    exact absurd ht (hr id other)

/-! ## Windows with surfaces of their own -/

/-- Objects are told apart by their values, and windows by their surfaces, none of which another
object goes by. -/
structure Separated (census : Census) : Prop where
  /-- The objects have distinct values. -/
  distinct : (census.residents.map Resident.handle).Nodup
  /-- An object that is there is not gone. -/
  not_gone {resident : Resident} : resident ∈ census.residents → resident.handle ∉ census.gone
  /-- Only the surface of a window goes by its value. -/
  surface_eq {toplevel surface : Handle} {id : WindowId} {role : Role} :
    ⟨toplevel, .toplevel id surface⟩ ∈ census.residents → ⟨surface, role⟩ ∈ census.residents →
      role = .surface id
  /-- Windows do not share a surface. -/
  toplevel_eq {toplevel other surface : Handle} {id number : WindowId} :
    ⟨toplevel, .toplevel id surface⟩ ∈ census.residents →
      ⟨other, .toplevel number surface⟩ ∈ census.residents → toplevel = other

namespace Separated

/-- The global objects. -/
lemma initial {T : Type} [Toolkit T] {toolkit : T}
    (h : [Toolkit.backend toolkit, Toolkit.shell toolkit, Toolkit.cursor toolkit,
      Toolkit.seat toolkit].Nodup) : Separated (.initial toolkit) where
  distinct := nodup_initial h
  not_gone _ := List.not_mem_nil
  surface_eq hm := by simp [Census.initial] at hm
  toplevel_eq hm := by simp [Census.initial] at hm

/-- Windows stay separated by what is announced, if it has values that nobody goes by. -/
lemma receive (s : Separated census) (hu : census.Unnamed emission)
    (ha : census.arrival? emission = some arrival) : Separated (census.receive arrival) := by
  obtain ⟨hfresh, hunnamed⟩ := hu
  obtain ⟨hnodup, hfree⟩ := hfresh arrival ha
  have hnamed {toplevel surface : Handle} {id : WindowId}
      (hm : ⟨toplevel, .toplevel id surface⟩ ∈ census.residents) : surface ∉ arrival.handles :=
    fun hs => hunnamed arrival ha surface hs _ hm rfl
  have hthere {resident : Resident} (hm : resident ∈ census.residents) :
      resident.handle ∉ arrival.handles :=
    fun hh => Census.role?_eq_none_iff.1 (hfree _ hh) resident hm rfl
  exact {
    distinct := nodup_receive s.distinct hnodup hfree
    not_gone := fun {resident} hm hg => by
      obtain ⟨hold, hkept⟩ := List.mem_filter.1 hg
      have hunannounced : resident.handle ∉ arrival.handles := of_decide_eq_true hkept
      rcases List.mem_append.1 hm with hm | hm
      · exact s.not_gone hm hold
      · exact hunannounced (Arrival.handle_mem_of_mem_residents hm)
    -- if only one of the two is new, its value was not in use, and no window went by it
    surface_eq := fun {toplevel surface id role} ht hr => by
      rcases List.mem_append.1 ht with hold | hnew <;>
        rcases List.mem_append.1 hr with holdRole | hnewRole
      · exact s.surface_eq hold holdRole
      · exact absurd (Arrival.handle_mem_of_mem_residents hnewRole) (hnamed hold)
      · exact absurd (Arrival.surface_mem_handles hnew) (hthere holdRole)
      · obtain ⟨rfl, rfl⟩ := Arrival.toplevel_mem_residents_iff.1 hnew
        have hne : toplevel ≠ surface := by simpa [Arrival.handles] using hnodup
        simpa [Arrival.residents, hne.symm] using hnewRole
    toplevel_eq := fun {toplevel other surface id number} ht ho => by
      rcases List.mem_append.1 ht with hold | hnew <;>
        rcases List.mem_append.1 ho with holdOther | hnewOther
      · exact s.toplevel_eq hold holdOther
      · exact absurd (Arrival.surface_mem_handles hnewOther) (hnamed hold)
      · exact absurd (Arrival.surface_mem_handles hnew) (hnamed holdOther)
      · obtain ⟨rfl, -⟩ := Arrival.toplevel_mem_residents_iff.1 hnew
        obtain ⟨he, -⟩ := Arrival.toplevel_mem_residents_iff.1 hnewOther
        exact (Arrival.toplevel.inj he).1 }

/-- Windows stay separated when an object goes. -/
lemma bury (s : Separated census) (handle : Handle) : Separated (census.bury handle) where
  distinct := (List.filter_sublist.map _).nodup s.distinct
  not_gone hm hg := by
    obtain ⟨hold, hkept⟩ := mem_bury_iff.1 hm
    rcases List.mem_cons.1 hg with he | hg
    · exact hkept (mem_released_iff.2 (.inl he))
    · exact s.not_gone hold hg
  surface_eq ht hr := s.surface_eq (mem_bury_iff.1 ht).1 (mem_bury_iff.1 hr).1
  toplevel_eq ht ho := s.toplevel_eq (mem_bury_iff.1 ht).1 (mem_bury_iff.1 ho).1

/-- An event that keeps the promise. -/
lemma after (s : Separated census) (hu : census.Unnamed emission) :
    Separated (census.after emission) := by
  unfold Census.after
  split <;> rename_i ha
  · exact s.receive hu ha
  · split
    · exact s.bury _
    · exact s

/-- After the end nobody is there. -/
lemma close (census : Census) : Separated census.close where
  distinct := List.nodup_nil
  not_gone hm := nomatch hm
  surface_eq hm := nomatch hm
  toplevel_eq hm := nomatch hm

end Separated

/-! ## Windows and surfaces in pairs -/

/-- A window is there if and only if its surface is. -/
structure Paired (census : Census) : Prop where
  /-- A window has its surface. -/
  surface_mem {toplevel surface : Handle} {id : WindowId} :
    ⟨toplevel, .toplevel id surface⟩ ∈ census.residents →
      ⟨surface, .surface id⟩ ∈ census.residents
  /-- A surface has its window. -/
  exists_toplevel {surface : Handle} {id : WindowId} :
    ⟨surface, .surface id⟩ ∈ census.residents →
      ∃ toplevel, ⟨toplevel, .toplevel id surface⟩ ∈ census.residents

namespace Paired

/-- None of the global objects is either. -/
lemma initial {T : Type} [Toolkit T] (toolkit : T) : Paired (.initial toolkit) where
  surface_mem hm := by simp [Census.initial] at hm
  exists_toplevel hm := by simp [Census.initial] at hm

/-- A window is announced together with its surface. -/
lemma receive (p : Paired census) (arrival : Arrival) : Paired (census.receive arrival) where
  surface_mem {toplevel surface id} ht := by
    rcases List.mem_append.1 ht with hold | hnew
    · exact List.mem_append_left _ (p.surface_mem hold)
    · obtain ⟨rfl, hid⟩ := Arrival.toplevel_mem_residents_iff.1 hnew
      exact List.mem_append_right _ (Arrival.surface_mem_residents_iff.2 ⟨toplevel, rfl, hid⟩)
  exists_toplevel {surface id} hs := by
    rcases List.mem_append.1 hs with hold | hnew
    · exact (p.exists_toplevel hold).imp fun _ ht => List.mem_append_left _ ht
    · obtain ⟨toplevel, rfl, hid⟩ := Arrival.surface_mem_residents_iff.1 hnew
      exact ⟨toplevel, List.mem_append_right _ (Arrival.toplevel_mem_residents_iff.2 ⟨rfl, hid⟩)⟩

/-- A window takes its surface along; any other object that departs has nothing to do with windows.

**Proof sketch.** If a window goes, no other window has its surface, and the window of no other
surface goes with it, since objects are told apart by their values. -/
lemma bury (p : Paired census) (s : Separated census)
    (hdeparts : ∀ role ∈ census.role? handle, role.departs = true) :
    Paired (census.bury handle) where
  surface_mem {toplevel surface id} ht := by
    obtain ⟨hold, hkept⟩ := mem_bury_iff.1 ht
    have hsurface := p.surface_mem hold
    refine mem_bury_iff.2 ⟨hsurface, fun hreleased => ?_⟩
    rcases mem_released_iff.1 hreleased with rfl | ⟨number, hr⟩
    -- surfaces do not depart by themselves
    · cases hdeparts _ (role?_of_mem s.distinct hsurface)
    · obtain rfl : toplevel = handle := s.toplevel_eq hold (mem_of_role? hr)
      exact hkept (mem_released_iff.2 (.inl rfl))
  exists_toplevel {surface id} hs := by
    obtain ⟨hold, hkept⟩ := mem_bury_iff.1 hs
    obtain ⟨toplevel, ht⟩ := p.exists_toplevel hold
    refine ⟨toplevel, mem_bury_iff.2 ⟨ht, fun hreleased => ?_⟩⟩
    rcases mem_released_iff.1 hreleased with rfl | ⟨number, hr⟩
    · exact hkept (mem_released_iff.2 (.inr ⟨id, role?_of_mem s.distinct ht⟩))
    · cases s.surface_eq (mem_of_role? hr) ht

/-- An event that keeps the promise. -/
lemma after (p : Paired census) (s : Separated census) (ho : census.InOrder emission) :
    Paired (census.after emission) := by
  unfold Census.after
  split
  · exact p.receive _
  · split <;> rename_i hs
    · exact p.bury s (ho.2 hs)
    · exact p

/-- After the end there are neither windows nor surfaces. -/
lemma close (census : Census) : Paired census.close where
  surface_mem hm := nomatch hm
  exists_toplevel hm := nomatch hm

end Paired

end Census

/-! ## The effects of the promises -/

section Promises

variable {T : Type} [Toolkit T] {promise : Census → Emission → Prop} {server : Server T}
  {census : Census}

/-- Windows have surfaces of their own if no value is announced that a window goes by. -/
theorem Course.separated (hp : ∀ census emission, promise census emission → census.Unnamed emission)
    (h : Course promise server census) : census.Separated := by
  induction h with
  | create _ _ hd => exact .initial hd
  | emit emission _ hpromise ih => exact ih.after (hp _ _ hpromise)
  | call _ _ ih => exact ih
  | toolkit _ _ ih => exact ih
  | shutdown _ _ => exact .close _

/-- Windows and surfaces are there in pairs if windows go before their surfaces. -/
theorem Course.paired (hp : ∀ census emission, promise census emission → census.InOrder emission)
    (h : Course promise server census) : census.Paired := by
  induction h with
  | create => exact .initial _
  | emit emission hcourse hpromise ih =>
    exact ih.after (hcourse.separated fun census emission hk => (hp census emission hk).1)
      (hp _ _ hpromise)
  | call _ _ ih => exact ih
  | toolkit _ _ ih => exact ih
  | shutdown _ _ => exact .close _

end Promises

end Compositor.Server
