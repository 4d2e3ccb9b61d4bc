import Compositor.Proofs.Server.Census
import Compositor.Proofs.Server.Grabs

set_option autoImplicit false

/-!
# Holding a window

What a grab is worth: while it lasts its window has a record, so motion always finds what it drags.
A grab stays as it is until a moment that ends or replaces it, and the last such moment decides.
Whether its window is mapped is decided when the request is granted, which looks at the pointer
focus only.

## Main definitions

* `Server.Moment.pointed?` — where a moment applies the cursor's place.

## Main results

* `Server.recorded_of_grabbed` — motion finds the grabbed window.
* `Server.interaction_of_unfolds` — the last moment that decides about the grab determines it.
* `Server.mem_stack_of_grabbed` — the grabbed window is mapped if it was when the grab was granted.
* `Server.exists_grabbed_not_mem_stack` — it need not be.
-/

namespace Compositor

namespace Handler

variable {T : Type} [Toolkit T]

/-- The state in which a handler applies the cursor's place, if it does. -/
def pointed? (server : Server T) (event : Event) : Handler → Option (Server T)
  | .motion =>
    match event with
    | .pointerMotion device _ offset => some (server.perform (.moveCursor device offset))
    | _ => none
  | .motionAbsolute =>
    match event with
    | .pointerMotionAbsolute device _ place => some (server.perform (.warpCursor device place))
    | _ => none
  | _ => none

end Handler

namespace Server

variable {T : Type} [Toolkit T]

/-- The state in which a moment applies the cursor's place, if it does. -/
def Moment.pointed? (moment : Moment T) : Option (Server T) :=
  match moment.deed with
  | .callback event (.run handler) => handler.pointed? moment.server event
  | .call (.processMotion _) _ => some moment.server
  | _ => none

/-! ## Motion finds the grabbed window -/

namespace Moment

variable {moment : Moment T} {pointed : Server T}

/-- Before the cursor's place is applied, it is at most changed itself. -/
lemma onlyOutside_of_pointed? (h : moment.pointed? = some pointed) :
    OnlyOutside moment.server pointed := by
  obtain ⟨server, deed⟩ := moment
  cases deed with
  | dispatch handle signal event => cases h
  | callback event callback =>
    cases callback with
    | retire handle => cases h
    | run handler =>
      cases handler with
      | motion =>
        cases event with
        | pointerMotion device time offset =>
          cases h
          exact .perform server _
        | _ => cases h
      | motionAbsolute =>
        cases event with
        | pointerMotionAbsolute device time place =>
          cases h
          exact .perform server _
        | _ => cases h
      | _ => cases h
  | call call direct =>
    cases call with
    | processMotion time =>
      cases h
      exact .refl server
    | _ => cases h

/-- Where the cursor's place is applied, nothing is decided about the grab. -/
lemma keepsGrab_of_pointed? (h : moment.pointed? = some pointed) : moment.KeepsGrab := by
  obtain ⟨server, deed⟩ := moment
  cases deed with
  | dispatch handle signal event => cases h
  | callback event callback =>
    cases callback with
    | retire handle => cases h
    | run handler => cases handler <;> first | exact ⟨rfl, rfl⟩ | cases h
  | call call direct => cases call <;> first | exact ⟨rfl, rfl⟩ | cases h

/-- A moment that keeps the grab leaves that of its state. -/
lemma grabAfter_of_keepsGrab (h : moment.KeepsGrab) :
    moment.grabAfter = moment.server.interaction := by
  rw [grabAfter, h.1, h.2]
  rfl

end Moment

/-- **Grabs never dangle.** In every reachable state the grabbed window has a record. Wherever the
cursor's place is applied from there, the record is found, so the grab is driven and goes on.

**Proof sketch.** That the grabbed window has a record is an invariant of reachable states
(`Reachable.held`). Before the cursor's place is applied the cursor is at most moved
(`Moment.onlyOutside_of_pointed?`), and nothing is decided about the grab there. -/
theorem recorded_of_grabbed {server : Server T} {servings : List Serving}
    (h : Reachable server servings) :
    (∀ id, server.interaction.grabbed? = some id →
      ∃ window, server.windows.get? id = some window) ∧
    ∀ (deed : Deed) (pointed : Server T), Moment.pointed? ⟨server, deed⟩ = some pointed →
      (∀ id, pointed.interaction.grabbed? = some id →
        ∃ window, pointed.windows.get? id = some window) ∧
      (Moment.after ⟨server, deed⟩).interaction = server.interaction := by
  refine ⟨h.held, fun deed pointed hp => ⟨?_, ?_⟩⟩
  · exact h.held.onlyOutside (Moment.onlyOutside_of_pointed? hp)
  · have hafter := Moment.interaction_after ⟨server, deed⟩ h.held
    exact hafter.trans (Moment.grabAfter_of_keepsGrab (Moment.keepsGrab_of_pointed? hp))

/-- A window is announced and mapped on the headless toolkit, and the pointer is over it. -/
def underPointer : List (List Headless.Setting × Call) :=
  [([.window ⟨0x50⟩ ⟨0x51⟩ none none none],
      .emit ⟨0x20⟩ .newToplevel (.newToplevel ⟨0x50⟩ ⟨0x51⟩)),
    ([.pointerFocus (some ⟨0x51⟩)], .emit ⟨0x51⟩ .map .empty)]

/-- The client asks for the window to be moved. -/
def moveRequest : List Headless.Setting × Call :=
  ([], .emit ⟨0x50⟩ .requestMove (.requestMove 7))

/-- What calls in turn lead to from the start of the headless toolkit is reachable. -/
lemma reachable_enact (script : List (List Headless.Setting × Call)) :
    Reachable (standard.enact script).2 [] :=
  (Unfolds.refl.enact script).reachable (.create create_standard)

/-- A window is moved. -/
theorem recorded_of_grabbed_moved :
    let server := (standard.enact (underPointer ++ [moveRequest])).2
    server.interaction.grabbed? = some ⟨1⟩ ∧
      (∃ window, server.windows.get? ⟨1⟩ = some window) ∧
        (Moment.after ⟨server, .call (.processMotion 8) rfl⟩).interaction = server.interaction := by
  intro server
  have hgrabbed : server.interaction.grabbed? = some ⟨1⟩ := by decide +kernel
  have hrecorded := recorded_of_grabbed (reachable_enact (underPointer ++ [moveRequest]))
  exact ⟨hgrabbed, hrecorded.1 _ hgrabbed, (hrecorded.2 (.call (.processMotion 8) rfl) _ rfl).2⟩

/-! ## The last moment that decides -/

namespace Moment

variable {moment : Moment T} {id : WindowId}

/-- A moment that ends the grab grants none. -/
lemma endsGrab_eq_false_of_granted? {grab : Interaction} (h : moment.granted? = some grab) :
    moment.endsGrab = false := by
  obtain ⟨server, deed⟩ := moment
  cases deed with
  | dispatch handle signal event => rfl
  | callback event callback =>
    cases callback with
    | retire handle => rfl
    | run handler => cases handler <;> first | rfl | cases h
  | call call direct => cases call <;> first | rfl | cases h

/-- A moment keeps the grab, ends it or grants another one. -/
lemma grab_cases (moment : Moment T) :
    moment.KeepsGrab ∨ moment.endsGrab = true ∨ ∃ grab, moment.granted? = some grab := by
  cases he : moment.endsGrab with
  | true => exact .inr (.inl rfl)
  | false =>
    cases hg : moment.granted? with
    | none => exact .inl ⟨he, hg⟩
    | some grab => exact .inr (.inr ⟨grab, rfl⟩)

/-- A moment that ends the grab leaves none. -/
lemma grabAfter_of_endsGrab (h : moment.endsGrab = true) : moment.grabAfter = .passThrough :=
  if_pos h

/-- A moment that grants a grab leaves the granted one. -/
lemma grabAfter_of_granted? {grab : Interaction} (h : moment.granted? = some grab) :
    moment.grabAfter = grab := by
  rw [grabAfter, endsGrab_eq_false_of_granted? h, h]
  rfl

/-- A window that is not withdrawn is mapped after a moment if it was or if the moment maps it. -/
lemma mem_stack_after {window : Window} (o : Orderly moment.server)
    (hw : moment.server.windows.get? id = some window) (hs : moment.withdraws id = false) :
    id ∈ moment.after.windows.stack ↔
      id ∈ moment.server.windows.stack ∨ moment.maps id = true := by
  have hf := WindowTable.face?_of_get? hw
  rw [(moment.orderly_after o).agrees.mem_stack_iff_face?, moment.face?_after o hf hs,
    o.agrees.mem_stack_iff_face?, hf]
  simp

end Moment

namespace Unfolds

variable {start server : Server T} {outer servings : List Serving} {moments : List (Moment T)}

/-- While nothing is decided about the grab it stays the same, and its window is mapped if it was or
if it has been mapped since. -/
lemma kept (h : Unfolds start outer moments server servings) (o : Orderly start)
    (hh : Held start) (hk : ∀ moment ∈ moments, moment.KeepsGrab) :
    server.interaction = start.interaction ∧
      ∀ id, start.interaction.grabbed? = some id →
        (id ∈ server.windows.stack ↔
          id ∈ start.windows.stack ∨ ∃ moment ∈ moments, moment.maps id = true) := by
  revert hk
  refine h.moment_induction (motive := fun moments server =>
    (∀ moment ∈ moments, moment.KeepsGrab) → server.interaction = start.interaction ∧
      ∀ id, start.interaction.grabbed? = some id →
        (id ∈ server.windows.stack ↔
          id ∈ start.windows.stack ∨ ∃ moment ∈ moments, moment.maps id = true))
    (fun _ => ⟨rfl, fun id _ => by simp⟩) (fun _ _ _ hbefore => hbefore) ?_
  intro before moment left hu hbefore hk
  obtain ⟨hord, hheld⟩ := hu.orderly_and_held o hh
  have hkeeps : moment.KeepsGrab := hk moment (by simp)
  obtain ⟨hsame, hstack⟩ := hbefore fun other ho => hk other (by simp [ho])
  refine ⟨?_, fun id hg => ?_⟩
  · rw [moment.interaction_after hheld, Moment.grabAfter_of_keepsGrab hkeeps, hsame]
  · rw [← hsame] at hg
    obtain ⟨window, hw⟩ := hheld id hg
    have hs : moment.withdraws id = false := Moment.withdraws_eq_false hg hkeeps.1
    rw [Moment.mem_stack_after hord hw hs, hstack id (by rwa [← hsame])]
    simp [or_assoc]

/-- If nothing is decided after a moment, the grab is as the moment left it. -/
lemma interaction_of_last {earlier later : List (Moment T)} {moment : Moment T}
    (h : Unfolds start outer moments server servings) (o : Orderly start) (hh : Held start)
    (hm : moments = earlier ++ moment :: later) (hk : ∀ other ∈ later, other.KeepsGrab) :
    server.interaction = moment.grabAfter := by
  obtain ⟨left, right, hearlier, hlater⟩ := h.cut hm
  obtain ⟨hord, hheld⟩ := hearlier.orderly_and_held o hh
  rw [(hlater.kept (moment.orderly_after hord) (moment.held_after hord hheld) hk).1]
  exact moment.interaction_after hheld

/-- From no grab to a grab it takes a moment that grants it, after which nothing is decided. -/
lemma exists_grant (h : Unfolds start outer moments server servings) (o : Orderly start)
    (hh : Held start) (hs : start.interaction = .passThrough)
    (hg : server.interaction ≠ .passThrough) :
    ∃ earlier grant later, moments = earlier ++ grant :: later ∧
      grant.granted? = some server.interaction ∧ ∀ moment ∈ later, moment.KeepsGrab := by
  revert hg
  refine h.moment_induction (motive := fun moments server => server.interaction ≠ .passThrough →
    ∃ (earlier : List (Moment T)) (grant : Moment T) (later : List (Moment T)),
      moments = earlier ++ grant :: later ∧ grant.granted? = some server.interaction ∧
        ∀ moment ∈ later, moment.KeepsGrab)
    (fun hne => absurd hs hne) (fun _ _ _ hbefore => hbefore) ?_
  intro before moment left hu hbefore hne
  obtain ⟨hord, hheld⟩ := hu.orderly_and_held o hh
  rw [moment.interaction_after hheld] at hne ⊢
  obtain hkeeps | hends | ⟨grab, hgrab⟩ := moment.grab_cases
  · rw [Moment.grabAfter_of_keepsGrab hkeeps] at hne ⊢
    obtain ⟨earlier, grant, later, rfl, hgrant, hlater⟩ := hbefore hne
    refine ⟨earlier, grant, later ++ [moment], by simp, hgrant, fun other ho => ?_⟩
    obtain ho | rfl := List.mem_append.1 ho |>.imp_right List.mem_singleton.1
    · exact hlater other ho
    · exact hkeeps
  · exact absurd (Moment.grabAfter_of_endsGrab hends) hne
  · rw [Moment.grabAfter_of_granted? hgrab]
    exact ⟨before, moment, [], rfl, hgrab, by simp⟩

end Unfolds

/-- **A grab changes only where it may.** A call from a reachable state unfolds into its moments. In
whatever unfolds from there, be it a call alone or with other calls in between, the last moment that
decides about the grab determines what is left: nothing after a button of the cursor was released,
the grabbed window was unmapped or destroyed or everything was taken down, and the granted grab
after a request was granted. Where no moment decides, the grab is left with all its fields; and from
no grab to a grab it takes a granted request.

**Proof sketch.** Each moment leaves the grab as it decides (`Moment.interaction_after`), so after
the last one that decides the grab stays (`Unfolds.kept`). That it takes a grant to get from no grab
to a grab is shown by induction on the moments (`Unfolds.exists_grant`). -/
theorem interaction_of_unfolds {server : Server T} {servings : List Serving}
    (h : Reachable server servings) :
    (∀ call, Unfolds server servings (server.moments call) (server.call call).server servings) ∧
    ∀ (moments : List (Moment T)) (after : Server T) (left : List Serving),
      Unfolds server servings moments after left →
      ((∀ moment ∈ moments, moment.KeepsGrab) → after.interaction = server.interaction) ∧
      (∀ earlier moment later, moments = earlier ++ moment :: later →
        (∀ other ∈ later, other.KeepsGrab) →
        (moment.endsGrab = true → after.interaction = .passThrough) ∧
        ∀ grab, moment.granted? = some grab → after.interaction = grab) ∧
      (server.interaction = .passThrough → after.interaction ≠ .passThrough →
        ∃ moment ∈ moments, moment.granted? = some after.interaction) := by
  refine ⟨fun call => Unfolds.refl.call call, fun moments after left hu => ⟨?_, ?_, ?_⟩⟩
  · intro hk
    exact (hu.kept h.orderly h.held hk).1
  · intro earlier moment later hm hk
    have hlast := hu.interaction_of_last h.orderly h.held hm hk
    refine ⟨fun hends => ?_, fun grab hgrab => ?_⟩
    · rw [hlast, Moment.grabAfter_of_endsGrab hends]
    · rw [hlast, Moment.grabAfter_of_granted? hgrab]
  · intro hs hg
    obtain ⟨earlier, grant, later, rfl, hgrant, -⟩ := hu.exists_grant h.orderly h.held hs hg
    exact ⟨grant, by simp, hgrant⟩

/-- A button of the cursor is released while a window is moved. -/
theorem interaction_of_unfolds_released :
    let server := (standard.enact (underPointer ++ [moveRequest])).2
    let release := Call.emit ⟨0x30⟩ .button (.pointerButton 9 272 .released)
    server.interaction.grabbed? = some ⟨1⟩ ∧
      (server.call release).server.interaction = .passThrough := by
  intro server release
  have hgrabbed : server.interaction.grabbed? = some ⟨1⟩ := by decide +kernel
  have hends : (server.moments release).getLast?.any Moment.endsGrab = true := by decide +kernel
  obtain ⟨last, hlast, hends⟩ := (Option.any_eq_true _ _).1 hends
  obtain ⟨earlier, hm⟩ := List.getLast?_eq_some_iff.1 hlast
  have hchanges := interaction_of_unfolds (reachable_enact (underPointer ++ [moveRequest]))
  have hdecided := (hchanges.2 _ _ _ (hchanges.1 release)).2.1 earlier last [] hm
  exact ⟨hgrabbed, (hdecided (by simp)).1 hends⟩

/-! ## The window of a grab -/

/-- What a moment grants is a grab on a window that is mapped. -/
def Moment.GrantsMapped (moment : Moment T) : Prop :=
  ∀ grab id, moment.granted? = some grab → grab.grabbed? = some id →
    id ∈ moment.server.windows.stack

/-- **A grabbed window is mapped if requests are granted for mapped windows only.** In any case it
is mapped exactly if it was when the grab was granted, or if it has been mapped since.

**Proof sketch.** A server is created without a grab, so this one was granted by a moment after
which nothing was decided (`Unfolds.exists_grant`). The window had a record then, and while nothing
is decided it is mapped just if it was or if it has been mapped since (`Unfolds.kept`). -/
theorem mem_stack_of_grabbed {toolkit : T} {config : Config} {display : Option String}
    {start server : Server T} {moments : List (Moment T)} {servings : List Serving}
    {id : WindowId} (hc : create toolkit config display = .ok start)
    (h : Unfolds start [] moments server servings)
    (hg : server.interaction.grabbed? = some id) :
    ((∀ moment ∈ moments, moment.GrantsMapped) → id ∈ server.windows.stack) ∧
    ∃ earlier grant later, moments = earlier ++ grant :: later ∧
      grant.granted? = some server.interaction ∧ (∀ moment ∈ later, moment.KeepsGrab) ∧
        (id ∈ server.windows.stack ↔
          id ∈ grant.server.windows.stack ∨ ∃ moment ∈ later, moment.maps id = true) := by
  have o := orderly_of_create hc
  have hh := (Reachable.create hc).held
  have hne : server.interaction ≠ .passThrough := by
    intro he
    rw [he] at hg
    cases hg
  -- the grab is that of the last grant, and its window has been followed from there on
  obtain ⟨earlier, grant, later, hm, hgrant, hk⟩ :=
    h.exists_grant o hh (interaction_of_create hc) hne
  obtain ⟨left, right, hearlier, hlater⟩ := h.cut hm
  obtain ⟨hord, hheld⟩ := hearlier.orderly_and_held o hh
  obtain ⟨other, hother, ⟨window, hw⟩, hstill⟩ := Moment.granted?_eq_some hgrant
  obtain rfl : other = id := Option.some.inj (hother.symm.trans hg)
  have hafter : grant.after.interaction.grabbed? = some other := by
    rw [grant.interaction_after hheld, Moment.grabAfter_of_granted? hgrant, hg]
  have hstack : other ∈ server.windows.stack ↔
      other ∈ grant.server.windows.stack ∨ ∃ moment ∈ later, moment.maps other = true := by
    rw [(hlater.kept (grant.orderly_after hord) (grant.held_after hord hheld) hk).2 other hafter,
      Moment.mem_stack_after hord hw (hstill other).1, (hstill other).2]
    simp
  refine ⟨fun hmapped => ?_, earlier, grant, later, hm, hgrant, hk, hstack⟩
  exact hstack.2 (.inl (hmapped grant (by simp [hm]) _ other hgrant hg))

/-- A window is moved before it is mapped. -/
theorem mem_stack_of_grabbed_mapped_late :
    let script : List (List Headless.Setting × Call) :=
      [([.window ⟨0x50⟩ ⟨0x51⟩ none none none],
          .emit ⟨0x20⟩ .newToplevel (.newToplevel ⟨0x50⟩ ⟨0x51⟩)),
        ([.pointerFocus (some ⟨0x51⟩)], moveRequest.2), ([], .emit ⟨0x51⟩ .map .empty)]
    let server := (standard.enact script).2
    ∃ earlier grant later, (standard.enact script).1 = earlier ++ grant :: later ∧
      grant.granted? = some server.interaction ∧ (∀ moment ∈ later, moment.KeepsGrab) ∧
        (⟨1⟩ ∈ server.windows.stack ↔
          ⟨1⟩ ∈ grant.server.windows.stack ∨ ∃ moment ∈ later, moment.maps ⟨1⟩ = true) := by
  intro script server
  have hgrabbed : server.interaction.grabbed? = some ⟨1⟩ := by decide +kernel
  exact (mem_stack_of_grabbed create_standard (Unfolds.refl.enact script) hgrabbed).2

/-- **A grabbed window need not be mapped.** The window is unmapped, and its client asks for it to
be moved while the pointer focus is still on its surface. -/
theorem exists_grabbed_not_mem_stack : ∃ (server : Server Headless) (id : WindowId),
    Reachable server [] ∧ server.interaction.grabbed? = some id ∧ id ∉ server.windows.stack := by
  have hseen : let server :=
      (standard.enact (underPointer ++ [([], .emit ⟨0x51⟩ .unmap .empty), moveRequest])).2
    server.interaction.grabbed? = some ⟨1⟩ ∧ ⟨1⟩ ∉ server.windows.stack := by decide +kernel
  exact ⟨_, ⟨1⟩, reachable_enact _, hseen.1, hseen.2⟩

end Server

end Compositor
