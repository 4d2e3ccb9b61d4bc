import Compositor.Proofs.Server.Faults
import Compositor.Proofs.Server.ScenePlaces
import Compositor.Proofs.Server.Unmoved

set_option autoImplicit false

/-!
# Dragging a window

A grab remembers where it began, and each motion places the window from there, not from where the
motion before has left it. So all that matters of a drag is where it stops. Whatever happens on the
way, be it more motions, keys, or windows that come and go, two drags that stop with the cursor at
the same place leave the window at the same place, and no other window is ever moved.

## Main definitions

* `Record.size?` — the size that an entry of the journal asks a toplevel for.
* `Interaction.place?`, `Interaction.size?` — what a grab makes of the cursor's place.
* `Server.Dragged` — a window has been dragged to a place.
* `Server.Grips` — a grab is active whose window has given objects.
* `Server.Drags` — a run that keeps the grab and has no fault.

## Main results

* `Server.exists_dragged_processMotion` — motion puts the grabbed window where the cursor wants it.
* `Server.Unfolds.grab_induction` — what moments keep while a grab goes on is kept.
* `Server.Unfolds.exists_dragged` — in the end it is where the last motion has put it.
* `Server.eq_of_drags` — drags that stop at the same place come to the same.
-/

namespace Compositor

/-! ## What the journal says -/

/-- The size that an entry of the journal asks a toplevel for. -/
def Record.size? (toplevel : Handle) : Record → Option (UInt32 × UInt32)
  | command (.setToplevelSize other width height) =>
    if other = toplevel then some (width, height) else none
  | _ => none

/-- An idle entry places no node. -/
lemma Record.place?_of_isIdle {record : Record} (h : record.isIdle = true) (node : Handle) :
    record.place? node = none := by
  unfold place?
  split
  · cases h
  · rfl

/-- An idle entry asks for no size. -/
lemma Record.size?_of_isIdle {record : Record} (h : record.isIdle = true) (toplevel : Handle) :
    record.size? toplevel = none := by
  unfold size?
  split
  · cases h
  · rfl

/-! ## What a grab makes of the cursor's place -/

namespace Interaction

/-- Where a grab puts its window for a place of the cursor and a geometry of the toplevel, if it is
in range. -/
def place? (cursor : Point Float) (geometry : Box) : Interaction → Option (Point Coordinate)
  | passThrough => none
  | move grab => some (grab.target cursor)
  | resize grab => (Server.originOf (grab.target cursor) geometry).toOption

/-- The size that a grab asks for, for a place of the cursor. -/
def size? (cursor : Point Float) : Interaction → Option (UInt32 × UInt32)
  | resize grab => some ((grab.target cursor).width.toUInt32, (grab.target cursor).height.toUInt32)
  | _ => none

end Interaction

namespace Server

variable {T : Type}

/-- Entries that say nothing about something do not change what was said last. -/
lemma Noted.findSome?_eq {α : Type} {before after : Server T} {property : Record → Prop}
    {read : Record → Option α} (h : Noted property before after)
    (hr : ∀ record, property record → read record = none) :
    after.journal.findSome? read = before.journal.findSome? read := by
  obtain ⟨records, hj, hp⟩ := h
  rw [hj, List.findSome?_append, List.findSome?_eq_none_iff.2 fun record hm => hr _ (hp _ hm)]
  rfl

variable [Toolkit T]

/-! ## One motion -/

/-- A window has been dragged to a place, in its record and on the screen. If it is resized, a size
was asked for last. -/
structure Dragged (server : Server T) (id : WindowId) (toplevel scene : Handle)
    (place : Point Coordinate) (size : Option (UInt32 × UInt32)) : Prop where
  /-- The record, with its objects. -/
  record : ∃ window, server.windows.get? id = some window ∧ window.toplevel = toplevel ∧
    window.scene = scene ∧ window.position = place
  /-- Where the node was put last. -/
  node : server.journal.findSome? (Record.place? scene) = some place
  /-- The size that was asked for last. -/
  size {wanted : UInt32 × UInt32} : size = some wanted →
    server.journal.findSome? (Record.size? toplevel) = some wanted

omit [Toolkit T] in
/-- A changed record has the old number, so that other windows stay where they are. -/
lemma PositionsKept.update (server : Server T) (id : WindowId) (change : Window → Window) :
    PositionsKept (· = id) server { server with windows := server.windows.update id change } where
  nextWindow_le := Nat.le_refl _
  kept {other window} hne _ hw := by
    have hother : (server.windows.update id change).get? other = server.windows.get? other := by
      rw [WindowTable.get?_update, if_neg hne]
    exact ⟨window, hother ▸ hw, rfl⟩

/-- The record of a placed window has the new place. -/
lemma get?_placeWindow {server : Server T} {id : WindowId} {window : Window}
    (hw : server.windows.get? id = some window) (scene : Handle) (position : Point Coordinate) :
    (server.placeWindow id scene position).windows.get? id = some { window with position } := by
  have hupdated := WindowTable.get?_update server.windows id
    (fun found => { found with position }) id
  rwa [if_pos rfl, hw] at hupdated

/-- The node of a placed window was put where its record is. -/
lemma findSome?_place?_placeWindow (server : Server T) (id : WindowId) (scene : Handle)
    (position : Point Coordinate) :
    (server.placeWindow id scene position).journal.findSome? (Record.place? scene) =
      some position := by
  have hj : (server.placeWindow id scene position).journal =
    .command (.setScenePosition scene position) :: server.journal := rfl
  rw [hj, List.findSome?_cons]
  simp [Record.place?]

/-- Placing a window moves no other one. -/
lemma PositionsKept.placeWindow (server : Server T) (id : WindowId) (scene : Handle)
    (position : Point Coordinate) :
    PositionsKept (· = id) server (server.placeWindow id scene position) :=
  (PositionsKept.update server id _).trans (.of_eq rfl rfl)

section Motion

variable {server : Server T} {id : WindowId} {window : Window}

/-- A move puts its window where the cursor wants it, and asks for no size. -/
lemma dragged_processMove {grab : MoveGrab} (hw : server.windows.get? grab.window = some window) :
    Dragged (server.processMove grab) grab.window window.toplevel window.scene
      (grab.target (Toolkit.cursorPosition server.toolkit)) none := by
  unfold processMove
  rw [hw]
  exact ⟨⟨_, get?_placeWindow hw _ _, rfl, rfl, rfl⟩, findSome?_place?_placeWindow _ _ _ _,
    fun hs => nomatch hs⟩

/-- A resize puts its window where the cursor wants it, and asks for the size of the box. -/
lemma dragged_processResize {grab : ResizeGrab} {position : Point Coordinate}
    (hw : server.windows.get? grab.window = some window)
    (ho : originOf (grab.target (Toolkit.cursorPosition server.toolkit))
      (Toolkit.toplevelGeometry server.toolkit window.toplevel) = .ok position) :
    Dragged (server.processResize grab).server grab.window window.toplevel window.scene position
      ((Interaction.resize grab).size? (Toolkit.cursorPosition server.toolkit)) := by
  unfold processResize
  rw [hw]
  dsimp only
  rw [ho]
  -- the size is asked for after the node was placed
  refine ⟨⟨_, get?_placeWindow hw window.scene position, rfl, rfl, rfl⟩,
    findSome?_place?_placeWindow server grab.window window.scene position, fun hs => ?_⟩
  cases hs
  simp [finish, perform, note, Record.size?]

/-- **Motion puts the grabbed window where the cursor wants it**, whatever its place was before. -/
theorem exists_dragged_processMotion (hg : server.interaction.grabbed? = some id)
    (hw : server.windows.get? id = some window) (time : UInt32)
    (hf : ¬ (server.processMotion time).Faults) :
    ∃ place, server.interaction.place? (Toolkit.cursorPosition server.toolkit)
        (Toolkit.toplevelGeometry server.toolkit window.toplevel) = some place ∧
      Dragged (server.processMotion time).server id window.toplevel window.scene place
        (server.interaction.size? (Toolkit.cursorPosition server.toolkit)) := by
  unfold Server.processMotion at hf ⊢
  cases hi : server.interaction with
  | passThrough => simp [hi, Interaction.grabbed?] at hg
  | move grab =>
    obtain rfl : grab.window = id := by simpa [hi, Interaction.grabbed?] using hg
    exact ⟨_, rfl, dragged_processMove hw⟩
  | resize grab =>
    obtain rfl : grab.window = id := by simpa [hi, Interaction.grabbed?] using hg
    rw [hi] at hf
    -- out of range there would be a fault
    cases ho : originOf (grab.target (Toolkit.cursorPosition server.toolkit))
        (Toolkit.toplevelGeometry server.toolkit window.toplevel) with
    | error cause =>
      refine absurd ?_ hf
      simp [processResize, hw, ho, faults_fail]
    | ok position => exact ⟨position, congrArg Except.toOption ho, dragged_processResize hw ho⟩

/-- Motion moves no window but the grabbed one. -/
lemma PositionsKept.processMotion (hg : server.interaction.grabbed? = some id) (time : UInt32) :
    PositionsKept (· = id) server (server.processMotion time).server := by
  unfold Server.processMotion
  cases hi : server.interaction with
  | passThrough => simp [hi, Interaction.grabbed?] at hg
  | move grab =>
    obtain rfl : grab.window = id := by simpa [hi, Interaction.grabbed?] using hg
    dsimp only
    unfold processMove
    split
    · exact .of_eq rfl rfl
    · exact .placeWindow _ _ _ _
  | resize grab =>
    obtain rfl : grab.window = id := by simpa [hi, Interaction.grabbed?] using hg
    dsimp only
    unfold processResize
    split
    · exact .of_eq rfl rfl
    · dsimp only
      split
      · exact .refl server
      · rename_i window _ _ position _
        exact (PositionsKept.placeWindow server _ window.scene position).trans (.of_eq rfl rfl)

end Motion

/-! ## One moment -/

/-- A moment at which the cursor's place is applied is motion, from where the cursor has got to. -/
lemma Moment.exists_processMotion {moment : Moment T} {pointed : Server T}
    (h : moment.pointed? = some pointed) : ∃ time,
      moment.after = (pointed.processMotion time).server ∧
        (moment.Faults ↔ (pointed.processMotion time).Faults) := by
  obtain ⟨server, deed⟩ := moment
  cases deed with
  | dispatch handle signal event => cases h
  | callback event callback =>
    cases callback with
    | retire handle => cases h
    | run handler =>
      cases handler with
      | motion =>
        cases event with
        | pointerMotion device time offset =>
          cases h
          exact ⟨time, rfl, Iff.rfl⟩
        | _ => cases h
      | motionAbsolute =>
        cases event with
        | pointerMotionAbsolute device time place =>
          cases h
          exact ⟨time, rfl, Iff.rfl⟩
        | _ => cases h
      | _ => cases h
  | call call direct =>
    cases call with
    | processMotion time =>
      cases h
      exact ⟨time, rfl, faults_map_iff.trans faults_map_iff⟩
    | _ => cases h

omit [Toolkit T] in
/-- A window that was not moved is where it was dragged to. -/
lemma Dragged.unmoved {before after : Server T} {id : WindowId} {window : Window}
    {toplevel scene : Handle} {place : Point Coordinate} {size : Option (UInt32 × UInt32)}
    (h : Dragged before id toplevel scene place size) (o : Orderly before)
    (hu : Unmoved before after) (hw : after.windows.get? id = some window)
    (ht : window.toplevel = toplevel) (hs : window.scene = scene) :
    Dragged after id toplevel scene place size := by
  obtain ⟨old, ho, -, -, hplace⟩ := h.record
  refine ⟨⟨window, hw, ht, hs, (hu.position_eq o not_false ho hw).trans hplace⟩, ?_, fun hz => ?_⟩
  · rw [hu.noted.findSome?_eq fun _ hi => Record.place?_of_isIdle hi _]
    exact h.node
  · rw [hu.noted.findSome?_eq fun _ hi => Record.size?_of_isIdle hi _]
    exact h.size hz

/-! ## Going on with a grab -/

/-- A given grab is active, and its window has a record with given objects. -/
structure Grips (server : Server T) (grab : Interaction) (id : WindowId)
    (toplevel scene : Handle) : Prop where
  /-- The windows are in order. -/
  orderly : Orderly server
  /-- Grabbed windows have records. -/
  held : Held server
  /-- The grab. -/
  interaction_eq : server.interaction = grab
  /-- Its window. -/
  grabbed : grab.grabbed? = some id
  /-- The record. -/
  record : ∃ window, server.windows.get? id = some window ∧ window.toplevel = toplevel ∧
    window.scene = scene

namespace Grips

variable {grab : Interaction} {id : WindowId} {toplevel scene : Handle} {moment : Moment T}

/-- A moment that neither ends nor replaces the grab goes on with it. -/
lemma after (g : Grips moment.server grab id toplevel scene) (hk : moment.KeepsGrab) :
    Grips moment.after grab id toplevel scene where
  orderly := moment.orderly_after g.orderly
  held := moment.held_after g.orderly g.held
  interaction_eq := by
    rw [moment.interaction_after g.held, Moment.grabAfter_of_keepsGrab hk, g.interaction_eq]
  grabbed := g.grabbed
  record := by
    obtain ⟨window, hw, ht, hs⟩ := g.record
    have hgrabbed : moment.server.interaction.grabbed? = some id := by
      rw [g.interaction_eq, g.grabbed]
    obtain ⟨found, hfound, hface⟩ := WindowTable.exists_of_face?
      (moment.face?_after g.orderly (WindowTable.face?_of_get? hw)
        (Moment.withdraws_eq_false hgrabbed hk.1))
    exact ⟨found, hfound, (congrArg Face.toplevel hface).trans ht,
      (congrArg Face.scene hface).trans hs⟩

/-- Such a moment moves no window but the grabbed one. -/
lemma positionsKept (g : Grips moment.server grab id toplevel scene) (hk : moment.KeepsGrab) :
    PositionsKept (· = id) moment.server moment.after := by
  cases hp : moment.pointed? with
  | none => exact (moment.unmoved hp hk.1).toPositionsKept.mono fun _ hf => hf.elim
  | some pointed =>
    obtain ⟨time, hafter, -⟩ := Moment.exists_processMotion hp
    have ho := Moment.onlyOutside_of_pointed? hp
    have hgrabbed : pointed.interaction.grabbed? = some id := by
      rw [ho.interaction_eq, g.interaction_eq, g.grabbed]
    rw [hafter]
    exact (PositionsKept.of_eq ho.nextWindow_eq ho.windows_eq).trans (.processMotion hgrabbed time)

/-- If the moment is motion, it puts the window where the cursor wants it. -/
lemma exists_dragged (g : Grips moment.server grab id toplevel scene) {pointed : Server T}
    (hp : moment.pointed? = some pointed) (hf : ¬ moment.Faults) :
    ∃ place, grab.place? (Toolkit.cursorPosition pointed.toolkit)
        (Toolkit.toplevelGeometry pointed.toolkit toplevel) = some place ∧
      Dragged moment.after id toplevel scene place
        (grab.size? (Toolkit.cursorPosition pointed.toolkit)) := by
  obtain ⟨time, hafter, hfaults⟩ := Moment.exists_processMotion hp
  have ho := Moment.onlyOutside_of_pointed? hp
  obtain ⟨window, hw, rfl, rfl⟩ := g.record
  rw [hafter, ← g.interaction_eq, ← ho.interaction_eq]
  refine exists_dragged_processMotion ?_ (by rw [ho.windows_eq, hw]) time (mt hfaults.2 hf)
  rw [ho.interaction_eq, g.interaction_eq, g.grabbed]

/-- If it is not, the window stays where it was dragged to. -/
lemma dragged (g : Grips moment.server grab id toplevel scene) (hk : moment.KeepsGrab)
    (hp : moment.pointed? = none) {place : Point Coordinate} {size : Option (UInt32 × UInt32)}
    (hd : Dragged moment.server id toplevel scene place size) :
    Dragged moment.after id toplevel scene place size := by
  obtain ⟨window, hw, ht, hs⟩ := (g.after hk).record
  exact hd.unmoved g.orderly (moment.unmoved hp hk.1) hw ht hs

end Grips

/-! ## Drags -/

/-- The state in which the last motion of a run applies the cursor's place. -/
def lastPointed? (moments : List (Moment T)) : Option (Server T) :=
  (moments.filterMap Moment.pointed?).getLast?

/-- A run that neither ends nor replaces the grab and has no fault. Its last motion finds the cursor
as in `pointed`. -/
structure Drags (start : Server T) (outer : List Serving) (moments : List (Moment T))
    (pointed server : Server T) : Prop where
  /-- It starts and ends as it should. -/
  unfolds : ∃ servings, Unfolds start outer moments server servings
  /-- The grab goes on. -/
  keeps : ∀ moment ∈ moments, moment.KeepsGrab
  /-- There is no fault. -/
  sound : ∀ moment ∈ moments, ¬ moment.Faults
  /-- Where the cursor has got to. -/
  last : lastPointed? moments = some pointed

/-- The last motion of a longer run is its last moment, if that is a motion. -/
lemma lastPointed?_append (moments : List (Moment T)) (moment : Moment T) :
    lastPointed? (moments ++ [moment]) = moment.pointed?.or (lastPointed? moments) := by
  unfold lastPointed?
  rw [List.filterMap_append, List.getLast?_append]
  cases hp : moment.pointed? <;> simp [hp]

namespace Unfolds

variable {start server : Server T} {outer servings : List Serving} {moments : List (Moment T)}
  {grab : Interaction} {id : WindowId} {toplevel scene : Handle}

/-- A run that neither ends nor replaces the grab goes on with it, and what each of its moments
keeps while the grab goes on is kept. -/
lemma grab_induction {motive : List (Moment T) → Server T → Prop}
    (h : Unfolds start outer moments server servings) (g : Grips start grab id toplevel scene)
    (hk : ∀ moment ∈ moments, moment.KeepsGrab) (refl : motive [] start)
    (toolkit : ∀ moments server toolkit, motive moments server →
      motive moments { server with toolkit := toolkit })
    (moment : ∀ moments moment, Grips moment.server grab id toplevel scene → moment.KeepsGrab →
      motive moments moment.server → motive (moments ++ [moment]) moment.after) :
    Grips server grab id toplevel scene ∧ motive moments server := by
  revert hk
  refine h.moment_induction (motive := fun moments server =>
    (∀ moment ∈ moments, moment.KeepsGrab) →
      Grips server grab id toplevel scene ∧ motive moments server) (fun _ => ⟨g, refl⟩) ?_ ?_
  · intro moments server other hbefore hk
    obtain ⟨hgrip, hmotive⟩ := hbefore hk
    exact ⟨⟨hgrip.orderly.congr rfl rfl, hgrip.held, hgrip.interaction_eq, hgrip.grabbed,
      hgrip.record⟩, toolkit _ _ other hmotive⟩
  · intro earlier now _ _ hbefore hk
    obtain ⟨hgrip, hmotive⟩ := hbefore fun other hm => hk other (by simp [hm])
    have hkeeps : now.KeepsGrab := hk now (by simp)
    exact ⟨hgrip.after hkeeps, moment _ _ hgrip hkeeps hmotive⟩

/-- While a grab goes on, all windows but the grabbed one are where they were. -/
lemma positionsKept (h : Unfolds start outer moments server servings)
    (g : Grips start grab id toplevel scene) (hk : ∀ moment ∈ moments, moment.KeepsGrab) :
    PositionsKept (· = id) start server ∧
      ∀ moment ∈ moments, PositionsKept (· = id) moment.server moment.after := by
  refine (h.grab_induction (motive := fun moments server => PositionsKept (· = id) start server ∧
    ∀ moment ∈ moments, PositionsKept (· = id) moment.server moment.after) g hk
    ⟨.refl start, by simp⟩ (fun _ _ _ hbefore => ⟨hbefore.1.trans (.of_eq rfl rfl), hbefore.2⟩)
    ?_).2
  intro earlier now hgrip hkeeps hbefore
  have hnow := hgrip.positionsKept hkeeps
  refine ⟨hbefore.1.trans hnow, fun other hm => ?_⟩
  obtain hm | hm := List.mem_append.1 hm
  · exact hbefore.2 other hm
  · rwa [List.mem_singleton.1 hm]

/-- The last motion has put the grabbed window where the cursor wants it. -/
lemma exists_dragged (h : Unfolds start outer moments server servings)
    (g : Grips start grab id toplevel scene) (hk : ∀ moment ∈ moments, moment.KeepsGrab)
    (hs : ∀ moment ∈ moments, ¬ moment.Faults) {pointed : Server T}
    (hp : lastPointed? moments = some pointed) :
    ∃ place, grab.place? (Toolkit.cursorPosition pointed.toolkit)
        (Toolkit.toplevelGeometry pointed.toolkit toplevel) = some place ∧
      Dragged server id toplevel scene place
        (grab.size? (Toolkit.cursorPosition pointed.toolkit)) := by
  refine (h.grab_induction (motive := fun moments server => (∀ moment ∈ moments, ¬ moment.Faults) →
    lastPointed? moments = some pointed →
      ∃ place, grab.place? (Toolkit.cursorPosition pointed.toolkit)
          (Toolkit.toplevelGeometry pointed.toolkit toplevel) = some place ∧
        Dragged server id toplevel scene place
          (grab.size? (Toolkit.cursorPosition pointed.toolkit)))
    g hk (fun _ hp => nomatch hp) ?_ ?_).2 hs hp
  · intro _ _ _ hbefore hs hp
    obtain ⟨place, hplace, hdragged⟩ := hbefore hs hp
    exact ⟨place, hplace, hdragged.record, hdragged.node, hdragged.size⟩
  · intro earlier now hgrip hkeeps hbefore hs hp
    rw [lastPointed?_append] at hp
    cases hpn : now.pointed? with
    | none =>
      -- the last motion came before
      rw [hpn, Option.none_or] at hp
      obtain ⟨place, hplace, hdragged⟩ := hbefore (fun other hm => hs other (by simp [hm])) hp
      exact ⟨place, hplace, hgrip.dragged hkeeps hpn hdragged⟩
    | some other =>
      rw [hpn, Option.some_or] at hp
      cases hp
      exact hgrip.exists_dragged hpn (hs now (by simp))

end Unfolds

/-- **Drags that stop at the same place come to the same.** Two runs start in the same reachable
state, in which a window is grabbed, and neither ends nor replaces the grab nor has a fault. If the
last motions of the two find the cursor at the same place, and in a resize also the same geometry of
the toplevel, then the window ends up at the same place in both, its node was put there last, and in
a resize the same size was asked for last. The grab is what it was, and no other window was moved on
the way.

**Proof sketch.** The grab stays the same all along, and so do the objects of its window. Motion
places the window by the grab, the cursor and the geometry alone, and what is not motion moves no
window. So the last motion decides, and as far as it matters it is the same in both runs. -/
theorem eq_of_drags {start first second firstPointed secondPointed : Server T}
    {outer : List Serving} {firstMoments secondMoments : List (Moment T)} {id : WindowId}
    (h : Reachable start outer) (hg : start.interaction.grabbed? = some id)
    (hfirst : Drags start outer firstMoments firstPointed first)
    (hsecond : Drags start outer secondMoments secondPointed second)
    (hc : Toolkit.cursorPosition firstPointed.toolkit =
      Toolkit.cursorPosition secondPointed.toolkit)
    (hb : ∀ grab window, start.interaction = .resize grab → start.windows.get? id = some window →
      Toolkit.toplevelGeometry firstPointed.toolkit window.toplevel =
        Toolkit.toplevelGeometry secondPointed.toolkit window.toplevel) :
    (∃ window place size, start.windows.get? id = some window ∧
      (size.isSome = true ↔ ∃ grab, start.interaction = .resize grab) ∧
      first.Dragged id window.toplevel window.scene place size ∧
      second.Dragged id window.toplevel window.scene place size) ∧
    (first.interaction = start.interaction ∧ second.interaction = start.interaction) ∧
    (PositionsKept (· = id) start first ∧ PositionsKept (· = id) start second) ∧
    ∀ moment ∈ firstMoments ++ secondMoments,
      PositionsKept (· = id) moment.server moment.after := by
  obtain ⟨servings, hu⟩ := hfirst.unfolds
  obtain ⟨servings', hu'⟩ := hsecond.unfolds
  obtain ⟨window, hw⟩ := h.held id hg
  have g : Grips start start.interaction id window.toplevel window.scene :=
    ⟨h.orderly, h.held, rfl, hg, window, hw, rfl, rfl⟩
  obtain ⟨hkept, hmoments⟩ := hu.positionsKept g hfirst.keeps
  obtain ⟨hkept', hmoments'⟩ := hu'.positionsKept g hsecond.keeps
  refine ⟨?_, ⟨(hu.kept h.orderly h.held hfirst.keeps).1,
    (hu'.kept h.orderly h.held hsecond.keeps).1⟩, ⟨hkept, hkept'⟩, fun moment hm =>
      (List.mem_append.1 hm).elim (hmoments moment) (hmoments' moment)⟩
  obtain ⟨place, hplace, hdragged⟩ :=
    hu.exists_dragged g hfirst.keeps hfirst.sound hfirst.last
  obtain ⟨place', hplace', hdragged'⟩ :=
    hu'.exists_dragged g hsecond.keeps hsecond.sound hsecond.last
  -- the last motions make the same of the grab
  have hsame : place' = place := by
    have hequal : start.interaction.place? (Toolkit.cursorPosition firstPointed.toolkit)
        (Toolkit.toplevelGeometry firstPointed.toolkit window.toplevel) =
          start.interaction.place? (Toolkit.cursorPosition secondPointed.toolkit)
            (Toolkit.toplevelGeometry secondPointed.toolkit window.toplevel) := by
      rw [hc]
      cases hi : start.interaction with
      | passThrough => rfl
      | move grab => rfl
      | resize grab => rw [hb grab window hi hw]
    rw [hplace, hplace'] at hequal
    exact (Option.some.inj hequal).symm
  rw [hsame, ← hc] at hdragged'
  refine ⟨window, place, _, hw, ?_, hdragged, hdragged'⟩
  cases start.interaction <;> simp [Interaction.size?]

/-- A call may end by a fault or not. -/
instance (moment : Moment T) : Decidable moment.Faults :=
  match hr : moment.outcome.result with
  | .ok () => isFalse fun ⟨_, hf⟩ => nomatch hr.symm.trans hf
  | .error fault => isTrue ⟨fault, hr⟩

/-- Calls in turn make a drag if they leave the grab alone and none has a fault. -/
lemma Drags.of_enact {start pointed : Server Headless}
    {script : List (List Headless.Setting × Call)}
    (h : ∀ moment ∈ (start.enact script).1, moment.KeepsGrab ∧ ¬ moment.Faults)
    (hp : lastPointed? (start.enact script).1 = some pointed) :
    Drags start [] (start.enact script).1 pointed (start.enact script).2 where
  unfolds := ⟨[], Unfolds.refl.enact script⟩
  keeps moment hm := (h moment hm).1
  sound moment hm := (h moment hm).2
  last := hp

/-- A window is resized by its left edge, once straight away, and once by a detour on which another
window appears and takes the focus. -/
theorem eq_of_drags_detour :
    let start := (standard.enact leftEdgeDragged).2
    let straight := start.enact [([], leftMotion 30)]
    let detour := start.enact [([], leftMotion 500),
      ([.window ⟨0x70⟩ ⟨0x71⟩ none none none],
        .emit ⟨0x20⟩ .newToplevel (.newToplevel ⟨0x70⟩ ⟨0x71⟩)),
      ([], .emit ⟨0x71⟩ .map .empty), ([], leftMotion (-470))]
    straight.2.windows.stack ≠ detour.2.windows.stack ∧ ∃ window place size,
      start.windows.get? ⟨1⟩ = some window ∧
        straight.2.Dragged ⟨1⟩ window.toplevel window.scene place (some size) ∧
          detour.2.Dragged ⟨1⟩ window.toplevel window.scene place (some size) := by
  intro start straight detour
  have hgrabbed : start.interaction.grabbed? = some ⟨1⟩ := by decide +kernel
  have hresize : (start.interaction.size? ⟨0, 0⟩).isSome = true := by decide +kernel
  have hquiet : (∀ moment ∈ straight.1, moment.KeepsGrab ∧ ¬ moment.Faults) ∧
    ∀ moment ∈ detour.1, moment.KeepsGrab ∧ ¬ moment.Faults := by decide +kernel
  have hmoved : (lastPointed? straight.1).isSome ∧ (lastPointed? detour.1).isSome := by
    decide +kernel
  have hstop : (lastPointed? straight.1).map (Toolkit.cursorPosition ∘ toolkit) =
    (lastPointed? detour.1).map (Toolkit.cursorPosition ∘ toolkit) := by decide +kernel
  have htoplevel : (start.windows.get? ⟨1⟩).map Window.toplevel = some ⟨0x50⟩ := by decide +kernel
  have hbox : (lastPointed? straight.1).map (fun pointed =>
      Toolkit.toplevelGeometry pointed.toolkit ⟨0x50⟩) =
    (lastPointed? detour.1).map fun pointed =>
      Toolkit.toplevelGeometry pointed.toolkit ⟨0x50⟩ := by decide +kernel
  have hstacks : straight.2.windows.stack ≠ detour.2.windows.stack := by decide +kernel
  obtain ⟨one, hone⟩ := Option.isSome_iff_exists.1 hmoved.1
  obtain ⟨other, hother⟩ := Option.isSome_iff_exists.1 hmoved.2
  rw [hone, hother] at hstop hbox
  obtain ⟨⟨window, place, size, hw, hsize, hstraight, hdetour⟩, -⟩ :=
    eq_of_drags (reachable_enact leftEdgeDragged) hgrabbed (.of_enact hquiet.1 hone)
      (.of_enact hquiet.2 hother) (Option.some.inj hstop) fun grab window _ hw => by
        rw [hw] at htoplevel
        rw [Option.some.inj htoplevel]
        exact Option.some.inj hbox
  obtain ⟨wanted, rfl⟩ := Option.isSome_iff_exists.1 (hsize.2 (by
    cases hi : start.interaction with
    | resize grab => exact ⟨grab, rfl⟩
    | _ => simp [hi, Interaction.size?] at hresize))
  exact ⟨hstacks, window, place, wanted, hw, hstraight, hdetour⟩

end Server

end Compositor
