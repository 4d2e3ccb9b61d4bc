import Compositor.Proofs.Server.Focusing
import Compositor.Proofs.Server.Moments

set_option autoImplicit false

/-!
# The grab

A grab names its window by number, and the record of the window may go by another way. This module
says what each moment does to the grab, and what becomes of the record under a given number. Both
are said once for all handlers and calls. It follows that a grabbed window always has a record.

## Main definitions

* `Server.grant?` — the grab that a request is granted.
* `Server.Moment.endsGrab`, `Server.Moment.granted?` — the moments that decide about the grab.
* `Server.Moment.withdraws`, `Server.Moment.maps` — the moments that decide about a window.
* `Server.Held` — a grabbed window has a record.

## Main results

* `Server.Moment.interaction_after` — the grab after a moment.
* `Server.Moment.face?_after` — a window after a moment that does not withdraw it.
* `Server.Unfolds.orderly_and_held`, `Server.Reachable.held` — grabbed windows have records all
  along.
-/

namespace Compositor

/-! ## The moments that decide -/

namespace Server

variable {T : Type} [Toolkit T]

/-- The grab that a request for a window is granted, if it is. -/
def grant? (server : Server T) (id : WindowId) (mode : GrabMode) (edges : Edges) :
    Option Interaction :=
  match server.grabFor? id mode edges with
  | .ok grab => grab
  | .error _ => none

end Server

namespace Handler

variable {T : Type} [Toolkit T]

/-- Whether a handler ends the grab: a button of the cursor is released, or the grabbed window is
unmapped or destroyed. -/
def endsGrab (interaction : Interaction) (event : Event) : Handler → Bool
  | .button =>
    match event with
    | .pointerButton _ _ .released => true
    | _ => false
  | .unmap id => interaction.grabbed? = some id
  | .toplevelDestroyed id => interaction.grabbed? = some id
  | _ => false

/-- The grab that a handler grants. -/
def granted? (server : Server T) (event : Event) : Handler → Option Interaction
  | .requestMove id => server.grant? id .move FlagSet.none
  | .requestResize id =>
    match event with
    | .requestResize _ edges => server.grant? id .resize edges
    | _ => none
  | _ => none

/-- Whether a handler unmaps or destroys a window. -/
def withdraws (id : WindowId) : Handler → Bool
  | .unmap other => other = id
  | .toplevelDestroyed other => other = id
  | _ => false

/-- Whether a handler maps a window. -/
def maps (id : WindowId) : Handler → Bool
  | .map other => other = id
  | _ => false

end Handler

namespace Server

variable {T : Type} [Toolkit T]

namespace Moment

/-- Whether a moment ends the grab: a button of the cursor is released, the grabbed window is
unmapped or destroyed, or everything is taken down. -/
def endsGrab (moment : Moment T) : Bool :=
  match moment.deed with
  | .callback event (.run handler) => handler.endsGrab moment.server.interaction event
  | .call .shutdown _ => true
  | _ => false

/-- The grab that a moment grants. -/
def granted? (moment : Moment T) : Option Interaction :=
  match moment.deed with
  | .callback event (.run handler) => handler.granted? moment.server event
  | .call (.beginInteractive id mode edges) _ => moment.server.grant? id mode edges
  | _ => none

/-- Whether a moment withdraws a window: it is unmapped or destroyed, or everything is taken
down. -/
def withdraws (moment : Moment T) (id : WindowId) : Bool :=
  match moment.deed with
  | .callback _ (.run handler) => handler.withdraws id
  | .call .shutdown _ => true
  | _ => false

/-- Whether a moment maps a window. -/
def maps (moment : Moment T) (id : WindowId) : Bool :=
  match moment.deed with
  | .callback _ (.run handler) => handler.maps id
  | _ => false

/-- Whether a moment leaves the grab as it is. -/
def KeepsGrab (moment : Moment T) : Prop :=
  moment.endsGrab = false ∧ moment.granted? = none

instance (moment : Moment T) : Decidable moment.KeepsGrab :=
  inferInstanceAs (Decidable (_ ∧ _))

/-- What a moment should make of the grab. -/
def grabAfter (moment : Moment T) : Interaction :=
  if moment.endsGrab then .passThrough else moment.granted?.getD moment.server.interaction

end Moment

/-- A grabbed window has a record. -/
def Held (server : Server T) : Prop :=
  ∀ id, server.interaction.grabbed? = some id → ∃ window, server.windows.get? id = some window

/-! ## The grab after a moment -/

section Interaction

variable (server : Server T)

/-- Focusing a window does not change the grab. -/
lemma interaction_focusWindow (id : WindowId) (surface : Handle) :
    (server.focusWindow id surface).interaction = server.interaction := by
  unfold focusWindow
  dsimp only
  split
  · rfl
  · split
    · rfl
    · rename_i window _
      exact (OnlyOutside.deactivatePrevious server (Toolkit.keyboardFocus server.toolkit)
        window.toplevel).interaction_eq

/-- Cycling the focus does not change the grab. -/
lemma interaction_cycleFocus : server.cycleFocus.interaction = server.interaction := by
  unfold cycleFocus
  split
  · rfl
  · split
    · rfl
    · exact interaction_focusWindow server _ _

/-- Mapping a window does not change the grab. -/
lemma interaction_handleMap (id : WindowId) :
    (server.handleMap id).interaction = server.interaction := by
  unfold handleMap
  split
  · rfl
  · exact interaction_focusWindow _ _ _

/-- A commit does not change the grab. -/
lemma interaction_handleCommit (id : WindowId) (initial : Bool) :
    (server.handleCommit id initial).interaction = server.interaction := by
  unfold handleCommit
  split
  · rfl
  · cases initial <;> rfl

/-- A new output does not change the grab. -/
lemma interaction_handleNewOutput (output : Handle) :
    (server.handleNewOutput output).interaction = server.interaction :=
  (OnlyOutside.listenAll _ (outputWiring output)).interaction_eq

/-- A new device does not change the grab. -/
lemma interaction_handleNewInput (device : Handle) (kind : DeviceKind) :
    (server.handleNewInput device kind).interaction = server.interaction := by
  cases kind with
  | keyboard => exact (OnlyOutside.listenAll _ (keyboardWiring device)).interaction_eq
  | _ => rfl

/-- A new toplevel does not change the grab. -/
lemma interaction_handleNewToplevel (toplevel surface : Handle) :
    (server.handleNewToplevel toplevel surface).interaction = server.interaction := by
  let created := ((server.revive toplevel).revive surface).createToplevelScene toplevel
  let added := created.2.addWindow toplevel surface created.1
  exact (OnlyOutside.listenAll added.2 (toplevelWiring added.1 toplevel surface)).interaction_eq

/-- A destroyed window releases its own grab, whether or not it had a record. -/
lemma interaction_handleToplevelDestroyed_eq (id : WindowId) :
    (server.handleToplevelDestroyed id).interaction = server.interaction.release id := by
  unfold handleToplevelDestroyed
  dsimp only
  split
  · rfl
  · exact (OnlyOutside.unregisterAll _ _).interaction_eq

/-- A release ends the grab, and a press leaves it. -/
lemma interaction_handleButton (time button : UInt32) (state : Press) :
    (server.handleButton time button state).interaction =
      if state = .released then .passThrough else server.interaction := by
  cases state with
  | released => rfl
  | pressed =>
    unfold handleButton focusUnderCursor
    dsimp only
    split
    · rfl
    · split
      · rfl
      · exact interaction_focusWindow _ _ _

/-- A key does not change the grab, whatever it is bound to. -/
lemma interaction_handleKey (device : Handle) (time keycode : UInt32) (state : Press) :
    (server.handleKey device time keycode state).interaction = server.interaction := by
  unfold handleKey
  split
  · rename_i action _
    cases action with
    | terminate => rfl
    | cycleFocus => exact interaction_cycleFocus server
  · rfl

/-- A request changes the grab just if it is granted. -/
lemma interaction_beginInteractive (id : WindowId) (mode : GrabMode) (edges : Edges) :
    (server.beginInteractive id mode edges).server.interaction =
      (server.grant? id mode edges).getD server.interaction := by
  unfold beginInteractive grant?
  cases server.grabFor? id mode edges with
  | error cause => rfl
  | ok grab => cases grab <;> rfl

/-- A start does not change the grab. -/
lemma interaction_start (host : Host) :
    (server.start host).server.interaction = server.interaction := by
  obtain ⟨asked, rfl | rfl, socket, running, display, hstart⟩ := server.start_server host <;>
    rw [hstart] <;> rfl

end Interaction

/-- Motion drives a grab and does not end it, since the grabbed window has a record. -/
lemma Held.interaction_processMotion {server : Server T} (h : Held server) (time : UInt32) :
    (server.processMotion time).server.interaction = server.interaction := by
  unfold processMotion
  split <;> rename_i hi
  · obtain ⟨window, hw⟩ := h _ (congrArg Interaction.grabbed? hi)
    unfold processMove
    rw [hw]
    rfl
  · obtain ⟨window, hw⟩ := h _ (congrArg Interaction.grabbed? hi)
    unfold processResize
    rw [hw]
    dsimp only
    split
    · rfl
    · rfl
  · exact (OnlyOutside.processPassThrough server time).interaction_eq

omit [Toolkit T] in
/-- What happens outside does not take the record of a grabbed window. -/
lemma Held.onlyOutside {before after : Server T} (h : Held before) (ho : OnlyOutside before after) :
    Held after := by
  unfold Held
  rw [ho.interaction_eq, ho.windows_eq]
  exact h

namespace Moment

/-- If the released window is the grabbed one, its grab ends. -/
lemma release_eq (interaction : Interaction) (id : WindowId) :
    interaction.release id =
      if (decide (interaction.grabbed? = some id)) = true then .passThrough else interaction := by
  unfold Interaction.release
  simp

/-- The grab after a handler. -/
lemma interaction_run {server : Server T} (h : Held server) (handler : Handler) (event : Event) :
    (handler.run event server).server.interaction =
      grabAfter ⟨server, .callback event (.run handler)⟩ := by
  -- motion is applied after the cursor has been changed
  have hmoved (command : Command) : Held (server.perform command) :=
    h.onlyOutside (.perform server command)
  cases handler with
  | newOutput => cases event <;> first | rfl | exact interaction_handleNewOutput server _
  | newInput => cases event <;> first | rfl | exact interaction_handleNewInput server _ _
  | newToplevel => cases event <;> first | rfl | exact interaction_handleNewToplevel server _ _
  | newPopup =>
    cases event <;> first | rfl | exact (OnlyOutside.handleNewPopup server _ _).interaction_eq
  | motion =>
    cases event <;> first | rfl | exact (hmoved (.moveCursor _ _)).interaction_processMotion _
  | motionAbsolute =>
    cases event <;> first | rfl | exact (hmoved (.warpCursor _ _)).interaction_processMotion _
  | button =>
    cases event with
    | pointerButton time button state =>
      exact (interaction_handleButton server time button state).trans (by cases state <;> rfl)
    | _ => rfl
  | axis => cases event <;> rfl
  | requestSetCursor =>
    cases event <;>
      first | rfl | exact (OnlyOutside.handleSetCursorRequest server _ _ _).interaction_eq
  | map id => exact interaction_handleMap server id
  | unmap id => exact release_eq server.interaction id
  | commit id => cases event <;> first | rfl | exact interaction_handleCommit server id _
  | toplevelDestroyed id =>
    exact (interaction_handleToplevelDestroyed_eq server id).trans
      (release_eq server.interaction id)
  | requestMove id => exact interaction_beginInteractive server id .move FlagSet.none
  | requestResize id =>
    cases event <;> first | rfl | exact interaction_beginInteractive server id .resize _
  | popupCommit popup =>
    cases event with
    | commit initial => cases initial <;> rfl
    | _ => rfl
  | requestState output => cases event <;> rfl
  | key device => cases event <;> first | rfl | exact interaction_handleKey server device _ _ _
  | _ => rfl

/-- **The grab after a moment**: none if the moment ends it, the one that it grants, or else the
grab of before with all its fields. -/
theorem interaction_after (moment : Moment T) (h : Held moment.server) :
    moment.after.interaction = moment.grabAfter := by
  obtain ⟨server, deed⟩ := moment
  cases deed with
  | dispatch handle signal event => rfl
  | callback event callback =>
    cases callback with
    | retire handle => exact (OnlyOutside.retire server handle).interaction_eq
    | run handler => exact interaction_run h handler event
  | call call direct =>
    cases call with
    | start host => exact interaction_start server host
    | shutdown => exact (OnlyOutside.disconnectAll _ server.registry.clear.1).interaction_eq
    | cycleFocus => exact interaction_cycleFocus server
    | focusWindow id surface => exact interaction_focusWindow server id surface
    | beginInteractive id mode edges => exact interaction_beginInteractive server id mode edges
    | processMotion time => exact h.interaction_processMotion time
    | observe handle signal label =>
      exact (OnlyOutside.register server handle signal _).interaction_eq
    | track handle signal => exact (OnlyOutside.register server handle signal _).interaction_eq
    | unregisterAll handle => exact (OnlyOutside.unregisterAll server handle).interaction_eq
    | unsubscribe id => exact (OnlyOutside.unsubscribe server id).interaction_eq
    | terminate => rfl
    | revive handle => rfl
    | _ => cases direct

/-! ## A window after a moment -/

section Face

variable {server : Server T} {id : WindowId} {face : Face}

/-- Cycling the focus does not change how a window looks. -/
lemma face?_cycleFocus (server : Server T) (id : WindowId) :
    server.cycleFocus.windows.face? id = server.windows.face? id := by
  rw [WindowTable.face?, get?_cycleFocus, WindowTable.face?]

/-- A button gives the focus at most, and does not change how a window looks. -/
lemma face?_handleButton (server : Server T) (time button : UInt32) (state : Press)
    (id : WindowId) :
    (server.handleButton time button state).windows.face? id = server.windows.face? id := by
  cases state with
  | released => rfl
  | pressed =>
    unfold handleButton focusUnderCursor
    dsimp only
    split
    · rfl
    · split
      · rfl
      · exact face?_focusWindow _ _ _ id

/-- A key does not change how a window looks, whatever it is bound to. -/
lemma face?_handleKey (server : Server T) (device : Handle) (time keycode : UInt32) (state : Press)
    (id : WindowId) :
    (server.handleKey device time keycode state).windows.face? id = server.windows.face? id := by
  unfold handleKey
  split
  · rename_i action _
    cases action with
    | terminate => rfl
    | cycleFocus => exact face?_cycleFocus server id
  · rfl

/-- A new window does not change how the others look, since its number is new. -/
lemma face?_handleNewToplevel (o : Orderly server) (hf : server.windows.face? id = some face)
    (toplevel surface : Handle) :
    (server.handleNewToplevel toplevel surface).windows.face? id = some face := by
  obtain ⟨window, hwindows, hid, -⟩ := exists_windows_handleNewToplevel server toplevel surface
  obtain ⟨old, hold, -⟩ := WindowTable.exists_of_face? hf
  have hne : id ≠ window.id := by
    rintro rfl
    have hlt := o.lt_nextWindow hold
    rw [hid] at hlt
    exact Nat.lt_irrefl _ hlt
  rw [hwindows, WindowTable.face?_insert, if_neg hne, hf]

/-- A window after a handler that does not withdraw it. -/
lemma face?_run (o : Orderly server) (hf : server.windows.face? id = some face) (handler : Handler)
    (event : Event) (hs : handler.withdraws id = false) :
    (handler.run event server).server.windows.face? id =
      some { face with mapped := face.mapped || handler.maps id } := by
  have hsame (hm : handler.maps id = false) {after : Server T}
      (ha : after.windows.face? id = server.windows.face? id) :
      after.windows.face? id = some { face with mapped := face.mapped || handler.maps id } := by
    rw [ha, hf, hm, Bool.or_false]
  -- a still handler changes nothing of this, and the others are taken one by one
  by_cases hstill : handler.isStill = true
  · refine hsame ?_ ((Still.run server hstill event).alike.face?_eq id)
    cases handler <;> first | rfl | cases hstill
  · cases handler with
    | newToplevel =>
      cases event with
      | newToplevel toplevel surface =>
        exact hsame rfl ((face?_handleNewToplevel o hf toplevel surface).trans hf.symm)
      | _ => exact hsame rfl rfl
    | newPopup =>
      cases event with
      | newPopup popup parent =>
        have hwindows := (OnlyOutside.handleNewPopup server popup parent).windows_eq
        exact hsame rfl (congrArg (fun table => WindowTable.face? table id) hwindows)
      | _ => exact hsame rfl rfl
    | button =>
      cases event with
      | pointerButton time button state =>
        exact hsame rfl (face?_handleButton server time button state id)
      | _ => exact hsame rfl rfl
    | map other =>
      refine (face?_handleMap server other id).trans ?_
      by_cases ho : id = other
      · subst ho
        simp [hf, Handler.maps]
      · simp [ho, Ne.symm ho, hf, Handler.maps]
    | unmap other =>
      have ho : id ≠ other := fun he => of_decide_eq_false hs he.symm
      exact hsame rfl ((face?_handleUnmap server other id).trans (if_neg ho))
    | toplevelDestroyed other =>
      have ho : id ≠ other := fun he => of_decide_eq_false hs he.symm
      refine hsame rfl ?_
      have hwindows : ((Handler.toplevelDestroyed other).run event server).server.windows =
        server.windows.destroy other := windows_handleToplevelDestroyed_eq server other
      rw [hwindows, WindowTable.face?_destroy, if_neg ho]
    | key device =>
      cases event with
      | key time keycode state =>
        exact hsame rfl (face?_handleKey server device time keycode state id)
      | _ => exact hsame rfl rfl
    | _ => exact absurd rfl hstill

/-- **A window after a moment that does not withdraw it**: it is still there with the same objects,
and it is mapped if it was or if the moment maps it. -/
theorem face?_after (moment : Moment T) (o : Orderly moment.server)
    (hf : moment.server.windows.face? id = some face) (hs : moment.withdraws id = false) :
    moment.after.windows.face? id =
      some { face with mapped := face.mapped || moment.maps id } := by
  obtain ⟨server, deed⟩ := moment
  have hsame {after : Server T} (ha : after.windows.face? id = server.windows.face? id) :
      after.windows.face? id = some { face with mapped := face.mapped || false } := by
    rw [ha, Bool.or_false]
    exact hf
  have hout {after : Server T} (ho : OnlyOutside server after) :
      after.windows.face? id = some { face with mapped := face.mapped || false } :=
    hsame (congrArg (fun table => WindowTable.face? table id) ho.windows_eq)
  cases deed with
  | dispatch handle signal event => exact hsame rfl
  | callback event callback =>
    cases callback with
    | retire handle => exact hout (.retire server handle)
    | run handler => exact face?_run o hf handler event hs
  | call call direct =>
    cases call with
    | start host => exact hsame ((Still.start server host).alike.face?_eq id)
    | terminate => exact hsame rfl
    | shutdown => cases hs
    | cycleFocus => exact hsame (face?_cycleFocus server id)
    | focusWindow other surface => exact hsame (face?_focusWindow server other surface id)
    | beginInteractive other mode edges =>
      exact hsame ((Still.beginInteractive server other mode edges).alike.face?_eq id)
    | processMotion time => exact hsame ((Still.processMotion server time).alike.face?_eq id)
    | observe handle signal label => exact hout (.register server handle signal _)
    | track handle signal => exact hout (.register server handle signal _)
    | unregisterAll handle => exact hout (.unregisterAll server handle)
    | unsubscribe other => exact hout (.unsubscribe server other)
    | revive handle => exact hout (.revive server handle)
    | _ => cases direct

end Face

end Moment

/-! ## A grabbed window has a record -/

/-- A request is granted for a window that has a record, and the grab is on this window. -/
lemma grant?_eq_some {server : Server T} {id : WindowId} {mode : GrabMode} {edges : Edges}
    {grab : Interaction} (h : server.grant? id mode edges = some grab) :
    grab.grabbed? = some id ∧ ∃ window, server.windows.get? id = some window := by
  unfold grant? grabFor? at h
  cases hw : server.windows.get? id with
  | none => simp [hw] at h
  | some window =>
    refine ⟨?_, window, rfl⟩
    simp only [hw] at h
    by_cases hfocus : (Toolkit.pointerFocus server.toolkit).bind
        (Toolkit.toplevelOf server.toolkit) = some window.toplevel
    · rw [if_pos hfocus] at h
      cases mode with
      | move =>
        cases h
        rfl
      | resize =>
        dsimp only at h
        unfold Interaction.beginResize? at h
        cases ht : (Toolkit.toplevelGeometry server.toolkit window.toplevel).translated
            window.position with
        | error cause => simp [ht, bind, Except.bind, Except.map] at h
        | ok anchor =>
          cases hb : Interaction.referenceBorder anchor edges with
          | error cause => simp [ht, hb, bind, Except.bind, Except.map] at h
          | ok border =>
            simp only [ht, hb, bind, Except.bind, Except.map, pure, Except.pure,
              Option.some.injEq] at h
            rw [← h]
            rfl
    · rw [if_neg hfocus] at h
      cases h

namespace Moment

variable {moment : Moment T} {id : WindowId}

/-- What a moment grants is a grab on a window with a record, and no window is withdrawn or mapped
then. -/
lemma granted?_eq_some {grab : Interaction} (h : moment.granted? = some grab) :
    ∃ id, grab.grabbed? = some id ∧ (∃ window, moment.server.windows.get? id = some window) ∧
      ∀ other, moment.withdraws other = false ∧ moment.maps other = false := by
  obtain ⟨server, deed⟩ := moment
  cases deed with
  | dispatch handle signal event => cases h
  | callback event callback =>
    cases callback with
    | retire handle => cases h
    | run handler =>
      cases handler with
      | requestMove id =>
        obtain ⟨hgrab, hrecord⟩ := grant?_eq_some h
        exact ⟨id, hgrab, hrecord, fun _ => ⟨rfl, rfl⟩⟩
      | requestResize id =>
        cases event with
        | requestResize serial edges =>
          obtain ⟨hgrab, hrecord⟩ := grant?_eq_some h
          exact ⟨id, hgrab, hrecord, fun _ => ⟨rfl, rfl⟩⟩
        | _ => cases h
      | _ => cases h
  | call call direct =>
    cases call with
    | beginInteractive id mode edges =>
      obtain ⟨hgrab, hrecord⟩ := grant?_eq_some h
      exact ⟨id, hgrab, hrecord, fun _ => ⟨rfl, rfl⟩⟩
    | _ => cases h

omit [Toolkit T] in
/-- Withdrawing the grabbed window ends the grab. -/
lemma endsGrab_of_withdraws (hg : moment.server.interaction.grabbed? = some id)
    (hw : moment.withdraws id = true) : moment.endsGrab = true := by
  obtain ⟨server, deed⟩ := moment
  cases deed with
  | dispatch handle signal event => cases hw
  | callback event callback =>
    cases callback with
    | retire handle => cases hw
    | run handler =>
      cases handler with
      | unmap other =>
        obtain rfl : other = id := of_decide_eq_true hw
        exact decide_eq_true hg
      | toplevelDestroyed other =>
        obtain rfl : other = id := of_decide_eq_true hw
        exact decide_eq_true hg
      | _ => cases hw
  | call call direct =>
    cases call with
    | shutdown => rfl
    | _ => cases hw

omit [Toolkit T] in
/-- While the grab goes on its window is not withdrawn. -/
lemma withdraws_eq_false (hg : moment.server.interaction.grabbed? = some id)
    (he : moment.endsGrab = false) : moment.withdraws id = false := by
  cases hw : moment.withdraws id with
  | false => rfl
  | true =>
    rw [endsGrab_of_withdraws hg hw] at he
    cases he

/-- A moment keeps the order of the windows. -/
lemma orderly_after (moment : Moment T) (o : Orderly moment.server) : Orderly moment.after := by
  obtain ⟨server, deed⟩ := moment
  cases deed with
  | dispatch handle signal event => exact o
  | callback event callback => exact o.runCallback event callback
  | call call direct => exact o.call call

/-- A moment leaves a grabbed window with a record. -/
lemma held_after (moment : Moment T) (o : Orderly moment.server) (h : Held moment.server) :
    Held moment.after := by
  intro id hg
  -- a record that is there is kept, unless its window is withdrawn
  have hkept {window : Window} (hw : moment.server.windows.get? id = some window)
      (hs : moment.withdraws id = false) : ∃ found, moment.after.windows.get? id = some found := by
    obtain ⟨found, hfound, -⟩ := WindowTable.exists_of_face?
      (moment.face?_after o (WindowTable.face?_of_get? hw) hs)
    exact ⟨found, hfound⟩
  rw [moment.interaction_after h, grabAfter] at hg
  split at hg <;> rename_i he
  · cases hg
  · cases hgranted : moment.granted? with
    | some grab =>
      obtain ⟨other, hgrab, ⟨window, hw⟩, hs⟩ := granted?_eq_some hgranted
      rw [hgranted, Option.getD_some, hgrab] at hg
      cases hg
      exact hkept hw (hs _).1
    | none =>
      rw [hgranted, Option.getD_none] at hg
      obtain ⟨window, hw⟩ := h id hg
      exact hkept hw (withdraws_eq_false hg (by simpa using he))

end Moment

/-- A new server has no grab. -/
lemma interaction_of_create {toolkit : T} {config : Config} {display : Option String}
    {server : Server T} (h : create toolkit config display = .ok server) :
    server.interaction = .passThrough := by
  obtain ⟨bindings, hwired⟩ := Wired.of_create h
  exact hwired.onlyOutside.interaction_eq

namespace Unfolds

variable {start server : Server T} {outer servings : List Serving} {moments : List (Moment T)}

/-- Order is kept all along, and so are the records of grabbed windows. -/
lemma orderly_and_held (h : Unfolds start outer moments server servings) (o : Orderly start)
    (hh : Held start) : Orderly server ∧ Held server := by
  refine h.moment_induction (motive := fun _ server => Orderly server ∧ Held server) ⟨o, hh⟩ ?_ ?_
  · intro _ server toolkit hk
    exact ⟨hk.1.congr rfl rfl, hk.2⟩
  · intro _ moment _ _ hk
    exact ⟨moment.orderly_after hk.1, moment.held_after hk.1 hk.2⟩

end Unfolds

/-- Grabbed windows have records in every reachable state. -/
lemma Reachable.held {server : Server T} {servings : List Serving}
    (h : Reachable server servings) : Held server := by
  obtain ⟨_, _, _, start, _, hc, hu⟩ := h.exists_unfolds
  refine (hu.orderly_and_held (orderly_of_create hc) ?_).2
  intro id hg
  rw [interaction_of_create hc] at hg
  cases hg

end Server

end Compositor
