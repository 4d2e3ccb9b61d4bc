import Compositor.Proofs.Server.Attendance
import Compositor.Proofs.Windows.Painting

set_option autoImplicit false

/-!
# Focus order and paint order

The server keeps the order of windows by their last focus, and the toolkit the order of scene nodes
by paint. The two are changed by separate calls: a window enters the focus stack at the back but the
scene on top, and an unmapped window leaves the stack while its node stays in the scene. The mapped
windows are nevertheless in the same order in both.

## Main definitions

* `Server.NodesKept` — the toolkit leaves the nodes of windows as they are.
* `Server.Turn.Layered` — what a toolkit promises of its scene in a turn.

## Main results

* `Server.Session.inPaintOrder` — windows are painted in the order of their focus.
* `Server.focus_order_eq_paint_order` — the focus stack, read off the scene.
-/

namespace Compositor.Server

variable {T : Type} [Toolkit T] {desktop : Desktop} {emission : Emission}
  {start server before after : Server T} {id : WindowId} {face : Face} {leaves : Handle → Bool}
  {paint : T → List Handle}

/-- The toolkit leaves the nodes of windows that are not being destroyed as they are. -/
def NodesKept (paint : T → List Handle) (emission : Emission) (table : WindowTable)
    (before after : T) : Prop :=
  ∃ keep : Handle → Bool, (∀ id window, table.get? id = some window →
      emission.destroys window.face = false → keep window.scene = true) ∧
    (paint after).filter keep = (paint before).filter keep

/-- A turn in which the toolkit changes the scene only as it is told. -/
structure Turn.Layered (paint : T → List Handle) (desktop : Desktop) (server : Server T)
    (turn : Turn T) : Prop extends turn.Fair desktop server where
  /-- Before the server hears of the event, the nodes of windows stay as they are. -/
  opening_nodes : NodesKept paint turn.emission server.windows server.toolkit turn.opening
  /-- So they do in the end. -/
  closing_nodes : NodesKept paint turn.emission (turn.dispatched server).windows
    (turn.dispatched server).toolkit turn.closing
  /-- The node of a new window is new. -/
  new_toplevel : ∀ toplevel,
    (Toolkit.createToplevelScene toplevel turn.opening).1 ∉ paint turn.opening
  /-- The node of a new popup is new. -/
  new_popup : ∀ popup parent,
    (Toolkit.createPopupScene popup parent turn.opening).1 ∉ paint turn.opening

/-- The windows that are not being destroyed are painted in the order of their focus. -/
def Painted (paint : T → List Handle) (emission : Emission) (server : Server T) : Prop :=
  server.windows.InPaintOrder emission.destroys (paint server.toolkit)

namespace Painted

omit [Toolkit T] in
/-- The toolkit changes by itself. -/
lemma kept {toolkit : T} (h : Painted paint emission server)
    (hk : NodesKept paint emission server.windows server.toolkit toolkit) :
    Painted paint emission { server with toolkit := toolkit } := by
  obtain ⟨keep, hkeep, he⟩ := hk
  refine WindowTable.InPaintOrder.congr h (fun id face hf hstays => ?_) he
  obtain ⟨window, hw, rfl⟩ := WindowTable.exists_of_face? hf
  exact hkeep id window hw hstays

omit [Toolkit T] in
/-- A step by which the scene stays. -/
lemma of_paint_eq (he : paint after.toolkit = paint before.toolkit)
    (h : after.windows.InPaintOrder emission.destroys (paint before.toolkit)) :
    Painted paint emission after := by
  unfold Painted
  rw [he]
  exact h

variable (hp : PaintsInOrder paint)

include hp

/-- A step that can be seen. The window that gets the focus must not be one that is destroyed. -/
lemma stirred (h : Painted paint emission before) (a : before.windows.Agrees)
    (hs : Stirred leaves before after)
    (hstays : ∀ id face, before.windows.face? id = some face → leaves face.surface = false →
      emission.destroys face = false) : Painted paint emission after := by
  cases hs with
  | still step => exact of_paint_eq (step.shown.paint_eq hp) (h.alike step.alike)
  | @focused id face step stays =>
    obtain ⟨mapped, hold⟩ := step.fronted.old
    have hcounts : emission.destroys face = false := hstays id { face with mapped } hold stays
    have hpaint : paint after.toolkit =
        (paint before.toolkit).filter (fun node => node = face.scene) ++
          (paint before.toolkit).filter fun node => node ≠ face.scene := by
      rw [step.shown.paint_eq hp]
      unfold focusRecords
      cases deactivated? before.toolkit face.toplevel <;> rfl
    unfold Painted
    rw [hpaint]
    exact h.fronted a step.fronted hcounts fun _ _ => rfl
  | withdrawn step _ shown =>
    exact of_paint_eq (shown.paint_eq hp) (h.withdrawn a step fun _ _ => rfl)

/-- A dispatch. New nodes must be new. -/
lemma moved (h : Painted paint emission start) (r : Ready desktop emission start)
    (hm : Moved desktop emission start after)
    (htoplevel : ∀ toplevel,
      (Toolkit.createToplevelScene toplevel start.toolkit).1 ∉ paint start.toolkit)
    (hpopup : ∀ popup parent,
      (Toolkit.createPopupScene popup parent start.toolkit).1 ∉ paint start.toolkit) :
    Painted paint emission after := by
  cases hm with
  | passed passage =>
    induction passage with
    | start _ => exact h
    | step passage hstep _ ih =>
      refine ih.stirred hp passage.orderly.agrees hstep fun id face hf hleaves => ?_
      obtain ⟨mapped, hold, -⟩ := passage.keeps id face hf
      rw [Bool.eq_false_iff]
      intro hd
      have htakes : desktop.takes emission face.surface = true :=
        (r.takes_iff hold).2 (.inr hd)
      rw [hleaves] at htakes
      cases htakes
  | @appeared id face signal announced step =>
    have hpaint : paint after.toolkit = face.scene :: paint start.toolkit :=
      step.shown.paint_eq hp
    have hnew : face.scene ∉ paint start.toolkit := by
      rw [← step.node_eq]
      exact htoplevel face.toplevel
    have hall (other : WindowId) (found : Face)
        (hf : start.windows.face? other = some found) : found.scene ≠ face.scene := by
      intro he
      have hstays : emission.destroys found = false := by
        unfold Emission.destroys
        rw [signal]
        rfl
      have hone := h.count_eq hf hstays
      rw [he, List.count_eq_zero_of_not_mem hnew] at hone
      cases hone
    unfold Painted
    rw [hpaint]
    exact h.added r.orderly.agrees step.added hnew hall
  | @popped popup parent _ step =>
    have hpaint : paint after.toolkit =
        (Toolkit.createPopupScene popup parent start.toolkit).1 :: paint start.toolkit :=
      step.shown.paint_eq hp
    unfold Painted
    rw [hpaint, step.windows_eq]
    exact h.cons (hpopup popup parent)

end Painted

/-- **Windows are painted in the order of their focus**, between the turns of a session.

**Proof sketch.** The windows that the event destroys are left out of account during a turn, since
the toolkit may drop their nodes before the server drops their records; they are gone in the end. A
window that appears is neither stacked nor is its node one of the others'. A window that gets the
focus comes to the front, and its node is raised. A window that is mapped has not got the focus yet,
since the focus is in front; so it does not stay where it entered the stack. -/
theorem Session.inPaintOrder [KeepsFocus T] (hp : PaintsInOrder paint)
    (h : Session (Turn.Layered paint) desktop server) :
    server.windows.InPaintOrder (fun _ => false) (paint server.toolkit) := by
  induction h with
  | @create toolkit origin config display server hc _ _ =>
    obtain ⟨bindings, hstill⟩ := Still.of_create hc
    have hnone {id : WindowId} {face : Face} : server.windows.face? id ≠ some face := by
      rw [face?_of_create hc]
      exact nofun
    have hscenes : server.windows.scenes (fun _ => false) = [] := by
      unfold WindowTable.scenes
      rw [hstill.alike.stack_eq]
      rfl
    exact {
      distinct := fun hf => absurd hf hnone
      count_eq := fun hf => absurd hf hnone
      scenes_eq := by simp [hscenes] }
  | @start desktop server host _ ih =>
    have hstill := Still.start server host
    have hpaint : paint (server.start host).server.toolkit = paint server.toolkit :=
      hstill.shown.paint_eq hp
    rw [hpaint]
    exact ih.alike hstill.alike
  | @turn desktop server turn hsession hlayered ih =>
    have hfair := hlayered.toFair
    have hs : Session Turn.Fair desktop server := hsession.mono fun _ _ _ hl => hl.toFair
    have hbefore : Painted paint turn.emission server := ih.leaveOut turn.emission.destroys
    have hstart : Painted paint turn.emission (turn.start server) :=
      hbefore.kept hlayered.opening_nodes
    have hdispatched := hstart.moved hp (hs.ready hfair) (hs.moved hfair) hlayered.new_toplevel
      hlayered.new_popup
    have hresult : Painted paint turn.emission (turn.result server) :=
      hdispatched.kept hlayered.closing_nodes
    exact hresult.takeIn fun id face hf => (hs.left hfair hf).1

/-- **Focus order is paint order.** Between the turns of a session, the scene nodes of the focus
stack, read front to back, are the scene nodes of the mapped windows, read top to bottom. -/
theorem focus_order_eq_paint_order [KeepsFocus T] (hp : PaintsInOrder paint)
    (h : Session (Turn.Layered paint) desktop server) :
    server.windows.stackedWindows.map Window.scene =
      (paint server.toolkit).filter server.windows.showsMapped := by
  obtain ⟨origin, hdriven, -⟩ := h.driven
  exact (h.inPaintOrder hp).stackedWindows_eq hdriven.reachable.orderly.agrees

/-! ## Three windows -/

/-- Checks that a turn without buttons leaves the scene alone. -/
def Turn.isLayered (desktop : Desktop) (server : Server Headless) (turn : Turn Headless) : Bool :=
  turn.isFair desktop server &&
    (turn.opening.paintOrder = server.toolkit.paintOrder ∧
      turn.closing.paintOrder = (turn.dispatched server).toolkit.paintOrder ∧
      ⟨turn.opening.newestNode + 1⟩ ∉ turn.opening.paintOrder)

/-- The check of a turn is right: what it has passed leaves the scene alone and brings a new
node. -/
lemma Turn.layered_of_isLayered (desktop : Desktop) (server : Server Headless)
    (turn : Turn Headless) (h : turn.isLayered desktop server = true) :
    turn.Layered Headless.paintOrder desktop server := by
  obtain ⟨hfair, h⟩ := Bool.and_eq_true_iff.1 h
  obtain ⟨hopening, hclosing, hnew⟩ := of_decide_eq_true h
  exact {
    Turn.fair_of_isFair desktop server turn hfair with
    opening_nodes := ⟨fun _ => true, fun _ _ _ _ => rfl, congrArg (List.filter _) hopening⟩
    closing_nodes := ⟨fun _ => true, fun _ _ _ _ => rfl, congrArg (List.filter _) hclosing⟩
    new_toplevel := fun _ => hnew
    new_popup := fun _ _ => hnew }

/-- Of three windows the newest is not mapped yet. Its node is on top, and does not count. -/
theorem focus_order_eq_paint_order_three : ∃ server : Server Headless,
    server.windows.stackedWindows.map Window.scene = [⟨0x9002⟩, ⟨0x9001⟩] ∧
      server.toolkit.paintOrder = [⟨0x9003⟩, ⟨0x9002⟩, ⟨0x9001⟩] ∧
      server.toolkit.paintOrder.filter server.windows.showsMapped = [⟨0x9002⟩, ⟨0x9001⟩] := by
  have hplayed : (rehearse Turn.isLayered ⟨Headless.standard.shell, []⟩ standard
      (twoWindows ++ [([.window ⟨0x70⟩ ⟨0x71⟩ none none none],
        ⟨⟨0x20⟩, .newToplevel, .newToplevel ⟨0x70⟩ ⟨0x71⟩⟩)])).any (fun state =>
          state.2.windows.stackedWindows.map Window.scene == [⟨0x9002⟩, ⟨0x9001⟩] &&
            state.2.toolkit.paintOrder == [⟨0x9003⟩, ⟨0x9002⟩, ⟨0x9001⟩]) = true := by
    decide +kernel
  obtain ⟨desktop, server, hsession, hseen⟩ := Session.exists_of_rehearse
    Turn.layered_of_isLayered _ (fun server =>
      server.windows.stackedWindows.map Window.scene == [⟨0x9002⟩, ⟨0x9001⟩] &&
        server.toolkit.paintOrder == [⟨0x9003⟩, ⟨0x9002⟩, ⟨0x9001⟩]) hplayed
  obtain ⟨hstack, hpaint⟩ := Bool.and_eq_true_iff.1 hseen
  have horder := focus_order_eq_paint_order Headless.paintsInOrder hsession
  exact ⟨server, eq_of_beq hstack, eq_of_beq hpaint, horder.symm.trans (eq_of_beq hstack)⟩

end Compositor.Server
