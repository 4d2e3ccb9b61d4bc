import Compositor.Proofs.Server.Attendance

set_option autoImplicit false

/-!
# The front window and the focus

The front of the focus stack is meant to be the focused window. It has the focus whenever a surface
has it at all. But when the focused window is unmapped or destroyed, the toolkit takes the focus
away, and the server does not give it to the window that comes to the front by this. Nobody has the
focus then until a window is mapped or clicked.

## Main definitions

* `Server.Turn.Lone` — the focus is not taken from one of several mapped windows.

## Main results

* `Server.front_holds_focus` — the front window has the focus, if it is never taken so.
* `Server.exists_front_without_focus` — if it is, nobody may have the focus.
-/

namespace Compositor.Server

variable {T : Type} [Toolkit T] {desktop : Desktop} {emission : Emission}
  {start server before after : Server T} {leaves : Handle → Bool}

/-- A turn in which the focus is not taken from one of several mapped windows. -/
structure Turn.Lone (desktop : Desktop) (server : Server T) (turn : Turn T) : Prop
    extends turn.Fair desktop server where
  /-- If a surface loses the focus, it is that of the only mapped window. -/
  alone : ∀ surface, Toolkit.keyboardFocus server.toolkit = some surface →
    desktop.takes turn.emission surface = true → ∀ id window,
      server.windows.get? id = some window → window.mapped = true → window.surface = surface

/-- The focus will be somewhere, unless all mapped windows leave. -/
def FocusLeft (leaves : Handle → Bool) (server : Server T) : Prop :=
  (heldFocus leaves server).isSome = true ∨ ∀ id face, server.windows.face? id = some face →
    face.mapped = true → leaves face.surface = true

namespace FocusLeft

/-- A step by which the focus stays and nothing is mapped. -/
lemma of_unfocused (h : FocusLeft leaves before)
    (hfocus : Toolkit.keyboardFocus after.toolkit = Toolkit.keyboardFocus before.toolkit)
    (hmapped : ∀ id face, after.windows.face? id = some face → face.mapped = true →
      before.windows.face? id = some face) : FocusLeft leaves after := by
  have hheld : heldFocus leaves after = heldFocus leaves before :=
    congrArg (Option.filter _) hfocus
  unfold FocusLeft
  rw [hheld]
  refine h.imp_right fun hall id face hf hm => ?_
  exact hall id face (hmapped id face hf hm) hm

variable [KeepsFocus T]

/-- One step inside a turn keeps the focus, unless all mapped windows leave: a window that gets the
focus stays, and one that is withdrawn is not mapped any more. -/
lemma stirred (h : FocusLeft leaves before) (hs : Stirred leaves before after) :
    FocusLeft leaves after := by
  cases hs with
  | still step =>
    refine h.of_unfocused step.shown.keyboardFocus_eq fun id face hf _ => ?_
    exact (step.alike.face?_eq id).symm.trans hf
  | @focused id face step stays =>
    refine .inl ?_
    rw [heldFocus, step.keyboardFocus_eq, Option.filter_some, stays]
    rfl
  | @withdrawn id step left shown =>
    refine h.of_unfocused shown.keyboardFocus_eq fun other face hf hm => ?_
    by_cases ho : other = id
    · subst ho
      rw [(step.left hf).1] at hm
      cases hm
    · exact (step.face?_eq ho).symm.trans hf

/-- All steps inside a turn keep the focus, unless all mapped windows leave. -/
lemma moved (h : FocusLeft (desktop.takes emission) start)
    (hm : Moved desktop emission start after) : FocusLeft (desktop.takes emission) after := by
  cases hm with
  | passed passage =>
    induction passage with
    | start _ => exact h
    | step _ hstep _ ih => exact ih.stirred hstep
  | appeared _ _ step =>
    refine h.of_unfocused step.shown.keyboardFocus_eq fun id face hf hm => ?_
    rw [step.added.face?_eq] at hf
    split at hf
    · cases hf
      rw [step.added.mapped_eq] at hm
      cases hm
    · exact hf
  | popped _ step =>
    refine h.of_unfocused step.shown.keyboardFocus_eq fun id face hf _ => ?_
    rwa [step.windows_eq] at hf

omit [KeepsFocus T] in
/-- Before the server hears of the event, the focus may be taken, but only from the last mapped
window. -/
lemma of_lone {turn : Turn T} (hl : turn.Lone desktop server)
    (h : Toolkit.keyboardFocus server.toolkit = none →
      ∀ id face, server.windows.face? id = some face → face.mapped = false) :
    FocusLeft (desktop.takes turn.emission) (turn.start server) := by
  cases hfocus : Toolkit.keyboardFocus server.toolkit with
  | none =>
    refine .inr fun id face hf hm => ?_
    rw [h hfocus id face hf] at hm
    cases hm
  | some surface =>
    cases htakes : desktop.takes turn.emission surface with
    | true =>
      refine .inr fun id face hf hm => ?_
      obtain ⟨window, hw, rfl⟩ := WindowTable.exists_of_face? hf
      have hsurface : window.surface = surface := hl.alone surface hfocus htakes id window hw hm
      rw [← hsurface] at htakes
      exact htakes
    | false =>
      have hopening : Toolkit.keyboardFocus (turn.start server).toolkit = some surface := by
        rcases hl.opening_focus with ho | ho
        · exact ho.trans hfocus
        · exact ho.trans (Desktop.held_of_takes_eq_false hfocus htakes)
      have hheld : heldFocus (desktop.takes turn.emission) (turn.start server) = some surface :=
        Desktop.held_of_takes_eq_false hopening htakes
      exact .inl (hheld ▸ rfl)

end FocusLeft

/-- If nobody has the focus, no window is mapped.

**Proof sketch.** A turn may take the focus from a window, but then no other window is mapped, and
this one is unmapped or gone when the turn is over. Otherwise the focus stays where it is, or a
window gets it. -/
lemma Session.mapped_eq_false [KeepsFocus T] (h : Session Turn.Lone desktop server)
    (hn : Toolkit.keyboardFocus server.toolkit = none) {id : WindowId} {face : Face}
    (hf : server.windows.face? id = some face) : face.mapped = false := by
  induction h generalizing id face with
  | create hc _ _ =>
    rw [face?_of_create hc] at hf
    cases hf
  | @start desktop server host _ ih =>
    have hstill := Still.start server host
    refine ih ?_ ((hstill.alike.face?_eq id).symm.trans hf)
    rw [← hn]
    exact hstill.shown.keyboardFocus_eq.symm
  | @turn desktop server turn hsession hlone ih =>
    have hfair := hlone.toFair
    have hs : Session Turn.Fair desktop server := hsession.mono fun _ _ _ hl => hl.toFair
    have hleft : FocusLeft (desktop.takes turn.emission) (turn.dispatched server) :=
      (FocusLeft.of_lone hlone fun hn id face hf => ih hn hf).moved (hs.moved hfair)
    have hfocus : heldFocus (desktop.takes turn.emission) (turn.dispatched server) = none :=
      hfair.closing_focus.symm.trans hn
    rcases hleft with hsome | hall
    · rw [hfocus] at hsome
      cases hsome
    · by_contra hm
      have hm' : face.mapped = true := by simpa using hm
      exact hm ((hs.left hfair hf).2 (hall id face hf hm'))

/-- **The front window has the focus**, whenever windows are stacked, between the turns of a session
in which no window is unmapped or destroyed while it has the focus and another one is mapped.

**Proof sketch.** A focus is always in front, see `Session.upheld`. A front window is mapped, so
that there is a focus, see `Session.mapped_eq_false`. -/
theorem front_holds_focus [KeepsFocus T] (h : Session Turn.Lone desktop server) {id : WindowId}
    (hf : server.windows.front? = some id) : ∃ window, server.windows.get? id = some window ∧
      Toolkit.keyboardFocus server.toolkit = some window.surface := by
  have hs : Session Turn.Fair desktop server := h.mono fun _ _ _ hl => hl.toFair
  obtain ⟨origin, hdriven, -⟩ := hs.driven
  have a := hdriven.reachable.orderly.agrees
  obtain ⟨face, hface, hm⟩ := a.mem_stack_iff_face?.1 (List.mem_of_getElem? hf)
  cases hfocus : Toolkit.keyboardFocus server.toolkit with
  | none =>
    rw [h.mapped_eq_false hfocus hface] at hm
    cases hm
  | some surface =>
    obtain ⟨front, found, hfront, hfound, rfl⟩ := hs.upheld.front surface hfocus
    obtain rfl : front = id := Option.some.inj (hfront.symm.trans hf)
    obtain ⟨window, hw, rfl⟩ := WindowTable.exists_of_face? hfound
    exact ⟨window, hw, rfl⟩

/-! ## Two windows -/

/-- Checks that a turn without buttons takes the focus from no window, or from the only one that is
mapped. -/
def Turn.isLone (desktop : Desktop) (server : Server Headless) (turn : Turn Headless) : Bool :=
  turn.isFair desktop server &&
    match server.toolkit.keyboardFocus with
    | none => true
    | some surface => !desktop.takes turn.emission surface ||
      server.windows.windows.all fun window => !window.mapped || window.surface == surface

/-- The check of a turn is right: what it has passed is alone. -/
lemma Turn.lone_of_isLone (desktop : Desktop) (server : Server Headless) (turn : Turn Headless)
    (h : turn.isLone desktop server = true) : turn.Lone desktop server := by
  obtain ⟨hfair, halone⟩ := Bool.and_eq_true_iff.1 h
  refine ⟨Turn.fair_of_isFair desktop server turn hfair, ?_⟩
  intro surface hs htakes id window hw hm
  have hfocus : server.toolkit.keyboardFocus = some surface := hs
  rw [hfocus] at halone
  dsimp only at halone
  rw [htakes] at halone
  have hall := List.all_eq_true.1 halone window (WindowTable.mem_windows_iff.2 ⟨id, hw⟩)
  simpa [hm] using hall

/-- The first of two windows is unmapped, which was behind. -/
theorem front_holds_focus_two : ∃ (server : Server Headless) (window : Window),
    server.windows.front? = some ⟨2⟩ ∧ server.windows.get? ⟨2⟩ = some window ∧
      Toolkit.keyboardFocus server.toolkit = some window.surface := by
  have hplayed : (rehearse Turn.isLone ⟨Headless.standard.shell, []⟩ standard
      (twoWindows ++ [([], ⟨⟨0x51⟩, .unmap, .empty⟩)])).any
        (fun state => state.2.windows.front? == some ⟨2⟩) = true := by decide +kernel
  obtain ⟨desktop, server, hsession, hfront⟩ := Session.exists_of_rehearse Turn.lone_of_isLone _
    (fun server => server.windows.front? == some ⟨2⟩) hplayed
  obtain ⟨window, hw, hfocus⟩ := front_holds_focus hsession (eq_of_beq hfront)
  exact ⟨server, window, eq_of_beq hfront, hw, hfocus⟩

/-- **A front window may be without the focus.** The second of two windows is unmapped, which was in
front. The first one is in front then, but no surface has the focus. -/
theorem exists_front_without_focus : ∃ (desktop : Desktop) (server : Server Headless),
    Session Turn.Fair desktop server ∧ server.windows.front? = some ⟨1⟩ ∧
      Toolkit.keyboardFocus server.toolkit = none := by
  have hplayed : (rehearse Turn.isFair ⟨Headless.standard.shell, []⟩ standard
      (twoWindows ++ [([], ⟨⟨0x61⟩, .unmap, .empty⟩)])).any
        (fun state => state.2.windows.front? == some ⟨1⟩ &&
          state.2.toolkit.keyboardFocus == none) = true := by decide +kernel
  obtain ⟨desktop, server, hsession, hseen⟩ := Session.exists_of_rehearse
    Turn.fair_of_isFair _ (fun server => server.windows.front? == some ⟨1⟩ &&
      server.toolkit.keyboardFocus == none) hplayed
  obtain ⟨hfront, hfocus⟩ := Bool.and_eq_true_iff.1 hseen
  exact ⟨desktop, server, hsession, eq_of_beq hfront, eq_of_beq hfocus⟩

end Compositor.Server
