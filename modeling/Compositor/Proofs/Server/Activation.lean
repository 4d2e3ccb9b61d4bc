import Compositor.Proofs.Server.Attendance

set_option autoImplicit false

/-!
# The active window

A toplevel is told whether it is active. The server tells the window that gets the focus, and the
window that had it until then, as the toolkit says; nobody is told when a window is unmapped or
destroyed. Nevertheless there is never more than one mapped window that was last told to be active:
the one with the focus, which is in front.

## Main definitions

* `Server.Turn.Candid` — the toolkit knows to which window a root surface belongs.

## Main results

* `Server.Session.activeFocused` — an active window has the focus.
* `Server.focus_front_active` — focus, front and activation.
-/

namespace Compositor.Server

variable {T : Type} [Toolkit T] {desktop : Desktop} {emission : Emission}
  {start server before after : Server T} {id : WindowId} {face : Face} {leaves : Handle → Bool}

/-- A turn in which the toolkit knows to which window a root surface belongs. -/
structure Turn.Candid (desktop : Desktop) (server : Server T) (turn : Turn T) : Prop
    extends turn.Fair desktop server where
  /-- The root surface of a live window belongs to its toplevel. -/
  owners : ∀ records toolkit, Led records turn.opening toolkit →
    ∀ window ∈ (desktop.after turn.emission).windows,
      Toolkit.toplevelOf toolkit window.surface = some window.toplevel
  /-- Live windows have distinct toplevels. -/
  toplevels : (desktop.after turn.emission).windows.Pairwise fun window other =>
    window.toplevel ≠ other.toplevel

/-! ## What toplevels are told -/

/-- If a toplevel was last told to be active after another window got the focus, it was so before,
and it was not told otherwise. -/
lemma Focused.lastActivation? (h : Focused id face before after) {toplevel : Handle}
    (hne : face.toplevel ≠ toplevel) (ha : after.lastActivation? toplevel = some true) :
    before.lastActivation? toplevel = some true ∧
      deactivated? before.toolkit face.toplevel ≠ some toplevel := by
  rw [h.shown.lastActivation?_eq] at ha
  unfold focusRecords at ha
  cases hd : deactivated? before.toolkit face.toplevel with
  | none =>
    rw [hd] at ha
    simp only [Option.map_none, Option.toList_none, List.append_nil, List.findSome?_cons,
      Record.activation?, hne, ↓reduceIte, List.findSome?_nil, Option.none_or] at ha
    exact ⟨ha, nofun⟩
  | some other =>
    rw [hd] at ha
    simp only [Option.map_some, Option.toList_some, List.cons_append, List.nil_append,
      List.findSome?_cons, Record.activation?, hne, ↓reduceIte, List.findSome?_nil] at ha
    by_cases ho : other = toplevel
    · simp [ho] at ha
    · simp only [ho, ↓reduceIte, Option.none_or] at ha
      exact ⟨ha, fun he => ho (Option.some.inj he)⟩

/-- The mapped windows that stay and were last told to be active have the focus. -/
def ActiveFocused (leaves : Handle → Bool) (server : Server T) : Prop :=
  server.windows.ActiveInFocus (fun face => leaves face.surface)
    (Toolkit.keyboardFocus server.toolkit) server.lastActivation?

namespace ActiveFocused

/-- A step by which nobody is told anything and the focus stays. -/
lemma of_untold
    (hfocus : Toolkit.keyboardFocus after.toolkit = Toolkit.keyboardFocus before.toolkit)
    (htold : ∀ toplevel, after.lastActivation? toplevel = before.lastActivation? toplevel)
    (h : after.windows.ActiveInFocus (fun face => leaves face.surface)
      (Toolkit.keyboardFocus before.toolkit) before.lastActivation?) :
    ActiveFocused leaves after := by
  unfold ActiveFocused
  rw [hfocus, funext htold]
  exact h

variable [KeepsFocus T]

/-- A step that can be seen, if the toolkit knows to whom the surfaces that stay belong, and windows
have distinct toplevels. -/
lemma stirred (h : ActiveFocused leaves before) (hs : Stirred leaves before after)
    (howner : ∀ id face, before.windows.face? id = some face → leaves face.surface = false →
      Toolkit.toplevelOf before.toolkit face.surface = some face.toplevel)
    (hdistinct : ∀ id other face found, before.windows.face? id = some face →
      before.windows.face? other = some found → id ≠ other → face.toplevel ≠ found.toplevel) :
    ActiveFocused leaves after := by
  cases hs with
  | still step =>
    exact of_untold step.shown.keyboardFocus_eq step.shown.lastActivation?_eq (h.alike step.alike)
  | @focused id face step stays =>
    unfold ActiveFocused
    rw [step.keyboardFocus_eq]
    refine h.fronted step.fronted fun other found hne hfound hstays ha => ?_
    obtain ⟨mapped, hold⟩ := step.fronted.old
    have htoplevel : face.toplevel ≠ found.toplevel :=
      hdistinct id other { face with mapped } found hold hfound (Ne.symm hne)
    obtain ⟨hbefore, hnot⟩ := step.lastActivation? htoplevel ha
    refine ⟨hbefore, fun hfocus => hnot ?_⟩
    unfold deactivated?
    rw [hfocus, Option.bind_some, howner other found hfound hstays, Option.filter_some,
      if_pos (decide_eq_true (Ne.symm htoplevel))]
  | withdrawn step _ shown =>
    exact of_untold shown.keyboardFocus_eq shown.lastActivation?_eq (h.withdrawn step)

/-- A dispatch. -/
lemma moved (h : ActiveFocused (desktop.takes emission) start)
    (hm : Moved desktop emission start after)
    (howner : ∀ records toolkit, Led records start.toolkit toolkit → ∀ id face,
      start.windows.face? id = some face → desktop.takes emission face.surface = false →
        Toolkit.toplevelOf toolkit face.surface = some face.toplevel)
    (hdistinct : ∀ id other face found, start.windows.face? id = some face →
      start.windows.face? other = some found → id ≠ other → face.toplevel ≠ found.toplevel) :
    ActiveFocused (desktop.takes emission) after := by
  cases hm with
  | passed passage =>
    induction passage with
    | start _ => exact h
    | step passage hstep _ ih =>
      obtain ⟨records, hled⟩ := passage.led
      refine ih.stirred hstep (fun id face hf hs => ?_) fun id other face found hf hf' hne => ?_
      · obtain ⟨mapped, hold, -⟩ := passage.keeps id face hf
        exact howner records _ hled id { face with mapped } hold hs
      · obtain ⟨mapped, hold, -⟩ := passage.keeps id face hf
        obtain ⟨mapped', hold', -⟩ := passage.keeps other found hf'
        exact hdistinct id other { face with mapped } { found with mapped := mapped' } hold hold'
          hne
  | appeared _ _ step =>
    exact of_untold step.shown.keyboardFocus_eq step.shown.lastActivation?_eq (h.added step.added)
  | popped _ step =>
    refine of_untold step.shown.keyboardFocus_eq step.shown.lastActivation?_eq ?_
    rw [step.windows_eq]
    exact h

end ActiveFocused

/-! ## Sessions -/

/-- Windows with records have distinct toplevels if live windows do. -/
lemma Upheld.toplevel_ne (u : Upheld desktop server)
    (hd : desktop.windows.Pairwise fun window other => window.toplevel ≠ other.toplevel)
    {other : WindowId} {found : Face} (hf : server.windows.face? id = some face)
    (hf' : server.windows.face? other = some found) (hne : id ≠ other) :
    face.toplevel ≠ found.toplevel := by
  obtain ⟨window, hw, ht, hs, -⟩ := u.known hf
  obtain ⟨window', hw', ht', hs', -⟩ := u.known hf'
  have hwindows : window ≠ window' := by
    rintro rfl
    exact (u.apart id other face found hf hf' hne).1 (hs.symm.trans hs')
  have hsymm : Std.Symm fun window other : LiveWindow => window.toplevel ≠ other.toplevel :=
    ⟨fun _ _ h => h.symm⟩
  rw [← ht, ← ht']
  exact List.Pairwise.forall hd hw hw' hwindows

namespace Session

/-- The windows that live between turns have distinct toplevels. -/
lemma toplevels (h : Session Turn.Candid desktop server) :
    desktop.windows.Pairwise fun window other => window.toplevel ≠ other.toplevel := by
  induction h with
  | create _ _ _ => exact List.Pairwise.nil
  | start _ _ ih => exact ih
  | turn turn _ hcandid _ => exact hcandid.toplevels

variable [KeepsFocus T]

/-- Between turns, a mapped window that was last told to be active has the focus.

**Proof sketch.** A window that leaves may lose the focus before it is unmapped, and does not count
until then. Among the others, a step that gives a window the focus takes the activation from the one
that had it, since the toolkit knows to whom its surface belongs. -/
theorem activeFocused (h : Session Turn.Candid desktop server) :
    ActiveFocused (fun _ => false) server := by
  induction h with
  | create hc _ _ =>
    intro id face hf
    rw [face?_of_create hc] at hf
    cases hf
  | @start desktop server host _ ih =>
    have hstill := Still.start server host
    exact .of_untold hstill.shown.keyboardFocus_eq hstill.shown.lastActivation?_eq
      (ih.alike hstill.alike)
  | @turn desktop server turn hsession hcandid ih =>
    have hfair := hcandid.toFair
    have hs : Session Turn.Fair desktop server := hsession.mono fun _ _ _ hc => hc.toFair
    have u := hs.upheld
    have r := hs.ready hfair
    have hstart : ActiveFocused (desktop.takes turn.emission) (turn.start server) := by
      intro id face hf hm hstays ha
      have hfocus := ih id face hf hm rfl ha
      rcases hfair.opening_focus with ho | ho
      · exact ho.trans hfocus
      · exact ho.trans (Desktop.held_of_takes_eq_false hfocus hstays)
    have howner (records : List Record) (toolkit : T) (hled : Led records turn.opening toolkit)
        (id : WindowId) (face : Face) (hf : server.windows.face? id = some face)
        (hstays : desktop.takes turn.emission face.surface = false) :
        Toolkit.toplevelOf toolkit face.surface = some face.toplevel := by
      obtain ⟨window, hw, ht, hs, -⟩ := u.known hf
      have hlives : turn.emission.signal = .destroy → window.toplevel ≠ turn.emission.handle := by
        intro hd he
        have htakes := (r.takes_iff hf).2 (.inr (decide_eq_true ⟨hd, ht.symm.trans he⟩))
        rw [hstays] at htakes
        cases htakes
      obtain ⟨kept, hk, ht', hs', -⟩ := Desktop.exists_mem_after hw hlives
      have howns := hcandid.owners records toolkit hled kept hk
      rwa [hs', ht', hs, ht] at howns
    have hdispatched := hstart.moved (hs.moved hfair) howner
      fun id other face found hf hf' hne => u.toplevel_ne hsession.toplevels hf hf' hne
    intro id face hf hm _ ha
    have hstays : desktop.takes turn.emission face.surface = false := by
      by_contra htakes
      rw [(hs.left hfair hf).2 (by simpa using htakes)] at hm
      cases hm
    have hfocus := hdispatched id face hf hm hstays ha
    exact hfair.closing_focus.trans (Desktop.held_of_takes_eq_false hfocus hstays)

end Session

/-- **Focus, front and activation.** Between the turns of a session, a mapped window whose root
surface has the focus is the front of the focus stack; a mapped window whose toplevel was last told
that it is active has the focus; and there is at most one such window.

**Proof sketch.** The focus is in front, see `Session.upheld`, and no two windows share a root
surface. An active window has the focus, see `Session.activeFocused`, so that two of them have the
same root surface. -/
theorem focus_front_active [KeepsFocus T] (h : Session Turn.Candid desktop server) :
    (∀ id window, server.windows.get? id = some window → window.mapped = true →
      Toolkit.keyboardFocus server.toolkit = some window.surface →
        server.windows.front? = some id) ∧
    (∀ id window, server.windows.get? id = some window → window.mapped = true →
      server.lastActivation? window.toplevel = some true →
        Toolkit.keyboardFocus server.toolkit = some window.surface) ∧
    (∀ id other window found, server.windows.get? id = some window →
      server.windows.get? other = some found → window.mapped = true → found.mapped = true →
      server.lastActivation? window.toplevel = some true →
      server.lastActivation? found.toplevel = some true → id = other) := by
  have hs : Session Turn.Fair desktop server := h.mono fun _ _ _ hc => hc.toFair
  have u := hs.upheld
  have hactive (id : WindowId) (window : Window) (hw : server.windows.get? id = some window)
      (hm : window.mapped = true) (ha : server.lastActivation? window.toplevel = some true) :
      Toolkit.keyboardFocus server.toolkit = some window.surface :=
    h.activeFocused id window.face (WindowTable.face?_of_get? hw) hm rfl ha
  refine ⟨fun id window hw _ hfocus => ?_, hactive, ?_⟩
  · obtain ⟨front, face, hfront, hf, he⟩ := u.front _ hfocus
    obtain rfl : front = id := u.apart.id_eq hf (WindowTable.face?_of_get? hw) he
    exact hfront
  · intro id other window found hw hfound hm hm' ha ha'
    have hfocus := hactive id window hw hm ha
    rw [hactive other found hfound hm' ha'] at hfocus
    exact u.apart.id_eq (WindowTable.face?_of_get? hw) (WindowTable.face?_of_get? hfound)
      (Option.some.inj hfocus).symm

/-! ## Two windows -/

/-- A headless toolkit keeps the owners of surfaces. -/
lemma toplevelOf_of_led {records : List Record} {before after : Headless}
    (h : Led records before after) : after.toplevelOf = before.toplevelOf := by
  induction records generalizing after with
  | nil =>
    obtain rfl : after = before := h
    rfl
  | cons record earlier ih =>
    obtain ⟨middle, hearlier, hlast⟩ := h
    refine Eq.trans ?_ (ih hearlier)
    cases record with
    | command given =>
      obtain rfl : after = middle.perform given := hlast
      cases given <;> rfl
    | toplevelScene toplevel node => cases hlast; rfl
    | popupScene popup parent node => cases hlast; rfl
    | connected handle signal token => cases hlast; rfl
    | _ => cases hlast; rfl

/-- Checks that a turn without buttons is candid. -/
def Turn.isCandid (desktop : Desktop) (server : Server Headless) (turn : Turn Headless) : Bool :=
  turn.isFair desktop server &&
    (desktop.after turn.emission).windows.all (fun window =>
      turn.opening.toplevelOf[window.surface]? == some window.toplevel) &&
    (desktop.after turn.emission).windows.Pairwise fun window other =>
      window.toplevel ≠ other.toplevel

/-- The check of a turn is right: what it has passed is candid. The owner of each root surface is
looked up before the turn, and the journal's commands do not change it. -/
lemma Turn.candid_of_isCandid (desktop : Desktop) (server : Server Headless) (turn : Turn Headless)
    (h : turn.isCandid desktop server = true) : turn.Candid desktop server := by
  obtain ⟨h, htoplevels⟩ := Bool.and_eq_true_iff.1 h
  obtain ⟨hfair, howners⟩ := Bool.and_eq_true_iff.1 h
  refine ⟨Turn.fair_of_isFair desktop server turn hfair, ?_, of_decide_eq_true htoplevels⟩
  intro records toolkit hled window hw
  have howner := eq_of_beq (List.all_eq_true.1 howners window hw)
  rw [← toplevelOf_of_led hled] at howner
  exact howner

/-- The second of two windows is active. -/
theorem focus_front_active_two : ∃ (server : Server Headless) (window : Window),
    server.windows.get? ⟨2⟩ = some window ∧ window.mapped = true ∧
      server.lastActivation? window.toplevel = some true ∧
      Toolkit.keyboardFocus server.toolkit = some window.surface ∧
      server.windows.front? = some ⟨2⟩ := by
  have hplayed : (rehearse Turn.isCandid ⟨Headless.standard.shell, []⟩ standard twoWindows).any
      (fun state => (state.2.windows.get? ⟨2⟩).any fun window =>
        window.mapped && state.2.lastActivation? window.toplevel == some true) = true := by
    decide +kernel
  obtain ⟨desktop, server, hsession, hseen⟩ := Session.exists_of_rehearse
    Turn.candid_of_isCandid _ (fun server => (server.windows.get? ⟨2⟩).any fun window =>
      window.mapped && server.lastActivation? window.toplevel == some true) hplayed
  obtain ⟨window, hw, hactive⟩ := Option.any_eq_true _ _ |>.1 hseen
  obtain ⟨hm, ha⟩ := Bool.and_eq_true_iff.1 hactive
  obtain ⟨hfront, hfocus, -⟩ := focus_front_active hsession
  have hfocused := hfocus ⟨2⟩ window hw hm (eq_of_beq ha)
  exact ⟨server, window, hw, hm, eq_of_beq ha, hfocused, hfront ⟨2⟩ window hw hm hfocused⟩

end Compositor.Server
