import Compositor.Proofs.Server.Passage

set_option autoImplicit false

/-!
# Windows that are attended to

Between the turns of a session in which the toolkit keeps its promises, the server knows its
windows: each record is that of a live window, has the callbacks on which its state depends, and is
mapped when the window is. The focus is in front at these times. This module carries all of this
from turn to turn, and says what a turn comes to, so that nothing further has to be said of
callbacks.

## Main definitions

* `Server.Upheld` — what holds between turns.

## Main results

* `Server.Session.upheld` — it holds throughout a session.
* `Server.Session.moved` — what a turn is seen to do.
* `Server.Session.left` — the windows that leave are unmapped, and those that are destroyed gone.
-/

namespace Compositor

namespace WindowTable.FocusInFront

/-- A focus that is taken is not anywhere. -/
lemma filter {focus : Option Handle} {table : WindowTable} (h : FocusInFront focus table)
    (stays : Handle → Bool) : FocusInFront (focus.filter stays) table :=
  fun surface hs => h surface (Option.filter_eq_some_iff.1 hs).1

end WindowTable.FocusInFront

namespace Server

variable {T : Type} {desktop : Desktop} {emission : Emission}

/-! ## Live windows and records -/

namespace Desktop

/-- A live window that is not destroyed is there afterwards. If it is mapped then, it is just being
mapped, or it was mapped and is not being unmapped. -/
lemma exists_mem_after {window : LiveWindow} (hw : window ∈ desktop.windows)
    (hd : emission.signal = .destroy → window.toplevel ≠ emission.handle) :
    ∃ kept ∈ (desktop.after emission).windows, kept.toplevel = window.toplevel ∧
      kept.surface = window.surface ∧ (kept.mapped = true →
        emission.signal = .map ∧ window.surface = emission.handle ∨
        window.mapped = true ∧
          ¬ (emission.signal = .unmap ∧ window.surface = emission.handle)) := by
  unfold after
  cases hs : emission.signal
  case newToplevel =>
    exact ⟨window, List.mem_append_left _ hw, rfl, rfl, fun hm => .inr ⟨hm, nofun⟩⟩
  case map =>
    refine ⟨_, List.mem_map_of_mem hw, ?_⟩
    unfold LiveWindow.mark
    split <;> rename_i he
    · exact ⟨rfl, rfl, fun _ => .inl ⟨rfl, he⟩⟩
    · exact ⟨rfl, rfl, fun hm => .inr ⟨hm, nofun⟩⟩
  case unmap =>
    refine ⟨_, List.mem_map_of_mem hw, ?_⟩
    unfold LiveWindow.mark
    split <;> rename_i he
    · exact ⟨rfl, rfl, nofun⟩
    · exact ⟨rfl, rfl, fun hm => .inr ⟨hm, fun h => he h.2⟩⟩
  case destroy =>
    refine ⟨window, List.mem_filter.2 ⟨hw, decide_eq_true (hd hs)⟩, rfl, rfl, ?_⟩
    exact fun hm => .inr ⟨hm, nofun⟩
  all_goals exact ⟨window, hw, rfl, rfl, fun hm => .inr ⟨hm, nofun⟩⟩

/-- An announced window is there afterwards. -/
lemma windows_after_of_announced {window : LiveWindow} (hs : emission.signal = .newToplevel)
    (ha : desktop.announced? emission = some window) :
    (desktop.after emission).windows = desktop.windows ++ [window] := by
  unfold after
  rw [hs, ha]
  rfl

end Desktop

variable [Toolkit T] {start server before after : Server T} {origin : T} {id : WindowId}
  {face : Face}

/-- What holds between turns. -/
structure Upheld (desktop : Desktop) (server : Server T) : Prop where
  /-- Records are those of live windows. If a window is mapped, so is its record. -/
  known {id : WindowId} {face : Face} : server.windows.face? id = some face →
    ∃ window ∈ desktop.windows, window.toplevel = face.toplevel ∧ window.surface = face.surface ∧
      (window.mapped = true → face.mapped = true)
  /-- Live windows share no objects. -/
  desktop_apart : desktop.Apart
  /-- Neither do records. -/
  apart : server.windows.Apart
  /-- Windows have their callbacks. -/
  attended {id : WindowId} {face : Face} : server.windows.face? id = some face →
    Attended server id face.toplevel face.surface
  /-- The focus is in front. -/
  front : server.windows.FocusInFront (Toolkit.keyboardFocus server.toolkit)

/-! ## Dispatches -/

namespace Moved

/-- A window was there before, or it is the one that was announced. -/
lemma face?_cases (h : Moved desktop emission start after)
    (hf : after.windows.face? id = some face) :
    (∃ mapped, start.windows.face? id = some { face with mapped } ∧
      (mapped = true → desktop.takes emission face.surface = false → face.mapped = true)) ∨
    emission.signal = .newToplevel ∧ face.mapped = false ∧
      desktop.announced? emission = some ⟨face.toplevel, face.surface, false⟩ := by
  cases h with
  | passed passage => exact .inl (passage.keeps id face hf)
  | appeared signal announced step =>
    rw [step.added.face?_eq] at hf
    split at hf
    · cases hf
      exact .inr ⟨signal, step.added.mapped_eq, announced⟩
    · exact .inl ⟨face.mapped, hf, fun hm _ => hm⟩
  | popped _ step =>
    rw [step.windows_eq] at hf
    exact .inl ⟨face.mapped, hf, fun hm _ => hm⟩

/-- What is left of the focus is in front. -/
lemma focusInFront [KeepsFocus T] (h : Moved desktop emission start after)
    (hf : start.windows.FocusInFront (heldFocus (desktop.takes emission) start)) :
    after.windows.FocusInFront (heldFocus (desktop.takes emission) after) := by
  cases h with
  | passed passage => exact passage.focusInFront hf
  | appeared _ _ step =>
    have hfocus : heldFocus (desktop.takes emission) after =
        heldFocus (desktop.takes emission) start :=
      congrArg (Option.filter _) step.shown.keyboardFocus_eq
    rw [hfocus]
    exact hf.added step.added
  | popped _ step =>
    have hfocus : heldFocus (desktop.takes emission) after =
        heldFocus (desktop.takes emission) start :=
      congrArg (Option.filter _) step.shown.keyboardFocus_eq
    rw [hfocus, step.windows_eq]
    exact hf

end Moved

namespace Upheld

variable {turn : Turn T}

/-- Between turns, the server is ready for an event. -/
lemma ready (u : Upheld desktop server) (h : Driven origin (turn.start server))
    (hfair : turn.Fair desktop server) : Ready desktop turn.emission (turn.start server) where
  orderly := h.reachable.orderly
  isOpen := h.placed.isOpen
  apart := u.apart
  attended := u.attended
  front := by
    have hheld := u.front.filter fun surface => !desktop.takes turn.emission surface
    rcases hfair.opening_focus with hopening | hopening
    · have hfocus : heldFocus (desktop.takes turn.emission) (turn.start server) =
          desktop.held turn.emission (Toolkit.keyboardFocus server.toolkit) :=
        congrArg (Option.filter _) hopening
      rw [hfocus]
      exact hheld
    · have hfocus : heldFocus (desktop.takes turn.emission) (turn.start server) =
          (desktop.held turn.emission (Toolkit.keyboardFocus server.toolkit)).filter _ :=
        congrArg (Option.filter _) hopening
      rw [hfocus]
      exact hheld.filter _
  takes_iff {id face} hf := by
    obtain ⟨window, hw, ht, hs, -⟩ := u.known hf
    unfold Desktop.takes Emission.destroys
    cases hsignal : turn.emission.signal
    case unmap => simp
    case destroy =>
      simp only [decide_eq_true_eq, reduceCtorEq, false_and, true_and, false_or]
      constructor
      · rintro (he | ⟨other, ho, ht', hs'⟩)
        · rw [← ht]
          exact hfair.toplevel_first hsignal window hw (hs.trans he)
        · obtain rfl := u.desktop_apart.eq hw ho (hs.trans hs'.symm)
          rw [← ht, ht']
      · exact fun he => .inr ⟨window, hw, ht.trans he, hs⟩
    all_goals simp
  toplevel_first {id face} hf hsignal he := by
    obtain ⟨window, hw, ht, hs, -⟩ := u.known hf
    rw [← ht]
    exact hfair.toplevel_first hsignal window hw (hs.trans he)
  hits {time button state} he place hit hhit id window hw howner := by
    obtain ⟨live, hl, ht, -, hm⟩ := u.known (WindowTable.face?_of_get? hw)
    exact hm (hfair.hits_mapped time button state he place hit hhit live hl (ht ▸ howner))

end Upheld

/-! ## Turns -/

namespace Ready

variable (r : Ready desktop emission start) (p : Placed origin start)
  (h : Moved desktop emission start
    (start.dispatch emission.handle emission.signal emission.event).server)
  (hf : (start.dispatch emission.handle emission.signal emission.event).server.windows.face? id =
    some face)

include r p h hf

/-- A window that was destroyed is gone. -/
lemma destroys_eq_false : emission.destroys face = false := by
  rw [Bool.eq_false_iff]
  intro hd
  obtain ⟨hs, ht⟩ := of_decide_eq_true hd
  rcases h.face?_cases hf with ⟨mapped, hold, -⟩ | ⟨hs', -, -⟩
  · have hsettles : Settles id face.toplevel face.surface emission.handle emission.signal
        (.toplevelDestroyed id) none := by
      rw [hs, ← ht]
      exact .destroy
    have hsettled := r.settled p hold hsettles face hf
    cases hsettled
  · rw [hs] at hs'
    cases hs'

/-- A window that leaves is unmapped. -/
lemma mapped_eq_false_of_takes (htakes : desktop.takes emission face.surface = true) :
    face.mapped = false := by
  rcases h.face?_cases hf with ⟨mapped, hold, -⟩ | ⟨hs, hm, -⟩
  · have hcases := (r.takes_iff hold).1 htakes
    rcases hcases with ⟨hs, hsurface⟩ | hd
    · have hsettles : Settles id face.toplevel face.surface emission.handle emission.signal
          (.unmap id) (some false) := by
        rw [hs, ← hsurface]
        exact .unmap
      exact (Option.some.inj (r.settled p hold hsettles face hf)).symm
    · have hstays := r.destroys_eq_false p h hf
      exact absurd hd (Bool.eq_false_iff.1 hstays)
  · exact hm

/-- A window that is being mapped is mapped. -/
lemma mapped_of_map (hs : emission.signal = .map) (hsurface : face.surface = emission.handle) :
    face.mapped = true := by
  rcases h.face?_cases hf with ⟨mapped, hold, -⟩ | ⟨hs', -, -⟩
  · have hsettles : Settles id face.toplevel face.surface emission.handle emission.signal
        (.map id) (some true) := by
      rw [hs, ← hsurface]
      exact .map
    exact (Option.some.inj (r.settled p hold hsettles face hf)).symm
  · rw [hs] at hs'
    cases hs'

end Ready

namespace Upheld

variable {turn : Turn T}

/-- Records are those of live windows after a turn as well. -/
lemma known_result (u : Upheld desktop server) (p : Placed origin (turn.start server))
    (r : Ready desktop turn.emission (turn.start server))
    (h : Moved desktop turn.emission (turn.start server) (turn.dispatched server))
    (hf : (turn.dispatched server).windows.face? id = some face) :
    ∃ window ∈ (desktop.after turn.emission).windows, window.toplevel = face.toplevel ∧
      window.surface = face.surface ∧ (window.mapped = true → face.mapped = true) := by
  rcases h.face?_cases hf with ⟨mapped, hold, hstays⟩ | ⟨hs, hm, ha⟩
  · obtain ⟨window, hw, ht, hsurface, hmapped⟩ := u.known hold
    have hd := r.destroys_eq_false p h hf
    have hlives : turn.emission.signal = .destroy → window.toplevel ≠ turn.emission.handle :=
      fun hs he => of_decide_eq_false hd ⟨hs, ht.symm.trans he⟩
    obtain ⟨kept, hk, ht', hs', hkept⟩ := Desktop.exists_mem_after hw hlives
    refine ⟨kept, hk, ht'.trans ht, hs'.trans hsurface, fun hm => ?_⟩
    rcases hkept hm with ⟨hs, he⟩ | ⟨hm, hn⟩
    · exact r.mapped_of_map p h hf hs (hsurface.symm.trans he)
    · refine hstays (hmapped hm) (Bool.eq_false_iff.2 fun htakes => ?_)
      have hcases := (r.takes_iff hold).1 htakes
      rcases hcases with ⟨hs, he⟩ | hd'
      · exact hn ⟨hs, hsurface.trans he⟩
      · exact absurd hd' (Bool.eq_false_iff.1 hd)
  · refine ⟨⟨face.toplevel, face.surface, false⟩, ?_, rfl, rfl, nofun⟩
    rw [Desktop.windows_after_of_announced hs ha]
    exact List.mem_append_right _ (List.mem_singleton.2 rfl)

/-- Records share no objects after a turn either. -/
lemma apart_result (u : Upheld desktop server)
    (ha : (desktop.after turn.emission).Apart)
    (h : Moved desktop turn.emission (turn.start server) (turn.dispatched server)) :
    (turn.dispatched server).windows.Apart := by
  cases h with
  | passed passage =>
    have hstart : (turn.start server).windows.Apart := u.apart
    exact hstart.keeps passage.keeps
  | @appeared id face signal announced step =>
    unfold Desktop.Apart at ha
    rw [Desktop.windows_after_of_announced signal announced] at ha
    have hnew {other : WindowId} {found : Face}
        (hfound : server.windows.face? other = some found) :
        LiveWindow.Apart ⟨found.toplevel, found.surface, false⟩
          ⟨face.toplevel, face.surface, false⟩ := by
      obtain ⟨window, hw, ht, hs, -⟩ := u.known hfound
      have happart := (List.pairwise_append.1 ha).2.2 window hw _ (List.mem_singleton.2 rfl)
      unfold LiveWindow.Apart at happart ⊢
      rwa [ht, hs] at happart
    intro first second one another hf hf' hne
    rw [step.added.face?_eq] at hf hf'
    split at hf <;> rename_i hfirst <;> split at hf' <;> rename_i hsecond
    · exact absurd (hfirst.trans hsecond.symm) hne
    · cases hf
      obtain ⟨hs, ht, hs'⟩ := hnew hf'
      exact ⟨hs.symm, hs'.symm⟩
    · cases hf'
      obtain ⟨hs, ht, -⟩ := hnew hf
      exact ⟨hs, ht⟩
    · exact u.apart first second one another hf hf' hne
  | popped _ step =>
    rw [step.windows_eq]
    exact u.apart

/-- A turn in which promises are kept. -/
lemma result [KeepsFocus T] (u : Upheld desktop server) (h : Driven origin (turn.start server))
    (hshell : Toolkit.shell origin = desktop.shell) (hfair : turn.Fair desktop server) :
    Upheld (desktop.after turn.emission) (turn.result server) := by
  have r := u.ready h hfair
  have hmoved := r.moved h.placed hshell
  exact {
    known := fun hf => u.known_result h.placed r hmoved hf
    desktop_apart := hfair.apart
    apart := u.apart_result hfair.apart hmoved
    attended := fun hf => r.attended_dispatch h.placed hf (r.destroys_eq_false h.placed hmoved hf)
    front := by
      have hfocus : Toolkit.keyboardFocus (turn.result server).toolkit =
          heldFocus (desktop.takes turn.emission) (turn.dispatched server) := hfair.closing_focus
      rw [hfocus]
      exact hmoved.focusInFront r.front }

/-- A new server has no windows, and no surface has the focus. -/
lemma of_create [KeepsFocus T] {toolkit : T} {config : Config} {display : Option String}
    (h : create toolkit config display = .ok server)
    (hfocus : Toolkit.keyboardFocus toolkit = none) (shell : Handle) :
    Upheld ⟨shell, []⟩ server := by
  obtain ⟨bindings, hstill⟩ := Still.of_create h
  have hnone {id : WindowId} {face : Face} : server.windows.face? id ≠ some face := by
    rw [face?_of_create h]
    exact nofun
  exact {
    known := fun hf => absurd hf hnone
    desktop_apart := List.Pairwise.nil
    apart := fun _ _ _ _ hf => absurd hf hnone
    attended := fun hf => absurd hf hnone
    front := by
      have hnowhere : Toolkit.keyboardFocus server.toolkit = none :=
        hstill.shown.keyboardFocus_eq.trans hfocus
      rw [hnowhere]
      exact .of_none _ }

/-- The opening of the display changes nothing. -/
lemma of_start [KeepsFocus T] (u : Upheld desktop server) (host : Host) :
    Upheld desktop (server.start host).server := by
  have hstill := Still.start server host
  have hsteady : Steady [] server (server.start host).server := .start server host
  have hregistry := hsteady.registry_eq
  have hold {id : WindowId} {face : Face}
      (hf : (server.start host).server.windows.face? id = some face) :
      server.windows.face? id = some face := (hstill.alike.face?_eq id).symm.trans hf
  exact {
    known := fun hf => u.known (hold hf)
    desktop_apart := u.desktop_apart
    apart := fun id other face found hf hf' => u.apart id other face found (hold hf) (hold hf')
    attended := fun hf => by
      unfold Attended
      rw [hregistry]
      exact u.attended (hold hf)
    front := by
      have hfocus : Toolkit.keyboardFocus (server.start host).server.toolkit =
          Toolkit.keyboardFocus server.toolkit := hstill.shown.keyboardFocus_eq
      rw [hfocus]
      exact u.front.alike hstill.alike }

end Upheld

/-! ## Sessions -/

namespace Session

variable [KeepsFocus T] {turn : Turn T}

/-- **Windows are attended to throughout.** -/
theorem upheld (h : Session Turn.Fair desktop server) : Upheld desktop server := by
  induction h with
  | create hc _ hn => exact .of_create hc hn _
  | start host _ ih => exact ih.of_start host
  | turn turn hsession hfair ih =>
    obtain ⟨origin, hdriven, hshell⟩ := hsession.driven
    exact ih.result (.toolkit turn.opening hdriven) hshell hfair

variable (h : Session Turn.Fair desktop server) (hfair : turn.Fair desktop server)

include h hfair

/-- What a turn relies on. -/
lemma ready : Ready desktop turn.emission (turn.start server) := by
  obtain ⟨origin, hdriven, -⟩ := h.driven
  exact h.upheld.ready (.toolkit turn.opening hdriven) hfair

/-- What a turn is seen to do. -/
theorem moved : Moved desktop turn.emission (turn.start server) (turn.dispatched server) := by
  obtain ⟨origin, hdriven, hshell⟩ := h.driven
  exact (h.ready hfair).moved (Driven.toolkit turn.opening hdriven).placed hshell

/-- After a turn the windows that leave are unmapped, and those that are destroyed are gone. -/
theorem left (hf : (turn.dispatched server).windows.face? id = some face) :
    turn.emission.destroys face = false ∧
      (desktop.takes turn.emission face.surface = true → face.mapped = false) := by
  obtain ⟨origin, hdriven, -⟩ := h.driven
  have p : Placed origin (turn.start server) := (Driven.toolkit turn.opening hdriven).placed
  have r := h.ready hfair
  have hmoved := h.moved hfair
  exact ⟨r.destroys_eq_false p hmoved hf, r.mapped_eq_false_of_takes p hmoved hf⟩

end Session

end Server

end Compositor
