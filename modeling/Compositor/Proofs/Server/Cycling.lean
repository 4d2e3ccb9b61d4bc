import Compositor.Proofs.Server.Holding
import Compositor.Proofs.Server.Passage
import Mathlib.Algebra.Ring.Parity
import Mathlib.Logic.Function.Iterate

set_option autoImplicit false

/-!
# Cycling through the windows

To cycle the focus is to focus the window behind the front one. This puts the window that was in
front behind it, so that cycling once more goes back: two windows take turns in front, however many
there are, and those behind them are never reached. Each time the window that comes to the front is
told that it is active, and the one that it takes the place of that it is not.

## Main definitions

* `Server.Facing` — two windows are in front of the others, and the first has the focus.
* `Server.ToldActive` — which of two toplevels was last told to be active.

## Main results

* `Server.Facing.cycleFocus` — the two windows change places.
* `Server.Facing.iterate` — what becomes of them after any number of turns.
* `Server.cycling_alternates` — the two front windows take turns.
-/

namespace Compositor.Server

variable {T : Type} [Toolkit T] {server : Server T} {first second : WindowId}
  {rest : List WindowId} {front behind : Face}

/-- Two windows are in front of the others, and the first has the focus. -/
structure Facing (first second : WindowId) (rest : List WindowId) (front behind : Face)
    (server : Server T) : Prop where
  /-- Records and stack agree. -/
  orderly : Orderly server
  /-- The two windows are in front of the others. -/
  stack_eq : server.windows.stack = first :: second :: rest
  /-- What can be seen of the first. -/
  front_eq : server.windows.face? first = some front
  /-- What can be seen of the second. -/
  behind_eq : server.windows.face? second = some behind
  /-- The first has the focus. -/
  focus_eq : Toolkit.keyboardFocus server.toolkit = some front.surface

/-- One toplevel was last told to be active, and another one not to be. -/
def ToldActive (active inactive : Handle) (server : Server T) : Prop :=
  server.lastActivation? active = some true ∧ server.lastActivation? inactive = some false

/-! ## One turn -/

omit [Toolkit T] in
/-- No window is stacked twice. -/
lemma Orderly.ne_of_stack_eq (o : Orderly server)
    (h : server.windows.stack = first :: second :: rest) : first ≠ second := by
  have hnodup := o.agrees.stack_nodup
  rw [h] at hnodup
  exact fun he => (List.nodup_cons.1 hnodup).1 (by simp [he])

/-- The window behind the front one gets the focus. -/
lemma Facing.focused (f : Facing first second rest front behind server)
    (hs : front.surface ≠ behind.surface) : Focused second behind server server.cycleFocus := by
  obtain ⟨window, hw, rfl⟩ := WindowTable.exists_of_face? f.behind_eq
  have hmem : second ∈ server.windows.stack := by
    rw [f.stack_eq]
    simp
  obtain ⟨found, hfound, hm⟩ := f.orderly.agrees.mem_stack_iff.1 hmem
  obtain rfl : found = window := Option.some.inj (hfound.symm.trans hw)
  have hnext : server.windows.next? = some second := by
    rw [WindowTable.next?, f.stack_eq]
    rfl
  have hcycled : server.cycleFocus = server.focusWindow second found.surface := by
    unfold Server.cycleFocus
    rw [hnext]
    dsimp only
    rw [hw]
  have hother : Toolkit.keyboardFocus server.toolkit ≠ some found.surface := by
    rw [f.focus_eq]
    exact fun h => hs (Option.some.inj h)
  rw [hcycled]
  exact .focusWindow hother hw rfl (.moveToFront f.orderly.agrees hw hm) rfl rfl

/-- The window that gets the focus is told so, and so is the one that had it. -/
lemma Facing.told (f : Facing first second rest front behind server)
    (hs : front.surface ≠ behind.surface) (ht : front.toplevel ≠ behind.toplevel)
    (howner : Toolkit.toplevelOf server.toolkit front.surface = some front.toplevel) :
    ToldActive behind.toplevel front.toplevel server.cycleFocus := by
  have hshown := (f.focused hs).shown
  have hdeactivated : deactivated? server.toolkit behind.toplevel = some front.toplevel := by
    simp [deactivated?, f.focus_eq, howner, Option.filter_some, ht]
  unfold ToldActive
  rw [hshown.lastActivation?_eq, hshown.lastActivation?_eq, hdeactivated]
  simp [focusRecords, List.findSome?_cons, Record.activation?, ht.symm]

/-- **The two windows change places.** -/
theorem Facing.cycleFocus [KeepsFocus T] (f : Facing first second rest front behind server)
    (hs : front.surface ≠ behind.surface) :
    Facing second first rest behind front server.cycleFocus := by
  have hfocused := f.focused hs
  have hne := f.orderly.ne_of_stack_eq f.stack_eq
  refine ⟨f.orderly.cycleFocus, ?_, ?_, ?_, hfocused.keyboardFocus_eq⟩
  · rw [hfocused.fronted.stack_eq, f.stack_eq, List.erase_cons_tail (by simpa using hne),
      List.erase_cons_head]
  · rw [hfocused.fronted.face?_eq, if_pos rfl]
  · rw [hfocused.fronted.face?_eq, if_neg hne]
    exact f.front_eq

/-! ## Any number of turns -/

/-- Cycling the focus changes no record, however often. -/
lemma get?_cycleFocus_iterate (server : Server T) (k : ℕ) (id : WindowId) :
    (Server.cycleFocus^[k] server).windows.get? id = server.windows.get? id := by
  induction k generalizing server with
  | zero => rfl
  | succ k ih => rw [Function.iterate_succ_apply, ih, get?_cycleFocus]

/-- After an even number of turns the two windows are where they were, after an odd number they have
changed places; and from the first turn on, the window in front was last told that it is active, and
the one behind it that it is not. -/
theorem Facing.iterate [KeepsFocus T] (f : Facing first second rest front behind server)
    (hs : front.surface ≠ behind.surface) (ht : front.toplevel ≠ behind.toplevel) (k : ℕ)
    (howners : ∀ j < k, ∀ face ∈ [front, behind], Toolkit.toplevelOf
      (Server.cycleFocus^[j] server).toolkit face.surface = some face.toplevel) :
    (Even k → Facing first second rest front behind (Server.cycleFocus^[k] server) ∧
      (0 < k → ToldActive front.toplevel behind.toplevel (Server.cycleFocus^[k] server))) ∧
    (Odd k → Facing second first rest behind front (Server.cycleFocus^[k] server) ∧
      ToldActive behind.toplevel front.toplevel (Server.cycleFocus^[k] server)) := by
  induction k generalizing server first second front behind with
  | zero => exact ⟨fun _ => ⟨f, fun h => absurd h (Nat.lt_irrefl 0)⟩, fun h => absurd h (by decide)⟩
  | succ k ih =>
    have htold := f.told hs ht (howners 0 (Nat.succ_pos k) front (by simp))
    obtain ⟨heven, hodd⟩ := ih (f.cycleFocus hs) hs.symm ht.symm fun j hj face hface =>
      howners (j + 1) (Nat.succ_lt_succ hj) face (by simpa [or_comm] using hface)
    rw [Function.iterate_succ_apply]
    refine ⟨fun h => ?_, fun h => ?_⟩
    · obtain ⟨hfacing, hlast⟩ := hodd (Nat.not_even_iff_odd.1 (Nat.even_add_one.1 h))
      exact ⟨hfacing, fun _ => hlast⟩
    · obtain ⟨hfacing, hlast⟩ := heven (Nat.not_odd_iff_even.1 (Nat.odd_add_one.1 h))
      refine ⟨hfacing, ?_⟩
      rcases k.eq_zero_or_pos with rfl | hpos
      · exact htold
      · exact hlast hpos

/-- **The two front windows take turns.** Let the front one of at least two stacked windows have the
focus on its root surface, let live windows have distinct toplevels and root surfaces, and let the
toolkit know all the while to which toplevel a root surface belongs. After any number of turns the
records are as they were. If the number is even, so is the order of the windows; if it is odd, the
first two have changed places and the others are where they were. The window in front has the focus
on its root surface; and after at least one turn its toplevel was last told that it is active, and
the toplevel of the other one that it is not.

**Proof sketch.** One turn makes the second window the first one, with the focus, and tells both.
The two windows are then as before with their parts exchanged, and the rest follows by induction. -/
theorem cycling_alternates [KeepsFocus T] {servings : List Serving}
    (h : Reachable server servings)
    (hstack : server.windows.stack = first :: second :: rest) {window : Window}
    (hw : server.windows.get? first = some window)
    (hfocus : Toolkit.keyboardFocus server.toolkit = some window.surface)
    (htoplevels : server.windows.Distinct Window.toplevel)
    (hsurfaces : server.windows.Distinct Window.surface) (k : ℕ)
    (howners : ∀ j < k, ∀ id found, server.windows.get? id = some found → Toolkit.toplevelOf
      (Server.cycleFocus^[j] server).toolkit found.surface = some found.toplevel) :
    ∃ next, server.windows.get? second = some next ∧
      let cycled := Server.cycleFocus^[k] server
      (∀ id, cycled.windows.get? id = server.windows.get? id) ∧
      (Even k → cycled.windows.stack = first :: second :: rest ∧
        Toolkit.keyboardFocus cycled.toolkit = some window.surface ∧
        (0 < k → cycled.lastActivation? window.toplevel = some true ∧
          cycled.lastActivation? next.toplevel = some false)) ∧
      (Odd k → cycled.windows.stack = second :: first :: rest ∧
        Toolkit.keyboardFocus cycled.toolkit = some next.surface ∧
        cycled.lastActivation? next.toplevel = some true ∧
        cycled.lastActivation? window.toplevel = some false) := by
  have hne := h.orderly.ne_of_stack_eq hstack
  obtain ⟨next, hnext, -⟩ : ∃ next, server.windows.get? second = some next ∧ next.mapped = true :=
    h.orderly.agrees.mem_stack_iff.1 (by simp [hstack])
  have hfacing : Facing first second rest window.face next.face server :=
    ⟨h.orderly, hstack, WindowTable.face?_of_get? hw, WindowTable.face?_of_get? hnext, hfocus⟩
  have hs : window.surface ≠ next.surface := fun he => hne (hsurfaces _ _ _ _ hw hnext he)
  have ht : window.toplevel ≠ next.toplevel := fun he => hne (htoplevels _ _ _ _ hw hnext he)
  obtain ⟨heven, hodd⟩ := hfacing.iterate hs ht k fun j hj face hface => by
    rcases List.mem_pair.1 hface with rfl | rfl
    · exact howners j hj first window hw
    · exact howners j hj second next hnext
  refine ⟨next, hnext, get?_cycleFocus_iterate server k, fun hk => ?_, fun hk => ?_⟩
  · obtain ⟨hturned, htold⟩ := heven hk
    exact ⟨hturned.stack_eq, hturned.focus_eq, htold⟩
  · obtain ⟨hturned, htold⟩ := hodd hk
    exact ⟨hturned.stack_eq, hturned.focus_eq, htold⟩

/-- Three windows were announced and mapped, one after another. -/
def threeMapped : Server Headless :=
  (standard.enact
    [([.window ⟨0x50⟩ ⟨0x51⟩ none none none],
        .emit ⟨0x20⟩ .newToplevel (.newToplevel ⟨0x50⟩ ⟨0x51⟩)),
      ([], .emit ⟨0x51⟩ .map .empty),
      ([.window ⟨0x60⟩ ⟨0x61⟩ none none none],
        .emit ⟨0x20⟩ .newToplevel (.newToplevel ⟨0x60⟩ ⟨0x61⟩)),
      ([], .emit ⟨0x61⟩ .map .empty),
      ([.window ⟨0x70⟩ ⟨0x71⟩ none none none],
        .emit ⟨0x20⟩ .newToplevel (.newToplevel ⟨0x70⟩ ⟨0x71⟩)),
      ([], .emit ⟨0x71⟩ .map .empty)]).2

/-- After three turns the second window is in front. The first one was never there. -/
theorem cycling_alternates_threeMapped :
    threeMapped.windows.stack = [⟨3⟩, ⟨2⟩, ⟨1⟩] ∧
      (Server.cycleFocus^[3] threeMapped).windows.stack = [⟨2⟩, ⟨3⟩, ⟨1⟩] ∧
      Toolkit.keyboardFocus (Server.cycleFocus^[3] threeMapped).toolkit = some ⟨0x61⟩ ∧
      (Server.cycleFocus^[3] threeMapped).lastActivation? ⟨0x60⟩ = some true ∧
      (Server.cycleFocus^[3] threeMapped).lastActivation? ⟨0x70⟩ = some false := by
  have hreachable : Reachable threeMapped [] := reachable_enact _
  have hstack : threeMapped.windows.stack = [⟨3⟩, ⟨2⟩, ⟨1⟩] := by decide +kernel
  have hfirst : (threeMapped.windows.get? ⟨3⟩).map (fun window =>
    (window.toplevel, window.surface)) = some (⟨0x70⟩, ⟨0x71⟩) := by decide +kernel
  have hsecond : (threeMapped.windows.get? ⟨2⟩).map (fun window =>
    (window.toplevel, window.surface)) = some (⟨0x60⟩, ⟨0x61⟩) := by decide +kernel
  have hfocus : Toolkit.keyboardFocus threeMapped.toolkit = some ⟨0x71⟩ := by decide +kernel
  have hdistinct : (threeMapped.windows.windows.map Window.toplevel).Nodup ∧
    (threeMapped.windows.windows.map Window.surface).Nodup := by decide +kernel
  have howners : ∀ j < 3, ∀ found ∈ threeMapped.windows.windows, Toolkit.toplevelOf
    (Server.cycleFocus^[j] threeMapped).toolkit found.surface = some found.toplevel := by
    decide +kernel
  obtain ⟨window, hw, he⟩ := Option.map_eq_some_iff.1 hfirst
  obtain ⟨htoplevel, hsurface⟩ := Prod.mk.injEq .. ▸ he
  have hid (id : WindowId) (found : Window) (h : threeMapped.windows.get? id = some found) :
      found.id = id := hreachable.orderly.agrees.id_eq h
  obtain ⟨next, hnext, -, -, hodd⟩ := cycling_alternates hreachable hstack hw
    (hsurface ▸ hfocus) (.of_nodup hid hdistinct.1) (.of_nodup hid hdistinct.2) 3
    fun j hj id found h => howners j hj found (WindowTable.mem_windows_iff.2 ⟨id, h⟩)
  rw [hnext] at hsecond
  obtain ⟨hnextToplevel, hnextSurface⟩ := Prod.mk.injEq .. ▸ Option.some.inj hsecond
  have hturned := hodd (by decide)
  rw [htoplevel, hnextToplevel, hnextSurface] at hturned
  exact ⟨hstack, hturned⟩

end Compositor.Server
