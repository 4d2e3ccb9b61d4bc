import Compositor.Proofs.Server.Focusing
import Compositor.Proofs.Server.Holding
import Compositor.Proofs.Server.Payloads

set_option autoImplicit false

/-!
# Mapping a window

A window that is mapped is put at the back of the focus stack, and it is the focus that brings it to
the front, where new windows belong. But a surface that has the focus already is not given it again.
So if the toolkit says that the focus is on the surface of a window which is not mapped, say because
it was there when the window was unmapped, the window stays behind the others when it is mapped.

## Main definitions

* `Callback.maps?` — the window that a callback maps.

## Main results

* `Server.Focused.handleMap`, `Server.handleMap_of_focused` — mapping with and without the focus.
* `Server.front_of_map_unless_focused` — which of the two a dispatch comes to.
* `Server.exists_mapped_behind` — a window that is left behind.
-/

namespace Compositor

/-- The window that a callback maps. -/
def Callback.maps? : Callback Handler → Option WindowId
  | .run (.map id) => some id
  | _ => none

namespace Server

variable {T : Type} [Toolkit T] {server : Server T} {id : WindowId} {window : Window}

/-! ## The handler -/

/-- A window is mapped that does not have the focus. It gets the focus. -/
lemma Focused.handleMap (hw : server.windows.get? id = some window)
    (hn : Toolkit.keyboardFocus server.toolkit ≠ some window.surface) :
    Focused id { window.face with mapped := true } server (server.handleMap id) := by
  have hget : ((server.windows.update id fun found => { found with mapped := true }).push id).get?
      id = some { window with mapped := true } := by
    rw [WindowTable.get?_push, WindowTable.get?_update, if_pos rfl, hw]
    rfl
  unfold Server.handleMap
  rw [hw]
  exact .focusWindow hn hget rfl (.map hw) rfl rfl

/-- A window is mapped that has the focus. It is put at the back and stays there. -/
lemma handleMap_of_focused (hw : server.windows.get? id = some window)
    (hf : Toolkit.keyboardFocus server.toolkit = some window.surface)
    (hs : id ∉ server.windows.stack) :
    (server.handleMap id).windows.stack = server.windows.stack ++ [id] ∧
      Shown [] server (server.handleMap id) := by
  let marked := server.windows.update id fun found => { found with mapped := true }
  let stacked : Server T := { server with windows := marked.push id }
  have hmapped : server.handleMap id = stacked := by
    have hfocus : Toolkit.keyboardFocus stacked.toolkit = some window.surface := hf
    unfold Server.handleMap
    rw [hw]
    exact focusWindow_of_focused hfocus id
  have hstack : marked.stack = server.windows.stack := WindowTable.stack_update _ _ _
  rw [hmapped]
  refine ⟨?_, .of_eq rfl rfl⟩
  have hnew : ¬ marked.stacked id = true := by rwa [WindowTable.stacked_iff, hstack]
  have hpushed : (marked.push id).stack = marked.stack ++ [id] := by
    unfold WindowTable.push
    rw [if_neg hnew]
  exact hpushed.trans (congrArg (· ++ [id]) hstack)

/-! ## Other callbacks of the signal -/

/-- Callbacks of the signal that map no window do nothing that can be seen of windows. They leave
the toolkit alone unless they retire an object. -/
lemma runCallback_of_maps?_eq_none {callback : Callback Handler} (hs : callback.Suits .map)
    (hn : callback.maps? = none) (server : Server T) (event : Event) :
    (server.runCallback event callback).result = .ok () ∧
      OnlyOutside server (server.runCallback event callback).server ∧
      Shown [] server (server.runCallback event callback).server ∧
      ((∀ handle, callback ≠ .retire handle) →
        (server.runCallback event callback).server.toolkit = server.toolkit) := by
  cases callback with
  | retire handle =>
    exact ⟨rfl, .retire server handle, .retire server handle, fun hr => absurd rfl (hr handle)⟩
  | run handler =>
    cases handler with
    | map other => cases hn
    | observe label =>
      exact ⟨rfl, ⟨_, _, _, rfl⟩, .of_invisible rfl rfl rfl, fun _ => rfl⟩
    | _ => cases hs _ rfl

/-- If the first callback has no fault, the others follow. -/
lemma serve_cons {event : Event} {callback : Callback Handler}
    (h : (server.runCallback event callback).result = .ok ()) (rest : List (Callback Handler)) :
    server.serve event (callback :: rest) =
        (server.runCallback event callback).server.serve event rest ∧
      server.serveMoments event (callback :: rest) = ⟨server, .callback event callback⟩ ::
        (server.runCallback event callback).server.serveMoments event rest := by
  conv in server.serve event (callback :: rest) => unfold Server.serve
  conv in server.serveMoments event (callback :: rest) => unfold serveMoments
  dsimp only
  rw [h]
  exact ⟨rfl, rfl⟩

/-- Several of them in turn do as little. -/
lemma serve_of_maps?_eq_none {callbacks : List (Callback Handler)}
    (hs : ∀ callback ∈ callbacks, callback.Suits .map)
    (hn : ∀ callback ∈ callbacks, callback.maps? = none) (server : Server T) (event : Event) :
    (server.serve event callbacks).result = .ok () ∧
      OnlyOutside server (server.serve event callbacks).server ∧
      Shown [] server (server.serve event callbacks).server ∧
      ((∀ handle, .retire handle ∉ callbacks) →
        (server.serve event callbacks).server.toolkit = server.toolkit) := by
  induction callbacks generalizing server with
  | nil => exact ⟨rfl, .refl server, .refl server, fun _ => rfl⟩
  | cons callback rest ih =>
    obtain ⟨hresult, hout, hshown, htoolkit⟩ := runCallback_of_maps?_eq_none
      (hs callback (List.mem_cons_self ..)) (hn callback (List.mem_cons_self ..)) server event
    obtain ⟨hresult', hout', hshown', htoolkit'⟩ :=
      ih (fun other ho => hs other (List.mem_cons_of_mem _ ho))
        (fun other ho => hn other (List.mem_cons_of_mem _ ho))
        (server.runCallback event callback).server
    rw [(serve_cons hresult rest).1]
    refine ⟨hresult', hout.trans hout', hshown.trans hshown', fun hr => ?_⟩
    rw [htoolkit' fun handle hm => hr handle (List.mem_cons_of_mem _ hm),
      htoolkit fun handle he => hr handle (he ▸ List.mem_cons_self ..)]

/-- If the first callbacks have no fault, the others follow. -/
lemma serve_append {event : Event} {earlier : List (Callback Handler)}
    (h : (server.serve event earlier).result = .ok ()) (later : List (Callback Handler)) :
    server.serve event (earlier ++ later) =
        (server.serve event earlier).server.serve event later ∧
      server.serveMoments event (earlier ++ later) = server.serveMoments event earlier ++
        (server.serve event earlier).server.serveMoments event later := by
  induction earlier generalizing server with
  | nil => exact ⟨rfl, rfl⟩
  | cons callback rest ih =>
    have hresult : (server.runCallback event callback).result = .ok () := by
      unfold Server.serve at h
      dsimp only at h
      split at h <;> rename_i hr
      · cases h
      · exact hr
    rw [(serve_cons hresult rest).1] at h
    rw [List.cons_append, (serve_cons hresult _).1, (serve_cons hresult _).1,
      (serve_cons hresult _).2, (serve_cons hresult _).2, (ih h).1, (ih h).2]
    exact ⟨rfl, rfl⟩

/-! ## The dispatch -/

/-- The entries that can be seen are those that were put into the journal since. -/
lemma Shown.filter_recordsSince {visible : List Record} {before after : Server T}
    (h : Shown visible before after) :
    (after.recordsSince before).filter Record.isVisible = visible.reverse := by
  obtain ⟨records, hj, -, hv⟩ := h
  simp [recordsSince, hj, List.filter_reverse, hv]

/-- If only one window listens to the signal, all that can be seen of windows happens when it is the
window's turn. -/
lemma exists_turn (hs : Suited server) (handle : Handle) (event : Event)
    (hl : (server.registry.callbacks handle .map).filterMap Callback.maps? = [id]) :
    ∃ asked : Server T,
      ⟨asked, .callback event (.run (.map id))⟩ ∈ server.dispatchMoments ⟨handle, .map, event⟩ ∧
      ((∀ other, .retire other ∉ server.registry.callbacks handle .map) →
        asked.toolkit = server.toolkit) ∧
      (server.dispatch handle .map event).result =
        .ok (server.registry.callbacks handle .map).length ∧
      (OnlyOutside server asked ∧ Shown [] server asked) ∧
      OnlyOutside (asked.handleMap id) (server.dispatch handle .map event).server ∧
        Shown [] (asked.handleMap id) (server.dispatch handle .map event).server := by
  obtain ⟨earlier, chosen, later, hsplit, hearlier, hchosen, hlater⟩ :=
    List.filterMap_eq_cons_iff.1 hl
  have hsuits : ∀ callback ∈ earlier ++ chosen :: later, callback.Suits .map :=
    fun callback hc => hs handle .map callback (hsplit ▸ hc)
  obtain rfl : chosen = .run (.map id) := by
    unfold Callback.maps? at hchosen
    split at hchosen
    · cases hchosen
      rfl
    · cases hchosen
  obtain ⟨hresult, hout, hshown, htoolkit⟩ := serve_of_maps?_eq_none
    (fun callback hc => hsuits callback (by simp [hc])) hearlier server event
  set asked := (server.serve event earlier).server
  obtain ⟨hresult', hout', hshown', -⟩ := serve_of_maps?_eq_none
    (fun callback hc => hsuits callback (by simp [hc])) (List.filterMap_eq_nil_iff.1 hlater)
    (asked.handleMap id) event
  have hturn : (asked.runCallback event (.run (.map id))).result = .ok () := rfl
  obtain ⟨hserve, hmoments⟩ := serve_append hresult (.run (.map id) :: later)
  rw [(serve_cons hturn later).1, ← hsplit] at hserve
  rw [(serve_cons hturn later).2, ← hsplit] at hmoments
  have hserver : (server.dispatch handle .map event).server =
      ((asked.handleMap id).serve event later).server := congrArg Outcome.server hserve
  rw [hserver]
  refine ⟨asked, ?_, fun hr => htoolkit fun other hc => hr other (by simp [hsplit, hc]), ?_,
    ⟨hout, hshown⟩, hout', hshown'⟩
  · exact List.mem_cons_of_mem _ (hmoments ▸ List.mem_append_right _ (List.mem_cons_self ..))
  · have hserved : (server.serve event (server.registry.callbacks handle .map)).result = .ok () :=
      (congrArg Outcome.result hserve).trans hresult'
    simp [dispatch, Outcome.map, Except.map, hserved]

/-- **A window that is mapped comes to the front unless it has the focus already.** In any reachable
state of a session, the map signal of the surface of an unmapped window, to which no other window
listens, runs all its callbacks. What the toolkit says of the focus when it is the window's turn
decides; that is what it said before, unless an object is retired first. If the focus is not on the
surface, the window comes to the front, with the others behind it as they were, its node is raised
and its toplevel is told that it is active. If the focus is on the surface, the window stays at the
back, and nothing is done that could be seen.

**Proof sketch.** The other callbacks of the signal observe it or retire objects, so all that can be
seen happens at the window's turn. It puts the window at the back of the stack, where it was not,
and the focus moves it to the front in one case and does nothing in the other. -/
theorem front_of_map_unless_focused {servings : List Serving} (h : Reachable server servings)
    (hw : server.windows.get? id = some window) (hm : window.mapped = false)
    (hl : (server.registry.callbacks window.surface .map).filterMap Callback.maps? = [id])
    (event : Event) :
    let callbacks := server.registry.callbacks window.surface .map
    let dispatched := server.dispatch window.surface .map event
    dispatched.result = .ok callbacks.length ∧
    ∃ asked : Server T, ⟨asked, .callback event (.run (.map id))⟩ ∈
        server.dispatchMoments ⟨window.surface, .map, event⟩ ∧
      ((∀ handle, .retire handle ∉ callbacks) → asked.toolkit = server.toolkit) ∧
      (Toolkit.keyboardFocus asked.toolkit ≠ some window.surface →
        dispatched.server.windows.stack = id :: server.windows.stack ∧
        .command (.raiseToTop window.scene) ∈ dispatched.server.recordsSince server ∧
        .command (.setActivated window.toplevel true) ∈ dispatched.server.recordsSince server) ∧
      (Toolkit.keyboardFocus asked.toolkit = some window.surface →
        dispatched.server.windows.stack = server.windows.stack ++ [id] ∧
        (dispatched.server.recordsSince server).filter Record.isVisible = []) := by
  intro callbacks dispatched
  obtain ⟨asked, hmoment, htoolkit, hresult, ⟨hout, hshown⟩, hout', hshown'⟩ :=
    exists_turn h.suited window.surface event hl
  have hget : asked.windows.get? id = some window := by rw [hout.windows_eq, hw]
  have hseen {visible : List Record} (hv : Shown visible asked (asked.handleMap id)) :
      (dispatched.server.recordsSince server).filter Record.isVisible = visible.reverse := by
    simpa using ((hshown.trans hv).trans hshown').filter_recordsSince
  have hnew : id ∉ server.windows.stack := by
    intro hs
    obtain ⟨found, hfound, hmapped⟩ := h.orderly.agrees.mem_stack_iff.1 hs
    rw [hw] at hfound
    cases hfound
    rw [hm] at hmapped
    cases hmapped
  refine ⟨hresult, asked, hmoment, htoolkit, fun hn => ?_, fun hf => ?_⟩
  · have hfocused := Focused.handleMap hget hn
    have hasked {record : Record} (hr : record ∈ focusRecords { window.face with mapped := true }
        (deactivated? asked.toolkit window.toplevel)) :
        record ∈ dispatched.server.recordsSince server :=
      List.mem_of_mem_filter (hseen hfocused.shown ▸ List.mem_reverse.2 hr)
    refine ⟨?_, hasked (by simp [focusRecords, Window.face]),
      hasked (by simp [focusRecords, Window.face])⟩
    rw [hout'.windows_eq, hfocused.fronted.stack_eq, hout.windows_eq, List.erase_of_not_mem hnew]
  · obtain ⟨hback, hquiet⟩ := handleMap_of_focused hget hf (by rwa [hout.windows_eq])
    exact ⟨by rw [hout'.windows_eq, hback, hout.windows_eq], hseen hquiet⟩

/-- A second window is announced. -/
def secondWindow : List Headless.Setting × Call :=
  ([.window ⟨0x60⟩ ⟨0x61⟩ none none none], .emit ⟨0x20⟩ .newToplevel (.newToplevel ⟨0x60⟩ ⟨0x61⟩))

/-- A second window is mapped while the first one has the focus. -/
theorem front_of_map_unless_focused_second :
    let server := (standard.enact (underPointer ++ [secondWindow])).2
    Toolkit.keyboardFocus server.toolkit = some ⟨0x51⟩ ∧
      (server.dispatch ⟨0x61⟩ .map .empty).server.windows.stack = ⟨2⟩ :: server.windows.stack := by
  intro server
  have hfocus : Toolkit.keyboardFocus server.toolkit = some ⟨0x51⟩ := by decide +kernel
  have hrecord : (server.windows.get? ⟨2⟩).map (fun window => (window.surface, window.mapped)) =
    some (⟨0x61⟩, false) := by decide +kernel
  have hlistens : (server.registry.callbacks ⟨0x61⟩ .map).filterMap Callback.maps? = [⟨2⟩] ∧
    ∀ callback ∈ server.registry.callbacks ⟨0x61⟩ .map, callback.maps?.isSome = true := by
    decide +kernel
  obtain ⟨window, hw, he⟩ := Option.map_eq_some_iff.1 hrecord
  obtain ⟨hsurface, hm⟩ := Prod.mk.injEq .. ▸ he
  rw [← hsurface] at hlistens ⊢
  obtain ⟨-, asked, -, htoolkit, hfront, -⟩ := front_of_map_unless_focused
    (reachable_enact (underPointer ++ [secondWindow])) hw hm hlistens.1 .empty
  have hother : Toolkit.keyboardFocus asked.toolkit ≠ some window.surface := by
    have hsame := htoolkit fun handle hr => nomatch hlistens.2 _ hr
    rw [hsame, hsurface]
    exact fun hf => nomatch hfocus.symm.trans hf
  exact ⟨hfocus, (hfront hother).1⟩

/-- **A window that is mapped may be left behind.** It is unmapped while it has the focus, and the
focus is still there when it is mapped again. -/
theorem exists_mapped_behind : ∃ (server : Server Headless) (id : WindowId) (window : Window),
    Reachable server [] ∧ server.windows.get? id = some window ∧ window.mapped = false ∧
      (server.registry.callbacks window.surface .map).filterMap Callback.maps? = [id] ∧
      let mapped := (server.dispatch window.surface .map .empty).server
      mapped.windows.stack.head? ≠ some id ∧
        (mapped.recordsSince server).filter Record.isVisible = [] := by
  let script := underPointer ++ [secondWindow, ([], .emit ⟨0x61⟩ .map .empty),
    ([], .emit ⟨0x61⟩ .unmap .empty)]
  let server := (standard.enact script).2
  have hrecord : (server.windows.get? ⟨2⟩).map (fun window => (window.surface, window.mapped)) =
    some (⟨0x61⟩, false) := by decide +kernel
  have hbehind : let mapped := (server.dispatch ⟨0x61⟩ .map .empty).server
    (server.registry.callbacks ⟨0x61⟩ .map).filterMap Callback.maps? = [⟨2⟩] ∧
      mapped.windows.stack.head? ≠ some ⟨2⟩ ∧
        (mapped.recordsSince server).filter Record.isVisible = [] := by decide +kernel
  obtain ⟨window, hw, he⟩ := Option.map_eq_some_iff.1 hrecord
  obtain ⟨hsurface, hm⟩ := Prod.mk.injEq .. ▸ he
  rw [← hsurface] at hbehind
  exact ⟨server, ⟨2⟩, window, reachable_enact script, hw, hm, hbehind⟩

end Server

end Compositor
