import Compositor.Proofs.Server.Following
import Compositor.Proofs.Server.Stillness
import Compositor.Proofs.Windows.Agreement

set_option autoImplicit false

/-!
# Steps that can be seen

The remaining handlers change something that can be seen of windows. A window appears, gets the
focus, is unmapped or destroyed; or a popup gets its node. This module says for each of them what
can be seen, and that nothing else can: a window that gets the focus comes to the front at once, and
the one that had the focus is told that it is no longer active.

## Main definitions

* `Server.focusRecords` — what is asked of the toolkit when a window gets the focus.
* `Server.Focused` — a window gets the focus.
* `Server.Appeared`, `Server.Popped` — a window or a popup appears.
* `Server.Stirred` — what one step can change that can be seen when nothing appears.

## Main results

* `Server.Focused.focusWindow` — a window gets the focus, unless it has it already.
* `Server.face?_handleMap`, `Server.face?_handleUnmap`,
  `Server.windows_handleToplevelDestroyed_eq` — what the windows show after a handler.
* `Server.Stirred.handleMap`, `Server.Stirred.cycleFocus`, `Server.Stirred.focusUnderCursor`,
  `Server.Stirred.handleKey`, `Server.Stirred.handleUnmap`,
  `Server.Stirred.handleToplevelDestroyed`, `Server.Popped.handleNewPopup`,
  `Server.Appeared.handleNewToplevel` — the handlers.
-/

namespace Compositor.Server

variable {T : Type} [Toolkit T] {server before after : Server T} {id : WindowId} {face : Face}
  {leaves : Handle → Bool}

/-! ## A window gets the focus -/

/-- The toplevel that is told that it is no longer active when another one gets the focus. -/
def deactivated? (toolkit : T) (toplevel : Handle) : Option Handle :=
  ((Toolkit.keyboardFocus toolkit).bind (Toolkit.toplevelOf toolkit)).filter
    fun other => other ≠ toplevel

/-- What is asked of the toolkit when a window gets the focus, newest first. -/
def focusRecords (face : Face) (deactivated : Option Handle) : List Record :=
  [.command (.keyboardEnter face.surface), .command (.setActivated face.toplevel true),
    .command (.raiseToTop face.scene)] ++
    (deactivated.map fun other => Record.command (.setActivated other false)).toList

/-- A window gets the focus: it comes to the front and is raised, it is told that it is active, the
window that had the focus is told that it is not, and the keyboard enters its root surface. -/
structure Focused (id : WindowId) (face : Face) (before after : Server T) : Prop where
  /-- The window comes to the front. -/
  fronted : WindowTable.Fronted id face before.windows after.windows
  /-- What is asked of the toolkit. -/
  shown : Shown (focusRecords face (deactivated? before.toolkit face.toplevel)) before after

/-- The toplevel that had the focus is told, if it is another one. -/
lemma Shown.deactivatePrevious (server : Server T) (toplevel : Handle) :
    Shown ((deactivated? server.toolkit toplevel).map fun other =>
        Record.command (.setActivated other false)).toList server
      (server.deactivatePrevious (Toolkit.keyboardFocus server.toolkit) toplevel) := by
  unfold Server.deactivatePrevious deactivated?
  split <;> rename_i hp
  · split <;> rename_i ho
    · rw [hp, ho]
      simpa [Option.filter_some] using Shown.refl server
    · rw [hp]
      simp only [Option.filter_some, ho, ne_eq, not_false_eq_true, decide_true, ↓reduceIte,
        Option.map_some, Option.toList_some]
      exact .perform server _ rfl
  · rw [hp]
    exact .refl server

/-- A surface that has the focus is not given it again. -/
lemma focusWindow_of_focused {surface : Handle}
    (h : Toolkit.keyboardFocus server.toolkit = some surface) (id : WindowId) :
    server.focusWindow id surface = server := by
  unfold Server.focusWindow
  dsimp only
  rw [if_pos h]

/-- A window gets the focus through a surface that does not have it. The windows may have been
changed just before. -/
lemma Focused.focusWindow {window : Window} {surface : Handle}
    (hn : Toolkit.keyboardFocus before.toolkit ≠ some surface)
    (hw : server.windows.get? id = some window)
    (hobjects : window.face = { face with mapped := window.mapped })
    (hf : WindowTable.Fronted id face before.windows (server.windows.moveToFront id))
    (hj : server.journal = before.journal) (ht : server.toolkit = before.toolkit) :
    Focused id face before (server.focusWindow id surface) := by
  have htoplevel : window.toplevel = face.toplevel := congrArg Face.toplevel hobjects
  have hsurface : window.surface = face.surface := congrArg Face.surface hobjects
  have hscene : window.scene = face.scene := congrArg Face.scene hobjects
  let told := server.deactivatePrevious (Toolkit.keyboardFocus server.toolkit) window.toplevel
  let raised := told.perform (.raiseToTop window.scene)
  let moved : Server T := { raised with windows := raised.windows.moveToFront id }
  let active := moved.perform (.setActivated window.toplevel true)
  have hstep : server.focusWindow id surface = active.perform (.keyboardEnter window.surface) := by
    unfold Server.focusWindow
    dsimp only
    rw [if_neg (by rwa [ht]), hw]
  have hwindows : told.windows = server.windows :=
    (OnlyOutside.deactivatePrevious server _ _).windows_eq
  rw [hstep]
  refine ⟨?_, ?_⟩
  · have hmoved : (active.perform (.keyboardEnter window.surface)).windows =
        server.windows.moveToFront id := congrArg (fun table => table.moveToFront id) hwindows
    rw [hmoved]
    exact hf
  · have hsame : Shown [] before server := .of_eq hj ht
    have htold := hsame.trans (Shown.deactivatePrevious server window.toplevel)
    have hraised := htold.trans (Shown.perform told (.raiseToTop window.scene) rfl)
    have hmoved : Shown [] raised moved := .of_eq rfl rfl
    have hactive := (hraised.trans hmoved).trans
      (Shown.perform moved (.setActivated window.toplevel true) rfl)
    have hentered := hactive.trans (Shown.perform active (.keyboardEnter window.surface) rfl)
    unfold focusRecords
    rw [← htoplevel, ← hsurface, ← hscene, ← ht]
    simpa using hentered

/-! ## What the windows show after a handler -/

/-- The records stay as they are when a window gets the focus. -/
lemma get?_focusWindow (server : Server T) (id : WindowId) (surface : Handle) (other : WindowId) :
    (server.focusWindow id surface).windows.get? other = server.windows.get? other := by
  unfold Server.focusWindow
  dsimp only
  split
  · rfl
  · split
    · rfl
    · rename_i window _
      have htold := OnlyOutside.deactivatePrevious server (Toolkit.keyboardFocus server.toolkit)
        window.toplevel
      exact (WindowTable.get?_moveToFront _ id other).trans
        (congrArg (fun table : WindowTable => table.get? other) htold.windows_eq)

/-- The windows look as they did when one gets the focus. -/
@[simp]
lemma face?_focusWindow (server : Server T) (id : WindowId) (surface : Handle) (other : WindowId) :
    (server.focusWindow id surface).windows.face? other = server.windows.face? other := by
  rw [WindowTable.face?, get?_focusWindow, WindowTable.face?]

/-- Cycling the focus changes no record. -/
lemma get?_cycleFocus (server : Server T) (id : WindowId) :
    server.cycleFocus.windows.get? id = server.windows.get? id := by
  unfold Server.cycleFocus
  split
  · rfl
  · split
    · rfl
    · exact get?_focusWindow server _ _ id

/-- A mapped window shows that it is mapped, and the others look as they did. -/
lemma face?_handleMap (server : Server T) (id other : WindowId) :
    (server.handleMap id).windows.face? other =
      if other = id then (server.windows.face? id).map fun face => { face with mapped := true }
      else server.windows.face? other := by
  unfold Server.handleMap
  cases hw : server.windows.get? id with
  | none =>
    dsimp only
    split <;> rename_i ho
    · rw [ho, WindowTable.face?, hw]
      rfl
    · rfl
  | some window =>
    dsimp only
    rw [face?_focusWindow, WindowTable.face?_push, WindowTable.face?_update, hw,
      WindowTable.face?_of_get? hw]
    rfl

omit [Toolkit T] in
/-- An unmapped window shows that it is not mapped, and the others look as they did. -/
lemma face?_handleUnmap (server : Server T) (id other : WindowId) :
    (server.handleUnmap id).windows.face? other =
      if other = id then (server.windows.face? id).map fun face => { face with mapped := false }
      else server.windows.face? other := by
  unfold Server.handleUnmap
  dsimp only
  rw [WindowTable.face?_unstack, WindowTable.face?_update]
  split
  · unfold WindowTable.face?
    rw [Option.map_map]
    rfl
  · rfl

/-- A destroyed window is dropped from the table, whether or not it had a record. -/
lemma windows_handleToplevelDestroyed_eq (server : Server T) (id : WindowId) :
    (server.handleToplevelDestroyed id).windows = server.windows.destroy id := by
  cases hw : server.windows.get? id with
  | none =>
    unfold Server.handleToplevelDestroyed
    dsimp only
    rw [show (server.releaseGrab id).windows.get? id = none from hw]
    rfl
  | some window => exact windows_handleToplevelDestroyed hw

/-! ## What one step can change -/

/-- A window appears with a new node. -/
structure Appeared (id : WindowId) (face : Face) (before after : Server T) : Prop where
  /-- Its record is added. -/
  added : WindowTable.Added id face before.windows after.windows
  /-- The toolkit made the node. -/
  node_eq : (Toolkit.createToplevelScene face.toplevel before.toolkit).1 = face.scene
  /-- What is asked of the toolkit. -/
  shown : Shown [.toplevelScene face.toplevel face.scene] before after

/-- The record that a new window gets. -/
lemma exists_windows_handleNewToplevel (server : Server T) (toplevel surface : Handle) :
    ∃ window : Window, (server.handleNewToplevel toplevel surface).windows =
        server.windows.insert window ∧ window.id = ⟨server.nextWindow⟩ ∧
      window.face = ⟨toplevel, surface,
        (Toolkit.createToplevelScene toplevel server.toolkit).1, false⟩ :=
  ⟨_, (OnlyOutside.listenAll _ _).windows_eq, rfl, rfl⟩

/-- A window appears. -/
lemma Appeared.handleNewToplevel (o : Orderly server) (toplevel surface : Handle) :
    Appeared ⟨server.nextWindow⟩ ⟨toplevel, surface,
      (Toolkit.createToplevelScene toplevel server.toolkit).1, false⟩ server
      (server.handleNewToplevel toplevel surface) := by
  obtain ⟨window, hwindows, hid, hface⟩ :=
    exists_windows_handleNewToplevel server toplevel surface
  have hnew : server.windows.get? window.id = none := by
    rw [hid]
    cases hw : server.windows.get? ⟨server.nextWindow⟩ with
    | none => rfl
    | some found => exact absurd (o.lt_nextWindow hw) (Nat.lt_irrefl _)
  have hadded : WindowTable.Added window.id window.face server.windows
      (server.handleNewToplevel toplevel surface).windows := by
    rw [hwindows]
    exact .insert hnew (congrArg Face.mapped hface)
  let revived := (server.revive toplevel).revive surface
  let created := revived.createToplevelScene toplevel
  have hrevived : Shown [] server revived := .of_eq rfl rfl
  have hcreated : Shown [.toplevelScene toplevel created.1] revived created.2 :=
    .of_visible rfl rfl rfl
  have hlistening : Shown [] created.2 (server.handleNewToplevel toplevel surface) := by
    have hrecorded : Shown [] created.2 (created.2.addWindow toplevel surface created.1).2 :=
      .of_eq rfl rfl
    exact hrecorded.trans (.listenAll _ _)
  rw [hid, hface] at hadded
  exact ⟨hadded, rfl, (hrevived.trans hcreated).trans hlistening⟩

/-- A popup appears over its parent with a new node. -/
structure Popped (popup parent : Handle) (before after : Server T) : Prop where
  /-- The windows stay as they are. -/
  windows_eq : after.windows = before.windows
  /-- What is asked of the toolkit. -/
  shown : Shown [.popupScene popup parent
    (Toolkit.createPopupScene popup parent before.toolkit).1] before after

/-- A popup appears. -/
lemma Popped.handleNewPopup (server : Server T) (popup parent : Handle) :
    Popped popup parent server (server.handleNewPopup popup (some parent)).server := by
  let revived := server.revive popup
  have hrevived : Shown [] server revived := .of_eq rfl rfl
  have hcreated : Shown [.popupScene popup parent
      (Toolkit.createPopupScene popup parent server.toolkit).1] revived
      (revived.createPopupScene popup parent) := .of_visible rfl rfl rfl
  exact ⟨(OnlyOutside.handleNewPopup server popup (some parent)).windows_eq,
    (hrevived.trans hcreated).trans (.listenAll _ _)⟩

/-- What one step can change that can be seen when nothing appears, if the windows with given root
surfaces leave. -/
inductive Stirred (leaves : Handle → Bool) (before after : Server T) : Prop
  /-- Nothing changes. -/
  | still (step : Still before after)
  /-- A window that does not leave gets the focus. -/
  | focused {id : WindowId} {face : Face} (step : Focused id face before after)
      (stays : leaves face.surface = false)
  /-- A window that leaves is withdrawn. -/
  | withdrawn {id : WindowId} (step : WindowTable.Withdrawn id before.windows after.windows)
      (left : ∀ face, before.windows.face? id = some face → leaves face.surface = true)
      (shown : Shown [] before after)

namespace Stirred

section Focus

variable (hn : ∀ surface, leaves surface = false)

include hn

/-- A window that is mapped gets the focus. Here the focus must have been in front: were it on the
window while this is not mapped, the window would not come to the front. -/
lemma handleMap (a : server.windows.Agrees)
    (hfront : server.windows.FocusInFront (Toolkit.keyboardFocus server.toolkit))
    (hapart : server.windows.Apart) (id : WindowId) :
    Stirred leaves server (server.handleMap id) := by
  unfold Server.handleMap
  cases hw : server.windows.get? id with
  | none => exact .still (.refl server)
  | some window =>
    set table := (server.windows.update id fun found => { found with mapped := true }).push id
      with htable
    have hget : table.get? id = some { window with mapped := true } := by
      rw [htable, WindowTable.get?_push, WindowTable.get?_update, if_pos rfl, hw]
      rfl
    by_cases hfocus : Toolkit.keyboardFocus server.toolkit = some window.surface
    · obtain ⟨front, face, hf, hshown, hsurface⟩ := hfront _ hfocus
      obtain rfl : front = id := hapart.id_eq hshown (WindowTable.face?_of_get? hw) hsurface
      have hmem : front ∈ server.windows.stack := List.mem_of_getElem? hf
      obtain ⟨found, hfound, hmapped⟩ := a.mem_stack_iff.1 hmem
      rw [hw] at hfound
      cases hfound
      have hsame : Toolkit.keyboardFocus ({ server with windows := table } : Server T).toolkit =
          some window.surface := hfocus
      have hstep : Still server
          (({ server with windows := table } : Server T).focusWindow front window.surface) := by
        rw [focusWindow_of_focused hsame]
        exact (Still.refl server).thenWindows (.map a hw hmapped)
      exact .still hstep
    · exact .focused (.focusWindow hfocus hget rfl (.map hw) rfl rfl) (hn _)

/-- The window behind the focused one gets the focus, if there is one. -/
lemma cycleFocus (a : server.windows.Agrees) : Stirred leaves server server.cycleFocus := by
  unfold Server.cycleFocus
  split
  · exact .still (.refl server)
  · rename_i next hnext
    split
    · exact .still (.refl server)
    · rename_i window hw
      by_cases hfocus : Toolkit.keyboardFocus server.toolkit = some window.surface
      · rw [focusWindow_of_focused hfocus]
        exact .still (.refl server)
      · obtain ⟨found, hfound, hmapped⟩ := a.mem_stack_iff.1 (List.mem_of_getElem? hnext)
        rw [hw] at hfound
        cases hfound
        exact .focused (.focusWindow hfocus hw rfl (.moveToFront a hw hmapped) rfl rfl) (hn _)

/-- The window under the cursor gets the focus, if there is one. It must be mapped. -/
lemma focusUnderCursor (a : server.windows.Agrees)
    (hmapped : ∀ hit, Toolkit.surfaceAt server.toolkit (Toolkit.cursorPosition server.toolkit) =
      some hit → ∀ id window, server.windows.get? id = some window →
        Toolkit.toplevelOf server.toolkit hit.surface = some window.toplevel →
          window.mapped = true) :
    Stirred leaves server server.focusUnderCursor := by
  unfold Server.focusUnderCursor
  split
  · exact .still (.refl server)
  · rename_i hit hhit
    split
    · exact .still (.refl server)
    · rename_i id hid
      obtain ⟨toplevel, howner, hfind⟩ := Option.bind_eq_some_iff.1 hid
      obtain ⟨window, hfound, rfl⟩ := Option.map_eq_some_iff.1 hfind
      obtain ⟨key, hw⟩ := WindowTable.mem_windows_iff.1 (List.mem_of_find?_eq_some hfound)
      obtain rfl : window.id = key := a.id_eq hw
      obtain rfl : window.toplevel = toplevel := by simpa using List.find?_some hfound
      by_cases hfocus : Toolkit.keyboardFocus server.toolkit = some hit.surface
      · rw [focusWindow_of_focused hfocus]
        exact .still (.refl server)
      · have hm := hmapped hit hhit window.id window hw howner
        exact .focused (.focusWindow hfocus hw rfl (.moveToFront a hw hm) rfl rfl) (hn _)

/-- A key may run a binding. -/
lemma handleKey (a : server.windows.Agrees) (device : Handle) (time keycode : UInt32)
    (state : Press) : Stirred leaves server (server.handleKey device time keycode state) := by
  unfold Server.handleKey
  split
  · rename_i action _
    cases action with
    | terminate =>
      have hstopped : Still server { server with running := false } :=
        (Still.refl server).thenRest rfl rfl rfl
      exact .still (hstopped.thenPerform _ rfl)
    | cycleFocus => exact cycleFocus hn a
  · exact .still (((Still.refl server).thenPerform _ rfl).thenPerform _ rfl)

end Focus

/-- A window is unmapped. -/
lemma handleUnmap (server : Server T) (id : WindowId)
    (hl : ∀ face, server.windows.face? id = some face → leaves face.surface = true) :
    Stirred leaves server (server.handleUnmap id) :=
  .withdrawn (.unmap server.windows id) hl (.of_eq rfl rfl)

/-- A window is destroyed. -/
lemma handleToplevelDestroyed (server : Server T) (id : WindowId)
    (hl : ∀ face, server.windows.face? id = some face → leaves face.surface = true) :
    Stirred leaves server (server.handleToplevelDestroyed id) := by
  have hdropped : Shown [] server { server.releaseGrab id with
      windows := server.windows.destroy id } := .of_eq rfl rfl
  have hshown : Shown [] server (server.handleToplevelDestroyed id) := by
    unfold Server.handleToplevelDestroyed
    dsimp only
    split
    · exact hdropped
    · exact hdropped.trans (.unregisterAll _ _)
  refine .withdrawn ?_ hl hshown
  rw [windows_handleToplevelDestroyed_eq]
  exact .destroy server.windows id

end Stirred

end Compositor.Server
