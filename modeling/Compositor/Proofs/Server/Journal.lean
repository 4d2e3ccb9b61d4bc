import Compositor.Server.Dispatch
import Compositor.Proofs.Windows.Agreement

set_option autoImplicit false

/-!
# What a step puts into the journal

Everything that the server asks of the toolkit is in its journal, so that what may be asked can be
said of the entries that a step adds. The arguments come from three places. Some were supplied just
before, by the event or by the toolkit's answer to a query. Some are scene nodes, which the toolkit
made for a window. All others the server supplies: it kept them from an earlier event, in a record
or in the handler itself, or it is being told of them.

## Main definitions

* `Command.stored`, `Record.stored` — the arguments that the server supplies.
* `Command.nodes`, `Record.nodes` — the scene nodes among the arguments.
* `Server.Noted` — all entries that were added have a property.
* `Window.handles`, `WindowTable.SameHandles` — the handles in the records, and tables that have the
  same.
* `Record.From` — an entry is about the objects of windows and about given others.

## Main results

* `Server.Noted.of_mem_recordsSince` — the property holds of what is read from the journal.
-/

namespace Compositor

/-- The handles in a command that the server supplies. The toplevel that is deactivated and the
surface that gets the pointer are answers of the toolkit, and the devices that move the cursor and
the surface that is shown as the cursor come with the event. -/
def Command.stored : Command → List Handle
  | .initOutputRender output => [output]
  | .addOutputToLayout output => [output]
  | .renderOutputFrame output => [output]
  | .setActivated toplevel true => [toplevel]
  | .setToplevelSize toplevel _ _ => [toplevel]
  | .scheduleConfigure object => [object]
  | .attachPointer device => [device]
  | .configureKeyboard device _ _ => [device]
  | .setSeatKeyboard device => [device]
  | .keyboardEnter surface => [surface]
  | .keyboardModifiers device => [device]
  | _ => []

/-- The scene nodes in a command. -/
def Command.nodes : Command → List Handle
  | .setScenePosition node _ => [node]
  | .raiseToTop node => [node]
  | _ => []

/-- The handles in an entry of the journal that the server supplies. The state that is committed to
an output and the parent of a popup come with the event. -/
def Record.stored : Record → List Handle
  | .command given => given.stored
  | .commitOutput output _ => [output]
  | .commitRequestedState output _ => [output]
  | .toplevelScene toplevel _ => [toplevel]
  | .popupScene popup _ _ => [popup]
  | .connected handle _ _ => [handle]
  | _ => []

/-- The scene nodes that the server supplies in an entry of the journal. -/
def Record.nodes : Record → List Handle
  | .command given => given.nodes
  | _ => []

/-! ## Tables with the same handles -/

/-- The handles in a record: the toplevel, the surface and the scene node. -/
def Window.handles (window : Window) : Handle × Handle × Handle :=
  (window.toplevel, window.surface, window.scene)

/-- Two tables have the same records, as far as handles are concerned. -/
def WindowTable.SameHandles (before after : WindowTable) : Prop :=
  ∀ id, (after.get? id).map Window.handles = (before.get? id).map Window.handles

namespace WindowTable.SameHandles

variable {before middle after table : WindowTable} {id : WindowId} {window : Window}

/-- A table has the same handles as itself. -/
lemma refl (table : WindowTable) : SameHandles table table := fun _ => rfl

/-- Tables with the handles of a third one have the same handles. -/
lemma trans (h : SameHandles before middle) (h' : SameHandles middle after) :
    SameHandles before after := fun id => (h' id).trans (h id)

/-- A record that is there afterwards was there before, with the same handles. -/
lemma exists_of_get? (h : SameHandles before after) (hw : after.get? id = some window) :
    ∃ old, before.get? id = some old ∧ old.handles = window.handles := by
  have hid := h id
  rw [hw, Option.map_some] at hid
  exact Option.map_eq_some_iff.1 hid.symm

/-- The handles are the same in both directions. -/
lemma symm (h : SameHandles before after) : SameHandles after before := fun id => (h id).symm

/-- A change that keeps the handles of a record. -/
lemma update (table : WindowTable) (id : WindowId) {change : Window → Window}
    (h : ∀ window, (change window).handles = window.handles) :
    SameHandles table (table.update id change) := by
  intro other
  rw [get?_update]
  split <;> rename_i ho
  · rw [ho, Option.map_map]
    cases table.get? id with
    | none => rfl
    | some window => exact congrArg some (h window)
  · rfl

/-- The same records have the same handles. -/
lemma of_get?_eq (h : ∀ id, after.get? id = before.get? id) : SameHandles before after :=
  fun id => by rw [h id]

end WindowTable.SameHandles

/-! ## Entries about given objects -/

/-- An entry is about the toplevels and scene nodes of windows and about given other handles; the
surface of a window occurs only where it gets the keyboard focus. -/
structure Record.From (windows : WindowTable) (own : List Handle) (record : Record) : Prop where
  /-- Where the handles come from. -/
  stored {handle : Handle} : handle ∈ record.stored → handle ∈ own ∨
    ∃ id window, windows.get? id = some window ∧ (handle = window.toplevel ∨
      handle = window.surface ∧ record = .command (.keyboardEnter handle))
  /-- Where the scene nodes come from. -/
  nodes {node : Handle} : node ∈ record.nodes →
    ∃ id window, windows.get? id = some window ∧ node = window.scene

namespace Record.From

variable {windows before after : WindowTable} {own other : List Handle} {record : Record}

/-- An entry without such handles is about nothing. -/
lemma of_nil (hs : record.stored = []) (hn : record.nodes = []) : record.From windows own where
  stored h := by simp [hs] at h
  nodes h := by simp [hn] at h

/-- An entry about a given handle. -/
lemma of_mem {handle : Handle} (h : handle ∈ own) (hs : record.stored = [handle])
    (hn : record.nodes = []) : record.From windows own where
  stored {other} ho := by
    rw [hs, List.mem_singleton] at ho
    exact .inl (ho ▸ h)
  nodes h := by simp [hn] at h

/-- The handles in the records are what matters. -/
lemma sameHandles (h : record.From after own) (hw : before.SameHandles after) :
    record.From before own where
  stored hm := by
    rcases h.stored hm with hown | ⟨id, window, hwindow, hrole⟩
    · exact .inl hown
    · obtain ⟨old, hold, he⟩ := hw.exists_of_get? hwindow
      obtain ⟨ht, hs, -⟩ : old.toplevel = window.toplevel ∧ old.surface = window.surface ∧
        old.scene = window.scene := by simpa [Window.handles] using he
      exact .inr ⟨id, old, hold, by rwa [ht, hs]⟩
  nodes hm := by
    obtain ⟨id, window, hwindow, rfl⟩ := h.nodes hm
    obtain ⟨old, hold, he⟩ := hw.exists_of_get? hwindow
    obtain ⟨-, -, hn⟩ : old.toplevel = window.toplevel ∧ old.surface = window.surface ∧
      old.scene = window.scene := by simpa [Window.handles] using he
    exact ⟨id, old, hold, hn.symm⟩

end Record.From

namespace Server

variable {T : Type}

/-! ## Additions to the journal -/

/-- A state has the journal of an earlier one with entries added that all have a property. -/
def Noted (property : Record → Prop) (before after : Server T) : Prop :=
  ∃ records, after.journal = records ++ before.journal ∧ ∀ record ∈ records, property record

namespace Noted

variable {property other : Record → Prop} {before middle after : Server T}

/-- A step without entries. -/
lemma of_eq (h : after.journal = before.journal) : Noted property before after :=
  ⟨[], h, by simp⟩

/-- Nothing is added to a journal by doing nothing. -/
lemma refl (server : Server T) : Noted property server server := of_eq rfl

/-- A step with one entry. -/
lemma of_cons {record : Record} (h : after.journal = record :: before.journal)
    (hr : property record) : Noted property before after :=
  ⟨[record], h, by simpa using hr⟩

/-- The entries of two steps are added one after the other. -/
lemma trans (h : Noted property before middle) (h' : Noted property middle after) :
    Noted property before after := by
  obtain ⟨first, hfirst, hf⟩ := h
  obtain ⟨second, hsecond, hs⟩ := h'
  refine ⟨second ++ first, by rw [hsecond, hfirst, List.append_assoc], fun record hm => ?_⟩
  exact (List.mem_append.1 hm).elim (hs record) (hf record)

/-- Entries with a property have every weaker one. -/
lemma mono (h : Noted property before after) (himp : ∀ record, property record → other record) :
    Noted other before after := by
  obtain ⟨records, hj, hp⟩ := h
  exact ⟨records, hj, fun record hm => himp record (hp record hm)⟩

/-- The entries that are read from the journal have the property. -/
lemma of_mem_recordsSince (h : Noted property before after) {record : Record}
    (hm : record ∈ after.recordsSince before) : property record := by
  obtain ⟨records, hj, hp⟩ := h
  refine hp record ?_
  simpa [recordsSince, hj] using hm

end Noted

end Server

end Compositor
