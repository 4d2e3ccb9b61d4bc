import Compositor.Headless
import Compositor.Server.Lifecycle
import Mathlib.Tactic.Common

set_option autoImplicit false

/-!
# What the journal says about the toolkit

The server changes the toolkit in no other way than by the commands and requests in its journal. If
it is known what an entry does to some view of the toolkit, such as the keyboard focus or the order
of its scene nodes, the view can be replayed from the journal, whatever else the toolkit is made of.
Most entries do nothing to the views that are of interest here.

## Main definitions

* `Record.Leads`, `Server.Led` — what an entry, or several of them, can make of the toolkit.
* `Record.isVisible` — the entries that are about focus, paint order or activation.
* `Server.Shown` — the visible entries of a step.
* `KeepsFocus`, `PaintsInOrder` — the keyboard focus and the paint order as such views.
* `Server.lastActivation?` — what a toplevel was last told about being active.

## Main results

* `Server.Shown.keyboardFocus_eq`, `Server.Shown.paint_eq`, `Server.Shown.lastActivation?_eq` — the
  views after a step can be told from its visible entries.
-/

namespace Compositor

/-! ## Entries and what they do to views -/

namespace Record

/-- What the toolkit can become by a command or request. Requests that create something are answered
as the entry says. -/
def Leads {T : Type} [Toolkit T] (record : Record) (before after : T) : Prop :=
  match record with
  | command given => after = Toolkit.perform given before
  | openSocket => after = (Toolkit.openSocket before).2
  | startBackend => after = (Toolkit.startBackend before).2
  | commitOutput output configuration =>
    after = (Toolkit.commitOutput output configuration before).2
  | commitRequestedState output state =>
    after = (Toolkit.commitRequestedState output state before).2
  | toplevelScene toplevel node => Toolkit.createToplevelScene toplevel before = (node, after)
  | popupScene popup parent node => Toolkit.createPopupScene popup parent before = (node, after)
  | connected handle signal token => Toolkit.connect handle signal before = (token, after)
  | disconnected token => after = Toolkit.disconnect token before
  | observed _ _ => after = before

/-- Whether an entry is about focus, paint order or activation. -/
def isVisible : Record → Bool
  | command (.keyboardEnter _) => true
  | command (.raiseToTop _) => true
  | command (.setActivated _ _) => true
  | toplevelScene _ _ => true
  | popupScene _ _ _ => true
  | _ => false

/-- The surface that an entry gives the keyboard focus. -/
def entered? : Record → Option Handle
  | command (.keyboardEnter surface) => some surface
  | _ => none

/-- What an entry tells a toplevel about being active. -/
def activation? (toplevel : Handle) : Record → Option Bool
  | command (.setActivated other activated) => if other = toplevel then some activated else none
  | _ => none

/-- The scene nodes, from top to bottom, after an entry. A new node is put on top, and so is a node
that is raised; the others keep their order. -/
def painted (nodes : List Handle) : Record → List Handle
  | command (.raiseToTop node) =>
    nodes.filter (fun other => other = node) ++ nodes.filter fun other => other ≠ node
  | toplevelScene _ node => node :: nodes
  | popupScene _ _ node => node :: nodes
  | _ => nodes

section Invisible

variable {record : Record} (h : record.isVisible = false)

include h

/-- An invisible entry gives no surface the focus. -/
lemma entered?_of_isVisible : record.entered? = none := by
  unfold entered?
  split
  · cases h
  · rfl

/-- An invisible entry tells no toplevel about being active. -/
lemma activation?_of_isVisible (toplevel : Handle) : record.activation? toplevel = none := by
  unfold activation?
  split
  · cases h
  · rfl

/-- An invisible entry keeps the order of the scene nodes. -/
lemma painted_of_isVisible (nodes : List Handle) : record.painted nodes = nodes := by
  unfold painted
  split
  · cases h
  · cases h
  · cases h
  · rfl

end Invisible

end Record

/-- The keyboard focus is the surface that was given it last, as far as the server is concerned. -/
class KeepsFocus (T : Type) [Toolkit T] : Prop where
  /-- Only the entering of a surface changes the focus. -/
  keyboardFocus_of_leads {record : Record} {before after : T} : record.Leads before after →
    Toolkit.keyboardFocus after = record.entered?.or (Toolkit.keyboardFocus before)

/-- A view shows the scene nodes from top to bottom: new ones are put on top, and raising a node
moves it to the top and keeps the order of the others. -/
structure PaintsInOrder {T : Type} [Toolkit T] (paint : T → List Handle) : Prop where
  /-- The order after an entry. -/
  paint_of_leads {record : Record} {before after : T} : record.Leads before after →
    paint after = record.painted (paint before)

namespace Server

variable {T : Type}

/-! ## Replaying the journal -/

section Replay

variable [Toolkit T]

/-- What the toolkit can become by entries of the journal, newest first. -/
def Led : List Record → T → T → Prop
  | [], before, after => after = before
  | record :: earlier, before, after =>
    ∃ middle, Led earlier before middle ∧ record.Leads middle after

/-- Entries after entries lead on from where those have led. -/
lemma Led.append {later earlier : List Record} {before middle after : T}
    (h : Led earlier before middle) (h' : Led later middle after) :
    Led (later ++ earlier) before after := by
  induction later generalizing after with
  | nil =>
    obtain rfl : after = middle := h'
    exact h
  | cons record rest ih =>
    obtain ⟨last, hrest, hlast⟩ := h'
    exact ⟨last, ih hrest, hlast⟩

/-- The focus is on the surface that was entered last, if there is one. -/
lemma Led.keyboardFocus_eq [KeepsFocus T] {records : List Record} {before after : T}
    (h : Led records before after) : Toolkit.keyboardFocus after =
      ((records.filter Record.isVisible).findSome? Record.entered?).or
        (Toolkit.keyboardFocus before) := by
  induction records generalizing after with
  | nil =>
    obtain rfl : after = before := h
    rfl
  | cons record earlier ih =>
    obtain ⟨middle, hearlier, hlast⟩ := h
    rw [KeepsFocus.keyboardFocus_of_leads hlast, ih hearlier, List.filter_cons]
    split <;> rename_i hv
    · rw [List.findSome?_cons]
      cases record.entered? <;> rfl
    · rw [Record.entered?_of_isVisible (Bool.eq_false_iff.2 hv)]
      rfl

/-- The scene nodes are put on top one by one. -/
lemma Led.paint_eq {paint : T → List Handle} (hp : PaintsInOrder paint) {records : List Record}
    {before after : T} (h : Led records before after) :
    paint after = (records.filter Record.isVisible).foldr
      (fun record nodes => record.painted nodes) (paint before) := by
  induction records generalizing after with
  | nil =>
    obtain rfl : after = before := h
    rfl
  | cons record earlier ih =>
    obtain ⟨middle, hearlier, hlast⟩ := h
    rw [hp.paint_of_leads hlast, ih hearlier, List.filter_cons]
    split <;> rename_i hv
    · rfl
    · exact Record.painted_of_isVisible (Bool.eq_false_iff.2 hv) _

/-- The visible entries of a step, newest first. What the step does to the toolkit, it does by its
entries in the journal. -/
def Shown (visible : List Record) (before after : Server T) : Prop :=
  ∃ records, after.journal = records ++ before.journal ∧
    Led records before.toolkit after.toolkit ∧ records.filter Record.isVisible = visible

end Replay

/-- What a toplevel was last told about being active. -/
def lastActivation? (server : Server T) (toplevel : Handle) : Option Bool :=
  server.journal.findSome? (Record.activation? toplevel)

/-- Only visible entries tell a toplevel about being active. -/
lemma findSome?_activation?_filter (records : List Record) (toplevel : Handle) :
    (records.filter Record.isVisible).findSome? (Record.activation? toplevel) =
      records.findSome? (Record.activation? toplevel) := by
  induction records with
  | nil => rfl
  | cons record earlier ih =>
    rw [List.filter_cons, List.findSome?_cons]
    split <;> rename_i hv
    · rw [List.findSome?_cons, ih]
    · rw [Record.activation?_of_isVisible (Bool.eq_false_iff.2 hv), ih]

namespace Shown

variable [Toolkit T] {visible later : List Record} {before middle after : Server T}

/-- Nothing is visible if nothing is done. -/
lemma refl (server : Server T) : Shown [] server server := ⟨[], rfl, rfl, rfl⟩

/-- The visible entries of two steps are shown one after the other. -/
lemma trans (h : Shown visible before middle) (h' : Shown later middle after) :
    Shown (later ++ visible) before after := by
  obtain ⟨first, hjournal, hled, rfl⟩ := h
  obtain ⟨second, hjournal', hled', rfl⟩ := h'
  refine ⟨second ++ first, ?_, hled.append hled', List.filter_append ..⟩
  rw [hjournal', hjournal, List.append_assoc]

/-- A step with one entry that is visible. -/
lemma of_visible {record : Record} (hj : after.journal = record :: before.journal)
    (hl : record.Leads before.toolkit after.toolkit) (hv : record.isVisible = true) :
    Shown [record] before after := by
  refine ⟨[record], hj, ⟨before.toolkit, rfl, hl⟩, ?_⟩
  rw [List.filter_cons, hv]
  rfl

/-- A step with one entry that is not visible. -/
lemma of_invisible {record : Record} (hj : after.journal = record :: before.journal)
    (hl : record.Leads before.toolkit after.toolkit) (hv : record.isVisible = false) :
    Shown [] before after := by
  refine ⟨[record], hj, ⟨before.toolkit, rfl, hl⟩, ?_⟩
  rw [List.filter_cons, hv]
  rfl

/-- A visible command. -/
lemma perform (server : Server T) (command : Command)
    (hv : (Record.command command).isVisible = true) :
    Shown [.command command] server (server.perform command) :=
  of_visible rfl rfl hv

/-- A step without entries leaves the toolkit alone. -/
lemma of_eq (hj : after.journal = before.journal) (ht : after.toolkit = before.toolkit) :
    Shown [] before after := ⟨[], hj, ht, rfl⟩

/-- What the toolkit became. -/
lemma led (h : Shown visible before after) :
    ∃ records, Led records before.toolkit after.toolkit := by
  obtain ⟨records, -, hled, -⟩ := h
  exact ⟨records, hled⟩

/-! ## The views after a step -/

/-- The focus is on the surface that was entered last, if there is one. -/
lemma keyboardFocus_eq [KeepsFocus T] (h : Shown visible before after) :
    Toolkit.keyboardFocus after.toolkit =
      (visible.findSome? Record.entered?).or (Toolkit.keyboardFocus before.toolkit) := by
  obtain ⟨records, -, hled, rfl⟩ := h
  exact hled.keyboardFocus_eq

/-- Scene nodes that are new or raised are put on top one by one. -/
lemma paint_eq {paint : T → List Handle} (hp : PaintsInOrder paint)
    (h : Shown visible before after) : paint after.toolkit =
      visible.foldr (fun record nodes => record.painted nodes) (paint before.toolkit) := by
  obtain ⟨records, -, hled, rfl⟩ := h
  exact hled.paint_eq hp

/-- What a toplevel was told in the step counts, if it was told anything. -/
lemma lastActivation?_eq (h : Shown visible before after) (toplevel : Handle) :
    after.lastActivation? toplevel =
      (visible.findSome? (Record.activation? toplevel)).or (before.lastActivation? toplevel) := by
  obtain ⟨records, hjournal, -, rfl⟩ := h
  rw [findSome?_activation?_filter, lastActivation?, hjournal, List.findSome?_append]
  rfl

end Shown

end Server

/-! ## The headless toolkit -/

namespace Headless

/-- The scene nodes from top to bottom. -/
def paintOrder (headless : Headless) : List Handle :=
  headless.nodes.reverse.map SceneNode.id

instance : KeepsFocus Headless where
  keyboardFocus_of_leads {record before after} h := by
    cases record with
    | command given =>
      obtain rfl : after = before.perform given := h
      cases given <;> rfl
    | toplevelScene toplevel node => cases h; rfl
    | popupScene popup parent node => cases h; rfl
    | connected handle signal token => cases h; rfl
    | _ => cases h; rfl

/-- The headless toolkit puts new nodes on top, and those that are raised. -/
lemma paintsInOrder : PaintsInOrder paintOrder where
  paint_of_leads {record before after} h := by
    cases record with
    | command given =>
      obtain rfl : after = before.perform given := h
      cases given with
      | raiseToTop node =>
        simp [paintOrder, perform, Record.painted, List.filter_map, Function.comp_def]
      | setScenePosition node position =>
        simp only [paintOrder, perform, Record.painted, ← List.map_reverse, List.map_map]
        refine List.map_congr_left fun other _ => ?_
        dsimp only [Function.comp]
        split <;> rfl
      | _ => rfl
    | toplevelScene toplevel node =>
      cases h
      simp [paintOrder, Record.painted]
    | popupScene popup parent node =>
      cases h
      simp [paintOrder, Record.painted]
    | connected handle signal token => cases h; rfl
    | _ => cases h; rfl

end Headless

end Compositor
