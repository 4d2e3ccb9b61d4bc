import Compositor.Proofs.Server.Census
import Compositor.Proofs.Server.Elements
import Compositor.Proofs.Server.Guarded
import Compositor.Proofs.Windows.Agreement

set_option autoImplicit false

/-!
# Recorded places and real ones

The record of a window has the place of its scene node, so that a grab can start from it without
asking the toolkit. The place is recorded when the window is created, and written again whenever a
grab moves the node. The toolkit keeps the places for itself. The two agree at all times, provided
that nobody else moves the nodes of windows and that no two windows share a node.

## Main definitions

* `Record.place?` — where an entry of the journal puts a scene node.
* `KeepsPlaces` — a view of the toolkit shows the scene nodes, and they stay where they are put.
* `Server.NodesStay`, `Server.Moment.NodeIsNew` — what the toolkit promises.
* `Server.InPlace` — records and nodes agree.

## Main results

* `Server.InPlace.composed` — elementary steps keep the agreement.
* `Server.position_eq_scenePosition` — records and nodes agree in every state that can be reached.
-/

namespace Compositor

/-! ## The toolkit's side -/

/-- Where an entry of the journal puts a scene node. -/
def Record.place? (node : Handle) : Record → Option (Point Coordinate)
  | command (.setScenePosition other position) => if other = node then some position else none
  | _ => none

/-- A quiet entry places no node. -/
lemma Record.place?_of_isQuiet {record : Record} (h : record.isQuiet = true) (node : Handle) :
    record.place? node = none := by
  unfold place?
  split
  · cases h
  · rfl

/-- A quiet entry does not take the scene down. -/
lemma Record.ne_destroyScene_of_isQuiet {record : Record} (h : record.isQuiet = true) :
    record ≠ .command .destroyScene := by
  rintro rfl
  cases h

/-- A view shows the scene nodes. A node that is created is there, and as long as the scene is not
taken down, it stays there, at the place where it was put last. -/
structure KeepsPlaces {T : Type} [Toolkit T] (nodes : T → List Handle) : Prop where
  /-- A node that is created is there. -/
  mem_of_create {toplevel node : Handle} {before after : T} :
    Toolkit.createToplevelScene toplevel before = (node, after) → node ∈ nodes after
  /-- A node stays there. -/
  mem_of_leads {record : Record} {before after : T} {node : Handle} : record.Leads before after →
    record ≠ .command .destroyScene → node ∈ nodes before → node ∈ nodes after
  /-- A node is moved by being put somewhere, and in no other way. -/
  scenePosition_of_leads {record : Record} {before after : T} {node : Handle} :
    record.Leads before after → record ≠ .command .destroyScene → node ∈ nodes before →
      Toolkit.scenePosition after node =
        (record.place? node).getD (Toolkit.scenePosition before node)

/-! ### The headless toolkit -/

namespace Headless

/-- Scene nodes are found where they are if others are put on top. -/
lemma find?_append_of_mem {nodes later : List SceneNode} {node : Handle}
    (h : node ∈ nodes.map SceneNode.id) :
    (nodes ++ later).find? (fun other => other.id = node) =
      nodes.find? fun other => other.id = node := by
  obtain ⟨found, hf, rfl⟩ := List.mem_map.1 h
  rw [List.find?_append]
  cases hs : nodes.find? fun other => other.id = found.id with
  | some other => rfl
  | none => simpa using List.find?_eq_none.1 hs found hf

/-- Raising nodes does not change which one is found. -/
lemma find?_raised (nodes : List SceneNode) (id node : Handle) :
    (nodes.filter (fun other => other.id ≠ id) ++ nodes.filter fun other => other.id = id).find?
        (fun other => other.id = node) =
      nodes.find? fun other => other.id = node := by
  have hkept {keep : SceneNode → Bool} (hk : ∀ other, other.id = node → keep other = true) :
      (nodes.filter keep).find? (fun other => other.id = node) =
        nodes.find? fun other => other.id = node := by
    rw [List.find?_filter]
    congr
    funext other
    by_cases ho : other.id = node
    · simp [ho, hk other ho]
    · simp [ho]
  have hdropped (keep : SceneNode → Bool) (hk : ∀ other, other.id = node → keep other = false) :
      (nodes.filter keep).find? (fun other => other.id = node) = none := by
    rw [List.find?_eq_none]
    intro other ho he
    have hkeep := hk other (of_decide_eq_true he)
    rw [(List.mem_filter.1 ho).2] at hkeep
    cases hkeep
  rw [List.find?_append]
  by_cases h : node = id
  · rw [hdropped _ fun other ho => by simp [ho, h], hkept fun other ho => by simp [ho, h]]
    rfl
  · rw [hdropped (fun other => other.id = id) fun other ho => by simp [ho, h],
      hkept fun other ho => by simp [ho, h], Option.or_none]

/-- A node that is known is where it was put. -/
lemma scenePosition_setScenePosition {headless : Headless} {node : Handle}
    (h : node ∈ headless.nodes.map SceneNode.id) (id : Handle) (position : Point Coordinate) :
    (headless.perform (.setScenePosition id position)).scenePosition node =
      if id = node then position else headless.scenePosition node := by
  have hsame : ((fun other : SceneNode => decide (other.id = node)) ∘ fun other =>
      if other.id = id then { other with position } else other) =
        fun other => decide (other.id = node) := by
    funext other
    dsimp only [Function.comp]
    split <;> rfl
  unfold scenePosition
  dsimp only [perform]
  rw [List.find?_map, hsame]
  cases hf : headless.nodes.find? fun other => other.id = node with
  | none =>
    obtain ⟨found, hm, he⟩ := List.mem_map.1 h
    exact absurd he (by simpa using List.find?_eq_none.1 hf found hm)
  | some found =>
    have he : found.id = node := by simpa using List.find?_some hf
    subst he
    by_cases hid : id = found.id
    · simp [hid]
    · simp [hid, Ne.symm hid]

/-- A node that is known stays where it is if another one is added. -/
lemma scenePosition_addNode {headless : Headless} {node : Handle}
    (h : node ∈ headless.nodes.map SceneNode.id) (position : Point Coordinate)
    (toplevel : Option Handle) :
    (headless.addNode position toplevel).2.scenePosition node = headless.scenePosition node := by
  unfold scenePosition
  dsimp only [addNode]
  rw [find?_append_of_mem h]

/-- The scene nodes keep their places. -/
lemma keepsPlaces : KeepsPlaces paintOrder where
  mem_of_create {toplevel node before after} h := by
    cases h
    simp [paintOrder]
  mem_of_leads {record before after node} h hup hm := by
    rw [paintsInOrder.paint_of_leads h]
    unfold Record.painted
    split
    · rw [List.mem_append, List.mem_filter, List.mem_filter]
      simp [hm, em]
    · exact List.mem_cons_of_mem _ hm
    · exact List.mem_cons_of_mem _ hm
    · exact hm
  scenePosition_of_leads {record before after node} h hup hm := by
    have hknown : node ∈ before.nodes.map SceneNode.id := by simpa [paintOrder] using hm
    cases record with
    | command given =>
      obtain rfl : after = before.perform given := h
      cases given with
      | raiseToTop id =>
        have hplace : (before.perform (.raiseToTop id)).scenePosition node =
            before.scenePosition node := by
          unfold scenePosition
          dsimp only [perform]
          rw [find?_raised]
        exact hplace
      | setScenePosition id position =>
        have hput := scenePosition_setScenePosition hknown id position
        simp only [Record.place?]
        by_cases hid : id = node
        · rw [if_pos hid] at hput ⊢
          exact hput
        · rw [if_neg hid] at hput ⊢
          exact hput
      | _ => rfl
    | toplevelScene toplevel created =>
      cases h
      exact scenePosition_addNode hknown _ _
    | popupScene popup parent created =>
      cases h
      exact scenePosition_addNode hknown _ _
    | connected handle signal token => cases h; rfl
    | _ => cases h; rfl

end Headless

namespace Server

variable {T : Type} [Toolkit T] {nodes : T → List Handle}

/-- The toolkit leaves the nodes of windows where they are. -/
def NodesStay (nodes : T → List Handle) (server : Server T) (toolkit : T) : Prop :=
  ∀ id window, server.windows.get? id = some window →
    window.scene ∈ nodes server.toolkit → window.scene ∈ nodes toolkit ∧
      Toolkit.scenePosition toolkit window.scene =
        Toolkit.scenePosition server.toolkit window.scene

/-- The scene node that is created for a window at a moment. -/
def Moment.node? (moment : Moment T) : Option Handle :=
  match moment.deed with
  | .callback (.newToplevel toplevel _) (.run .newToplevel) =>
    some (Toolkit.createToplevelScene toplevel moment.server.toolkit).1
  | _ => none

/-- No window has the node that is created for another one. -/
def Moment.NodeIsNew (moment : Moment T) : Prop :=
  ∀ node ∈ moment.node?, ∀ id window,
    moment.server.windows.get? id = some window → window.scene ≠ node

/-! ## Agreement -/

/-- Every window has a scene node of its own, and its record has the place of the node. -/
structure InPlace (nodes : T → List Handle) (server : Server T) : Prop where
  /-- The node is there. -/
  mem_nodes {id : WindowId} {window : Window} : server.windows.get? id = some window →
    window.scene ∈ nodes server.toolkit
  /-- The record has its place. -/
  position_eq {id : WindowId} {window : Window} : server.windows.get? id = some window →
    window.position = Toolkit.scenePosition server.toolkit window.scene
  /-- No other window has it. -/
  scene_inj {id other : WindowId} {window found : Window} :
    server.windows.get? id = some window → server.windows.get? other = some found →
      window.scene = found.scene → id = other

/-- Quiet entries leave all nodes where they are. -/
lemma Led.stays (hn : KeepsPlaces nodes) {records : List Record} {before after : T}
    (h : Led records before after) (hq : ∀ record ∈ records, record.isQuiet = true) {node : Handle}
    (hm : node ∈ nodes before) : node ∈ nodes after ∧
      Toolkit.scenePosition after node = Toolkit.scenePosition before node := by
  induction records generalizing after with
  | nil =>
    obtain rfl : after = before := h
    exact ⟨hm, rfl⟩
  | cons record earlier ih =>
    obtain ⟨middle, hearlier, hlast⟩ := h
    obtain ⟨hmiddle, hplace⟩ := ih hearlier fun other ho => hq other (List.mem_cons_of_mem _ ho)
    have hquiet := hq record (List.mem_cons_self ..)
    have hup := Record.ne_destroyScene_of_isQuiet hquiet
    refine ⟨hn.mem_of_leads hlast hup hmiddle, ?_⟩
    rw [hn.scenePosition_of_leads hlast hup hmiddle, Record.place?_of_isQuiet hquiet]
    exact hplace

namespace InPlace

variable {server before after : Server T}

/-- Records that keep their places agree with nodes that stay where they are. -/
lemma congr (i : InPlace nodes before) (hw : before.windows.PlacesKept after.windows)
    (hstay : ∀ id window, before.windows.get? id = some window →
      window.scene ∈ nodes after.toolkit ∧ Toolkit.scenePosition after.toolkit window.scene =
        Toolkit.scenePosition before.toolkit window.scene) : InPlace nodes after where
  mem_nodes {id window} h := by
    obtain ⟨old, hold, hscene, -⟩ := hw id window h
    rw [← hscene]
    exact (hstay id old hold).1
  position_eq {id window} h := by
    obtain ⟨old, hold, hscene, hposition⟩ := hw id window h
    rw [← hscene, ← hposition, (hstay id old hold).2]
    exact i.position_eq hold
  scene_inj {id other window found} h h' he := by
    obtain ⟨old, hold, hscene, -⟩ := hw id window h
    obtain ⟨old', hold', hscene', -⟩ := hw other found h'
    exact i.scene_inj hold hold' (hscene.trans (he.trans hscene'.symm))

/-- Records that keep their places, with the toolkit as before. -/
lemma arrange (i : InPlace nodes before) (hw : before.windows.PlacesKept after.windows)
    (ht : after.toolkit = before.toolkit) : InPlace nodes after := by
  refine i.congr hw fun id window h => ?_
  rw [ht]
  exact ⟨i.mem_nodes h, rfl⟩

/-- The toolkit changes by itself. -/
lemma drift (i : InPlace nodes server) {toolkit : T} (h : NodesStay nodes server toolkit) :
    InPlace nodes { server with toolkit := toolkit } :=
  i.congr (.refl _) fun id window hw => h id window hw (i.mem_nodes hw)

/-- Without windows there is nothing to agree on. -/
lemma of_empty (h : server.windows = WindowTable.empty) : InPlace nodes server where
  mem_nodes hw := by
    rw [h, WindowTable.get?_empty] at hw
    cases hw
  position_eq hw := by
    rw [h, WindowTable.get?_empty] at hw
    cases hw
  scene_inj hw _ _ := by
    rw [h, WindowTable.get?_empty] at hw
    cases hw

section Steps

variable (hn : KeepsPlaces nodes)

include hn

/-- Something quiet is asked. -/
lemma asked (i : InPlace nodes before) (h : Asked before after) : InPlace nodes after := by
  obtain ⟨records, -, hled, hquiet⟩ := h.led
  refine i.congr (.of_get?_eq fun id => ?_) fun id window hw => ?_
  · rw [h.onlyOutside.windows_eq]
  · exact hled.stays hn hquiet (i.mem_nodes hw)

/-- A window is placed. Its node is that of no other window, so that all others stay. -/
lemma place (i : InPlace nodes server) {id : WindowId} {window : Window}
    (hw : server.windows.get? id = some window) (position : Point Coordinate) :
    InPlace nodes (server.placeWindow id window.scene position) := by
  let command := Command.setScenePosition window.scene position
  let table := server.windows.update id fun found => { found with position }
  let toolkit := Toolkit.perform command server.toolkit
  have hup : Record.command command ≠ .command .destroyScene := by simp [command]
  have hleads : (Record.command command).Leads server.toolkit toolkit := rfl
  -- what became of each record, and that its node is where it says
  have hrecord {other : WindowId} {found : Window} (hf : table.get? other = some found) :
      ∃ old, server.windows.get? other = some old ∧ found.scene = old.scene ∧
        found.position = Toolkit.scenePosition toolkit found.scene := by
    rw [WindowTable.get?_update] at hf
    split at hf <;> rename_i ho
    · rw [hw] at hf
      cases hf
      refine ⟨window, ho ▸ hw, rfl, ?_⟩
      rw [hn.scenePosition_of_leads hleads hup (i.mem_nodes hw)]
      simp [command, Record.place?]
    · refine ⟨found, hf, rfl, ?_⟩
      have hne : window.scene ≠ found.scene := fun he => ho (i.scene_inj hf hw he.symm)
      rw [hn.scenePosition_of_leads hleads hup (i.mem_nodes hf), i.position_eq hf]
      simp [command, Record.place?, hne]
  exact {
    mem_nodes := fun hf => by
      obtain ⟨old, hold, hscene, -⟩ := hrecord hf
      rw [hscene]
      exact hn.mem_of_leads hleads hup (i.mem_nodes hold)
    position_eq := fun hf => by
      obtain ⟨-, -, -, hposition⟩ := hrecord hf
      exact hposition
    scene_inj := fun hf hf' he => by
      obtain ⟨old, hold, hscene, -⟩ := hrecord hf
      obtain ⟨old', hold', hscene', -⟩ := hrecord hf'
      exact i.scene_inj hold hold' (hscene.symm.trans (he.trans hscene')) }

/-- A window appears with a node that no other window has. -/
lemma appear (i : InPlace nodes server) (toplevel surface : Handle)
    (hnew : ∀ id window, server.windows.get? id = some window →
      window.scene ≠ (Toolkit.createToplevelScene toplevel server.toolkit).1) :
    InPlace nodes ((server.createToplevelScene toplevel).2.addWindow toplevel surface
      (server.createToplevelScene toplevel).1).2 := by
  let node := (Toolkit.createToplevelScene toplevel server.toolkit).1
  let toolkit := (Toolkit.createToplevelScene toplevel server.toolkit).2
  let added : Window := { Window.fresh ⟨server.nextWindow⟩ toplevel surface node with
    position := Toolkit.scenePosition toolkit node }
  have hup : Record.toplevelScene toplevel node ≠ .command .destroyScene := nofun
  have hleads : (Record.toplevelScene toplevel node).Leads server.toolkit toolkit := rfl
  have hrecord {id : WindowId} {window : Window}
      (hw : (server.windows.insert added).get? id = some window) :
      (id = ⟨server.nextWindow⟩ ∧ window = added) ∨
        (id ≠ ⟨server.nextWindow⟩ ∧ server.windows.get? id = some window) := by
    rw [WindowTable.get?_insert] at hw
    split at hw <;> rename_i hid
    · cases hw
      exact .inl ⟨hid, rfl⟩
    · exact .inr ⟨hid, hw⟩
  exact {
    mem_nodes := fun hw => by
      obtain ⟨-, rfl⟩ | ⟨-, hold⟩ := hrecord hw
      · exact hn.mem_of_create hleads
      · exact hn.mem_of_leads hleads hup (i.mem_nodes hold)
    position_eq := fun hw => by
      obtain ⟨-, rfl⟩ | ⟨-, hold⟩ := hrecord hw
      · rfl
      · exact (i.position_eq hold).trans
          (hn.scenePosition_of_leads hleads hup (i.mem_nodes hold)).symm
    scene_inj := fun hw hf he => by
      obtain ⟨rfl, rfl⟩ | ⟨-, hold⟩ := hrecord hw <;> obtain ⟨rfl, rfl⟩ | ⟨-, hold'⟩ := hrecord hf
      · rfl
      · exact absurd he.symm (hnew _ _ hold')
      · exact absurd he (hnew _ _ hold)
      · exact i.scene_inj hold hold' he }

/-- **Elementary steps keep records and nodes in agreement**, as long as no window appears. -/
theorem composed {may : Stock → Prop} (hmay : ¬ may .windows) (h : Composed may before after)
    (i : InPlace nodes before) : InPlace nodes after := by
  induction h with
  | refl server => exact i
  | trans _ _ ih ih' => exact ih' (ih i)
  | ask server hq _ hl => exact i.asked hn (.note server hq hl)
  | revive server handle => exact i.asked hn (.revive server handle)
  | register server handle signal callback =>
    exact i.asked hn (.register server handle signal callback)
  | unregisterAll server handle => exact i.asked hn (.unregisterAll server handle)
  | retire server handle => exact i.asked hn (.retire server handle)
  | unsubscribe server id => exact i.asked hn (.unsubscribe server id)
  | closeRegistry server => exact i.asked hn (.closeRegistry server)
  | arrange server hp => exact i.arrange hp rfl
  | place server position hw => exact i.place hn hw position
  | takeDown server => exact .of_empty rfl
  | appear server toplevel surface ha => exact absurd ha hmay
  | recount server keyboards _ =>
    let counted := { server with keyboards := keyboards }
    have hleads : (Record.command (.setSeatCapabilities counted.capabilities)).Leads server.toolkit
        counted.updateCapabilities.toolkit := rfl
    refine i.congr (.refl _) fun id window hw => ?_
    exact ⟨hn.mem_of_leads hleads nofun (i.mem_nodes hw),
      hn.scenePosition_of_leads hleads nofun (i.mem_nodes hw)⟩
  | relist server outputs _ => exact i.arrange (.refl _) rfl
  | grab server interaction => exact i.arrange (.refl _) rfl
  | session server socket running display => exact i.arrange (.refl _) rfl

/-- A window is created. -/
lemma handleNewToplevel (i : InPlace nodes server) (toplevel surface : Handle)
    (hnew : ∀ id window, server.windows.get? id = some window →
      window.scene ≠ (Toolkit.createToplevelScene toplevel server.toolkit).1) :
    InPlace nodes (server.handleNewToplevel toplevel surface) := by
  have hrevived := (i.asked hn (.revive server toplevel)).asked hn (.revive _ surface)
  have happeared := hrevived.appear hn toplevel surface hnew
  have hlistening (appeared : Server T) (wirings : List Wiring) :
      Composed (fun _ => False) appeared (appeared.listenAll wirings) := .listenAll _ _
  exact composed hn id (hlistening _ _) happeared

/-- A moment at which no window gets the node of another one. -/
lemma moment {moment : Moment T} (i : InPlace nodes moment.server) (hnew : moment.NodeIsNew) :
    InPlace nodes moment.after := by
  obtain ⟨server, deed⟩ := moment
  cases deed with
  | dispatch handle signal event => exact i
  | call call direct => exact composed hn (fun h => h) (Composed.direct server direct) i
  | callback event callback =>
    by_cases hc : callback = .run .newToplevel
    · subst hc
      cases event with
      | newToplevel toplevel surface => exact i.handleNewToplevel hn toplevel surface (hnew _ rfl)
      | _ => exact i
    · have hran : Composed (fun stock => stock ≠ .windows) server
          (server.runCallback event callback).server := by
        refine .runCallback server event callback ?_
        rintro handler stock rfl hs rfl
        cases handler <;> first | exact hc rfl | cases hs
      exact composed hn (not_not_intro rfl) hran i

end Steps

end InPlace

/-- **Recorded places are the real ones.** If the nodes of windows are moved by nobody else, and no
window is created with the node of another one, then the place in the record of a window is at all
times the place of its scene node, also within a dispatch and after a fault.

**Proof sketch.** Every moment is made up of elementary steps, and each of these keeps the agreement:
a window that is placed has its record and its node changed together, and no other window has the
node. A window that appears has the place of its node asked for; by the second promise, the node is
that of no other window. -/
theorem position_eq_scenePosition (hn : KeepsPlaces nodes) {server : Server T}
    {servings : List Serving} (h : Guarded (NodesStay nodes) Moment.NodeIsNew server servings)
    {id : WindowId} {window : Window} (hw : server.windows.get? id = some window) :
    window.position = Toolkit.scenePosition server.toolkit window.scene := by
  have hinPlace : InPlace nodes server := by
    refine h.invariant (fun toolkit config display server hc => .of_empty ?_)
      (fun server toolkit i hd => i.drift hd) fun moment i hp => i.moment hn hp
    obtain ⟨bindings, hwired⟩ := Wired.of_create hc
    exact hwired.onlyOutside.windows_eq
  exact hinPlace.position_eq hw

/-! ## A window that is dragged -/

/-- Checks that the nodes of windows stay where they are. -/
def stays (server : Server Headless) (toolkit : Headless) : Bool :=
  server.windows.windows.all fun window =>
    window.scene ∈ toolkit.paintOrder ∧
      toolkit.scenePosition window.scene = server.toolkit.scenePosition window.scene

/-- The check of the toolkit is right: the nodes of all windows are there, where they were. -/
lemma nodesStay_of_stays (server : Server Headless) (toolkit : Headless)
    (h : stays server toolkit = true) : NodesStay Headless.paintOrder server toolkit := by
  intro id window hw _
  have hall := List.all_eq_true.1 h window (WindowTable.mem_windows_iff.2 ⟨id, hw⟩)
  exact of_decide_eq_true hall

/-- Checks that no window has the node that is created. -/
def Moment.isNodeNew (moment : Moment Headless) : Bool :=
  moment.server.windows.windows.all fun window => moment.node? ≠ some window.scene

/-- The check of a moment is right: no record has the node that is created. -/
lemma Moment.nodeIsNew_of_isNodeNew (moment : Moment Headless) (h : moment.isNodeNew = true) :
    moment.NodeIsNew := by
  intro node hn id window hw he
  have hall := List.all_eq_true.1 h window (WindowTable.mem_windows_iff.2 ⟨id, hw⟩)
  rw [he] at hall
  exact of_decide_eq_true hall hn

/-- Two windows appear at places of the toolkit's choice, and the first one is dragged. -/
def dragged : List (List Headless.Setting × Call) :=
  [([.window ⟨0x50⟩ ⟨0x51⟩ none none (some ⟨10, 20⟩)],
      .emit ⟨0x20⟩ .newToplevel (.newToplevel ⟨0x50⟩ ⟨0x51⟩)),
    ([.window ⟨0x60⟩ ⟨0x61⟩ none none (some ⟨300, 40⟩)],
      .emit ⟨0x20⟩ .newToplevel (.newToplevel ⟨0x60⟩ ⟨0x61⟩)),
    ([.pointerFocus (some ⟨0x51⟩)], .emit ⟨0x50⟩ .requestMove (.requestMove 7)),
    ([], .emit ⟨0x30⟩ .motion (.pointerMotion ⟨0x70⟩ 8 ⟨5, 7⟩))]

/-- A dragged window and one that stays where it is. -/
theorem position_eq_scenePosition_dragged :
    let server := (standard.enact dragged).2
    (∃ window, server.windows.get? ⟨1⟩ = some window ∧ window.position = ⟨15, 27⟩ ∧
      Toolkit.scenePosition server.toolkit window.scene = ⟨15, 27⟩) ∧
    ∃ window, server.windows.get? ⟨2⟩ = some window ∧ window.position = ⟨300, 40⟩ ∧
      Toolkit.scenePosition server.toolkit window.scene = ⟨300, 40⟩ := by
  intro server
  have hkept : standard.keeps stays Moment.isNodeNew dragged = true := by decide +kernel
  have hguarded : Guarded (NodesStay Headless.paintOrder) Moment.NodeIsNew server [] :=
    (Guarded.create create_standard).enact nodesStay_of_stays Moment.nodeIsNew_of_isNodeNew hkept
  have hfound {id : WindowId} {position : Point Coordinate}
      (hp : (server.windows.get? id).map Window.position = some position) :
      ∃ window, server.windows.get? id = some window ∧ window.position = position ∧
        Toolkit.scenePosition server.toolkit window.scene = position := by
    obtain ⟨window, hw, rfl⟩ := Option.map_eq_some_iff.1 hp
    have hplace := position_eq_scenePosition Headless.keepsPlaces hguarded hw
    exact ⟨window, hw, rfl, hplace.symm⟩
  exact ⟨hfound (by decide +kernel), hfound (by decide +kernel)⟩

end Server

end Compositor
