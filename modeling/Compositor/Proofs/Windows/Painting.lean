import Compositor.Proofs.Windows.Agreement
import Compositor.Proofs.Windows.Fronting

set_option autoImplicit false

/-!
# Windows in paint order

The scene nodes of the mapped windows can be read off in two ways: from the focus stack, and from
the nodes that the toolkit paints. Both give the same list if the two are changed together. This
module says so for each change. Windows that are about to be destroyed may be left out, since the
toolkit may drop their nodes earlier than the server their records.

## Main definitions

* `WindowTable.scenes` — the scene nodes of the stacked windows, front to back.
* `WindowTable.InPaintOrder` — the windows are painted in the order of their focus.
* `WindowTable.showsMapped` — whether a node is that of a mapped window.

## Main results

* `WindowTable.InPaintOrder.alike`, `WindowTable.InPaintOrder.added`,
  `WindowTable.InPaintOrder.fronted`, `WindowTable.InPaintOrder.withdrawn` — what a change of the
  windows does to the order.
* `WindowTable.InPaintOrder.cons`, `WindowTable.InPaintOrder.congr` — what a change of the nodes
  does to it.
* `WindowTable.InPaintOrder.stackedWindows_eq` — the nodes of the mapped windows, read off both
  ways.
-/

namespace Compositor

namespace WindowTable

variable {table before after : WindowTable} {id other : WindowId} {face found : Face}

/-- The scene node of a window, if it counts. -/
def scene? (except : Face → Bool) (table : WindowTable) (id : WindowId) : Option Handle :=
  ((table.face? id).filter fun face => !except face).map Face.scene

/-- The scene nodes of the stacked windows that count, front to back. -/
def scenes (except : Face → Bool) (table : WindowTable) : List Handle :=
  table.stack.filterMap (table.scene? except)

/-- The stacked windows that count are painted in the order of their focus, given the scene nodes
from top to bottom. Windows do not share a node, and there is just one of each. -/
structure InPaintOrder (except : Face → Bool) (nodes : List Handle) (table : WindowTable) :
    Prop where
  /-- Nodes are not shared. -/
  distinct {id other : WindowId} {face found : Face} : table.face? id = some face →
    table.face? other = some found → face.scene = found.scene → id = other
  /-- There is one node for each window that counts. -/
  count_eq {id : WindowId} {face : Face} : table.face? id = some face → except face = false →
    nodes.count face.scene = 1
  /-- The order is the same. -/
  scenes_eq : table.scenes except = nodes.filter fun node => node ∈ table.scenes except

/-- Part of an order that is read off the nodes is read off them as well. -/
lemma filter_eq_of_eq_filter {nodes shown : List Handle}
    (h : shown = nodes.filter fun node => node ∈ shown) (p : Handle → Bool) :
    shown.filter p = nodes.filter fun node => node ∈ shown.filter p := by
  calc shown.filter p = (nodes.filter fun node => node ∈ shown).filter p := by rw [← h]
    _ = nodes.filter fun node => node ∈ shown.filter p := by
      rw [List.filter_filter]
      refine List.filter_congr fun node _ => ?_
      simp [and_comm]

/-- A node that is raised comes first. -/
lemma cons_filter_eq_of_eq_filter {nodes shown : List Handle} {node : Handle}
    (h : shown = nodes.filter fun node => node ∈ shown) (hc : nodes.count node = 1) :
    node :: shown.filter (fun other => other ≠ node) =
      (nodes.filter (fun other => other = node) ++ nodes.filter fun other => other ≠ node).filter
        fun other => other ∈ node :: shown.filter fun other => other ≠ node := by
  have hraised : nodes.filter (fun other => other = node) = [node] := by
    rw [List.filter_eq, hc]
    rfl
  have hothers : (nodes.filter fun other => other ≠ node).filter
      (fun other => other ∈ node :: shown.filter fun other => other ≠ node) =
      nodes.filter fun other => other ∈ shown.filter fun other => other ≠ node := by
    rw [List.filter_filter]
    refine List.filter_congr fun other _ => ?_
    by_cases ho : other = node <;> simp [ho]
  rw [List.filter_append, hraised, hothers, ← filter_eq_of_eq_filter h]
  simp

section Scenes

variable {except : Face → Bool}

/-- The node of a window that counts is the one that is seen. -/
lemma scene?_of_face? (h : table.face? id = some face) :
    table.scene? except id = if except face then none else some face.scene := by
  unfold scene?
  rw [h]
  cases he : except face <;> simp [Option.filter, he]

/-- The node of a window depends on its look alone. -/
lemma scene?_of_face?_eq (h : after.face? id = before.face? id) :
    after.scene? except id = before.scene? except id := by
  unfold scene?
  rw [h]

/-- The nodes that count are those of the stacked windows that count. -/
lemma mem_scenes_iff {node : Handle} : node ∈ table.scenes except ↔
    ∃ id ∈ table.stack, ∃ face, table.face? id = some face ∧ except face = false ∧
      face.scene = node := by
  simp [scenes, scene?, Option.filter_eq_some_iff, and_assoc]

/-- If windows do not share nodes, a window that leaves the stack takes just its own node along. -/
lemma filterMap_scene?_erase (hnodup : before.stack.Nodup) (hold : before.face? id = some found)
    (hdistinct : ∀ other shown, before.face? other = some shown → shown.scene = found.scene →
      other = id) :
    (before.stack.erase id).filterMap (before.scene? except) =
      (before.scenes except).filter fun node => node ≠ found.scene := by
  unfold scenes
  rw [hnodup.erase_eq_filter, List.filterMap_filter, List.filter_filterMap]
  refine List.filterMap_congr fun other _ => ?_
  cases hf : before.face? other with
  | none => simp [scene?, hf]
  | some shown =>
    rw [scene?_of_face? hf]
    by_cases ho : other = id
    · subst ho
      rw [hold] at hf
      cases hf
      cases except found <;> simp [Option.filter_some]
    · have hne : shown.scene ≠ found.scene := fun hs => ho (hdistinct other shown hf hs)
      cases except shown <;> simp [Option.filter_some, ho, hne]

end Scenes

namespace InPaintOrder

variable {except : Face → Bool} {nodes : List Handle}

/-- Windows that stay do not share nodes. -/
lemma distinct_of_keeps (h : InPaintOrder except nodes before)
    (hk : Keeps (fun _ => true) before after)
    (hf : after.face? id = some face) (hf' : after.face? other = some found)
    (hs : face.scene = found.scene) : id = other := by
  obtain ⟨_, hfirst, -⟩ := hk id face hf
  obtain ⟨_, hsecond, -⟩ := hk other found hf'
  exact h.distinct hfirst hsecond hs

/-- The node of a window that stays is painted once. -/
lemma count_eq_of_keeps (h : InPaintOrder except nodes before)
    (hk : Keeps (fun _ => true) before after)
    (hexcept : ∀ found mapped, except { found with mapped } = except found)
    (hf : after.face? id = some face) (he : except face = false) :
    nodes.count face.scene = 1 := by
  obtain ⟨mapped, hold, -⟩ := hk id face hf
  have hcount := h.count_eq hold ((hexcept face mapped).trans he)
  exact hcount

/-- The order of painting is kept if the tables look alike. -/
lemma alike (h : InPaintOrder except nodes before) (ha : Alike before after) :
    InPaintOrder except nodes after where
  distinct := h.distinct_of_keeps (.alike ha)
  count_eq hf := h.count_eq ((ha.face?_eq _).symm.trans hf)
  scenes_eq := by
    have hscenes : after.scenes except = before.scenes except := by
      unfold scenes
      rw [ha.stack_eq]
      exact List.filterMap_congr fun other _ => scene?_of_face?_eq (ha.face?_eq other)
    rw [hscenes]
    exact h.scenes_eq

/-- A node is put on top that no window has. -/
lemma cons (h : InPaintOrder except nodes table) {node : Handle} (hn : node ∉ nodes) :
    InPaintOrder except (node :: nodes) table where
  distinct := h.distinct
  count_eq {id face} hf he := by
    have hmem : face.scene ∈ nodes := List.count_pos_iff.1 (by simp [h.count_eq hf he])
    rw [List.count_cons_of_ne, h.count_eq hf he]
    rintro rfl
    exact hn hmem
  scenes_eq := by
    have hnode : node ∉ table.scenes except := by
      rw [h.scenes_eq]
      exact fun hm => hn (List.mem_filter.1 hm).1
    rw [List.filter_cons, if_neg (by simpa using hnode)]
    exact h.scenes_eq

/-- A window appears with a node that is on top. -/
lemma added (h : InPaintOrder except nodes before) (a : before.Agrees)
    (ha : Added id face before after) (hn : face.scene ∉ nodes)
    (hall : ∀ other found, before.face? other = some found → found.scene ≠ face.scene) :
    InPaintOrder except (face.scene :: nodes) after := by
  have hcons := h.cons hn
  have hscenes : after.scenes except = before.scenes except := by
    unfold scenes
    rw [ha.stack_eq]
    refine List.filterMap_congr fun other ho => scene?_of_face?_eq ?_
    rw [ha.face?_eq, if_neg]
    rintro rfl
    obtain ⟨found, hf, -⟩ := a.mem_stack_iff_face?.1 ho
    rw [ha.new] at hf
    cases hf
  exact {
    distinct := fun {first second one another} hf hf' he => by
      rw [ha.face?_eq] at hf hf'
      split at hf <;> rename_i hfirst <;> split at hf' <;> rename_i hsecond
      · rw [hfirst, hsecond]
      · cases hf
        exact absurd he.symm (hall second another hf')
      · cases hf'
        exact absurd he (hall first one hf)
      · exact h.distinct hf hf' he
    count_eq := fun {other found} hf he => by
      rw [ha.face?_eq] at hf
      split at hf
      · cases hf
        rw [List.count_cons_self, List.count_eq_zero_of_not_mem hn]
      · exact hcons.count_eq hf he
    scenes_eq := by
      rw [hscenes]
      exact hcons.scenes_eq }

/-- A window comes to the front, and its node is raised. -/
lemma fronted (h : InPaintOrder except nodes before) (a : before.Agrees)
    (hf : Fronted id face before after) (he : except face = false)
    (hexcept : ∀ found mapped, except { found with mapped } = except found) :
    InPaintOrder except (nodes.filter (fun node => node = face.scene) ++
      nodes.filter fun node => node ≠ face.scene) after := by
  obtain ⟨mapped, hold⟩ := hf.old
  have hcount := h.count_eq hold ((hexcept face mapped).trans he)
  have hperm : (nodes.filter (fun node => node = face.scene) ++
      nodes.filter fun node => node ≠ face.scene).Perm nodes := by
    simpa using List.filter_append_perm (fun node => decide (node = face.scene)) nodes
  have hface : after.face? id = some face := by rw [hf.face?_eq, if_pos rfl]
  have hrest : (before.stack.erase id).filterMap (after.scene? except) =
      (before.scenes except).filter fun node => node ≠ face.scene := by
    have herase : (before.stack.erase id).filterMap (before.scene? except) =
        (before.scenes except).filter fun node => node ≠ ({ face with mapped } : Face).scene :=
      filterMap_scene?_erase a.stack_nodup hold fun other shown hs he => h.distinct hs hold he
    refine Eq.trans ?_ herase
    refine List.filterMap_congr fun other ho => scene?_of_face?_eq ?_
    rw [hf.face?_eq, if_neg (a.stack_nodup.mem_erase_iff.1 ho).1]
  have hscenes : after.scenes except =
      face.scene :: (before.scenes except).filter fun node => node ≠ face.scene := by
    have hfirst : after.scene? except id = some face.scene := by
      rw [scene?_of_face? hface, he]
      rfl
    rw [scenes, hf.stack_eq, List.filterMap_cons, hfirst, hrest]
  exact {
    distinct := h.distinct_of_keeps (.fronted hf)
    count_eq := fun hfound hother =>
      (hperm.count_eq _).trans (h.count_eq_of_keeps (.fronted hf) hexcept hfound hother)
    scenes_eq := by
      rw [hscenes]
      exact cons_filter_eq_of_eq_filter h.scenes_eq hcount }

/-- A window that is withdrawn leaves the others in their order. -/
lemma withdrawn (h : InPaintOrder except nodes before) (a : before.Agrees)
    (hw : Withdrawn id before after)
    (hexcept : ∀ found mapped, except { found with mapped } = except found) :
    InPaintOrder except nodes after := by
  have hstack : after.scenes except =
      (before.stack.erase id).filterMap (before.scene? except) := by
    rw [scenes, hw.stack_eq]
    refine List.filterMap_congr fun other ho => scene?_of_face?_eq (hw.face?_eq ?_)
    exact (a.stack_nodup.mem_erase_iff.1 ho).1
  exact {
    distinct := h.distinct_of_keeps (.withdrawn hw fun _ _ => rfl)
    count_eq := h.count_eq_of_keeps (.withdrawn hw fun _ _ => rfl) hexcept
    scenes_eq := by
      rw [hstack]
      cases hold : before.face? id with
      | none =>
        have hn : id ∉ before.stack := fun hm => by
          obtain ⟨face, hf, -⟩ := a.mem_stack_iff_face?.1 hm
          rw [hold] at hf
          cases hf
        rw [List.erase_of_not_mem hn]
        exact h.scenes_eq
      | some face =>
        have herase : (before.stack.erase id).filterMap (before.scene? except) =
            (before.scenes except).filter fun node => node ≠ face.scene :=
          filterMap_scene?_erase a.stack_nodup hold fun other shown hs he => h.distinct hs hold he
        rw [herase]
        exact filter_eq_of_eq_filter h.scenes_eq _ }

/-- Only the order of the nodes of windows that count matters. -/
lemma congr {nodes' : List Handle} (h : InPaintOrder except nodes table) {keep : Handle → Bool}
    (hkeep : ∀ id face, table.face? id = some face → except face = false →
      keep face.scene = true)
    (he : nodes'.filter keep = nodes.filter keep) : InPaintOrder except nodes' table where
  distinct := h.distinct
  count_eq {id face} hf hcounts := by
    have hk := hkeep id face hf hcounts
    rw [← List.count_filter hk, he, List.count_filter hk]
    exact h.count_eq hf hcounts
  scenes_eq := by
    have hshown (other : List Handle) : (other.filter keep).filter
        (fun node => node ∈ table.scenes except) =
        other.filter fun node => node ∈ table.scenes except := by
      rw [List.filter_filter]
      refine List.filter_congr fun node _ => ?_
      by_cases hm : node ∈ table.scenes except
      · obtain ⟨id, -, face, hf, hcounts, rfl⟩ := mem_scenes_iff.1 hm
        simp [hm, hkeep id face hf hcounts]
      · simp [hm]
    rw [← hshown, he, hshown]
    exact h.scenes_eq

/-- Some windows are no longer counted. -/
lemma leaveOut (h : InPaintOrder (fun _ => false) nodes table) (except : Face → Bool) :
    InPaintOrder except nodes table where
  distinct := h.distinct
  count_eq hf _ := h.count_eq hf rfl
  scenes_eq := by
    have hscenes : table.scenes except =
        (table.scenes fun _ => false).filter fun node => node ∈ table.scenes except := by
      refine Eq.trans ?_ List.filter_filterMap.symm
      refine List.filterMap_congr fun id hid => ?_
      cases hf : table.face? id with
      | none => simp [scene?, hf]
      | some face =>
        rw [scene?_of_face? hf, scene?_of_face? hf]
        cases he : except face with
        | false =>
          have hm : face.scene ∈ table.scenes except :=
            mem_scenes_iff.2 ⟨id, hid, face, hf, he, rfl⟩
          simp [Option.filter_some, hm]
        | true =>
          have hm : face.scene ∉ table.scenes except := by
            intro hm
            obtain ⟨other, -, found, hfound, hcounts, hs⟩ := mem_scenes_iff.1 hm
            obtain rfl := h.distinct hfound hf hs
            rw [hf] at hfound
            cases hfound
            rw [he] at hcounts
            cases hcounts
          simp [Option.filter_some, hm]
    have horder := filter_eq_of_eq_filter h.scenes_eq fun node => node ∈ table.scenes except
    rw [← hscenes] at horder
    exact horder

/-- All windows that are left are counted again. -/
lemma takeIn (h : InPaintOrder except nodes table)
    (hnone : ∀ id face, table.face? id = some face → except face = false) :
    InPaintOrder (fun _ => false) nodes table where
  distinct := h.distinct
  count_eq hf _ := h.count_eq hf (hnone _ _ hf)
  scenes_eq := by
    have hscenes : (table.scenes fun _ => false) = table.scenes except := by
      unfold scenes
      refine List.filterMap_congr fun id _ => ?_
      cases hf : table.face? id with
      | none => simp [scene?, hf]
      | some face => rw [scene?_of_face? hf, scene?_of_face? hf, hnone id face hf]
    rw [hscenes]
    exact h.scenes_eq

end InPaintOrder

/-! ## Read off both ways -/

/-- Whether a node is that of a mapped window. -/
def showsMapped (table : WindowTable) (node : Handle) : Bool :=
  table.windows.any fun window => window.mapped && window.scene == node

/-- The scene nodes of all stacked windows. -/
lemma scenes_eq_map (table : WindowTable) :
    (table.scenes fun _ => false) = table.stackedWindows.map Window.scene := by
  unfold scenes stackedWindows
  rw [List.map_filterMap]
  refine List.filterMap_congr fun id _ => ?_
  cases hw : table.get? id with
  | none => simp [scene?, face?, hw]
  | some window =>
    rw [scene?_of_face? (face?_of_get? hw)]
    rfl

/-- The stacked windows are the mapped ones. -/
lemma Agrees.mem_scenes_iff_showsMapped (a : Agrees table) (node : Handle) :
    (node ∈ table.scenes fun _ => false) ↔ table.showsMapped node = true := by
  rw [mem_scenes_iff]
  unfold showsMapped
  simp only [List.any_eq_true, Bool.and_eq_true, beq_iff_eq, mem_windows_iff]
  constructor
  · rintro ⟨id, hid, face, hf, -, rfl⟩
    obtain ⟨window, hw, hm⟩ := a.mem_stack_iff.1 hid
    rw [face?_of_get? hw] at hf
    cases hf
    exact ⟨window, ⟨id, hw⟩, hm, rfl⟩
  · rintro ⟨window, ⟨id, hw⟩, hm, rfl⟩
    exact ⟨id, a.mem_stack_iff.2 ⟨window, hw, hm⟩, window.face, face?_of_get? hw, trivial, rfl⟩

/-- The focus stack from front to back is what the nodes of the mapped windows are from top to
bottom. -/
lemma InPaintOrder.stackedWindows_eq {nodes : List Handle}
    (h : InPaintOrder (fun _ => false) nodes table) (a : Agrees table) :
    table.stackedWindows.map Window.scene = nodes.filter table.showsMapped := by
  have horder := h.scenes_eq
  rw [scenes_eq_map] at horder
  rw [horder]
  refine List.filter_congr fun node _ => ?_
  have hm := a.mem_scenes_iff_showsMapped node
  rw [scenes_eq_map] at hm
  rw [Bool.eq_iff_iff, decide_eq_true_iff]
  exact hm

end WindowTable

end Compositor
