import Compositor.Proofs.Server.Faults

set_option autoImplicit false

/-!
# Requests for a grab

Clients ask for a move or a resize of a window, also from old button presses, for windows that are
not mapped or not there any more, and while another grab is active. The answer depends on the record
of the window, on where the pointer is and, for a resize, on sums that may leave the range of
coordinates. A request that is not granted must leave no trace.

## Main definitions

* `Interaction.mode?` — the kind of the active grab.
* `Server.PointedAt` — the pointer is over a window that has a record.

## Main results

* `Server.grabFor?_cases` — what a request is answered.
* `Server.beginInteractive_granted_iff` — a grab is granted exactly on pointer focus, and a denial
  leaves the server as it was.
-/

namespace Compositor

/-- The kind of the active grab. -/
def Interaction.mode? : Interaction → Option GrabMode
  | passThrough => none
  | move _ => some .move
  | resize _ => some .resize

/-! ## Resizes that begin -/

/-- A computation ends by no other overflow than that of an addition. -/
def OnlyAdds {α : Type} (computation : Except Overflow α) : Prop :=
  ∀ cause, computation = .error cause → cause = .addition

namespace OnlyAdds

variable {α β : Type}

/-- A result is no overflow. -/
lemma pure (result : α) : OnlyAdds (.ok result) :=
  fun _ h => nomatch h

/-- Computations in turn only add if each does. -/
lemma bind {first : Except Overflow α} {next : α → Except Overflow β} (hf : OnlyAdds first)
    (hn : ∀ result, OnlyAdds (next result)) : OnlyAdds (first >>= next) := by
  intro cause h
  cases first with
  | error other =>
    cases h
    exact hf _ rfl
  | ok result => exact hn result cause h

/-- An addition only adds. -/
lemma add (a b : Coordinate) : OnlyAdds (Coordinate.add a b) := by
  intro cause h
  unfold Coordinate.add at h
  split at h <;> cases h
  rfl

end OnlyAdds

namespace Interaction

variable {window : WindowId} {cursor : Point Float} {position : Point Coordinate} {geometry : Box}
  {edges : Edges}

/-- The border of a window is found by one addition at most. -/
lemma onlyAdds_borderOf (near extent : Coordinate) (dragged : Bool) :
    OnlyAdds (borderOf near extent dragged) := by
  cases dragged with
  | false => exact .pure near
  | true => exact .add near extent

/-- A resize that cannot begin overflows in an addition. -/
lemma onlyAdds_beginResize? : OnlyAdds (beginResize? window cursor position geometry edges) := by
  refine .bind (.bind (.add _ _) fun _ => .bind (.add _ _) fun _ => .pure _) fun anchor => ?_
  refine .bind ?_ fun border => .pure _
  rw [referenceBorder_eq]
  exact .bind (onlyAdds_borderOf _ _ _) fun _ => .bind (onlyAdds_borderOf _ _ _) fun _ => .pure _

/-- A resize that begins is a resize of its window. -/
lemma eq_resize_of_beginResize? {grab : Interaction}
    (h : beginResize? window cursor position geometry edges = .ok grab) :
    grab.grabbed? = some window ∧ grab.mode? = some .resize := by
  unfold beginResize? at h
  cases ht : geometry.translated position with
  | error cause =>
    rw [ht] at h
    cases h
  | ok anchor =>
    rw [ht] at h
    change (referenceBorder anchor edges >>= _) = _ at h
    cases hb : referenceBorder anchor edges with
    | error cause =>
      rw [hb] at h
      cases h
    | ok border =>
      rw [hb] at h
      cases h
      exact ⟨rfl, rfl⟩

end Interaction

/-! ## Answers -/

namespace Server

variable {T : Type} [Toolkit T]

/-- The pointer is over a window that has a record: the surface with the pointer focus belongs to
its toplevel. -/
def PointedAt (server : Server T) (id : WindowId) : Prop :=
  ∃ window, server.windows.get? id = some window ∧
    (Toolkit.pointerFocus server.toolkit).bind (Toolkit.toplevelOf server.toolkit) =
      some window.toplevel

/-- What a request is answered: it is denied, it fails, or it is granted a grab of its window in its
mode. -/
lemma grabFor?_cases (server : Server T) (id : WindowId) (mode : GrabMode) (edges : Edges) :
    (server.grabFor? id mode edges = .ok none ∧ ¬ server.PointedAt id) ∨
    (server.grabFor? id mode edges = .error .addition ∧ mode = .resize ∧
      server.BeginOverflows id edges) ∨
    ∃ grab, server.grabFor? id mode edges = .ok (some grab) ∧ server.PointedAt id ∧
      ¬ (mode = .resize ∧ server.BeginOverflows id edges) ∧
      grab.grabbed? = some id ∧ grab.mode? = some mode := by
  by_cases hp : server.PointedAt id
  · right
    have ⟨window, hw, hfocus⟩ := hp
    have hfails : (∃ cause, server.grabFor? id mode edges = .error cause) ↔ _ :=
      exists_grabFor?_eq_error_iff
    cases mode with
    | move =>
      let grab := Interaction.beginMove id (Toolkit.cursorPosition server.toolkit) window.position
      refine .inr ⟨grab, ?_, hp, ?_, rfl, rfl⟩
      · simp only [grabFor?, hw, if_pos hfocus, grab]
      · rintro ⟨hmode, -⟩
        cases hmode
    | resize =>
      have hresult : server.grabFor? id .resize edges =
          (Interaction.beginResize? id (Toolkit.cursorPosition server.toolkit) window.position
            (Toolkit.toplevelGeometry server.toolkit window.toplevel) edges).map some := by
        simp only [grabFor?, hw, if_pos hfocus]
      rw [hresult] at hfails ⊢
      cases hb : Interaction.beginResize? id (Toolkit.cursorPosition server.toolkit) window.position
        (Toolkit.toplevelGeometry server.toolkit window.toplevel) edges with
      | error cause =>
        rw [hb] at hfails
        obtain rfl := Interaction.onlyAdds_beginResize? cause hb
        exact .inl ⟨rfl, hfails.1 ⟨_, rfl⟩⟩
      | ok grab =>
        rw [hb] at hfails
        refine .inr ⟨grab, rfl, hp, fun h => ?_, Interaction.eq_resize_of_beginResize? hb⟩
        obtain ⟨cause, he⟩ := hfails.2 h
        cases he
  · refine .inl ⟨?_, hp⟩
    unfold grabFor?
    cases hw : server.windows.get? id with
    | none => rfl
    | some window => exact if_neg fun hfocus => hp ⟨window, hw, hfocus⟩

/-- **A grab is granted exactly on pointer focus, and a denial is invisible**, whatever window is
named and whatever grab is active. The request is granted just if the pointer is over the window and
the numbers of a resize are in range; then the only change is that the grab is one of this window in
this mode. If it is not granted, nothing changes. No command is given to the toolkit.

**Proof sketch.** The three answers exclude each other (`grabFor?_cases`), and the overflow comes
before the grab is set. -/
theorem beginInteractive_granted_iff (server : Server T) (id : WindowId) (mode : GrabMode)
    (edges : Edges) :
    let answer := server.beginInteractive id mode edges
    (answer.result = .ok true ↔
      server.PointedAt id ∧ ¬ (mode = .resize ∧ server.BeginOverflows id edges)) ∧
    (answer.result = .ok true → ∃ grab, grab.grabbed? = some id ∧ grab.mode? = some mode ∧
      answer.server = { server with interaction := grab }) ∧
    (answer.result ≠ .ok true → answer.server = server ∧
      (answer.result = .ok false ∧ ¬ server.PointedAt id ∨
        answer.result = .error (.overflow .addition) ∧ mode = .resize ∧
          server.BeginOverflows id edges)) ∧
    answer.server.toolkit = server.toolkit ∧ answer.server.journal = server.journal := by
  intro answer
  rcases server.grabFor?_cases id mode edges with ⟨hg, hp⟩ | ⟨hg, hmode, ho⟩ |
    ⟨grab, hg, hp, ho, hwindow, hmode⟩
  · have ha : answer = server.finish false := by
      simp only [answer, beginInteractive, hg]
    simp [ha, finish, hp]
  · have ha : answer = server.fail (.overflow .addition) := by
      simp only [answer, beginInteractive, hg]
    simp [ha, fail, hmode, ho]
  · have ha : answer = { server with interaction := grab }.finish true := by
      simp only [answer, beginInteractive, hg]
    simp [ha, finish, hp, ho, hwindow, hmode]

end Server

end Compositor
