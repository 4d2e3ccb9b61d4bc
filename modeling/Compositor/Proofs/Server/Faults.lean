import Compositor.Proofs.Grab.Range
import Compositor.Proofs.Server.Holding
import Compositor.Proofs.Server.Payloads

set_option autoImplicit false

/-!
# Faults

With proper payloads there are three things that can end an operation by a fault: the numbers of a
resize leave the range of coordinates when it begins, they leave it when the window is placed, or
the socket has a name that cannot be put into the environment. This module says when exactly each of
them happens.

## Main definitions

* `Server.BeginOverflows`, `Server.DriveOverflows` — a resize leaves the range of coordinates.
* `Server.OpensUnsettable` — the socket has a name that cannot be put into the environment.
* `Server.Moment.Strains` — one of these things happens at a moment.
* `Outcome.overflow?` — the overflow by which an operation ends.

## Main results

* `Server.Moment.faults_iff_strains` — a moment with a payload that is accepted ends by a fault just
  if one of them happens.
* `Server.call_faults_iff_strains` — so does every call.
* `Server.exists_fault_of_resize` — a resize can end by a fault though all payloads are proper.
-/

namespace Compositor

/-- The window and the edges of a resize that a handler is asked for. -/
def Handler.resize? (event : Event) : Handler → Option (WindowId × Edges)
  | .requestResize id =>
    match event with
    | .requestResize _ edges => some (id, edges)
    | _ => none
  | _ => none

/-- The overflow by which an operation ends, if it ends by one. -/
def Outcome.overflow? {T α : Type} (outcome : Outcome T α) : Option Overflow :=
  match outcome.result with
  | .error (.overflow cause) => some cause
  | _ => none

/-- The overflow of an operation is its result. -/
lemma Outcome.result_of_overflow? {T α : Type} {outcome : Outcome T α} {cause : Overflow}
    (h : outcome.overflow? = some cause) : outcome.result = .error (.overflow cause) := by
  unfold overflow? at h
  split at h <;> rename_i hresult
  · cases h
    exact hresult
  · cases h

namespace Server

variable {T : Type} [Toolkit T]

/-! ## What can go wrong -/

/-- The pointer is over a window, and the numbers of a resize of it are out of range. -/
def BeginOverflows (server : Server T) (id : WindowId) (edges : Edges) : Prop :=
  ∃ window, server.windows.get? id = some window ∧
    (Toolkit.pointerFocus server.toolkit).bind (Toolkit.toplevelOf server.toolkit) =
      some window.toplevel ∧
    ¬ Interaction.BeginsInRange window.position
      (Toolkit.toplevelGeometry server.toolkit window.toplevel) edges

/-- A window is resized, and its place for the pointer's position is out of range. -/
def DriveOverflows (server : Server T) : Prop :=
  ∃ grab window, server.interaction = .resize grab ∧
    server.windows.get? grab.window = some window ∧
    ¬ PlacesInRange (grab.target (Toolkit.cursorPosition server.toolkit))
      (Toolkit.toplevelGeometry server.toolkit window.toplevel)

/-- The socket can be opened and the backend be started, but the name of the socket cannot be put
into the environment. -/
def OpensUnsettable (server : Server T) : Prop :=
  ∃ socket, server.openSocket.1 = .ok socket ∧
    server.openSocket.2.startBackend.1 = .ok () ∧ hasNul socket = true

namespace Moment

/-- The window and the edges of a resize that a moment is asked for. -/
def resize? (moment : Moment T) : Option (WindowId × Edges) :=
  match moment.deed with
  | .callback event (.run handler) => handler.resize? event
  | .call (.beginInteractive id .resize edges) _ => some (id, edges)
  | _ => none

/-- Whether the display is opened at a moment. -/
def opens (moment : Moment T) : Bool :=
  match moment.deed with
  | .call (.start _) _ => true
  | _ => false

/-- The numbers of a resize leave the range at a moment, or the name of the socket cannot be put
into the environment. -/
@[mk_iff]
inductive Strains (moment : Moment T) : Prop
  /-- A resize cannot begin. -/
  | begins {id : WindowId} {edges : Edges} : moment.resize? = some (id, edges) →
    moment.server.BeginOverflows id edges → Strains moment
  /-- A resized window cannot be placed. -/
  | drives {pointed : Server T} : moment.pointed? = some pointed → pointed.DriveOverflows →
    Strains moment
  /-- The display cannot be opened. -/
  | opens : moment.opens = true → moment.server.OpensUnsettable → Strains moment

end Moment

/-! ## When it does -/

section Outcome

omit [Toolkit T]

variable {α β : Type} {server : Server T}

/-- An operation that finishes has no fault. -/
lemma not_faults_finish (result : α) : ¬ (server.finish result).Faults := by
  rintro ⟨fault, hf⟩
  cases hf

/-- An operation that fails has one. -/
lemma faults_fail (fault : Fault) : (server.fail fault : Outcome T α).Faults :=
  ⟨fault, rfl⟩

/-- What is made of the result does not change the fault. -/
lemma faults_map_iff {outcome : Outcome T α} {f : α → β} :
    (outcome.map f).Faults ↔ outcome.Faults :=
  exists_congr fun _ => result_map_eq_error_iff

end Outcome

/-- What is made of the result does not change the error. -/
lemma exists_map_eq_error_iff {α β ε : Type} {first : Except ε α} {f : α → β} :
    (∃ cause, first.map f = .error cause) ↔ ∃ cause, first = .error cause := by
  cases first <;> simp [Except.map]

/-- A grab cannot begin just if it is a resize whose numbers leave the range. -/
lemma exists_grabFor?_eq_error_iff {server : Server T} {id : WindowId} {mode : GrabMode}
    {edges : Edges} : (∃ cause, server.grabFor? id mode edges = .error cause) ↔
      mode = .resize ∧ server.BeginOverflows id edges := by
  unfold grabFor? BeginOverflows
  cases hw : server.windows.get? id with
  | none => simp
  | some window =>
    dsimp only
    by_cases hfocus : (Toolkit.pointerFocus server.toolkit).bind
        (Toolkit.toplevelOf server.toolkit) = some window.toplevel
    · rw [if_pos hfocus]
      cases mode with
      | move => simp
      | resize =>
        dsimp only
        rw [exists_map_eq_error_iff, Interaction.exists_beginResize?_eq_error_iff]
        simp [hfocus]
    · rw [if_neg hfocus]
      simp [hfocus]

/-- Only a resize can go wrong when it begins. -/
lemma beginInteractive_faults_iff {server : Server T} {id : WindowId} {mode : GrabMode}
    {edges : Edges} : (server.beginInteractive id mode edges).Faults ↔
      mode = .resize ∧ server.BeginOverflows id edges := by
  rw [← exists_grabFor?_eq_error_iff]
  unfold beginInteractive
  cases server.grabFor? id mode edges with
  | error cause => simp [faults_fail]
  | ok grab => cases grab <;> simp [not_faults_finish]

/-- A resize ends by a fault just if the place of its window is out of range. -/
lemma processResize_faults_iff {server : Server T} {grab : ResizeGrab}
    (hi : server.interaction = .resize grab) :
    (server.processResize grab).Faults ↔ server.DriveOverflows := by
  unfold processResize DriveOverflows
  cases hw : server.windows.get? grab.window with
  | none => simp [hi, hw, not_faults_finish]
  | some window =>
    have hplace := exists_originOf_eq_error_iff
      (grab.target (Toolkit.cursorPosition server.toolkit))
      (Toolkit.toplevelGeometry server.toolkit window.toplevel)
    cases ho : originOf (grab.target (Toolkit.cursorPosition server.toolkit))
        (Toolkit.toplevelGeometry server.toolkit window.toplevel) with
    | error cause =>
      have hout := hplace.1 ⟨cause, ho⟩
      simp [hi, hw, ho, hout, faults_fail]
    | ok position =>
      rw [ho] at hplace
      simpa [hi, hw, ho, not_faults_finish] using hplace

/-- Only a resize can go wrong when motion drives it. -/
lemma processMotion_faults_iff {server : Server T} {time : UInt32} :
    (server.processMotion time).Faults ↔ server.DriveOverflows := by
  unfold processMotion
  cases hi : server.interaction with
  | passThrough => simp [DriveOverflows, hi, not_faults_finish]
  | move grab => simp [DriveOverflows, hi, not_faults_finish]
  | resize grab => exact processResize_faults_iff hi

omit [Toolkit T] in
/-- The display cannot be announced just if the name of the socket has a zero character. -/
lemma publish_faults_iff {server : Server T} {host : Host} {socket : String} :
    (server.publish host socket).Faults ↔ hasNul socket = true := by
  unfold publish
  by_cases hn : hasNul socket = true
  · rw [if_pos hn]
    exact iff_of_true (faults_fail _) hn
  · rw [if_neg hn]
    refine iff_of_false ?_ hn
    dsimp only
    split
    · exact not_faults_finish _
    · exact not_faults_finish _

/-- A start ends by a fault just if it comes to announce a name that cannot be announced. -/
lemma start_faults_iff {server : Server T} {host : Host} :
    (server.start host).Faults ↔ server.OpensUnsettable := by
  unfold start OpensUnsettable
  split <;> rename_i hs
  · simp [hs, not_faults_finish]
  · split <;> rename_i hb
    · simp [hs, hb, not_faults_finish]
    · simp [hs, hb, publish_faults_iff]

namespace Moment

variable {moment : Moment T}

/-- A moment that neither begins nor drives a resize, nor opens the display, strains nothing. -/
lemma not_strains (hr : moment.resize? = none) (hp : moment.pointed? = none)
    (ho : moment.opens = false) : ¬ moment.Strains := by
  rw [strains_iff, hr, hp, ho]
  simp

/-- A moment that begins a resize strains if the numbers of the resize leave the range. -/
lemma strains_iff_of_resize? {id : WindowId} {edges : Edges}
    (hr : moment.resize? = some (id, edges)) (hp : moment.pointed? = none)
    (ho : moment.opens = false) : moment.Strains ↔ moment.server.BeginOverflows id edges := by
  rw [strains_iff, hr, hp, ho]
  simp

/-- A moment that drives a grab strains if the place of the resized window leaves the range. -/
lemma strains_iff_of_pointed? {pointed : Server T} (hr : moment.resize? = none)
    (hp : moment.pointed? = some pointed) (ho : moment.opens = false) :
    moment.Strains ↔ pointed.DriveOverflows := by
  rw [strains_iff, hr, hp, ho]
  simp

/-- A handler with a payload that it accepts. -/
lemma run_faults_iff {server : Server T} {handler : Handler} {event : Event}
    (h : (Callback.run handler).Accepts event) : (handler.run event server).Faults ↔
      Strains ⟨server, .callback event (.run handler)⟩ := by
  have hquiet (hr : handler.resize? event = none) (hp : handler.pointed? server event = none)
      (hf : ¬ (handler.run event server).Faults) : (handler.run event server).Faults ↔
        Strains ⟨server, .callback event (.run handler)⟩ :=
    iff_of_false hf (not_strains hr hp rfl)
  -- a payload of another kind is excluded by `h`
  cases handler with
  | newOutput => cases event <;> first | exact hquiet rfl rfl (not_faults_finish _) | cases h _ rfl
  | newInput => cases event <;> first | exact hquiet rfl rfl (not_faults_finish _) | cases h _ rfl
  | newToplevel =>
    cases event <;> first | exact hquiet rfl rfl (not_faults_finish _) | cases h _ rfl
  | newPopup =>
    cases event with
    | newPopup popup parent =>
      cases parent with
      | none => cases h _ rfl
      | some parent => exact hquiet rfl rfl (not_faults_finish _)
    | _ => cases h _ rfl
  | motion =>
    cases event with
    | pointerMotion device time offset =>
      exact processMotion_faults_iff.trans (strains_iff_of_pointed? rfl rfl rfl).symm
    | _ => cases h _ rfl
  | motionAbsolute =>
    cases event with
    | pointerMotionAbsolute device time place =>
      exact processMotion_faults_iff.trans (strains_iff_of_pointed? rfl rfl rfl).symm
    | _ => cases h _ rfl
  | button => cases event <;> first | exact hquiet rfl rfl (not_faults_finish _) | cases h _ rfl
  | axis => cases event <;> first | exact hquiet rfl rfl (not_faults_finish _) | cases h _ rfl
  | requestSetCursor =>
    cases event <;> first | exact hquiet rfl rfl (not_faults_finish _) | cases h _ rfl
  | commit id => cases event <;> first | exact hquiet rfl rfl (not_faults_finish _) | cases h _ rfl
  | requestMove id =>
    refine hquiet rfl rfl fun hf => ?_
    have hmode := (beginInteractive_faults_iff.1 (faults_map_iff.1 hf)).1
    cases hmode
  | requestResize id =>
    cases event with
    | requestResize serial edges =>
      refine faults_map_iff.trans (beginInteractive_faults_iff.trans ?_)
      exact Iff.symm ((strains_iff_of_resize? rfl rfl rfl).trans (and_iff_right rfl).symm)
    | _ => cases h _ rfl
  | popupCommit popup =>
    cases event with
    | commit initial => cases initial <;> exact hquiet rfl rfl (not_faults_finish _)
    | _ => exact hquiet rfl rfl (not_faults_finish _)
  | requestState output =>
    cases event <;> first | exact hquiet rfl rfl (not_faults_finish _) | cases h _ rfl
  | key device =>
    cases event <;> first | exact hquiet rfl rfl (not_faults_finish _) | cases h _ rfl
  | _ => exact hquiet rfl rfl (not_faults_finish _)

/-- **A moment ends by a fault just if it strains**, given that its payload is accepted. -/
theorem faults_iff_strains (moment : Moment T) (h : moment.Accepted) :
    moment.Faults ↔ moment.Strains := by
  obtain ⟨server, deed⟩ := moment
  have hquiet {outcome : Outcome T Unit} (hr : Moment.resize? ⟨server, deed⟩ = none)
      (hp : Moment.pointed? ⟨server, deed⟩ = none) (ho : Moment.opens ⟨server, deed⟩ = false)
      (hf : ¬ outcome.Faults) : outcome.Faults ↔ Strains ⟨server, deed⟩ :=
    iff_of_false hf (not_strains hr hp ho)
  cases deed with
  | dispatch handle signal event => exact hquiet rfl rfl rfl (not_faults_finish ())
  | callback event callback =>
    cases callback with
    | retire handle => exact hquiet rfl rfl rfl (not_faults_finish ())
    | run handler => exact run_faults_iff h
  | call call direct =>
    refine faults_map_iff.trans ?_
    cases call with
    | start host =>
      refine faults_map_iff.trans (start_faults_iff.trans ?_)
      rw [strains_iff]
      simp [resize?, pointed?, opens]
    | beginInteractive id mode edges =>
      refine faults_map_iff.trans (beginInteractive_faults_iff.trans ?_)
      cases mode with
      | move => exact iff_of_false (fun hf => nomatch hf.1) (not_strains rfl rfl rfl)
      | resize =>
        exact Iff.symm ((strains_iff_of_resize? rfl rfl rfl).trans (and_iff_right rfl).symm)
    | processMotion time =>
      refine faults_map_iff.trans (processMotion_faults_iff.trans ?_)
      exact (strains_iff_of_pointed? rfl rfl rfl).symm
    | emit handle signal event => cases direct
    | emitNative token event => cases direct
    | run emissions => cases direct
    | _ => exact iff_of_false (not_faults_finish _) (not_strains rfl rfl rfl)

end Moment

/-- **Input ends an operation by a fault just if it strains the numbers of a resize** or the socket
gets a name that cannot be put into the environment. This goes for every call, from the creation of
a server on, as long as all dispatches have proper payloads; and it goes for everything that is done
in between, also from callbacks. Moves never end by a fault, nor does any other input, whatever the
geometries and the places of the cursor.

**Proof sketch.** Payloads that are proper for their signals are accepted by all callbacks
(`Unfolds.accepted`), which leaves the arithmetic of a resize and the name of the socket for each
moment (`Moment.faults_iff_strains`). A call faults just if one of its moments does. -/
theorem call_faults_iff_strains {toolkit : T} {config : Config} {display : Option String}
    {start server : Server T} {moments : List (Moment T)} {servings : List Serving}
    (hc : create toolkit config display = .ok start)
    (h : Unfolds start [] moments server servings) (call : Call)
    (hp : ∀ moment ∈ moments ++ server.moments call, moment.Proper) :
    (∀ moment ∈ moments ++ server.moments call, moment.Faults ↔ moment.Strains) ∧
      ((server.call call).Faults ↔ ∃ moment ∈ server.moments call, moment.Strains) := by
  have haccepted := (h.call call).accepted (.create hc) hp
  have hmoments : ∀ moment ∈ moments ++ server.moments call, moment.Faults ↔ moment.Strains :=
    fun moment hm => moment.faults_iff_strains (haccepted.1 moment hm)
  refine ⟨hmoments, ?_⟩
  rw [call_faults_iff]
  exact exists_congr fun moment => and_congr_right fun hm =>
    hmoments moment (List.mem_append_right _ hm)

/-! ## A resize by the left edge -/

/-- A window whose geometry begins ten units to the right of its place is mapped, the pointer is
over it, and its client asks for it to be resized by the left edge. -/
def leftEdgeDragged : List (List Headless.Setting × Call) :=
  [([.window ⟨0x50⟩ ⟨0x51⟩ none (some ⟨10, 0, 200, 100⟩) none],
      .emit ⟨0x20⟩ .newToplevel (.newToplevel ⟨0x50⟩ ⟨0x51⟩)),
    ([.pointerFocus (some ⟨0x51⟩)], .emit ⟨0x51⟩ .map .empty),
    ([], .emit ⟨0x50⟩ .requestResize (.requestResize 7 Edges.left))]

/-- The cursor moves to the left by some distance. -/
def leftMotion (distance : Float) : Call :=
  .emit ⟨0x30⟩ .motion (.pointerMotion ⟨0x60⟩ 8 ⟨-distance, 0⟩)

/-- The cursor moves to the left by fifty units. -/
theorem call_faults_iff_strains_near :
    let server := (standard.enact leftEdgeDragged).2
    server.interaction.grabbed? = some ⟨1⟩ ∧
      ¬ ∃ moment ∈ server.moments (leftMotion 50), moment.Strains := by
  intro server
  have hgrabbed : server.interaction.grabbed? = some ⟨1⟩ := by decide +kernel
  have hproper : ∀ moment ∈ (standard.enact leftEdgeDragged).1 ++ server.moments (leftMotion 50),
      moment.Proper := by decide +kernel
  have hresult : (server.call (leftMotion 50)).result.toOption.isSome = true := by decide +kernel
  refine ⟨hgrabbed, fun hstrains => ?_⟩
  obtain ⟨fault, hf⟩ := (call_faults_iff_strains create_standard
    (Unfolds.refl.enact leftEdgeDragged) (leftMotion 50) hproper).2.2 hstrains
  rw [hf] at hresult
  cases hresult

/-- The extents of every window are at least one, as far as the toolkit says. -/
def Moment.Sized (moment : Moment T) : Prop :=
  ∀ window ∈ moment.server.windows.windows,
    1 ≤ (Toolkit.toplevelGeometry moment.server.toolkit window.toplevel).width ∧
      1 ≤ (Toolkit.toplevelGeometry moment.server.toolkit window.toplevel).height

instance (moment : Moment T) : Decidable moment.Sized :=
  inferInstanceAs (Decidable (∀ window ∈ moment.server.windows.windows, _ ∧ _))

/-- **A resize can end by a fault**, though all payloads are proper and all windows have an extent.
The cursor moves to the left by more than the range of coordinates. The box of the window stops at
the end of the range, and the place of its surface would be ten units beyond. -/
theorem exists_fault_of_resize : ∃ (moments : List (Moment Headless)) (server : Server Headless)
    (call : Call), Unfolds standard [] moments server [] ∧
      (∀ moment ∈ moments ++ server.moments call, moment.Proper ∧ moment.Sized) ∧
        (server.call call).result = .error (.overflow .subtraction) := by
  have hproper : ∀ moment ∈ (standard.enact leftEdgeDragged).1 ++
      (standard.enact leftEdgeDragged).2.moments (leftMotion 1e12),
        moment.Proper ∧ moment.Sized := by decide +kernel
  have hfault : ((standard.enact leftEdgeDragged).2.call (leftMotion 1e12)).overflow? =
      some .subtraction := by decide +kernel
  exact ⟨_, _, leftMotion 1e12, Unfolds.refl.enact leftEdgeDragged, hproper,
    Outcome.result_of_overflow? hfault⟩

end Server

end Compositor
