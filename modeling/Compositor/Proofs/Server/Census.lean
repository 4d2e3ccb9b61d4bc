import Compositor.Headless
import Compositor.Proofs.Server.Steady
import Mathlib.Data.List.Nodup
import Mathlib.Tactic.Common

set_option autoImplicit false

/-!
# A census of the objects outside

The toolkit announces objects and tells of their destruction. A census keeps the books on this from
the outside, from the dispatched events alone: which objects are there, what each of them is, and
which values belong to destroyed objects. It knows nothing of listeners, records or the journal, so
that these can be held against it.

What may be announced and destroyed when is a promise of the toolkit. Runs are taken under a promise,
and each result says under which: that a value in use is not announced for another object, that
neither is one that a window still goes by, or that windows go before their surfaces as well.

## Main definitions

* `Server.Role`, `Server.Resident`, `Server.Census` — the objects and what they are.
* `Server.Role.callbacks`, `Server.Role.signals` — what an object is listened to for.
* `Server.Census.arrival?`, `Server.Census.after` — what an event brings and takes.
* `Server.Census.Fresh`, `Server.Census.Unnamed`, `Server.Census.InOrder` — promises, each including
  the one before.
* `Server.Course` — the states of a server under a promise, each with the census.

## Main results

* `Server.Census.role?_receive`, `Server.Census.role?_bury` — who is there after an event.
* `Server.Course.emitAll` — events in turn that keep a promise.
-/

namespace Compositor

/-- Whether a signal is one of the cursor's. -/
def Signal.isPointer : Signal → Bool
  | .motion | .motionAbsolute | .button | .axis | .pointerFrame => true
  | _ => false

namespace Server

/-! ## Roles -/

/-- What a signal of the cursor runs. -/
def cursorCallbacks : Signal → List (Callback Handler)
  | .motion => [.run .motion]
  | .motionAbsolute => [.run .motionAbsolute]
  | .button => [.run .button]
  | .axis => [.run .axis]
  | .pointerFrame => [.run .pointerFrame]
  | _ => []

/-- What an object is to the server. The cursor is left out, since its lifetime is not tracked, and
so are input devices other than keyboards, since they are not listened to. -/
inductive Role where
  /-- The backend. -/
  | backend
  /-- The shell. -/
  | shell
  /-- The seat. -/
  | seat
  /-- An output. -/
  | output
  /-- A keyboard. -/
  | keyboard
  /-- A popup. -/
  | popup
  /-- The toplevel of a window, which was announced with a root surface. -/
  | toplevel (window : WindowId) (surface : Handle)
  /-- The root surface of a window. -/
  | surface (window : WindowId)
deriving DecidableEq

/-- The cursor runs nothing for the signals of other objects. -/
lemma cursorCallbacks_eq_nil {signal : Signal} (h : signal.isPointer = false) :
    cursorCallbacks signal = [] := by
  cases signal <;> first | rfl | cases h

namespace Role

/-- The root surface that was announced with a toplevel. -/
def surface? : Role → Option Handle
  | toplevel _ root => some root
  | _ => none

/-- Whether an object of a role may be destroyed in an orderly session: a global object stays to the
end, and the surface of a window outlives it. -/
def departs : Role → Bool
  | backend | shell | seat | surface _ => false
  | output | keyboard | popup | toplevel _ _ => true

/-- The signals that an object of a role is listened to for. -/
def signals : Role → List Signal
  | backend => [.newOutput, .newInput, .destroy]
  | shell => [.newToplevel, .newPopup, .destroy]
  | seat => [.requestSetCursor, .destroy]
  | output => [.frame, .requestState, .destroy]
  | keyboard => [.modifiers, .key, .destroy]
  | popup => [.commit, .destroy]
  | toplevel _ _ => [.destroy, .requestMove, .requestResize]
  | surface _ => [.map, .unmap, .commit, .destroy]

/-- What a signal of an object of a role runs. Every handler knows the object itself, or its
window. -/
def callbacks (handle : Handle) : Role → Signal → List (Callback Handler)
  | backend, .newOutput => [.run .newOutput]
  | backend, .newInput => [.run .newInput]
  | backend, .destroy => [.retire handle]
  | shell, .newToplevel => [.run .newToplevel]
  | shell, .newPopup => [.run .newPopup]
  | shell, .destroy => [.retire handle]
  | seat, .requestSetCursor => [.run .requestSetCursor]
  | seat, .destroy => [.retire handle]
  | output, .frame => [.run (.frame handle)]
  | output, .requestState => [.run (.requestState handle)]
  | output, .destroy => [.run (.outputDestroyed handle), .retire handle]
  | keyboard, .modifiers => [.run (.modifiers handle)]
  | keyboard, .key => [.run (.key handle)]
  | keyboard, .destroy => [.run (.keyboardDestroyed handle), .retire handle]
  | popup, .commit => [.run (.popupCommit handle)]
  | popup, .destroy => [.retire handle]
  | toplevel id _, .destroy => [.run (.toplevelDestroyed id), .retire handle]
  | toplevel id _, .requestMove => [.run (.requestMove id)]
  | toplevel id _, .requestResize => [.run (.requestResize id)]
  | surface id, .map => [.run (.map id)]
  | surface id, .unmap => [.run (.unmap id)]
  | surface id, .commit => [.run (.commit id)]
  | surface _, .destroy => [.retire handle]
  | _, _ => []

/-- No signal is listened to twice. -/
lemma signals_nodup (role : Role) : role.signals.Nodup := by
  cases role <;> simp [signals]

/-- No other object is listened to for a signal of the cursor. -/
lemma callbacks_of_isPointer (role : Role) (handle : Handle) {signal : Signal}
    (h : signal.isPointer = true) : role.callbacks handle signal = [] := by
  cases role <;> cases signal <;> first | rfl | cases h

/-- The signals of a role are those that run something. -/
lemma mem_signals_iff (handle : Handle) (role : Role) (signal : Signal) :
    signal ∈ role.signals ↔ role.callbacks handle signal ≠ [] := by
  cases role <;> cases signal <;> simp [signals, callbacks]

end Role

/-- An object that is there. -/
structure Resident where
  /-- The object. -/
  handle : Handle
  /-- What it is. -/
  role : Role
deriving DecidableEq

/-! ## Arrivals -/

/-- What an event announces. -/
inductive Arrival where
  /-- An output. -/
  | output (output : Handle)
  /-- An input device. -/
  | device (device : Handle) (kind : DeviceKind)
  /-- A toplevel on its root surface. -/
  | toplevel (toplevel surface : Handle)
  /-- A popup, whatever its parent. -/
  | popup (popup : Handle)
deriving DecidableEq

namespace Arrival

/-- The announced objects. -/
def handles : Arrival → List Handle
  | output object => [object]
  | device object _ => [object]
  | toplevel object root => [object, root]
  | popup object => [object]

/-- The number of windows among them. -/
def windows : Arrival → Nat
  | toplevel _ _ => 1
  | _ => 0

/-- The announced objects that are listened to; a window among them gets a given number. -/
def residents (id : WindowId) : Arrival → List Resident
  | output object => [⟨object, .output⟩]
  | device object .keyboard => [⟨object, .keyboard⟩]
  | device _ _ => []
  | toplevel object root => [⟨object, .toplevel id root⟩, ⟨root, .surface id⟩]
  | popup object => [⟨object, .popup⟩]

/-- Who arrives has a value that was announced. -/
lemma handle_mem_of_mem_residents {id : WindowId} {arrival : Arrival} {resident : Resident}
    (h : resident ∈ arrival.residents id) : resident.handle ∈ arrival.handles := by
  cases arrival with
  | device object kind => cases kind <;> simp_all [residents, handles]
  | toplevel object root =>
    simp only [residents, List.mem_cons, List.not_mem_nil, or_false] at h
    rcases h with rfl | rfl <;> simp [handles]
  | _ => simp_all [residents, handles]

/-- Those who arrive have distinct values if the announced ones are distinct. -/
lemma residents_nodup (id : WindowId) {arrival : Arrival} (h : arrival.handles.Nodup) :
    ((arrival.residents id).map Resident.handle).Nodup := by
  cases arrival with
  | device object kind => cases kind <;> simp [residents]
  | toplevel object root => exact h
  | _ => simp [residents]

end Arrival

/-- What an event announces if it comes from an object of a given role. A popup without a parent is
none. -/
def Role.announced? (role : Role) (emission : Emission) : Option Arrival :=
  match role, emission.signal, emission.event with
  | .backend, .newOutput, .newOutput object => some (.output object)
  | .backend, .newInput, .newInput object kind => some (.device object kind)
  | .shell, .newToplevel, .newToplevel object root => some (.toplevel object root)
  | .shell, .newPopup, .newPopup object (some _) => some (.popup object)
  | _, _, _ => none

/-- No signal of the cursor announces anything. -/
lemma Role.announced?_of_isPointer (role : Role) {emission : Emission}
    (h : emission.signal.isPointer = true) : role.announced? emission = none := by
  unfold announced?
  split
  all_goals first
    | rfl
    | simp_all [Signal.isPointer]

/-- With an announcement something is run. -/
lemma Role.callbacks_ne_nil {role : Role} {emission : Emission} {arrival : Arrival}
    (h : role.announced? emission = some arrival) (handle : Handle) :
    role.callbacks handle emission.signal ≠ [] := by
  unfold announced? at h
  split at h <;> cases h <;> simp_all [callbacks]

/-! ## The census -/

/-- The objects outside. -/
structure Census where
  /-- The cursor. -/
  cursor : Handle
  /-- The objects that are there, the newest last. -/
  residents : List Resident
  /-- The values of destroyed objects that have not been announced again. -/
  gone : List Handle
  /-- The number of the next window. -/
  next : Nat
deriving DecidableEq

namespace Census

variable {census : Census} {handle other : Handle} {role : Role}

/-- The objects that are there from the start. -/
def initial {T : Type} [Toolkit T] (toolkit : T) : Census where
  cursor := Toolkit.cursor toolkit
  residents := [⟨Toolkit.backend toolkit, .backend⟩, ⟨Toolkit.shell toolkit, .shell⟩,
    ⟨Toolkit.seat toolkit, .seat⟩]
  gone := []
  next := 1

/-- What an object is. -/
def role? (census : Census) (handle : Handle) : Option Role :=
  (census.residents.find? fun resident => resident.handle = handle).map Resident.role

/-- What a signal of an object should run. -/
def callbacks (census : Census) (handle : Handle) (signal : Signal) : List (Callback Handler) :=
  (census.role? handle).elim [] fun role => role.callbacks handle signal

/-- What an event announces. It must come from the object that makes such announcements. -/
def arrival? (census : Census) (emission : Emission) : Option Arrival :=
  (census.role? emission.handle).bind fun role => role.announced? emission

/-- Announced objects are there. -/
def receive (census : Census) (arrival : Arrival) : Census :=
  { census with
    residents := census.residents ++ arrival.residents ⟨census.next⟩
    gone := census.gone.filter fun handle => handle ∉ arrival.handles
    next := census.next + arrival.windows }

/-- The values that become free when an object is destroyed. A toplevel takes its surface along: the
surface may live on, but nobody is interested in it. -/
def released (census : Census) (handle : Handle) : List Handle :=
  match census.role? handle with
  | some (.toplevel _ surface) => [handle, surface]
  | _ => [handle]

/-- A destroyed object is gone. -/
def bury (census : Census) (handle : Handle) : Census :=
  { census with
    residents := census.residents.filter fun resident => resident.handle ∉ census.released handle
    gone := handle :: census.gone }

/-- The census after an event. -/
def after (census : Census) (emission : Emission) : Census :=
  match census.arrival? emission with
  | some arrival => census.receive arrival
  | none => if emission.signal = .destroy then census.bury emission.handle else census

/-- The census after the end of the session. -/
def close (census : Census) : Census :=
  { census with residents := [] }

/-! ### Who is there -/

/-- An object with a role is there. -/
lemma mem_of_role? (h : census.role? handle = some role) : ⟨handle, role⟩ ∈ census.residents := by
  obtain ⟨resident, hf, rfl⟩ := Option.map_eq_some_iff.1 h
  obtain rfl : resident.handle = handle := by simpa using List.find?_some hf
  exact List.mem_of_find?_eq_some hf

/-- An object has no role just if it is not there. -/
lemma role?_eq_none_iff :
    census.role? handle = none ↔ ∀ resident ∈ census.residents, resident.handle ≠ handle := by
  simp [role?]

/-- If the objects have distinct values, each is what the census says. -/
lemma role?_of_mem (hd : (census.residents.map Resident.handle).Nodup)
    (h : ⟨handle, role⟩ ∈ census.residents) : census.role? handle = some role := by
  cases hr : census.role? handle with
  | none => exact absurd rfl (role?_eq_none_iff.1 hr _ h)
  | some found =>
    have he := List.inj_on_of_nodup_map hd (mem_of_role? hr) h rfl
    exact congrArg (fun resident : Resident => some resident.role) he

/-- After an announcement the earlier objects are what they were, and the others are what was
announced. -/
lemma role?_receive (arrival : Arrival) (handle : Handle) :
    (census.receive arrival).role? handle =
      (census.role? handle).or (((arrival.residents ⟨census.next⟩).find? fun resident =>
        resident.handle = handle).map Resident.role) := by
  unfold role? receive
  rw [List.find?_append, Option.map_or]

/-- After a destruction all other objects are what they were. -/
lemma role?_bury (handle other : Handle) :
    (census.bury handle).role? other =
      if other ∈ census.released handle then none else census.role? other := by
  unfold role? bury
  dsimp only
  rw [List.find?_filter]
  split <;> rename_i ho
  · rw [Option.map_eq_none_iff, List.find?_eq_none]
    rintro resident - hp
    simp only [decide_not, Bool.not_eq_true', decide_eq_false_iff_not, decide_eq_true_eq] at hp
    exact hp.1 (hp.2 ▸ ho)
  · congr 2
    funext resident
    by_cases hr : resident.handle = other
    · simp [hr, ho]
    · simp [hr]

/-- The global objects that are tracked have distinct values if all global objects have. -/
lemma nodup_initial {T : Type} [Toolkit T] {toolkit : T}
    (h : [Toolkit.backend toolkit, Toolkit.shell toolkit, Toolkit.cursor toolkit,
      Toolkit.seat toolkit].Nodup) : ((initial toolkit).residents.map Resident.handle).Nodup := by
  simp only [initial, List.map_cons, List.map_nil]
  exact h.sublist (by simp)

/-- After an announcement the objects have distinct values if no object had those that were
announced. -/
lemma nodup_receive (hd : (census.residents.map Resident.handle).Nodup) {arrival : Arrival}
    (hnodup : arrival.handles.Nodup)
    (hfree : ∀ handle ∈ arrival.handles, census.role? handle = none) :
    ((census.receive arrival).residents.map Resident.handle).Nodup := by
  unfold receive
  rw [List.map_append]
  refine hd.append (Arrival.residents_nodup _ hnodup) ?_
  intro handle hold hnew
  obtain ⟨old, ho, rfl⟩ := List.mem_map.1 hold
  obtain ⟨new, hn, he⟩ := List.mem_map.1 hnew
  have hmem := Arrival.handle_mem_of_mem_residents hn
  exact role?_eq_none_iff.1 (hfree _ (he ▸ hmem)) old ho rfl

/-- An object runs what its role says. -/
lemma callbacks_of_role? (h : census.role? handle = some role) (signal : Signal) :
    census.callbacks handle signal = role.callbacks handle signal := by
  simp [callbacks, h]

/-- An object that is not there runs nothing. -/
lemma callbacks_of_none (h : census.role? handle = none) (signal : Signal) :
    census.callbacks handle signal = [] := by
  simp [callbacks, h]

/-- No object that can be announced runs anything for a signal of the cursor. -/
lemma callbacks_of_isPointer (census : Census) (handle : Handle) {signal : Signal}
    (h : signal.isPointer = true) : census.callbacks handle signal = [] := by
  unfold callbacks
  cases census.role? handle with
  | none => rfl
  | some role => exact role.callbacks_of_isPointer handle h

/-- After an announcement the earlier objects run what they ran, and the others what was
announced. -/
lemma callbacks_receive {arrival : Arrival}
    (hfree : ∀ handle ∈ arrival.handles, census.role? handle = none) (handle : Handle)
    (signal : Signal) : (census.receive arrival).callbacks handle signal =
      census.callbacks handle signal ++
        (((arrival.residents ⟨census.next⟩).find? fun resident =>
          resident.handle = handle).map Resident.role).elim []
            fun role => role.callbacks handle signal := by
  rw [callbacks, callbacks, role?_receive]
  cases hr : census.role? handle with
  | none => simp
  | some role =>
    have hnone : (arrival.residents ⟨census.next⟩).find?
        (fun resident => resident.handle = handle) = none := by
      rw [List.find?_eq_none]
      intro resident hm he
      have hmem := Arrival.handle_mem_of_mem_residents hm
      rw [of_decide_eq_true he] at hmem
      rw [hfree handle hmem] at hr
      cases hr
    simp [hnone]

/-- After a destruction the released values run nothing, and the others what they ran. -/
lemma callbacks_bury (handle other : Handle) (signal : Signal) :
    (census.bury handle).callbacks other signal =
      if other ∈ census.released handle then [] else census.callbacks other signal := by
  unfold callbacks
  rw [role?_bury]
  split <;> simp_all

/-- An object announces what its role says. -/
lemma arrival?_of_role? {emission : Emission} (h : census.role? emission.handle = some role) :
    census.arrival? emission = role.announced? emission := by
  simp [arrival?, h]

/-- An object that is not there announces nothing. -/
lemma arrival?_of_none {emission : Emission} (h : census.role? emission.handle = none) :
    census.arrival? emission = none := by
  simp [arrival?, h]

/-- A toplevel takes its root surface along. -/
lemma released_of_toplevel {id : WindowId} {surface : Handle}
    (h : census.role? handle = some (.toplevel id surface)) :
    census.released handle = [handle, surface] := by
  simp [released, h]

/-- Every other object goes alone. -/
lemma released_of_surface? (h : ∀ role, census.role? handle = some role → role.surface? = none) :
    census.released handle = [handle] := by
  unfold released
  split <;> rename_i hr
  · cases h _ hr
  · rfl

/-- An announcement does not destroy. -/
lemma signal_ne_destroy {emission : Emission} {arrival : Arrival}
    (h : census.arrival? emission = some arrival) : emission.signal ≠ .destroy := by
  obtain ⟨role, -, ha⟩ := Option.bind_eq_some_iff.1 h
  intro hs
  unfold Role.announced? at ha
  rw [hs] at ha
  split at ha <;> simp_all

/-- An announcement is received. -/
lemma after_of_arrival {emission : Emission} {arrival : Arrival}
    (h : census.arrival? emission = some arrival) : census.after emission = census.receive arrival := by
  simp [after, h]

/-- A destruction buries its object. -/
lemma after_of_destroy {emission : Emission} (h : emission.signal = .destroy) :
    census.after emission = census.bury emission.handle := by
  cases ha : census.arrival? emission with
  | none => simp [after, ha, h]
  | some arrival => exact absurd h (signal_ne_destroy ha)

/-- Nothing else changes the census. -/
lemma after_of_ne_destroy {emission : Emission} (ha : census.arrival? emission = none)
    (hs : emission.signal ≠ .destroy) : census.after emission = census := by
  simp [after, ha, hs]

/-! ### Promises -/

/-- The values of announced objects are distinct, and no object that is there has one of them. This
is less than that a value is announced again only after its own destruction: the surface of a window
is free as soon as the window is gone. -/
def Fresh (census : Census) (emission : Emission) : Prop :=
  ∀ arrival ∈ census.arrival? emission,
    arrival.handles.Nodup ∧ ∀ handle ∈ arrival.handles, census.role? handle = none

/-- No value is announced either while a window goes by it, be its surface destroyed or not. -/
def Unnamed (census : Census) (emission : Emission) : Prop :=
  census.Fresh emission ∧ ∀ arrival ∈ census.arrival? emission, ∀ handle ∈ arrival.handles,
    ∀ resident ∈ census.residents, resident.role.surface? ≠ some handle

/-- Nor is a global object destroyed, nor a surface before its window. -/
def InOrder (census : Census) (emission : Emission) : Prop :=
  census.Unnamed emission ∧ (emission.signal = .destroy →
    ∀ role ∈ census.role? emission.handle, role.departs = true)

instance (census : Census) (emission : Emission) : Decidable (census.Fresh emission) :=
  inferInstanceAs (Decidable (∀ arrival ∈ census.arrival? emission,
    arrival.handles.Nodup ∧ ∀ handle ∈ arrival.handles, census.role? handle = none))

instance (census : Census) (emission : Emission) : Decidable (census.Unnamed emission) :=
  inferInstanceAs (Decidable (census.Fresh emission ∧ ∀ arrival ∈ census.arrival? emission,
    ∀ handle ∈ arrival.handles, ∀ resident ∈ census.residents,
      resident.role.surface? ≠ some handle))

instance (census : Census) (emission : Emission) : Decidable (census.InOrder emission) :=
  inferInstanceAs (Decidable (census.Unnamed emission ∧ (emission.signal = .destroy →
    ∀ role ∈ census.role? emission.handle, role.departs = true)))

end Census

/-! ## Runs under a promise -/

/-- The states that a server can reach if the toolkit keeps a promise, each with the census of the
objects outside. The toolkit may answer anything, events may come for any object and with any
payload, and they may end by a fault. -/
inductive Course {T : Type} [Toolkit T] (promise : Census → Emission → Prop) :
    Server T → Census → Prop
  /-- A server is built around a toolkit whose global objects are distinct. -/
  | create {toolkit themed : T} {config : Config} {display : Option String} {server : Server T} :
    Server.create toolkit config display = .ok server →
    Toolkit.perform (.loadCursorTheme config.cursor.theme config.cursor.size) toolkit = themed →
    [Toolkit.backend themed, Toolkit.shell themed, Toolkit.cursor themed,
      Toolkit.seat themed].Nodup →
    Course promise server (Census.initial themed)
  /-- An event is dispatched. -/
  | emit {server : Server T} {census : Census} (emission : Emission) :
    Course promise server census → promise census emission →
    Course promise (server.dispatch emission.handle emission.signal emission.event).server
      (census.after emission)
  /-- A call is made that does not reach into the registry. -/
  | call {server : Server T} {census : Census} {call : Call} :
    Course promise server census → call.isSteady = true →
    Course promise (server.call call).server census
  /-- The toolkit changes by itself, so that its next answers may be any. -/
  | toolkit {server : Server T} {census : Census} (toolkit : T) :
    Course promise server census → Course promise { server with toolkit := toolkit } census
  /-- Everything is taken down. -/
  | shutdown {server : Server T} {census : Census} :
    Course promise server census → Course promise server.shutdown census.close

/-! ### Events in turn -/

section Turns

variable {T : Type} [Toolkit T] {promise : Census → Emission → Prop}

/-- Dispatches events in turn, whether or not they end by a fault. -/
def emitAll (server : Server T) (emissions : List Emission) : Server T :=
  emissions.foldl (fun server emission =>
    (server.dispatch emission.handle emission.signal emission.event).server) server

/-- The census after events in turn. -/
def Census.afterAll (census : Census) (emissions : List Emission) : Census :=
  emissions.foldl Census.after census

/-- The promise is kept with each of the events. -/
def Kept (promise : Census → Emission → Prop) : Census → List Emission → Prop
  | _, [] => True
  | census, emission :: rest => promise census emission ∧ Kept promise (census.after emission) rest

instance Kept.decidable [∀ census emission, Decidable (promise census emission)] :
    ∀ census emissions, Decidable (Kept promise census emissions)
  | _, [] => .isTrue trivial
  | census, emission :: rest =>
    have := Kept.decidable (census.after emission) rest
    inferInstanceAs (Decidable (promise census emission ∧ Kept promise (census.after emission) rest))

/-- Events in turn that keep the promise lead on. -/
lemma Course.emitAll {server : Server T} {census : Census} (h : Course promise server census)
    (emissions : List Emission) (hk : Kept promise census emissions) :
    Course promise (server.emitAll emissions) (census.afterAll emissions) := by
  unfold Server.emitAll Census.afterAll
  induction emissions generalizing server census with
  | nil => exact h
  | cons emission rest ih => exact ih (h.emit emission hk.1) hk.2

end Turns

/-- A server on the headless toolkit. -/
def standard : Server Headless :=
  (create Headless.standard Config.standard none).toOption.get (by decide +kernel)

/-- A computation with a result ends well with it. -/
lemma eq_ok_get_toOption {ε α : Type} {result : Except ε α} (h : result.toOption.isSome = true) :
    result = .ok (result.toOption.get h) := by
  cases result with
  | error _ => cases h
  | ok _ => rfl

/-- The server on the headless toolkit is made without a failure. -/
lemma create_standard : create Headless.standard Config.standard none = .ok standard :=
  eq_ok_get_toOption _

/-- The start of runs on the headless toolkit. -/
lemma Course.standard (promise : Census → Emission → Prop) :
    Course promise Server.standard (.initial Headless.standard) :=
  .create create_standard rfl (by decide)

end Server

end Compositor
