import Compositor.Proofs.Server.Elements
import Compositor.Proofs.Server.Following
import Compositor.Proofs.Server.Residents

set_option autoImplicit false

/-!
# Keyboards and outputs as they come and go

The server keeps lists of the keyboards and outputs that are attached, and tells clients what the
seat can do whenever an input device comes or a keyboard goes. The lists are kept by handlers of the
announcing objects and of the devices themselves, so that they are right only as long as these are
listened to. The census knows which devices there are from the dispatched events alone.

## Main definitions

* `Server.Census.having` — the objects of a given role, in the order of their announcement.
* `Server.lastCapabilities?` — what clients were told last of what the seat can do.
* `Server.Told` — what clients were told last is right.
* `Server.SameDevices`, `Server.Plugged` — the same lists as before, and those of the census.

## Main results

* `Server.Told.composed` — elementary steps keep clients informed.
* `Server.Follows.plugged` — a dispatch keeps the lists like those of the census.
* `Server.devices_eq_census` — lists and capabilities follow the devices.
-/

namespace Compositor

/-- What an entry tells clients of what the seat can do. -/
def Record.capabilities? : Record → Option Capabilities
  | command (.setSeatCapabilities capabilities) => some capabilities
  | _ => none

/-- A quiet entry tells clients nothing. -/
lemma Record.capabilities?_of_isQuiet {record : Record} (h : record.isQuiet = true) :
    record.capabilities? = none := by
  unfold capabilities?
  split
  · cases h
  · rfl

namespace Server

variable {T : Type} {server before middle after : Server T}

/-! ## Capabilities -/

/-- What clients were told last of what the seat can do. -/
def lastCapabilities? (server : Server T) : Option Capabilities :=
  server.journal.findSome? Record.capabilities?

/-- What clients were told last is what the seat can do, if they were told anything. -/
def Told (server : Server T) : Prop :=
  ∀ capabilities, server.lastCapabilities? = some capabilities →
    capabilities = server.capabilities

/-- The server keeps the same lists of keyboards and outputs. -/
structure SameDevices (before after : Server T) : Prop where
  /-- The keyboards are the same. -/
  keyboards_eq : after.keyboards = before.keyboards
  /-- The outputs are the same. -/
  outputs_eq : after.outputs = before.outputs

/-- A server keeps its lists as long as nothing happens. -/
lemma SameDevices.refl (server : Server T) : SameDevices server server :=
  ⟨rfl, rfl⟩

/-- Lists that are kept twice are kept. -/
lemma SameDevices.trans (h : SameDevices before middle) (h' : SameDevices middle after) :
    SameDevices before after :=
  ⟨h'.keyboards_eq.trans h.keyboards_eq, h'.outputs_eq.trans h.outputs_eq⟩

/-- What changes outside of the server alone keeps its lists. -/
lemma SameDevices.of_onlyOutside (h : OnlyOutside before after) : SameDevices before after := by
  obtain ⟨_, _, _, rfl⟩ := h
  exact ⟨rfl, rfl⟩

/-- Clients stay informed if neither the keyboards nor what they were told last change. -/
lemma Told.congr (h : Told before) (hk : after.keyboards = before.keyboards)
    (hl : after.lastCapabilities? = before.lastCapabilities?) : Told after := by
  intro capabilities hc
  have hsame : after.capabilities = before.capabilities := by
    unfold Server.capabilities
    rw [hk]
  rw [hsame]
  exact h capabilities (hl.symm.trans hc)

variable [Toolkit T]

/-- Quiet entries tell clients nothing. -/
lemma Asked.lastCapabilities?_eq (h : Asked before after) :
    after.lastCapabilities? = before.lastCapabilities? := by
  obtain ⟨records, hjournal, -, hquiet⟩ := h.led
  have hnone : records.findSome? Record.capabilities? = none :=
    List.findSome?_eq_none_iff.2 fun record hm => Record.capabilities?_of_isQuiet (hquiet record hm)
  unfold lastCapabilities?
  rw [hjournal, List.findSome?_append, hnone, Option.none_or]

/-- Clients stay informed by what is only asked. -/
lemma Told.asked (h : Told before) (ha : Asked before after) : Told after :=
  h.congr (SameDevices.of_onlyOutside ha.onlyOutside).keyboards_eq ha.lastCapabilities?_eq

/-- **Elementary steps keep clients informed**: when the list of keyboards changes, they are told in
the same step. -/
theorem Told.composed {may : Stock → Prop} (h : Composed may before after) (t : Told before) :
    Told after := by
  induction h with
  | refl server => exact t
  | trans _ _ ih ih' => exact ih' (ih t)
  | ask server hq _ hl => exact t.asked (.note server hq hl)
  | revive server handle => exact t.asked (.revive server handle)
  | register server handle signal callback => exact t.asked (.register server handle signal callback)
  | unregisterAll server handle => exact t.asked (.unregisterAll server handle)
  | retire server handle => exact t.asked (.retire server handle)
  | unsubscribe server id => exact t.asked (.unsubscribe server id)
  | closeRegistry server => exact t.asked (.closeRegistry server)
  | arrange server _ => exact t.congr rfl rfl
  | place server position _ => exact t.congr rfl rfl
  | takeDown server => exact t.congr rfl rfl
  | appear server toplevel surface _ => exact t.congr rfl rfl
  | recount server keyboards _ =>
    intro capabilities hc
    exact (Option.some.inj hc).symm
  | relist server outputs _ => exact t.congr rfl rfl
  | grab server interaction => exact t.congr rfl rfl
  | session server socket running display => exact t.congr rfl rfl

/-! ## Steps that leave the lists as they are -/

namespace SameDevices

/-- Elementary steps that are allowed to change neither list. -/
lemma composed {may : Stock → Prop} (h : Composed may before after) (hk : ¬ may .keyboards)
    (ho : ¬ may .outputs) : SameDevices before after := by
  induction h with
  | refl server => exact .refl server
  | trans _ _ ih ih' => exact ih.trans ih'
  | register server handle signal callback => exact .of_onlyOutside (.register server _ _ _)
  | unregisterAll server handle => exact .of_onlyOutside (.unregisterAll server handle)
  | retire server handle => exact .of_onlyOutside (.retire server handle)
  | unsubscribe server id => exact .of_onlyOutside (.unsubscribe server id)
  | closeRegistry server => exact .of_onlyOutside (Asked.closeRegistry server).onlyOutside
  | recount server keyboards ha => exact absurd ha hk
  | relist server outputs ha => exact absurd ha ho
  | _ => exact ⟨rfl, rfl⟩

/-- Callbacks in turn that have nothing to do with either list. -/
lemma serve (server : Server T) (event : Event) {callbacks : List (Callback Handler)}
    (h : ∀ handler, .run handler ∈ callbacks → ∀ stock, handler.stock? = some stock →
      stock = .windows) : SameDevices server (server.serve event callbacks).server := by
  have hserved : Composed (fun stock => stock = .windows) server
      (server.serve event callbacks).server :=
    .serve server event fun handler stock hm hs => h handler hm stock hs
  exact composed hserved (by simp) (by simp)

/-- One handler that has nothing to do with either list. -/
lemma serve_singleton (server : Server T) (event : Event) {handler : Handler}
    (h : ∀ stock, handler.stock? = some stock → stock = .windows) :
    SameDevices server (server.serve event [.run handler]).server :=
  serve server event fun other hm => by
    cases List.mem_singleton.1 hm
    exact h

end SameDevices

/-! ## The census of devices -/

/-- The announced objects of a given role; a window among them gets a given number. -/
def Arrival.having (id : WindowId) (arrival : Arrival) (role : Role) : List Handle :=
  ((arrival.residents id).filter fun resident => resident.role = role).map Resident.handle

/-- The objects of a given role, in the order of their announcement. -/
def Census.having (census : Census) (role : Role) : List Handle :=
  (census.residents.filter fun resident => resident.role = role).map Resident.handle

namespace Census

variable {census : Census} {handle : Handle} {role kind : Role}

/-- The objects of a role are those who are there with it. -/
lemma mem_having_iff : handle ∈ census.having role ↔ ⟨handle, role⟩ ∈ census.residents := by
  unfold having
  rw [List.mem_map]
  constructor
  · rintro ⟨resident, hm, rfl⟩
    obtain ⟨hold, hr⟩ := List.mem_filter.1 hm
    rw [← of_decide_eq_true hr]
    exact hold
  · exact fun hm => ⟨⟨handle, role⟩, List.mem_filter.2 ⟨hm, decide_eq_true rfl⟩, rfl⟩

/-- No object of a role is listed twice. -/
lemma nodup_having (h : (census.residents.map Resident.handle).Nodup) (role : Role) :
    (census.having role).Nodup :=
  (List.filter_sublist.map _).nodup h

/-- What is announced comes last. -/
lemma having_receive (arrival : Arrival) (role : Role) :
    (census.receive arrival).having role =
      census.having role ++ arrival.having ⟨census.next⟩ role := by
  unfold having receive Arrival.having
  rw [List.filter_append, List.map_append]

/-- An object of another role is not in the list. -/
lemma filter_having_of_ne (h : census.role? handle ≠ some kind)
    (hd : (census.residents.map Resident.handle).Nodup) :
    (census.having kind).filter (fun other => other ≠ handle) = census.having kind := by
  refine List.filter_eq_self.2 fun other hm => decide_eq_true ?_
  rintro rfl
  exact h (role?_of_mem hd (mem_having_iff.1 hm))

/-- A destroyed object drops out of the list. A window takes its surface along, which is in no list
but that of surfaces. -/
lemma having_bury (s : Separated census) (handle : Handle) (hkind : ∀ id, kind ≠ .surface id) :
    (census.bury handle).having kind =
      (census.having kind).filter fun other => other ≠ handle := by
  unfold having bury
  rw [List.filter_filter, List.filter_map, List.filter_filter]
  refine congrArg (List.map Resident.handle) (List.filter_congr fun resident hm => ?_)
  dsimp only [Function.comp]
  obtain ⟨other, found⟩ := resident
  by_cases hr : found = kind
  · subst hr
    have hreleased : other ∈ census.released handle ↔ other = handle := by
      rw [mem_released_iff]
      refine ⟨fun ho => ho.elim id ?_, .inl⟩
      rintro ⟨number, htoplevel⟩
      exact absurd (s.surface_eq (mem_of_role? htoplevel) hm) (hkind number)
    simp [hreleased]
  · simp [hr]

end Census

/-! ## What a dispatch does to the lists -/

/-- The lists are those of the census. -/
structure Plugged (census : Census) (server : Server T) : Prop where
  /-- The keyboards. -/
  keyboards_eq : server.keyboards = census.having .keyboard
  /-- The outputs. -/
  outputs_eq : server.outputs = census.having .output

namespace Plugged

variable {census : Census}

omit [Toolkit T] in
/-- Nothing comes or goes. -/
lemma same (p : Plugged census before) (h : SameDevices before after) : Plugged census after :=
  ⟨h.keyboards_eq.trans p.keyboards_eq, h.outputs_eq.trans p.outputs_eq⟩

omit [Toolkit T] in
/-- What is announced is put into its list. -/
lemma receive {arrival : Arrival} (p : Plugged census before)
    (hk : after.keyboards = before.keyboards ++ arrival.having ⟨census.next⟩ .keyboard)
    (ho : after.outputs = before.outputs ++ arrival.having ⟨census.next⟩ .output) :
    Plugged (census.receive arrival) after where
  keyboards_eq := by rw [hk, p.keyboards_eq, Census.having_receive]
  outputs_eq := by rw [ho, p.outputs_eq, Census.having_receive]

omit [Toolkit T] in
/-- A destroyed object is dropped from the list of its role. -/
lemma bury {handle : Handle} (p : Plugged census before) (s : census.Separated)
    (hk : after.keyboards = if census.role? handle = some .keyboard then
      before.keyboards.filter fun other => other ≠ handle else before.keyboards)
    (ho : after.outputs = if census.role? handle = some .output then
      before.outputs.filter fun other => other ≠ handle else before.outputs) :
    Plugged (census.bury handle) after where
  keyboards_eq := by
    rw [hk, Census.having_bury s handle (by simp), p.keyboards_eq]
    split <;> rename_i hr
    · rfl
    · exact (Census.filter_having_of_ne hr s.distinct).symm
  outputs_eq := by
    rw [ho, Census.having_bury s handle (by simp), p.outputs_eq]
    split <;> rename_i hr
    · rfl
    · exact (Census.filter_having_of_ne hr s.distinct).symm

end Plugged

/-! ### Handlers that change them -/

/-- A new output is the last one in its list, and the keyboards stay. -/
lemma outputs_handleNewOutput (server : Server T) (output : Handle) :
    (server.handleNewOutput output).keyboards = server.keyboards ∧
      (server.handleNewOutput output).outputs = server.outputs ++ [output] := by
  let prepared := (server.revive output).perform (.initOutputRender output)
  let configuration := OutputConfiguration.mk true (Toolkit.preferredMode prepared.toolkit output)
  let listening := (prepared.commitOutput output configuration).listenAll (outputWiring output)
  have hcommitted : OnlyOutside server (prepared.commitOutput output configuration) :=
    ⟨_, _, _, rfl⟩
  have hsame : SameDevices server listening :=
    .of_onlyOutside (hcommitted.trans (.listenAll _ _))
  exact ⟨hsame.keyboards_eq, congrArg (fun outputs => outputs ++ [output]) hsame.outputs_eq⟩

/-- A new keyboard is the last one in its list, and so no other device. -/
lemma keyboards_handleNewInput (server : Server T) (device : Handle) (kind : DeviceKind) :
    (server.handleNewInput device kind).keyboards =
        server.keyboards ++ (if kind = .keyboard then [device] else []) ∧
      (server.handleNewInput device kind).outputs = server.outputs := by
  cases kind with
  | keyboard =>
    let keyboard := (server.revive device).config.keyboard
    let configured := (server.revive device).perform
      (.configureKeyboard device keyboard.repeatRate keyboard.repeatDelay)
    have hconfigured : OnlyOutside server configured := ⟨_, _, _, rfl⟩
    have hsame : SameDevices server (configured.listenAll (keyboardWiring device)) :=
      .of_onlyOutside (hconfigured.trans (.listenAll _ _))
    exact ⟨congrArg (fun keyboards => keyboards ++ [device]) hsame.keyboards_eq, hsame.outputs_eq⟩
  | _ => exact ⟨(List.append_nil _).symm, rfl⟩

namespace Role

variable {role : Role} {handle : Handle} {signal : Signal} {event : Event} {arrival : Arrival}

/-- If nothing is announced or destroyed, the lists stay as they are. -/
lemma sameDevices_serve (server : Server T)
    (ha : role.announced? ⟨handle, signal, event⟩ = none) (hs : signal ≠ .destroy) :
    SameDevices server (server.serve event (role.callbacks handle signal)).server := by
  unfold callbacks
  split
  -- the handlers that take in devices find another payload
  case h_1 => cases event <;> first | exact .refl server | cases ha
  case h_2 => cases event <;> first | exact .refl server | cases ha
  all_goals first
    | exact absurd rfl hs
    | exact .refl server
    | exact .serve_singleton server event (by simp [Handler.stock?])

/-- What is announced is put into the list of its kind. -/
lemma plugged_serve {census : Census} (p : Plugged census server)
    (ha : role.announced? ⟨handle, signal, event⟩ = some arrival) :
    Plugged (census.receive arrival)
      (server.serve event (role.callbacks handle signal)).server := by
  unfold announced? at ha
  dsimp only at ha
  split at ha <;> cases ha
  · rename_i output
    obtain ⟨hkeyboards, houtputs⟩ := outputs_handleNewOutput server output
    exact p.receive (hkeyboards.trans (List.append_nil _).symm) houtputs
  · rename_i device kind
    obtain ⟨hkeyboards, houtputs⟩ := keyboards_handleNewInput server device kind
    refine p.receive (hkeyboards.trans ?_) (houtputs.trans ?_)
    · cases kind <;> rfl
    · cases kind <;> exact (List.append_nil _).symm
  · rename_i toplevel surface
    have hsame : SameDevices server (server.serve (.newToplevel toplevel surface)
        [.run .newToplevel]).server := .serve_singleton server _ (by simp [Handler.stock?])
    exact p.receive (hsame.keyboards_eq.trans (List.append_nil _).symm)
      (hsame.outputs_eq.trans (List.append_nil _).symm)
  · rename_i popup parent
    have hsame : SameDevices server (server.serve (.newPopup popup (some parent))
        [.run .newPopup]).server := .serve_singleton server _ (by simp [Handler.stock?])
    exact p.receive (hsame.keyboards_eq.trans (List.append_nil _).symm)
      (hsame.outputs_eq.trans (List.append_nil _).symm)

/-- What is destroyed is dropped from the list of its role. -/
lemma devices_serve_destroy (server : Server T) (role : Role) (handle : Handle) (event : Event) :
    let after := (server.serve event (role.callbacks handle .destroy)).server
    (after.keyboards = if role = .keyboard then
        server.keyboards.filter fun other => other ≠ handle else server.keyboards) ∧
      after.outputs = if role = .output then
        server.outputs.filter fun other => other ≠ handle else server.outputs := by
  cases role with
  | output =>
    have hretired : SameDevices (server.handleOutputDestroyed handle)
        ((server.handleOutputDestroyed handle).retire handle) := .of_onlyOutside (.retire _ _)
    exact ⟨hretired.keyboards_eq, hretired.outputs_eq⟩
  | keyboard =>
    have hretired : SameDevices (server.detachKeyboard handle)
        ((server.detachKeyboard handle).retire handle) := .of_onlyOutside (.retire _ _)
    exact ⟨hretired.keyboards_eq, hretired.outputs_eq⟩
  | toplevel id surface =>
    have hsame : SameDevices server (server.serve event
        [.run (.toplevelDestroyed id), .retire handle]).server :=
      .serve server event (by simp [Handler.stock?])
    exact ⟨hsame.keyboards_eq, hsame.outputs_eq⟩
  | _ =>
    have hretired : SameDevices server (server.retire handle) := .of_onlyOutside (.retire _ _)
    exact ⟨hretired.keyboards_eq, hretired.outputs_eq⟩

end Role

namespace Follows

variable {census : Census} {emission : Emission}

/-- A signal of an object that is there. -/
lemma plugged_of_role? {role : Role} (s : census.Separated) (p : Plugged census server)
    (hr : census.role? emission.handle = some role) : Plugged (census.after emission)
      (server.serve emission.event (role.callbacks emission.handle emission.signal)).server := by
  obtain ⟨handle, signal, event⟩ := emission
  by_cases hs : signal = .destroy
  · subst hs
    obtain ⟨hkeyboards, houtputs⟩ := role.devices_serve_destroy server handle event
    rw [Census.after_of_destroy rfl]
    have hrole : census.role? handle = some role := hr
    exact p.bury s (hkeyboards.trans (by simp [hrole])) (houtputs.trans (by simp [hrole]))
  · have harrival := Census.arrival?_of_role? hr
    cases ha : role.announced? ⟨handle, signal, event⟩ with
    | none =>
      rw [Census.after_of_ne_destroy (harrival.trans ha) hs]
      exact p.same (role.sameDevices_serve server ha hs)
    | some arrival =>
      rw [Census.after_of_arrival (harrival.trans ha)]
      exact role.plugged_serve p ha

/-- **A dispatch keeps the lists like those of the census.**

**Proof sketch.** A signal of the cursor has nothing to do with the lists. Any other runs what the
object should run: nothing if there is no such object, and otherwise the handlers of its role, of
which only those for announced and destroyed devices change a list. -/
theorem plugged (f : Follows census server) (s : census.Separated) (p : Plugged census server)
    (emission : Emission) : Plugged (census.after emission)
      (server.dispatch emission.handle emission.signal emission.event).server := by
  have hdispatch : (server.dispatch emission.handle emission.signal emission.event).server =
      (server.serve emission.event
        (server.registry.callbacks emission.handle emission.signal)).server := rfl
  rw [hdispatch]
  cases hp : emission.signal.isPointer with
  | true =>
    have hs : emission.signal ≠ .destroy := by
      intro hs
      rw [hs] at hp
      cases hp
    have ha : census.arrival? emission = none := by
      cases hr : census.role? emission.handle with
      | none => exact Census.arrival?_of_none hr
      | some role => exact (Census.arrival?_of_role? hr).trans (role.announced?_of_isPointer hp)
    rw [Census.after_of_ne_destroy ha hs]
    refine p.same ?_
    rcases f.pointer hp emission.handle with hnil | ⟨-, hcursor⟩
    · rw [hnil]
      exact .refl server
    · rw [hcursor]
      refine .serve server emission.event ?_
      unfold cursorCallbacks
      split <;> simp [Handler.stock?]
  | false =>
    rw [f.callbacks_eq hp]
    cases hr : census.role? emission.handle with
    | some role =>
      rw [Census.callbacks_of_role? hr]
      exact plugged_of_role? s p hr
    | none =>
      rw [Census.callbacks_of_none hr]
      by_cases hs : emission.signal = .destroy
      · rw [Census.after_of_destroy hs]
        exact p.bury s (by simp [hr, Server.serve, finish]) (by simp [hr, Server.serve, finish])
      · rw [Census.after_of_ne_destroy (Census.arrival?_of_none hr) hs]
        exact p

end Follows

/-! ## Runs -/

section Runs

variable {census : Census}

/-- As long as the registry is not shut down, the lists are those of the census. -/
lemma Course.plugged (h : Course Census.Unnamed server census)
    (hopen : server.registry.isShutDown = false) : Plugged census server := by
  induction h with
  | create hc _ _ =>
    obtain ⟨bindings, hwired⟩ := Wired.of_create hc
    have hsame := SameDevices.of_onlyOutside hwired.onlyOutside
    exact ⟨hsame.keyboards_eq, hsame.outputs_eq⟩
  | @emit server census emission hcourse hpromise ih =>
    have f := hcourse.follows fun _ _ hu => hu.1
    have s := hcourse.separated fun _ _ hu => hu
    -- a registry that is shut down stays so, since it runs nothing
    have hbefore : server.registry.isShutDown = false := by
      by_contra hshut
      have hnone : server.registry.callbacks emission.handle emission.signal = [] := by
        by_contra hne
        exact hshut (f.coherent.isShutDown_eq_false hne)
      unfold dispatch at hopen
      dsimp only at hopen
      rw [hnone] at hopen
      exact hshut hopen
    exact f.plugged s (ih hbefore) emission
  | @call server census call hcourse hsteady ih =>
    have hregistry := (Steady.call server hsteady).registry_eq
    have hdirect : call.isDirect = true := by
      cases call <;> first | rfl | cases hsteady
    rw [hregistry] at hopen
    exact (ih hopen).same
      (.composed (Composed.direct server hdirect) (fun hf => hf) fun hf => hf)
  | toolkit toolkit _ ih => exact (ih hopen).same ⟨rfl, rfl⟩
  | shutdown _ _ =>
    rw [registry_shutdown] at hopen
    cases hopen

/-- Clients are informed of what the seat can do. -/
lemma Course.told (h : Course Census.Unnamed server census) : Told server := by
  induction h with
  | @create toolkit themed config display server hc _ _ =>
    obtain ⟨bindings, hcreated⟩ : ∃ bindings,
        Composed (fun _ => False) (unwired toolkit config bindings display) server :=
      Composed.of_create hc
    have hunwired : Told (unwired toolkit config bindings display) := nofun
    exact hunwired.composed hcreated
  | emit emission _ _ ih => exact ih.composed (Composed.dispatch _ _ _ _)
  | call _ _ ih => exact ih.composed (Composed.call _ _)
  | toolkit toolkit _ ih => exact ih.congr rfl rfl
  | shutdown _ ih => exact ih.composed (Composed.call _ .shutdown)

/-- **Lists and capabilities follow the devices.** If no value is announced that is in use or that a
window goes by, then until the registry is shut down the server's keyboards are just those that were
announced and have not been destroyed since, in the order of their announcement and each once; so are
its outputs; and what clients were told last of the seat, if anything, is that it has a pointer, and
a keyboard if and only if there is one.

**Proof sketch.** The server follows the census, so that every object is listened to for what it
should be; a dispatch then changes the lists as it changes the census. Objects have distinct values,
and a window never takes a device along with its surface. Clients are told in the same step in which
the list of keyboards changes. -/
theorem devices_eq_census (h : Course Census.Unnamed server census)
    (hopen : server.registry.isShutDown = false) :
    (server.keyboards = census.having .keyboard ∧ server.keyboards.Nodup) ∧
      (server.outputs = census.having .output ∧ server.outputs.Nodup) ∧
        ∀ capabilities, server.lastCapabilities? = some capabilities →
          capabilities = if server.keyboards = [] then Capabilities.pointer
            else Capabilities.pointer.union Capabilities.keyboard := by
  have p := h.plugged hopen
  have f := h.follows fun _ _ hu => hu.1
  refine ⟨⟨p.keyboards_eq, ?_⟩, ⟨p.outputs_eq, ?_⟩, fun capabilities hc => ?_⟩
  · rw [p.keyboards_eq]
    exact Census.nodup_having f.distinct _
  · rw [p.outputs_eq]
    exact Census.nodup_having f.distinct _
  · rw [h.told capabilities hc]
    unfold Server.capabilities
    simp only [List.isEmpty_iff]

end Runs

/-- Two keyboards, a pointer and an output are attached. One keyboard goes, and its value is announced
again, for an output. -/
def hotPlug : List Emission :=
  [⟨⟨0x10⟩, .newInput, .newInput ⟨0x80⟩ .keyboard⟩, ⟨⟨0x10⟩, .newOutput, .newOutput ⟨0x90⟩⟩,
    ⟨⟨0x10⟩, .newInput, .newInput ⟨0x81⟩ .pointer⟩, ⟨⟨0x10⟩, .newInput, .newInput ⟨0x82⟩ .keyboard⟩,
    ⟨⟨0x80⟩, .destroy, .empty⟩, ⟨⟨0x10⟩, .newOutput, .newOutput ⟨0x80⟩⟩]

/-- A keyboard and two outputs are left. -/
theorem devices_eq_census_hotPlug :
    let server := standard.emitAll hotPlug
    server.keyboards = [⟨0x82⟩] ∧ server.outputs = [⟨0x90⟩, ⟨0x80⟩] ∧
      server.lastCapabilities? = some (Capabilities.pointer.union Capabilities.keyboard) := by
  intro server
  let census := (Census.initial Headless.standard).afterAll hotPlug
  have hcourse : Course Census.Unnamed server census :=
    (Course.standard Census.Unnamed).emitAll hotPlug (by decide +kernel)
  have hlisted : census.having .keyboard = [⟨0x82⟩] ∧
      census.having .output = [⟨0x90⟩, ⟨0x80⟩] := by decide +kernel
  have htold : server.lastCapabilities?.isSome = true := by decide +kernel
  obtain ⟨⟨hkeyboards, -⟩, ⟨houtputs, -⟩, hcapabilities⟩ :=
    devices_eq_census hcourse (by decide +kernel)
  obtain ⟨capabilities, hlast⟩ := Option.isSome_iff_exists.1 htold
  refine ⟨hkeyboards.trans hlisted.1, houtputs.trans hlisted.2, ?_⟩
  rw [hlast, hcapabilities capabilities hlast, hkeyboards, hlisted.1]
  rfl

end Server

end Compositor
