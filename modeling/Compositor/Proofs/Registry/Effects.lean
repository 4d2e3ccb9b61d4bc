import Compositor.Proofs.Registry.Acts
import Compositor.Proofs.Registry.Indexed
import Compositor.Proofs.Registry.Roster

set_option autoImplicit false

/-!
# What acts do

An act either releases at most, or registers a callback. A registration is refused, appends a
subscriber to a listener or installs a new listener, and it is what the outside takes note of. What
all acts preserve is shown along these four cases.

## Main definitions

* `Shrinks` — tables from which something was released at most.
* `Grows` — tables to which a subscriber was added.
* `Stage.Advance` — the four things that an act can do.

## Main results

* `Stage.advance` — an act does one of them.
-/

namespace Compositor.Registry

variable {α : Type}

/-! ## Release -/

/-- From one table to the other, something was released at most. -/
structure Shrinks (before after : Registry α) : Prop where
  /-- The tables still agree. -/
  coherent : Coherent before → Coherent after
  /-- The tokens are still indexed. -/
  indexed : Coherent before → Indexed before → Indexed after
  /-- There are no new subscribers. -/
  subscribersOf_subset (handle : Handle) (signal : Signal) :
    after.subscribersOf handle signal ⊆ before.subscribersOf handle signal
  /-- There are no new native listeners. -/
  target?_of {token : Token} {pair : Handle × Signal} :
    after.target? token = some pair → before.target? token = some pair
  /-- No names are used up. -/
  next_eq : after.nextSubscription = before.nextSubscription
  /-- The registry is as open as before. -/
  isShutDown_eq : after.isShutDown = before.isShutDown

namespace Shrinks

variable {registry before middle after : Registry α}

/-- Nothing is released from a registry to itself. -/
lemma refl (registry : Registry α) : Shrinks registry registry :=
  ⟨id, fun _ => id, fun _ _ => List.Subset.refl _, id, rfl, rfl⟩

/-- Release after release is release. -/
lemma trans (h : Shrinks before middle) (h' : Shrinks middle after) : Shrinks before after where
  coherent c := h'.coherent (h.coherent c)
  indexed c i := h'.indexed (h.coherent c) (h.indexed c i)
  subscribersOf_subset handle signal :=
    List.Subset.trans (h'.subscribersOf_subset handle signal) (h.subscribersOf_subset handle signal)
  target?_of ht := h.target?_of (h'.target?_of ht)
  next_eq := h'.next_eq.trans h.next_eq
  isShutDown_eq := h'.isShutDown_eq.trans h.isShutDown_eq

/-- Taking the listeners of a handle releases. -/
lemma take (registry : Registry α) (handle : Handle) : Shrinks registry (registry.take handle).2 where
  coherent c := c.take handle
  indexed _ i := i.take handle
  subscribersOf_subset other kind := by
    rw [subscribersOf_take]
    split
    · exact List.nil_subset _
    · exact List.Subset.refl _
  target?_of ht := by
    rw [target?_take] at ht
    split at ht
    · cases ht
    · exact ht
  next_eq := rfl
  isShutDown_eq := rfl

/-- Retiring a handle releases. -/
lemma retire (registry : Registry α) (handle : Handle) :
    Shrinks registry (registry.retire handle).2 :=
  { take registry handle with
    coherent := fun c => c.retire handle
    indexed := fun _ i => i.retire handle
    subscribersOf_subset := (take registry handle).subscribersOf_subset
    target?_of := (take registry handle).target?_of }

/-- Serving callbacks releases. -/
lemma serveAll (event : Event) (total : ℕ) (limit : Option ℕ) (callbacks : List (Callback α))
    (registry : Registry α) :
    Shrinks registry (serveAll event total limit callbacks registry).2 := by
  induction callbacks generalizing registry limit with
  | nil => exact refl registry
  | cons callback rest ih =>
    cases callback with
    | run action =>
      rw [Registry.serveAll]
      split
      · exact refl registry
      · exact ih _ registry
    | retire handle => exact (retire registry handle).trans (ih limit _)

/-- Removing a subscriber releases. -/
lemma unsubscribe (c : Coherent before) {id : SubscriptionId} {released : Option Token}
    (h : before.unsubscribe? id = some (released, after)) : Shrinks before after where
  coherent c := c.unsubscribe h
  indexed c i := i.unsubscribe c h
  subscribersOf_subset handle signal := by
    rw [c.subscribersOf_unsubscribe h]
    exact List.filter_subset_self _
  target?_of ht := by
    obtain ⟨place, listener, -, hrow, hl⟩ := c.exists_of_unsubscribe? h
    rw [target?_unsubscribe hrow hl h] at ht
    split at ht
    · cases ht
    · exact ht
  next_eq := (marks_unsubscribe h).2.2
  isShutDown_eq := (marks_unsubscribe h).2.1

/-- Taking back the mark of a handle releases nothing, and adds nothing. -/
lemma revive (registry : Registry α) (handle : Handle) :
    Shrinks registry (registry.revive handle) :=
  { refl registry with
    coherent := fun c => c.revive handle
    indexed := fun _ i => i
    subscribersOf_subset := fun _ _ => List.Subset.refl _
    target?_of := id }

end Shrinks

/-- An act that registers nothing releases at most. -/
lemma Act.shrinks_done (choose : ℕ → Token) {registry : Registry α} (c : Coherent registry)
    (chosen : ℕ) (notes : ℕ → List (Sight α)) {act : Act α} (hn : act.name? = none) :
    Shrinks registry (act.done choose registry chosen notes).registry ∧
      (act.done choose registry chosen notes).chosen = chosen := by
  cases act with
  | register handle name signal action => cases hn
  | track handle name signal => cases hn
  | dispatch handle signal event limit => exact ⟨.serveAll _ _ _ _ _, rfl⟩
  | fire handle name event limit =>
    dsimp only [Act.done]
    cases connected? (notes name) with
    | none => exact ⟨.refl _, rfl⟩
    | some token =>
      dsimp only [fired]
      cases registry.target? token with
      | none => exact ⟨.refl _, rfl⟩
      | some target => exact ⟨.serveAll _ _ _ _ _, rfl⟩
  | unregisterAll handle => exact ⟨.take registry handle, rfl⟩
  | unsubscribe handle name =>
    dsimp only [Act.done]
    cases subscribed? (notes name) with
    | none => exact ⟨.refl _, rfl⟩
    | some id =>
      dsimp only [removed]
      cases hu : registry.unsubscribe? id with
      | none => exact ⟨.refl _, rfl⟩
      | some result => exact ⟨.unsubscribe c hu, rfl⟩
  | revive handle => exact ⟨.revive registry handle, rfl⟩
  | isTracked handle => exact ⟨.refl _, rfl⟩
  | isRetired handle => exact ⟨.refl _, rfl⟩
  | listenerCount handle => exact ⟨.refl _, rfl⟩
  | subscriberCount handle signal => exact ⟨.refl _, rfl⟩

/-! ## Registration -/

/-- An act that registers comes to what `enrolled` says, and the callback retires no other handle. -/
lemma Act.exists_enrolled {act : Act α} {name : ℕ} (hn : act.name? = some name) :
    ∃ signal callback, (∀ other, callback = .retire other → other = act.handle) ∧
      ∀ choose registry chosen notes, act.done choose registry chosen notes =
        enrolled choose registry chosen act.handle signal callback := by
  cases act with
  | register handle name signal action => exact ⟨signal, .run action, nofun, fun _ _ _ _ => rfl⟩
  | track handle name signal =>
    refine ⟨signal, .retire handle, fun other ho => ?_, fun _ _ _ _ => rfl⟩
    cases ho
    rfl
  | _ => cases hn

/-- What a registration comes to: it is refused, appends a subscriber, or installs a listener. -/
lemma enrolled_cases (choose : ℕ → Token) (registry : Registry α) (chosen : ℕ) (handle : Handle)
    (signal : Signal) (callback : Callback α) :
    (∃ refusal, registry.check handle = .error refusal ∧
      enrolled choose registry chosen handle signal callback =
        ⟨[.replied (.refused refusal)], registry, chosen⟩) ∨
    (∃ appended, registry.check handle = .ok () ∧
      registry.append? handle signal callback = some appended ∧
      enrolled choose registry chosen handle signal callback =
        ⟨[.replied (.subscribed registry.nextId)], appended, chosen⟩) ∨
    (registry.check handle = .ok () ∧ registry.append? handle signal callback = none ∧
      enrolled choose registry chosen handle signal callback =
        ⟨[.connected handle signal (choose chosen), .replied (.subscribed registry.nextId)],
          registry.install handle signal (choose chosen) callback, chosen + 1⟩) := by
  unfold enrolled
  cases hc : registry.check handle with
  | error refusal => exact .inl ⟨refusal, rfl, rfl⟩
  | ok admitted =>
    cases ha : registry.append? handle signal callback with
    | some appended => exact .inr (.inl ⟨appended, rfl, rfl, rfl⟩)
    | none => exact .inr (.inr ⟨rfl, rfl, rfl⟩)

/-- From one table to the other, a subscriber was registered. -/
structure Grows (handle : Handle) (signal : Signal) (callback : Callback α)
    (before after : Registry α) : Prop where
  /-- The tables still agree. -/
  coherent : Coherent after
  /-- The subscriber is the last one of its pair. -/
  subscribersOf_eq (other : Handle) (kind : Signal) :
    after.subscribersOf other kind = before.subscribersOf other kind ++
      if other = handle ∧ kind = signal then [⟨before.nextId, callback⟩] else []
  /-- A name is used up. -/
  next_eq : after.nextSubscription = before.nextSubscription + 1
  /-- The registry is as open as before. -/
  isShutDown_eq : after.isShutDown = before.isShutDown

section Grows

variable {registry after : Registry α} {handle : Handle} {signal : Signal} {callback : Callback α}

/-- Adding a subscriber to a known listener grows the registry by it. -/
lemma Coherent.grows_append (c : Coherent registry) (hc : registry.check handle = .ok ())
    (h : registry.append? handle signal callback = some after) :
    Grows handle signal callback registry after where
  coherent := c.append hc h
  subscribersOf_eq := subscribersOf_append h
  next_eq := (marks_append h).2.2.1
  isShutDown_eq := (marks_append h).2.1

/-- Installing a listener with a subscriber grows the registry by the subscriber. -/
lemma Coherent.grows_install (c : Coherent registry) (hc : registry.check handle = .ok ())
    (hn : registry.append? handle signal callback = none) (token : Token) :
    Grows handle signal callback registry (registry.install handle signal token callback) where
  coherent := c.install hc hn token
  subscribersOf_eq := subscribersOf_install hn token
  next_eq := rfl
  isShutDown_eq := rfl

/-- A subscriber after a registration is the new one, or was there before. -/
lemma Grows.mem_subscribersOf (h : Grows handle signal callback registry after) {other : Handle}
    {kind : Signal} {subscriber : Subscriber α} (hx : subscriber ∈ after.subscribersOf other kind) :
    subscriber ∈ registry.subscribersOf other kind ∨
      other = handle ∧ subscriber = ⟨registry.nextId, callback⟩ := by
  rw [h.subscribersOf_eq, List.mem_append] at hx
  refine hx.imp_right fun hx => ?_
  split at hx
  · rename_i hp
    exact ⟨hp.1, List.mem_singleton.1 hx⟩
  · cases hx

end Grows

/-! ## The four cases -/

/-- An act notes what it saw under its own name and handle. -/
lemma Stage.note_apply (stage : Stage α) (act : Act α) (sights : List (Sight α)) (handle : Handle)
    (name : ℕ) :
    stage.note act sights handle name =
      if act.name? = some name ∧ handle = act.handle then sights else stage.notes handle name := by
  unfold note
  cases hn : act.name? with
  | none => simp
  | some given =>
    by_cases hh : handle = act.handle
    · subst hh
      by_cases hg : name = given
      · simp [hg]
      · simp [hg, Ne.symm hg]
    · simp [hh]

namespace Stage

/-- What an act does to a stage. -/
inductive Advance (choose : ℕ → Token) (stage : Stage α) (act : Act α) : Stage α → Prop where
  /-- Something is released at most, and nothing is noted. -/
  | released {after : Registry α} (h : Shrinks stage.registry after) :
    Advance choose stage act ⟨⟨after, stage.process.frames⟩, stage.chosen, stage.notes⟩
  /-- A registration is refused. -/
  | refused (refusal : Refusal) :
    Advance choose stage act
      ⟨stage.process, stage.chosen, stage.note act [.replied (.refused refusal)]⟩
  /-- A registration appends a subscriber to a listener. -/
  | appended {signal : Signal} {callback : Callback α} {after : Registry α}
    (hown : ∀ other, callback = .retire other → other = act.handle)
    (hc : stage.registry.check act.handle = .ok ())
    (ha : stage.registry.append? act.handle signal callback = some after) :
    Advance choose stage act
      ⟨⟨after, stage.process.frames⟩, stage.chosen,
        stage.note act [.replied (.subscribed stage.registry.nextId)]⟩
  /-- A registration installs a listener. -/
  | installed {signal : Signal} {callback : Callback α}
    (hown : ∀ other, callback = .retire other → other = act.handle)
    (hc : stage.registry.check act.handle = .ok ())
    (ha : stage.registry.append? act.handle signal callback = none) :
    Advance choose stage act
      ⟨⟨stage.registry.install act.handle signal (choose stage.chosen) callback,
        stage.process.frames⟩, stage.chosen + 1,
        stage.note act [.connected act.handle signal (choose stage.chosen),
          .replied (.subscribed stage.registry.nextId)]⟩

/-- **An act releases at most, is refused, appends a subscriber or installs a listener.** -/
theorem advance {stage : Stage α} (c : Coherent stage.registry) (choose : ℕ → Token)
    (act : Act α) : Advance choose stage act (perform choose stage act).1 := by
  rw [perform_eq]
  dsimp only [Stage.follow]
  cases hn : act.name? with
  | none =>
    obtain ⟨hshrinks, hchosen⟩ := Act.shrinks_done choose c stage.chosen
      (stage.notes act.handle) hn
    rw [Stage.note, hn, hchosen]
    exact .released hshrinks
  | some name =>
    obtain ⟨signal, callback, hown, hdone⟩ := Act.exists_enrolled hn
    rw [hdone]
    rcases enrolled_cases choose stage.registry stage.chosen act.handle signal callback with
      ⟨refusal, -, he⟩ | ⟨appended, hc, ha, he⟩ | ⟨hc, ha, he⟩ <;> rw [he]
    · exact .refused refusal
    · exact .appended hown hc ha
    · exact .installed hown hc ha

/-- An act uses up names and tokens, if at all. -/
lemma Advance.counters {choose : ℕ → Token} {stage next : Stage α} {act : Act α}
    (h : Advance choose stage act next) :
    stage.registry.nextSubscription ≤ next.registry.nextSubscription ∧
      stage.chosen ≤ next.chosen := by
  cases h with
  | released h => exact ⟨Nat.le_of_eq h.next_eq.symm, Nat.le_refl _⟩
  | refused refusal => exact ⟨Nat.le_refl _, Nat.le_refl _⟩
  | appended hown hc ha =>
    have hnext := (marks_append ha).2.2.1
    exact ⟨Nat.le_trans (Nat.le_succ _) (Nat.le_of_eq hnext.symm), Nat.le_refl _⟩
  | installed hown hc ha => exact ⟨Nat.le_succ _, Nat.le_succ _⟩

end Stage

end Compositor.Registry
