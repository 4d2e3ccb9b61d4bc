import Compositor.Proofs.Registry.Effects
import Compositor.Proofs.Registry.Retirement

set_option autoImplicit false

/-!
# Acts stay on their handle

The outside refers to a subscriber or to a native listener by the registration that brought it, and
the registry finds it by the name that was chosen then. This module shows that the two agree: what
is found belongs to the handle of the registration. Together with the fact that tracking a lifetime
retires no other handle, an act leaves the listeners of all other handles alone.

## Main definitions

* `Stage.Sound` — subscribers and callbacks belong to their handles.
* `Stage.Plugged` — native listeners belong to their handles, if tokens are fresh.
* `Untouched` — a handle of which the tables tell the same.

## Main results

* `Stage.Sound.perform`, `Stage.Plugged.perform` — every act keeps this.
* `Stage.Sound.untouched` — an act leaves all other handles alone.
-/

namespace Compositor.Registry

variable {α : Type}

/-! ## Stages -/

namespace Stage

/-- Subscribers and callbacks belong to their handles. -/
structure Sound (stage : Stage α) : Prop where
  /-- The tables agree. -/
  coherent : Coherent stage.registry
  /-- The registry is open. -/
  isOpen : stage.registry.isShutDown = false
  /-- A callback retires no handle but the one that it was registered for. -/
  retires_own {handle other : Handle} {signal : Signal} {subscriber : Subscriber α} :
    subscriber ∈ stage.registry.subscribersOf handle signal →
      subscriber.callback = .retire other → other = handle
  /-- The name that a registration has got was used up. -/
  id_lt {handle : Handle} {name : ℕ} {id : SubscriptionId} :
    subscribed? (stage.notes handle name) = some id →
      id.number < stage.registry.nextSubscription
  /-- The name that a registration has got is on no other handle. -/
  id_own {handle other : Handle} {name : ℕ} {id : SubscriptionId} {signal : Signal}
    {subscriber : Subscriber α} :
    subscribed? (stage.notes handle name) = some id →
      subscriber ∈ stage.registry.subscribersOf other signal → subscriber.id = id →
      other = handle

namespace Sound

/-- Everything is where it belongs before the first act. -/
lemma initial : Sound (initial : Stage α) where
  coherent := .empty
  isOpen := rfl
  retires_own hx := by
    rw [subscribersOf_eq_nil (by simp [Stage.initial, Stage.registry, Process.initial])] at hx
    cases hx
  id_lt h := by cases h
  id_own h := by cases h

variable {stage : Stage α}

/-- A subscriber that a registration has got is on its handle. -/
lemma subscribed_own (s : Sound stage) {handle other : Handle} {name : ℕ} {id : SubscriptionId}
    {signal : Signal} (hid : subscribed? (stage.notes handle name) = some id)
    (h : stage.registry.Subscribed id other signal) : other = handle := by
  obtain ⟨subscriber, hx, he⟩ := s.coherent.subscribed_iff.1 h
  exact s.id_own hid hx he

/-- What releases at most, and is not noted, keeps a stage sound. -/
lemma shrink (s : Sound stage) {after : Registry α} (h : Shrinks stage.registry after)
    (frames : List (Frame α)) (chosen : ℕ) : Sound ⟨⟨after, frames⟩, chosen, stage.notes⟩ where
  coherent := h.coherent s.coherent
  isOpen := h.isShutDown_eq.trans s.isOpen
  retires_own hx := s.retires_own (h.subscribersOf_subset _ _ hx)
  id_lt hid := by
    rw [show (Stage.mk ⟨after, frames⟩ chosen stage.notes).registry = after from rfl, h.next_eq]
    exact s.id_lt hid
  id_own hid hx := s.id_own hid (h.subscribersOf_subset _ _ hx)

/-- A registration that succeeds and is noted keeps a stage sound. -/
lemma grow (s : Sound stage) {act : Act α} {signal : Signal} {callback : Callback α}
    {after : Registry α} (h : Grows act.handle signal callback stage.registry after)
    (hown : ∀ other, callback = .retire other → other = act.handle) {sights : List (Sight α)}
    (hs : subscribed? sights = some stage.registry.nextId) (frames : List (Frame α)) (chosen : ℕ) :
    Sound ⟨⟨after, frames⟩, chosen, stage.note act sights⟩ where
  coherent := h.coherent
  isOpen := h.isShutDown_eq.trans s.isOpen
  retires_own {handle other kind subscriber} hx hc := by
    rcases h.mem_subscribersOf hx with hx | ⟨rfl, rfl⟩
    · exact s.retires_own hx hc
    · exact hown other hc
  id_lt {handle given id} hid := by
    change id.number < after.nextSubscription
    rw [h.next_eq]
    dsimp only at hid
    rw [note_apply] at hid
    split at hid
    · rw [hs] at hid
      cases hid
      exact Nat.lt_succ_self _
    · exact Nat.lt_succ_of_lt (s.id_lt hid)
  id_own {handle other given id kind subscriber} hid hx he := by
    dsimp only at hid
    rw [note_apply] at hid
    split at hid
    · rename_i hnew
      rw [hs] at hid
      cases hid
      rcases h.mem_subscribersOf hx with hx | ⟨rfl, -⟩
      · exact absurd (s.coherent.subscribed_iff.2 ⟨subscriber, hx, he⟩)
          (s.coherent.not_subscribed_nextId _ _)
      · exact hnew.2.symm
    · rcases h.mem_subscribersOf hx with hx | ⟨rfl, rfl⟩
      · exact s.id_own hid hx he
      · -- the new name is used up just now, and this one was before
        rw [← he] at hid
        exact absurd (s.id_lt hid) (Nat.lt_irrefl _)

/-- Noting something without a name keeps a stage sound. -/
lemma noted (s : Sound stage) {act : Act α} {sights : List (Sight α)}
    (hs : subscribed? sights = none) (frames : List (Frame α)) (chosen : ℕ) :
    Sound ⟨⟨stage.registry, frames⟩, chosen, stage.note act sights⟩ where
  coherent := s.coherent
  isOpen := s.isOpen
  retires_own := s.retires_own
  id_lt hid := by
    dsimp only at hid
    rw [note_apply] at hid
    split at hid
    · rw [hs] at hid
      cases hid
    · exact s.id_lt hid
  id_own hid hx he := by
    dsimp only at hid
    rw [note_apply] at hid
    split at hid
    · rw [hs] at hid
      cases hid
    · exact s.id_own hid hx he

/-- **Every act keeps a stage sound.** -/
theorem perform (s : Sound stage) (choose : ℕ → Token) (act : Act α) :
    Sound (perform choose stage act).1 := by
  have hadvance := Stage.advance s.coherent choose act
  generalize (Registry.perform choose stage act).1 = next at hadvance
  cases hadvance with
  | released h => exact s.shrink h _ _
  | refused refusal => exact s.noted rfl _ _
  | appended hown hc ha => exact s.grow (s.coherent.grows_append hc ha) hown rfl _ _
  | installed hown hc ha => exact s.grow (s.coherent.grows_install hc ha _) hown rfl _ _

end Sound

/-- Native listeners belong to their handles. -/
structure Plugged (choose : ℕ → Token) (stage : Stage α) : Prop where
  /-- The tokens are indexed. -/
  indexed : Indexed stage.registry
  /-- The tokens in the index were chosen. -/
  target_chosen {token : Token} {pair : Handle × Signal} :
    stage.registry.target? token = some pair → ∃ n < stage.chosen, token = choose n
  /-- The tokens that registrations have got were chosen. -/
  token_chosen {handle : Handle} {name : ℕ} {token : Token} :
    connected? (stage.notes handle name) = some token → ∃ n < stage.chosen, token = choose n
  /-- The token that a registration has got is on no other handle. -/
  token_own {handle other : Handle} {name : ℕ} {token : Token} {signal : Signal} :
    connected? (stage.notes handle name) = some token →
      stage.registry.target? token = some (other, signal) → other = handle

namespace Plugged

/-- There are no native listeners before the first act. -/
lemma initial (choose : ℕ → Token) : Plugged choose (initial : Stage α) where
  indexed := .empty
  target_chosen h := by simp [Stage.initial, Stage.registry, Process.initial] at h
  token_chosen h := by cases h
  token_own h := by cases h

variable {choose : ℕ → Token} {stage : Stage α}

/-- What releases at most, and is not noted, leaves native listeners where they belong. -/
lemma shrink (p : Plugged choose stage) (c : Coherent stage.registry) {after : Registry α}
    (h : Shrinks stage.registry after) (frames : List (Frame α)) :
    Plugged choose ⟨⟨after, frames⟩, stage.chosen, stage.notes⟩ where
  indexed := h.indexed c p.indexed
  target_chosen ht := p.target_chosen (h.target?_of ht)
  token_chosen := p.token_chosen
  token_own hc ht := p.token_own hc (h.target?_of ht)

/-- Noting something without a native listener leaves native listeners where they belong. -/
lemma noted (p : Plugged choose stage) {act : Act α} {sights : List (Sight α)}
    (hs : connected? sights = none) {after : Registry α} (hi : Indexed after)
    (ht : after.byToken = stage.registry.byToken) (frames : List (Frame α)) :
    Plugged choose ⟨⟨after, frames⟩, stage.chosen, stage.note act sights⟩ := by
  have htarget : ∀ token, after.target? token = stage.registry.target? token := by
    intro token
    rw [target?, ht, target?]
  have hold : ∀ {handle name token}, connected? (stage.note act sights handle name) = some token →
      connected? (stage.notes handle name) = some token := by
    intro handle name token hc
    rw [note_apply] at hc
    split at hc
    · rw [hs] at hc
      cases hc
    · exact hc
  exact {
    indexed := hi
    target_chosen := fun h => p.target_chosen ((htarget _).symm.trans h)
    token_chosen := fun hc => p.token_chosen (hold hc)
    token_own := fun hc h => p.token_own (hold hc) ((htarget _).symm.trans h) }

/-- A token that is chosen next is not in use, if tokens are fresh. -/
lemma target?_choose (p : Plugged choose stage) (hf : Function.Injective choose) :
    stage.registry.target? (choose stage.chosen) = none := by
  cases ht : stage.registry.target? (choose stage.chosen) with
  | none => rfl
  | some pair =>
    obtain ⟨n, hn, he⟩ := p.target_chosen ht
    rw [hf he] at hn
    exact absurd hn (Nat.lt_irrefl _)

/-- A listener that is installed and noted belongs to its handle, if tokens are fresh. -/
lemma install (p : Plugged choose stage) (hf : Function.Injective choose) {act : Act α}
    {sights : List (Sight α)} (hs : connected? sights = some (choose stage.chosen))
    (signal : Signal) (callback : Callback α) (frames : List (Frame α)) :
    Plugged choose
      ⟨⟨stage.registry.install act.handle signal (choose stage.chosen) callback, frames⟩,
        stage.chosen + 1, stage.note act sights⟩ where
  indexed := p.indexed.install (p.target?_choose hf)
  target_chosen {token pair} ht := by
    change (stage.registry.install _ _ _ _).target? token = some pair at ht
    rw [target?_install] at ht
    split at ht
    · rename_i hn
      exact ⟨stage.chosen, Nat.lt_succ_self _, hn⟩
    · obtain ⟨n, hn, he⟩ := p.target_chosen ht
      exact ⟨n, Nat.lt_succ_of_lt hn, he⟩
  token_chosen {handle name token} hc := by
    dsimp only at hc
    rw [note_apply] at hc
    split at hc
    · rw [hs] at hc
      cases hc
      exact ⟨stage.chosen, Nat.lt_succ_self _, rfl⟩
    · obtain ⟨n, hn, he⟩ := p.token_chosen hc
      exact ⟨n, Nat.lt_succ_of_lt hn, he⟩
  token_own {handle other name token kind} hc ht := by
    change (stage.registry.install _ _ _ _).target? token = some (other, kind) at ht
    dsimp only at hc
    rw [note_apply] at hc
    rw [target?_install] at ht
    split at hc <;> split at ht <;> rename_i hnote hnew
    · cases ht
      exact hnote.2.symm
    · rw [hs] at hc
      exact absurd (Option.some.inj hc).symm hnew
    · -- an earlier token is not the one that is chosen now
      obtain ⟨n, hn, he⟩ := p.token_chosen hc
      rw [hf (hnew.symm.trans he)] at hn
      exact absurd hn (Nat.lt_irrefl _)
    · exact p.token_own hc ht

/-- **Every act leaves native listeners where they belong**, if tokens are fresh. -/
theorem perform (p : Plugged choose stage) (s : Sound stage) (hf : Function.Injective choose)
    (act : Act α) : Plugged choose (perform choose stage act).1 := by
  have hadvance := Stage.advance s.coherent choose act
  generalize (Registry.perform choose stage act).1 = next at hadvance
  cases hadvance with
  | released h => exact p.shrink s.coherent h _
  | refused refusal => exact p.noted rfl p.indexed rfl _
  | appended hown hc ha => exact p.noted rfl (p.indexed.append ha) (marks_append ha).2.2.2.2 _
  | installed hown hc ha => exact p.install hf rfl _ _ _

end Plugged

end Stage

/-! ## Other handles -/

/-- The tables tell the same of a handle. -/
structure Untouched (handle : Handle) (before after : Registry α) : Prop where
  /-- The handle has the same listeners. -/
  listenersOf_eq : after.listenersOf handle = before.listenersOf handle
  /-- The handle is as retired as before. -/
  isRetired_eq : after.isRetired handle = before.isRetired handle

namespace Untouched

variable {handle other : Handle}

/-- A registry tells the same as itself. -/
lemma refl (registry : Registry α) : Untouched handle registry registry := ⟨rfl, rfl⟩

/-- Retiring a handle leaves the others untouched. -/
lemma retire (registry : Registry α) (hne : handle ≠ other) :
    Untouched handle registry (registry.retire other).2 where
  listenersOf_eq := by rw [listenersOf_retire, if_neg hne]
  isRetired_eq := by rw [isRetired_retire, decide_eq_false hne, Bool.false_or]

/-- Callbacks that retire another handle only leave this one alone. -/
lemma serveAll (event : Event) (total : ℕ) (limit : Option ℕ) (callbacks : List (Callback α))
    (registry : Registry α) (hown : ∀ retired, .retire retired ∈ callbacks → retired = other)
    (hne : handle ≠ other) :
    Untouched handle registry (serveAll event total limit callbacks registry).2 := by
  induction callbacks generalizing registry limit with
  | nil => exact refl registry
  | cons callback rest ih =>
    have hrest := fun retired hm => hown retired (List.mem_cons_of_mem _ hm)
    cases callback with
    | run action =>
      rw [Registry.serveAll]
      split
      · exact refl registry
      · exact ih _ registry hrest
    | retire retired =>
      obtain rfl := hown retired List.mem_cons_self
      have hserved := ih limit (registry.retire retired).2 hrest
      have hretired := retire registry hne
      exact ⟨hserved.listenersOf_eq.trans hretired.listenersOf_eq,
        hserved.isRetired_eq.trans hretired.isRetired_eq⟩

/-- A registration on another handle leaves this one alone. -/
lemma enrolled (choose : ℕ → Token) (registry : Registry α) (chosen : ℕ) (signal : Signal)
    (callback : Callback α) (hne : handle ≠ other) :
    Untouched handle registry
      (enrolled choose registry chosen other signal callback).registry := by
  rcases enrolled_cases choose registry chosen other signal callback with
    ⟨refusal, -, he⟩ | ⟨appended, -, ha, he⟩ | ⟨-, -, he⟩ <;> rw [he]
  · exact refl registry
  · refine ⟨by rw [listenersOf_append ha, if_neg hne], ?_⟩
    rw [isRetired, (marks_append ha).1, isRetired]
  · exact ⟨by rw [listenersOf_install, if_neg hne], rfl⟩

/-- Removing a subscriber of another handle leaves this one alone. -/
lemma unsubscribe {before after : Registry α} (c : Coherent before) {id : SubscriptionId}
    {released : Option Token} (h : before.unsubscribe? id = some (released, after))
    (hown : ∀ {place signal}, before.Subscribed id place signal → place = other)
    (hne : handle ≠ other) : Untouched handle before after := by
  obtain ⟨place, listener, -, hrow, hl⟩ := c.exists_of_unsubscribe? h
  obtain rfl := hown (c.subscriptions_eq_some_iff.1 hrow)
  refine ⟨by rw [listenersOf_unsubscribe hrow hl h, if_neg hne], ?_⟩
  rw [isRetired, (marks_unsubscribe h).1, isRetired]

/-- Announcing another handle leaves this one alone. -/
lemma revive (registry : Registry α) (hne : handle ≠ other) :
    Untouched handle registry (registry.revive other) where
  listenersOf_eq := rfl
  isRetired_eq := by
    rw [isRetired_revive, decide_eq_false hne, Bool.not_false, Bool.true_and]

end Untouched

namespace Stage.Sound

variable {stage : Stage α}

/-- The callbacks of a handle retire no other one. -/
lemma retire_mem_callbacks (s : Sound stage) {handle retired : Handle} {signal : Signal}
    (h : .retire retired ∈ stage.registry.callbacks handle signal) : retired = handle := by
  obtain ⟨subscriber, hx, hc⟩ := List.mem_map.1 h
  exact s.retires_own hx hc

/-- **An act leaves all other handles alone.** -/
theorem untouched (s : Sound stage) {choose : ℕ → Token} {act : Act α}
    (p : act.fires = true → Plugged choose stage) {handle : Handle} (hne : handle ≠ act.handle) :
    Untouched handle stage.registry (Registry.perform choose stage act).1.registry := by
  rw [perform_eq]
  change Untouched handle stage.registry
    (act.done choose stage.registry stage.chosen (stage.notes act.handle)).registry
  cases act with
  | register place name signal action => exact .enrolled choose _ _ _ _ hne
  | track place name signal => exact .enrolled choose _ _ _ _ hne
  | dispatch place signal event limit =>
    exact .serveAll event _ limit _ _ (fun _ hm => s.retire_mem_callbacks hm) hne
  | fire place name event limit =>
    dsimp only [Act.done, Act.handle]
    cases hc : connected? (stage.notes place name) with
    | none => exact .refl _
    | some token =>
      dsimp only [fired]
      cases ht : stage.registry.target? token with
      | none => exact .refl _
      | some target =>
        have hplace : target.1 = place := (p rfl).token_own hc ht
        refine .serveAll event _ limit _ _ (fun _ hm => s.retire_mem_callbacks hm) ?_
        rw [hplace]
        exact hne
  | unregisterAll place =>
    refine ⟨?_, rfl⟩
    dsimp only [Act.done, released]
    rw [listenersOf_take]
    exact if_neg hne
  | unsubscribe place name =>
    dsimp only [Act.done, Act.handle]
    cases hs : subscribed? (stage.notes place name) with
    | none => exact .refl _
    | some id =>
      dsimp only [removed]
      cases hu : stage.registry.unsubscribe? id with
      | none => exact .refl _
      | some result => exact .unsubscribe s.coherent hu (s.subscribed_own hs) hne
  | revive place => exact .revive _ hne
  | isTracked place => exact .refl _
  | isRetired place => exact .refl _
  | listenerCount place => exact .refl _
  | subscriberCount place signal => exact .refl _

end Stage.Sound

end Compositor.Registry
