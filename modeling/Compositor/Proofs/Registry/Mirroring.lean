import Compositor.Proofs.Registry.Ownership
import Compositor.Proofs.Registry.Renaming
import Mathlib.Data.Set.Function

set_option autoImplicit false

/-!
# The same act in two places

Two stages that tell the same of a handle, up to a renaming, need not agree on anything else: other
handles may have been dealt with in only one of them. An act on the handle still comes to the same
in both, if the renaming takes to each other what the two registries and the native side choose
during the act; and an act on another handle in only one of them leaves the two alike.

## Main definitions

* `Done.Mirrors` — an act comes to the same in two registries.
* `Stage.Mirrors` — two stages tell the same of a handle, up to a renaming.

## Main results

* `Stage.Mirrors.skip` — an act on another handle changes nothing.
* `Stage.Mirrors.done`, `Stage.Mirrors.perform` — an act on the handle comes to the same in both.
-/

namespace Compositor.Registry

variable {α : Type}

/-! ## Renamed notes -/

/-- The name that a renamed registration has got is the renamed name. -/
lemma subscribed?_rename (names : Renaming) (sights : List (Sight α)) :
    subscribed? (sights.map (Sight.rename names)) = (subscribed? sights).map names.ids := by
  rw [subscribed?, List.findSome?_map, subscribed?, List.map_findSome?]
  congr 1
  funext sight
  cases sight with
  | replied reply => cases reply <;> rfl
  | _ => rfl

/-- The token that a renamed registration has got is the renamed token. -/
lemma connected?_rename (names : Renaming) (sights : List (Sight α)) :
    connected? (sights.map (Sight.rename names)) = (connected? sights).map names.tokens := by
  rw [connected?, List.findSome?_map, connected?, List.map_findSome?]
  congr 1
  funext sight
  cases sight <;> rfl

/-! ## The same act on both -/

/-- Two counters go on alike, by one at most. -/
def Steps (full fullAfter kept keptAfter : ℕ) : Prop :=
  fullAfter = full ∧ keptAfter = kept ∨ fullAfter = full + 1 ∧ keptAfter = kept + 1

/-- An act comes to the same for two registries of which `fullChosen` and `keptChosen` tokens were
chosen. -/
structure Done.Mirrors (names : Renaming) (handle : Handle) (full kept : Registry α)
    (fullChosen keptChosen : ℕ) (fullDone keptDone : Done α) : Prop where
  /-- The outside sees the same. -/
  sights_eq : fullDone.sights = keptDone.sights.map (Sight.rename names)
  /-- The tables tell the same of the handle. -/
  registries : Registry.Mirrors names handle fullDone.registry keptDone.registry
  /-- Names are used up alike. -/
  next : Steps full.nextSubscription fullDone.registry.nextSubscription kept.nextSubscription
    keptDone.registry.nextSubscription
  /-- Tokens are used up alike. -/
  chosen : Steps fullChosen fullDone.chosen keptChosen keptDone.chosen

namespace Mirrors

variable {names : Renaming} {handle : Handle} {full kept : Registry α}
  (m : Mirrors names handle full kept) {fullChoose keptChoose : ℕ → Token}
  {fullChosen keptChosen : ℕ}

include m

/-- A registration comes to the same. -/
lemma enrolled (hf : full.isShutDown = false) (hk : kept.isShutDown = false) {signal : Signal}
    {callback : Callback α}
    (hid : full.nextSubscription <
        (enrolled fullChoose full fullChosen handle signal callback).registry.nextSubscription →
      names.ids kept.nextId = full.nextId)
    (ht : fullChosen < (Registry.enrolled fullChoose full fullChosen handle signal callback).chosen →
      names.tokens (keptChoose keptChosen) = fullChoose fullChosen) :
    Done.Mirrors names handle full kept fullChosen keptChosen
      (Registry.enrolled fullChoose full fullChosen handle signal callback)
      (Registry.enrolled keptChoose kept keptChosen handle signal callback) := by
  unfold Registry.enrolled at hid ht ⊢
  rw [m.check_eq hf hk] at hid ht ⊢
  cases hc : kept.check handle with
  | error refusal => exact ⟨rfl, m, .inl ⟨rfl, rfl⟩, .inl ⟨rfl, rfl⟩⟩
  | ok admitted =>
    rw [hc] at hid ht
    cases hkept : kept.append? handle signal callback with
    | none =>
      have hfull := m.append?_eq_none_iff.2 hkept
      rw [hfull] at hid ht ⊢
      have hname := hid (Nat.lt_succ_self _)
      have htoken := ht (Nat.lt_succ_self _)
      refine ⟨?_, m.install hname htoken, .inr ⟨rfl, rfl⟩, .inr ⟨rfl, rfl⟩⟩
      simp [Sight.rename, Reply.rename, hname, htoken]
    | some keptAfter =>
      cases hfull : full.append? handle signal callback with
      | none =>
        rw [m.append?_eq_none_iff.1 hfull] at hkept
        cases hkept
      | some fullAfter =>
        rw [hfull] at hid
        have hnext := (marks_append hfull).2.2.1
        have hname := hid (hnext ▸ Nat.lt_succ_self _)
        refine ⟨?_, m.append hname hfull hkept, .inr ⟨hnext, (marks_append hkept).2.2.1⟩,
          .inl ⟨rfl, rfl⟩⟩
        simp [Sight.rename, Reply.rename, hname]

omit m in
/-- What leaves the counters alone comes to the same if it is seen the same and leads to the same. -/
lemma done {fullDone keptDone : Done α}
    (hs : fullDone.sights = keptDone.sights.map (Sight.rename names))
    (hm : Mirrors names handle fullDone.registry keptDone.registry)
    (hf : Shrinks full fullDone.registry) (hk : Shrinks kept keptDone.registry)
    (hfc : fullDone.chosen = fullChosen) (hkc : keptDone.chosen = keptChosen) :
    Done.Mirrors names handle full kept fullChosen keptChosen fullDone keptDone :=
  ⟨hs, hm, .inl ⟨hf.next_eq, hk.next_eq⟩, .inl ⟨hfc, hkc⟩⟩

/-- What only asks comes to the same if the answer is the same. -/
lemma asked {fullReply keptReply : Reply} (h : fullReply = keptReply.rename names) :
    Done.Mirrors names handle full kept fullChosen keptChosen
      ⟨[.replied fullReply], full, fullChosen⟩ ⟨[.replied keptReply], kept, keptChosen⟩ := by
  refine ⟨?_, m, .inl ⟨rfl, rfl⟩, .inl ⟨rfl, rfl⟩⟩
  rw [h]
  rfl

/-- A dispatch of callbacks that retire no other handle comes to the same. -/
lemma served (event : Event) (limit : Option ℕ) (callbacks : List (Callback α))
    (hown : ∀ retired, .retire retired ∈ callbacks → retired = handle) :
    Done.Mirrors names handle full kept fullChosen keptChosen
      (served full fullChosen event limit callbacks)
      (served kept keptChosen event limit callbacks) := by
  obtain ⟨hsights, hmirrors⟩ := m.serveAll event callbacks.length limit callbacks hown
  exact Mirrors.done hsights hmirrors (.serveAll _ _ _ _ _) (.serveAll _ _ _ _ _) rfl rfl

/-- Releasing the handle comes to the same. -/
lemma released :
    Done.Mirrors names handle full kept fullChosen keptChosen (released full fullChosen handle)
      (released kept keptChosen handle) := by
  refine Mirrors.done ?_ m.take (.take full handle) (.take kept handle) rfl rfl
  dsimp only [Registry.released]
  rw [fst_take, fst_take, List.map_append, m.listenersOf_eq, List.map_map, List.map_map,
    List.map_map, List.map_map, List.length_map]
  rfl

/-- Removing a subscriber of the handle comes to the same. -/
lemma removed (cf : Coherent full) (ck : Coherent kept) (hids : Function.Injective names.ids)
    {id? : Option SubscriptionId}
    (hf : ∀ {id other signal}, id? = some id → full.Subscribed (names.ids id) other signal →
      other = handle)
    (hk : ∀ {id other signal}, id? = some id → kept.Subscribed id other signal →
      other = handle) :
    Done.Mirrors names handle full kept fullChosen keptChosen
      (removed full fullChosen (id?.map names.ids)) (removed kept keptChosen id?) := by
  cases id? with
  | none => exact Mirrors.done rfl m (.refl _) (.refl _) rfl rfl
  | some id =>
    dsimp only [Option.map_some, Registry.removed]
    cases hu : kept.unsubscribe? id with
    | none =>
      rw [m.unsubscribe?_eq_none cf ck hids (hf rfl) (hk rfl) hu]
      exact m.asked rfl
    | some result =>
      obtain ⟨released, keptAfter⟩ := result
      obtain ⟨fullAfter, hu', hm⟩ := m.unsubscribe cf ck hids (hf rfl) (hk rfl) hu
      rw [hu']
      refine Mirrors.done ?_ hm (.unsubscribe cf hu') (.unsubscribe ck hu) rfl rfl
      cases released <;> rfl

/-- Firing a native listener of the handle comes to the same. -/
lemma fired (event : Event) (limit : Option ℕ) {token? : Option Token}
    (hown : ∀ retired signal, .retire retired ∈ kept.callbacks handle signal → retired = handle)
    (ht : ∀ {token}, token? = some token →
      full.target? (names.tokens token) = kept.target? token)
    (hk : ∀ {token other signal}, token? = some token →
      kept.target? token = some (other, signal) → other = handle) :
    Done.Mirrors names handle full kept fullChosen keptChosen
      (fired full fullChosen event limit (token?.map names.tokens))
      (fired kept keptChosen event limit token?) := by
  cases token? with
  | none => exact Mirrors.done rfl m (.refl _) (.refl _) rfl rfl
  | some token =>
    dsimp only [Option.map_some, Registry.fired]
    rw [ht rfl]
    cases hp : kept.target? token with
    | none => exact m.asked rfl
    | some pair =>
      obtain ⟨other, signal⟩ := pair
      obtain rfl := hk rfl hp
      dsimp only
      rw [m.callbacks_eq]
      exact m.served event limit _ fun retired hm => hown retired signal hm

end Mirrors

namespace Stage

/-- Two stages tell the same of a handle, up to a renaming. -/
structure Mirrors (names : Renaming) (handle : Handle) (full kept : Stage α) : Prop where
  /-- So do the tables. -/
  registries : Registry.Mirrors names handle full.registry kept.registry
  /-- And so do the notes. -/
  notes_eq (name : ℕ) :
    full.notes handle name = (kept.notes handle name).map (Sight.rename names)

namespace Mirrors

/-- Before the first act there is nothing to tell. -/
lemma initial (names : Renaming) (handle : Handle) :
    Mirrors names handle (initial : Stage α) initial where
  registries := by
    have hnil : (Stage.initial : Stage α).registry.listenersOf handle = [] := by
      simp [Stage.initial, Stage.registry, Process.initial]
    exact ⟨by rw [hnil, List.map_nil], rfl⟩
  notes_eq _ := rfl

variable {names : Renaming} {handle : Handle} {full kept : Stage α}
  (m : Mirrors names handle full kept) (sf : Sound full) (sk : Sound kept)

include m sf

/-- An act on another handle changes nothing. -/
lemma skip {choose : ℕ → Token} {act : Act α} (p : act.fires = true → Plugged choose full)
    (hne : handle ≠ act.handle) :
    Mirrors names handle (Registry.perform choose full act).1 kept where
  registries := by
    have h := sf.untouched p hne
    exact ⟨h.listenersOf_eq.trans m.registries.listenersOf_eq,
      h.isRetired_eq.trans m.registries.isRetired_eq⟩
  notes_eq name := by
    rw [perform_eq]
    dsimp only [Stage.follow]
    rw [note_apply, if_neg fun h => hne h.2]
    exact m.notes_eq name

omit sf in
/-- A native listener that a registration has got stands for the same in both. -/
lemma target?_eq {fullChoose keptChoose : ℕ → Token} (pf : Plugged fullChoose full)
    (pk : Plugged keptChoose kept) (hinj : Set.InjOn names.tokens (Set.range keptChoose))
    {name : ℕ} {token : Token} (hc : connected? (kept.notes handle name) = some token) :
    full.registry.target? (names.tokens token) = kept.registry.target? token := by
  have hc' : connected? (full.notes handle name) = some (names.tokens token) := by
    rw [m.notes_eq, connected?_rename, hc]
    rfl
  have hrange : ∀ {token pair}, kept.registry.target? token = some pair →
      token ∈ Set.range keptChoose := by
    intro token pair ht
    obtain ⟨n, -, rfl⟩ := pk.target_chosen ht
    exact Set.mem_range_self n
  obtain ⟨n, -, hn⟩ := pk.token_chosen hc
  refine Option.ext fun pair => ?_
  obtain ⟨other, signal⟩ := pair
  constructor
  · -- a listener of the handle in the one stage is a renamed listener of the other
    intro ht
    obtain rfl := pf.token_own hc' ht
    obtain ⟨listener, hl, htoken, hsignal⟩ := (pf.indexed _ _ _).1 ht
    rw [m.registries.listenersOf_eq] at hl
    obtain ⟨old, hold, rfl⟩ := List.mem_map.1 hl
    have htarget := pk.indexed.target?_of_mem hold
    -- both tokens were chosen, and are not renamed to the same
    have hsame : old.token = token :=
      hinj (hrange htarget) (hn ▸ Set.mem_range_self n) htoken
    rw [hsame] at htarget
    rw [htarget, ← hsignal]
    rfl
  · intro ht
    obtain rfl := pk.token_own hc ht
    obtain ⟨listener, hl, rfl, rfl⟩ := (pk.indexed _ _ _).1 ht
    refine (pf.indexed _ _ _).2 ⟨Listener.rename names listener, ?_, rfl, rfl⟩
    rw [m.registries.listenersOf_eq]
    exact List.mem_map_of_mem hl

include sk

/-- **An act on the handle comes to the same in both stages.**

**Proof sketch.** By the act. What it refers to was noted in both, and stands for the same: a
subscriber or a native listener that a registration has got belongs to the handle (`Stage.Sound`,
`Stage.Plugged`), where the tables tell the same. -/
theorem done {fullChoose keptChoose : ℕ → Token} (hids : Function.Injective names.ids) (act : Act α)
    (hact : act.handle = handle)
    (hfire : act.fires = true → Plugged fullChoose full ∧ Plugged keptChoose kept ∧
      Set.InjOn names.tokens (Set.range keptChoose))
    (hid : full.registry.nextSubscription < (act.done fullChoose full.registry full.chosen
        (full.notes handle)).registry.nextSubscription →
      names.ids kept.registry.nextId = full.registry.nextId)
    (ht : full.chosen < (act.done fullChoose full.registry full.chosen (full.notes handle)).chosen →
      names.tokens (keptChoose kept.chosen) = fullChoose full.chosen) :
    Done.Mirrors names handle full.registry kept.registry full.chosen kept.chosen
      (act.done fullChoose full.registry full.chosen (full.notes handle))
      (act.done keptChoose kept.registry kept.chosen (kept.notes handle)) := by
  have r := m.registries
  subst hact
  cases act with
  | register place name signal action => exact r.enrolled sf.isOpen sk.isOpen hid ht
  | track place name signal => exact r.enrolled sf.isOpen sk.isOpen hid ht
  | dispatch place signal event limit =>
    dsimp only [Act.done, Act.handle] at r ⊢
    rw [r.callbacks_eq]
    exact r.served event limit _ fun _ hm => sk.retire_mem_callbacks hm
  | fire place name event limit =>
    obtain ⟨pf, pk, hinj⟩ := hfire rfl
    dsimp only [Act.done]
    rw [m.notes_eq, connected?_rename]
    exact r.fired event limit (fun _ _ hm => sk.retire_mem_callbacks hm)
      (fun hc => m.target?_eq pf pk hinj hc) (fun hc htarget => pk.token_own hc htarget)
  | unregisterAll place => exact r.released
  | unsubscribe place name =>
    have hnote : subscribed? (full.notes place name) =
        (subscribed? (kept.notes place name)).map names.ids :=
      (congrArg subscribed? (m.notes_eq name)).trans (subscribed?_rename names _)
    dsimp only [Act.done, Act.handle]
    rw [hnote]
    refine r.removed sf.coherent sk.coherent hids (fun hs hsub => ?_)
      (fun hs hsub => sk.subscribed_own hs hsub)
    rw [hs] at hnote
    exact sf.subscribed_own hnote hsub
  | revive place =>
    refine Registry.Mirrors.done ?_ r.revive (.revive _ _) (.revive _ _) rfl rfl
    dsimp only [Act.done, Act.handle] at r ⊢
    rw [r.isRetired_eq]
    rfl
  | isTracked place =>
    exact r.asked (congrArg Reply.truth (r.isTracked_eq sf.coherent sk.coherent))
  | isRetired place => exact r.asked (congrArg Reply.truth r.isRetired_eq)
  | listenerCount place => exact r.asked (congrArg Reply.count r.listenerCount_eq)
  | subscriberCount place signal =>
    exact r.asked (congrArg Reply.count (r.subscriberCount_eq signal))

omit sf sk in
/-- What was seen of the act is the same, and the stages after it tell the same of the handle. -/
theorem perform {fullChoose keptChoose : ℕ → Token} {act : Act α} (hact : act.handle = handle)
    (d : Done.Mirrors names handle full.registry kept.registry full.chosen kept.chosen
      (act.done fullChoose full.registry full.chosen (full.notes handle))
      (act.done keptChoose kept.registry kept.chosen (kept.notes handle))) :
    (Registry.perform fullChoose full act).2 =
        (Registry.perform keptChoose kept act).2.map (Sight.rename names) ∧
      Mirrors names handle (Registry.perform fullChoose full act).1
        (Registry.perform keptChoose kept act).1 := by
  subst hact
  rw [perform_eq, perform_eq]
  refine ⟨d.sights_eq, d.registries, fun name => ?_⟩
  dsimp only [Stage.follow]
  rw [note_apply, note_apply]
  split
  · exact d.sights_eq
  · exact m.notes_eq name

end Mirrors

end Stage

end Compositor.Registry
