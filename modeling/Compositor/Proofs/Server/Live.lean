import Compositor.Proofs.Registry.Tokens
import Compositor.Proofs.Server.Coherence
import Compositor.Proofs.Server.Elements

set_option autoImplicit false

/-!
# Live native listeners

The journal tells which native listeners are live: those that were connected and have not been
disconnected since. They are the listeners that the registry has installed, no matter whether the
toolkit uses a token again while its listener is live.

## Main definitions

* `Server.live` — the tokens of the live listeners, by the journal alone.
* `Server.Accounted` — the live listeners are those that are installed.

## Main results

* `Server.Accounted.composed` — elementary steps keep the account.
* `Server.Reachable.accounted` — the account is right in every state that can be reached.
-/

namespace Compositor.Server

variable {T : Type}

/-- The tokens of the listeners that entries, newest first, leave live. -/
def liveIn : List Record → List Token
  | [] => []
  | .connected _ _ token :: earlier => token :: liveIn earlier
  | .disconnected token :: earlier => (liveIn earlier).erase token
  | _ :: earlier => liveIn earlier

/-- The tokens of the live native listeners, newest first. -/
def live (server : Server T) : List Token :=
  liveIn server.journal

/-- Entries about other things leave the same listeners live. -/
lemma liveIn_cons_of_isHook {record : Record} (h : record.isHook = false)
    (earlier : List Record) : liveIn (record :: earlier) = liveIn earlier := by
  cases record <;> first | rfl | cases h

/-- The tables of the registry agree, and the live listeners are those that are installed. -/
structure Accounted (server : Server T) : Prop where
  /-- The tables agree. -/
  coherent : server.registry.Coherent
  /-- The live listeners are the installed ones. -/
  live_perm : server.live.Perm server.registry.tokens

namespace Accounted

variable {server before after : Server T}

/-- A step that has nothing to do with listeners. -/
lemma congr (a : Accounted before) (hr : after.registry = before.registry)
    (hl : after.live = before.live) : Accounted after where
  coherent := by
    rw [hr]
    exact a.coherent
  live_perm := by
    rw [hr, hl]
    exact a.live_perm

/-- Taking back a mark neither connects nor disconnects. -/
lemma revive (a : Accounted server) (handle : Handle) : Accounted (server.revive handle) where
  coherent := a.coherent.revive handle
  live_perm := a.live_perm

variable [Toolkit T]

/-- Listeners that are disconnected are no longer live. -/
lemma live_disconnectAll (server : Server T) (listeners : List (Listener Handler))
    {rest : List Token} (h : server.live.Perm (listeners.map Listener.token ++ rest)) :
    (server.disconnectAll listeners).live.Perm rest := by
  unfold disconnectAll
  induction listeners generalizing server with
  | nil => exact h
  | cons listener others ih =>
    refine ih (server.disconnect listener.token) ?_
    have herased := h.erase listener.token
    rw [List.map_cons, List.cons_append, List.erase_cons_head] at herased
    exact herased

/-- What a step at the registry hands back is disconnected. -/
lemma released (registry : Registry Handler) {listeners : List (Listener Handler)}
    (c : registry.Coherent)
    (h : server.live.Perm (listeners.map Listener.token ++ registry.tokens)) :
    Accounted ({ server with registry := registry }.disconnectAll listeners) where
  coherent := by
    rw [registry_disconnectAll]
    exact c
  live_perm := by
    rw [registry_disconnectAll]
    exact live_disconnectAll _ listeners h

/-- Of a released handle just the installed listeners are disconnected. -/
lemma unregisterAll (a : Accounted server) (handle : Handle) :
    Accounted (server.unregisterAll handle).2 :=
  released _ (a.coherent.take handle) (a.live_perm.trans (Registry.tokens_take _ handle))

/-- Retiring a handle disconnects just its installed listeners, like releasing it. -/
lemma retire (a : Accounted server) (handle : Handle) : Accounted (server.retire handle) := by
  have htaken := Registry.tokens_take
    { server.registry with retired := server.registry.retired.insert handle } handle
  have hsame : Registry.tokens
      { server.registry with retired := server.registry.retired.insert handle } =
        server.registry.tokens := Registry.tokens_of_listeners_eq rfl
  rw [hsame] at htaken
  exact released _ (a.coherent.retire handle) (a.live_perm.trans htaken)

/-- Shutting down disconnects all installed listeners. -/
lemma closeRegistry (a : Accounted server) : Accounted server.closeRegistry := by
  refine released _ (.clear server.registry) ?_
  rw [Registry.tokens_clear, List.append_nil]
  exact a.live_perm

/-- Removing a subscriber disconnects its listener just if it is uninstalled. -/
lemma unsubscribe (a : Accounted server) (id : SubscriptionId) :
    Accounted (server.unsubscribe id).2 := by
  unfold Server.unsubscribe
  split <;> rename_i hu
  · exact a
  · exact ⟨a.coherent.unsubscribe hu,
      a.live_perm.trans (Registry.tokens_unsubscribe a.coherent hu)⟩
  · rename_i token registry
    have hlive := a.live_perm.trans (Registry.tokens_unsubscribe a.coherent hu)
    have herased := hlive.erase token
    rw [Option.toList_some, List.singleton_append, List.erase_cons_head] at herased
    exact ⟨a.coherent.unsubscribe hu, herased⟩

/-- A subscription connects a listener if none is installed for its pair. -/
lemma register (a : Accounted server) (handle : Handle) (signal : Signal)
    (callback : Callback Handler) : Accounted (server.register handle signal callback).2 := by
  refine ⟨Coherent.register a.coherent handle signal callback, ?_⟩
  unfold Server.register
  split
  · exact a.live_perm
  · split <;> rename_i ha
    · exact a.live_perm.trans (Registry.tokens_append ha)
    · exact (a.live_perm.cons _).trans (Registry.tokens_install _ _ _ _ _).symm

/-- **Elementary steps keep the account of the live listeners.** -/
theorem composed {may : Stock → Prop} (h : Composed may before after) (a : Accounted before) :
    Accounted after := by
  induction h with
  | refl server => exact a
  | trans _ _ ih ih' => exact ih' (ih a)
  | ask server _ hk _ => exact a.congr rfl (liveIn_cons_of_isHook hk _)
  | revive server handle => exact a.revive handle
  | register server handle signal callback => exact a.register handle signal callback
  | unregisterAll server handle => exact a.unregisterAll handle
  | retire server handle => exact a.retire handle
  | unsubscribe server id => exact a.unsubscribe id
  | closeRegistry server => exact a.closeRegistry
  | arrange server _ => exact a.congr rfl rfl
  | place server position _ => exact a.congr rfl rfl
  | takeDown server => exact a.congr rfl rfl
  | appear server toplevel surface _ => exact a.congr rfl rfl
  | recount server keyboards _ => exact a.congr rfl rfl
  | relist server outputs _ => exact a.congr rfl rfl
  | grab server interaction => exact a.congr rfl rfl
  | session server socket running display => exact a.congr rfl rfl

end Accounted

/-- A new server has connected just the listeners that it has installed. -/
lemma accounted_of_create [Toolkit T] {toolkit : T} {config : Config} {display : Option String}
    {server : Server T} (h : create toolkit config display = .ok server) : Accounted server := by
  obtain ⟨bindings, hcreated⟩ : ∃ bindings,
      Composed (fun _ => False) (unwired toolkit config bindings display) server :=
    Composed.of_create h
  have hunwired : (unwired toolkit config bindings display).live.Perm
      (Registry.empty : Registry Handler).tokens := by
    rw [Registry.tokens_empty]
    exact List.Perm.refl _
  exact .composed hcreated ⟨.empty, hunwired⟩

/-- **The live listeners are those that are installed** in every state that a server can reach, also
within a dispatch. -/
theorem Reachable.accounted [Toolkit T] {server : Server T} {servings : List Serving}
    (h : Reachable server servings) : Accounted server := by
  induction h with
  | create hc => exact accounted_of_create hc
  | call call _ ih => exact .composed (Composed.call _ call) ih
  | toolkit toolkit _ ih => exact ih.congr rfl rfl
  | enter handle signal event _ ih => exact ih
  | @callback server servings event callback rest _ ih =>
    have hran : Composed (fun _ => True) server (server.runCallback event callback).server :=
      .runCallback server event callback fun _ _ _ _ => trivial
    exact .composed hran ih
  | leave _ ih => exact ih

end Compositor.Server
