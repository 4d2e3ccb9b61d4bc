import Compositor.Proofs.Server.Reachable
import Compositor.Proofs.Server.Rewiring

set_option autoImplicit false

/-!
# The registry of a server

Whatever is done with a server, and whatever its toolkit answers, the tables of its registry agree.
It is enough that each of the steps by which the registry changes keeps them so.

## Main results

* `Server.Rewired.coherent` — a changed registry has tables that agree.
* `Server.Reachable.coherent` — the tables are coherent in every reachable state.
-/

namespace Compositor.Server

variable {T : Type}

/-- The tables of the registry agree. -/
def Coherent (server : Server T) : Prop :=
  server.registry.Coherent

namespace Coherent

variable {server before after : Server T}

/-- The tables that agree are those of the registry. -/
lemma congr (c : Coherent before) (h : after.registry = before.registry) : Coherent after := by
  unfold Coherent
  rw [h]
  exact c

/-- The tables agree after a mark is taken back. -/
lemma revive (c : Coherent server) (handle : Handle) : Coherent (server.revive handle) :=
  Registry.Coherent.revive c handle

variable [Toolkit T]

/-- A subscription, be it made or refused. -/
lemma register (c : Coherent server) (handle : Handle) (signal : Signal)
    (callback : Callback Handler) : Coherent (server.register handle signal callback).2 := by
  cases hc : server.registry.check handle with
  | ok admitted => exact (Wired.register ⟨handle, signal, callback⟩ hc).coherent c
  | error refusal =>
    unfold Server.register
    rw [hc]
    exact c

/-- The tables agree after the listeners of a handle are released. -/
lemma unregisterAll (c : Coherent server) (handle : Handle) :
    Coherent (server.unregisterAll handle).2 := by
  unfold Coherent
  rw [registry_unregisterAll]
  exact c.take handle

/-- The tables agree after a handle is retired. -/
lemma retire (c : Coherent server) (handle : Handle) : Coherent (server.retire handle) := by
  unfold Coherent
  rw [registry_retire]
  exact Registry.Coherent.retire c handle

/-- The tables agree after a subscriber is removed. -/
lemma unsubscribe (c : Coherent server) (id : SubscriptionId) :
    Coherent (server.unsubscribe id).2 := by
  unfold Server.unsubscribe
  split <;> rename_i hu
  · exact c
  · exact Registry.Coherent.unsubscribe c hu
  · exact Registry.Coherent.unsubscribe c hu

/-- The tables agree after the end, whether or not they did before. -/
lemma shutdown (server : Server T) : Coherent server.shutdown := by
  unfold Coherent
  rw [registry_shutdown]
  exact .clear _

end Coherent

variable {before after server : Server T} [Toolkit T]

/-- **A changed registry has tables that agree**, if they did before. -/
theorem Rewired.coherent (h : Rewired before after) (c : Coherent before) : Coherent after := by
  induction h with
  | rest h => exact c.congr h
  | revive server handle => exact c.revive handle
  | register server wiring _ => exact c.register wiring.handle wiring.signal wiring.callback
  | unregisterAll server handle => exact c.unregisterAll handle
  | retire server handle => exact c.retire handle
  | unsubscribe server id => exact c.unsubscribe id
  | shutdown server => exact .shutdown server
  | trans _ _ ih ih' => exact ih' (ih c)

/-- A callback keeps the tables coherent, whether or not it ends by a fault. -/
lemma Coherent.runCallback (c : Coherent server) (event : Event) (callback : Callback Handler) :
    Coherent (server.runCallback event callback).server :=
  (Rewired.runCallback server event callback).coherent c

/-- Every call keeps the tables coherent, whether or not it ends by a fault. -/
lemma Coherent.call (c : Coherent server) (call : Call) : Coherent (server.call call).server :=
  (Rewired.call server call).coherent c

/-! ## Reachable states -/

/-- A new server has made its subscriptions in an empty registry. -/
lemma coherent_of_create {toolkit : T} {config : Config} {display : Option String}
    {server : Server T} (h : create toolkit config display = .ok server) : Coherent server := by
  obtain ⟨bindings, hw⟩ := Wired.of_create h
  exact hw.coherent .empty

/-- **The tables of the registry agree** in every state that a server can reach, also within a
dispatch. -/
theorem Reachable.coherent {server : Server T} {servings : List Serving}
    (h : Reachable server servings) : server.registry.Coherent := by
  suffices hc : Coherent server from hc
  induction h with
  | create hc => exact coherent_of_create hc
  | call call _ ih => exact ih.call call
  | toolkit toolkit _ ih => exact ih.congr rfl
  | enter handle signal event _ ih => exact ih
  | callback _ ih => exact ih.runCallback _ _
  | leave _ ih => exact ih

end Compositor.Server
