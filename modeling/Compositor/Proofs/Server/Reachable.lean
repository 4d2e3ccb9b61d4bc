import Compositor.Server.Call
import Mathlib.Tactic.Common

set_option autoImplicit false

/-!
# Reachable states

What a server can get into: by calls from outside, by the events that are dispatched to it, and by
whatever its toolkit answers. A dispatch is taken apart into its callbacks, so the states in its
midst are reachable too, and calls may be made from there, as a subscriber from outside does when it
calls the server that is running it.

## Main definitions

* `Server.Serving` — a dispatch with the callbacks that are still to be run.
* `Server.Reachable` — the states of a server, with the dispatches that are going on.
* `Server.callAll` — makes calls in turn.

## Main results

* `Server.Reachable.callAll` — what calls lead to is reachable.
-/

namespace Compositor.Server

/-- A dispatch that is going on. -/
structure Serving where
  /-- The payload. -/
  event : Event
  /-- The callbacks that are still to be run. -/
  rest : List (Callback Handler)

variable {T : Type} [Toolkit T]

/-- The states that a server can reach, each with the dispatches that are going on, innermost
first. -/
inductive Reachable : Server T → List Serving → Prop
  /-- A server is built. -/
  | create {toolkit : T} {config : Config} {display : Option String} {server : Server T} :
    Server.create toolkit config display = .ok server → Reachable server []
  /-- A call is made, be it from outside or from a callback; it may end by a fault. -/
  | call {server : Server T} {servings : List Serving} (call : Call) :
    Reachable server servings → Reachable (server.call call).server servings
  /-- The toolkit changes by itself, so that its next answers may be any. -/
  | toolkit {server : Server T} {servings : List Serving} (toolkit : T) :
    Reachable server servings → Reachable { server with toolkit := toolkit } servings
  /-- A dispatch begins. -/
  | enter {server : Server T} {servings : List Serving} (handle : Handle) (signal : Signal)
      (event : Event) :
    Reachable server servings →
      Reachable server (⟨event, server.registry.callbacks handle signal⟩ :: servings)
  /-- The next callback of the innermost dispatch is run. -/
  | callback {server : Server T} {servings : List Serving} {event : Event}
      {callback : Callback Handler} {rest : List (Callback Handler)} :
    Reachable server (⟨event, callback :: rest⟩ :: servings) →
      Reachable (server.runCallback event callback).server (⟨event, rest⟩ :: servings)
  /-- The innermost dispatch ends, or is given up because of a fault. -/
  | leave {server : Server T} {serving : Serving} {servings : List Serving} :
    Reachable server (serving :: servings) → Reachable server servings

/-- Makes calls in turn, whether or not they end by a fault. -/
def callAll (server : Server T) (calls : List Call) : Server T :=
  calls.foldl (fun server call => (server.call call).server) server

/-- What calls lead to is reachable. -/
lemma Reachable.callAll {server : Server T} {servings : List Serving}
    (h : Reachable server servings) (calls : List Call) :
    Reachable (server.callAll calls) servings := by
  unfold Server.callAll
  induction calls generalizing server with
  | nil => exact h
  | cons call rest ih => exact ih (.call call h)

end Compositor.Server
