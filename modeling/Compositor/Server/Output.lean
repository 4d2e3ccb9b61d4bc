import Compositor.Server.Basic

set_option autoImplicit false

/-!
# Outputs

A new output is brought up with the mode it likes best and placed in the layout.

## Main definitions

* `Server.handleNewOutput`, `Server.handleOutputDestroyed` — outputs come and go.
* `Server.handleRequestState` — a state that the backend asks for.
-/

namespace Compositor.Server

variable {T : Type} [Toolkit T]

/-- What is listened to on an output. -/
def outputWiring (output : Handle) : List Wiring :=
  [.run output .frame (.frame output), .run output .requestState (.requestState output),
    .run output .destroy (.outputDestroyed output), .track output]

/-- Commits the first state of an output. If it is refused, the output is kept all the same. -/
def commitOutput (server : Server T) (output : Handle) (configuration : OutputConfiguration) :
    Server T :=
  { server with
    toolkit := (Toolkit.commitOutput output configuration server.toolkit).2 }.note
      (.commitOutput output configuration)

/-- Brings an output up. -/
def handleNewOutput (server : Server T) (output : Handle) : Server T :=
  let prepared := (server.revive output).perform (.initOutputRender output)
  let configuration := OutputConfiguration.mk true (Toolkit.preferredMode prepared.toolkit output)
  let listening := (prepared.commitOutput output configuration).listenAll (outputWiring output)
  let placed := listening.perform (.addOutputToLayout output)
  { placed with outputs := placed.outputs ++ [output] }

/-- Commits a state that the backend asks for. -/
def handleRequestState (server : Server T) (output state : Handle) : Server T :=
  { server with
    toolkit := (Toolkit.commitRequestedState output state server.toolkit).2 }.note
      (.commitRequestedState output state)

/-- Forgets an output. -/
def handleOutputDestroyed (server : Server T) (output : Handle) : Server T :=
  { server with outputs := server.outputs.filter fun other => other ≠ output }

end Compositor.Server
