import Compositor.Proofs.Registry.Run

set_option autoImplicit false

/-!
# Plain environments

A plain environment does what an operation needs and nothing else: it connects and disconnects
native listeners, and runs actions that do not touch the registry. With it an operation is carried
out in one go, and all that the outside sees of it is a list of *sights*. The tokens of its native
listeners are chosen beforehand, one after the other. An action may unwind, which gives the operation
up; after how many others is said beforehand, too.

## Main definitions

* `Sight` — something that the outside sees.
* `attend` — meets the demands of an operation until it ends.
* `serveAll` — serves callbacks to the end.

## Main results

* `attend_attempt`, `attend_serve`, `attend_release` — what the outside sees of a registration, of a
  dispatch and of a release, and what becomes of the tables.
-/

namespace Compositor.Registry

variable {α : Type}

/-- Something that the outside sees while operations are carried out. -/
inductive Sight (α : Type) where
  /-- A native listener was connected. -/
  | connected (handle : Handle) (signal : Signal) (token : Token)
  /-- A native listener was disconnected. -/
  | disconnected (token : Token)
  /-- An action was run. -/
  | ran (action : α) (event : Event)
  /-- The action that was run unwound, and the operation with it. -/
  | unwound
  /-- An operation ended. -/
  | replied (reply : Reply)

/-- The move that meets a demand, where `token` is the next token. -/
def Demand.answer (token : Token) : Demand α → Move α
  | .connect _ _ => .connected token
  | .disconnect _ => .finished
  | .run _ _ => .finished

/-- What the outside sees when a demand is met. -/
def Demand.sight (token : Token) : Demand α → Sight α
  | .connect handle signal => .connected handle signal token
  | .disconnect token => .disconnected token
  | .run action event => .ran action event

/-- The number of tokens that a demand needs. -/
def Demand.tokens : Demand α → ℕ
  | .connect _ _ => 1
  | .disconnect _ => 0
  | .run _ _ => 0

/-- Whether the action that a demand runs, if it does, unwinds: `limit` tells how many return before,
if one unwinds at all. -/
def Demand.unwinds (limit : Option ℕ) : Demand α → Bool
  | .run _ _ => limit = some 0
  | _ => false

/-- The limit after a demand is met. -/
def Demand.limit (limit : Option ℕ) : Demand α → Option ℕ
  | .run _ _ => limit.map Nat.pred
  | _ => limit

/-! ## The end of an operation -/

/-- The callbacks that are served after the last listener was disconnected. -/
def Sequel.callbacks : Sequel α → List (Callback α)
  | .reply _ => []
  | .serve rest _ _ => rest

/-- How much a waiting operation has before it: callbacks first, then native calls. -/
def Frame.load : Frame α → ℕ × ℕ
  | .connecting _ _ _ => (0, 2)
  | .releasing rest sequel => (sequel.callbacks.length, rest.length + 1)
  | .running rest _ _ => (rest.length, 1)

/-- How much the newest operation has before it. -/
def Outcome.load (outcome : Outcome α) (frames : List (Frame α)) : ℕ × ℕ :=
  match outcome, frames with
  | .demands _, frame :: _ => frame.load
  | _, _ => (0, 0)

/-- The order of loads. -/
def Lighter (first second : ℕ × ℕ) : Prop :=
  Prod.Lex (· < ·) (· < ·) first second

/-- With the same number of operations, fewer callbacks are a lighter load. -/
lemma Lighter.of_snd_lt (n : ℕ) {first second : ℕ} (h : first < second) :
    Lighter (n, first) (n, second) :=
  .right n h

/-- Serving callbacks makes the load lighter, with each callback that is served. -/
lemma lighter_serve (registry : Registry α) (frames : List (Frame α)) (event : Event) (total : ℕ)
    (callbacks : List (Callback α)) :
    let served := Process.serve registry frames event total callbacks
    Lighter (served.2.load served.1.frames) (callbacks.length, 1) := by
  induction callbacks generalizing registry with
  | nil => exact .of_snd_lt 0 Nat.zero_lt_one
  | cons callback rest ih =>
    have hrest : rest.length < (callback :: rest).length := Nat.lt_succ_self _
    cases callback with
    | run action => exact .left _ _ hrest
    | retire handle =>
      rw [Process.serve]
      cases (registry.retire handle).1.map Listener.token with
      | nil =>
        refine Prod.lex_def.2 (.inl (Nat.lt_of_le_of_lt ?_ hrest))
        rcases Prod.lex_def.1 (ih (registry.retire handle).2) with h | ⟨h, -⟩
        · exact Nat.le_of_lt h
        · exact Nat.le_of_eq h
      | cons token tokens => exact .left _ _ hrest

/-- Disconnecting listeners makes the load lighter, with each listener. -/
lemma lighter_release (registry : Registry α) (frames : List (Frame α)) (sequel : Sequel α)
    (tokens : List Token) :
    let released := Process.release registry frames sequel tokens
    Lighter (released.2.load released.1.frames) (sequel.callbacks.length, tokens.length + 1) := by
  cases tokens with
  | cons token tokens => exact .of_snd_lt _ (Nat.lt_succ_self _)
  | nil =>
    cases sequel with
    | reply reply => exact .of_snd_lt 0 Nat.zero_lt_one
    | serve rest event total => exact lighter_serve registry frames event total rest

/-- Meeting a demand makes the load lighter. -/
lemma lighter_step {before after : Process α} {demand : Demand α} {token : Token}
    {next : Outcome α} (h : before.step (demand.answer token) = some (after, next)) :
    Lighter (next.load after.frames) ((Outcome.demands demand).load before.frames) := by
  rcases Process.step_eq_some h with ⟨operation, hm, -⟩ |
    ⟨token, handle, signal, callback, frames, hm, hf, he⟩ |
    ⟨rest, sequel, frames, hm, hf, he⟩ | ⟨rest, event, total, frames, hm, hf, he⟩
  · cases demand <;> cases hm
  · have hload : (Outcome.demands demand).load before.frames = (0, 2) := by rw [hf]; rfl
    have hrelease : ∀ registry reply, Process.release registry frames (.reply reply) [token] =
        (after, next) → Lighter (next.load after.frames) (0, 2) := by
      intro registry reply hr
      have hreleased := lighter_release registry frames (.reply reply) [token]
      rwa [hr] at hreleased
    rw [hload]
    unfold Process.attempt at he
    split at he
    · exact hrelease _ _ he
    · split at he
      · exact hrelease _ _ he
      · cases he
        exact .of_snd_lt 0 Nat.zero_lt_two
  · have hreleased := lighter_release before.registry frames sequel rest
    rw [he] at hreleased
    rw [hf]
    exact hreleased
  · have hserved := lighter_serve before.registry frames event total rest
    rw [he] at hserved
    rw [hf]
    exact hserved

/-! ## Attending to an operation -/

/-- An operation that was carried out: what the outside saw, and what it has led to. -/
structure Attended (α : Type) where
  /-- What the outside saw. -/
  sights : List (Sight α)
  /-- The process after the operation. -/
  process : Process α
  /-- The number of tokens that were chosen. -/
  chosen : ℕ

/-- Puts earlier sights in front. -/
def Attended.after (attended : Attended α) (sights : List (Sight α)) : Attended α :=
  { attended with sights := sights ++ attended.sights }

/-- Meets the demands that follow an outcome until the operation ends or an action unwinds. The tokens
are chosen from `choose`, of which the first `chosen` ones are used up. -/
def attend (choose : ℕ → Token) (limit : Option ℕ) (process : Process α) (outcome : Outcome α)
    (chosen : ℕ) : Attended α :=
  match outcome with
  | .answered reply => ⟨[.replied reply], process, chosen⟩
  | .demands demand =>
    let sight := demand.sight (choose chosen)
    if demand.unwinds limit then
      ⟨[sight, .unwound], ⟨process.registry, process.frames.tail⟩, chosen⟩
    else
      match _h : process.step (demand.answer (choose chosen)) with
      | some (next, outcome) =>
        (attend choose (demand.limit limit) next outcome (chosen + demand.tokens)).after [sight]
      | none => ⟨[], process, chosen⟩
termination_by outcome.load process.frames
decreasing_by exact lighter_step _h

section Attend

variable (choose : ℕ → Token) (limit : Option ℕ) (registry : Registry α) (frames : List (Frame α))
  (chosen : ℕ)

/-- An operation that has an answer needs no attention: it replies. -/
lemma attend_answered (process : Process α) (reply : Reply) :
    attend choose limit process (.answered reply) chosen = ⟨[.replied reply], process, chosen⟩ := by
  rw [attend]

/-- An action that unwinds gives the operation up. -/
lemma attend_unwinds {process : Process α} {demand : Demand α}
    (hu : demand.unwinds limit = true) :
    attend choose limit process (.demands demand) chosen =
      ⟨[demand.sight (choose chosen), .unwound], ⟨process.registry, process.frames.tail⟩,
        chosen⟩ := by
  rw [attend, if_pos hu]

/-- A demand is met before what follows. -/
lemma attend_demands {process next : Process α} {demand : Demand α} {outcome : Outcome α}
    (hu : demand.unwinds limit = false)
    (h : process.step (demand.answer (choose chosen)) = some (next, outcome)) :
    attend choose limit process (.demands demand) chosen =
      (attend choose (demand.limit limit) next outcome (chosen + demand.tokens)).after
        [demand.sight (choose chosen)] := by
  rw [attend, if_neg (Bool.eq_false_iff.1 hu)]
  split
  · rename_i hs
    rw [h] at hs
    cases hs
    rfl
  · rename_i hs
    rw [h] at hs
    cases hs

/-- Disconnecting listeners comes before what follows. -/
lemma attend_release (sequel : Sequel α) (tokens : List Token) :
    let released := Process.release registry frames sequel tokens
    let last := Process.release registry frames sequel []
    attend choose limit released.1 released.2 chosen =
      (attend choose limit last.1 last.2 chosen).after (tokens.map Sight.disconnected) := by
  induction tokens with
  | nil => rfl
  | cons token tokens ih =>
    have hstep : (Process.release registry frames sequel (token :: tokens)).1.step .finished =
        some (Process.release registry frames sequel tokens) := rfl
    exact (attend_demands choose limit chosen rfl hstep).trans
      (congrArg (Attended.after · _) ih)

/-- What the outside sees of a release that ends the operation. -/
lemma attend_release_reply (reply : Reply) (tokens : List Token) :
    let released := Process.release registry frames (.reply reply) tokens
    attend choose limit released.1 released.2 chosen =
      ⟨tokens.map Sight.disconnected ++ [.replied reply], ⟨registry, frames⟩, chosen⟩ := by
  intro released
  have hlast := attend_answered choose limit chosen ⟨registry, frames⟩ reply
  exact (attend_release choose limit registry frames chosen (.reply reply) tokens).trans
    (congrArg (Attended.after · _) hlast)

/-- Serves callbacks to the end, or until an action unwinds: what the outside sees, and the tables
after. -/
def serveAll (event : Event) (total : ℕ) :
    Option ℕ → List (Callback α) → Registry α → List (Sight α) × Registry α
  | _, [], registry => ([.replied (.count total)], registry)
  | limit, .run action :: rest, registry =>
    if limit = some 0 then ([.ran action event, .unwound], registry)
    else
      let served := serveAll event total (limit.map Nat.pred) rest registry
      (.ran action event :: served.1, served.2)
  | limit, .retire handle :: rest, registry =>
    let taken := registry.retire handle
    let served := serveAll event total limit rest taken.2
    (taken.1.map (fun listener => .disconnected listener.token) ++ served.1, served.2)

/-- What the outside sees of serving callbacks.

**Proof sketch.** Induction on the callbacks. The listeners of a handle that is retired are
disconnected before the next callback is served (`attend_release`). -/
lemma attend_serve (event : Event) (total : ℕ) (callbacks : List (Callback α)) :
    let served := Process.serve registry frames event total callbacks
    let seen := serveAll event total limit callbacks registry
    attend choose limit served.1 served.2 chosen = ⟨seen.1, ⟨seen.2, frames⟩, chosen⟩ := by
  induction callbacks generalizing registry limit with
  | nil => exact attend_answered choose limit chosen ⟨registry, frames⟩ _
  | cons callback rest ih =>
    dsimp only at ih ⊢
    cases callback with
    | run action =>
      rw [serveAll]
      split
      · rename_i hl
        exact attend_unwinds choose limit chosen (decide_eq_true hl)
      · rename_i hl
        have hstep : (Process.serve registry frames event total (.run action :: rest)).1.step
            .finished = some (Process.serve registry frames event total rest) := rfl
        have hu : (Demand.run action event).unwinds limit = false := decide_eq_false hl
        exact (attend_demands choose limit chosen hu hstep).trans
          (congrArg (Attended.after · _) (ih (limit.map Nat.pred) registry))
    | retire handle =>
      have hrelease := attend_release choose limit (registry.retire handle).2 frames chosen
        (.serve rest event total) ((registry.retire handle).1.map Listener.token)
      have hserve : Process.serve registry frames event total (.retire handle :: rest) =
          Process.release (registry.retire handle).2 frames (.serve rest event total)
            ((registry.retire handle).1.map Listener.token) := by
        rw [Process.serve]
        cases (registry.retire handle).1.map Listener.token <;> rfl
      rw [hserve, hrelease, Process.release, ih, Attended.after, serveAll, List.map_map]
      rfl

/-- What the outside sees of a registration: a refusal, or a name; and a native listener, if the pair
has none. -/
lemma attend_attempt (handle : Handle) (signal : Signal) (callback : Callback α) :
    let attempted := Process.attempt registry frames handle signal callback none
    attend choose limit attempted.1 attempted.2 chosen =
      match registry.check handle with
      | .error refusal => ⟨[.replied (.refused refusal)], ⟨registry, frames⟩, chosen⟩
      | .ok () =>
        match registry.append? handle signal callback with
        | some appended =>
          ⟨[.replied (.subscribed registry.nextId)], ⟨appended, frames⟩, chosen⟩
        | none =>
          ⟨[.connected handle signal (choose chosen), .replied (.subscribed registry.nextId)],
            ⟨registry.install handle signal (choose chosen) callback, frames⟩, chosen + 1⟩ := by
  intro attempted
  subst attempted
  unfold Process.attempt
  cases hc : registry.check handle with
  | error refusal => exact attend_release_reply choose limit registry frames chosen _ []
  | ok admitted =>
    cases ha : registry.append? handle signal callback with
    | some appended => exact attend_release_reply choose limit appended frames chosen _ []
    | none =>
      have hstep : (Process.mk registry (.connecting handle signal callback :: frames)).step
          (.connected (choose chosen)) =
            some (⟨registry.install handle signal (choose chosen) callback, frames⟩,
              .answered (.subscribed registry.nextId)) := by
        simp only [Process.step, Process.attempt, hc, ha]
      have hlast := attend_answered choose limit (chosen + 1)
        ⟨registry.install handle signal (choose chosen) callback, frames⟩
        (.subscribed registry.nextId)
      exact (attend_demands choose limit chosen rfl hstep).trans
        (congrArg (Attended.after · _) hlast)

end Attend

end Compositor.Registry
