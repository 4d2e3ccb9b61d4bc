import Compositor.Proofs.Registry.Conservation

set_option autoImplicit false

/-!
# Destruction of an object

Once the destroy signal of a tracked object was dispatched, nothing is left of its handle. The
dispatch serves other callbacks besides the one that retires the handle, before it and after it, and
all of them may call the registry; registrations on the handle may be waiting for their native
listeners meanwhile. None of this matters, as long as the handle is not announced again.

## Main definitions

* `Closed` — a handle accepts no registrations.
* `Gone` — nothing is left of a handle, and nothing can be registered or dispatched on it.
* `Unrevived` — a handle was not announced again.
* `Executing`, `Returns` — the run of one operation, and that it returns.

## Main results

* `Executing.destined` — while the destroy signal is dispatched, the handle is closed or is going
  to be.
* `gone_of_destroyed` — after the dispatch the handle is gone until it is announced again.
-/

namespace Compositor.Registry

variable {α : Type}

/-! ## Closed handles -/

/-- A handle accepts no registrations: it is retired, or the registry is shut down. -/
def Closed (registry : Registry α) (handle : Handle) : Prop :=
  registry.isRetired handle = true ∨ registry.isShutDown = true

/-- The handle that a turn announces for a new object, if it does. -/
def Turn.revived (turn : Turn α) : Option Handle :=
  match turn.happening with
  | .moved (.call (.revive handle)) _ => some handle
  | _ => none

/-- A handle was not announced again. -/
def Unrevived (history : List (Turn α)) (handle : Handle) : Prop :=
  ∀ turn ∈ history, turn.revived ≠ some handle

instance (history : List (Turn α)) (handle : Handle) : Decidable (Unrevived history handle) :=
  inferInstanceAs (Decidable (∀ turn ∈ history, _))

/-- A change leaves a handle closed unless it announces it. -/
lemma Change.closed {before : Process α} {move : Move α} {released : List Token}
    {after : Registry α} {handle : Handle} (h : Change before move released after)
    (hm : move ≠ .call (.revive handle)) (hc : Closed before.registry handle) :
    Closed after handle := by
  induction h with
  | keep => exact hc
  | append _ ha =>
    obtain ⟨hretired, hshut, -⟩ := marks_append ha
    rwa [Closed, isRetired, hretired, hshut]
  | install _ _ _ => exact hc
  | retire other _ ih => exact (ih hm).imp_left fun hr => by simp [isRetired_retire, hr]
  | take other => exact hc
  | unsubscribe hu =>
    obtain ⟨hretired, hshut, -⟩ := marks_unsubscribe hu
    rwa [Closed, isRetired, hretired, hshut]
  | revive other =>
    have hne : handle ≠ other := fun he => hm (by rw [he])
    exact hc.imp_left fun hr => by simp [isRetired_revive, hr, hne]
  | clear _ => exact .inr rfl

/-- A turn leaves a handle closed unless it announces it. -/
lemma Process.Turns.closed {before after : Process α} {happening : Happening α} {handle : Handle}
    (h : before.Turns happening after)
    (hn : (Turn.mk before happening after).revived ≠ some handle)
    (hc : Closed before.registry handle) : Closed after.registry handle := by
  cases happening with
  | moved move outcome =>
    obtain ⟨released, hchange, -⟩ := exists_change h
    refine hchange.closed (fun hm => hn ?_) hc
    rw [hm]
    rfl
  | unwound =>
    cases h
    exact hc

/-- A handle stays closed until it is announced again. -/
lemma Run.closed {start finish : Process α} {later : List (Turn α)} {handle : Handle}
    (h : Run start later finish) (hn : Unrevived later handle)
    (hc : Closed start.registry handle) : Closed finish.registry handle := by
  induction h with
  | nil => exact hc
  | cons _ ht ih =>
    rw [Unrevived, List.forall_mem_cons] at hn
    exact ht.closed hn.1 (ih hn.2)

/-- A closed handle has no listeners. -/
lemma Coherent.isTracked_eq_false {registry : Registry α} {handle : Handle}
    (c : Coherent registry) (hc : Closed registry handle) : registry.isTracked handle = false := by
  refine Bool.eq_false_iff.2 fun ht => ?_
  rcases hc with hr | hs
  · rw [c.not_isRetired ht] at hr
    cases hr
  · rw [isTracked, (c.tables_of_isShutDown hs).1] at ht
    simp at ht

/-- A closed handle has an error for every registration. -/
lemma Closed.exists_check {registry : Registry α} {handle : Handle} (hc : Closed registry handle) :
    ∃ refusal, registry.check handle = .error refusal := by
  cases hcheck : registry.check handle with
  | error refusal => exact ⟨refusal, rfl⟩
  | ok admitted =>
    obtain ⟨hshut, hretired⟩ := check_eq_ok_iff.1 hcheck
    rcases hc with hr | hs
    · rw [hretired] at hr
      cases hr
    · rw [hshut] at hs
      cases hs

/-! ## Handles of which nothing is left -/

/-- Nothing is left of a handle, and nothing can be registered or dispatched on it. -/
structure Gone (process : Process α) (handle : Handle) : Prop where
  /-- The handle accepts no registrations. -/
  closed : Closed process.registry handle
  /-- The handle has no listeners. -/
  isTracked_eq_false : process.registry.isTracked handle = false
  /-- A registration is refused and changes nothing. -/
  register_refused (signal : Signal) (action : α) :
    ∃ refusal, process.call (.register handle signal action) =
      (process, .answered (.refused refusal))
  /-- So is tracking. -/
  track_refused (signal : Signal) :
    ∃ refusal, process.call (.track handle signal) = (process, .answered (.refused refusal))
  /-- A registration that was waiting for its native listener has it disconnected, and then is
  refused whatever was done in between. -/
  connected_refused {signal : Signal} {callback : Callback α} {frames : List (Frame α)}
    (hf : process.frames = .connecting handle signal callback :: frames) (token : Token) :
    ∃ frame refusal,
      process.step (.connected token) =
        some (⟨process.registry, frame :: frames⟩, .demands (.disconnect token)) ∧
      ∀ registry : Registry α, (Process.mk registry (frame :: frames)).step .finished =
        some (⟨registry, frames⟩, .answered (.refused refusal))
  /-- A dispatch serves nobody. -/
  dispatch_eq_zero (signal : Signal) (event : Event) :
    process.call (.dispatch handle signal event) = (process, .answered (.count 0))

/-- Nothing is left of a closed handle. -/
lemma Coherent.gone {process : Process α} {handle : Handle} (c : Coherent process.registry)
    (hc : Closed process.registry handle) : Gone process handle := by
  obtain ⟨refusal, hcheck⟩ := hc.exists_check
  have ht := c.isTracked_eq_false hc
  have hl : process.registry.listenersOf handle = [] := by
    refine List.eq_nil_iff_forall_not_mem.2 fun listener hm => ?_
    rw [isTracked_of_mem hm] at ht
    cases ht
  constructor
  · exact hc
  · exact ht
  · intro signal action
    refine ⟨refusal, ?_⟩
    simp [Process.call, Process.attempt, hcheck, Process.release]
  · intro signal
    refine ⟨refusal, ?_⟩
    simp [Process.call, Process.attempt, hcheck, Process.release]
  · intro signal callback frames hf token
    refine ⟨.releasing [] (.reply (.refused refusal)), refusal, ?_, fun registry => rfl⟩
    simp [Process.step, hf, Process.attempt, hcheck, Process.release]
  · intro signal event
    simp [Process.call, callbacks, subscribersOf, listener?, hl, Process.serve]

/-! ## Operations that return -/

/-- The runs of an operation so far: it was called, and it waits before each further turn. -/
inductive Executing (start : Process α) (operation : Operation α) :
    List (Turn α) → Process α → Prop
  /-- The operation is called. -/
  | call {after : Process α} {outcome : Outcome α} :
    start.Turns (.moved (.call operation) outcome) after →
      Executing start operation [⟨start, .moved (.call operation) outcome, after⟩] after
  /-- A turn happens while the operation waits. -/
  | turn {span : List (Turn α)} {before after : Process α} {happening : Happening α} :
    Executing start operation span before → start.frames.length < before.frames.length →
      before.Turns happening after →
      Executing start operation (⟨before, happening, after⟩ :: span) after

/-- An operation was called and has returned. -/
structure Returns (start : Process α) (operation : Operation α) (span : List (Turn α))
    (finish : Process α) (reply : Reply) : Prop where
  /-- This is a run of the operation. -/
  executing : Executing start operation span finish
  /-- Nothing waits that did not wait before. -/
  frames_eq : finish.frames = start.frames
  /-- The last turn answers. -/
  answered : ∃ turn ∈ span.head?, ∃ move, turn.happening = .moved move (.answered reply)

/-- What an operation does is a run. -/
lemma Executing.run {start finish : Process α} {operation : Operation α} {span : List (Turn α)}
    (h : Executing start operation span finish) : Run start span finish := by
  induction h with
  | call ht => exact .cons .nil ht
  | turn _ _ ht ih => exact .cons ih ht

/-- The callbacks that a waiting operation has still to serve. -/
def Frame.remaining : Frame α → List (Callback α)
  | .running rest _ _ => rest
  | .releasing _ (.serve rest _ _) => rest
  | _ => []

/-- A handle is closed, or an operation on top of some waiting ones is going to retire it. -/
def Destined (base : List (Frame α)) (handle : Handle) (process : Process α) : Prop :=
  Closed process.registry handle ∨
    ∃ inner frame, process.frames = inner ++ frame :: base ∧ .retire handle ∈ frame.remaining

namespace Process

/-- Serving callbacks leaves a retired handle retired. -/
lemma isRetired_serve_of_isRetired {registry : Registry α} {handle : Handle}
    (h : registry.isRetired handle = true) (frames : List (Frame α)) (event : Event) (total : ℕ)
    (callbacks : List (Callback α)) :
    (serve registry frames event total callbacks).1.registry.isRetired handle = true := by
  induction callbacks generalizing registry with
  | nil => exact h
  | cons callback rest ih =>
    cases callback with
    | run action => exact h
    | retire other =>
      have ht : (registry.retire other).2.isRetired handle = true := by
        simp [isRetired_retire, h]
      rw [serve]
      split
      · exact ih ht
      · exact ht

/-- Serving a callback that retires a handle does so, or is going to. -/
lemma destined_serve {registry : Registry α} {callbacks : List (Callback α)} {handle : Handle}
    (h : .retire handle ∈ callbacks) (frames : List (Frame α)) (event : Event) (total : ℕ) :
    Destined frames handle (serve registry frames event total callbacks).1 := by
  induction callbacks generalizing registry with
  | nil => cases h
  | cons callback rest ih =>
    cases callback with
    | run action =>
      rw [List.mem_cons] at h
      rcases h with h | h
      · cases h
      · exact .inr ⟨[], .running rest event total, rfl, h⟩
    | retire other =>
      rw [serve]
      rw [List.mem_cons] at h
      rcases h with h | h
      · cases h
        have ht : (registry.retire handle).2.isRetired handle = true := by
          simp [isRetired_retire]
        split
        · exact .inl (.inl (isRetired_serve_of_isRetired ht _ _ _ _))
        · exact .inl (.inl ht)
      · split
        · exact ih h
        · rename_i token tokens _
          exact .inr ⟨[], .releasing tokens (.serve rest event total), rfl, h⟩

variable {before after : Process α} {move : Move α} {outcome : Outcome α} {base : List (Frame α)}
  {frame : Frame α} {handle : Handle}

/-- Whatever is called while an operation waits, it still waits. -/
lemma Turns.exists_inner (h : before.Turns (.moved move outcome) after)
    (inner : List (Frame α)) (hf : move.base before.frames = inner ++ frame :: base) :
    ∃ inner, after.frames = inner ++ frame :: base := by
  have hstacks := h.stacks
  rw [hf] at hstacks
  cases outcome with
  | answered reply => exact ⟨inner, hstacks⟩
  | demands demand =>
    obtain ⟨new, hnew, -⟩ := hstacks
    exact ⟨new :: inner, hnew⟩

/-- When the newest operation is going to retire a handle and goes on, it does so or is still going
to. -/
lemma Turns.destined (h : before.Turns (.moved move outcome) after)
    (hf : before.frames = frame :: base) (hm : .retire handle ∈ frame.remaining) :
    Destined base handle after := by
  have hcall : ∀ operation, move = .call operation → Destined base handle after := by
    rintro operation rfl
    obtain ⟨inner, hinner⟩ := h.exists_inner [] hf
    exact .inr ⟨inner, frame, hinner, hm⟩
  cases h with
  | shutdown _ _ => exact hcall .shutdown rfl
  | step hs =>
    rcases step_eq_some hs with ⟨operation, rfl, he⟩ |
      ⟨token, place, signal, callback, frames, rfl, hf', he⟩ |
      ⟨rest, sequel, frames, rfl, hf', he⟩ | ⟨rest, event, total, frames, rfl, hf', he⟩
    · exact hcall operation rfl
    · rw [hf] at hf'
      cases hf'
      cases hm
    · rw [hf] at hf'
      cases hf'
      obtain rfl := congrArg Prod.fst he
      cases sequel with
      | reply reply => cases hm
      | serve callbacks event total =>
        cases rest with
        | nil => exact destined_serve hm _ _ _
        | cons token tokens => exact .inr ⟨[], _, rfl, hm⟩
    · rw [hf] at hf'
      cases hf'
      obtain rfl := congrArg Prod.fst he
      exact destined_serve hm _ _ _

end Process

/-- **While the destroy signal of a tracked object is dispatched, its handle is closed or is going
to be**, unless the dispatch itself was given up.

**Proof sketch.** Induction on the turns. As long as operations wait on top of the dispatch, its
frame stays as it is. When it goes on itself, either the callback that retires the handle is served
or it is among those that remain. -/
theorem Executing.destined {start finish : Process α} {handle : Handle} {signal : Signal}
    {event : Event} {span : List (Turn α)}
    (h : Executing start (.dispatch handle signal event) span finish)
    (hm : .retire handle ∈ start.registry.callbacks handle signal)
    (hn : Unrevived span handle) :
    Destined start.frames handle finish ∨
      finish.frames = start.frames ∧ ∃ turn ∈ span.head?, turn.happening = .unwound := by
  induction h with
  | call ht =>
    cases ht with
    | step hs =>
      obtain rfl := congrArg Prod.fst (Option.some.inj hs)
      exact .inl (Process.destined_serve hm _ _ _)
  | @turn span before after happening _ hlt ht ih =>
    rw [Unrevived, List.forall_mem_cons] at hn
    rcases ih hn.2 with (hc | ⟨inner, frame, hf, hr⟩) | ⟨hf, -⟩
    · exact .inl (.inl (ht.closed hn.1 hc))
    · cases happening with
      | moved move outcome =>
        cases inner with
        | nil => exact .inl (ht.destined hf hr)
        | cons newest inner =>
          -- the move is that of an operation on top of the dispatch
          have hbase : ∃ inner, move.base before.frames = inner ++ frame :: start.frames := by
            rw [hf]
            cases move with
            | call operation => exact ⟨newest :: inner, rfl⟩
            | connected token => exact ⟨inner, rfl⟩
            | finished => exact ⟨inner, rfl⟩
          obtain ⟨inner, hbase⟩ := hbase
          obtain ⟨inner, hafter⟩ := ht.exists_inner inner hbase
          exact .inl (.inr ⟨inner, frame, hafter, hr⟩)
      | unwound =>
        cases ht with
        | @unwind newest frames hu =>
          rw [hf] at hu
          cases inner with
          | nil =>
            cases hu
            exact .inr ⟨rfl, _, rfl, rfl⟩
          | cons newest inner =>
            cases hu
            exact .inl (.inr ⟨inner, frame, rfl, hr⟩)
    · rw [hf] at hlt
      exact absurd hlt (Nat.lt_irrefl _)

/-- A dispatch of the destroy signal of a tracked object that returns leaves its handle closed. -/
lemma Returns.closed {start finish : Process α} {handle : Handle} {signal : Signal}
    {event : Event} {span : List (Turn α)} {reply : Reply}
    (h : Returns start (.dispatch handle signal event) span finish reply)
    (hm : .retire handle ∈ start.registry.callbacks handle signal)
    (hn : Unrevived span handle) : Closed finish.registry handle := by
  rcases h.executing.destined hm hn with (hc | ⟨inner, frame, hf, -⟩) | ⟨-, turn, ht, hu⟩
  · exact hc
  · have hlength := congrArg List.length (h.frames_eq.symm.trans hf)
    simp only [List.length_append, List.length_cons] at hlength
    omega
  · obtain ⟨last, hlast, move, hanswered⟩ := h.answered
    rw [Option.mem_unique ht hlast, hanswered] at hu
    cases hu

/-- A closed handle has no live listener when no operation waits. -/
lemma not_live_of_closed {history : List (Turn α)} {process : Process α} {handle : Handle}
    (h : Run .initial history process) (hc : Closed process.registry handle)
    (hw : process.frames = []) (hu : NoUnwinding history) (token : Token) (signal : Signal) :
    ¬ Live history token handle signal := by
  intro hl
  rcases h.installed_or_pending_of_live hu hl with ⟨listener, hm, -, -⟩ | hm
  · have ht := h.coherent.isTracked_eq_false hc
    rw [isTracked_of_mem hm] at ht
    cases ht
  · rw [hw] at hm
    cases hm

/-- **Destruction releases everything.** When the dispatch of the destroy signal of a tracked object
has returned, its handle has no listeners and is closed, whatever the callbacks do short of
announcing the handle again. From then on, until it is announced again, nothing can be registered
or dispatched on it, and whenever no operation waits, none of its native listeners is live, unless
somebody unwound.

**Proof sketch.** While the dispatch goes on, the handle is closed or waits in its frame to be
retired (`Executing.destined`). When it returns no frame of it is left, so the handle is closed, and
it stays closed until it is announced again (`Run.closed`). In coherent tables a closed handle has
no listeners, and every registration on it is refused. -/
theorem gone_of_destroyed {history span : List (Turn α)} {start finish : Process α}
    {handle : Handle} {signal : Signal} {event : Event} {reply : Reply}
    (h : Run .initial history start)
    (hm : .retire handle ∈ start.registry.callbacks handle signal)
    (hr : Returns start (.dispatch handle signal event) span finish reply)
    (hn : Unrevived span handle) :
    (finish.registry.isTracked handle = false ∧
      (finish.registry.isRetired handle = true ∨ finish.registry.isShutDown = true)) ∧
    ∀ later last, Run finish later last → Unrevived later handle →
      Gone last handle ∧
      (last.frames = [] → NoUnwinding (later ++ (span ++ history)) →
        ∀ token signal, ¬ Live (later ++ (span ++ history)) token handle signal) := by
  have hfinish : Run .initial (span ++ history) finish := h.append hr.executing.run
  have hclosed := hr.closed hm hn
  refine ⟨⟨hfinish.coherent.isTracked_eq_false hclosed, hclosed⟩, ?_⟩
  intro later last hlater hn'
  have hlast : Run .initial (later ++ (span ++ history)) last := hfinish.append hlater
  have hclosed' := hlater.closed hn' hclosed
  refine ⟨hlast.coherent.gone hclosed', fun hw hu => ?_⟩
  exact not_live_of_closed hlast hclosed' hw hu

/-- Moves after which a registration on a tracked handle waits for its native listener. -/
def waiting (handle : Handle) : List (Move Unit) :=
  [.call (.track handle .destroy), .connected ⟨1⟩, .call (.register handle .frame ())]

/-- Moves that dispatch the destroy signal of a tracked handle and let it return. -/
def destroyed (handle : Handle) : List (Move Unit) :=
  [.call (.dispatch handle .destroy .empty), .finished]

/-- Nothing is left of a handle on which a registration waits while it is destroyed. -/
theorem gone_of_destroyed_waiting :
    let start := play .initial (waiting ⟨16⟩)
    let finish := play start.2 (destroyed ⟨16⟩)
    let last := play finish.2 [.connected ⟨2⟩, .finished]
    Callback.retire ⟨16⟩ ∈ start.2.registry.callbacks ⟨16⟩ .destroy ∧
    Returns start.2 (.dispatch ⟨16⟩ .destroy .empty) finish.1 finish.2 (.count 1) ∧
    Gone last.2 ⟨16⟩ ∧
    ∀ token signal, ¬ Live (last.1 ++ (finish.1 ++ start.1)) token ⟨16⟩ signal := by
  intro start finish last
  have hm : Callback.retire ⟨16⟩ ∈ start.2.registry.callbacks ⟨16⟩ .destroy := .head _
  have hr : Returns start.2 (.dispatch ⟨16⟩ .destroy .empty) finish.1 finish.2 (.count 1) :=
    ⟨.turn (.call (.step rfl)) (by decide) (.step rfl), rfl, _, rfl, _, rfl⟩
  obtain ⟨-, hgone⟩ := gone_of_destroyed (run_play .initial (waiting ⟨16⟩)) hm hr (by decide)
  obtain ⟨hlast, hlive⟩ := hgone last.1 last.2 (run_play finish.2 _) (by decide)
  exact ⟨hm, hr, hlast, hlive rfl (by decide)⟩

end Compositor.Registry
