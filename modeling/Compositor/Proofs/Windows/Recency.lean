import Compositor.Proofs.Windows.Agreement
import Mathlib.Data.List.Induction
import Mathlib.Data.List.Pairwise
import Mathlib.Tactic.Common

set_option autoImplicit false

/-!
# Most recently promoted first

The focus stack is kept by five operations, most of which may do nothing: a window may be stacked
already, it may not be stacked, or it may have no record. This module says what the stack is in
terms of the history of operations alone. A window is stacked by the last push that had an effect,
if nothing has taken it off since. The windows that were moved to the front since then come first,
the latest one in front; behind them stand the others, in the order in which they were pushed.

Operations are counted from zero. Whether an operation has an effect depends on the table that it
finds, which is the one that the operations before it lead to.

## Main definitions

* `WindowTable.Operation`, `WindowTable.applyAll` — operations, and the table they lead to.
* `WindowTable.Pushes`, `WindowTable.Removes`, `WindowTable.Promotes` — the effects on a window.
* `WindowTable.Occurs`, `WindowTable.OccursLast` — when something happens, and is not ended since.
* `WindowTable.StackedAt`, `WindowTable.PromotedAt`, `WindowTable.RecordedAt` — when a window was
  stacked, promoted and recorded.
* `WindowTable.Ranked` — the stack in two parts, each ordered by when something happened.

## Main results

* `WindowTable.exists_ranked` — the stack is always ranked.
* `WindowTable.get?_applyAll_iff` — the records that there are.
* `WindowTable.most_recently_promoted_first` — the stack and its records told from the history.
-/

namespace Compositor.WindowTable

/-! ## Histories -/

/-- An operation on the table of windows. -/
inductive Operation where
  /-- Adds a record. -/
  | insert (window : Window)
  /-- Drops a record and its place in the stack. -/
  | destroy (id : WindowId)
  /-- Stacks a window at the back. -/
  | push (id : WindowId)
  /-- Takes a window off the stack. -/
  | unstack (id : WindowId)
  /-- Moves a window to the front. -/
  | moveToFront (id : WindowId)

/-- Carries an operation out. -/
def apply (table : WindowTable) : Operation → WindowTable
  | .insert window => table.insert window
  | .destroy id => table.destroy id
  | .push id => table.push id
  | .unstack id => table.unstack id
  | .moveToFront id => table.moveToFront id

/-- The table that operations lead to from the empty one. -/
def applyAll (operations : List Operation) : WindowTable :=
  operations.foldl apply empty

/-- An operation stacks a window: it is pushed and was not stacked. -/
def Pushes (id : WindowId) (table : WindowTable) (operation : Operation) : Prop :=
  operation = .push id ∧ id ∉ table.stack

/-- An operation takes a window off the stack: it is unstacked or destroyed and was stacked. -/
def Removes (id : WindowId) (table : WindowTable) (operation : Operation) : Prop :=
  (operation = .unstack id ∨ operation = .destroy id) ∧ id ∈ table.stack

/-- An operation promotes a window: it is moved to the front and was stacked, be it in front. -/
def Promotes (id : WindowId) (table : WindowTable) (operation : Operation) : Prop :=
  operation = .moveToFront id ∧ id ∈ table.stack

/-- The operation at a given time is of some kind, which may depend on the table that it finds. -/
def Occurs (kind : WindowTable → Operation → Prop) (operations : List Operation) (t : ℕ) : Prop :=
  ∃ operation, operations[t]? = some operation ∧ kind (applyAll (operations.take t)) operation

/-- The operation at a given time is of some kind, and none after it is of the kind that ends what
it did. -/
def OccursLast (kind ending : WindowTable → Operation → Prop) (operations : List Operation)
    (t : ℕ) : Prop :=
  Occurs kind operations t ∧ ∀ s, t < s → ¬ Occurs ending operations s

/-- A window was stacked by the last push that had an effect, and not taken off since. -/
def StackedAt (id : WindowId) (operations : List Operation) (t : ℕ) : Prop :=
  OccursLast (Pushes id) (fun table operation => Pushes id table operation ∨
    Removes id table operation) operations t

/-- A window was promoted for the last time, since it was stacked. -/
def PromotedAt (id : WindowId) (operations : List Operation) (t : ℕ) : Prop :=
  OccursLast (Promotes id) (Promotes id) operations t ∧ ∃ s < t, StackedAt id operations s

/-- A record was added, and neither replaced nor dropped since. -/
def RecordedAt (window : Window) (operations : List Operation) (t : ℕ) : Prop :=
  OccursLast (fun _ operation => operation = .insert window)
    (fun _ operation => operation = .destroy window.id ∨
      ∃ other : Window, operation = .insert other ∧ other.id = window.id) operations t

variable {operations : List Operation} {operation : Operation} {table : WindowTable}
  {id other : WindowId} {kind ending : WindowTable → Operation → Prop}
  {promoted others : List WindowId} {t : ℕ}

/-! ## One more operation -/

/-- One more operation is applied to what the others lead to. -/
lemma applyAll_concat (operations : List Operation) (operation : Operation) :
    applyAll (operations ++ [operation]) = (applyAll operations).apply operation := by
  simp [applyAll]

/-- What occurs is one of the operations. -/
lemma Occurs.lt_length (h : Occurs kind operations t) : t < operations.length := by
  obtain ⟨operation, ho, -⟩ := h
  exact (List.getElem?_eq_some_iff.1 ho).1

/-- The last operation happens when all the others are over. -/
lemma occurs_concat : Occurs kind (operations ++ [operation]) t ↔
    Occurs kind operations t ∨ t = operations.length ∧ kind (applyAll operations) operation := by
  rcases Nat.lt_trichotomy t operations.length with ht | rfl | ht
  · have htake : (operations ++ [operation]).take t = operations.take t :=
      List.take_append_of_le_length (Nat.le_of_lt ht)
    simp [Occurs, htake, List.getElem?_append_left ht, Nat.ne_of_lt ht]
  · simp [Occurs]
  · have hnone : (operations ++ [operation])[t]? = none := by
      rw [List.getElem?_eq_none_iff, List.length_append, List.length_singleton]
      omega
    simp [Occurs, hnone, List.getElem?_eq_none_iff.2 (Nat.le_of_lt ht), Nat.ne_of_gt ht]

/-- What occurred last either did so before and is not ended by the last operation, or is that
operation. -/
lemma occursLast_concat : OccursLast kind ending (operations ++ [operation]) t ↔
    (OccursLast kind ending operations t ∧ ¬ ending (applyAll operations) operation) ∨
      t = operations.length ∧ kind (applyAll operations) operation := by
  unfold OccursLast
  constructor
  · rintro ⟨hkind, hend⟩
    rcases occurs_concat.1 hkind with hold | hnew
    · refine .inl ⟨⟨hold, fun s hs he => ?_⟩, fun he => ?_⟩
      · exact hend s hs (occurs_concat.2 (.inl he))
      · exact hend _ hold.lt_length (occurs_concat.2 (.inr ⟨rfl, he⟩))
    · exact .inr hnew
  · rintro (⟨⟨hkind, hend⟩, hlast⟩ | ⟨rfl, hkind⟩)
    · refine ⟨occurs_concat.2 (.inl hkind), fun s hs he => ?_⟩
      rcases occurs_concat.1 he with hold | ⟨-, hnew⟩
      · exact hend s hs hold
      · exact hlast hnew
    · refine ⟨occurs_concat.2 (.inr ⟨rfl, hkind⟩), fun s hs he => ?_⟩
      have hlt := he.lt_length
      rw [List.length_append, List.length_singleton] at hlt
      omega

/-! ## Effects -/

/-- The window that an operation is about. -/
def Operation.subject : Operation → WindowId
  | .insert window => window.id
  | .destroy id | .push id | .unstack id | .moveToFront id => id

/-- An operation has an effect on a window's place in the stack. -/
def Concerns (id : WindowId) (table : WindowTable) (operation : Operation) : Prop :=
  Pushes id table operation ∨ Removes id table operation ∨ Promotes id table operation

/-- An operation concerns the window that it is about. -/
lemma Concerns.subject_eq (h : Concerns id table operation) : operation.subject = id := by
  rcases h with ⟨rfl, -⟩ | ⟨rfl | rfl, -⟩ | ⟨rfl, -⟩ <;> rfl

/-- What an operation does to the stack: nothing, or it stacks, takes off or promotes the window
that it is about. -/
lemma apply_cases (table : WindowTable) (operation : Operation) (h : operation.subject = id) :
    (¬ Concerns id table operation ∧ (table.apply operation).stack = table.stack) ∨
    (Pushes id table operation ∧ (table.apply operation).stack = table.stack ++ [id]) ∨
    (Removes id table operation ∧ (table.apply operation).stack = table.stack.erase id) ∨
    (Promotes id table operation ∧
      (table.apply operation).stack = id :: table.stack.erase id) := by
  subst h
  unfold Concerns Pushes Removes Promotes
  by_cases hs : operation.subject ∈ table.stack
  · cases operation <;> simp_all [Operation.subject, apply, push, unstack, moveToFront, stacked]
  · cases operation <;> simp_all [Operation.subject, apply, push, unstack, moveToFront, stacked]

/-! ## The stack in two parts -/

/-- The stack has two parts. In the first are the windows that were promoted, the latest promotion
in front; in the second are the others, in the order in which they were stacked. -/
structure Ranked (operations : List Operation) (promoted others : List WindowId) : Prop where
  /-- The parts make up the stack. -/
  stack_eq : (applyAll operations).stack = promoted ++ others
  /-- No window is stacked twice. -/
  nodup : (promoted ++ others).Nodup
  /-- The first part has the windows that were promoted. -/
  mem_promoted (id : WindowId) : id ∈ promoted ↔ ∃ t, PromotedAt id operations t
  /-- The second part has those that were stacked and not promoted. -/
  mem_others (id : WindowId) : id ∈ others ↔
    (∃ t, StackedAt id operations t) ∧ ¬ ∃ t, PromotedAt id operations t
  /-- The later a window was promoted, the further it is in front. -/
  promoted_sorted : promoted.Pairwise fun id other =>
    ∀ s t, PromotedAt id operations s → PromotedAt other operations t → t < s
  /-- The earlier a window was stacked, the further it is in front. -/
  others_sorted : others.Pairwise fun id other =>
    ∀ s t, StackedAt id operations s → StackedAt other operations t → s < t

/-- When a window was stacked does not change by what does not concern it. -/
lemma stackedAt_concat_of_not_concerns (h : ¬ Concerns id (applyAll operations) operation) :
    StackedAt id (operations ++ [operation]) t ↔ StackedAt id operations t := by
  unfold Concerns at h
  rw [StackedAt, occursLast_concat, ← StackedAt]
  tauto

/-- When a window was promoted does not change by what does not concern it. -/
lemma promotedAt_concat_of_not_concerns (h : ¬ Concerns id (applyAll operations) operation) :
    PromotedAt id (operations ++ [operation]) t ↔ PromotedAt id operations t := by
  have hp : ¬ Promotes id (applyAll operations) operation := fun hp => h (.inr (.inr hp))
  simp only [PromotedAt, stackedAt_concat_of_not_concerns h, occursLast_concat, hp,
    not_false_eq_true, and_true, and_false, or_false]

/-- A window was stacked by one of the operations. -/
lemma StackedAt.lt_length (h : StackedAt id operations t) : t < operations.length :=
  h.1.lt_length

/-- A window was promoted by one of the operations. -/
lemma PromotedAt.lt_length (h : PromotedAt id operations t) : t < operations.length :=
  h.1.1.lt_length

/-- A window that is pushed was stacked just now. -/
lemma stackedAt_concat_of_pushes (h : Pushes id (applyAll operations) operation) :
    StackedAt id (operations ++ [operation]) t ↔ t = operations.length := by
  simp [StackedAt, occursLast_concat, h]

/-- A window that was just stacked is not promoted yet. -/
lemma not_promotedAt_concat_of_pushes (h : Pushes id (applyAll operations) operation) :
    ¬ PromotedAt id (operations ++ [operation]) t := by
  intro hp
  obtain ⟨s, hlt, hs⟩ := hp.2
  have ht := hp.lt_length
  rw [stackedAt_concat_of_pushes h] at hs
  rw [List.length_append, List.length_singleton] at ht
  omega

/-- A window that is taken off is not stacked. -/
lemma not_stackedAt_concat_of_removes (h : Removes id (applyAll operations) operation) :
    ¬ StackedAt id (operations ++ [operation]) t := by
  have hp : ¬ Pushes id (applyAll operations) operation := fun hp => hp.2 h.2
  simp [StackedAt, occursLast_concat, h, hp]

/-- A promotion does not change when a window was stacked. -/
lemma stackedAt_concat_of_promotes (h : Promotes id (applyAll operations) operation) :
    StackedAt id (operations ++ [operation]) t ↔ StackedAt id operations t := by
  obtain ⟨rfl, hs⟩ := h
  simp [StackedAt, occursLast_concat, Pushes, Removes]

/-- A window that was just promoted was not promoted later. -/
lemma promotedAt_concat_of_promotes (h : Promotes id (applyAll operations) operation)
    (hs : ∃ s, StackedAt id operations s) :
    PromotedAt id (operations ++ [operation]) t ↔ t = operations.length := by
  simp only [PromotedAt, occursLast_concat, h, not_true_eq_false, and_false, and_true, false_or,
    stackedAt_concat_of_promotes h, and_iff_left_iff_imp]
  rintro rfl
  obtain ⟨s, hs⟩ := hs
  exact ⟨s, hs.lt_length, hs⟩

namespace Ranked

variable (r : Ranked operations promoted others)

include r

/-- The stack has the windows that were stacked and not taken off. -/
lemma mem_stack (id : WindowId) :
    id ∈ (applyAll operations).stack ↔ ∃ t, StackedAt id operations t := by
  rw [r.stack_eq, List.mem_append, r.mem_promoted, r.mem_others]
  constructor
  · rintro (⟨t, -, s, -, hs⟩ | ⟨hs, -⟩)
    · exact ⟨s, hs⟩
    · exact hs
  · intro hs
    by_cases hp : ∃ t, PromotedAt id operations t
    · exact .inl hp
    · exact .inr ⟨hs, hp⟩

/-- Windows that an operation does not concern stay in their order. -/
lemma promoted_sorted_concat {ids : List WindowId} (hsub : ids.Sublist promoted)
    (hn : ∀ id ∈ ids, ¬ Concerns id (applyAll operations) operation) :
    ids.Pairwise fun id other => ∀ s t, PromotedAt id (operations ++ [operation]) s →
      PromotedAt other (operations ++ [operation]) t → t < s := by
  refine (r.promoted_sorted.sublist hsub).imp_of_mem fun hid hother h s t hs ht => ?_
  rw [promotedAt_concat_of_not_concerns (hn _ hid)] at hs
  rw [promotedAt_concat_of_not_concerns (hn _ hother)] at ht
  exact h s t hs ht

/-- Windows that an operation does not concern stay in the order in which they were stacked. -/
lemma others_sorted_concat {ids : List WindowId} (hsub : ids.Sublist others)
    (hn : ∀ id ∈ ids, ¬ Concerns id (applyAll operations) operation) :
    ids.Pairwise fun id other => ∀ s t, StackedAt id (operations ++ [operation]) s →
      StackedAt other (operations ++ [operation]) t → s < t := by
  refine (r.others_sorted.sublist hsub).imp_of_mem fun hid hother h s t hs ht => ?_
  rw [stackedAt_concat_of_not_concerns (hn _ hid)] at hs
  rw [stackedAt_concat_of_not_concerns (hn _ hother)] at ht
  exact h s t hs ht

/-- What does not concern a window does not change whether it was promoted. -/
lemma mem_promoted_concat (hn : ¬ Concerns id (applyAll operations) operation) :
    id ∈ promoted ↔ ∃ t, PromotedAt id (operations ++ [operation]) t := by
  simp only [promotedAt_concat_of_not_concerns hn, r.mem_promoted]

/-- What does not concern a window does not change whether it is among the others. -/
lemma mem_others_concat (hn : ¬ Concerns id (applyAll operations) operation) :
    id ∈ others ↔ (∃ t, StackedAt id (operations ++ [operation]) t) ∧
      ¬ ∃ t, PromotedAt id (operations ++ [operation]) t := by
  simp only [promotedAt_concat_of_not_concerns hn, stackedAt_concat_of_not_concerns hn,
    r.mem_others]

/-- An operation without effect. -/
lemma idle (hn : ∀ id, ¬ Concerns id (applyAll operations) operation)
    (hs : ((applyAll operations).apply operation).stack = (applyAll operations).stack) :
    Ranked (operations ++ [operation]) promoted others where
  stack_eq := by rw [applyAll_concat, hs, r.stack_eq]
  nodup := r.nodup
  mem_promoted id := r.mem_promoted_concat (hn id)
  mem_others id := r.mem_others_concat (hn id)
  promoted_sorted := r.promoted_sorted_concat (List.Sublist.refl _) fun id _ => hn id
  others_sorted := r.others_sorted_concat (List.Sublist.refl _) fun id _ => hn id

section Effective

variable (hn : ∀ other, other ≠ id → ¬ Concerns other (applyAll operations) operation)

include hn

/-- A window that is stacked goes behind all others. -/
lemma pushed (hp : Pushes id (applyAll operations) operation)
    (hs : ((applyAll operations).apply operation).stack = (applyAll operations).stack ++ [id]) :
    Ranked (operations ++ [operation]) promoted (others ++ [id]) := by
  have hnew := hp.2
  rw [r.stack_eq, List.mem_append, not_or] at hnew
  have hkept {ids : List WindowId} (hid : id ∉ ids) (other : WindowId) (ho : other ∈ ids) :
      ¬ Concerns other (applyAll operations) operation := hn other fun he => hid (he ▸ ho)
  refine ⟨?_, ?_, fun other => ?_, fun other => ?_, ?_, ?_⟩
  · rw [applyAll_concat, hs, r.stack_eq, List.append_assoc]
  · rw [← List.append_assoc]
    refine r.nodup.append (List.nodup_singleton id) (List.disjoint_singleton.2 ?_)
    simp [hnew]
  · by_cases ho : other = id
    · subst ho
      simp [hnew, not_promotedAt_concat_of_pushes hp]
    · exact r.mem_promoted_concat (hn other ho)
  · by_cases ho : other = id
    · subst ho
      simp [stackedAt_concat_of_pushes hp, not_promotedAt_concat_of_pushes hp]
    · simp only [List.mem_append, List.mem_singleton, ho, or_false]
      exact r.mem_others_concat (hn other ho)
  · exact r.promoted_sorted_concat (List.Sublist.refl _) (hkept hnew.1)
  · refine List.pairwise_append.2 ⟨r.others_sorted_concat (List.Sublist.refl _) (hkept hnew.2),
      List.pairwise_singleton _ _, fun other ho last hlast s t hfirst hsecond => ?_⟩
    obtain rfl := List.mem_singleton.1 hlast
    rw [stackedAt_concat_of_not_concerns (hkept hnew.2 other ho)] at hfirst
    rw [stackedAt_concat_of_pushes hp] at hsecond
    rw [hsecond]
    exact hfirst.lt_length

omit r in
/-- An operation on a window does not concern those that are not it. -/
lemma not_concerns_of_mem_filter {ids : List WindowId} (ho : other ∈ ids.filter (· != id)) :
    ¬ Concerns other (applyAll operations) operation :=
  hn other (by simpa using List.of_mem_filter ho)

/-- The first part keeps all windows but the one that the operation is about. -/
lemma mem_promoted_filter (ho : other ≠ id) : other ∈ promoted.filter (· != id) ↔
    ∃ t, PromotedAt other (operations ++ [operation]) t := by
  rw [← r.mem_promoted_concat (hn other ho), List.mem_filter]
  simp [ho]

/-- The second part keeps all windows but the one that the operation is about. -/
lemma mem_others_filter (ho : other ≠ id) : other ∈ others.filter (· != id) ↔
    (∃ t, StackedAt other (operations ++ [operation]) t) ∧
      ¬ ∃ t, PromotedAt other (operations ++ [operation]) t := by
  rw [← r.mem_others_concat (hn other ho), List.mem_filter]
  simp [ho]

/-- A window that is taken off leaves the others in their order. -/
lemma removed (hr : Removes id (applyAll operations) operation)
    (hs : ((applyAll operations).apply operation).stack = (applyAll operations).stack.erase id) :
    Ranked (operations ++ [operation]) (promoted.filter (· != id)) (others.filter (· != id)) := by
  have hstacked (t : ℕ) := not_stackedAt_concat_of_removes (t := t) hr
  have hpromoted (t : ℕ) : ¬ PromotedAt id (operations ++ [operation]) t :=
    fun ⟨_, s, _, h⟩ => hstacked s h
  refine ⟨?_, ?_, fun other => ?_, fun other => ?_, ?_, ?_⟩
  · rw [applyAll_concat, hs, r.stack_eq, r.nodup.erase_eq_filter, List.filter_append]
  · rw [← List.filter_append]
    exact r.nodup.filter _
  · by_cases ho : other = id
    · subst ho
      simp [hpromoted]
    · exact r.mem_promoted_filter hn ho
  · by_cases ho : other = id
    · subst ho
      simp [hstacked]
    · exact r.mem_others_filter hn ho
  · exact r.promoted_sorted_concat List.filter_sublist fun _ => not_concerns_of_mem_filter hn
  · exact r.others_sorted_concat List.filter_sublist fun _ => not_concerns_of_mem_filter hn

/-- A window that is promoted goes before all others. -/
lemma fronted (hp : Promotes id (applyAll operations) operation)
    (hs : ((applyAll operations).apply operation).stack =
      id :: (applyAll operations).stack.erase id) :
    Ranked (operations ++ [operation]) (id :: promoted.filter (· != id))
      (others.filter (· != id)) := by
  have hpromoted (t : ℕ) :=
    promotedAt_concat_of_promotes (t := t) hp ((r.mem_stack id).1 hp.2)
  refine ⟨?_, ?_, fun other => ?_, fun other => ?_, ?_, ?_⟩
  · rw [applyAll_concat, hs, r.stack_eq, r.nodup.erase_eq_filter, List.filter_append,
      List.cons_append]
  · rw [List.cons_append, ← List.filter_append]
    exact (r.nodup.filter _).cons (by simp)
  · by_cases ho : other = id
    · subst ho
      simp [hpromoted]
    · rw [List.mem_cons, or_iff_right ho]
      exact r.mem_promoted_filter hn ho
  · by_cases ho : other = id
    · subst ho
      simp [hpromoted]
    · exact r.mem_others_filter hn ho
  · refine List.pairwise_cons.2 ⟨fun other ho s t hfirst hsecond => ?_,
      r.promoted_sorted_concat List.filter_sublist fun _ => not_concerns_of_mem_filter hn⟩
    rw [hpromoted] at hfirst
    rw [promotedAt_concat_of_not_concerns (not_concerns_of_mem_filter hn ho)] at hsecond
    rw [hfirst]
    exact hsecond.lt_length
  · exact r.others_sorted_concat List.filter_sublist fun _ => not_concerns_of_mem_filter hn

end Effective

end Ranked

/-- **The stack is always ranked.** -/
theorem exists_ranked (operations : List Operation) :
    ∃ promoted others, Ranked operations promoted others := by
  induction operations using List.reverseRecOn with
  | nil =>
    have hnever (kind : WindowTable → Operation → Prop) (t : ℕ) : ¬ Occurs kind [] t :=
      fun h => Nat.not_lt_zero t h.lt_length
    exact ⟨[], [], rfl, List.nodup_nil, by simp [PromotedAt, OccursLast, hnever],
      by simp [StackedAt, OccursLast, hnever], .nil, .nil⟩
  | append_singleton operations operation ih =>
    obtain ⟨promoted, others, r⟩ := ih
    have hn (other : WindowId) (ho : other ≠ operation.subject) :
        ¬ Concerns other (applyAll operations) operation := fun h => ho h.subject_eq.symm
    rcases apply_cases (applyAll operations) operation rfl with ⟨hc, hs⟩ | ⟨hp, hs⟩ | ⟨hr, hs⟩ |
      ⟨hp, hs⟩
    · refine ⟨_, _, r.idle (fun id h => ?_) hs⟩
      obtain rfl := h.subject_eq
      exact hc h
    · exact ⟨_, _, r.pushed hn hp hs⟩
    · exact ⟨_, _, r.removed hn hr hs⟩
    · exact ⟨_, _, r.fronted hn hp hs⟩

/-! ## Records -/

/-- A record is there if it was just inserted, or was there and is neither dropped nor replaced. -/
lemma exists_recordedAt_concat (window : Window) :
    (∃ t, RecordedAt window (operations ++ [operation]) t) ↔
      ((∃ t, RecordedAt window operations t) ∧ operation ≠ .destroy window.id ∧
        ∀ other : Window, operation = .insert other → other.id ≠ window.id) ∨
      operation = .insert window := by
  simp only [RecordedAt, occursLast_concat, exists_or, exists_and_right, exists_eq, true_and,
    not_or, not_exists, not_and]

/-- **The records that there are** are those that were added, and neither replaced nor dropped. -/
theorem get?_applyAll_iff {window : Window} : (applyAll operations).get? id = some window ↔
    window.id = id ∧ ∃ t, RecordedAt window operations t := by
  induction operations using List.reverseRecOn with
  | nil => simp [applyAll, RecordedAt, OccursLast, Occurs]
  | append_singleton operations operation ih =>
    rw [applyAll_concat, exists_recordedAt_concat]
    cases operation with
    | insert added =>
      have hinsert : (∀ other : Window, Operation.insert added = .insert other →
          other.id ≠ window.id) ↔ added.id ≠ window.id := by simp
      rw [apply, get?_insert, hinsert, Operation.insert.injEq]
      split <;> rename_i hid
      · subst hid
        grind
      · rw [ih]
        grind
    | destroy gone =>
      rw [apply, get?_destroy]
      split <;> rename_i hid
      · subst hid
        simp only [reduceCtorEq, false_iff]
        grind
      · rw [ih]
        grind
    | push pushed => simp [apply, ih]
    | unstack gone => simp [apply, ih]
    | moveToFront moved => simp [apply, ih]

/-! ## The law -/

/-- **Most recently promoted first.** Whatever operations are carried out on the empty table, the
stack has just the windows whose last effective push was followed by no effective removal, each
once. Those that were promoted since then come first, the latest promotion in front; behind them are
the others, in the order of their last effective push. Going through the stack yields, in the same
order, the records that were added and neither replaced nor dropped.

**Proof sketch.** Induction on the history, one operation at its end. An operation without effect
changes neither the stack nor the time at which anything happened. One with an effect changes these
for a single window, which goes to the back, leaves, or goes to the front; the others keep both
their order and their times, and all of these are earlier than now. -/
theorem most_recently_promoted_first (operations : List Operation) :
    let table := applyAll operations
    table.stack.Nodup ∧
    (∀ id, id ∈ table.stack ↔ ∃ t, StackedAt id operations t) ∧
    (∃ promoted others, table.stack = promoted ++ others ∧
      (∀ id ∈ promoted, ∃ t, PromotedAt id operations t) ∧
      (∀ id ∈ others, ¬ ∃ t, PromotedAt id operations t) ∧
      (promoted.Pairwise fun id other =>
        ∀ s t, PromotedAt id operations s → PromotedAt other operations t → t < s) ∧
      others.Pairwise fun id other =>
        ∀ s t, StackedAt id operations s → StackedAt other operations t → s < t) ∧
    table.stackedWindows = table.stack.filterMap table.get? ∧
    ∀ id window, table.get? id = some window ↔
      window.id = id ∧ ∃ t, RecordedAt window operations t := by
  intro table
  obtain ⟨promoted, others, r⟩ := exists_ranked operations
  refine ⟨?_, r.mem_stack, ⟨promoted, others, r.stack_eq, ?_, ?_, r.promoted_sorted,
    r.others_sorted⟩, rfl, fun _ _ => get?_applyAll_iff⟩
  · show (applyAll operations).stack.Nodup
    rw [r.stack_eq]
    exact r.nodup
  · exact fun id hid => (r.mem_promoted id).1 hid
  · exact fun id hid => ((r.mem_others id).1 hid).2

/-- The second and the third window were promoted, in this order, and the first one was not. To push
the third one again has no effect, and the fourth one is not stacked. -/
example : (applyAll [.push ⟨1⟩, .push ⟨2⟩, .push ⟨3⟩, .moveToFront ⟨2⟩, .moveToFront ⟨3⟩,
    .push ⟨3⟩, .push ⟨4⟩, .unstack ⟨4⟩, .moveToFront ⟨4⟩]).stack = [⟨3⟩, ⟨2⟩, ⟨1⟩] := by
  decide

end Compositor.WindowTable
