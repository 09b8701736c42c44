import StatusBoard.Poller.Basic
import StatusBoard.Proofs.Board.Time

/-!
A poller and the answers that it takes in. Its board is the one that the passes of the successful
answers lead to, and what it has published is the view of that board, after every answer. So
failures leave no trace but in the metrics: deleting them from the answers changes neither the
board nor what is published nor what the passes did.
-/
namespace StatusBoard

/-- The answer to a fetch and the time at which it comes. -/
structure Arrival where
  time : Nat
  answer : Except FetchError Snapshot

/-- The pass that an arrival brings; a failure brings none. -/
def Arrival.pass? (a : Arrival) : Option Pass :=
  match a.answer with
  | .ok snapshot => some ⟨a.time, snapshot⟩
  | .error _ => none

namespace Poller

variable (r : Renderer Id)

def take (p : Poller) (a : Arrival) : Poller :=
  (p.poll r a.time a.answer).1

/-- The poller after all these arrivals. -/
def after (as : List Arrival) : Poller :=
  as.foldl (take r) .start

/-- What each of the arrivals leads to; nothing if there is no pass. -/
def outcomes (p : Poller) : List Arrival → List (Option Outcome)
  | [] => []
  | a :: rest => (p.poll r a.time a.answer).2 :: outcomes (take r p a) rest

/-- The passes of the arrivals that succeed. -/
def passes (as : List Arrival) : List Pass :=
  as.filterMap Arrival.pass?

theorem passes_cons (a : Arrival) (rest : List Arrival) :
    passes (a :: rest) = a.pass?.toList ++ passes rest := by
  rw [passes, passes, List.filterMap_cons]
  cases a.pass? <;> rfl

theorem board_take (p : Poller) (a : Arrival) :
    (take r p a).board = match a.pass? with
      | some pass => Board.advance r p.board pass
      | none => p.board := by
  obtain ⟨time, answer⟩ := a
  cases answer with
  | error e => rfl
  | ok snapshot => rfl

theorem outcome_poll (p : Poller) (a : Arrival) :
    (p.poll r a.time a.answer).2 =
      a.pass?.map fun pass => (p.board.reconcile r pass.time pass.snapshot).run.2 := by
  obtain ⟨time, answer⟩ := a
  cases answer with
  | error e => rfl
  | ok snapshot => rfl

/-- One answer keeps what is published in step with the board. -/
theorem published_take (p : Poller) (a : Arrival) (hp : p.published = (p.board.view r).run) :
    (take r p a).published = ((take r p a).board.view r).run := by
  obtain ⟨time, answer⟩ := a
  cases answer with
  | error e => exact hp
  | ok snapshot => rfl

theorem board_foldl_take (p : Poller) (as : List Arrival) :
    (as.foldl (take r) p).board = (passes as).foldl (Board.advance r) p.board := by
  induction as generalizing p with
  | nil => rfl
  | cons a rest ih =>
    rw [List.foldl_cons, ih, board_take, passes_cons]
    cases a.pass? <;> rfl

theorem board_after (as : List Arrival) : (after r as).board = Board.after r (passes as) :=
  board_foldl_take r .start as

theorem filterMap_outcomes (p : Poller) (as : List Arrival) :
    (outcomes r p as).filterMap id = Board.outcomes r p.board (passes as) := by
  induction as generalizing p with
  | nil => rfl
  | cons a rest ih =>
    rw [outcomes, List.filterMap_cons, ih, outcome_poll, board_take, passes_cons]
    cases a.pass? <;> rfl

theorem published_foldl_take (p : Poller) (as : List Arrival)
    (hp : p.published = (p.board.view r).run) :
    (as.foldl (take r) p).published = ((as.foldl (take r) p).board.view r).run := by
  induction as generalizing p with
  | nil => exact hp
  | cons a rest ih => exact ih (take r p a) (published_take r p a hp)

theorem published_after (as : List Arrival) :
    (after r as).published = ((after r as).board.view r).run :=
  published_foldl_take r .start as rfl

theorem isNone_outcomes (p : Poller) (as : List Arrival) :
    (outcomes r p as).map Option.isNone = as.map (!·.answer.isOk) := by
  induction as generalizing p with
  | nil => rfl
  | cons a rest ih =>
    rw [outcomes, List.map_cons, List.map_cons, ih, outcome_poll]
    obtain ⟨time, answer⟩ := a
    cases answer <;> rfl

theorem length_passes (as : List Arrival) :
    (passes as).length = as.countP (·.answer.isOk) := by
  induction as with
  | nil => rfl
  | cons a rest ih =>
    obtain ⟨time, answer⟩ := a
    cases answer with
    | error e => exact ih
    | ok snapshot =>
      rw [List.countP_cons_of_pos rfl, ← ih]
      rfl

/-- The snapshots of the passes are a matter of the answers alone. -/
theorem snapshots_passes (as : List Arrival) :
    (passes as).map (·.snapshot) = (as.map (·.answer)).filterMap Except.toOption := by
  induction as with
  | nil => rfl
  | cons a rest ih =>
    obtain ⟨time, answer⟩ := a
    cases answer with
    | error e => exact ih
    | ok snapshot => exact congrArg (List.cons snapshot) ih

theorem filterMap_filter_isOk (answers : List (Except FetchError Snapshot)) :
    (answers.filter (·.isOk)).filterMap Except.toOption = answers.filterMap Except.toOption := by
  induction answers with
  | nil => rfl
  | cons answer rest ih =>
    cases answer with
    | error e => exact ih
    | ok snapshot => exact congrArg (List.cons snapshot) ih

/-- Failures leave no trace, and what is published is always the view of the board. -/
theorem failures_leave_no_trace (as : List Arrival) :
    (∀ bs : List Arrival, bs.map (·.answer) = (as.map (·.answer)).filter (·.isOk) →
      (after r as).board.untimed = (after r bs).board.untimed ∧
        (after r as).published.untimed = (after r bs).published.untimed ∧
        (outcomes r .start as).filterMap id = (outcomes r .start bs).filterMap id) ∧
      (outcomes r .start as).map Option.isNone = as.map (!·.answer.isOk) ∧
      (after r as).published = ((after r as).board.view r).run ∧
      (after r as).published.passes = as.countP (·.answer.isOk) ∧
      ((∀ a ∈ as, a.answer.isOk = false) → (after r as).published = .empty) := by
  have hpasses : (after r as).published.passes = as.countP (·.answer.isOk) := by
    rw [published_after, board_after]
    exact (Board.passes_after r (passes as)).trans (length_passes as)
  refine ⟨?_, isNone_outcomes r .start as, published_after r as, hpasses, ?_⟩
  · intro bs hbs
    have hsnapshots : (passes as).map (·.snapshot) = (passes bs).map (·.snapshot) := by
      rw [snapshots_passes, snapshots_passes, hbs, filterMap_filter_isOk]
    obtain ⟨hboard, houtcomes⟩ := Board.untimed_after_congr r (passes as) (passes bs) hsnapshots
    refine ⟨?_, ?_, ?_⟩
    · rw [board_after, board_after, hboard]
    · rw [published_after, published_after, board_after, board_after, ← Board.view_untimed,
        ← Board.view_untimed, hboard]
    · rw [filterMap_outcomes, filterMap_outcomes]
      exact houtcomes
  · intro hfail
    have hnone : passes as = [] := by
      refine List.filterMap_eq_nil_iff.mpr fun a ha => ?_
      obtain ⟨time, answer⟩ := a
      cases answer with
      | error e => rfl
      | ok snapshot => exact Bool.noConfusion (hfail _ ha)
    rw [published_after, board_after, hnone]
    rfl

end Poller

end StatusBoard
