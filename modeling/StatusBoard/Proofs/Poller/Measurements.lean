import StatusBoard.Proofs.Board.Order
import StatusBoard.Proofs.Poller.Failures
import Mathlib.Algebra.Ring.Nat
import Mathlib.Data.Finset.Card

/-!
What a poller has measured. Its counters add up over all answers that it took in, and its gauges
hold what the last pass found; the two agree with each other, with the board and with the snapshots.
One answer keeps them in step, hence so does every sequence of answers. A measurement that was
never touched counts as zero.
-/
namespace StatusBoard

namespace Board

variable (r : Renderer Id)

/-- A pass creates or updates for each service of its snapshot. -/
theorem length_outcome (now : Nat) (b : Board) (snapshot : Snapshot) :
    (b.reconcile r now snapshot).run.2.creates.length +
      (b.reconcile r now snapshot).run.2.updates.length = snapshot.services.length := by
  have hperm := (Plan.split_perm b.contains [] snapshot.ranked).trans snapshot.ranked_perm
  have hlength := hperm.length_eq
  rw [List.length_append] at hlength
  exact hlength

/-- A pass makes the board larger by what it creates. -/
theorem size_advance (h : List Pass) (p : Pass) :
    (advance r (after r h) p).size = (after r h).size +
      ((after r h).reconcile r p.time p.snapshot).run.2.creates.length := by
  have hbefore := (sound_after (r := r) h).size_eq
  have hafter := ((sound_after (r := r) h).advance p).size_eq
  rw [hafter, order_advance, List.length_append, List.length_map, hbefore]

/-- The names that the snapshots of a history list. -/
def names (h : List Pass) : Finset String :=
  (h.flatMap fun p => p.snapshot.services.map (·.name)).toFinset

theorem mem_names (h : List Pass) (x : String) :
    x ∈ names h ↔ ∃ p ∈ h, p.snapshot.Lists x := by
  simp [names, Snapshot.Lists]

/-- There are as many entries as names. -/
theorem size_after (h : List Pass) : (after r h).size = (names h).card := by
  have hsound := sound_after (r := r) h
  have hset : (after r h).order.toFinset = names h := by
    ext x
    rw [List.mem_toFinset, mem_order_after_iff, mem_names]
  rw [hsound.size_eq, ← hset, List.toFinset_card_of_nodup hsound.order_nodup]

end Board

namespace Poller

variable (r : Renderer Id)

theorem after_concat (as : List Arrival) (a : Arrival) :
    after r (as ++ [a]) = take r (after r as) a := by
  rw [after, List.foldl_append]
  rfl

theorem passes_concat (as : List Arrival) (a : Arrival) :
    passes (as ++ [a]) = passes as ++ a.pass?.toList := by
  have hlast : passes [a] = a.pass?.toList := by
    rw [passes_cons]
    exact List.append_nil _
  rw [passes, List.filterMap_append]
  exact congrArg _ hlast

/-- The counts of the last pass, none before the first one. -/
def lastCounts (h : List Pass) : Counts :=
  match h.getLast? with
  | some p => .ofServices p.snapshot.services
  | none => .zero

theorem total_lastCounts (h : List Pass) :
    (lastCounts h).total =
      (lastCounts h).healthy + (lastCounts h).unhealthy + (lastCounts h).unknown := by
  unfold lastCounts
  split
  · rename_i p _
    have htotal := Counts.total_ofServices p.snapshot.services
    omega
  · rfl

/-- Measurements that fit the answers that a poller took in and its board. -/
structure Measured (as : List Arrival) (p : Poller) : Prop where
  fetches_ok : p.metrics.fetchesOk.getD 0 = as.countP (·.answer.isOk)
  fetches_failed : p.metrics.fetchesFailed.getD 0 = as.countP (!·.answer.isOk)
  fetches_timed : p.metrics.fetchesTimed.getD 0 =
    p.metrics.fetchesOk.getD 0 + p.metrics.fetchesFailed.getD 0
  creates : p.metrics.creates.getD 0 = p.metrics.entries.getD 0
  entries : p.metrics.entries.getD 0 = p.board.size
  actions : p.metrics.creates.getD 0 + p.metrics.updates.getD 0 =
    ((passes as).map (·.snapshot.services.length)).sum
  services : p.metrics.services.getD .zero = lastCounts (passes as)

theorem metrics_take_ok (p : Poller) (time : Nat) (snapshot : Snapshot) :
    (take r p ⟨time, .ok snapshot⟩).metrics =
      (p.metrics.recordFetch true).recordPass (p.board.reconcile r time snapshot).run.2
        (Board.advance r p.board ⟨time, snapshot⟩).size := rfl

theorem getD_increased (counter : Option Nat) (n : Nat) :
    (Metrics.increased counter n).getD 0 = counter.getD 0 + n := rfl

/-- A failure is counted and timed, and nothing else. -/
theorem Measured.fail {as : List Arrival} {p : Poller} (hp : Measured as p) (time : Nat)
    (e : FetchError) :
    Measured (as ++ [⟨time, .error e⟩]) { p with metrics := p.metrics.recordFetch false } := by
  have hpasses : passes (as ++ [⟨time, .error e⟩]) = passes as := by
    rw [passes_concat]
    exact List.append_nil _
  have hok := hp.fetches_ok
  have hfailed := hp.fetches_failed
  have htimed := hp.fetches_timed
  refine ⟨?_, ?_, ?_, hp.creates, hp.entries, hpasses ▸ hp.actions, hpasses ▸ hp.services⟩
  · rw [List.countP_append]
    exact hok
  · rw [List.countP_append, ← hfailed]
    exact getD_increased p.metrics.fetchesFailed 1
  · simp only [Metrics.recordFetch, Bool.false_eq_true, if_false, getD_increased]
    omega

/-- A pass is counted and timed, its actions are added up, and the gauges are set anew. -/
theorem Measured.pass {as : List Arrival} (hp : Measured as (after r as)) (time : Nat)
    (snapshot : Snapshot) :
    Measured (as ++ [⟨time, .ok snapshot⟩]) (take r (after r as) ⟨time, .ok snapshot⟩) := by
  have hpasses : passes (as ++ [⟨time, .ok snapshot⟩]) = passes as ++ [⟨time, snapshot⟩] :=
    passes_concat as ⟨time, .ok snapshot⟩
  have hsize := Board.size_advance r (passes as) ⟨time, snapshot⟩
  have hlength := Board.length_outcome r time (after r as).board snapshot
  rw [← board_after] at hsize
  have hok := hp.fetches_ok
  have hfailed := hp.fetches_failed
  have htimed := hp.fetches_timed
  have hcreates := hp.creates.trans hp.entries
  have hactions := hp.actions
  constructor
  · rw [metrics_take_ok, List.countP_append, ← hok]
    exact getD_increased (after r as).metrics.fetchesOk 1
  · rw [metrics_take_ok, List.countP_append, ← hfailed]
    rfl
  · simp only [metrics_take_ok, Metrics.recordPass, Metrics.recordFetch, if_true, getD_increased]
    omega
  · simp only [metrics_take_ok, Metrics.recordPass, Metrics.recordFetch, if_true, getD_increased,
      Option.getD_some, hsize, hcreates]
  · rfl
  · simp only [metrics_take_ok, Metrics.recordPass, Metrics.recordFetch, if_true, getD_increased,
      hpasses, List.map_append, List.sum_append, List.map_singleton, List.sum_singleton]
    omega
  · rw [metrics_take_ok, hpasses]
    unfold lastCounts
    rw [List.getLast?_concat]
    exact congrArg Outcome.counts (Board.outcome_reconcile r time (after r as).board snapshot)

theorem measured_after (as : List Arrival) : Measured as (after r as) := by
  induction as using List.reverseRecOn with
  | nil => exact ⟨rfl, rfl, rfl, rfl, Std.ExtHashMap.size_empty.symm, rfl, rfl⟩
  | append_singleton as a ih =>
    rw [after_concat]
    obtain ⟨time, answer⟩ := a
    cases answer with
    | error e => exact ih.fail time e
    | ok snapshot => exact ih.pass r time snapshot

/-- The measurements after any sequence of answers. -/
theorem measurements_of_arrivals (as : List Arrival) :
    Measured as (after r as) ∧ (after r as).board.size = (Board.names (passes as)).card ∧
      ((after r as).metrics.services.getD .zero).total =
        ((after r as).metrics.services.getD .zero).healthy +
          ((after r as).metrics.services.getD .zero).unhealthy +
            ((after r as).metrics.services.getD .zero).unknown := by
  have hmeasured := measured_after r as
  refine ⟨hmeasured, ?_, ?_⟩
  · rw [board_after, Board.size_after]
  · rw [hmeasured.services]
    exact total_lastCounts (passes as)

end Poller

end StatusBoard
