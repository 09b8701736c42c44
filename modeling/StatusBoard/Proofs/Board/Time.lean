import StatusBoard.Board.View
import StatusBoard.Proofs.Board.History

/-!
The times of passes. A board notes the time of its last pass and reads it nowhere: setting all times
of a history to zero sets that note to zero and changes neither the rest of the board nor what its
passes did.
-/
namespace StatusBoard

/-- The same pass at time zero. -/
def Pass.untimed (p : Pass) : Pass := ⟨0, p.snapshot⟩

/-- The same view, all but for the time of the last pass. -/
def View.untimed (v : View) : View :=
  { v with reconciledAt := v.reconciledAt.map fun _ => 0 }

namespace Board

variable (r : Renderer Id)

/-- The same board, all but for the time of its last pass. -/
def untimed (b : Board) : Board :=
  { b with reconciledAt := b.reconciledAt.map fun _ => 0 }

/-- What the passes of a history did, from a given board on. -/
def outcomes (b : Board) : List Pass → List Outcome
  | [] => []
  | p :: rest => (b.reconcile r p.time p.snapshot).run.2 :: outcomes (advance r b p) rest

theorem enter_untimed (pass : Nat) (b : Board) (s : Service) :
    enter r pass b.untimed s = (enter r pass b s).untimed := by
  have hcontains : b.untimed.contains s.name = b.contains s.name := rfl
  unfold enter
  rw [hcontains]
  split
  · rfl
  · rfl

theorem foldl_enter_untimed (pass : Nat) (b : Board) (ss : List Service) :
    ss.foldl (enter r pass) b.untimed = (ss.foldl (enter r pass) b).untimed := by
  induction ss generalizing b with
  | nil => rfl
  | cons s rest ih => rw [List.foldl_cons, List.foldl_cons, enter_untimed, ih]

theorem advance_untimed (b : Board) (p : Pass) :
    advance r b.untimed p.untimed = (advance r b p).untimed := by
  have hpasses : b.untimed.passes = b.passes := rfl
  have hsnapshot : p.untimed.snapshot = p.snapshot := rfl
  rw [advance, advance, board_reconcile, board_reconcile, hpasses, hsnapshot,
    foldl_enter_untimed]
  rfl

theorem outcome_untimed (b : Board) (p : Pass) :
    (b.untimed.reconcile r p.untimed.time p.untimed.snapshot).run.2 =
      (b.reconcile r p.time p.snapshot).run.2 := by
  rw [outcome_reconcile, outcome_reconcile]
  rfl

theorem foldl_advance_untimed (b : Board) (h : List Pass) :
    (h.map Pass.untimed).foldl (advance r) b.untimed = (h.foldl (advance r) b).untimed := by
  induction h generalizing b with
  | nil => rfl
  | cons p rest ih => rw [List.map_cons, List.foldl_cons, List.foldl_cons, advance_untimed, ih]

theorem outcomes_untimed (b : Board) (h : List Pass) :
    outcomes r b.untimed (h.map Pass.untimed) = outcomes r b h := by
  induction h generalizing b with
  | nil => rfl
  | cons p rest ih => rw [List.map_cons, outcomes, outcomes, outcome_untimed, advance_untimed, ih]

theorem view_untimed (b : Board) : (b.untimed.view r).run = (b.view r).run.untimed := rfl

/-- Histories of the same snapshots lead to the same board, whatever their times are. -/
theorem untimed_after_congr (h k : List Pass) (heq : h.map (·.snapshot) = k.map (·.snapshot)) :
    (after r h).untimed = (after r k).untimed ∧
      outcomes r .empty h = outcomes r .empty k := by
  have hempty : Board.empty.untimed = .empty := rfl
  have hmap (l : List Pass) : l.map Pass.untimed = (l.map (·.snapshot)).map (Pass.mk 0) := by
    rw [List.map_map]
    rfl
  have hsame : h.map Pass.untimed = k.map Pass.untimed := by rw [hmap, hmap, heq]
  constructor
  · rw [after, after, ← foldl_advance_untimed, ← foldl_advance_untimed, hsame]
  · rw [← outcomes_untimed r .empty h, ← outcomes_untimed r .empty k, hsame]

end Board

end StatusBoard
