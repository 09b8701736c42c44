import StatusBoard.Proofs.Board.Walk

/-!
With a renderer that has no effects a pass is a fold: it enters the services one after another in
priority order. What entering one service does to the entry of a name, to the order and to the
size of the board is said once here; what a pass does follows by induction over the services.
-/
namespace StatusBoard

/-- The entry of a service's name once the service is entered, from the one there was before. -/
def Entry.enter (r : Renderer Id) (pass : Nat) (e : Option Entry) (s : Service) : Entry :=
  match e with
  | some e => e.apply s pass
  | none => .create s (r.apis s).run pass

namespace Board

variable (r : Renderer Id) (pass : Nat)

/-- Overwrites the entry of a service or, if its name is new on the board, creates it. -/
def enter (b : Board) (s : Service) : Board :=
  if b.contains s.name then b.overwrite pass s else (b.create r pass s).run

/-- What a pass notes on the board when all services are entered. -/
def conclude (now : Nat) (snapshot : Snapshot) (b : Board) : Board :=
  { b with
    clientId := some snapshot.clientId
    counts := .ofServices snapshot.services
    passes := pass
    reconciledAt := some now }

theorem contains_eq_isSome (b : Board) (x : String) : b.contains x = (b.entries[x]?).isSome :=
  Std.ExtHashMap.contains_eq_isSome_getElem?

theorem contains_enter (b : Board) (s : Service) (x : String) :
    (enter r pass b s).contains x = (s.name == x || b.contains x) := by
  cases hs : b.contains s.name with
  | true =>
    rw [enter, if_pos hs, contains_overwrite]
    cases hx : s.name == x with
    | true =>
      have heq : s.name = x := beq_iff_eq.mp hx
      rw [← heq, hs, Bool.true_or]
    | false => rw [Bool.false_or]
  | false =>
    rw [enter, hs, if_neg Bool.false_ne_true, contains_create]

theorem getElem?_enter (b : Board) (s : Service) (x : String) :
    (enter r pass b s).entries[x]? =
      if s.name = x then some (Entry.enter r pass (b.entries[x]?) s) else b.entries[x]? := by
  cases hs : b.entries[s.name]? with
  | none =>
    have hnew : ¬ b.contains s.name = true := by simp [contains_eq_isSome, hs]
    have hget : (enter r pass b s).entries[x]? =
        if s.name == x then some (.create s (r.apis s).run pass) else b.entries[x]? := by
      rw [enter, if_neg hnew]
      exact Std.ExtHashMap.getElem?_insert
    by_cases hx : s.name = x
    · subst hx
      simp [hget, hs, Entry.enter]
    · simp [hget, hx]
  | some e =>
    have hold : b.contains s.name = true := by simp [contains_eq_isSome, hs]
    have hget : (enter r pass b s).entries[x]? =
        if s.name == x then (b.entries[s.name]?).map (·.apply s pass) else b.entries[x]? := by
      rw [enter, if_pos hold]
      exact Std.ExtHashMap.getElem?_modify
    by_cases hx : s.name = x
    · subst hx
      simp [hget, hs, Entry.enter]
    · simp [hget, hx]

theorem order_enter (b : Board) (s : Service) :
    (enter r pass b s).order = if b.contains s.name then b.order else b.order ++ [s.name] := by
  unfold enter
  split <;> rfl

theorem size_enter (b : Board) (s : Service) :
    (enter r pass b s).size = if b.contains s.name then b.size else b.size + 1 := by
  unfold enter
  split
  · exact Std.ExtHashMap.size_modify
  · rename_i hnew
    have hmem : ¬ s.name ∈ b.entries := by simpa [contains] using hnew
    exact Std.ExtHashMap.size_insert.trans (if_neg hmem)

/-- A walk whose known names are those on its board enters the services. -/
theorem board_foldlM_visit (ss : List Service) (w : Walk)
    (hknown : ∀ x, w.known x = w.board.contains x) :
    (ss.foldlM (Walk.visit r pass) w).run.board = ss.foldl (enter r pass) w.board := by
  induction ss generalizing w with
  | nil => rfl
  | cons s rest ih =>
    rw [List.foldlM_cons, Id.run_bind, List.foldl_cons, Walk.visit, enter, hknown s.name]
    cases hs : w.board.contains s.name with
    | true =>
      simp only [if_true]
      refine ih _ fun x => ?_
      exact (hknown x).trans (contains_overwrite pass w.board s x).symm
    | false =>
      simp only [Bool.false_eq_true, if_false]
      refine ih _ fun x => ?_
      refine Eq.trans ?_ (contains_create r pass w.board s x).symm
      by_cases hx : x = s.name
      · simp [hx]
      · have hne : (s.name == x) = false := beq_eq_false_iff_ne.mpr (Ne.symm hx)
        simp [hx, hne, hknown]

theorem board_reconcile (now : Nat) (b : Board) (snapshot : Snapshot) :
    (b.reconcile r now snapshot).run.1 =
      conclude (b.passes + 1) now snapshot (snapshot.ranked.foldl (enter r (b.passes + 1)) b) := by
  rw [reconcile_eq_walk]
  have hboard := board_foldlM_visit r (b.passes + 1) snapshot.ranked (.start b) fun _ => rfl
  exact congrArg (conclude (b.passes + 1) now snapshot) hboard

theorem outcome_reconcile (now : Nat) (b : Board) (snapshot : Snapshot) :
    (b.reconcile r now snapshot).run.2 =
      ⟨(Plan.split b.contains [] snapshot.ranked).1, (Plan.split b.contains [] snapshot.ranked).2,
        .ofServices snapshot.services⟩ := by
  rw [← Partition.counts_ofServices]
  rfl

/-- The services of other names pass an entry by. -/
theorem getElem?_foldl_enter (b : Board) (ss : List Service) (x : String) :
    (ss.foldl (enter r pass) b).entries[x]? =
      (ss.filter (·.name = x)).foldl (fun e s => some (Entry.enter r pass e s)) (b.entries[x]?) := by
  induction ss generalizing b with
  | nil => rfl
  | cons s rest ih =>
    rw [List.foldl_cons, ih, getElem?_enter]
    by_cases hs : s.name = x
    · simp [hs]
    · simp [hs]

/-- Of several services of a known name the last one counts. -/
theorem foldl_enter_some (ss : List Service) (e : Entry) (last : Service)
    (hlast : ss.getLast? = some last) :
    ss.foldl (fun e s => some (Entry.enter r pass e s)) (some e) = some (e.apply last pass) := by
  induction ss generalizing e with
  | nil => simp at hlast
  | cons s rest ih =>
    cases rest with
    | nil =>
      simp only [List.getLast?_singleton, Option.some.injEq] at hlast
      rw [← hlast]
      rfl
    | cons t rest =>
      rw [List.getLast?_cons_cons] at hlast
      exact ih (e.apply s pass) hlast

/-- The first one of a new name brings the APIs, the last one the rest. -/
theorem foldl_enter_none (ss : List Service) (first last : Service)
    (hfirst : ss.head? = some first) (hlast : ss.getLast? = some last) :
    ss.foldl (fun e s => some (Entry.enter r pass e s)) none =
      some ((Entry.create first (r.apis first).run pass).apply last pass) := by
  cases ss with
  | nil => simp at hfirst
  | cons s rest =>
    simp only [List.head?_cons, Option.some.injEq] at hfirst
    subst hfirst
    cases rest with
    | nil =>
      simp only [List.getLast?_singleton, Option.some.injEq] at hlast
      rw [← hlast]
      rfl
    | cons t rest =>
      rw [List.getLast?_cons_cons] at hlast
      exact foldl_enter_some r pass (t :: rest) (.create s (r.apis s).run pass) last hlast

end Board

end StatusBoard
