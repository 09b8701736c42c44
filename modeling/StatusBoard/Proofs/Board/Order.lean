import StatusBoard.Board.View
import StatusBoard.Proofs.Board.Soundness

/-!
The order of a board. A pass appends the names of the services that it creates and moves nothing;
over a whole history the order is that of first sightings: all services of all snapshots are written
one after another, each snapshot in its priority order, and of each name the first is kept.
-/
namespace StatusBoard.Board

variable (r : Renderer Id)

section Appending

variable (pass : Nat)

theorem order_create (b : Board) (s : Service) :
    (create r pass b s).run.order = b.order ++ [s.name] := rfl

theorem order_foldlM_create (b : Board) (creates : List Service) :
    (creates.foldlM (create r pass) b).run.order = b.order ++ creates.map (·.name) := by
  induction creates generalizing b with
  | nil => exact (List.append_nil b.order).symm
  | cons s rest ih =>
    rw [List.foldlM_cons, Id.run_bind, ih, order_create, List.map_cons, List.append_assoc,
      List.singleton_append]

theorem order_foldl_update (b : Board) (updates : List Service) :
    (updates.foldl (update pass) b).order = b.order := by
  induction updates generalizing b with
  | nil => rfl
  | cons s rest ih =>
    rw [List.foldl_cons, ih, update_eq_overwrite]
    rfl

/-- A pass appends the names of its creates, on any board. -/
theorem order_reconcile (now : Nat) (b : Board) (snapshot : Snapshot) :
    (b.reconcile r now snapshot).run.1.order =
      b.order ++ (b.reconcile r now snapshot).run.2.creates.map (·.name) := by
  have hcreates := order_foldlM_create r (b.passes + 1) b (b.plan snapshot).creates
  have hupdates := order_foldl_update (b.passes + 1)
    ((b.plan snapshot).creates.foldlM (create r (b.passes + 1)) b).run (b.plan snapshot).updates
  exact hupdates.trans hcreates

theorem order_advance (b : Board) (p : Pass) :
    (advance r b p).order =
      b.order ++ (b.reconcile r p.time p.snapshot).run.2.creates.map (·.name) :=
  order_reconcile r p.time b p.snapshot

end Appending

/-- Later passes leave the names in their places. -/
theorem order_after_append (h k : List Pass) :
    (after r h).order <+: (after r (h ++ k)).order := by
  induction k using List.reverseRecOn with
  | nil => simpa only [List.append_nil] using List.prefix_rfl
  | append_singleton k p ih =>
    rw [← List.append_assoc, after_concat, order_advance]
    exact ih.trans (List.prefix_append _ _)

section Keeping

variable {α : Type} (f : Entry → α)

/-- What updates keep of an entry stays where it is while services are entered. -/
theorem map_listed_foldl_enter {pass : Nat} (hkeep : ∀ (e : Entry) (s : Service),
    f (e.apply s pass) = f e) (hpass : 1 ≤ pass) {b : Board} (hb : b.Sound r pass)
    (ss : List Service) : b.listed.map f <+: (ss.foldl (enter r pass) b).listed.map f := by
  induction ss generalizing b with
  | nil => exact List.prefix_rfl
  | cons s rest ih =>
    have hrest := ih (hb.enter hpass s)
    rw [map_listed_enter f b hb s fun e => hkeep e s] at hrest
    refine List.IsPrefix.trans ?_ hrest
    split
    · exact List.prefix_rfl
    · exact List.prefix_append _ _

/-- So it does in later passes. -/
theorem map_listed_after_append (hkeep : ∀ (e : Entry) (s : Service) (pass : Nat),
    f (e.apply s pass) = f e) (h k : List Pass) :
    (after r h).listed.map f <+: (after r (h ++ k)).listed.map f := by
  induction k using List.reverseRecOn with
  | nil => simpa only [List.append_nil] using List.prefix_rfl
  | append_singleton k p ih =>
    have hsound := (sound_after (r := r) (h ++ k)).mono (Nat.le_succ _)
    have hentered := map_listed_foldl_enter r f (fun e s => hkeep e s _)
      (Nat.le_add_left 1 _) hsound p.snapshot.ranked
    rw [← List.append_assoc, after_concat, advance, board_reconcile]
    exact ih.trans hentered

end Keeping

section FirstSightings

theorem eraseDups_concat (xs : List String) (x : String) :
    (xs ++ [x]).eraseDups = if x ∈ xs then xs.eraseDups else xs.eraseDups ++ [x] := by
  rw [List.eraseDups_append]
  by_cases hx : x ∈ xs
  · have hgone : [x].removeAll xs = [] := by simp [List.removeAll, hx]
    rw [if_pos hx, hgone, List.eraseDups_nil, List.append_nil]
  · have hstays : [x].removeAll xs = [x] := by simp [List.removeAll, hx]
    rw [if_neg hx, hstays]
    rfl

/-- The step: a service whose name is not among those seen is appended. -/
theorem order_enter_of_seen (pass : Nat) {latest : Nat} {b : Board} (hb : b.Sound r latest)
    {seen : List String} (hseen : b.order = seen.eraseDups) (s : Service) :
    (enter r pass b s).order = (seen ++ [s.name]).eraseDups := by
  have hcontains : b.contains s.name = true ↔ s.name ∈ seen := by
    rw [← hb.mem_order, hseen, List.mem_eraseDups]
  rw [order_enter, eraseDups_concat, hseen]
  by_cases hs : s.name ∈ seen
  · rw [if_pos (hcontains.mpr hs), if_pos hs]
  · have hnew : ¬ b.contains s.name = true := fun hold => hs (hcontains.mp hold)
    rw [if_neg hnew, if_neg hs]

theorem order_foldl_enter {pass : Nat} (hpass : 1 ≤ pass) {b : Board} (hb : b.Sound r pass)
    {seen : List String} (hseen : b.order = seen.eraseDups) (ss : List Service) :
    (ss.foldl (enter r pass) b).order = (seen ++ ss.map (·.name)).eraseDups := by
  induction ss generalizing b seen with
  | nil => rw [List.map_nil, List.append_nil, List.foldl_nil, hseen]
  | cons s rest ih =>
    have hstep := order_enter_of_seen r pass hb hseen s
    have hrest := ih (hb.enter hpass s) hstep
    rw [List.foldl_cons, hrest, List.append_assoc, List.singleton_append, List.map_cons]

/-- All names that a history mentions, as often and in the order in which its passes meet them. -/
def sighted (h : List Pass) : List String :=
  (h.flatMap fun p => p.snapshot.ranked).map (·.name)

theorem sighted_concat (h : List Pass) (p : Pass) :
    sighted (h ++ [p]) = sighted h ++ p.snapshot.ranked.map (·.name) := by
  rw [sighted, List.flatMap_append, List.map_append, List.flatMap_singleton]
  rfl

theorem order_after (h : List Pass) : (after r h).order = (sighted h).eraseDups := by
  induction h using List.reverseRecOn with
  | nil => rfl
  | append_singleton h p ih =>
    have hsound : (after r h).Sound r ((after r h).passes + 1) :=
      (sound_after h).mono (Nat.le_succ _)
    have hentered := order_foldl_enter r (Nat.le_add_left 1 _) hsound ih p.snapshot.ranked
    rw [after_concat, advance, board_reconcile, sighted_concat]
    exact hentered

end FirstSightings

theorem name_entries_view (b : Board) :
    (b.view r).run.entries.map (·.name) = b.listed.map (·.name) := by
  rw [entries_view, List.map_map]
  rfl

/-- The order of a board, of its entries and of its view is that of first sightings. Each pass
appends the names of its creates, and no later pass moves a name. -/
theorem creation_order_of_history (h : List Pass) :
    (after r h).order = (sighted h).eraseDups ∧
      (after r h).listed.map (·.name) = (after r h).order ∧
      ((after r h).view r).run.entries.map (·.name) = (after r h).order ∧
      (∀ p : Pass, (after r (h ++ [p])).order = (after r h).order ++
        ((after r h).reconcile r p.time p.snapshot).run.2.creates.map (·.name)) ∧
      ∀ k : List Pass, (after r h).order <+: (after r (h ++ k)).order := by
  have hlisted : (after r h).listed.map (·.name) = (after r h).order := (sound_after h).name_listed
  refine ⟨order_after r h, hlisted, ?_, ?_, order_after_append r h⟩
  · rw [name_entries_view, hlisted]
  · intro p
    rw [after_concat]
    exact order_advance r (after r h) p

end StatusBoard.Board
