import StatusBoard.Proofs.Board.Order

/-!
Planning apart from the board. A pass asks the table of entries which names there are, while who
plans beforehand has the set of the names that the board lists. The two answer alike on every board
that passes lead to, so the plan made beforehand is what the pass does, and the names that the plan
creates are those that the set gains.
-/
namespace StatusBoard.Board

variable {r : Renderer Id} {latest : Nat} {b : Board}

/-- The names that a board lists. -/
def nameSet (b : Board) : Std.ExtHashSet String :=
  .ofList (b.listed.map (·.name))

theorem mem_nameSet_iff (hb : b.Sound r latest) (x : String) : x ∈ b.nameSet ↔ x ∈ b.order := by
  rw [nameSet, Std.ExtHashSet.mem_ofList, List.contains_iff_mem, hb.name_listed]

/-- The set of listed names and the table of entries know the same names. -/
theorem contains_nameSet (hb : b.Sound r latest) : b.nameSet.contains = b.contains := by
  funext x
  rw [Bool.eq_iff_iff, Std.ExtHashSet.contains_iff_mem, mem_nameSet_iff hb, hb.mem_order]

theorem against_nameSet (hb : b.Sound r latest) (snapshot : Snapshot) :
    Plan.against b.nameSet snapshot = b.plan snapshot := by
  rw [Plan.against, contains_nameSet hb, plan]

/-- The names of the creates are new. -/
theorem not_mem_nameSet_of_creates (b : Board) (snapshot : Snapshot) {s : Service}
    (hs : s ∈ (Plan.against b.nameSet snapshot).creates) : s.name ∉ b.nameSet := by
  have hfresh := Plan.fresh_of_mem_creates b.nameSet.contains [] snapshot.ranked s hs
  have hnew : b.nameSet.contains s.name = false := by simpa using hfresh
  rw [← Std.ExtHashSet.contains_iff_mem, hnew]
  exact Bool.false_ne_true

/-- A pass lists the names of its creates in addition. -/
theorem nameSet_advance (hb : b.Sound r b.passes) (p : Pass) :
    (advance r b p).nameSet =
      b.nameSet.insertMany ((b.plan p.snapshot).creates.map (·.name)) := by
  refine Std.ExtHashSet.ext_mem fun x => ?_
  rw [mem_nameSet_iff (hb.advance p), order_advance, List.mem_append,
    Std.ExtHashSet.mem_insertMany_list, mem_nameSet_iff hb, List.contains_iff_mem]
  rfl

/-- Planning against the listed names tells what a pass will do: it gives the creates, the updates
and the counts of the pass, and the names that are listed afterwards. -/
theorem plan_of_history (r : Renderer Id) (h : List Pass) (p : Pass) :
    let b := after r h
    let plan := Plan.against b.nameSet p.snapshot
    let pass := (b.reconcile r p.time p.snapshot).run
    pass.2 = ⟨plan.creates, plan.updates, plan.counts⟩ ∧
      pass.1.nameSet = b.nameSet.insertMany (plan.creates.map (·.name)) ∧
      ∀ s ∈ plan.creates, s.name ∉ b.nameSet := by
  intro b plan pass
  have hb : b.Sound r b.passes := sound_after h
  have hplan : plan = b.plan p.snapshot := against_nameSet hb p.snapshot
  refine ⟨?_, ?_, fun s hs => not_mem_nameSet_of_creates b p.snapshot hs⟩
  · rw [hplan]
    rfl
  · rw [hplan]
    exact nameSet_advance hb p

end StatusBoard.Board
