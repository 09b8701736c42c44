import StatusBoard.Proofs.Board.Order

/-!
A second pass over the snapshot of the pass before. Every name that it lists has an entry by then,
so all its services are updates; the last sighting of a name, which the first pass left in the
entry, is what the second pass writes there again. Nothing but the number of the last pass changes
in an entry, and readers see the same board.
-/
namespace StatusBoard

/-- The entry, last touched by another pass. -/
def Entry.touched (e : Entry) (pass : Nat) : Entry :=
  { e with updatedPass := pass }

namespace Board

section Passes

variable (r : Renderer Id)

/-- A pass leaves the last sighting of a name in its entry. -/
theorem exists_apply_of_lists (b : Board) (p : Pass) (x : String) (hx : p.snapshot.Lists x) :
    ∃ (last : Service) (e : Entry), (p.snapshot.sightings x).getLast? = some last ∧
      (advance r b p).entries[x]? = some (e.apply last (b.passes + 1)) := by
  obtain ⟨first, last, hfirst, hlast⟩ := Snapshot.exists_sightings p.snapshot x hx
  refine ⟨last, ?_⟩
  rw [getElem?_advance]
  cases b.entries[x]? with
  | none => exact ⟨_, hlast, foldl_enter_none r (b.passes + 1) _ first last hfirst hlast⟩
  | some e => exact ⟨e, hlast, foldl_enter_some r (b.passes + 1) _ e last hlast⟩

/-- The entry of a name that the snapshot lists is touched again. -/
theorem getElem?_advance_again (b : Board) (p q : Pass) (hq : q.snapshot = p.snapshot) (x : String)
    (hx : p.snapshot.Lists x) :
    (advance r (advance r b p) q).entries[x]? =
      ((advance r b p).entries[x]?).map (·.touched (b.passes + 2)) := by
  obtain ⟨last, e, hlast, he⟩ := exists_apply_of_lists r b p x hx
  rw [getElem?_advance, he, hq, passes_advance, foldl_enter_some r _ _ _ last hlast]
  rfl

/-- The names of a snapshot have entries after its pass. -/
theorem contains_after_of_lists (h : List Pass) (p : Pass) (x : String)
    (hx : p.snapshot.Lists x) : (after r (h ++ [p])).contains x = true :=
  (contains_after_iff r (h ++ [p]) x).mpr ⟨p, by simp, hx⟩

/-- All services are updates when the snapshot of the last pass comes again. -/
theorem outcome_again (h : List Pass) (p : Pass) (time : Nat) :
    ((after r (h ++ [p])).reconcile r time p.snapshot).run.2 =
      ⟨[], p.snapshot.ranked, .ofServices p.snapshot.services⟩ := by
  have hknown : ∀ s ∈ p.snapshot.ranked, (after r (h ++ [p])).contains s.name = true := fun s hs =>
    contains_after_of_lists r h p s.name ⟨s, (p.snapshot.mem_ranked s).mp hs, rfl⟩
  rw [outcome_reconcile, Plan.split_eq_of_known _ [] _ hknown]

/-- What a pass notes on the board does not depend on what it found there. -/
theorem noted_reconcile (b : Board) (time : Nat) (snapshot : Snapshot) :
    let noted := (b.reconcile r time snapshot).run.1
    noted.clientId = some snapshot.clientId ∧ noted.counts = .ofServices snapshot.services ∧
      noted.passes = b.passes + 1 ∧ noted.reconciledAt = some time := by
  intro noted
  have hnoted : noted = _ := board_reconcile r time b snapshot
  rw [hnoted]
  exact ⟨rfl, rfl, rfl, rfl⟩

/-- Of boards with the same entries to show, the views differ in the number and the time of the pass
only. -/
theorem view_eq_of_entries {b c : Board} (hclient : b.clientId = c.clientId)
    (hcounts : b.counts = c.counts) (hentries : (b.view r).run.entries = (c.view r).run.entries) :
    (b.view r).run =
      { (c.view r).run with passes := b.passes, reconciledAt := b.reconciledAt } := by
  calc (b.view r).run
      = ⟨b.clientId, b.counts, (b.view r).run.entries, b.passes, b.reconciledAt⟩ := rfl
    _ = ⟨c.clientId, c.counts, (c.view r).run.entries, b.passes, b.reconciledAt⟩ := by
        rw [hclient, hcounts, hentries]

end Passes

/-- HTML does not tell which pass touched an entry last. -/
theorem entries_view_of_touched {b c : Board} (pass : Nat) (horder : c.order = b.order)
    (hentries : ∀ x : String, c.entries[x]? = b.entries[x]? ∨
      c.entries[x]? = (b.entries[x]?).map (·.touched pass)) :
    let html : Renderer Id := .html
    (c.view html).run.entries = (b.view html).run.entries := by
  intro html
  rw [entries_view, entries_view, map_listed, map_listed, horder]
  refine List.filterMap_congr fun x _ => ?_
  rcases hentries x with hsame | htouched
  · rw [hsame]
  · rw [htouched, Option.map_map]
    rfl

/-- What a second pass over the snapshot of the last pass does to a board. -/
structure Repeats (r : Renderer Id) (p : Pass) (time : Nat) (first again : Board × Outcome) :
    Prop where
  creates : again.2.creates = []
  /-- All services of the snapshot, in priority order. -/
  updates : again.2.updates = p.snapshot.ranked
  outcome_counts : again.2.counts = first.2.counts
  clientId : again.1.clientId = first.1.clientId
  order : again.1.order = first.1.order
  counts : again.1.counts = first.1.counts
  /-- An entry that the snapshot lists notes the pass. -/
  listed : ∀ x, p.snapshot.Lists x →
    again.1.entries[x]? = (first.1.entries[x]?).map (·.touched (first.1.passes + 1))
  /-- The other entries stay as they are. -/
  unlisted : ∀ x, ¬ p.snapshot.Lists x → again.1.entries[x]? = first.1.entries[x]?
  passes : again.1.passes = first.1.passes + 1
  reconciledAt : again.1.reconciledAt = some time
  /-- Readers see the same board, but for the number and the time of the pass. -/
  view : (again.1.view r).run =
    { (first.1.view r).run with passes := first.1.passes + 1, reconciledAt := some time }

/-- Whatever the history, and also when names come twice in the snapshot: reconciled once more, it
creates nothing and leaves what readers see. -/
theorem repeats_of_history (h : List Pass) (p : Pass) (time : Nat) :
    let html : Renderer Id := .html
    let first := ((after html h).reconcile html p.time p.snapshot).run
    Repeats html p time first (first.1.reconcile html time p.snapshot).run := by
  intro html first
  have hfirst : first.1 = after html (h ++ [p]) := (after_concat html h p).symm
  have hcounts : first.2.counts = .ofServices p.snapshot.services :=
    congrArg Outcome.counts (outcome_reconcile html p.time (after html h) p.snapshot)
  have houtcome : (first.1.reconcile html time p.snapshot).run.2 =
      ⟨[], p.snapshot.ranked, .ofServices p.snapshot.services⟩ := by
    rw [hfirst]
    exact outcome_again html h p time
  have horder : (first.1.reconcile html time p.snapshot).run.1.order = first.1.order := by
    rw [order_reconcile, houtcome]
    exact List.append_nil _
  obtain ⟨hclient, hnoted, hpasses, -⟩ := noted_reconcile html (after html h) p.time p.snapshot
  obtain ⟨hclient', hnoted', hpasses', htime'⟩ := noted_reconcile html first.1 time p.snapshot
  have hlisted : ∀ x, p.snapshot.Lists x →
      (first.1.reconcile html time p.snapshot).run.1.entries[x]? =
        (first.1.entries[x]?).map (·.touched (first.1.passes + 1)) := by
    intro x hx
    rw [hpasses]
    exact getElem?_advance_again html (after html h) p ⟨time, p.snapshot⟩ rfl x hx
  have hunlisted : ∀ x, ¬ p.snapshot.Lists x →
      (first.1.reconcile html time p.snapshot).run.1.entries[x]? = first.1.entries[x]? :=
    fun x hx => getElem?_advance_of_not_lists html first.1 ⟨time, p.snapshot⟩ x hx
  have hentries := entries_view_of_touched (first.1.passes + 1) horder fun x =>
    (em (p.snapshot.Lists x)).symm.imp (hunlisted x) (hlisted x)
  exact {
    creates := congrArg Outcome.creates houtcome
    updates := congrArg Outcome.updates houtcome
    outcome_counts := (congrArg Outcome.counts houtcome).trans hcounts.symm
    clientId := hclient'.trans hclient.symm
    order := horder
    counts := hnoted'.trans hnoted.symm
    listed := hlisted
    unlisted := hunlisted
    passes := hpasses'
    reconciledAt := htime'
    view := by
      rw [← hpasses', ← htime']
      exact view_eq_of_entries html (hclient'.trans hclient.symm) (hnoted'.trans hnoted.symm)
        hentries }

end Board

end StatusBoard
