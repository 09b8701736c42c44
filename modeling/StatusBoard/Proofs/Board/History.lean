import StatusBoard.Proofs.Board.Enter
import Mathlib.Data.List.Induction

/-!
Boards after a history of passes. The entry of a name has a closed form: it is there once some
snapshot listed the name; its APIs and their markup are those of the first sighting in the first
such snapshot, and its health and its counts those of the last sighting in the last one. The
passes of an entry are the places of these two snapshots in the history.
-/
namespace StatusBoard

/-- A snapshot and the time at which it is reconciled. -/
structure Pass where
  time : Nat
  snapshot : Snapshot

namespace Board

variable (r : Renderer Id)

def advance (b : Board) (p : Pass) : Board :=
  (b.reconcile r p.time p.snapshot).run.1

/-- The board after a history, the first pass of which finds it empty. -/
def after (h : List Pass) : Board :=
  h.foldl (advance r) .empty

/-- The pass of this number is the first one to list the name; passes count from one. -/
def FirstListing (h : List Pass) (x : String) (n : Nat) (p : Pass) : Prop :=
  ∃ before rest, h = before ++ p :: rest ∧ n = before.length + 1 ∧
    p.snapshot.Lists x ∧ ∀ q ∈ before, ¬ q.snapshot.Lists x

/-- The pass of this number is the last one to list the name. -/
def LastListing (h : List Pass) (x : String) (n : Nat) (p : Pass) : Prop :=
  ∃ before rest, h = before ++ p :: rest ∧ n = before.length + 1 ∧
    p.snapshot.Lists x ∧ ∀ q ∈ rest, ¬ q.snapshot.Lists x

/-- What a history says of the entry of a name. -/
structure Recalls (h : List Pass) (x : String) (e : Entry) : Prop where
  name : e.name = x
  created : ∃ p first, FirstListing h x e.createdPass p ∧
    (p.snapshot.sightings x).head? = some first ∧
    e.apis = first.apis ∧ e.apiMarkup = (r.apis first).run
  updated : ∃ p last, LastListing h x e.updatedPass p ∧
    (p.snapshot.sightings x).getLast? = some last ∧
    e.health = last.health ∧ e.indicator = .ofHealth last.health ∧
    e.instances = last.instances ∧ e.healthy = last.healthy ∧ e.unhealthy = last.unhealthy

theorem FirstListing.mem {h : List Pass} {x : String} {n : Nat} {p : Pass}
    (hp : FirstListing h x n p) : p ∈ h ∧ p.snapshot.Lists x := by
  obtain ⟨before, rest, rfl, -, hx, -⟩ := hp
  exact ⟨by simp, hx⟩

theorem FirstListing.concat {h : List Pass} {x : String} {n : Nat} {p : Pass}
    (hp : FirstListing h x n p) (q : Pass) : FirstListing (h ++ [q]) x n p := by
  obtain ⟨before, rest, rfl, hn, hx, hbefore⟩ := hp
  exact ⟨before, rest ++ [q], by simp, hn, hx, hbefore⟩

theorem firstListing_concat (h : List Pass) (x : String) (p : Pass)
    (hp : p.snapshot.Lists x) (hnone : ∀ q ∈ h, ¬ q.snapshot.Lists x) :
    FirstListing (h ++ [p]) x (h.length + 1) p :=
  ⟨h, [], rfl, rfl, hp, hnone⟩

theorem LastListing.concat {h : List Pass} {x : String} {n : Nat} {p : Pass}
    (hp : LastListing h x n p) (q : Pass) (hq : ¬ q.snapshot.Lists x) :
    LastListing (h ++ [q]) x n p := by
  obtain ⟨before, rest, rfl, hn, hx, hrest⟩ := hp
  refine ⟨before, rest ++ [q], by simp, hn, hx, ?_⟩
  intro t ht
  rcases List.mem_append.mp ht with hold | hnew
  · exact hrest t hold
  · rw [List.mem_singleton.mp hnew]
    exact hq

theorem lastListing_concat (h : List Pass) (x : String) (p : Pass) (hp : p.snapshot.Lists x) :
    LastListing (h ++ [p]) x (h.length + 1) p :=
  ⟨h, [], rfl, rfl, hp, by simp⟩

theorem after_concat (h : List Pass) (p : Pass) :
    after r (h ++ [p]) = advance r (after r h) p := by
  rw [after, List.foldl_append]
  rfl

theorem passes_advance (b : Board) (p : Pass) : (advance r b p).passes = b.passes + 1 := by
  rw [advance, board_reconcile]
  rfl

theorem passes_after (h : List Pass) : (after r h).passes = h.length := by
  induction h using List.reverseRecOn with
  | nil => rfl
  | append_singleton h p ih =>
    rw [after_concat, passes_advance, ih, List.length_append, List.length_singleton]

theorem getElem?_advance (b : Board) (p : Pass) (x : String) :
    (advance r b p).entries[x]? =
      (p.snapshot.sightings x).foldl (fun e s => some (Entry.enter r (b.passes + 1) e s))
        (b.entries[x]?) := by
  rw [advance, board_reconcile]
  exact getElem?_foldl_enter r (b.passes + 1) b p.snapshot.ranked x

/-- A pass that does not list a name leaves its entry alone. -/
theorem getElem?_advance_of_not_lists (b : Board) (p : Pass) (x : String)
    (hx : ¬ p.snapshot.Lists x) : (advance r b p).entries[x]? = b.entries[x]? := by
  rw [getElem?_advance, (Snapshot.sightings_eq_nil_iff p.snapshot x).mpr hx]
  rfl

/-- What holds of the entry of a name after every history, said so that it carries over from one
pass to the next. -/
theorem recalls_after (h : List Pass) (x : String) :
    ((after r h).entries[x]? = none → ∀ p ∈ h, ¬ p.snapshot.Lists x) ∧
      ∀ e, (after r h).entries[x]? = some e → Recalls r h x e := by
  induction h using List.reverseRecOn with
  | nil =>
    have hnone : (after r []).entries[x]? = none := Std.ExtHashMap.getElem?_empty
    simp [hnone]
  | append_singleton h p ih =>
    obtain ⟨hnone, hsome⟩ := ih
    rw [after_concat]
    by_cases hx : p.snapshot.Lists x
    · -- the pass lists the name: it creates the entry or updates it
      obtain ⟨first, last, hfirst, hlast⟩ := Snapshot.exists_sightings p.snapshot x hx
      have hname : first.name = x :=
        Snapshot.name_of_mem_sightings p.snapshot x first (List.mem_of_mem_head? hfirst)
      rw [getElem?_advance, passes_after]
      cases hold : (after r h).entries[x]? with
      | none =>
        rw [foldl_enter_none r (h.length + 1) _ first last hfirst hlast]
        refine ⟨fun hno => absurd hno (Option.some_ne_none _), ?_⟩
        rintro e ⟨rfl⟩
        exact {
          name := hname
          created := ⟨p, first, firstListing_concat h x p hx (hnone hold), hfirst, rfl, rfl⟩
          updated := ⟨p, last, lastListing_concat h x p hx, hlast, rfl, rfl, rfl, rfl, rfl⟩ }
      | some e =>
        have hrecalls := hsome e hold
        rw [foldl_enter_some r (h.length + 1) _ e last hlast]
        refine ⟨fun hno => absurd hno (Option.some_ne_none _), ?_⟩
        rintro e' ⟨rfl⟩
        obtain ⟨q, s, hq, hs⟩ := hrecalls.created
        exact {
          name := hrecalls.name
          created := ⟨q, s, hq.concat p, hs⟩
          updated := ⟨p, last, lastListing_concat h x p hx, hlast, rfl, rfl, rfl, rfl, rfl⟩ }
    · -- the pass does not list the name: neither the entry nor its listings change
      rw [getElem?_advance_of_not_lists r _ p x hx]
      constructor
      · intro hold q hq
        rcases List.mem_append.mp hq with hbefore | hlast
        · exact hnone hold q hbefore
        · rw [List.mem_singleton.mp hlast]
          exact hx
      · intro e hold
        have hrecalls := hsome e hold
        obtain ⟨q, s, hq, hs⟩ := hrecalls.created
        obtain ⟨t, u, ht, hu⟩ := hrecalls.updated
        exact ⟨hrecalls.name, ⟨q, s, hq.concat p, hs⟩, ⟨t, u, ht.concat p hx, hu⟩⟩

theorem contains_after_iff (h : List Pass) (x : String) :
    (after r h).contains x = true ↔ ∃ p ∈ h, p.snapshot.Lists x := by
  obtain ⟨hnone, hsome⟩ := recalls_after r h x
  rw [contains_eq_isSome]
  cases hold : (after r h).entries[x]? with
  | none =>
    simp only [Option.isSome_none, Bool.false_eq_true, false_iff, not_exists, not_and]
    exact hnone hold
  | some e =>
    obtain ⟨p, first, hp, -⟩ := (hsome e hold).created
    simp only [Option.isSome_some, true_iff]
    exact ⟨p, hp.mem.1, hp.mem.2⟩

/-- The closed form of the entries of a board, for every history and every name. -/
theorem entry_of_history (h : List Pass) (x : String) :
    ((after r h).contains x = true ↔ ∃ p ∈ h, p.snapshot.Lists x) ∧
      (∀ e, (after r h).entries[x]? = some e → Recalls r h x e) ∧
      ∀ p : Pass, ¬ p.snapshot.Lists x →
        (after r (h ++ [p])).entries[x]? = (after r h).entries[x]? := by
  refine ⟨contains_after_iff r h x, (recalls_after r h x).2, ?_⟩
  intro p hp
  rw [after_concat]
  exact getElem?_advance_of_not_lists r (after r h) p x hp

end Board

end StatusBoard
