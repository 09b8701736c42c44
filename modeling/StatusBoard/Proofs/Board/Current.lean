import StatusBoard.Proofs.Board.Repetition
import Mathlib.Data.Finset.Card

/-!
The current entries of a board: those that its last pass touched. They are the entries of the names
that the last snapshot lists, however many others the board holds. So there are as many of them as
distinct names, and where no name comes twice each service of the snapshot has one to itself, with
the health of that service. Then the counts of the board are those of its current entries.
-/
namespace StatusBoard

namespace Snapshot

/-- The names of the services, each as often as it comes. -/
def names (d : Snapshot) : List String :=
  d.services.map (·.name)

theorem mem_names (d : Snapshot) (x : String) : x ∈ d.names ↔ d.Lists x :=
  List.mem_map

theorem mem_services_of_sighted {d : Snapshot} {x : String} {s : Service}
    (hs : (d.sightings x).getLast? = some s) : s ∈ d.services ∧ s.name = x := by
  have hmem := List.mem_of_mem_getLast? hs
  exact ⟨(d.mem_ranked s).mp (List.mem_of_mem_filter hmem), d.name_of_mem_sightings x s hmem⟩

end Snapshot

namespace Counts

/-- The count of one health. -/
def byHealth (c : Counts) : Health → Nat
  | .healthy => c.healthy
  | .unhealthy => c.unhealthy
  | .unknown => c.unknown

theorem byHealth_ofServices (ss : List Service) (a : Health) :
    (ofServices ss).byHealth a = ss.countP (·.health = a) := by
  cases a <;> rfl

end Counts

namespace Board

/-- The entries that the last pass touched. -/
def current (b : Board) : List Entry :=
  b.listed.filter (·.updatedPass = b.passes)

section Passes

variable {r : Renderer Id} {b : Board}

/-- Of the entries there are, a pass touches those of the names that it lists. -/
theorem touched_advance_iff (hb : b.Sound r b.passes) (p : Pass) {x : String} {e : Entry}
    (he : (advance r b p).entries[x]? = some e) :
    e.updatedPass = (advance r b p).passes ↔ p.snapshot.Lists x := by
  rw [passes_advance]
  by_cases hx : p.snapshot.Lists x
  · obtain ⟨last, old, -, hnew⟩ := exists_apply_of_lists r b p x hx
    obtain rfl := Option.some.inj (hnew.symm.trans he)
    exact iff_of_true rfl hx
  · rw [getElem?_advance_of_not_lists r b p x hx] at he
    have hold := (hb.entry x e he).updated_le
    exact iff_of_false (by omega) hx

theorem mem_current_advance_iff (hb : b.Sound r b.passes) (p : Pass) (e : Entry) :
    e ∈ (advance r b p).current ↔
      p.snapshot.Lists e.name ∧ (advance r b p).entries[e.name]? = some e := by
  have hsound := hb.advance p
  rw [current, List.mem_filter, decide_eq_true_eq, mem_listed]
  constructor
  · rintro ⟨⟨x, -, he⟩, htouched⟩
    obtain rfl := (hsound.entry x e he).name_eq
    exact ⟨(touched_advance_iff hb p he).mp htouched, he⟩
  · rintro ⟨hlists, he⟩
    have hcontains : (advance r b p).contains e.name = true := by
      rw [contains_eq_isSome, he, Option.isSome_some]
    exact ⟨⟨e.name, (hsound.mem_order e.name).mpr hcontains, he⟩,
      (touched_advance_iff hb p he).mpr hlists⟩

theorem nodup_names_current (hb : b.Sound r b.passes) (p : Pass) :
    ((advance r b p).current.map (·.name)).Nodup := by
  have hlisted : ((advance r b p).listed.map (·.name)).Nodup := by
    rw [(hb.advance p).name_listed]
    exact (hb.advance p).order_nodup
  exact hlisted.sublist (List.filter_sublist.map _)

/-- The names of the current entries are those of the snapshot. -/
theorem toFinset_names_current (hb : b.Sound r b.passes) (p : Pass) :
    ((advance r b p).current.map (·.name)).toFinset = p.snapshot.names.toFinset := by
  ext x
  rw [List.mem_toFinset, List.mem_toFinset, List.mem_map, Snapshot.mem_names]
  constructor
  · rintro ⟨e, he, rfl⟩
    exact ((mem_current_advance_iff hb p e).mp he).1
  · intro hx
    obtain ⟨last, old, -, hnew⟩ := exists_apply_of_lists r b p x hx
    have hname : (old.apply last (b.passes + 1)).name = x :=
      ((hb.advance p).entry x _ hnew).name_eq
    refine ⟨_, (mem_current_advance_iff hb p _).mpr ?_, hname⟩
    rw [hname]
    exact ⟨hx, hnew⟩

theorem length_current (hb : b.Sound r b.passes) (p : Pass) :
    (advance r b p).current.length = p.snapshot.names.toFinset.card := by
  rw [← toFinset_names_current hb p, List.toFinset_card_of_nodup (nodup_names_current hb p),
    List.length_map]

/-- A current entry has the health of a service of its name. -/
theorem exists_service_of_current (hb : b.Sound r b.passes) (p : Pass) {e : Entry}
    (he : e ∈ (advance r b p).current) :
    ∃ s ∈ p.snapshot.services, s.name = e.name ∧ s.health = e.health := by
  obtain ⟨hlists, hentry⟩ := (mem_current_advance_iff hb p e).mp he
  obtain ⟨last, old, hlast, hnew⟩ := exists_apply_of_lists r b p e.name hlists
  obtain ⟨hmem, hname⟩ := Snapshot.mem_services_of_sighted hlast
  have hsame : old.apply last (b.passes + 1) = e := Option.some.inj (hnew.symm.trans hentry)
  exact ⟨last, hmem, hname, congrArg Entry.health hsame⟩

/-- Where no name comes twice, the services and the current entries are the same names with the same
health. -/
theorem current_perm_services (hb : b.Sound r b.passes) (p : Pass)
    (honce : p.snapshot.names.Nodup) :
    ((advance r b p).current.map fun e => (e.name, e.health)).Perm
      (p.snapshot.services.map fun s => (s.name, s.health)) := by
  have hcurrent : ((advance r b p).current.map fun e => (e.name, e.health)).Nodup := by
    refine List.Nodup.of_map (·.1) ?_
    rw [List.map_map]
    exact nodup_names_current hb p
  have hservices : (p.snapshot.services.map fun s => (s.name, s.health)).Nodup := by
    refine List.Nodup.of_map (·.1) ?_
    rw [List.map_map]
    exact honce
  refine (List.perm_ext_iff_of_nodup hcurrent hservices).mpr fun x => ?_
  rw [List.mem_map, List.mem_map]
  constructor
  · rintro ⟨e, he, rfl⟩
    obtain ⟨s, hs, hname, hhealth⟩ := exists_service_of_current hb p he
    exact ⟨s, hs, Prod.ext hname hhealth⟩
  · rintro ⟨s, hs, rfl⟩
    have hmem : s.name ∈ ((advance r b p).current.map (·.name)).toFinset := by
      rw [toFinset_names_current hb p, List.mem_toFinset]
      exact List.mem_map_of_mem hs
    obtain ⟨e, he, hname⟩ := List.mem_map.mp (List.mem_toFinset.mp hmem)
    obtain ⟨t, ht, htname, hhealth⟩ := exists_service_of_current hb p he
    -- the service that gave the entry its health has the same name, so it is this one
    obtain rfl := List.inj_on_of_nodup_map honce ht hs (htname.trans hname)
    exact ⟨e, he, Prod.ext hname hhealth.symm⟩

theorem countP_current (hb : b.Sound r b.passes) (p : Pass) (honce : p.snapshot.names.Nodup)
    (a : Health) :
    (advance r b p).current.countP (·.health = a) =
      p.snapshot.services.countP (·.health = a) := by
  have hcount := (current_perm_services hb p honce).countP_eq fun x => x.2 = a
  rwa [List.countP_map, List.countP_map] at hcount

theorem counts_advance (p : Pass) :
    (advance r b p).counts = .ofServices p.snapshot.services :=
  (noted_reconcile r b p.time p.snapshot).2.1

end Passes

/-- How the entries of a board agree with its counts and with the last snapshot. -/
structure Agrees (b : Board) (snapshot : Snapshot) : Prop where
  /-- An entry is current when the snapshot lists its name, and then only. -/
  touched : ∀ (x : String) (e : Entry), b.entries[x]? = some e →
    (e.updatedPass = b.passes ↔ snapshot.Lists x)
  distinct : b.current.length = snapshot.names.toFinset.card
  le_total : b.current.length ≤ b.counts.total
  eq_total_iff : b.current.length = b.counts.total ↔ snapshot.names.Nodup
  by_health : snapshot.names.Nodup →
    ∀ a, b.current.countP (·.health = a) = b.counts.byHealth a

/-- After every history of at least one pass the current entries agree with the counts. -/
theorem current_of_history (r : Renderer Id) (h : List Pass) (p : Pass) :
    (after r (h ++ [p])).Agrees p.snapshot := by
  have hsound : (after r h).Sound r (after r h).passes := sound_after h
  have htotal : (advance r (after r h) p).counts.total = p.snapshot.names.length := by
    rw [counts_advance, Snapshot.names, List.length_map]
    rfl
  rw [after_concat]
  exact {
    touched := fun x e he => touched_advance_iff hsound p he
    distinct := length_current hsound p
    le_total := by
      rw [length_current hsound p, htotal]
      exact List.toFinset_card_le _
    eq_total_iff := by
      rw [length_current hsound p, htotal]
      exact Multiset.toFinset_card_eq_card_iff_nodup
    by_health := by
      intro honce a
      rw [countP_current hsound p honce, counts_advance, Counts.byHealth_ofServices] }

end Board

end StatusBoard
