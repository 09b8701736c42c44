import StatusBoard.Board.Plan
import Mathlib.Data.List.Count

/-!
The priority order of a snapshot: its services as a pass takes them, the unhealthy first and the
unknown last. A name may stand several times in one snapshot; its sightings are the services that
carry it, in priority order. The counts of a partition are those of the snapshot itself.
-/
namespace StatusBoard

namespace Snapshot

/-- The services in priority order: the unhealthy, the healthy, the unknown, and those of one
health in the order of the snapshot. -/
def ranked (d : Snapshot) : List Service :=
  d.services.filter (·.health = .unhealthy) ++ d.services.filter (·.health = .healthy) ++
    d.services.filter (·.health = .unknown)

def Lists (d : Snapshot) (x : String) : Prop := ∃ s ∈ d.services, s.name = x

/-- The services of a name, in priority order. -/
def sightings (d : Snapshot) (x : String) : List Service :=
  d.ranked.filter (·.name = x)

theorem mem_ranked (d : Snapshot) (s : Service) : s ∈ d.ranked ↔ s ∈ d.services := by
  cases h : s.health <;> simp [ranked, h]

theorem ranked_perm (d : Snapshot) : d.ranked.Perm d.services := by
  rw [List.perm_iff_count]
  intro s
  unfold ranked
  rw [List.count_append, List.count_append]
  cases h : s.health <;> simp [List.count_filter, List.count_eq_zero_of_not_mem, h]

theorem sightings_eq_nil_iff (d : Snapshot) (x : String) :
    d.sightings x = [] ↔ ¬ d.Lists x := by
  simp only [sightings, List.filter_eq_nil_iff, decide_eq_true_eq, mem_ranked, Lists,
    not_exists, not_and]

/-- A name that is listed has a first and a last sighting. -/
theorem exists_sightings (d : Snapshot) (x : String) (hx : d.Lists x) :
    ∃ first last, (d.sightings x).head? = some first ∧ (d.sightings x).getLast? = some last := by
  have hne : d.sightings x ≠ [] := fun hnil => (sightings_eq_nil_iff d x).mp hnil hx
  exact ⟨_, _, List.head?_eq_some_head hne, List.getLast?_eq_some_getLast hne⟩

theorem name_of_mem_sightings (d : Snapshot) (x : String) (s : Service)
    (hs : s ∈ d.sightings x) : s.name = x := by
  simpa using (List.mem_filter.mp hs).2

end Snapshot

/-- How many services there are, in all and by health. -/
def Counts.ofServices (ss : List Service) : Counts where
  total := ss.length
  healthy := ss.countP (·.health = .healthy)
  unhealthy := ss.countP (·.health = .unhealthy)
  unknown := ss.countP (·.health = .unknown)

theorem Counts.total_ofServices (ss : List Service) :
    (Counts.ofServices ss).total =
      (Counts.ofServices ss).unhealthy + (Counts.ofServices ss).healthy +
        (Counts.ofServices ss).unknown := by
  induction ss with
  | nil => rfl
  | cons s rest ih =>
    simp only [ofServices, List.length_cons, List.countP_cons] at ih ⊢
    cases hs : s.health <;> simp <;> omega

/-- Every service falls into exactly one group of the partition. -/
theorem Partition.counts_ofServices (ss : List Service) :
    (Partition.ofServices ss).counts = Counts.ofServices ss := by
  have htotal := Counts.total_ofServices ss
  simp only [Counts.ofServices] at htotal
  simp only [counts, ofServices, Counts.ofServices, ← List.countP_eq_length_filter, htotal]

end StatusBoard
