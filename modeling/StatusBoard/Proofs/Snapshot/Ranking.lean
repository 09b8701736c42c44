import StatusBoard.Proofs.Snapshot.Priority
import Mathlib.Data.List.Sort

/-!
The priority order is a stable sort: the services ranked by their health, the unhealthy below the
healthy below the unknown, and services of one health in the order of the snapshot. A list that is
sorted by rank consists of its three groups, and a stable sort keeps each group as it is.
-/
namespace StatusBoard

/-- The place of a health in the priority order. -/
def Health.rank : Health → Nat
  | .unhealthy => 0
  | .healthy => 1
  | .unknown => 2

namespace Service

/-- Whether a service may stand before another one. -/
def ranksBefore (s t : Service) : Bool := s.health.rank ≤ t.health.rank

theorem ranksBefore_trans (s t u : Service) (hst : ranksBefore s t = true)
    (htu : ranksBefore t u = true) : ranksBefore s u = true := by
  simp only [ranksBefore, decide_eq_true_eq] at hst htu ⊢
  exact Nat.le_trans hst htu

theorem ranksBefore_total (s t : Service) : (ranksBefore s t || ranksBefore t s) = true := by
  simp only [ranksBefore, Bool.or_eq_true, decide_eq_true_eq]
  exact Nat.le_total _ _

end Service

namespace Partition

/-- A sorted list is in priority order. -/
theorem inPriorityOrder_of_sorted (ss : List Service)
    (hss : ss.Pairwise fun s t => Service.ranksBefore s t) :
    (ofServices ss).inPriorityOrder = ss := by
  induction ss with
  | nil => rfl
  | cons s rest ih =>
    obtain ⟨hs, hrest⟩ := List.pairwise_cons.mp hss
    have hgroups := ih hrest
    have hnone : ∀ h : Health, h.rank < s.health.rank → rest.filter (·.health = h) = [] := by
      intro h hlt
      rw [List.filter_eq_nil_iff]
      intro t ht heq
      have hle := hs t ht
      simp only [Service.ranksBefore, decide_eq_true_eq] at hle heq
      rw [heq] at hle
      exact absurd hlt (Nat.not_lt_of_le hle)
    simp only [ofServices, inPriorityOrder] at hgroups ⊢
    cases hhealth : s.health with
    | unhealthy => simpa [hhealth] using hgroups
    | healthy =>
      have hunhealthy := hnone .unhealthy (by rw [hhealth]; decide)
      rw [hunhealthy] at hgroups
      simpa [hhealth, hunhealthy] using hgroups
    | unknown =>
      have hunhealthy := hnone .unhealthy (by rw [hhealth]; decide)
      have hhealthy := hnone .healthy (by rw [hhealth]; decide)
      rw [hunhealthy, hhealthy] at hgroups
      simpa [hhealth, hunhealthy, hhealthy] using hgroups

/-- Sorting leaves the services of one health in their order. -/
theorem filter_mergeSort (ss : List Service) (h : Health) :
    (ss.mergeSort Service.ranksBefore).filter (·.health = h) = ss.filter (·.health = h) := by
  have hequal : (ss.filter (·.health = h)).Pairwise fun s t => Service.ranksBefore s t := by
    rw [List.pairwise_iff_forall_sublist]
    intro s t hst
    have hs : s.health = h := by simpa using (List.mem_filter.mp (hst.subset (by simp))).2
    have ht : t.health = h := by simpa using (List.mem_filter.mp (hst.subset (by simp))).2
    simp [Service.ranksBefore, hs, ht]
  have hkept : (ss.filter (·.health = h)).Sublist (ss.mergeSort Service.ranksBefore) :=
    List.sublist_mergeSort Service.ranksBefore_trans Service.ranksBefore_total hequal
      List.filter_sublist
  have hgroup := hkept.filter (·.health = h)
  rw [List.filter_filter] at hgroup
  simp only [Bool.and_self] at hgroup
  have hlength := ((List.mergeSort_perm ss Service.ranksBefore).filter (·.health = h)).length_eq
  exact (hgroup.eq_of_length hlength.symm).symm

theorem inPriorityOrder_eq_mergeSort (ss : List Service) :
    (ofServices ss).inPriorityOrder = ss.mergeSort Service.ranksBefore := by
  have hsorted := List.pairwise_mergeSort Service.ranksBefore_trans Service.ranksBefore_total ss
  have hgroups := inPriorityOrder_of_sorted _ hsorted
  simp only [ofServices, filter_mergeSort] at hgroups
  exact hgroups

end Partition

end StatusBoard
