import StatusBoard.Proofs.Board.History
import Mathlib.Data.List.Forall2
import Mathlib.Data.List.Perm.Basic

/-!
Entries of different names are isolated from each other. What becomes of the entry of a name depends
on the services of that name alone, and of these only on their order within each health: two
histories that agree on them pass by pass lead to the same entry, whatever else they say. So the
order of a snapshot means nothing as long as no name stands in it twice.
-/
namespace StatusBoard

namespace Snapshot

/-- The same services carry the name in both snapshots, those of each health in the same order. -/
def AgreeOn (x : String) (d e : Snapshot) : Prop :=
  ∀ health : Health,
    d.services.filter (fun s => s.name = x ∧ s.health = health) =
      e.services.filter (fun s => s.name = x ∧ s.health = health)

theorem sightings_eq (d : Snapshot) (x : String) :
    d.sightings x =
      d.services.filter (fun s => s.name = x ∧ s.health = .unhealthy) ++
        d.services.filter (fun s => s.name = x ∧ s.health = .healthy) ++
          d.services.filter (fun s => s.name = x ∧ s.health = .unknown) := by
  simp only [sightings, ranked, List.filter_append, List.filter_filter, Bool.decide_and]

theorem AgreeOn.sightings_eq {x : String} {d e : Snapshot} (h : AgreeOn x d e) :
    d.sightings x = e.sightings x := by
  rw [Snapshot.sightings_eq, Snapshot.sightings_eq, h .unhealthy, h .healthy, h .unknown]

theorem AgreeOn.refl (x : String) (d : Snapshot) : AgreeOn x d d := fun _ => rfl

/-- Of services with distinct names at most one carries the name, wherever it stands. -/
theorem agreeOn_of_perm {d e : Snapshot} (hperm : d.services.Perm e.services)
    (hnames : (d.services.map (·.name)).Nodup) (x : String) : AgreeOn x d e := by
  intro health
  have hdistinct : d.services.Pairwise (fun s t => s.name ≠ t.name) := List.pairwise_map.mp hnames
  have hdistinct' : e.services.Pairwise (fun s t => s.name ≠ t.name) :=
    hperm.pairwise hdistinct Ne.symm
  refine List.Perm.eq_of_pairwise ?_ (hdistinct.filter _) (hdistinct'.filter _) (hperm.filter _)
  intro s t hs ht hne
  have hsx : s.name = x := (of_decide_eq_true (List.mem_filter.mp hs).2).1
  have htx : t.name = x := (of_decide_eq_true (List.mem_filter.mp ht).2).1
  exact absurd (hsx.trans htx.symm) hne

end Snapshot

namespace Board

open Snapshot (AgreeOn)

variable (r : Renderer Id)

/-- The step: passes that agree on a name do the same to its entry. -/
theorem getElem?_advance_congr {x : String} {b c : Board} {p q : Pass}
    (hpasses : b.passes = c.passes) (hentry : b.entries[x]? = c.entries[x]?)
    (hsame : AgreeOn x p.snapshot q.snapshot) :
    (advance r b p).entries[x]? = (advance r c q).entries[x]? := by
  rw [getElem?_advance, getElem?_advance, hpasses, hentry, hsame.sightings_eq]

theorem getElem?_foldl_advance_congr {x : String} {h k : List Pass}
    (hsame : List.Forall₂ (fun p q => AgreeOn x p.snapshot q.snapshot) h k) (b c : Board)
    (hpasses : b.passes = c.passes) (hentry : b.entries[x]? = c.entries[x]?) :
    (h.foldl (advance r) b).entries[x]? = (k.foldl (advance r) c).entries[x]? := by
  induction hsame generalizing b c with
  | nil => exact hentry
  | @cons p q h k hpq _ ih =>
    have hnext : (advance r b p).passes = (advance r c q).passes := by
      rw [passes_advance, passes_advance, hpasses]
    exact ih (advance r b p) (advance r c q) hnext
      (getElem?_advance_congr r hpasses hentry hpq)

theorem getElem?_after_congr {x : String} {h k : List Pass}
    (hsame : List.Forall₂ (fun p q => AgreeOn x p.snapshot q.snapshot) h k) :
    (after r h).entries[x]? = (after r k).entries[x]? :=
  getElem?_foldl_advance_congr r hsame .empty .empty rfl rfl

/-- Histories that agree on a name lead to the same entry of it, or to none; reordering a snapshot
in which no name stands twice changes no entry. -/
theorem entry_depends_on_own_services (h k : List Pass) :
    (∀ x : String, List.Forall₂ (fun p q => AgreeOn x p.snapshot q.snapshot) h k →
      (after r h).entries[x]? = (after r k).entries[x]?) ∧
    ∀ p q : Pass, p.snapshot.services.Perm q.snapshot.services →
      (p.snapshot.services.map (·.name)).Nodup →
        ∀ x : String, (after r (h ++ p :: k)).entries[x]? = (after r (h ++ q :: k)).entries[x]? := by
  constructor
  · intro x hsame
    exact getElem?_after_congr r hsame
  · intro p q hperm hnames x
    have hself (l : List Pass) :
        List.Forall₂ (fun p q => AgreeOn x p.snapshot q.snapshot) l l :=
      List.forall₂_same.mpr fun t _ => AgreeOn.refl x t.snapshot
    have hmiddle : AgreeOn x p.snapshot q.snapshot := Snapshot.agreeOn_of_perm hperm hnames x
    apply getElem?_after_congr
    exact List.rel_append (hself h) (.cons hmiddle (hself k))

/-- Another client, other services and another interleaving do not touch the entry of a name that
stands twice in the snapshot. -/
theorem entry_beside_other_services :
    let first : Service := ⟨"a", .unhealthy, 2, 0, 2, [⟨"v1", ["GET"], true, false⟩]⟩
    let second : Service := ⟨"a", .healthy, 3, 3, 0, []⟩
    let other : Service := ⟨"b", .unknown, 1, 0, 0, []⟩
    let h : List Pass := [⟨1, "c", [second, first, other]⟩]
    let k : List Pass := [⟨2, "d", [other, first, other, second]⟩]
    let p : Pass := ⟨3, "c", [first, other]⟩
    let q : Pass := ⟨3, "c", [other, first]⟩
    (after (.html : Renderer Id) h).entries["a"]? = (after .html k).entries["a"]? ∧
      (after (.html : Renderer Id) (h ++ p :: k)).entries["b"]? =
        (after .html (h ++ q :: k)).entries["b"]? := by
  intro first second other h k p q
  have hagree : AgreeOn "a" ⟨"c", [second, first, other]⟩ ⟨"d", [other, first, other, second]⟩ := by
    intro health
    cases health <;> decide
  have hsame : List.Forall₂ (fun p q : Pass => AgreeOn "a" p.snapshot q.snapshot) h k :=
    .cons hagree .nil
  have hperm : p.snapshot.services.Perm q.snapshot.services := .swap other first []
  have hnames : (p.snapshot.services.map (·.name)).Nodup := by decide
  have hentries := entry_depends_on_own_services .html h k
  exact ⟨hentries.1 "a" hsame, hentries.2 p q hperm hnames "b"⟩

end Board

end StatusBoard
