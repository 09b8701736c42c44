import StatusBoard.Proofs.Plan.Split
import StatusBoard.Proofs.Snapshot.Ranking
import Mathlib.Data.List.Infix

/-!
What a plan decides for each service, said of the services before it. In priority order a service
is created exactly when its name has no entry and no service before it carries the name; all others
are updates, each of a name that has an entry or is created before. The decisions split the
snapshot and keep its order, and its counts do not depend on what has an entry.
-/
namespace StatusBoard.Plan

/-- The services of a list, each behind those that come before it. -/
def placed (ss : List Service) : List (List Service × Service) :=
  ss.inits.zip ss

/-- Whether a service is the first one of its name, and the name has no entry. -/
def IsFirst (known : String → Bool) (before : List Service) (s : Service) : Prop :=
  known s.name = false ∧ ∀ t ∈ before, t.name ≠ s.name

instance (known : String → Bool) (before : List Service) (s : Service) :
    Decidable (IsFirst known before s) :=
  inferInstanceAs (Decidable (_ ∧ _))

/-- The first services of all names that have no entry. -/
def firsts (known : String → Bool) (ss : List Service) : List Service :=
  ((placed ss).filter fun x => IsFirst known x.1 x.2).map (·.2)

/-- The services of the names that have an entry, and those that are not the first of their name. -/
def others (known : String → Bool) (ss : List Service) : List Service :=
  ((placed ss).filter fun x => ¬ IsFirst known x.1 x.2).map (·.2)

section Places

theorem placed_cons (s : Service) (rest : List Service) :
    placed (s :: rest) = ([], s) :: (placed rest).map fun x => (s :: x.1, x.2) := by
  rw [placed, List.inits_cons, List.zip_cons_cons, List.zip_map_left]
  rfl

theorem map_snd_placed (ss : List Service) : (placed ss).map (·.2) = ss :=
  List.map_snd_zip (by simp)

theorem mem_placed {ss before : List Service} {s : Service} :
    (before, s) ∈ placed ss ↔ ∃ rest, ss = before ++ s :: rest := by
  induction ss generalizing before with
  | nil => simp [placed]
  | cons t ss ih =>
    rw [placed_cons, List.mem_cons, List.mem_map]
    constructor
    · rintro (heq | ⟨⟨front, u⟩, hfront, heq⟩)
      · obtain ⟨rfl, rfl⟩ := Prod.mk.inj heq
        exact ⟨ss, rfl⟩
      · obtain ⟨rfl, rfl⟩ := Prod.mk.inj heq
        obtain ⟨rest, hrest⟩ := ih.mp hfront
        exact ⟨rest, congrArg (t :: ·) hrest⟩
    · rintro ⟨rest, hrest⟩
      cases before with
      | nil =>
        obtain ⟨rfl, -⟩ := List.cons.inj hrest
        exact Or.inl rfl
      | cons u front =>
        obtain ⟨rfl, hss⟩ := List.cons.inj hrest
        exact Or.inr ⟨(front, s), ih.mpr ⟨rest, hss⟩, rfl⟩

theorem mem_firsts {known : String → Bool} {ss : List Service} {c : Service} :
    c ∈ firsts known ss ↔ ∃ before rest, ss = before ++ c :: rest ∧ IsFirst known before c := by
  simp only [firsts, List.mem_map, List.mem_filter, decide_eq_true_eq, Prod.exists]
  constructor
  · rintro ⟨before, c, ⟨hplaced, hfirst⟩, rfl⟩
    obtain ⟨rest, hrest⟩ := mem_placed.mp hplaced
    exact ⟨before, rest, hrest, hfirst⟩
  · rintro ⟨before, rest, hrest, hfirst⟩
    exact ⟨before, c, ⟨mem_placed.mpr ⟨rest, hrest⟩, hfirst⟩, rfl⟩

theorem filter_placed_sublist (keep : List Service × Service → Bool) (ss : List Service) :
    (((placed ss).filter keep).map (·.2)).Sublist ss := by
  have hkept := (List.filter_sublist (l := placed ss) (p := keep)).map (·.2)
  rwa [map_snd_placed] at hkept

theorem firsts_sublist (known : String → Bool) (ss : List Service) :
    (firsts known ss).Sublist ss :=
  filter_placed_sublist _ ss

theorem others_sublist (known : String → Bool) (ss : List Service) :
    (others known ss).Sublist ss :=
  filter_placed_sublist _ ss

end Places

section Splitting

variable (known : String → Bool)

/-- A service in front makes its name known to those behind it. -/
theorem isFirst_cons (s : Service) (before : List Service) (t : Service) :
    IsFirst known (s :: before) t ↔ IsFirst (fun x => known x || x == s.name) before t := by
  simp only [IsFirst, List.forall_mem_cons, Bool.or_eq_false_iff, beq_eq_false_iff_ne, ne_comm,
    and_assoc]

theorem firsts_cons (s : Service) (rest : List Service) :
    firsts known (s :: rest) =
      (if known s.name then [] else [s]) ++ firsts (fun x => known x || x == s.name) rest := by
  have hhead : IsFirst known [] s ↔ ¬ known s.name = true := by simp [IsFirst]
  simp only [firsts, placed_cons, List.filter_cons, hhead, List.filter_map, Function.comp_def,
    isFirst_cons]
  cases known s.name <;> simp

theorem others_cons (s : Service) (rest : List Service) :
    others known (s :: rest) =
      (if known s.name then [s] else []) ++ others (fun x => known x || x == s.name) rest := by
  have hhead : IsFirst known [] s ↔ ¬ known s.name = true := by simp [IsFirst]
  simp only [others, placed_cons, List.filter_cons, hhead, List.filter_map, Function.comp_def,
    isFirst_cons]
  cases known s.name <;> simp

/-- The names that a split knows to begin with are those with entries and those created before. -/
theorem split_eq (created : List String) (ss : List Service) :
    split known created ss =
      (firsts (fun x => known x || x ∈ created) ss,
        others (fun x => known x || x ∈ created) ss) := by
  induction ss generalizing created with
  | nil => rfl
  | cons s rest ih =>
    rw [firsts_cons, others_cons]
    cases hs : known s.name || decide (s.name ∈ created) with
    | true =>
      have hsame : (fun x => (known x || decide (x ∈ created)) || x == s.name) =
          fun x => known x || decide (x ∈ created) := by
        funext x
        by_cases hx : x = s.name
        · rw [hx, hs, Bool.true_or]
        · rw [beq_eq_false_iff_ne.mpr hx, Bool.or_false]
      rw [split_cons_known known created s rest hs, ih, hsame]
      rfl
    | false =>
      have hlearnt : (fun x => (known x || decide (x ∈ created)) || x == s.name) =
          fun x => known x || decide (x ∈ s.name :: created) := by
        funext x
        simp only [List.mem_cons, Bool.decide_or, Bool.or_assoc, beq_eq_decide]
        rw [Bool.or_comm (decide (x ∈ created))]
      rw [split_cons_new known created s rest hs, ih, hlearnt]
      rfl

theorem split_eq_firsts_others (ss : List Service) :
    split known [] ss = (firsts known ss, others known ss) := by
  rw [split_eq]
  simp

theorem nodup_creates (created : List String) (ss : List Service) :
    ((split known created ss).1.map (·.name)).Nodup := by
  induction ss generalizing created with
  | nil => exact List.nodup_nil
  | cons s rest ih =>
    cases hs : known s.name || decide (s.name ∈ created) with
    | true =>
      rw [split_cons_known known created s rest hs]
      exact ih created
    | false =>
      rw [split_cons_new known created s rest hs, List.map_cons, List.nodup_cons]
      refine ⟨?_, ih (s.name :: created)⟩
      intro hmem
      obtain ⟨c, hc, hname⟩ := List.mem_map.mp hmem
      have hfresh := fresh_of_mem_creates known (s.name :: created) rest c hc
      simp [hname] at hfresh

/-- Among services that carry a name without an entry there is a first one. -/
theorem exists_first {ss : List Service} {t : Service} (ht : t ∈ ss)
    (hnew : known t.name = false) : ∃ c ∈ firsts known ss, c.name = t.name := by
  have hsplit := split_eq_firsts_others known ss
  have hparts := ((split_perm known [] ss).mem_iff (a := t)).mpr ht
  rcases List.mem_append.mp hparts with hcreate | hupdate
  · rw [hsplit] at hcreate
    exact ⟨t, hcreate, rfl⟩
  · rcases named_of_mem_updates known [] ss t hupdate with hknown | hcreated
    · simp [hnew] at hknown
    · rw [hsplit] at hcreated
      exact List.mem_map.mp hcreated

/-- Who is not the first of a new name comes behind the first one. -/
theorem known_or_first_of_not_isFirst {before : List Service} {u : Service}
    (hlater : ¬ IsFirst known before u) :
    known u.name = true ∨
      ∃ front c back, before = front ++ c :: back ∧ IsFirst known front c ∧ c.name = u.name := by
  cases hu : known u.name with
  | true => exact Or.inl rfl
  | false =>
    right
    have hbefore : ∃ t ∈ before, t.name = u.name := by
      simpa [IsFirst, hu] using hlater
    obtain ⟨t, ht, hname⟩ := hbefore
    obtain ⟨c, hc, hcname⟩ := exists_first known ht (hname ▸ hu)
    obtain ⟨front, back, hfront, hfirst⟩ := mem_firsts.mp hc
    exact ⟨front, c, back, hfront, hfirst, hcname.trans hname⟩

end Splitting

/-- What a plan for a snapshot fulfils when `known` tells which names have entries. -/
structure Fits (known : String → Bool) (snapshot : Snapshot) (plan : Plan) : Prop where
  /-- No service is lost and none is doubled. -/
  perm : (plan.creates ++ plan.updates).Perm snapshot.services
  /-- The priority order is a stable sort. -/
  sorted : (Partition.ofServices snapshot.services).inPriorityOrder =
    snapshot.services.mergeSort Service.ranksBefore
  creates_sublist :
    plan.creates.Sublist (Partition.ofServices snapshot.services).inPriorityOrder
  updates_sublist :
    plan.updates.Sublist (Partition.ofServices snapshot.services).inPriorityOrder
  nodup : (plan.creates.map (·.name)).Nodup
  new : ∀ c ∈ plan.creates, known c.name = false
  creates_eq : plan.creates = firsts known (Partition.ofServices snapshot.services).inPriorityOrder
  updates_eq : plan.updates = others known (Partition.ofServices snapshot.services).inPriorityOrder
  /-- The name of an update has an entry, or a service before it creates one. -/
  named : ∀ before u rest,
    (Partition.ofServices snapshot.services).inPriorityOrder = before ++ u :: rest →
    ¬ IsFirst known before u → known u.name = true ∨
      ∃ front c back, before = front ++ c :: back ∧ IsFirst known front c ∧ c.name = u.name
  counts : plan.counts = .ofServices snapshot.services
  total : plan.counts.total =
    plan.counts.healthy + plan.counts.unhealthy + plan.counts.unknown
  total_services : plan.counts.total = snapshot.services.length
  total_decided : plan.counts.total = plan.creates.length + plan.updates.length

/-- The plan for a snapshot against a set of names, for every snapshot and every set. -/
theorem fits_against (existing : Std.ExtHashSet String) (snapshot : Snapshot) :
    (against existing snapshot).Fits existing.contains snapshot := by
  have hsplit := split_eq_firsts_others existing.contains snapshot.ranked
  have hcreates : (against existing snapshot).creates = firsts existing.contains snapshot.ranked :=
    congrArg Prod.fst hsplit
  have hupdates : (against existing snapshot).updates = others existing.contains snapshot.ranked :=
    congrArg Prod.snd hsplit
  have hperm : ((against existing snapshot).creates ++ (against existing snapshot).updates).Perm
      snapshot.services :=
    (split_perm existing.contains [] snapshot.ranked).trans snapshot.ranked_perm
  have hcounts : (against existing snapshot).counts = .ofServices snapshot.services :=
    Partition.counts_ofServices snapshot.services
  exact {
    perm := hperm
    sorted := Partition.inPriorityOrder_eq_mergeSort snapshot.services
    creates_sublist := by
      rw [hcreates]
      exact firsts_sublist existing.contains snapshot.ranked
    updates_sublist := by
      rw [hupdates]
      exact others_sublist existing.contains snapshot.ranked
    nodup := nodup_creates existing.contains [] snapshot.ranked
    new := by
      intro c hc
      simpa using fresh_of_mem_creates existing.contains [] snapshot.ranked c hc
    creates_eq := hcreates
    updates_eq := hupdates
    named := fun _ _ _ _ hlater => known_or_first_of_not_isFirst existing.contains hlater
    counts := hcounts
    total := by
      rw [hcounts, Counts.total_ofServices]
      omega
    total_services := by rw [hcounts]; rfl
    total_decided := by
      rw [hcounts, ← List.length_append, hperm.length_eq]
      rfl }

end StatusBoard.Plan
