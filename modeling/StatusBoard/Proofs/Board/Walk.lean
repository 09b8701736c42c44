import StatusBoard.Board.Basic
import StatusBoard.Proofs.Plan.Split
import StatusBoard.Proofs.Snapshot.Priority
import Mathlib.Logic.Function.Basic

/-!
A pass that handles one service at a time: it walks the services in priority order, creates an
entry for a name that it does not know yet and overwrites the entry of one that it knows. A pass
that plans everything, creates all entries and then updates the others comes to the same board
and the same outcome. Creates move before updates of other names, which they cannot disturb, and
no create of a name comes after an update of it.
-/
namespace StatusBoard.Board

variable {m : Type → Type} [Monad m]

/-- Gives a service an entry of its own, behind all others. The pass created it and touched it last,
and its APIs are rendered once and for all. -/
def enroll (r : Renderer m) (pass : Nat) (b : Board) (s : Service) : m Board := do
  let markup ← r.apis s
  pure { b with
    order := b.order ++ [s.name]
    entries := b.entries.insert s.name {
      name := s.name
      health := s.health
      indicator := .ofHealth s.health
      instances := s.instances
      healthy := s.healthy
      unhealthy := s.unhealthy
      apis := s.apis
      apiMarkup := markup
      createdPass := pass
      updatedPass := pass } }

/-- Overwrites what changes in the entry of a service; it keeps its name, its APIs and the pass
that created it. -/
def overwrite (pass : Nat) (b : Board) (s : Service) : Board :=
  { b with entries := b.entries.modify s.name fun e => {
      name := e.name
      health := s.health
      indicator := .ofHealth s.health
      instances := s.instances
      healthy := s.healthy
      unhealthy := s.unhealthy
      apis := e.apis
      apiMarkup := e.apiMarkup
      createdPass := e.createdPass
      updatedPass := pass } }

/-- A walk: the board so far, the names known so far, and what was done. -/
structure Walk where
  board : Board
  known : String → Bool
  creates : List Service
  updates : List Service

namespace Walk

/-- At its start a walk knows the names on the board. -/
def start (b : Board) : Walk := ⟨b, b.contains, [], []⟩

/-- One service: known, its entry is overwritten; new, it gets an entry and its name is known. -/
def visit (r : Renderer m) (pass : Nat) (w : Walk) (s : Service) : m Walk :=
  if w.known s.name then
    pure { w with board := w.board.overwrite pass s, updates := w.updates ++ [s] }
  else do
    let board ← w.board.enroll r pass s
    pure ⟨board, Function.update w.known s.name true, w.creates ++ [s], w.updates⟩

/-- What a walk comes to; the names known are of no use after it. -/
def result (w : Walk) : Board × List Service × List Service :=
  (w.board, w.creates, w.updates)

end Walk

/-- One pass at a given time, one service after another. -/
def walk (r : Renderer m) (now : Nat) (b : Board) (snapshot : Snapshot) :
    m (Board × Outcome) := do
  let pass := b.passes + 1
  let counts := Counts.ofServices snapshot.services
  let w ← snapshot.ranked.foldlM (Walk.visit r pass) (.start b)
  pure ({ w.board with
      clientId := some snapshot.clientId
      counts := counts
      passes := pass
      reconciledAt := some now },
    ⟨w.creates, w.updates, counts⟩)

theorem create_eq_enroll (r : Renderer m) (pass : Nat) : create r pass = enroll r pass := rfl

theorem update_eq_overwrite (pass : Nat) (b : Board) (s : Service) :
    update pass b s = overwrite pass b s := by
  have hentries : (overwrite pass b s).entries =
      b.entries.modify s.name (·.apply s pass) := rfl
  cases h : b.entry? s.name with
  | none =>
    have hkey : b.entries[s.name]? = none := h
    have hsame : b.entries.modify s.name (·.apply s pass) = b.entries := by
      ext1 k
      rw [Std.ExtHashMap.getElem?_modify]
      by_cases hk : s.name = k
      · subst hk
        simp [hkey]
      · simp [hk]
    simp only [update, h]
    exact congrArg (fun es => { b with entries := es }) (hentries ▸ hsame).symm
  | some e =>
    have hkey : b.entries[s.name]? = some e := h
    have hsame : b.entries.insert s.name (e.apply s pass) =
        b.entries.modify s.name (·.apply s pass) := by
      ext1 k
      rw [Std.ExtHashMap.getElem?_insert, Std.ExtHashMap.getElem?_modify]
      by_cases hk : s.name = k
      · subst hk
        simp [hkey]
      · simp [hk]
    simp only [update, h]
    exact congrArg (fun es => { b with entries := es }) hsame

section Commutation

variable [LawfulMonad m]

/-- A new entry and an overwritten one of another name do not interfere. -/
theorem enroll_overwrite (r : Renderer m) (pass : Nat) (b : Board) (s u : Service)
    (hne : s.name ≠ u.name) :
    enroll r pass (overwrite pass b u) s = (overwrite pass · u) <$> enroll r pass b s := by
  have hmap (e : Entry) (f : Entry → Entry) :
      (b.entries.modify u.name f).insert s.name e = (b.entries.insert s.name e).modify u.name f := by
    ext1 k
    simp only [Std.ExtHashMap.getElem?_insert, Std.ExtHashMap.getElem?_modify, beq_iff_eq]
    by_cases hs : s.name = k
    · subst hs
      simp [hne.symm]
    · by_cases hu : u.name = k
      · subst hu
        simp [hs]
      · simp [hs, hu]
  simp only [enroll, overwrite, map_bind, map_pure, hmap]

theorem foldlM_enroll_overwrite (r : Renderer m) (pass : Nat) (b : Board) (creates : List Service)
    (u : Service) (hne : ∀ s ∈ creates, s.name ≠ u.name) :
    creates.foldlM (enroll r pass) (overwrite pass b u) =
      (overwrite pass · u) <$> creates.foldlM (enroll r pass) b := by
  induction creates generalizing b with
  | nil => simp
  | cons s rest ih =>
    have hs : s.name ≠ u.name := hne s List.mem_cons_self
    have hrest : ∀ c ∈ rest, c.name ≠ u.name := fun c hc => hne c (List.mem_cons_of_mem s hc)
    simp only [List.foldlM_cons, enroll_overwrite r pass b s u hs, bind_map_left, map_bind]
    exact bind_congr fun b' => ih b' hrest

/-- A walk over services does what enrolling the new ones and then overwriting the others does.
The names that `split` holds in `created` are among those that the walk knows. -/
theorem foldlM_visit (r : Renderer m) (pass : Nat) (known : String → Bool) (ss : List Service)
    (created : List String) (w : Walk) (hknown : ∀ x, w.known x = (known x || x ∈ created)) :
    Walk.result <$> ss.foldlM (Walk.visit r pass) w =
      (fun b => ((Plan.split known created ss).2.foldl (overwrite pass) b,
        w.creates ++ (Plan.split known created ss).1,
        w.updates ++ (Plan.split known created ss).2)) <$>
          (Plan.split known created ss).1.foldlM (enroll r pass) w.board := by
  induction ss generalizing created w with
  | nil => simp [Plan.split, Walk.result]
  | cons s rest ih =>
    rw [List.foldlM_cons, Walk.visit, hknown s.name]
    cases hs : known s.name || decide (s.name ∈ created) with
    | true =>
      -- the overwriting moves behind the creates that are still to come
      have hlater : ∀ c ∈ (Plan.split known created rest).1, c.name ≠ s.name := by
        intro c hc heq
        have hfresh := Plan.fresh_of_mem_creates known created rest c hc
        rw [heq, hs] at hfresh
        exact Bool.noConfusion hfresh
      have hrest := ih created ⟨w.board.overwrite pass s, w.known, w.creates, w.updates ++ [s]⟩
        hknown
      rw [foldlM_enroll_overwrite r pass _ _ s hlater] at hrest
      simp only [if_true, pure_bind, hrest, Plan.split_cons_known known created s rest hs,
        Functor.map_map, List.foldl_cons, List.append_assoc, List.singleton_append]
    | false =>
      have hnext : ∀ x, Function.update w.known s.name true x =
          (known x || x ∈ s.name :: created) := by
        intro x
        by_cases hx : x = s.name
        · simp [hx]
        · simp [hx, hknown]
      have hrest (b : Board) := ih (s.name :: created)
        ⟨b, Function.update w.known s.name true, w.creates ++ [s], w.updates⟩ hnext
      simp only [Bool.false_eq_true, if_false, bind_assoc, pure_bind, map_bind, hrest,
        Plan.split_cons_new known created s rest hs, List.foldlM_cons, List.append_assoc,
        List.singleton_append]

/-- Two phases or one service at a time: the same computation, for each renderer and whatever
its effects are. -/
theorem reconcile_eq_walk (r : Renderer m) (now : Nat) (b : Board) (snapshot : Snapshot) :
    b.reconcile r now snapshot = b.walk r now snapshot := by
  have hvisit := foldlM_visit r (b.passes + 1) b.contains snapshot.ranked [] (.start b)
    (fun x => by simp [Walk.start])
  have hcounts := Partition.counts_ofServices snapshot.services
  have hfinish : b.walk r now snapshot =
      (Walk.result <$> snapshot.ranked.foldlM (Walk.visit r (b.passes + 1)) (.start b)) >>=
        fun (board, creates, updates) =>
          pure ({ board with
              clientId := some snapshot.clientId
              counts := Counts.ofServices snapshot.services
              passes := b.passes + 1
              reconciledAt := some now },
            ⟨creates, updates, Counts.ofServices snapshot.services⟩) := by
    simp only [walk, bind_map_left]
    rfl
  have hupdate : update (b.passes + 1) = overwrite (b.passes + 1) := by
    funext c s
    exact update_eq_overwrite (b.passes + 1) c s
  rw [hfinish, hvisit, bind_map_left, reconcile, create_eq_enroll, hupdate, ← hcounts]
  rfl

end Commutation

theorem contains_create (r : Renderer Id) (pass : Nat) (b : Board) (s : Service) (x : String) :
    (create r pass b s).run.contains x = (s.name == x || b.contains x) :=
  Std.ExtHashMap.contains_insert

theorem contains_foldlM_create (r : Renderer Id) (pass : Nat) (b : Board)
    (creates : List Service) (x : String) :
    (creates.foldlM (create r pass) b).run.contains x =
      (x ∈ creates.map (·.name) || b.contains x) := by
  induction creates generalizing b with
  | nil => simp
  | cons s rest ih =>
    rw [List.foldlM_cons, Id.run_bind, ih, contains_create]
    cases hx : s.name == x with
    | true =>
      have heq : s.name = x := by simpa using hx
      simp [heq]
    | false =>
      have hne : x ≠ s.name := Ne.symm (beq_eq_false_iff_ne.mp hx)
      simp [hne]

theorem contains_overwrite (pass : Nat) (b : Board) (s : Service) (x : String) :
    (overwrite pass b s).contains x = b.contains x :=
  Std.ExtHashMap.contains_modify

theorem contains_foldl_update (pass : Nat) (b : Board) (updates : List Service) (x : String) :
    (updates.foldl (update pass) b).contains x = b.contains x := by
  induction updates generalizing b with
  | nil => rfl
  | cons s rest ih =>
    rw [List.foldl_cons, ih, update_eq_overwrite, contains_overwrite]

/-- A pass is a walk, for each renderer and whatever its effects are, and no update of a pass
meets a board without an entry of its name. -/
theorem reconcile_eq_walk_and_updates_meet_entries (now : Nat) (b : Board) (snapshot : Snapshot) :
    (∀ (m : Type → Type) [Monad m] [LawfulMonad m] (r : Renderer m),
      b.reconcile r now snapshot = b.walk r now snapshot) ∧
    ∀ (r : Renderer Id) (before after : List Service) (s : Service),
      (b.reconcile r now snapshot).run.2.updates = before ++ s :: after →
        (before.foldl (update (b.passes + 1))
          ((b.plan snapshot).creates.foldlM (create r (b.passes + 1)) b).run).contains s.name := by
  refine ⟨fun m _ _ r => reconcile_eq_walk r now b snapshot, ?_⟩
  intro r before after s hsplit
  have hs : s ∈ (Plan.split b.contains [] snapshot.ranked).2 := by
    have hupdates : (Plan.split b.contains [] snapshot.ranked).2 = before ++ s :: after := hsplit
    simp [hupdates]
  have hcreates : (b.plan snapshot).creates = (Plan.split b.contains [] snapshot.ranked).1 := rfl
  rw [contains_foldl_update, contains_foldlM_create, hcreates]
  rcases Plan.named_of_mem_updates b.contains [] snapshot.ranked s hs with hknown | hcreated
  · simp only [List.not_mem_nil, decide_false, Bool.or_false] at hknown
    rw [hknown, Bool.or_true]
  · rw [decide_eq_true hcreated, Bool.true_or]

end StatusBoard.Board
