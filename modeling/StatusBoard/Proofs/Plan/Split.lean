import StatusBoard.Board.Plan
import Mathlib.Tactic.Tauto

/-!
Splitting services into creates and updates. A name that is created was new until then, so that
no create comes after a service of its name; the name of an update was known or is created by the
same split.
-/
namespace StatusBoard.Plan

variable (known : String → Bool)

theorem split_cons_known (created : List String) (s : Service) (rest : List Service)
    (hs : (known s.name || s.name ∈ created) = true) :
    split known created (s :: rest) =
      ((split known created rest).1, s :: (split known created rest).2) := by
  simp only [split, hs, if_true]

theorem split_cons_new (created : List String) (s : Service) (rest : List Service)
    (hs : (known s.name || s.name ∈ created) = false) :
    split known created (s :: rest) =
      (s :: (split known (s.name :: created) rest).1, (split known (s.name :: created) rest).2) := by
  simp only [split, hs, Bool.false_eq_true, if_false]

/-- No service is lost and none is doubled. -/
theorem split_perm (created : List String) (ss : List Service) :
    ((split known created ss).1 ++ (split known created ss).2).Perm ss := by
  induction ss generalizing created with
  | nil => exact .nil
  | cons s rest ih =>
    cases hs : known s.name || decide (s.name ∈ created) with
    | true =>
      rw [split_cons_known known created s rest hs]
      exact List.perm_middle.trans ((ih created).cons s)
    | false =>
      rw [split_cons_new known created s rest hs]
      exact (ih (s.name :: created)).cons s

theorem fresh_of_mem_creates (created : List String) (ss : List Service) (c : Service)
    (hc : c ∈ (split known created ss).1) : (known c.name || c.name ∈ created) = false := by
  induction ss generalizing created with
  | nil => simp [split] at hc
  | cons s rest ih =>
    cases hs : known s.name || decide (s.name ∈ created) with
    | true =>
      rw [split_cons_known known created s rest hs] at hc
      exact ih created hc
    | false =>
      rw [split_cons_new known created s rest hs] at hc
      rcases List.mem_cons.mp hc with rfl | hrest
      · exact hs
      · have hfresh := ih (s.name :: created) hrest
        simp only [List.mem_cons, Bool.or_eq_false_iff, decide_eq_false_iff_not, not_or]
          at hfresh ⊢
        exact ⟨hfresh.1, hfresh.2.2⟩

theorem named_of_mem_updates (created : List String) (ss : List Service) (u : Service)
    (hu : u ∈ (split known created ss).2) :
    (known u.name || u.name ∈ created) = true ∨
      u.name ∈ (split known created ss).1.map (·.name) := by
  induction ss generalizing created with
  | nil => simp [split] at hu
  | cons s rest ih =>
    cases hs : known s.name || decide (s.name ∈ created) with
    | true =>
      rw [split_cons_known known created s rest hs] at hu ⊢
      rcases List.mem_cons.mp hu with rfl | hrest
      · exact Or.inl hs
      · exact ih created hrest
    | false =>
      rw [split_cons_new known created s rest hs] at hu ⊢
      rcases ih (s.name :: created) hu with hknown | hcreated
      · simp only [List.mem_cons, Bool.or_eq_true, decide_eq_true_eq, List.map_cons] at hknown ⊢
        tauto
      · exact Or.inr (List.mem_cons_of_mem s.name hcreated)

/-- Services of known names are all updates. -/
theorem split_eq_of_known (created : List String) (ss : List Service)
    (hknown : ∀ s ∈ ss, known s.name = true) : split known created ss = ([], ss) := by
  induction ss with
  | nil => rfl
  | cons s rest ih =>
    have hs : (known s.name || decide (s.name ∈ created)) = true := by
      rw [hknown s List.mem_cons_self, Bool.true_or]
    rw [split_cons_known known created s rest hs,
      ih fun t ht => hknown t (List.mem_cons_of_mem s ht)]

end StatusBoard.Plan
