import StatusBoard.Proofs.Json.Grammar

/-!
Values that texts can be written for. An array or object is one exactly when its parts are, so that
parts may be exchanged.
-/
namespace StatusBoard.Json

open Grammar

def Grammatical (d : Draft) : Prop :=
  ∃ t, IsDocument d t

theorem grammatical_iff_exists_spells (d : Draft) :
    Grammatical d ↔ ∃ t, Spells (.value d) t := by
  constructor
  · rintro ⟨_, h⟩
    cases h with
    | mk t _ _ _ hd _ => exact ⟨t, hd⟩
  · rintro ⟨t, hd⟩
    exact ⟨_, .mk d t [] [] spaces_nil hd spaces_nil⟩

theorem exists_spells_items_iff {ds : List Draft} (hne : ds ≠ []) :
    (∃ t, Spells (.items ds) t) ↔ ∀ d ∈ ds, Grammatical d := by
  induction ds with
  | nil => exact absurd rfl hne
  | cons d ds ih =>
    rw [List.forall_mem_cons, grammatical_iff_exists_spells]
    constructor
    · rintro ⟨_, h⟩
      cases h with
      | lastItem _ t _ _ _ hd _ => exact ⟨⟨t, hd⟩, fun e he => absurd he List.not_mem_nil⟩
      | item _ _ t _ _ w _ hd _ hds =>
        refine ⟨⟨t, hd⟩, fun e he => ?_⟩
        exact (ih (List.ne_nil_of_mem he)).mp ⟨w, hds⟩ e he
    · rintro ⟨⟨t, hd⟩, hds⟩
      cases ds with
      | nil => exact ⟨_, .lastItem d t [] [] spaces_nil hd spaces_nil⟩
      | cons e es =>
        obtain ⟨w, hw⟩ := (ih (List.cons_ne_nil e es)).mpr hds
        exact ⟨_, .item d (e :: es) t [] [] w spaces_nil hd spaces_nil hw⟩

theorem grammatical_array_iff (ds : List Draft) :
    Grammatical (.array ds true) ↔ ∀ d ∈ ds, Grammatical d := by
  rw [grammatical_iff_exists_spells]
  by_cases hne : ds = []
  · subst hne
    exact iff_of_true ⟨_, .emptyArray [] spaces_nil⟩ fun d hd => absurd hd List.not_mem_nil
  · rw [← exists_spells_items_iff hne]
    constructor
    · rintro ⟨_, h⟩
      cases h with
      | emptyArray => exact absurd rfl hne
      | array _ t h => exact ⟨t, h⟩
    · rintro ⟨t, h⟩
      exact ⟨_, .array ds t h⟩

/-- A key and a value that texts can be written for. -/
def GrammaticalMember (m : Option String × Draft) : Prop :=
  (∃ t, Quoted m.1 t) ∧ Grammatical m.2

theorem exists_spells_members_iff {ms : List (Option String × Draft)} (hne : ms ≠ []) :
    (∃ t, Spells (.members ms) t) ↔ ∀ m ∈ ms, GrammaticalMember m := by
  have hkey : ∀ k, (∃ t, Key k t) ↔ ∃ t, Quoted k t := by
    intro k
    constructor
    · rintro ⟨_, h⟩
      cases h with
      | mk t _ _ _ hk _ _ _ => exact ⟨t, hk⟩
    · rintro ⟨t, hk⟩
      exact ⟨_, .mk k t [] [] [] hk spaces_nil spaces_nil spaces_nil⟩
  induction ms with
  | nil => exact absurd rfl hne
  | cons m ms ih =>
    obtain ⟨k, d⟩ := m
    rw [List.forall_mem_cons, GrammaticalMember, grammatical_iff_exists_spells, ← hkey]
    constructor
    · rintro ⟨_, h⟩
      cases h with
      | lastMember _ _ t u _ hk hd _ =>
        exact ⟨⟨⟨t, hk⟩, ⟨u, hd⟩⟩, fun m hm => absurd hm List.not_mem_nil⟩
      | member _ _ _ t u _ w hk hd _ hms =>
        refine ⟨⟨⟨t, hk⟩, ⟨u, hd⟩⟩, fun m hm => ?_⟩
        exact (ih (List.ne_nil_of_mem hm)).mp ⟨w, hms⟩ m hm
    · rintro ⟨⟨⟨t, hk⟩, ⟨u, hd⟩⟩, hms⟩
      cases ms with
      | nil => exact ⟨_, .lastMember k d t u [] hk hd spaces_nil⟩
      | cons n ns =>
        obtain ⟨w, hw⟩ := (ih (List.cons_ne_nil n ns)).mpr hms
        exact ⟨_, .member k d (n :: ns) t u [] w hk hd spaces_nil hw⟩

theorem grammatical_object_iff (ms : List (Option String × Draft)) :
    Grammatical (.object ms true) ↔ ∀ m ∈ ms, GrammaticalMember m := by
  rw [grammatical_iff_exists_spells]
  by_cases hne : ms = []
  · subst hne
    exact iff_of_true ⟨_, .emptyObject [] spaces_nil⟩ fun m hm => absurd hm List.not_mem_nil
  · rw [← exists_spells_members_iff hne]
    constructor
    · rintro ⟨_, h⟩
      cases h with
      | emptyObject => exact absurd rfl hne
      | object _ t h => exact ⟨t, h⟩
    · rintro ⟨t, h⟩
      exact ⟨_, .object ms t h⟩

end StatusBoard.Json
