import StatusBoard.Proofs.Board.History
import Mathlib.Data.List.Basic
import Mathlib.Data.List.Nodup

/-!
What holds of every board that passes lead to. The order lists each key of the entries once, an
entry carries its key as its name, the indicator of its health and the markup of its own APIs, and
its passes lie in order below the number of passes so far. Entering one service keeps all of this,
hence so does a pass and every history of passes.
-/
namespace StatusBoard

/-- An entry that fits its key; no pass after the latest has touched it. -/
structure Entry.Sound (r : Renderer Id) (latest : Nat) (x : String) (e : Entry) : Prop where
  name_eq : e.name = x
  indicator_eq : e.indicator = .ofHealth e.health
  one_le_created : 1 ≤ e.createdPass
  created_le_updated : e.createdPass ≤ e.updatedPass
  updated_le : e.updatedPass ≤ latest
  markup_eq : ∃ s : Service, s.name = e.name ∧ s.apis = e.apis ∧ e.apiMarkup = (r.apis s).run

/-- A board whose order and entries are in step. -/
structure Board.Sound (r : Renderer Id) (latest : Nat) (b : Board) : Prop where
  order_nodup : b.order.Nodup
  mem_order : ∀ x, x ∈ b.order ↔ b.contains x = true
  size_eq : b.size = b.order.length
  entry : ∀ (x : String) (e : Entry), b.entries[x]? = some e → e.Sound r latest x
  created_sorted : (b.listed.map (·.createdPass)).Pairwise (· ≤ ·)

variable {r : Renderer Id} {pass latest : Nat}

namespace Entry

theorem Sound.mono {x : String} {e : Entry} (he : e.Sound r pass x) (hle : pass ≤ latest) :
    e.Sound r latest x :=
  { he with updated_le := Nat.le_trans he.updated_le hle }

theorem sound_create (s : Service) (hpass : 1 ≤ pass) :
    (create s (r.apis s).run pass).Sound r pass s.name where
  name_eq := rfl
  indicator_eq := rfl
  one_le_created := hpass
  created_le_updated := Nat.le_refl pass
  updated_le := Nat.le_refl pass
  markup_eq := ⟨s, rfl, rfl, rfl⟩

theorem Sound.apply {x : String} {e : Entry} (he : e.Sound r pass x) (s : Service) :
    (e.apply s pass).Sound r pass x where
  name_eq := he.name_eq
  indicator_eq := rfl
  one_le_created := he.one_le_created
  created_le_updated := Nat.le_trans he.created_le_updated he.updated_le
  updated_le := Nat.le_refl pass
  markup_eq := he.markup_eq

end Entry

namespace Board

theorem mem_listed (b : Board) (e : Entry) :
    e ∈ b.listed ↔ ∃ x ∈ b.order, b.entries[x]? = some e :=
  List.mem_filterMap

theorem map_listed {α : Type} (b : Board) (f : Entry → α) :
    b.listed.map f = b.order.filterMap fun x => b.entries[x]?.map f :=
  List.map_filterMap

theorem exists_entry_of_contains (b : Board) (x : String) (hx : b.contains x = true) :
    ∃ e, b.entries[x]? = some e := by
  rw [contains_eq_isSome] at hx
  exact Option.isSome_iff_exists.mp hx

/-- Entering a service of a known name leaves alone, all along the order, what an update keeps of
an entry; the entry of a new name comes last. -/
theorem map_listed_enter {α : Type} (f : Entry → α) (b : Board) (hb : b.Sound r latest)
    (s : Service) (hkeep : ∀ e : Entry, f (e.apply s pass) = f e) :
    (enter r pass b s).listed.map f =
      if b.contains s.name then b.listed.map f
      else b.listed.map f ++ [f (.create s (r.apis s).run pass)] := by
  simp only [map_listed, order_enter]
  cases hs : b.contains s.name with
  | true =>
    obtain ⟨e, he⟩ := exists_entry_of_contains b s.name hs
    simp only [if_true]
    refine List.filterMap_congr fun x _ => ?_
    rw [getElem?_enter]
    by_cases hx : s.name = x
    · subst hx
      rw [if_pos rfl, he]
      exact congrArg some (hkeep e)
    · rw [if_neg hx]
  | false =>
    have hnone : b.entries[s.name]? = none :=
      Std.ExtHashMap.getElem?_eq_none_of_contains_eq_false hs
    have hold : ∀ x ∈ b.order, (enter r pass b s).entries[x]?.map f = b.entries[x]?.map f := by
      intro x hx
      have hne : s.name ≠ x := by
        intro heq
        rw [heq, (hb.mem_order x).mp hx] at hs
        exact Bool.noConfusion hs
      rw [getElem?_enter, if_neg hne]
    have hnew : (enter r pass b s).entries[s.name]?.map f =
        some (f (.create s (r.apis s).run pass)) := by
      rw [getElem?_enter, if_pos rfl, hnone]
      rfl
    simp only [Bool.false_eq_true, if_false, List.filterMap_append, List.filterMap_congr hold,
      List.filterMap_cons, hnew, List.filterMap_nil]

theorem Sound.mono {b : Board} (hb : b.Sound r pass) (hle : pass ≤ latest) :
    b.Sound r latest :=
  { hb with entry := fun x e he => (hb.entry x e he).mono hle }

/-- No entry was created after the latest pass. -/
theorem Sound.createdPass_le {b : Board} (hb : b.Sound r latest) :
    ∀ n ∈ b.listed.map (·.createdPass), n ≤ latest := by
  intro n hn
  obtain ⟨e, he, rfl⟩ := List.mem_map.mp hn
  obtain ⟨x, -, hx⟩ := (mem_listed b e).mp he
  exact Nat.le_trans (hb.entry x e hx).created_le_updated (hb.entry x e hx).updated_le

/-- The step: one service keeps a board sound. -/
theorem Sound.enter {b : Board} (hb : b.Sound r pass) (hpass : 1 ≤ pass) (s : Service) :
    (enter r pass b s).Sound r pass where
  order_nodup := by
    rw [order_enter]
    cases hs : b.contains s.name with
    | true => exact hb.order_nodup
    | false =>
      have hnew : s.name ∉ b.order := by simp [hb.mem_order, hs]
      exact List.nodup_append_comm.mp (List.nodup_cons.mpr ⟨hnew, hb.order_nodup⟩)
  mem_order x := by
    rw [order_enter, contains_enter]
    cases hs : b.contains s.name with
    | true =>
      rw [if_pos rfl, hb.mem_order, Bool.or_eq_true, beq_iff_eq]
      constructor
      · exact Or.inr
      · rintro (rfl | hx)
        · exact hs
        · exact hx
    | false =>
      simp only [Bool.false_eq_true, if_false, List.mem_append, List.mem_singleton, hb.mem_order,
        Bool.or_eq_true, beq_iff_eq]
      rw [or_comm, eq_comm]
  size_eq := by
    rw [size_enter, order_enter, hb.size_eq]
    cases b.contains s.name <;> simp
  entry x e he := by
    rw [getElem?_enter] at he
    by_cases hx : s.name = x
    · subst hx
      rw [if_pos rfl, Option.some.injEq] at he
      subst he
      cases hold : b.entries[s.name]? with
      | none => exact Entry.sound_create s hpass
      | some old => exact (hb.entry s.name old hold).apply s
    · rw [if_neg hx] at he
      exact hb.entry x e he
  created_sorted := by
    rw [map_listed_enter (·.createdPass) b hb s fun _ => rfl]
    cases b.contains s.name with
    | true => exact hb.created_sorted
    | false =>
      simp only [Bool.false_eq_true, if_false, List.pairwise_append, List.mem_singleton]
      refine ⟨hb.created_sorted, List.pairwise_singleton _ _, ?_⟩
      rintro n hn k rfl
      exact hb.createdPass_le n hn

theorem Sound.foldl_enter {b : Board} (hb : b.Sound r pass) (hpass : 1 ≤ pass)
    (ss : List Service) : (ss.foldl (Board.enter r pass) b).Sound r pass := by
  induction ss generalizing b with
  | nil => exact hb
  | cons s rest ih => exact ih (hb.enter hpass s)

theorem sound_empty : Board.empty.Sound r 0 where
  order_nodup := List.nodup_nil
  mem_order x := by simp [empty, contains]
  size_eq := Std.ExtHashMap.size_empty
  entry x e he := by simp [empty] at he
  created_sorted := List.Pairwise.nil

/-- What a pass notes on a board does not touch its entries. -/
theorem Sound.advance {b : Board} (hb : b.Sound r b.passes) (p : Pass) :
    (advance r b p).Sound r (advance r b p).passes := by
  have hpass : b.passes ≤ b.passes + 1 := Nat.le_succ b.passes
  have hentered := (hb.mono hpass).foldl_enter (Nat.le_add_left 1 b.passes) p.snapshot.ranked
  rw [passes_advance, Board.advance, board_reconcile]
  exact {
    order_nodup := hentered.order_nodup
    mem_order := hentered.mem_order
    size_eq := hentered.size_eq
    entry := hentered.entry
    created_sorted := hentered.created_sorted }

theorem sound_after (h : List Pass) : (after r h).Sound r (after r h).passes := by
  induction h using List.reverseRecOn with
  | nil => exact sound_empty
  | append_singleton h p ih =>
    rw [after_concat]
    exact ih.advance p

/-- A board keeps every name that a snapshot has listed. -/
theorem mem_order_after_iff (h : List Pass) (x : String) :
    x ∈ (after r h).order ↔ ∃ p ∈ h, p.snapshot.Lists x :=
  ((sound_after h).mem_order x).trans (contains_after_iff r h x)

/-- The entries stand under the names of the order, and none of the names is without one. -/
theorem Sound.name_listed {b : Board} (hb : b.Sound r latest) :
    b.listed.map (·.name) = b.order := by
  have hname : ∀ x ∈ b.order, b.entries[x]?.map (·.name) = some x := by
    intro x hx
    obtain ⟨e, he⟩ := exists_entry_of_contains b x ((hb.mem_order x).mp hx)
    rw [he, Option.map_some, (hb.entry x e he).name_eq]
  rw [map_listed, List.filterMap_congr hname, List.filterMap_some]

theorem Sound.of_mem_listed {b : Board} (hb : b.Sound r latest) {e : Entry} (he : e ∈ b.listed) :
    e.Sound r latest e.name := by
  obtain ⟨x, -, hx⟩ := (mem_listed b e).mp he
  have hsound := hb.entry x e hx
  rw [hsound.name_eq]
  exact hsound

theorem Sound.length_listed {b : Board} (hb : b.Sound r latest) : b.listed.length = b.size := by
  rw [hb.size_eq, ← hb.name_listed, List.length_map]

theorem noted_after (h : List Pass) :
    ((after r h).clientId.isSome ↔ 0 < (after r h).passes) ∧
      ((after r h).reconciledAt.isSome ↔ 0 < (after r h).passes) := by
  cases h using List.reverseRecOn with
  | nil => simp [after, empty]
  | append_singleton h p =>
    rw [after_concat, Board.advance, board_reconcile]
    simp [conclude]

/-- The markup of an entry is what HTML makes of its name and its APIs. -/
theorem Sound.html_markup {b : Board} (hb : b.Sound .html latest) (x : String) (e : Entry)
    (he : b.entries[x]? = some e) (s : Service) (hname : s.name = e.name)
    (hapis : s.apis = e.apis) : e.apiMarkup = ((Renderer.html : Renderer Id).apis s).run := by
  obtain ⟨t, htname, htapis, hmarkup⟩ := (hb.entry x e he).markup_eq
  rw [hmarkup]
  simp only [Renderer.html, htname, htapis, hname, hapis]

/-- The invariant of all boards that passes lead to from an empty one. -/
theorem invariant_of_history (r : Renderer Id) (h : List Pass) :
    (after r h).Sound r (after r h).passes ∧
      (after r h).listed.map (·.name) = (after r h).order ∧
      (after r h).listed.length = (after r h).size ∧
      (after r h).passes = h.length ∧
      ((after r h).clientId.isSome ↔ 0 < (after r h).passes) ∧
      ((after r h).reconciledAt.isSome ↔ 0 < (after r h).passes) ∧
      ∀ (x : String) (e : Entry), (after .html h).entries[x]? = some e →
        ∀ s : Service, s.name = e.name → s.apis = e.apis →
          e.apiMarkup = ((Renderer.html : Renderer Id).apis s).run := by
  have hsound := sound_after (r := r) h
  obtain ⟨hclient, htime⟩ := noted_after (r := r) h
  exact ⟨hsound, hsound.name_listed, hsound.length_listed, passes_after r h, hclient, htime,
    (sound_after h).html_markup⟩

end Board

end StatusBoard
