import Mathlib.Logic.Relation
import StatusBoard.Proofs.Toml.Lines

/-!
Saying the same in other lines: in another order, with a dotted key in place of a header, with keys
in place of an inline table, or with more that is beside the point. What is stated about the paths
in question stays the same.
-/
namespace StatusBoard.Toml

open Entries

namespace Item

variable {members : List (String × Value)} {item : Item} {v : Value} {p q path : List String}
  {x : Sight}

/-- An item that says nothing about a path: nothing can be seen of it there, nor does it put an
array of tables on the way. -/
def IsBeside (p : List String) (item : Item) : Prop :=
  item.sight? p = none ∧ ∀ r, r <+: p → item.sight? r ≠ some .rows

/-- An inline table shows what its members show under their names. -/
theorem sight?_members_iff (hnames : (members.map (·.1)).Nodup) (k : String) :
    (Item.value (.table members)).sight? (k :: p) = some x ↔
      ∃ m ∈ members, ((Item.value m.2).under [m.1]).sight? (k :: p) = some x := by
  have hlookup : (Item.value (.table members)).sight? (k :: p) =
      ((members.lookup k).map Item.value).bind (sight? p) := sight?_cons ..
  rw [hlookup]
  induction members with
  | nil => simp
  | cons m members ih =>
    obtain ⟨hm, hnames⟩ := List.nodup_cons.mp hnames
    have hat (m : String × Value) : ((Item.value m.2).under [m.1]).sight? (k :: p) =
        if k = m.1 then (Item.value m.2).sight? p else none := sight?_under_cons ..
    rw [List.exists_mem_cons_iff, hat, List.lookup_cons]
    by_cases hk : k = m.1
    · have hrest : ¬∃ n ∈ members, ((Item.value n.2).under [n.1]).sight? (k :: p) = some x := by
        rintro ⟨n, hn, hsight⟩
        rw [hat] at hsight
        split at hsight
        next heq => exact hm (List.mem_map.mpr ⟨n, hn, heq.symm.trans hk⟩)
        next => cases hsight
      rw [beq_iff_eq.mpr hk, if_pos hk, or_iff_left hrest]
      rfl
    · rw [beq_eq_false_iff_ne.mpr hk, if_neg hk, or_iff_right nofun]
      exact ih hnames (sight?_cons ..)

/-- An inline table under a path shows what a header and keys show. -/
theorem sight?_inline_iff (hnames : (members.map (·.1)).Nodup) (path p : List String) (x : Sight) :
    ((Item.value (.table members)).under path).sight? p = some x ↔
      ((Item.table .stated []).under path).sight? p = some x ∨
        ∃ m ∈ members, ((Item.value m.2).under (path ++ [m.1])).sight? p = some x := by
  induction path generalizing p with
  | nil =>
    cases p with
    | nil => exact (or_iff_left_of_imp fun ⟨m, _, h⟩ => h).symm
    | cons k p => exact (sight?_members_iff hnames k).trans (or_iff_right nofun).symm
  | cons k ks ih =>
    cases p with
    | nil => exact (or_iff_left_of_imp fun ⟨m, _, h⟩ => h).symm
    | cons j p =>
      simp only [List.cons_append, sight?_under_cons]
      by_cases hj : j = k
      · simp only [if_pos hj, ih]
      · simp [if_neg hj]

end Item

/-- Two lists of items that say the same about some paths: they differ in their order, in an inline
table whose members have keys of their own in the other, or in an item beside the paths. -/
inductive Restates (ps : List (List String)) : List Item → List Item → Prop
  | reordered (is js : List Item) (h : is.Perm js) : Restates ps is js
  | opened (path : List String) (members : List (String × Value)) (is : List Item)
    (hnames : (members.map (·.1)).Nodup) :
    Restates ps ((Item.value (.table members)).under path :: is)
      ((Item.table .stated []).under path ::
        ((members.map fun m => (Item.value m.2).under (path ++ [m.1])) ++ is))
  | beside (i : Item) (is : List Item) (h : ∀ p ∈ ps, i.IsBeside p) : Restates ps (i :: is) is

/-- Items show the same together if they show the same one by one. -/
theorem shows_congr {is js : List Item}
    (h : ∀ p x, (∃ i ∈ is, i.sight? p = some x) ↔ ∃ j ∈ js, j.sight? p = some x) (p : List String)
    (x : Sight) : Shows is p x ↔ Shows js p x := by
  have hall (ks : List Item) :
      (∀ i ∈ ks, ∀ r, i.sight? r = some .rows → r <+: p → r = p ∧ x = .rows) ↔
        ∀ r, (∃ i ∈ ks, i.sight? r = some .rows) → r <+: p → r = p ∧ x = .rows :=
    ⟨fun h r ⟨i, hi, hr⟩ => h i hi r hr, fun h i hi r hr => h r ⟨i, hi, hr⟩⟩
  rw [Shows, Shows, hall is, hall js, h p x]
  simp only [h]

variable {ps : List (List String)} {is js : List Item} {p : List String}

theorem Restates.shows_iff (h : Restates ps is js) (hp : p ∈ ps) (x : Sight) :
    Shows is p x ↔ Shows js p x := by
  cases h with
  | reordered _ _ h => exact shows_congr (fun _ _ => exists_congr fun i => by rw [h.mem_iff]) p x
  | opened path members is hnames =>
    refine shows_congr (fun q y => ?_) p x
    simp only [List.exists_mem_cons_iff, Item.sight?_inline_iff hnames, List.mem_append,
      List.mem_map, or_and_right, exists_or, exists_exists_and_eq_and, or_assoc]
  | beside i _ h =>
    obtain ⟨hnone, hrows⟩ := h p hp
    simp only [Shows, List.forall_mem_cons, List.exists_mem_cons_iff, hnone, reduceCtorEq, false_or]
    exact and_congr_left fun _ => and_iff_right fun r hr hrp => absurd hr (hrows r hrp)

theorem shows_iff_of_eqvGen (h : Relation.EqvGen (Restates ps) is js) (hp : p ∈ ps) (x : Sight) :
    Shows is p x ↔ Shows js p x := by
  induction h with
  | rel is js h => exact h.shows_iff hp x
  | refl => exact Iff.rfl
  | symm is js _ ih => exact ih.symm
  | trans is js ks _ _ ih ih' => exact ih.trans ih'

end StatusBoard.Toml
