import StatusBoard.Proofs.Record.Filling
import StatusBoard.Proofs.Snapshot.Schema
import Mathlib.Data.List.Count

/-!
Records that differ in one field. A field of a record is given by a member of an object or by its
place in an array; either way its value can be replaced, or the field can be added where it is not
given. The other fields keep their values, and the record stays one.
-/
namespace StatusBoard.Schema

open Json (Draft)

/-- One value of a field in place of another. -/
inductive Replaces (keys : List String) (k : String) (old new : Draft) : Draft → Draft → Prop
  | member (ms ns : List (Option String × Draft)) :
      Replaces keys k old new (.object (ms ++ (some k, old) :: ns) true)
        (.object (ms ++ (some k, new) :: ns) true)
  | item (ds es : List Draft) (hk : keys[ds.length]? = some k) :
      Replaces keys k old new (.array (ds ++ old :: es) true) (.array (ds ++ new :: es) true)

/-- A value for a field that is not given: anywhere among the members, or behind the last item. -/
inductive Adds (keys : List String) (k : String) (new : Draft) : Draft → Draft → Prop
  | member (ms ns : List (Option String × Draft)) (hnew : some k ∉ (ms ++ ns).map (·.1)) :
      Adds keys k new (.object (ms ++ ns) true) (.object (ms ++ (some k, new) :: ns) true)
  | item (ds : List Draft) (hk : keys[ds.length]? = some k) :
      Adds keys k new (.array ds true) (.array (ds ++ [new]) true)

/-- Two records and what they have for a field, where all other fields are alike. -/
structure DifferIn (keys : List String) (k : String) (v w : Option Draft) (a b : Draft) : Prop where
  left : IsRecord keys a
  right : IsRecord keys b
  old : field? keys a k = v
  new : field? keys b k = w
  others : ∀ l ≠ k, field? keys b l = field? keys a l

section Forms

variable {keys : List String}

/-- Keys that are members of an object may have, if it is to be a record. -/
structure AreKeys (keys : List String) (ks : List (Option String)) : Prop where
  proper : ∀ k ∈ ks, k.isSome = true
  once : ∀ k ∈ keys, ks.count (some k) ≤ 1

theorem exists_map_some {ms : List (Option String × Draft)}
    (h : ∀ k ∈ ms.map (·.1), k.isSome = true) :
    ∃ ns : List (String × Draft), ms = ns.map fun m => (some m.1, m.2) := by
  induction ms with
  | nil => exact ⟨[], rfl⟩
  | cons m ms ih =>
    obtain ⟨hm, hms⟩ := List.forall_mem_cons.mp h
    obtain ⟨k, hk⟩ := Option.isSome_iff_exists.mp hm
    obtain ⟨ns, rfl⟩ := ih hms
    exact ⟨(k, m.2) :: ns, by rw [List.map_cons, ← hk]⟩

theorem isRecord_object_iff {ms : List (Option String × Draft)} :
    IsRecord keys (.object ms true) ↔ AreKeys keys (ms.map (·.1)) := by
  have hkeys : ∀ ns : List (String × Draft),
      (ns.map fun m => (some m.1, m.2)).map (·.1) = (ns.map (·.1)).map some := by
    intro ns
    rw [List.map_map, List.map_map]
    rfl
  have hcount : ∀ (ns : List (String × Draft)) (k : String),
      ((ns.map (·.1)).map some).count (some k) = (ns.map (·.1)).count k := fun ns k =>
    List.count_map_of_injective _ _ (fun _ _ => Option.some.inj) _
  constructor
  · intro h
    cases h with
    | object ns honce =>
      rw [hkeys]
      refine ⟨?_, fun k hk => hcount ns k ▸ honce k hk⟩
      intro k hk
      obtain ⟨l, -, rfl⟩ := List.mem_map.mp hk
      rfl
  · rintro ⟨hproper, honce⟩
    obtain ⟨ns, rfl⟩ := exists_map_some hproper
    rw [hkeys] at honce
    exact .object ns fun k hk => hcount ns k ▸ honce k hk

theorem isRecord_array_iff {ds : List Draft} :
    IsRecord keys (.array ds true) ↔ ds.length ≤ keys.length := by
  constructor
  · intro h
    cases h with
    | array _ hlength => exact hlength
  · exact .array ds

end Forms

section Lookup

variable {κ δ : Type} [BEq κ] [LawfulBEq κ] {k l : κ}

theorem lookup_append_cons_of_ne (ms ns : List (κ × δ)) (d : δ) (h : l ≠ k) :
    (ms ++ (k, d) :: ns).lookup l = (ms ++ ns).lookup l := by
  have hne : (l == k) = false := beq_eq_false_iff_ne.mpr h
  rw [List.lookup_append, List.lookup_append, List.lookup_cons, hne]

theorem lookup_append_cons_self (ms ns : List (κ × δ)) (d : δ) (h : k ∉ ms.map (·.1)) :
    (ms ++ (k, d) :: ns).lookup k = some d := by
  rw [List.lookup_append, Field.lookup_eq_none h, List.lookup_cons_self, Option.none_or]

end Lookup

section Changes

variable {keys : List String} {k : String} {old new a b : Draft}

theorem AreKeys.not_mem {ks ls : List (Option String)} (h : AreKeys keys (ks ++ some k :: ls))
    (hk : k ∈ keys) : some k ∉ ks ∧ some k ∉ ls := by
  have honce := h.once k hk
  rw [List.count_append, List.count_cons_self] at honce
  exact ⟨List.count_eq_zero.mp (by omega), List.count_eq_zero.mp (by omega)⟩

/-- A key may be added unless it is that of a field that is given. -/
theorem AreKeys.insert {ks ls : List (Option String)} (h : AreKeys keys (ks ++ ls))
    (hnew : k ∈ keys → some k ∉ ks ++ ls) : AreKeys keys (ks ++ some k :: ls) where
  proper := by
    have hall := List.forall_mem_append.mp h.proper
    exact List.forall_mem_append.mpr ⟨hall.1, List.forall_mem_cons.mpr ⟨rfl, hall.2⟩⟩
  once := by
    intro l hl
    rw [List.perm_middle.count_eq]
    by_cases heq : k = l
    · subst heq
      have hzero : (ks ++ ls).count (some k) = 0 := List.count_eq_zero.mpr (hnew hl)
      exact Nat.le_of_eq (by rw [List.count_cons_self, hzero])
    · rw [List.count_cons_of_ne fun h => heq (Option.some.inj h)]
      exact h.once l hl

/-- Any key may be left out. -/
theorem AreKeys.erase {ks ls : List (Option String)} {l : Option String}
    (h : AreKeys keys (ks ++ l :: ls)) : AreKeys keys (ks ++ ls) where
  proper := by
    have hall := List.forall_mem_append.mp h.proper
    exact List.forall_mem_append.mpr ⟨hall.1, (List.forall_mem_cons.mp hall.2).2⟩
  once := by
    intro l hl
    refine Nat.le_trans ?_ (h.once l hl)
    rw [List.perm_middle.count_eq]
    exact List.count_le_count_cons

/-- What stands before and behind a place. -/
theorem exists_split_of_place {α : Type} {xs : List α} {n : Nat} {x : α} (h : xs[n]? = some x) :
    ∃ ys zs, xs = ys ++ x :: zs ∧ ys.length = n := by
  obtain ⟨hn, rfl⟩ := List.getElem?_eq_some_iff.mp h
  refine ⟨xs.take n, xs.drop (n + 1), ?_, List.length_take_of_le (Nat.le_of_lt hn)⟩
  rw [List.getElem_cons_drop, List.take_append_drop]

/-- The item at a field's place comes behind those of the fields before it. -/
theorem exists_zip_of_place (hkeys : keys.Nodup) {ds : List Draft}
    (h : keys[ds.length]? = some k) :
    k ∉ (keys.zip ds).map (·.1) ∧ ∃ ls : List String, ∀ (d : Draft) (es : List Draft),
      keys.zip (ds ++ d :: es) = keys.zip ds ++ (k, d) :: ls.zip es := by
  obtain ⟨ks, ls, rfl, hlength⟩ := exists_split_of_place h
  have hzip : (ks ++ k :: ls).zip ds = ks.zip ds := by
    have happend : (ks ++ k :: ls).zip (ds ++ []) = ks.zip ds ++ (k :: ls).zip [] :=
      List.zip_append hlength
    rwa [List.append_nil, List.zip_nil_right, List.append_nil] at happend
  rw [hzip]
  refine ⟨?_, ls, fun d es => ?_⟩
  · rw [List.map_fst_zip (Nat.le_of_eq hlength)]
    exact fun hmem => (List.nodup_append.mp hkeys).2.2 k hmem k List.mem_cons_self rfl
  · rw [List.zip_append hlength, List.zip_cons_cons]

theorem Replaces.symm (h : Replaces keys k old new a b) : Replaces keys k new old b a := by
  cases h with
  | member ms ns => exact .member ms ns
  | item ds es hk => exact .item ds es hk

theorem Replaces.differIn (hkeys : keys.Nodup) (hk : k ∈ keys) (h : Replaces keys k old new a b)
    (ha : IsRecord keys a) : DifferIn keys k (some old) (some new) a b := by
  cases h with
  | member ms ns =>
    have hsame : (ms ++ (some k, new) :: ns).map (·.1) = (ms ++ (some k, old) :: ns).map (·.1) := by
      rw [List.map_append, List.map_append, List.map_cons, List.map_cons]
    have hareKeys := isRecord_object_iff.mp ha
    have hfresh : some k ∉ ms.map (·.1) := by
      rw [List.map_append, List.map_cons] at hareKeys
      exact (hareKeys.not_mem hk).1
    exact {
      left := ha
      right := isRecord_object_iff.mpr (hsame ▸ hareKeys)
      old := lookup_append_cons_self ms ns old hfresh
      new := lookup_append_cons_self ms ns new hfresh
      others := fun l hl => by
        have hne : some l ≠ some k := fun h => hl (Option.some.inj h)
        exact (lookup_append_cons_of_ne ms ns new hne).trans
          (lookup_append_cons_of_ne ms ns old hne).symm }
  | item ds es hplace =>
    obtain ⟨hfresh, ls, hzip⟩ := exists_zip_of_place hkeys hplace
    exact {
      left := ha
      right := isRecord_array_iff.mpr (by simpa using isRecord_array_iff.mp ha)
      old := by
        rw [field?, hzip]
        exact lookup_append_cons_self _ _ old hfresh
      new := by
        rw [field?, hzip]
        exact lookup_append_cons_self _ _ new hfresh
      others := fun l hl => by
        rw [field?, field?, hzip, hzip, lookup_append_cons_of_ne _ _ new hl,
          lookup_append_cons_of_ne _ _ old hl] }

theorem Adds.differIn (hkeys : keys.Nodup) (h : Adds keys k new a b) (ha : IsRecord keys a) :
    DifferIn keys k none (some new) a b := by
  cases h with
  | member ms ns hnew =>
    have hareKeys := isRecord_object_iff.mp ha
    have hfresh : some k ∉ ms.map (·.1) := by
      rw [List.map_append] at hnew
      exact fun h => hnew (List.mem_append_left _ h)
    exact {
      left := ha
      right := by
        rw [isRecord_object_iff, List.map_append, List.map_cons]
        rw [List.map_append] at hareKeys hnew
        exact hareKeys.insert fun _ => hnew
      old := Field.lookup_eq_none hnew
      new := lookup_append_cons_self ms ns new hfresh
      others := fun l hl =>
        lookup_append_cons_of_ne ms ns new fun h => hl (Option.some.inj h) }
  | item ds hplace =>
    obtain ⟨hfresh, ls, hzip⟩ := exists_zip_of_place hkeys hplace
    have hlong : keys.zip (ds ++ [new]) = keys.zip ds ++ [(k, new)] := by
      rw [hzip, List.zip_nil_right]
    have hlt := (List.getElem?_eq_some_iff.mp hplace).1
    exact {
      left := ha
      right := isRecord_array_iff.mpr (by rwa [List.length_append])
      old := Field.lookup_eq_none hfresh
      new := by
        rw [field?, hlong]
        exact lookup_append_cons_self _ _ new hfresh
      others := fun l hl => by
        rw [field?, field?, hlong, lookup_append_cons_of_ne _ _ new hl, List.append_nil] }

theorem Adds.isRecord (h : Adds keys k new a b) (hb : IsRecord keys b) : IsRecord keys a := by
  cases h with
  | member ms ns =>
    have hareKeys := isRecord_object_iff.mp hb
    rw [List.map_append, List.map_cons] at hareKeys
    rw [isRecord_object_iff, List.map_append]
    exact hareKeys.erase
  | item ds =>
    have hlength := isRecord_array_iff.mp hb
    rw [List.length_append] at hlength
    exact isRecord_array_iff.mpr (Nat.le_trans (Nat.le_add_right _ _) hlength)

end Changes

end StatusBoard.Schema
