import StatusBoard.Proofs.Json.Writing
import StatusBoard.Proofs.Snapshot.Fields
import StatusBoard.Proofs.Snapshot.Values
import Mathlib.Data.List.Perm.Basic

/-!
Changes that leave alone how a record reads. Members may stand in any order and beside members that
no field has, null may stand for a default or be left out, and a record may be given by place. What a
change does to the values of the fields is said once for all records; a record then reads the
same where its fields take null and the written default for what they are when they are not given.
-/
namespace StatusBoard.Schema

open Json (Draft Value)

/-- What a kind of record says of its fields. -/
structure Layout where
  /-- Their names, in the order of their places. -/
  keys : List String
  /-- How the fields that may be left out are written when they are not. -/
  defaults : List (String × Value)
  /-- Those for which null stands for that. -/
  nullable : List String
  nodup : keys.Nodup
  nullable_subset : nullable ⊆ keys

namespace Layout

variable (l : Layout) (inside : String → Draft → Draft → Prop)

/-- A value that a record has for a field, or the default of a field that it does not have. -/
def Writes (d : Draft) (k : String) (v : Draft) : Prop :=
  field? l.keys d k = some v ∨
    field? l.keys d k = none ∧ ∃ w, l.defaults.lookup k = some w ∧ v = w.draft

/-- One change of a record, or of a value inside one of its fields. -/
inductive Change : Draft → Draft → Prop
  | permute (ms ns : List (Option String × Draft)) (h : ms.Perm ns) :
      Change (.object ms true) (.object ns true)
  /-- The key is a text, and the value any at all. -/
  | unknown (ms ns : List (Option String × Draft)) (k : String) (d : Draft) (hk : k ∉ l.keys) :
      Change (.object (ms ++ ns) true) (.object (ms ++ (some k, d) :: ns) true)
  | null (k : String) (a b : Draft) (hk : k ∈ l.nullable) (h : Adds l.keys k .null a b) :
      Change a b
  | nullAsDefault (k : String) (v : Value) (a b : Draft) (hk : k ∈ l.nullable)
      (hv : l.defaults.lookup k = some v) (h : Replaces l.keys k .null v.draft a b) : Change a b
  | byPlace (d : Draft) (vs : List Draft) (hd : IsRecord l.keys d)
      (hvs : List.Forall₂ (l.Writes d) l.keys vs) : Change d (.array vs true)
  | inside (k : String) (d e a b : Draft) (hk : k ∈ l.keys) (hde : inside k d e)
      (h : Replaces l.keys k d e a b) : Change a b

/-- What a field may have before and after a change. -/
inductive Alike (k : String) : Option Draft → Option Draft → Prop
  | same (v : Option Draft) : Alike k v v
  | null (hk : k ∈ l.nullable) : Alike k none (some .null)
  | default (v : Value) (hv : l.defaults.lookup k = some v) : Alike k none (some v.draft)
  | nullAsDefault (v : Value) (hk : k ∈ l.nullable) (hv : l.defaults.lookup k = some v) :
      Alike k (some .null) (some v.draft)
  | inside (d e : Draft) (hde : inside k d e) : Alike k (some d) (some e)

end Layout

section Members

variable {keys : List String}

theorem AreKeys.perm {ks ls : List (Option String)} (h : AreKeys keys ks) (hperm : ks.Perm ls) :
    AreKeys keys ls where
  proper := fun k hk => h.proper k (hperm.mem_iff.mpr hk)
  once := fun k hk => hperm.count_eq (some k) ▸ h.once k hk

/-- The one member of a key is found wherever it stands. -/
theorem lookup_eq_some_of_mem {ms : List (Option String × Draft)}
    (h : AreKeys keys (ms.map (·.1))) {k : String} (hk : k ∈ keys) {d : Draft}
    (hd : (some k, d) ∈ ms) : ms.lookup (some k) = some d := by
  obtain ⟨before, behind, rfl⟩ := List.append_of_mem hd
  rw [List.map_append, List.map_cons] at h
  exact lookup_append_cons_self before behind d (h.not_mem hk).1

theorem lookup_eq_of_perm {ms ns : List (Option String × Draft)}
    (h : AreKeys keys (ms.map (·.1))) (hperm : ms.Perm ns) {k : String} (hk : k ∈ keys) :
    ns.lookup (some k) = ms.lookup (some k) := by
  cases hd : ms.lookup (some k) with
  | some d =>
    obtain ⟨before, behind, rfl, -⟩ := List.lookup_eq_some_iff.mp hd
    exact lookup_eq_some_of_mem (h.perm (hperm.map _)) hk (hperm.mem_iff.mp (by simp))
  | none =>
    refine Field.lookup_eq_none fun hmem => ?_
    obtain ⟨m, hm, hkey⟩ := List.mem_map.mp ((hperm.map _).mem_iff.mpr hmem)
    have hne := List.lookup_eq_none_iff.mp hd m hm
    rw [hkey] at hne
    exact absurd rfl (bne_iff_ne.mp hne)

/-- A row of values has for each key the value at its place. -/
theorem exists_lookup_zip {R : String → Draft → Prop} {ks : List String} {vs : List Draft}
    (h : List.Forall₂ R ks vs) {k : String} (hk : k ∈ ks) :
    ∃ v, (ks.zip vs).lookup k = some v ∧ R k v := by
  induction h with
  | nil => exact absurd hk List.not_mem_nil
  | cons hr _ ih =>
    rename_i j v ks vs _
    rw [List.zip_cons_cons, List.lookup_cons]
    by_cases heq : k = j
    · rw [heq, beq_self_eq_true]
      exact ⟨v, rfl, hr⟩
    · rw [beq_eq_false_iff_ne.mpr heq]
      exact ih ((List.mem_cons.mp hk).resolve_left heq)

end Members

namespace Layout

variable {l : Layout} {inside : String → Draft → Draft → Prop} {a b : Draft}

theorem Alike.of_differIn {k : String} {v w : Option Draft} (h : DifferIn l.keys k v w a b)
    (hvw : l.Alike inside k v w) (j : String) :
    l.Alike inside j (field? l.keys a j) (field? l.keys b j) := by
  by_cases hj : j = k
  · rw [hj, h.old, h.new]
    exact hvw
  · rw [h.others j hj]
    exact .same _

/-- The step: what one change does to the fields of a record. -/
theorem Change.alike (h : l.Change inside a b) (ha : IsRecord l.keys a) {k : String}
    (hk : k ∈ l.keys) : l.Alike inside k (field? l.keys a k) (field? l.keys b k) := by
  cases h with
  | permute ms ns h =>
    rw [field?, field?, lookup_eq_of_perm (isRecord_object_iff.mp ha) h hk]
    exact .same _
  | unknown ms ns j d hj =>
    have hne : some k ≠ some j := fun h => hj (Option.some.inj h ▸ hk)
    rw [field?, field?, lookup_append_cons_of_ne ms ns d hne]
    exact .same _
  | null j _ _ hj h => exact .of_differIn (h.differIn l.nodup ha) (.null hj) k
  | nullAsDefault j v _ _ hj hv h =>
    exact .of_differIn (h.differIn l.nodup (l.nullable_subset hj) ha) (.nullAsDefault v hj hv) k
  | byPlace _ vs _ hvs =>
    obtain ⟨v, hlookup, hwrites⟩ := exists_lookup_zip hvs hk
    have hplace : field? l.keys (.array vs true) k = some v := hlookup
    rw [hplace]
    rcases hwrites with hv | ⟨hnone, w, hw, rfl⟩
    · rw [hv]
      exact .same _
    · rw [hnone]
      exact .default w hw
  | inside j d e _ _ hj hde h => exact .of_differIn (h.differIn l.nodup hj ha) (.inside d e hde) k

theorem Change.isRecord_iff (h : l.Change inside a b) : IsRecord l.keys a ↔ IsRecord l.keys b := by
  cases h with
  | permute ms ns h =>
    rw [isRecord_object_iff, isRecord_object_iff]
    exact ⟨fun hms => hms.perm (h.map _), fun hns => hns.perm (h.symm.map _)⟩
  | unknown ms ns j d hj =>
    rw [isRecord_object_iff, isRecord_object_iff, List.map_append, List.map_append, List.map_cons]
    exact ⟨fun h => h.insert fun hmem => absurd hmem hj, fun h => h.erase⟩
  | null j _ _ hj h => exact ⟨fun ha => (h.differIn l.nodup ha).right, h.isRecord⟩
  | nullAsDefault j v _ _ hj hv h =>
    have hkey := l.nullable_subset hj
    exact ⟨fun ha => (h.differIn l.nodup hkey ha).right,
      fun hb => (h.symm.differIn l.nodup hkey hb).right⟩
  | byPlace _ vs hd hvs =>
    exact iff_of_true hd (isRecord_array_iff.mpr (Nat.le_of_eq hvs.length_eq.symm))
  | inside j d e _ _ hj hde h =>
    exact ⟨fun ha => (h.differIn l.nodup hj ha).right,
      fun hb => (h.symm.differIn l.nodup hj hb).right⟩

section Reading

variable {α : Type} {k : String} {P : Draft → α → Prop} {absent : α} {v w : Option Draft}

/-- A field that reads null and its written default as what it is when it is not given, and that
does not tell values apart that a change leaves inside it. -/
structure Suits (l : Layout) (inside : String → Draft → Draft → Prop) (k : String)
    (P : Draft → α → Prop) (absent : α) : Prop where
  null : k ∈ l.nullable → ∀ x, P .null x ↔ x = absent
  default : ∀ v, l.defaults.lookup k = some v → ∀ x, P v.draft x ↔ x = absent
  inside : ∀ d e, inside k d e → ∀ x, P d x ↔ P e x

/-- A value is read in one way. -/
theorem reads_iff {value : Draft → Except Mismatch α} (hvalue : ∀ d x, value d = .ok x ↔ P d x)
    {d : Draft} {y : α} (hy : P d y) (x : α) : P d x ↔ x = y := by
  rw [← hvalue, (hvalue d y).mpr hy, Except.ok.injEq, eq_comm]

theorem suits_of_reader {value : Draft → Except Mismatch α} {default : Value}
    (hvalue : ∀ d x, value d = .ok x ↔ P d x) (hnull : k ∈ l.nullable → P .null absent)
    (hlookup : l.defaults.lookup k = some default) (hdefault : P default.draft absent)
    (hinside : ∀ d e, inside k d e → ∀ x, P d x ↔ P e x) : l.Suits inside k P absent where
  null := fun hk => reads_iff hvalue (hnull hk)
  default := fun v hv => by
    obtain rfl := Option.some.inj (hlookup.symm.trans hv)
    exact reads_iff hvalue hdefault
  inside := hinside

theorem optional_none_iff (x : α) : Optional P absent none x ↔ x = absent := by
  simp [Optional]

theorem optional_some_iff (d : Draft) (x : α) : Optional P absent (some d) x ↔ P d x := by
  simp [Optional]

theorem Alike.optional_iff (hP : l.Suits inside k P absent) (h : l.Alike inside k v w) (x : α) :
    Optional P absent v x ↔ Optional P absent w x := by
  cases h with
  | same => exact Iff.rfl
  | null hk => rw [optional_none_iff, optional_some_iff, hP.null hk]
  | default v hv => rw [optional_none_iff, optional_some_iff, hP.default v hv]
  | nullAsDefault v hk hv => rw [optional_some_iff, optional_some_iff, hP.null hk, hP.default v hv]
  | inside d e hde => rw [optional_some_iff, optional_some_iff, hP.inside d e hde]

/-- A field without null and default, with no changes inside. -/
theorem Alike.eq (hnull : k ∉ l.nullable) (hdefault : l.defaults.lookup k = none)
    (hinside : ∀ d e, ¬ inside k d e) (h : l.Alike inside k v w) : v = w := by
  cases h with
  | same => rfl
  | null hk => exact absurd hk hnull
  | default v hv => exact nomatch hdefault.symm.trans hv
  | nullAsDefault v hk => exact absurd hk hnull
  | inside d e hde => exact absurd hde (hinside d e)

theorem Change.optional_iff (h : l.Change inside a b) (ha : IsRecord l.keys a) (hk : k ∈ l.keys)
    (hP : l.Suits inside k P absent) (x : α) :
    Optional P absent (field? l.keys a k) x ↔ Optional P absent (field? l.keys b k) x :=
  (h.alike ha hk).optional_iff hP x

theorem Change.field_eq (h : l.Change inside a b) (ha : IsRecord l.keys a) (hk : k ∈ l.keys)
    (hnull : k ∉ l.nullable) (hdefault : l.defaults.lookup k = none)
    (hinside : ∀ d e, ¬ inside k d e) : field? l.keys a k = field? l.keys b k :=
  (h.alike ha hk).eq hnull hdefault hinside

end Reading

end Layout

end StatusBoard.Schema
