import StatusBoard.Proofs.Toml.Entries

/-!
What stands at the paths of a document. A path leads through tables, by their names; it does not
lead into an array, of whose tables any number may hold a name.
-/
namespace StatusBoard.Toml

open Entries

/-- What can be seen at a path. -/
inductive Sight where
  /-- A value that is no table. -/
  | value (v : Value)
  | table
  /-- An array of tables under headers. -/
  | rows

namespace Item

/-- What a name stands for in an item. -/
def child? : Item → String → Option Item
  | .value (.table members), k => (members.lookup k).map .value
  | .table _ es, k => find? es k
  | _, _ => none

/-- The item at a path in an item. -/
def at? : List String → Item → Option Item
  | [], item => some item
  | k :: ks, item => (item.child? k).bind (at? ks)

def sight : Item → Sight
  | .value (.table _) => .table
  | .value v => .value v
  | .table _ _ => .table
  | .rows _ => .rows

/-- What can be seen at a path in an item. -/
def sight? (p : List String) (item : Item) : Option Sight :=
  (item.at? p).map sight

/-- Tables with one name each, the names of a path, around an item. -/
def under : List String → Item → Item
  | [], item => item
  | k :: ks, item => .table .stated [(k, under ks item)]

variable {item : Item} {p q : List String} {x : Sight}

theorem sight?_nil (item : Item) : item.sight? [] = some item.sight := rfl

theorem sight?_cons (k : String) (p : List String) (item : Item) :
    item.sight? (k :: p) = (item.child? k).bind (sight? p) :=
  Option.map_bind ..

theorem sight?_rows (tables tables' : List Entries) (p : List String) :
    (Item.rows tables).sight? p = (Item.rows tables').sight? p := by
  cases p <;> rfl

theorem sight_of_child? {k : String} {inner : Item} (h : item.child? k = some inner) :
    item.sight = .table := by
  cases item with
  | value v => cases v <;> first | rfl | cases h
  | table standing es => rfl
  | rows tables => cases h

/-- What is on the way to something is a table. -/
theorem sight?_of_prefix (hpq : p <+: q) (hne : p ≠ q) (h : item.sight? q = some x) :
    item.sight? p = some .table := by
  induction p generalizing q item with
  | nil =>
    obtain ⟨k, ks, rfl⟩ := List.exists_cons_of_ne_nil hne.symm
    rw [sight?_cons, Option.bind_eq_some_iff] at h
    obtain ⟨inner, hinner, -⟩ := h
    rw [sight?_nil, sight_of_child? hinner]
  | cons k p ih =>
    cases q with
    | nil => cases List.prefix_nil.mp hpq
    | cons l q =>
      obtain ⟨rfl, htail⟩ := List.cons_prefix_cons.mp hpq
      rw [sight?_cons, Option.bind_eq_some_iff] at h ⊢
      obtain ⟨inner, hinner, h⟩ := h
      exact ⟨inner, hinner, ih htail (fun heq => hne (congrArg _ heq)) h⟩

theorem child?_under (k j : String) (ks : List String) (item : Item) :
    (item.under (k :: ks)).child? j = if j = k then some (item.under ks) else none := by
  rw [under, child?, find?_cons, find?_nil]

theorem sight?_under_cons (k j : String) (ks p : List String) (item : Item) :
    (item.under (k :: ks)).sight? (j :: p) = if j = k then (item.under ks).sight? p else none := by
  rw [sight?_cons, child?_under]
  split <;> rfl

/-- What can be seen of an item under a path: the tables on the way, and the item beyond it. -/
theorem sight?_under_iff (path : List String) (item : Item) (p : List String) (x : Sight) :
    (item.under path).sight? p = some x ↔
      p <+: path ∧ p ≠ path ∧ x = .table ∨ ∃ q, p = path ++ q ∧ item.sight? q = some x := by
  induction path generalizing p with
  | nil => simpa [under] using fun h hne => absurd h hne
  | cons k ks ih =>
    cases p with
    | nil => simp [sight?_nil, under, sight, eq_comm]
    | cons j p =>
      rw [sight?_under_cons]
      by_cases hj : j = k
      · simp [hj, ih, List.cons_prefix_cons]
      · simp [hj, List.cons_prefix_cons]

/-- A table that can be seen is the table that is read. -/
theorem exists_valueOf_eq_table (h : item.sight = .table) :
    ∃ members, valueOf item = .table members ∧
      ∀ k, members.lookup k = (item.child? k).map valueOf := by
  cases item with
  | value v =>
    cases v with
    | table members =>
      refine ⟨members, rfl, fun k => ?_⟩
      rw [child?, Option.map_map]
      exact Option.map_id'.symm
    | string | integer | float | boolean | moment | array => cases h
  | table standing es => exact ⟨_, rfl, lookup_membersOf es⟩
  | rows tables => cases h

end Item

/-- A value that is not made of others. -/
def Value.IsScalar : Value → Prop
  | .array _ | .table _ => False
  | _ => True

/-- A value that is not made of others can be seen where it is read, and only there. -/
theorem Item.sight_eq_value_iff {item : Item} {v : Value} (hv : v.IsScalar) :
    item.sight = .value v ↔ valueOf item = v := by
  cases item with
  | value w =>
    cases w with
    | table members => cases v <;> first | exact hv.elim | exact iff_of_false nofun nofun
    | string | integer | float | boolean | moment | array =>
      exact ⟨Sight.value.inj, congrArg _⟩
  | table standing es =>
    cases v <;> first | exact hv.elim | exact iff_of_false nofun nofun
  | rows tables =>
    cases v <;> first | exact hv.elim | exact iff_of_false nofun nofun

namespace Entries

/-- What can be seen at a path from a table. -/
def sight? (p : List String) (es : Entries) : Option Sight :=
  (Item.table .stated es).sight? p

variable {es es' inner inner' : Entries} {k : String} {p path rest tail : List String} {item : Item}
  {x : Sight}

theorem sight?_nil (es : Entries) : es.sight? [] = some .table := rfl

theorem sight?_cons (k : String) (p : List String) (es : Entries) :
    es.sight? (k :: p) = (find? es k).bind (Item.sight? p) :=
  Item.sight?_cons ..

theorem sight?_table (standing : Standing) (es : Entries) (p : List String) :
    (Item.table standing es).sight? p = es.sight? p := by
  cases p <;> rfl

/-- A table to which an item is added at a path: it shows what it showed and what the item shows
there. If the path leads into an array, nothing changes that can be seen. -/
def Adds (es es' : Entries) (path : List String) (item : Item) : Prop :=
  (∀ p x, es'.sight? p = some x ↔ es.sight? p = some x ∨ (item.under path).sight? p = some x) ∨
    (∃ r, r <+: path ∧ r ≠ path ∧ es.sight? r = some .rows) ∧ ∀ p, es'.sight? p = es.sight? p

/-- One name stands for more than before. -/
theorem adds_of_child (hother : ∀ j, j ≠ k → find? es' j = find? es j)
    (hchild : ∀ p x, (find? es' k).bind (Item.sight? p) = some x ↔
      (find? es k).bind (Item.sight? p) = some x ∨ (item.under rest).sight? p = some x) :
    Adds es es' (k :: rest) item := by
  refine Or.inl fun p x => ?_
  cases p with
  | nil => rw [sight?_nil, sight?_nil, Item.sight?_nil]; exact (or_self_iff).symm
  | cons j p =>
    rw [sight?_cons, sight?_cons, Item.sight?_under_cons]
    by_cases hj : j = k
    · rw [if_pos hj, hj, hchild]
    · rw [if_neg hj, hother j hj, or_iff_left nofun]

/-- One name stands for an array of tables, as before. -/
theorem adds_of_rows {tables tables' : List Entries}
    (hother : ∀ j, j ≠ k → find? es' j = find? es j)
    (hbefore : find? es k = some (.rows tables)) (hafter : find? es' k = some (.rows tables'))
    (hrest : rest ≠ []) : Adds es es' (k :: rest) item := by
  refine Or.inr ⟨⟨[k], by simp, by simpa using hrest.symm, ?_⟩, fun p => ?_⟩
  · rw [sight?_cons, hbefore]
    rfl
  · cases p with
    | nil => rfl
    | cons j p =>
      rw [sight?_cons, sight?_cons]
      by_cases hj : j = k
      · rw [hj, hbefore, hafter]
        exact Item.sight?_rows tables' tables p
      · rw [hother j hj]

/-- One name stands for a table to which the item is added; a table that is missing was empty. -/
theorem adds_of_table {standing : Standing} (hother : ∀ j, j ≠ k → find? es' j = find? es j)
    (hbefore : (∃ standing, find? es k = some (.table standing inner)) ∨
      find? es k = none ∧ inner = [])
    (hafter : find? es' k = some (.table standing inner'))
    (hroot : (item.under rest).sight = .table) (h : Adds inner inner' rest item) :
    Adds es es' (k :: rest) item := by
  have hafter' (p : List String) : (find? es' k).bind (Item.sight? p) = inner'.sight? p := by
    rw [hafter, Option.bind_some, sight?_table]
  rcases h with h | ⟨⟨r, hr, hne, hrows⟩, h⟩
  · refine adds_of_child hother fun p x => ?_
    rw [hafter', h]
    rcases hbefore with ⟨_, hbefore⟩ | ⟨hbefore, rfl⟩
    · rw [hbefore, Option.bind_some, sight?_table]
    · rw [hbefore, Option.bind_none]
      cases p with
      | nil => rw [sight?_nil, Item.sight?_nil, hroot, or_self_iff]; exact (or_iff_right nofun).symm
      | cons j p => exact Iff.rfl
  · obtain ⟨_, hbefore⟩ | ⟨-, rfl⟩ := hbefore
    · refine Or.inr ⟨⟨k :: r, List.cons_prefix_cons.mpr ⟨rfl, hr⟩, by simpa using hne, ?_⟩, ?_⟩
      · rw [sight?_cons, hbefore, Option.bind_some, sight?_table, hrows]
      · intro p
        cases p with
        | nil => rfl
        | cons j p =>
          rw [sight?_cons, sight?_cons]
          by_cases hj : j = k
          · rw [hj, hafter', h, hbefore, Option.bind_some, sight?_table]
          · rw [hother j hj]
    · cases r <;> cases hrows

/-- A change that adds an item to the table at a path adds it to the document. -/
theorem adds_of_modifyAt {fresh : Standing} {change : Standing → Entries → Option Entries}
    (htail : tail ≠ []) {standing : Standing}
    (hchange : ∀ standing inner inner',
      (∀ k, Draft.openTable.lookupAt (path ++ [k]) es = some (find? inner k)) →
      change standing inner = some inner' → Adds inner inner' tail item)
    (h : modifyAt fresh change path standing es = some es') : Adds es es' (path ++ tail) item := by
  induction path generalizing standing es es' with
  | nil => exact hchange standing es es' (fun _ => rfl) h
  | cons k ks ih =>
    have hne : ks ++ tail ≠ [] := List.append_ne_nil_of_right_ne_nil _ htail
    have hroot : (item.under (ks ++ tail)).sight = .table := by
      obtain ⟨j, js, hjs⟩ := List.exists_cons_of_ne_nil hne
      rw [hjs]
      rfl
    have hlookup (j : String) := lookupAt_cons (List.concat_ne_nil j ks) k es
    rw [modifyAt] at h
    cases hk : find? es k with
    | none =>
      simp only [hk, Option.bind_eq_bind, Option.bind_eq_some_iff, Option.some.injEq] at h hlookup
      obtain ⟨inner', hinner, rfl⟩ := h
      refine adds_of_table (fun j hj => find?_concat_of_ne hj es _) (Or.inr ⟨hk, rfl⟩)
        (find?_concat_self hk _) hroot
        (ih (fun st t t' hreach => hchange st t t' fun j => ?_) hinner)
      have hnil := lookupAt_nil (List.concat_ne_nil j ks)
      exact (hlookup j).trans (hnil.symm.trans (hreach j))
    | some found =>
      have hother (new : Item) (j : String) (hj : j ≠ k) := find?_replace_of_ne hj es new
      cases found with
      | value v => simp [hk] at h
      | table standing inner =>
        simp only [hk] at h hlookup
        split at h
        · cases h
        · obtain ⟨inner', hinner, hes'⟩ := Option.bind_eq_some_iff.mp h
          cases hes'
          exact adds_of_table (hother _) (Or.inl ⟨_, hk⟩) (find?_replace_self hk _) hroot
            (ih (fun st t t' hreach => hchange st t t' fun j => (hlookup j).trans (hreach j))
              hinner)
      | rows tables =>
        simp only [hk] at h
        split at h
        · cases h
        · obtain ⟨last, -, hes'⟩ := Option.bind_eq_some_iff.mp h
          cases hes'
          exact adds_of_rows (hother _) hk (find?_replace_self hk _) hne

/-- A value is added under its key. -/
theorem adds_of_put {v : Value} (h : es.put path k v = some es') :
    Adds es es' (path ++ [k]) (.value v) := by
  refine adds_of_modifyAt (List.cons_ne_nil k []) (fun standing inner inner' _ hadd => ?_) h
  split at hadd
  · cases hadd
  · unfold add at hadd
    split at hadd
    next hk =>
      cases hadd
      refine adds_of_child (fun j hj => find?_concat_of_ne hj inner _) fun p x => ?_
      rw [find?_concat_self hk, hk, Option.bind_some, Option.bind_none, or_iff_right nofun]
      rfl
    next => cases hadd

end Entries

end StatusBoard.Toml
