import Mathlib.Data.List.Nodup
import StatusBoard.Proofs.Toml.Drafts
import StatusBoard.Proofs.Toml.Sights

/-!
The values that reading gives: no table has a name twice, and integers fit 64 bits with a sign.
-/
namespace StatusBoard.Toml

open Entries Lexical

/-- A value in whose tables no name stands twice, and whose integers fit 64 bits with a sign. -/
inductive Value.IsWellFormed : Value → Prop
  | string (s : String) : IsWellFormed (.string s)
  | integer (n : Int) (hlow : -((UInt64.size / 2 : Nat) : Int) ≤ n)
    (hhigh : n < (UInt64.size / 2 : Nat)) : IsWellFormed (.integer n)
  | float (x : Real) : IsWellFormed (.float x)
  | boolean (b : Bool) : IsWellFormed (.boolean b)
  | moment (literal : String) : IsWellFormed (.moment literal)
  | array (items : List Value) (h : ∀ v ∈ items, v.IsWellFormed) : IsWellFormed (.array items)
  | table (members : List (String × Value)) (hnames : (members.map (·.1)).Nodup)
    (h : ∀ m ∈ members, m.2.IsWellFormed) : IsWellFormed (.table members)

namespace Entries

/-- Entries of a well-formed table. -/
structure IsWellFormed (es : Entries) : Prop where
  names : (es.map (·.1)).Nodup
  values : ∀ e ∈ es, (valueOf e.2).IsWellFormed

variable {es es' inner : Entries} {j k : String} {item : Item}

theorem isWellFormed_nil : IsWellFormed [] :=
  ⟨List.nodup_nil, nofun⟩

theorem isWellFormed_table_iff (standing : Standing) :
    (valueOf (.table standing es)).IsWellFormed ↔ es.IsWellFormed := by
  rw [valueOf, membersOf_eq_map]
  constructor
  · rintro (_ | _ | _ | _ | _ | _ | ⟨_, hnames, h⟩)
    rw [List.map_map] at hnames
    exact ⟨hnames, fun e he => h (e.1, valueOf e.2) (List.mem_map_of_mem he)⟩
  · intro h
    refine .table _ ?_ (List.forall_mem_map.mpr h.values)
    rw [List.map_map]
    exact h.names

theorem isWellFormed_rows_iff {tables : List Entries} :
    (valueOf (.rows tables)).IsWellFormed ↔ ∀ es ∈ tables, IsWellFormed es := by
  rw [valueOf, rowsOf_eq_map]
  constructor
  · rintro (_ | _ | _ | _ | _ | ⟨_, h⟩ | _)
    exact fun es hes =>
      (isWellFormed_table_iff .stated).mp (List.forall_mem_map.mp h es hes)
  · intro h
    exact .array _ (List.forall_mem_map.mpr fun es hes =>
      (isWellFormed_table_iff .stated).mpr (h es hes))

namespace IsWellFormed

theorem of_find? (h : es.IsWellFormed) (hk : find? es k = some item) :
    (valueOf item).IsWellFormed := by
  obtain ⟨before, after, rfl, -⟩ := List.lookup_eq_some_iff.mp hk
  exact h.values (k, item) (by simp)

theorem concat (h : es.IsWellFormed) (hk : find? es k = none)
    (hitem : (valueOf item).IsWellFormed) : IsWellFormed (es ++ [(k, item)]) := by
  have hnew : k ∉ es.map (·.1) := by
    rintro hmem
    obtain ⟨e, he, rfl⟩ := List.mem_map.mp hmem
    have hne := List.lookup_eq_none_iff.mp hk e he
    simp at hne
  constructor
  · rw [List.map_append]
    exact List.nodup_append_comm.mp (List.nodup_cons.mpr ⟨hnew, h.names⟩)
  · rw [List.forall_mem_append, List.forall_mem_singleton]
    exact ⟨h.values, hitem⟩

theorem replace (h : es.IsWellFormed) (hitem : (valueOf item).IsWellFormed) (k : String) :
    (es.replace k item).IsWellFormed := by
  constructor
  · have hnames : (es.replace k item).map (·.1) = es.map (·.1) := by
      rw [Entries.replace, List.map_map]
      refine List.map_congr_left fun e _ => ?_
      by_cases he : e.1 = k <;> simp [he]
    rw [hnames]
    exact h.names
  · refine List.forall_mem_map.mpr fun e he => ?_
    split
    · exact hitem
    · exact h.values e he

theorem erase (h : es.IsWellFormed) (k : String) : (es.erase k).IsWellFormed :=
  ⟨h.names.sublist (List.filter_sublist.map _), fun e he => h.values e (List.mem_of_mem_filter he)⟩

theorem add (h : es.IsWellFormed) (hitem : (valueOf item).IsWellFormed)
    (hes' : es.add k item = some es') : es'.IsWellFormed := by
  unfold Entries.add at hes'
  split at hes'
  next hk =>
    cases hes'
    exact h.concat hk hitem
  next => cases hes'

/-- A change of a table that leaves it well-formed does so to the document. -/
theorem modifyAt {fresh : Standing} {change : Standing → Entries → Option Entries}
    (hchange : ∀ standing es es', es.IsWellFormed → change standing es = some es' →
      es'.IsWellFormed) {path : List String} {standing : Standing} (h : es.IsWellFormed)
    (hes' : modifyAt fresh change path standing es = some es') : es'.IsWellFormed := by
  induction path generalizing standing es es' with
  | nil => exact hchange standing es es' h hes'
  | cons k ks ih =>
    rw [Entries.modifyAt] at hes'
    split at hes'
    next hk =>
      obtain ⟨inner, hinner, heq⟩ := Option.bind_eq_some_iff.mp hes'
      cases heq
      exact h.concat hk ((isWellFormed_table_iff fresh).mpr (ih isWellFormed_nil hinner))
    next => cases hes'
    next hk =>
      split at hes'
      · cases hes'
      · obtain ⟨inner', hinner, heq⟩ := Option.bind_eq_some_iff.mp hes'
        cases heq
        have hfound := (isWellFormed_table_iff _).mp (h.of_find? hk)
        exact h.replace ((isWellFormed_table_iff _).mpr (ih hfound hinner)) k
    next tables hk =>
      split at hes'
      · cases hes'
      next last hlast =>
        obtain ⟨last', hlast', heq⟩ := Option.bind_eq_some_iff.mp hes'
        cases heq
        have hrows := isWellFormed_rows_iff.mp (h.of_find? hk)
        refine h.replace (isWellFormed_rows_iff.mpr ?_) k
        rw [List.forall_mem_append, List.forall_mem_singleton]
        exact ⟨fun es hes => hrows es (tables.dropLast_subset hes),
          ih (hrows last (List.mem_of_getLast? hlast)) hlast'⟩

theorem put {path : List String} {v : Value} (h : es.IsWellFormed) (hv : v.IsWellFormed)
    (hes' : es.put path k v = some es') : es'.IsWellFormed := by
  refine h.modifyAt (fun _ inner inner' hinner hadd => ?_) hes'
  split at hadd
  · cases hadd
  · have hitem : (valueOf (.value v)).IsWellFormed := hv
    exact hinner.add hitem hadd

end IsWellFormed

end Entries

namespace Item

variable {item inner : Item} {k : String} {p : List String}

theorem isWellFormed_of_child? (h : (valueOf item).IsWellFormed) (hk : item.child? k = some inner) :
    (valueOf inner).IsWellFormed := by
  cases item with
  | value v =>
    cases v with
    | table members =>
      obtain ⟨v, hv, rfl⟩ := Option.map_eq_some_iff.mp hk
      obtain ⟨before, after, rfl, -⟩ := List.lookup_eq_some_iff.mp hv
      obtain _ | _ | _ | _ | _ | _ | ⟨_, -, hmembers⟩ := h
      exact hmembers (k, v) (by simp)
    | string | integer | float | boolean | moment | array => cases hk
  | table standing es => exact ((isWellFormed_table_iff standing).mp h).of_find? hk
  | rows tables => cases hk

theorem isWellFormed_of_at? (h : (valueOf item).IsWellFormed) (hp : item.at? p = some inner) :
    (valueOf inner).IsWellFormed := by
  induction p generalizing item with
  | nil =>
    cases hp
    exact h
  | cons k p ih =>
    obtain ⟨next, hnext, hp⟩ := Option.bind_eq_some_iff.mp hp
    exact ih (isWellFormed_of_child? h hnext) hp

end Item

/-- A reader that gives well-formed values only. -/
def Sound (value : Reader Value) : Prop :=
  ∀ cs v r, value cs = some (v, r) → v.IsWellFormed

namespace Scalar

theorem isWellFormed_of_integer? {negative : Bool} {n : Nat} {v : Value}
    (h : integer? negative n = some v) : v.IsWellFormed := by
  have hpos : 0 < UInt64.size / 2 := by decide
  unfold integer? at h
  split at h <;> split at h <;> cases h
  · exact .integer _ (by omega) (by omega)
  · exact .integer _ (by omega) (by omega)

theorem isWellFormed_of_float? {negative : Bool} {ds : List Char} {k : Int} {v : Value}
    (h : float? negative ds k = some v) : v.IsWellFormed := by
  unfold float? at h
  split at h
  · cases h
    exact .float _
  · split at h <;> cases h
    exact .float _

theorem sound_moment : Sound moment := by
  intro cs v r h
  simp only [moment] at h
  split at h
  all_goals simp only [Option.bind_eq_bind, Option.bind_eq_some_iff, Option.some.injEq,
    Prod.mk.injEq] at h
  · obtain ⟨_, -, _, -, rfl, -⟩ := h
    exact .moment _
  · obtain ⟨_, -, rfl, -⟩ := h
    exact .moment _

theorem sound_based (base : Nat) (isDigit : Char → Bool) : Sound (based base isDigit) := by
  intro cs v r h
  simp only [based, Option.bind_eq_bind, Option.bind_eq_some_iff, Option.some.injEq,
    Prod.mk.injEq] at h
  obtain ⟨_, -, _, hinteger, rfl, -⟩ := h
  exact isWellFormed_of_integer? hinteger

/-- A value with the characters behind it is as well-formed as the value. -/
theorem isWellFormed_of_bind {x : Option Value} {v : Value} {r r' : List Char}
    (hx : ∀ w, x = some w → w.IsWellFormed) (h : (x.bind fun w => some (w, r)) = some (v, r')) :
    v.IsWellFormed := by
  obtain ⟨w, hw, heq⟩ := Option.bind_eq_some_iff.mp h
  cases heq
  exact hx v hw

theorem sound_decimal : Sound decimal := by
  intro cs v r h
  simp only [decimal, Option.bind_eq_bind, Option.bind_eq_some_iff] at h
  obtain ⟨_, -, h⟩ := h
  split at h
  all_goals
    simp only [Option.bind_eq_some_iff] at h
    obtain ⟨_, -, _, -, h⟩ := h
    split at h
  · exact isWellFormed_of_bind (fun _ => isWellFormed_of_integer?) h
  · exact isWellFormed_of_bind (fun _ => isWellFormed_of_float?) h
  · exact isWellFormed_of_bind (fun _ => isWellFormed_of_integer?) h
  · exact isWellFormed_of_bind (fun _ => isWellFormed_of_float?) h

theorem sound_number : Sound number := by
  intro cs v r h
  unfold number at h
  split at h
  · exact sound_moment cs v r h
  · split at h
    · exact sound_based _ _ _ v r h
    · exact sound_based _ _ _ v r h
    · exact sound_based _ _ _ v r h
    · cases h; exact .float _
    · cases h; exact .float _
    · cases h; exact .float _
    · cases h; exact .float _
    · exact sound_decimal cs v r h

theorem sound_read : Sound read := by
  intro cs v r h
  unfold read at h
  split at h
  · cases h; exact .boolean _
  · cases h; exact .boolean _
  · cases h; exact .float _
  · cases h; exact .float _
  · exact sound_number cs v r h

end Scalar

namespace Compound

theorem isWellFormed_of_items {value : Reader Value} (hvalue : Sound value) {fuel : Nat}
    {cs r : List Char} {vs : List Value} (h : items value fuel cs = some (vs, r)) :
    ∀ v ∈ vs, v.IsWellFormed := by
  induction fuel generalizing cs vs with
  | zero => cases h
  | succ fuel ih =>
    simp only [items, Option.bind_eq_bind] at h
    split at h
    · cases h
      nofun
    · simp only [Option.bind_eq_some_iff] at h
      obtain ⟨⟨v, r'⟩, hv, h⟩ := h
      split at h
      · simp only [Option.bind_eq_some_iff] at h
        obtain ⟨⟨vs, r''⟩, hvs, h⟩ := h
        cases h
        exact List.forall_mem_cons.mpr ⟨hvalue _ v _ hv, ih hvs⟩
      · cases h
        exact List.forall_mem_singleton.mpr (hvalue _ v _ hv)
      · cases h

theorem isWellFormed_of_members {value : Reader Value} (hvalue : Sound value) {fuel : Nat}
    {es es' : Entries} {cs r : List Char} (hes : es.IsWellFormed)
    (h : members value fuel es cs = some (es', r)) : es'.IsWellFormed := by
  induction fuel generalizing es cs with
  | zero => cases h
  | succ fuel ih =>
    simp only [members, Option.bind_eq_bind, Option.bind_eq_some_iff] at h
    obtain ⟨_, -, _, -, _, -, _, hv, _, hput, h⟩ := h
    have hnext := hes.put (hvalue _ _ _ hv) hput
    split at h
    · exact ih hnext h
    · cases h
      exact hnext
    · cases h

theorem isWellFormed_of_string (cs : List Char) (v : Value) (r : List Char)
    (h : (string cs).map (fun (s, r) => (Value.string s, r)) = some (v, r)) : v.IsWellFormed := by
  obtain ⟨_, -, heq⟩ := Option.map_eq_some_iff.mp h
  cases heq
  exact .string _

theorem sound_value (depth : Nat) : Sound (value depth) := by
  induction depth with
  | zero =>
    intro cs v r h
    unfold value at h
    split at h
    · exact isWellFormed_of_string _ v r h
    · exact isWellFormed_of_string _ v r h
    · cases h
    · cases h
    · next heq => cases heq
    · next heq => cases heq
    · exact Scalar.sound_read _ v r h
  | succ depth ih =>
    intro cs v r h
    unfold value at h
    split at h
    · exact isWellFormed_of_string _ v r h
    · exact isWellFormed_of_string _ v r h
    · next heq => cases heq
    · next heq => cases heq
    · next heq =>
      cases heq
      obtain ⟨_, hitems, heq⟩ := Option.map_eq_some_iff.mp h
      cases heq
      exact .array _ (isWellFormed_of_items ih hitems)
    · next heq =>
      cases heq
      split at h
      · cases h
        exact .table [] List.nodup_nil nofun
      · obtain ⟨_, hmembers, heq⟩ := Option.map_eq_some_iff.mp h
        cases heq
        have hes := isWellFormed_of_members ih isWellFormed_nil hmembers
        exact (isWellFormed_table_iff .stated).mpr hes
    · exact Scalar.sound_read _ v r h

end Compound

namespace Line

/-- The value that a line gives, if it gives one, is well-formed. -/
def IsWellFormed (l : Line) : Prop :=
  ∀ key v, l = .pair key v → v.IsWellFormed

theorem isWellFormed_of_readPair {cs r : List Char} {l : Line}
    (h : readPair cs = some (l, r)) : l.IsWellFormed := by
  simp only [readPair, Option.bind_eq_bind, Option.bind_eq_some_iff, Option.some.injEq,
    Prod.mk.injEq] at h
  obtain ⟨_, -, _, -, _, hvalue, _, -, rfl, -⟩ := h
  rintro key v ⟨⟩
  exact Compound.sound_value _ _ _ _ hvalue

theorem isWellFormed_of_readHeader {cs r : List Char} {l : Line}
    (h : readHeader cs = some (l, r)) : l.IsWellFormed := by
  unfold readHeader at h
  split at h
  all_goals simp only [Option.bind_eq_bind, Option.bind_eq_some_iff, Option.some.injEq,
    Prod.mk.injEq] at h
  · obtain ⟨_, -, _, -, _, -, _, -, rfl, -⟩ := h
    nofun
  · obtain ⟨_, -, _, -, _, -, rfl, -⟩ := h
    nofun

theorem isWellFormed_of_readAll {fuel : Nat} {cs : List Char} {ls : List Line}
    (h : readAll fuel cs = some ls) : ∀ l ∈ ls, l.IsWellFormed := by
  induction fuel generalizing cs ls with
  | zero => cases h
  | succ fuel ih =>
    simp only [readAll, Option.bind_eq_bind] at h
    split at h
    · cases h
      nofun
    · obtain ⟨_, -, h⟩ := Option.bind_eq_some_iff.mp h
      exact ih h
    · exact ih h
    · exact ih h
    all_goals
      simp only [Option.bind_eq_some_iff, Option.some.injEq] at h
      obtain ⟨_, hl, _, hls, rfl⟩ := h
    · exact List.forall_mem_cons.mpr ⟨isWellFormed_of_readHeader hl, ih hls⟩
    · exact List.forall_mem_cons.mpr ⟨isWellFormed_of_readPair hl, ih hls⟩

end Line

namespace Draft

/-- A draft of well-formed tables. -/
structure IsWellFormed (d : Draft) : Prop where
  root : d.root.IsWellFormed
  current : d.current.IsWellFormed

variable {d d' : Draft} {es : Entries} {path : List String}

theorem isWellFormed_implied? {item : Option Item} (hitem : ∀ i ∈ item, (valueOf i).IsWellFormed)
    (h : implied? item = some es) : es.IsWellFormed := by
  unfold implied? at h
  split at h
  · cases h
    exact isWellFormed_nil
  · cases h
    exact (isWellFormed_table_iff .implied).mp (hitem _ rfl)
  · cases h

theorem isWellFormed_lookupAt {item : Option Item} (hes : es.IsWellFormed)
    (h : openTable.lookupAt path es = some item) : ∀ i ∈ item, (valueOf i).IsWellFormed := by
  induction path generalizing es with
  | nil => cases h
  | cons k ks ih =>
    rcases eq_or_ne ks [] with rfl | hks
    · cases h
      exact fun i hi => hes.of_find? hi
    · rw [lookupAt_cons hks] at h
      split at h
      · cases h
        nofun
      · cases h
      next hk => exact ih ((isWellFormed_table_iff _).mp (hes.of_find? hk)) h
      next tables hk =>
        obtain ⟨last, hlast, h⟩ := Option.bind_eq_some_iff.mp h
        have hrows := isWellFormed_rows_iff.mp (hes.of_find? hk)
        exact ih (hrows last (List.mem_of_getLast? hlast)) h

theorem isWellFormed_file {current es' : Entries} {k : String} {isRow : Bool}
    (hes : es.IsWellFormed) (hcurrent : current.IsWellFormed)
    (h : file k isRow current es = some es') : es'.IsWellFormed := by
  unfold file at h
  split at h
  · split at h
    next tables hk =>
      cases h
      refine hes.replace (isWellFormed_rows_iff.mpr ?_) k
      rw [List.forall_mem_append, List.forall_mem_singleton]
      exact ⟨isWellFormed_rows_iff.mp (hes.of_find? hk), hcurrent⟩
    next => cases h
  · exact hes.add ((isWellFormed_table_iff .stated).mpr hcurrent) h

theorem isWellFormed_takeOut {es' : Entries} {k : String} (hes : es.IsWellFormed)
    (h : takeOut k es = some es') : es'.IsWellFormed := by
  obtain ⟨_, -, heq⟩ := Option.bind_eq_some_iff.mp h
  cases heq
  exact hes.erase k

theorem isWellFormed_makeRows {es' : Entries} {k : String} (hes : es.IsWellFormed)
    (h : makeRows k es = some es') : es'.IsWellFormed := by
  unfold makeRows at h
  split at h
  next hk =>
    cases h
    exact hes.concat hk (isWellFormed_rows_iff.mpr nofun)
  next =>
    cases h
    exact hes
  next => cases h

namespace IsWellFormed

theorem finish (h : d.IsWellFormed) (hes : d.finish = some es) : es.IsWellFormed := by
  obtain ⟨root, path, isRow, current⟩ := d
  rcases List.eq_nil_or_concat' path with rfl | ⟨init, k, rfl⟩
  · cases hes
    exact h.current
  · rw [finish_concat] at hes
    exact h.root.modifyAt (fun _ _ _ haround hfile => isWellFormed_file haround h.current hfile) hes

theorem take {l : Line} (h : d.IsWellFormed) (hl : l.IsWellFormed) (hd' : d.take l = some d') :
    d'.IsWellFormed := by
  cases l with
  | pair key v =>
    obtain ⟨init, k, current, -, hput, rfl⟩ := exists_of_put hd'
    exact ⟨h.root, h.current.put (hl key v rfl) hput⟩
  | table path =>
    obtain ⟨init, k, es, taken, found, inner, -, hes, htaken, hfound, hinner, rfl⟩ :=
      exists_of_openTable hd'
    have hes := h.finish hes
    exact ⟨hes.modifyAt (fun _ _ _ haround => isWellFormed_takeOut haround) htaken,
      isWellFormed_implied? (isWellFormed_lookupAt hes hfound) hinner⟩
  | row path =>
    obtain ⟨init, k, es, opened, -, hes, hopened, rfl⟩ := exists_of_openRow hd'
    exact ⟨(h.finish hes).modifyAt (fun _ _ _ haround => isWellFormed_makeRows haround) hopened,
      isWellFormed_nil⟩

theorem foldlM {ls : List Line} (h : d.IsWellFormed) (hls : ∀ l ∈ ls, l.IsWellFormed)
    (hd' : ls.foldlM Draft.take d = some d') : d'.IsWellFormed := by
  induction ls generalizing d with
  | nil =>
    cases hd'
    exact h
  | cons l ls ih =>
    rw [List.foldlM_cons] at hd'
    obtain ⟨next, hnext, hrest⟩ := Option.bind_eq_some_iff.mp hd'
    obtain ⟨hl, hls⟩ := List.forall_mem_cons.mp hls
    exact ih (h.take hl hnext) hls hrest

end IsWellFormed

end Draft

/-- The table of a document is well-formed. -/
theorem isWellFormed_of_build {s : String} {ls : List Line} {es : Entries}
    (hlines : lines s = some ls) (hes : build ls = some es) : es.IsWellFormed := by
  obtain ⟨d, hd, hes⟩ := Option.bind_eq_some_iff.mp hes
  have hempty : Draft.empty.IsWellFormed := ⟨isWellFormed_nil, isWellFormed_nil⟩
  exact (hempty.foldlM (Line.isWellFormed_of_readAll hlines) hd).finish hes

end StatusBoard.Toml
