import Mathlib.Data.List.Infix
import StatusBoard.Proofs.Toml.Drafts
import StatusBoard.Proofs.Toml.Sights

/-!
What the lines of a document state, each by itself and under its header, and that the document
shows just that, however its tables are spelled and in whatever order they stand.
-/
namespace StatusBoard.Toml

open Entries

namespace Line

/-- The header that stands behind a line. -/
def header (before : List String) : Line → List String
  | .pair _ _ => before
  | .table path => path
  | .row path => path

/-- The path that a line is about; a key stands under the header. -/
def path (header : List String) : Line → List String
  | .pair key _ => header ++ key
  | .table path => path
  | .row path => path

/-- What a line puts at its path. -/
def content : Line → Item
  | .pair _ v => .value v
  | .table _ => .table .stated []
  | .row _ => .rows []

/-- The tables around what a line puts at its path, and this. -/
def item (header : List String) (l : Line) : Item :=
  l.content.under (l.path header)

/-- What lines say one by one. -/
def items : List String → List Line → List Item
  | _, [] => []
  | header, l :: ls => l.item header :: items (l.header header) ls

end Line

/-- What items show together at a path: what one of them shows there. Nothing can be seen in an
array of tables. -/
def Shows (is : List Item) (p : List String) (x : Sight) : Prop :=
  (∀ i ∈ is, ∀ r, i.sight? r = some .rows → r <+: p → r = p ∧ x = .rows) ∧
    ∃ i ∈ is, i.sight? p = some x

/-- What a document says by its lines; it is a table. -/
def said (ls : List Line) : List Item :=
  .table .stated [] :: Line.items [] ls

/-- What the lines of a document state about a path. -/
def States (ls : List Line) (p : List String) (x : Sight) : Prop :=
  Shows (said ls) p x

section Showing

variable {is : List Item} {item : Item} {es es' : Entries} {p r path : List String} {x : Sight}

/-- A path on which there is an array of tables leads to the first one that can be seen. -/
theorem exists_shows_rows {i : Item} (hi : i ∈ is) (hrows : i.sight? r = some .rows) :
    ∃ s, s <+: r ∧ Shows is s .rows := by
  -- By induction on the length: an array on the way to another one is nearer.
  induction hlength : r.length using Nat.strong_induction_on generalizing i r with
  | _ n ih =>
    by_cases hfirst : ∀ j ∈ is, ∀ s, j.sight? s = some .rows → s <+: r → s = r
    · exact ⟨r, List.prefix_rfl, fun j hj s hs hsr => ⟨hfirst j hj s hs hsr, rfl⟩, i, hi, hrows⟩
    · push Not at hfirst
      obtain ⟨j, hj, s, hs, hsr, hne⟩ := hfirst
      have hlt : s.length < n := hlength ▸ hsr.length_le.lt_of_ne fun h => hne (hsr.eq_of_length h)
      obtain ⟨t, hts, ht⟩ := ih s.length hlt hj hs rfl
      exact ⟨t, hts.trans hsr, ht⟩

/-- Nothing can be seen behind an array of tables. -/
theorem eq_of_sight?_rows (hr : es.sight? r = some .rows) (hp : es.sight? p = some x)
    (hrp : r <+: p) : r = p ∧ x = .rows := by
  by_cases hne : r = p
  · subst hne
    exact ⟨rfl, Option.some.inj (hp.symm.trans hr)⟩
  · have htable := Item.sight?_of_prefix hrp hne hp
    cases hr.symm.trans htable

/-- A table that shows what items show still does when one more item is added to it. -/
theorem shows_concat_iff (h : ∀ p x, es.sight? p = some x ↔ Shows is p x)
    (hadds : Adds es es' path item) (p : List String) (x : Sight) :
    es'.sight? p = some x ↔ Shows (is ++ [item.under path]) p x := by
  have hmem (P : Item → Prop) :
      (∃ i ∈ is ++ [item.under path], P i) ↔ (∃ i ∈ is, P i) ∨ P (item.under path) := by
    simp [or_and_right, exists_or]
  have hall (P : Item → Prop) :
      (∀ i ∈ is ++ [item.under path], P i) ↔ (∀ i ∈ is, P i) ∧ P (item.under path) := by
    simp [or_imp, forall_and]
  rw [Shows, hmem, hall]
  -- Either the item can be seen, or it lies behind the array at `r` and nothing changes.
  rcases hadds with hopen | ⟨⟨r, hr, hne, hrows⟩, hsame⟩
  · rw [hopen, h]
    have hend {s : List String} (hs : es'.sight? s = some .rows) (hp : es'.sight? p = some x)
        (hsp : s <+: p) := eq_of_sight?_rows hs hp hsp
    constructor
    · intro hp
      have hp' : es'.sight? p = some x := (hopen p x).mpr (hp.imp_left (h p x).mpr)
      refine ⟨⟨fun i hi s hs hsp => ?_, fun s hs hsp => ?_⟩, hp.imp_left And.right⟩
      · obtain ⟨t, hts, ht⟩ := exists_shows_rows hi hs
        obtain ⟨rfl, hx⟩ := hend ((hopen t _).mpr (Or.inl ((h t _).mpr ht))) hp' (hts.trans hsp)
        exact ⟨hsp.eq_of_length_le hts.length_le, hx⟩
      · exact hend ((hopen s _).mpr (Or.inr hs)) hp' hsp
    · rintro ⟨⟨hvisible, -⟩, hp⟩
      exact hp.imp_left fun hp => ⟨hvisible, hp⟩
  · rw [hsame, h]
    obtain ⟨hvisible, i, hi, hir⟩ := (h r .rows).mp hrows
    -- What leads into the array of tables at `r` cannot lead to the place of the item.
    have hshort (hpath : path <+: p) (hend : r <+: p → r = p ∧ x = .rows) : False := by
      obtain ⟨rfl, -⟩ := hend (hr.trans hpath)
      exact hne (hr.eq_of_length_le hpath.length_le)
    constructor
    · rintro ⟨hall, hp⟩
      refine ⟨⟨hall, fun s hs hsp => ?_⟩, Or.inl hp⟩
      obtain ⟨-, -, hs⟩ | ⟨q, rfl, -⟩ := (Item.sight?_under_iff ..).mp hs
      · cases hs
      · exact (hshort ((List.prefix_append path q).trans hsp) (hall i hi r hir)).elim
    · rintro ⟨⟨hall, -⟩, hp | hp⟩
      · exact ⟨hall, hp⟩
      · have hend := hall i hi r hir
        refine ⟨hall, i, hi, ?_⟩
        obtain ⟨hpath, -, rfl⟩ | ⟨q, rfl, -⟩ := (Item.sight?_under_iff ..).mp hp
        · rcases List.prefix_or_prefix_of_prefix hr hpath with hrp | hpr
          · cases (hend hrp).2
          · refine Item.sight?_of_prefix hpr (fun heq => ?_) hir
            cases (hend (heq ▸ List.prefix_rfl)).2
        · exact (hshort (List.prefix_append path q) hend).elim

end Showing

namespace Draft

variable {d d' : Draft} {es es' inner : Entries} {path : List String} {k : String}

/-- A table that was missing or implied is there as before when it is filed again. -/
theorem adds_of_takeOut (hinner : implied? (find? es k) = some inner)
    (h : (takeOut k es).bind (file k false inner) = some es') :
    Adds es es' [k] (.table .stated []) := by
  have herase : find? (erase es k) k = none := by rw [find?_erase, if_pos rfl]
  have hother (j : String) (hj : j ≠ k) :
      find? (erase es k ++ [(k, .table .stated inner)]) j = find? es j := by
    rw [find?_concat_of_ne hj, find?_erase, if_neg hj]
  have hbefore : (∃ standing, find? es k = some (.table standing inner)) ∨
      find? es k = none ∧ inner = [] := by
    cases hk : find? es k with
    | none =>
      rw [hk] at hinner
      exact Or.inr ⟨rfl, (Option.some.inj hinner).symm⟩
    | some item =>
      rw [hk] at hinner
      unfold implied? at hinner
      split at hinner
      next heq => cases heq
      next heq =>
        cases heq
        cases hinner
        exact Or.inl ⟨_, rfl⟩
      next => cases hinner
  have hself : Adds inner inner [] (.table .stated []) := by
    refine Or.inl fun p x => (or_iff_left_of_imp fun hp => ?_).symm
    cases p with
    | nil => exact hp
    | cons j p => cases hp
  simp only [takeOut, hinner, Option.bind_some, file, add, herase] at h
  cases h
  exact adds_of_table hother hbefore (find?_concat_self herase _) rfl hself

/-- An array is there with one more table as it was without. -/
theorem adds_of_makeRows (h : (makeRows k es).bind (file k true []) = some es') :
    Adds es es' [k] (.rows []) := by
  cases hk : find? es k with
  | none =>
    have hfound := find?_concat_self hk (.rows [])
    simp only [makeRows, hk, Option.bind_some, file, hfound, if_true, replace_concat hk] at h
    cases h
    refine adds_of_child (fun j hj => find?_concat_of_ne hj es _) fun p x => ?_
    simp only [find?_concat_self hk, hk, Option.bind_some, Option.bind_none, reduceCtorEq, false_or]
    exact iff_of_eq (congrArg (· = _) (Item.sight?_rows _ [] p))
  | some item =>
    cases item with
    | value v => simp [makeRows, hk] at h
    | table standing inner => simp [makeRows, hk] at h
    | rows tables =>
      simp only [makeRows, hk, Option.bind_some, file, if_true] at h
      cases h
      refine adds_of_child (fun j hj => find?_replace_of_ne hj es _) fun p x => ?_
      rw [find?_replace_self hk, hk, Option.bind_some, Option.bind_some]
      rw [Item.sight?_rows _ [] p, Item.sight?_rows tables [] p]
      exact (or_self_iff).symm

/-- A line adds to the document what it says by itself. -/
theorem adds_of_take {l : Line} (h : d.take l = some d') (hes' : d'.finish = some es') :
    ∃ es, d.finish = some es ∧ Adds es es' (l.path d.path) l.content := by
  cases l with
  | pair key v =>
    obtain ⟨init, k, rfl, hfinish⟩ := finish_put h
    obtain ⟨es, hes, hmodify⟩ := Option.bind_eq_some_iff.mp (hfinish.trans hes')
    exact ⟨es, hes, adds_of_modifyAt (List.concat_ne_nil k init)
      (fun _ _ _ _ hput => adds_of_put hput) hmodify⟩
  | table path =>
    obtain ⟨init, k, es, found, inner, rfl, hes, hfound, hinner, hfinish⟩ := finish_openTable h
    refine ⟨es, hes, adds_of_modifyAt (List.cons_ne_nil k []) ?_ (hfinish.symm.trans hes')⟩
    intro _ around around' hreach hchange
    obtain rfl := Option.some.inj (hfound.symm.trans (hreach k))
    exact adds_of_takeOut hinner hchange
  | row path =>
    obtain ⟨init, k, es, rfl, hes, hfinish⟩ := finish_openRow h
    exact ⟨es, hes, adds_of_modifyAt (List.cons_ne_nil k [])
      (fun _ _ _ _ hchange => adds_of_makeRows hchange) (hfinish.symm.trans hes')⟩

theorem path_of_take {l : Line} (h : d.take l = some d') : d'.path = l.header d.path := by
  cases l with
  | pair key v =>
    obtain ⟨_, _, _, -, -, rfl⟩ := exists_of_put h
    rfl
  | table path =>
    obtain ⟨_, _, _, _, _, _, -, -, -, -, -, rfl⟩ := exists_of_openTable h
    rfl
  | row path =>
    obtain ⟨_, _, _, _, -, -, -, rfl⟩ := exists_of_openRow h
    rfl

/-- What a draft shows, once it is finished, is what items show. -/
def Follows (is : List Item) (d : Draft) : Prop :=
  ∀ es, d.finish = some es → ∀ p x, es.sight? p = some x ↔ Shows is p x

theorem Follows.take {is : List Item} {l : Line} (h : d.Follows is) (hd' : d.take l = some d') :
    d'.Follows (is ++ [l.item d.path]) := by
  intro es' hes'
  obtain ⟨es, hes, hadds⟩ := adds_of_take hd' hes'
  exact shows_concat_iff (h es hes) hadds

theorem Follows.foldlM {is : List Item} {ls : List Line} (h : d.Follows is)
    (hd' : ls.foldlM Draft.take d = some d') : d'.Follows (is ++ Line.items d.path ls) := by
  induction ls generalizing d is with
  | nil =>
    cases hd'
    rwa [Line.items, List.append_nil]
  | cons l ls ih =>
    rw [List.foldlM_cons] at hd'
    obtain ⟨next, hnext, hrest⟩ := Option.bind_eq_some_iff.mp hd'
    have hfollows := ih (h.take hnext) hrest
    rwa [path_of_take hnext, List.append_assoc, List.singleton_append, ← Line.items] at hfollows

theorem follows_empty : empty.Follows [.table .stated []] := by
  rintro es hes p x
  cases hes
  simp only [Shows, List.mem_singleton, forall_eq, exists_eq_left]
  refine (and_iff_right fun r hr => ?_).symm
  cases r <;> cases hr

end Draft

/-- A document shows what its lines state. -/
theorem sight?_build_iff {ls : List Line} {es : Entries} (h : build ls = some es)
    (p : List String) (x : Sight) : es.sight? p = some x ↔ States ls p x := by
  obtain ⟨d, hd, hes⟩ := Option.bind_eq_some_iff.mp h
  exact Draft.follows_empty.foldlM hd es hes p x

end StatusBoard.Toml
