import Mathlib.Data.List.Basic
import StatusBoard.Proofs.Toml.Entries
import StatusBoard.Toml.Document

/-!
What each kind of line does to a document that is being read: a key puts its value into the table
under the last header, and a header files that table and starts another.
-/
namespace StatusBoard.Toml.Draft

open Entries

variable {d d' : Draft} {es es' root current : Entries} {key path : List String} {k : String}
  {v : Value}

/-- Files the table under a header in the table around it. -/
def file (k : String) (isRow : Bool) (current es : Entries) : Option Entries :=
  if isRow then
    match find? es k with
    | some (.rows tables) => some (replace es k (.rows (tables ++ [current])))
    | _ => none
  else add es k (.table .stated current)

/-- Takes a table out of the one around it, if it is missing there or was only implied. -/
def takeOut (k : String) (es : Entries) : Option Entries :=
  (implied? (find? es k)).bind fun _ => some (erase es k)

/-- Puts an array without tables into a table, unless there is one under that name. -/
def makeRows (k : String) (es : Entries) : Option Entries :=
  match find? es k with
  | none => some (es ++ [(k, .rows [])])
  | some (.rows _) => some es
  | some _ => none

theorem finish_nil (root : Entries) (isRow : Bool) (current : Entries) :
    finish ⟨root, [], isRow, current⟩ = some current := rfl

theorem finish_concat (root : Entries) (init : List String) (k : String) (isRow : Bool)
    (current : Entries) : finish ⟨root, init ++ [k], isRow, current⟩ =
      modifyAt .implied (fun _ => file k isRow current) init .stated root := by
  simp only [finish, List.getLast?_concat, List.dropLast_concat]
  rfl

theorem exists_of_put (h : d.put key v = some d') : ∃ init k current, key = init ++ [k] ∧
    d.current.put init k v = some current ∧ d' = ⟨d.root, d.path, d.isRow, current⟩ := by
  rcases List.eq_nil_or_concat' key with rfl | ⟨init, k, rfl⟩
  · cases h
  · simp only [put, List.getLast?_concat, List.dropLast_concat, Option.bind_eq_bind,
      Option.bind_eq_some_iff, Option.some.injEq] at h
    obtain ⟨current, hput, rfl⟩ := h
    exact ⟨init, k, current, rfl, hput, rfl⟩

theorem exists_of_openTable (h : d.openTable path = some d') :
    ∃ init k es taken found inner, path = init ++ [k] ∧ d.finish = some es ∧
      modifyAt .implied (fun _ => takeOut k) init .stated es = some taken ∧
      openTable.lookupAt path es = some found ∧ implied? found = some inner ∧
      d' = ⟨taken, path, false, inner⟩ := by
  rcases List.eq_nil_or_concat' path with rfl | ⟨init, k, rfl⟩
  · cases h
  · simp only [openTable, List.getLast?_concat, List.dropLast_concat, Option.bind_eq_bind,
      Option.bind_eq_some_iff, Option.some.injEq] at h
    obtain ⟨es, hes, taken, htaken, found, hfound, inner, hinner, rfl⟩ := h
    exact ⟨init, k, es, taken, found, inner, rfl, hes, htaken, hfound, hinner, rfl⟩

theorem exists_of_openRow (h : d.openRow path = some d') :
    ∃ init k es opened, path = init ++ [k] ∧ d.finish = some es ∧
      modifyAt .implied (fun _ => makeRows k) init .stated es = some opened ∧
      d' = ⟨opened, path, true, []⟩ := by
  rcases List.eq_nil_or_concat' path with rfl | ⟨init, k, rfl⟩
  · cases h
  · simp only [openRow, List.getLast?_concat, List.dropLast_concat, Option.bind_eq_bind,
      Option.bind_eq_some_iff, Option.some.injEq] at h
    obtain ⟨es, hes, opened, hopened, rfl⟩ := h
    exact ⟨init, k, es, opened, rfl, hes, hopened, rfl⟩

/-- Filing a table with one more value is putting the value into the table that was filed. -/
theorem bind_file {tail : List String} (hput : current.put tail k v = some es')
    (l : String) (isRow : Bool) (standing : Standing) (es : Entries) :
    (file l isRow current es).bind
        (modifyAt .implied (fun _ inner => inner.put tail k v) [l] standing) =
      file l isRow es' es := by
  cases isRow with
  | true =>
    simp only [file, if_true]
    cases hl : find? es l with
    | none => rfl
    | some item =>
      cases item with
      | value v => rfl
      | table standing inner => rfl
      | rows tables =>
        have hfound := find?_replace_self hl (.rows (tables ++ [current]))
        simp [modifyAt, hfound, hput, replace_replace]
  | false =>
    simp only [file, add]
    cases hl : find? es l with
    | none =>
      have hfound := find?_concat_self hl (.table .stated current)
      simp [modifyAt, hfound, hput, replace_concat hl]
    | some item => rfl

/-- Reading a key is putting its value into the document under the last header. -/
theorem finish_put (h : d.put key v = some d') : ∃ init k, key = init ++ [k] ∧
    d.finish.bind (modifyAt .implied (fun _ inner => inner.put init k v) d.path .stated) =
      d'.finish := by
  obtain ⟨init, k, current, rfl, hput, rfl⟩ := exists_of_put h
  refine ⟨init, k, rfl, ?_⟩
  obtain ⟨root, path, isRow, before⟩ := d
  rcases List.eq_nil_or_concat' path with rfl | ⟨header, l, rfl⟩
  · rw [finish_nil, finish_nil]
    exact hput
  · rw [finish_concat, finish_concat, funext (modifyAt_append header [l] .stated), modifyAt_bind]
    simp only [bind_file hput]

/-- A header takes its table out of the document and files it again. -/
theorem finish_openTable (h : d.openTable path = some d') :
    ∃ init k es found inner, path = init ++ [k] ∧ d.finish = some es ∧
      openTable.lookupAt path es = some found ∧ implied? found = some inner ∧
      d'.finish = modifyAt .implied
        (fun _ around => (takeOut k around).bind (file k false inner)) init .stated es := by
  obtain ⟨init, k, es, taken, found, inner, rfl, hes, htaken, hfound, hinner, rfl⟩ :=
    exists_of_openTable h
  refine ⟨init, k, es, found, inner, rfl, hes, hfound, hinner, ?_⟩
  rw [finish_concat, ← modifyAt_bind, htaken, Option.bind_some]

/-- A header of a table of an array files the table without names in the array. -/
theorem finish_openRow (h : d.openRow path = some d') :
    ∃ init k es, path = init ++ [k] ∧ d.finish = some es ∧
      d'.finish = modifyAt .implied
        (fun _ around => (makeRows k around).bind (file k true [])) init .stated es := by
  obtain ⟨init, k, es, opened, rfl, hes, hopened, rfl⟩ := exists_of_openRow h
  refine ⟨init, k, es, rfl, hes, ?_⟩
  rw [finish_concat, ← modifyAt_bind, hopened, Option.bind_some]

end StatusBoard.Toml.Draft
