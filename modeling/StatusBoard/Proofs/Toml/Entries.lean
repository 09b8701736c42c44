import StatusBoard.Toml.Table

/-!
What a name stands for after a change to a table, and changes that are made one after the other at
one place of a document.
-/
namespace StatusBoard.Toml.Entries

variable {es : Entries} {j k : String} {item : Item}

@[simp]
theorem find?_nil (k : String) : find? [] k = none := rfl

theorem find?_cons (k j : String) (item : Item) (es : Entries) :
    find? ((k, item) :: es) j = if j = k then some item else find? es j := by
  by_cases h : j = k
  · rw [if_pos h, find?, List.lookup_cons, beq_iff_eq.mpr h]
  · rw [if_neg h, find?, find?, List.lookup_cons, beq_eq_false_iff_ne.mpr h]

theorem find?_concat (es : Entries) (k j : String) (item : Item) :
    find? (es ++ [(k, item)]) j = (find? es j).or (if j = k then some item else none) := by
  rw [find?, List.lookup_append]
  exact congrArg _ (find?_cons k j item [])

theorem find?_concat_self (h : find? es k = none) (item : Item) :
    find? (es ++ [(k, item)]) k = some item := by
  rw [find?_concat, h, if_pos rfl, Option.none_or]

theorem find?_concat_of_ne (hjk : j ≠ k) (es : Entries) (item : Item) :
    find? (es ++ [(k, item)]) j = find? es j := by
  rw [find?_concat, if_neg hjk, Option.or_none]

theorem find?_replace (es : Entries) (k j : String) (item : Item) :
    find? (replace es k item) j = if j = k then (find? es k).map fun _ => item else find? es j := by
  induction es with
  | nil => simp [replace]
  | cons e es ih =>
    obtain ⟨l, old⟩ := e
    rw [replace, List.map_cons, ← replace]
    by_cases hl : l = k
    · subst hl
      rw [beq_self_eq_true, if_pos rfl, find?_cons, find?_cons, find?_cons, if_pos rfl, ih]
      split <;> rfl
    · rw [if_neg (mt beq_iff_eq.mp hl), find?_cons, find?_cons, find?_cons, ih,
        if_neg (Ne.symm hl)]
      grind

theorem find?_replace_self (h : find? es k = some item) (new : Item) :
    find? (replace es k new) k = some new := by
  rw [find?_replace, if_pos rfl, h, Option.map_some]

theorem find?_replace_of_ne (hjk : j ≠ k) (es : Entries) (new : Item) :
    find? (replace es k new) j = find? es j := by
  rw [find?_replace, if_neg hjk]

theorem find?_erase (es : Entries) (k j : String) :
    find? (erase es k) j = if j = k then none else find? es j := by
  induction es with
  | nil => simp [erase]
  | cons e es ih =>
    obtain ⟨l, item⟩ := e
    by_cases hl : l = k
    · rw [erase, List.filter_cons_of_neg (by simp [hl]), ← erase, ih, find?_cons, hl]
      split <;> rfl
    · rw [erase, List.filter_cons_of_pos (by simp [hl]), ← erase, find?_cons, find?_cons, ih]
      grind

theorem replace_replace (es : Entries) (k : String) (old new : Item) :
    replace (replace es k old) k new = replace es k new := by
  rw [replace, replace, List.map_map]
  refine List.map_congr_left fun e _ => ?_
  by_cases he : e.1 = k <;> simp [he]

theorem replace_eq_self (h : find? es k = none) (item : Item) : replace es k item = es := by
  rw [find?, List.lookup_eq_none_iff] at h
  refine (List.map_congr_left fun e he => if_neg ?_).trans (List.map_id es)
  have hk := h e he
  grind

theorem replace_concat (h : find? es k = none) (old new : Item) :
    replace (es ++ [(k, old)]) k new = es ++ [(k, new)] := by
  rw [replace, List.map_append, ← replace, replace_eq_self h]
  simp

theorem membersOf_eq_map (es : Entries) : membersOf es = es.map fun e => (e.1, valueOf e.2) := by
  induction es with
  | nil => rfl
  | cons e es ih => rw [membersOf, ih, List.map_cons]

theorem rowsOf_eq_map (tables : List Entries) :
    rowsOf tables = tables.map fun es => .table (membersOf es) := by
  induction tables with
  | nil => rfl
  | cons es tables ih => rw [rowsOf, ih, List.map_cons]

theorem lookup_membersOf (es : Entries) (k : String) :
    (membersOf es).lookup k = (find? es k).map valueOf := by
  induction es with
  | nil => rfl
  | cons e es ih =>
    obtain ⟨j, item⟩ := e
    rw [membersOf, List.lookup_cons, ih, find?_cons]
    by_cases hk : k = j
    · rw [if_pos hk, beq_iff_eq.mpr hk, Option.map_some]
    · rw [if_neg hk, beq_eq_false_iff_ne.mpr hk]

theorem lookupAt_cons {ks : List String} (hks : ks ≠ []) (k : String) (es : Entries) :
    Draft.openTable.lookupAt (k :: ks) es =
      match find? es k with
      | none => some none
      | some (.value _) => none
      | some (.table _ inner) => Draft.openTable.lookupAt ks inner
      | some (.rows tables) => tables.getLast?.bind (Draft.openTable.lookupAt ks) := by
  obtain ⟨l, ls, rfl⟩ := List.exists_cons_of_ne_nil hks
  rfl

theorem lookupAt_nil {ks : List String} (hks : ks ≠ []) :
    Draft.openTable.lookupAt ks [] = some none := by
  obtain ⟨k, ks, rfl⟩ := List.exists_cons_of_ne_nil hks
  cases ks <;> rfl

variable {fresh : Standing} {f g : Standing → Entries → Option Entries}

/-- A change at a path is a change at its front of what is behind. -/
theorem modifyAt_append (path tail : List String) (standing : Standing) (es : Entries) :
    modifyAt fresh f (path ++ tail) standing es =
      modifyAt fresh (fun standing es => modifyAt fresh f tail standing es) path standing es := by
  induction path generalizing standing es with
  | nil => rfl
  | cons k ks ih => simp only [List.cons_append, modifyAt, ih]

/-- Two changes at one path are one change there. -/
theorem modifyAt_bind (path : List String) (standing : Standing) (es : Entries) :
    (modifyAt fresh f path standing es).bind (modifyAt fresh g path standing) =
      modifyAt fresh (fun standing es => (f standing es).bind (g standing)) path standing es := by
  induction path generalizing standing es with
  | nil => rfl
  | cons k ks ih =>
    simp only [modifyAt]
    cases hk : find? es k with
    | none =>
      simp only [← ih]
      cases modifyAt fresh f ks fresh [] with
      | none => rfl
      | some inner =>
        have hfound := find?_concat_self hk (.table fresh inner)
        have hstated : ¬(fresh = .dotted ∧ fresh = .stated) := by grind
        simp [hfound, replace_concat hk, hstated]
    | some item =>
      cases item with
      | value v => rfl
      | table standing inner =>
        by_cases hstated : fresh = .dotted ∧ standing = .stated
        · simp [hstated]
        · simp only [if_neg hstated, ← ih]
          cases modifyAt fresh f ks standing inner with
          | none => rfl
          | some inner =>
            have hfound := find?_replace_self hk (.table standing inner)
            simp [hfound, replace_replace, hstated]
      | rows tables =>
        cases hlast : tables.getLast? with
        | none => simp [hlast]
        | some last =>
          simp only [hlast, ← ih]
          cases modifyAt fresh f ks .stated last with
          | none => rfl
          | some last =>
            have hfound := find?_replace_self hk (.rows (tables.dropLast ++ [last]))
            simp [hfound, replace_replace]

end StatusBoard.Toml.Entries
