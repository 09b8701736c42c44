import StatusBoard.Proofs.Board.Order

/-!
Boards without their markup. A board stores what a renderer writes and never reads it: whatever the
renderer does, a pass comes to the board that it comes to with one that writes nothing, all but for
the markup. So what is known of the names on a board holds for renderers with effects too.
-/
namespace StatusBoard

/-- An entry without its markup. -/
def Entry.unmarked (e : Entry) : Entry := { e with apiMarkup := "" }

/-- A renderer that writes nothing. -/
def Renderer.blank : Renderer Id where
  apis _ := pure ""
  entry _ := pure ""

namespace Board

/-- A board without the markup of its entries. -/
def unmarked (b : Board) : Board :=
  { b with entries := b.entries.map fun _ e => e.unmarked }

theorem contains_unmarked (b : Board) (x : String) : b.unmarked.contains x = b.contains x :=
  Std.ExtHashMap.contains_map

theorem size_unmarked (b : Board) : b.unmarked.size = b.size :=
  Std.ExtHashMap.size_map

theorem getElem?_unmarked (b : Board) (x : String) :
    b.unmarked.entries[x]? = b.entries[x]?.map Entry.unmarked :=
  Std.ExtHashMap.getElem?_map

theorem unmarked_empty : empty.unmarked = .empty := by
  have hentries : empty.unmarked.entries = ∅ := by
    ext1 x
    rw [getElem?_unmarked]
    simp [empty]
  exact congrArg (fun es => { empty with entries := es }) hentries

theorem listed_unmarked (b : Board) : b.unmarked.listed = b.listed.map Entry.unmarked := by
  unfold listed
  rw [List.map_filterMap]
  refine List.filterMap_congr fun x _ => ?_
  exact getElem?_unmarked b x

theorem unmarked_overwrite (pass : Nat) (b : Board) (s : Service) :
    (overwrite pass b s).unmarked = overwrite pass b.unmarked s := by
  have hentries : (overwrite pass b s).unmarked.entries =
      (overwrite pass b.unmarked s).entries := by
    ext1 x
    rw [getElem?_unmarked]
    simp only [overwrite, Std.ExtHashMap.getElem?_modify, getElem?_unmarked]
    by_cases hx : s.name = x
    · subst hx
      cases b.entries[s.name]? <;> simp [Entry.unmarked]
    · simp [hx]
  exact congrArg (fun es => { b with entries := es }) hentries

theorem unmarked_foldl_update (pass : Nat) (b : Board) (updates : List Service) :
    (updates.foldl (update pass) b).unmarked = updates.foldl (update pass) b.unmarked := by
  induction updates generalizing b with
  | nil => rfl
  | cons s rest ih =>
    rw [List.foldl_cons, List.foldl_cons, ih, update_eq_overwrite, update_eq_overwrite,
      unmarked_overwrite]

variable {σ : Type} (r : Renderer (StateM σ))

/-- The markup of a new entry is all that a renderer has a say in. -/
theorem unmarked_create (pass : Nat) (b : Board) (s : Service) (w : σ) :
    ((create r pass b s).run w).1.unmarked = (create .blank pass b.unmarked s).run := by
  have hentries (e : Entry) : (b.entries.insert s.name e).map (fun _ e => e.unmarked) =
      (b.unmarked.entries).insert s.name e.unmarked := by
    ext1 x
    rw [Std.ExtHashMap.getElem?_map, Std.ExtHashMap.getElem?_insert,
      Std.ExtHashMap.getElem?_insert, getElem?_unmarked]
    by_cases hx : s.name = x
    · simp [hx]
    · simp [hx]
  exact congrArg (fun es => { b with order := b.order ++ [s.name], entries := es }) (hentries _)

theorem unmarked_foldlM_create (pass : Nat) (b : Board) (creates : List Service) (w : σ) :
    ((creates.foldlM (create r pass) b).run w).1.unmarked =
      (creates.foldlM (create .blank pass) b.unmarked).run := by
  induction creates generalizing b w with
  | nil => rfl
  | cons s rest ih =>
    have hrest := ih ((create r pass b s).run w).1 ((create r pass b s).run w).2
    rw [unmarked_create] at hrest
    rw [List.foldlM_cons, List.foldlM_cons, Id.run_bind]
    exact hrest

theorem plan_unmarked (b : Board) (snapshot : Snapshot) :
    b.unmarked.plan snapshot = b.plan snapshot := by
  have hcontains : b.unmarked.contains = b.contains := funext b.contains_unmarked
  unfold plan
  rw [hcontains]

/-- Whatever a renderer writes, a pass comes to the same board but for the markup. -/
theorem unmarked_reconcile (now : Nat) (b : Board) (snapshot : Snapshot) (w : σ) :
    ((b.reconcile r now snapshot).run w).1.1.unmarked =
      (b.unmarked.reconcile .blank now snapshot).run.1 := by
  have hcreated := unmarked_foldlM_create r (b.passes + 1) b (b.plan snapshot).creates w
  have hupdated := unmarked_foldl_update (b.passes + 1)
    (((b.plan snapshot).creates.foldlM (create r (b.passes + 1)) b).run w).1
    (b.plan snapshot).updates
  rw [hcreated] at hupdated
  have hnote := congrArg (fun c : Board => { c with
    clientId := some snapshot.clientId
    counts := (b.plan snapshot).counts
    passes := b.passes + 1
    reconciledAt := some now }) hupdated
  refine Eq.trans hnote ?_
  unfold reconcile
  rw [plan_unmarked]
  rfl

/-- A board that is the one of a history but for its markup lists each name that the history lists,
once and in the order of first sightings. -/
theorem names_of_unmarked (h : List Pass) (b : Board) (hb : b.unmarked = after .blank h) :
    b.order = (sighted h).eraseDups ∧ b.listed.map (·.name) = b.order ∧
      b.listed.length = b.size ∧ b.order.Nodup ∧
      ∀ x, x ∈ b.order ↔ ∃ p ∈ h, p.snapshot.Lists x := by
  have hsame : b.unmarked.order = b.order := rfl
  have hsound := sound_after (r := .blank) h
  have horder := order_after .blank h
  have hnames := hsound.name_listed
  have hlength := hsound.length_listed
  have hnodup := hsound.order_nodup
  rw [← hb] at horder hnames hlength hnodup
  rw [listed_unmarked, List.map_map] at hnames
  rw [listed_unmarked, List.length_map, size_unmarked] at hlength
  refine ⟨horder, hnames, hlength, hnodup, fun x => ?_⟩
  rw [← hsame, hb, mem_order_after_iff]

end Board

end StatusBoard
