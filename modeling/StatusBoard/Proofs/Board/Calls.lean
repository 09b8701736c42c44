import StatusBoard.Proofs.Board.Unmarked

/-!
The calls of a renderer. A pass asks it for the API list of each service that it creates, in the
order of the creates, and for nothing else; a view asks once for each entry, in the order of the
board. The renderer may do with its calls what it likes: what it is asked for depends on the
snapshots alone. So over any sequence of passes and views it is asked for the APIs of each name
exactly once, at its first sighting.
-/
namespace StatusBoard

open Renderer (Call)

section Notes

variable {m : Type → Type} [Monad m] {α β : Type}

/-- A computation that does what another one does and appends these calls to its notes. -/
def Notes (x : StateT (List Call) m α) (y : m α) (new : List Call) : Prop :=
  ∀ calls, x.run calls = (fun a => (a, calls ++ new)) <$> y

variable [LawfulMonad m]

theorem notes_pure (a : α) : Notes (pure a) (pure a : m α) [] := by
  intro calls
  rw [StateT.run_pure, map_pure, List.append_nil]

theorem Notes.bind {x : StateT (List Call) m α} {y : m α} {new more : List Call}
    {f : α → StateT (List Call) m β} {g : α → m β} (hx : Notes x y new)
    (hf : ∀ a, Notes (f a) (g a) more) : Notes (x >>= f) (y >>= g) (new ++ more) := by
  intro calls
  rw [StateT.run_bind, hx, bind_map_left, map_bind]
  refine bind_congr fun a => ?_
  rw [hf, List.append_assoc]

/-- What is made of a result at the end asks for nothing. -/
theorem Notes.map {x : StateT (List Call) m α} {y : m α} {new : List Call} (hx : Notes x y new)
    (f : α → β) : Notes (x >>= fun a => pure (f a)) (y >>= fun a => pure (f a)) new := by
  have hbind := hx.bind fun a => notes_pure (m := m) (f a)
  rwa [List.append_nil] at hbind

variable (r : Renderer m)

theorem notes_apis (s : Service) : Notes (r.recorded.apis s) (r.apis s) [.apis s] := by
  intro calls
  simp [Renderer.recorded]

theorem notes_entry (e : Entry) : Notes (r.recorded.entry e) (r.entry e) [.entry e] := by
  intro calls
  simp [Renderer.recorded]

namespace Board

theorem notes_create (pass : Nat) (b : Board) (s : Service) :
    Notes (create r.recorded pass b s) (create r pass b s) [.apis s] :=
  (notes_apis r s).map _

theorem notes_foldlM_create (pass : Nat) (b : Board) (creates : List Service) :
    Notes (creates.foldlM (create r.recorded pass) b) (creates.foldlM (create r pass) b)
      (creates.map .apis) := by
  induction creates generalizing b with
  | nil => exact notes_pure b
  | cons s rest ih =>
    rw [List.foldlM_cons, List.foldlM_cons, List.map_cons]
    exact (notes_create r pass b s).bind ih

/-- A pass asks for the API lists of its creates. -/
theorem notes_reconcile (now : Nat) (b : Board) (snapshot : Snapshot) :
    Notes (b.reconcile r.recorded now snapshot) (b.reconcile r now snapshot)
      ((b.plan snapshot).creates.map .apis) :=
  (notes_foldlM_create r (b.passes + 1) b (b.plan snapshot).creates).map _

theorem notes_mapM_ofEntry (es : List Entry) :
    Notes (es.mapM (EntryView.ofEntry r.recorded)) (es.mapM (EntryView.ofEntry r))
      (es.map .entry) := by
  induction es with
  | nil => exact notes_pure []
  | cons e rest ih =>
    rw [List.mapM_cons, List.mapM_cons, List.map_cons]
    exact ((notes_entry r e).map _).bind fun _ => ih.map _

/-- A view asks for the entries that the board lists. -/
theorem notes_view (b : Board) :
    Notes (b.view r.recorded) (b.view r) (b.listed.map .entry) :=
  (notes_mapM_ofEntry r b.listed).map _

end Board

end Notes

/-- What is done with a board: a pass or a view. -/
inductive Operation where
  | reconcile (p : Pass)
  | view

/-- The service whose API list a call asks for. -/
def Renderer.Call.created? : Call → Option String
  | .apis s => some s.name
  | .entry _ => none

namespace Operation

def pass? : Operation → Option Pass
  | .reconcile p => some p
  | .view => none

/-- The passes among some operations. -/
def passes (ops : List Operation) : List Pass :=
  ops.filterMap pass?

section Recording

variable {m : Type → Type} [Monad m] (r : Renderer m)

/-- The board after an operation. -/
def perform (b : Board) : Operation → m Board
  | .reconcile p => do
    let (after, _) ← b.reconcile r p.time p.snapshot
    pure after
  | .view => do
    let _ ← b.view r
    pure b

/-- The board after these operations, the first of which finds it empty. -/
def performAll (ops : List Operation) : m Board :=
  ops.foldlM (perform r) .empty

/-- An operation with a list of the calls that it makes: one for the API list of each service that
it creates, or one for each entry. -/
def noted : Board × List Call → Operation → m (Board × List Call)
  | (b, calls), .reconcile p => do
    let (after, outcome) ← b.reconcile r p.time p.snapshot
    pure (after, calls ++ outcome.creates.map .apis)
  | (b, calls), .view => do
    let _ ← b.view r
    pure (b, calls ++ b.listed.map .entry)

variable [LawfulMonad m]

theorem run_perform_recorded (b : Board) (calls : List Call) (op : Operation) :
    (perform r.recorded b op).run calls = noted r (b, calls) op := by
  cases op with
  | reconcile p =>
    have hnotes := (Board.notes_reconcile r p.time b p.snapshot).map Prod.fst calls
    refine hnotes.trans ?_
    -- the outcome of a pass has the creates of its plan, whatever the renderer answers
    simp only [noted, Board.reconcile, map_bind, map_pure, bind_assoc, pure_bind]
  | view =>
    have hnotes := (Board.notes_view r b).map (fun _ => b) calls
    refine hnotes.trans ?_
    simp only [noted, map_bind, map_pure]

/-- Notes taken during a sequence of operations are those of one operation after another. -/
theorem run_foldlM_perform_recorded (b : Board) (calls : List Call) (ops : List Operation) :
    (ops.foldlM (perform r.recorded) b).run calls = ops.foldlM (noted r) (b, calls) := by
  induction ops generalizing b calls with
  | nil => rfl
  | cons op rest ih =>
    rw [List.foldlM_cons, List.foldlM_cons, StateT.run_bind, run_perform_recorded]
    exact bind_congr fun x => ih x.1 x.2

end Recording

section Names

variable {σ : Type} (r : Renderer (StateM σ))

/-- The names that some calls ask the API lists of. -/
def created (calls : List Call) : List String :=
  calls.filterMap Call.created?

theorem created_append_apis (calls : List Call) (ss : List Service) :
    created (calls ++ ss.map .apis) = created calls ++ ss.map (·.name) := by
  unfold created
  rw [List.filterMap_append, List.filterMap_map]
  exact congrArg _ (congrFun List.filterMap_eq_map' ss)

theorem created_append_entry (calls : List Call) (es : List Entry) :
    created (calls ++ es.map .entry) = created calls := by
  unfold created
  rw [List.filterMap_append, List.filterMap_map]
  simp [Function.comp_def, Call.created?]

/-- The step: but for the markup an operation is its pass, and the names whose API lists it asks
for are those that it appends to the order. -/
theorem noted_step (b : Board) (calls : List Call) (op : Operation) (w : σ)
    (hcalls : created calls = b.order) :
    let after := ((noted r (b, calls) op).run w).1
    after.1.unmarked = op.pass?.toList.foldl (Board.advance .blank) b.unmarked ∧
      created after.2 = after.1.order := by
  cases op with
  | reconcile p =>
    have hboard := Board.unmarked_reconcile r p.time b p.snapshot w
    have horder := Board.order_reconcile .blank p.time b.unmarked p.snapshot
    have hcreates : (b.unmarked.reconcile .blank p.time p.snapshot).run.2.creates =
        (b.plan p.snapshot).creates := congrArg Plan.creates (b.plan_unmarked p.snapshot)
    rw [← hboard, hcreates] at horder
    refine ⟨hboard, Eq.trans ?_ horder.symm⟩
    have happended := created_append_apis calls (b.plan p.snapshot).creates
    rw [hcalls] at happended
    exact happended
  | view => exact ⟨rfl, (created_append_entry calls b.listed).trans hcalls⟩

theorem foldlM_noted (b : Board) (calls : List Call) (ops : List Operation) (w : σ)
    (hcalls : created calls = b.order) :
    let after := ((ops.foldlM (noted r) (b, calls)).run w).1
    after.1.unmarked = (passes ops).foldl (Board.advance .blank) b.unmarked ∧
      created after.2 = after.1.order := by
  induction ops generalizing b calls w with
  | nil => exact ⟨rfl, hcalls⟩
  | cons op rest ih =>
    obtain ⟨hboard, hnames⟩ := noted_step r b calls op w hcalls
    have hrest := ih _ _ ((noted r (b, calls) op).run w).2 hnames
    rw [hboard, ← List.foldl_append] at hrest
    have hpasses : passes (op :: rest) = op.pass?.toList ++ passes rest := by
      rw [passes, passes, List.filterMap_cons]
      cases op.pass? <;> rfl
    rw [List.foldlM_cons, hpasses]
    exact hrest

end Names

/-- What a renderer is asked for over any sequence of passes and views, whatever it does itself. -/
theorem calls_of_operations (ops : List Operation) :
    (∀ (m : Type → Type) [Monad m] [LawfulMonad m] (r : Renderer m),
      (performAll r.recorded ops).run [] = ops.foldlM (noted r) (.empty, [])) ∧
    ∀ (σ : Type) (r : Renderer (StateM σ)) (w : σ),
      let (b, calls) := (((performAll r.recorded ops).run []).run w).1
      created calls = b.order ∧ b.order = (Board.sighted (passes ops)).eraseDups ∧
        b.listed.map (·.name) = b.order ∧ b.listed.length = b.size ∧
        ∀ x, (created calls).count x ≤ 1 ∧
          ((created calls).count x = 1 ↔ ∃ p ∈ passes ops, p.snapshot.Lists x) := by
  refine ⟨fun m _ _ r => run_foldlM_perform_recorded r .empty [] ops, ?_⟩
  intro σ r w
  have hrun : (performAll r.recorded ops).run [] = ops.foldlM (noted r) (.empty, []) :=
    run_foldlM_perform_recorded r .empty [] ops
  obtain ⟨hboard, hcalls⟩ := foldlM_noted r .empty [] ops w rfl
  rw [Board.unmarked_empty] at hboard
  rw [hrun]
  generalize ((ops.foldlM (noted r) (.empty, [])).run w).1 = result at hboard hcalls
  obtain ⟨b, calls⟩ := result
  obtain ⟨horder, hlisted, hlength, hnodup, hmem⟩ :=
    Board.names_of_unmarked (passes ops) b hboard
  refine ⟨hcalls, horder, hlisted, hlength, fun x => ?_⟩
  have hnames : created calls = b.order := hcalls
  rw [hnames, ← hmem]
  refine ⟨List.nodup_iff_count_le_one.mp hnodup x, ?_, List.count_eq_one_of_mem hnodup⟩
  intro hone
  have hpos : 0 < b.order.count x := by omega
  exact List.count_pos_iff.mp hpos

end Operation

end StatusBoard
