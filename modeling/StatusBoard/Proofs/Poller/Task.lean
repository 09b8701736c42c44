import StatusBoard.Proofs.Poller.Failures

/-!
A pass step by step. Once the answer to a fetch is there, the pass creates and updates one entry
after another, notes what it found, measures and publishes. Every step leaves what the pass will
come to as it is, and that is what the poller makes of the answer at once.
-/
namespace StatusBoard.Poller

/-- What of a pass is still to come. -/
inductive Remainder where
  | creating (services : List Service)
  | updating (services : List Service)
  | concluding
  | measuring
  | publishing

/-- A pass under way: when its answer came, what it reconciles, and how far it is. -/
structure Task where
  time : Nat
  snapshot : Snapshot
  plan : Plan
  remainder : Remainder

namespace Task

/-- A pass before its first step. -/
def start (b : Board) (time : Nat) (snapshot : Snapshot) : Task :=
  ⟨time, snapshot, b.plan snapshot, .creating (b.plan snapshot).creates⟩

variable (r : Renderer Id) (t : Task) (p : Poller)

/-- The poller once the entries are done and the pass is noted on the board. -/
def conclude : Poller :=
  { p with board := { p.board with
      clientId := some t.snapshot.clientId
      counts := t.plan.counts
      passes := p.board.passes + 1
      reconciledAt := some t.time } }

def measure : Poller :=
  let outcome := ⟨t.plan.creates, t.plan.updates, t.plan.counts⟩
  { p with metrics := p.metrics.recordPass outcome p.board.size }

def publish : Poller :=
  { p with published := (p.board.view r).run }

def create (s : Service) : Poller :=
  { p with board := (p.board.create r (p.board.passes + 1) s).run }

def update (s : Service) : Poller :=
  { p with board := p.board.update (p.board.passes + 1) s }

/-- One step of a pass: the poller after it, and the pass if it is not over. -/
def step : Poller × Option Task :=
  match t.remainder with
  | .creating (s :: rest) => (create r p s, some { t with remainder := .creating rest })
  | .creating [] => (p, some { t with remainder := .updating t.plan.updates })
  | .updating (s :: rest) => (update p s, some { t with remainder := .updating rest })
  | .updating [] => (p, some { t with remainder := .concluding })
  | .concluding => (conclude t p, some { t with remainder := .measuring })
  | .measuring => (measure t p, some { t with remainder := .publishing })
  | .publishing => (publish r p, none)

/-- The poller once all updates are made and the pass is over. -/
def finishUpdates (services : List Service) : Poller :=
  publish r (measure t (conclude t (services.foldl update p)))

/-- What a pass comes to when nothing stops it. -/
def finish : Poller :=
  match t.remainder with
  | .creating services => finishUpdates r t (services.foldl (create r) p) t.plan.updates
  | .updating services => finishUpdates r t p services
  | .concluding => publish r (measure t (conclude t p))
  | .measuring => publish r (measure t p)
  | .publishing => publish r p

/-- A step leaves what the pass comes to as it is, and the last step arrives there. -/
theorem finish_step :
    t.finish r p = match t.step r p with
      | (q, some u) => u.finish r q
      | (q, none) => q := by
  obtain ⟨time, snapshot, plan, remainder⟩ := t
  cases remainder with
  | creating services => cases services <;> rfl
  | updating services => cases services <;> rfl
  | concluding => rfl
  | measuring => rfl
  | publishing => rfl

/-- Only the last step of a pass publishes. -/
theorem published_step (q : Poller) (u : Task) (h : t.step r p = (q, some u)) :
    q.published = p.published := by
  obtain ⟨time, snapshot, plan, remainder⟩ := t
  cases remainder with
  | creating services => cases services <;> cases h <;> rfl
  | updating services => cases services <;> cases h <;> rfl
  | concluding =>
    cases h
    rfl
  | measuring =>
    cases h
    rfl
  | publishing => cases h

theorem passes_update (pass : Nat) (b : Board) (s : Service) :
    (b.update pass s).passes = b.passes := by
  unfold Board.update
  split <;> rfl

theorem board_foldl_create (services : List Service) :
    services.foldl (create r) p =
      { p with board := (services.foldlM (Board.create r (p.board.passes + 1)) p.board).run } := by
  induction services generalizing p with
  | nil => rfl
  | cons s rest ih =>
    have hpasses : (create r p s).board.passes = p.board.passes := rfl
    rw [List.foldl_cons, ih, hpasses]
    rfl

theorem passes_foldlM_create (pass : Nat) (b : Board) (services : List Service) :
    (services.foldlM (Board.create r pass) b).run.passes = b.passes := by
  induction services generalizing b with
  | nil => rfl
  | cons s rest ih =>
    rw [List.foldlM_cons, Id.run_bind, ih]
    rfl

theorem board_foldl_update (services : List Service) :
    services.foldl update p =
      { p with board := services.foldl (Board.update (p.board.passes + 1)) p.board } := by
  induction services generalizing p with
  | nil => rfl
  | cons s rest ih =>
    have hpasses : (update p s).board.passes = p.board.passes := passes_update _ p.board s
    rw [List.foldl_cons, ih, hpasses]
    rfl

theorem passes_foldl_update (pass : Nat) (b : Board) (services : List Service) :
    (services.foldl (Board.update pass) b).passes = b.passes := by
  induction services generalizing b with
  | nil => rfl
  | cons s rest ih => rw [List.foldl_cons, ih, passes_update]

/-- A pass comes to what the poller makes of the answer at once. -/
theorem finish_start (time : Nat) (snapshot : Snapshot) :
    (start p.board time snapshot).finish r { p with metrics := p.metrics.recordFetch true } =
      (p.poll r time (.ok snapshot)).1 := by
  have hcreated :=
    passes_foldlM_create r (p.board.passes + 1) p.board (p.board.plan snapshot).creates
  simp only [finish, start, finishUpdates, board_foldl_create, board_foldl_update, hcreated]
  simp only [conclude, measure, publish, passes_foldl_update, hcreated]
  rfl

end Task

end StatusBoard.Poller
