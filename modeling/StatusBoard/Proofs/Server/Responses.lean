import StatusBoard.Proofs.Server.Layers

/-!
How requests are answered. Every request that reaches the server gets a response that must not be
stored and has an id, also one that comes too late or asks for what there is not. Whether there is
a document goes by the path and whether it is sent by the method, and what is sent is made of the
published view.
-/
namespace StatusBoard.Server

/-- A response to a request, by its path, its method and whether it is in time. -/
structure Answered (refreshSecs : Nat) (fresh : String) (v : View) (inTime : Bool) (r : Request)
    (x : Response) : Prop where
  /-- No response may be stored. -/
  cache_control : x.headers.named "cache-control" = [("cache-control", "no-store")]
  /-- Every response has an id: that of the request, or else the fresh one. -/
  request_id : x.headers.named "x-request-id" =
    [("x-request-id", (r.headers.value? "x-request-id").getD (Http.bare fresh))]
  late : inTime = false → x.status = 408 ∧ x.body = ""
  missing : inTime = true → pathOf r.target ∉ ["/", "/api/board", "/healthz"] →
    x.status = 404 ∧ x.body = ""
  get : inTime = true → ∀ d : Document, pathOf r.target = d.path → r.method = "GET" →
    x.status = 200 ∧ x.body = content refreshSecs v d
  head : inTime = true → ∀ d : Document, pathOf r.target = d.path → r.method = "HEAD" →
    x.status = 200 ∧ x.body = ""
  refused : inTime = true → ∀ d : Document, pathOf r.target = d.path → r.method ≠ "GET" →
    r.method ≠ "HEAD" → x.status = 405 ∧ x.body = ""

section Dispatching

variable (refreshSecs : Nat) (v : View) (r : Request)

theorem Document.ofPath?_path (d : Document) : ofPath? d.path = some d := by
  cases d <;> decide

/-- The fields of a document that is there. -/
def Document.headers (d : Document) : Http.Headers :=
  [("content-type", d.contentType), lengthField (content refreshSecs v d)]

theorem dispatch_document (d : Document) (hd : pathOf r.target = d.path) :
    dispatch refreshSecs v r =
      if r.method = "GET" then ⟨200, d.headers refreshSecs v, content refreshSecs v d⟩
      else if r.method = "HEAD" then ⟨200, d.headers refreshSecs v, ""⟩
      else ⟨405, [("allow", "GET,HEAD"), lengthField ""], ""⟩ := by
  unfold dispatch
  rw [hd, Document.ofPath?_path]
  rfl

theorem dispatch_missing (hpath : pathOf r.target ∉ ["/", "/api/board", "/healthz"]) :
    (dispatch refreshSecs v r).status = 404 ∧ (dispatch refreshSecs v r).body = "" := by
  have hnone : Document.ofPath? (pathOf r.target) = none := by
    apply List.find?_eq_none.mpr
    intro d _ hd
    have hmem : d.path ∈ ["/", "/api/board", "/healthz"] := by cases d <;> decide
    exact hpath (of_decide_eq_true hd ▸ hmem)
  unfold dispatch
  rw [hnone]
  dsimp only
  split
  · exact ⟨rfl, rfl⟩
  · exact ⟨rfl, rfl⟩

end Dispatching

/-- The fields that a response has before it passes through the layers. -/
def ownFields : List String := ["content-type", "content-length", "allow"]

theorem mem_ownFields_of_dispatch (refreshSecs : Nat) (v : View) (r : Request) :
    ∀ f ∈ (dispatch refreshSecs v r).headers, f.1 ∈ ownFields := by
  unfold dispatch
  split
  · split
    · simp
    · simp [bare, lengthField, ownFields]
  · dsimp only
    split
    · simp [lengthField, ownFields]
    · split <;> simp [lengthField, ownFields]

theorem named_limitTime_dispatch (refreshSecs : Nat) (v : View) (inTime : Bool) (r : Request) :
    (Layer.limitTime inTime (dispatch refreshSecs v) r).headers.named Layer.idField = [] := by
  have hown : ∀ name ∈ ownFields, Text.asciiLower name ≠ Layer.idField := by decide
  have hfields : ∀ f ∈ (Layer.limitTime inTime (dispatch refreshSecs v) r).headers,
      f.1 ∈ ownFields := by
    unfold Layer.limitTime
    cases inTime with
    | true => exact mem_ownFields_of_dispatch refreshSecs v r
    | false => simp [timedOut, bare, lengthField, ownFields]
  apply List.filter_eq_nil_iff.mpr
  intro f hf
  simpa using hown f.1 (hfields f hf)

theorem answered (refreshSecs : Nat) (fresh : String) (v : View) (inTime : Bool) (r : Request) :
    Answered refreshSecs fresh v inTime r (answer refreshSecs fresh v inTime r) := by
  obtain ⟨headers, hsealed⟩ := exists_sealed_layered (dispatch refreshSecs v) fresh inTime r
    (named_limitTime_dispatch refreshSecs v inTime)
  have hdispatched : inTime = true → ∀ {status body}, (dispatch refreshSecs v r).status = status ∧
      (dispatch refreshSecs v r).body = body →
        (answer refreshSecs fresh v inTime r).status = status ∧
          (answer refreshSecs fresh v inTime r).body = body := by
    rintro rfl status body ⟨hstatus, hbody⟩
    exact ⟨hsealed.status.trans hstatus, hsealed.body.trans hbody⟩
  refine ⟨hsealed.cache_control, hsealed.request_id, ?_, ?_, ?_, ?_, ?_⟩
  · intro hlate
    subst hlate
    exact ⟨hsealed.status, hsealed.body⟩
  · intro htime hpath
    exact hdispatched htime (dispatch_missing refreshSecs v r hpath)
  · intro htime d hd hmethod
    apply hdispatched htime
    rw [dispatch_document refreshSecs v r d hd, if_pos hmethod]
    exact ⟨rfl, rfl⟩
  · intro htime d hd hmethod
    apply hdispatched htime
    have hget : r.method ≠ "GET" := by
      rw [hmethod]
      decide
    rw [dispatch_document refreshSecs v r d hd, if_neg hget, if_pos hmethod]
    exact ⟨rfl, rfl⟩
  · intro htime d hd hget hhead
    apply hdispatched htime
    rw [dispatch_document refreshSecs v r d hd, if_neg hget, if_neg hhead]
    exact ⟨rfl, rfl⟩

/-- A request whose target may stand in a request line and whose fields have legal values. -/
def Request.IsWellFormed (r : Request) : Prop :=
  isTarget r.target = true ∧ ∀ h ∈ r.headers, Http.isFieldValue h.2 = true

/-- What comes back for a message: it is answered in time if it is a request, and else turned down
before it reaches the server. -/
structure Received (refreshSecs : Nat) (fresh : String) (v : View) (r : Request) (x : Response) :
    Prop where
  answered : r.IsWellFormed → Answered refreshSecs fresh v true r x
  turned_down : ¬ r.IsWellFormed → x.status = 400 ∧ x.body = ""

theorem received (refreshSecs : Nat) (fresh : String) (v : View) (r : Request) :
    Received refreshSecs fresh v r (receive refreshSecs fresh v r) := by
  have hformed : r.IsWellFormed ↔
      isTarget r.target = true ∧ (r.headers.all fun h => Http.isFieldValue h.2) = true :=
    and_congr_right fun _ => List.all_eq_true.symm
  unfold receive
  constructor
  · intro hr
    rw [if_pos (hformed.mp hr)]
    exact answered refreshSecs fresh v true r
  · intro hr
    rw [if_neg (mt hformed.mpr hr)]
    exact ⟨rfl, rfl⟩

end StatusBoard.Server
