import StatusBoard.Program.Session
import StatusBoard.Proofs.Board.Time
import StatusBoard.Proofs.Gateway.Classes

/-!
A run that fetches once, beside a poller. Both make the same requests and get the same answer. If
this is a snapshot, the run prints the listing of the view that the poller publishes, at whatever
time it does so, since no time shows in a listing; where there is no listing of this view, the run
breaks off. If it is an error, the run ends with it, and neither prints nor publishes anything. The
run listens nowhere.
-/
namespace StatusBoard

open Gateway (Answer Fetcher)

theorem View.listing?_untimed (v : View) : v.untimed.listing? = v.listing? := rfl

/-- The listing of what a poller publishes first does not tell the time of its pass. -/
theorem Poller.listing_first (r : Renderer Id) (now later : Nat) (snapshot : Snapshot) :
    (Poller.start.poll r now (.ok snapshot)).1.published.listing? =
      (Poller.start.poll r later (.ok snapshot)).1.published.listing? := by
  have hboards : (Board.after r [⟨now, snapshot⟩]).untimed =
      (Board.after r [⟨later, snapshot⟩]).untimed :=
    (Board.untimed_after_congr r [⟨now, snapshot⟩] [⟨later, snapshot⟩] rfl).1
  have hviews : ((Board.after r [⟨now, snapshot⟩]).view r).run.untimed =
      ((Board.after r [⟨later, snapshot⟩]).view r).run.untimed := by
    rw [← Board.view_untimed, ← Board.view_untimed, hboards]
  have hpublished (t : Nat) : (Poller.start.poll r t (.ok snapshot)).1.published =
      ((Board.after r [⟨t, snapshot⟩]).view r).run := rfl
  rw [hpublished, hpublished, ← View.listing?_untimed, hviews, View.listing?_untimed]

/-- One fetch from the source that a configuration describes. It fails if there is no such
source. -/
def SourceConfig.fetch {m : Type → Type} [Monad m] (send : Gateway.Request → m Answer)
    (c : SourceConfig) : m (Except FetchError Snapshot) :=
  match Fetcher.ofConfig c with
  | .error e => pure (.error e)
  | .ok f => f.fetch send

namespace Program

/-- How a run ends that is to print a listing: with the listing if there is one, and else in a
crash, with nothing printed. -/
structure Report.Prints (listing? : Option String) (r : Report) : Prop where
  of_some : ∀ text, listing? = some text → r.printed = text ∧ r.exitCode = 0
  of_none : listing? = none → r.printed = "" ∧ r.exitCode = 101

/-- How a run with one fetch ends, beside what a poller publishes after the same fetch. -/
structure Report.EndsAfter (fetched : Except FetchError Snapshot) (r : Report) : Prop where
  no_listener : r.listeners = []
  no_reply : r.replies = []
  /-- A snapshot makes a pass of a poller, and what this publishes is what the run prints. -/
  of_snapshot : ∀ snapshot, fetched = .ok snapshot → r.failure = none ∧
    ∀ later, (Poller.start.poll .html later fetched).2.isSome ∧
      r.Prints (Poller.start.poll .html later fetched).1.published.listing?
  /-- An error makes none. -/
  of_error : ∀ e, fetched = .error e → r.failure = some (.fetch e) ∧ r.exitCode ≠ 0 ∧
    r.printed = "" ∧ ∀ later, (Poller.start.poll .html later fetched).2 = none

theorem Report.prints_ofListing (log : List Log.Line) (listing? : Option String) :
    (ofListing log listing?).Prints listing? := by
  cases listing? with
  | some text =>
    refine ⟨?_, nofun⟩
    rintro _ ⟨⟩
    exact ⟨rfl, rfl⟩
  | none => exact ⟨nofun, fun _ => ⟨rfl, rfl⟩⟩

/-- With a listing or without, nothing else fails, and the run neither listens nor replies. -/
theorem Report.quiet_ofListing (log : List Log.Line) (listing? : Option String) :
    (ofListing log listing?).listeners = [] ∧ (ofListing log listing?).replies = [] ∧
      (ofListing log listing?).failure = none := by
  cases listing? <;> exact ⟨rfl, rfl, rfl⟩

theorem Report.endsAfter_ofListing (now : Nat) (log : List Log.Line) (snapshot : Snapshot) :
    (ofListing log (Poller.start.poll .html now (.ok snapshot)).1.published.listing?).EndsAfter
      (.ok snapshot) := by
  obtain ⟨hlisteners, hreplies, hfailure⟩ := quiet_ofListing log
    (Poller.start.poll .html now (.ok snapshot)).1.published.listing?
  refine ⟨hlisteners, hreplies, fun _ _ => ⟨hfailure, fun later => ⟨rfl, ?_⟩⟩, nofun⟩
  rw [Poller.listing_first .html later now snapshot]
  exact prints_ofListing log _

theorem Report.endsAfter_ofFetch (now : Nat) (log : List Log.Line)
    (fetched : Except FetchError Snapshot) : (ofFetch now log fetched).EndsAfter fetched := by
  cases fetched with
  | error e =>
    refine ⟨rfl, rfl, nofun, ?_⟩
    intro e' h
    obtain rfl := Except.error.inj h
    exact ⟨rfl, Nat.one_ne_zero, rfl, fun _ => rfl⟩
  | ok snapshot => exact endsAfter_ofListing now _ snapshot

/-- A filter changes only what is logged. -/
theorem Report.EndsAfter.filtered {fetched : Except FetchError Snapshot} {r : Report}
    (h : r.EndsAfter fetched) (f : Log.Filter) : (r.filtered f).EndsAfter fetched where
  no_listener := h.no_listener
  no_reply := h.no_reply
  of_snapshot snapshot hsnapshot := by
    obtain ⟨hfailure, hpolled⟩ := h.of_snapshot snapshot hsnapshot
    exact ⟨hfailure, fun later => (hpolled later).imp_right fun hprints =>
      ⟨hprints.of_some, hprints.of_none⟩⟩
  of_error := h.of_error

section

variable {σ : Type} (send : Gateway.Request → StateM σ Answer) (now : Nat)

theorem run_once (c : Config) (start : σ) : ∃ fetched rest log,
    (c.source.fetch send).run start = (fetched, rest) ∧
      (once send now c).run start = (.ofFetch now log fetched, rest) := by
  unfold SourceConfig.fetch once
  cases Fetcher.ofConfig c.source with
  | error e => exact ⟨.error e, start, _, rfl, rfl⟩
  | ok f => exact ⟨_, _, [startLine c, f.readyLine], rfl, rfl⟩

/-- A run that is asked to fetch once, under a configuration that is accepted, makes one fetch and
ends by it: as it is told by the listing of what a poller publishes first, or with an error and
nothing printed. -/
theorem once_prints_first_view (s : Surroundings) (a : Arguments) (c : Config)
    (heffective : s.effective = .ok (a, c)) (honce : a.once = true) (fresh : String) (x : Session)
    (start : σ) : ∃ fetched rest report,
      (c.source.fetch send).run start = (fetched, rest) ∧
        (run send now fresh s x).run start = (report, rest) ∧ report.EndsAfter fetched := by
  obtain ⟨fetched, rest, log, hfetch, hrun⟩ := run_once send now c start
  have hfiltered : (run send now fresh s x).run start =
      ((Report.ofFetch now log fetched).filtered
        (.ofEnvironment (s.«variables» "RUST_LOG") c.observability.logLevel), rest) := by
    unfold run
    rw [heffective]
    dsimp only
    rw [if_pos honce]
    exact Gateway.run_bind_of_run hrun
  exact ⟨fetched, rest, _, hfetch, hfiltered, (Report.endsAfter_ofFetch now log fetched).filtered _⟩

end

/-- A gateway that is not ready for the first of two runs: the answer has a status document, but
comes with a status of failure. -/
theorem once_prints_first_view_at_second_try :
    let s : Surroundings :=
      ⟨["--once", "--base-url=http://gw/"], fun _ => none, fun _ => .error .notFound⟩
    let a : Arguments := { baseUrl := some "http://gw/", once := true }
    let c : Config := { source := { baseUrl := "http://gw/" } }
    let next : Gateway.Request → StateM (List Answer) Answer := fun _ => modifyGet fun
      | a :: rest => (a, rest)
      | [] => (.failed .other, [])
    let body : List UInt8 := "\x7b\"clientId\":\"gw\"\x7d".toUTF8.toList
    s.effective = .ok (a, c) ∧ a.once = true ∧ ∀ x, ∃ first second,
      (run next 7 "" s x).run [.response ⟨503, [], .ok body⟩, .response ⟨200, [], .ok body⟩] =
          (first, [.response ⟨200, [], .ok body⟩]) ∧
        (run next 8 "" s x).run [.response ⟨200, [], .ok body⟩] = (second, []) ∧
        first.failure = some (.fetch (.status 503)) ∧ first.printed = "" ∧
        second.failure = none ∧ second.listeners = [] ∧ second.printed =
          "client: gw\nservices: 0 total, 0 healthy, 0 unhealthy, 0 unknown\n" := by
  intro s a c next body
  have heffective : s.effective = .ok (a, c) := toOption_eq_some_iff.mp (by decide +kernel)
  have hasked : Gateway.IsAsked "http://gw/v1/metadata/status" :=
    (Url.isHttpText_iff _).mp (by decide +kernel)
  have hsource : Fetcher.ofConfig c.source = .ok
      ⟨⟨"http", some (.ofHost (.name "gw")),
        .segments [['v', '1'], "metadata".toList, "status".toList], none, none⟩, 3000,
        "revolver-dashboard/0.1.0"⟩ := toOption_eq_some_iff.mp (by decide +kernel)
  have hdecode : Snapshot.decode body = .ok ⟨"gw", []⟩ :=
    toOption_eq_some_iff.mp (by decide +kernel)
  have hanswer (answer : Gateway.Response) (rest : List Answer) (hstay :
      Fetcher.redirect? "http://gw/v1/metadata/status" answer = none) :
      (c.source.fetch next).run (.response answer :: rest) =
        ((Gateway.Answer.response answer).snapshot 3000, rest) := by
    unfold SourceConfig.fetch
    rw [hsource]
    exact Fetcher.run_fetch_of_settles (.final hasked rfl hstay)
  have hdeclined : (Gateway.Answer.response ⟨503, [], .ok body⟩).snapshot 3000 =
      .error (.status 503) := rfl
  have hdelivered : (Gateway.Answer.response ⟨200, [], .ok body⟩).snapshot 3000 =
      .ok ⟨"gw", []⟩ := by
    show (Snapshot.decode body).mapError FetchError.decode = _
    rw [hdecode]
    rfl
  refine ⟨heffective, rfl, fun x => ?_⟩
  obtain ⟨_, _, first, hfetch, hfirst, hends⟩ := once_prints_first_view next 7 s a c heffective rfl
    "" x [.response ⟨503, [], .ok body⟩, .response ⟨200, [], .ok body⟩]
  obtain ⟨rfl, rfl⟩ := Prod.mk.inj ((hanswer ⟨503, [], .ok body⟩ _ rfl).symm.trans hfetch)
  obtain ⟨_, _, second, hfetch', hsecond, hends'⟩ :=
    once_prints_first_view next 8 s a c heffective rfl "" x [.response ⟨200, [], .ok body⟩]
  obtain ⟨rfl, rfl⟩ := Prod.mk.inj ((hanswer ⟨200, [], .ok body⟩ _ rfl).symm.trans hfetch')
  obtain ⟨hfailure, -, hprinted, -⟩ := hends.of_error _ hdeclined
  obtain ⟨hfailure', hprinted'⟩ := hends'.of_snapshot _ hdelivered
  refine ⟨first, second, hfirst, hsecond, hfailure, hprinted, hfailure', hends'.no_listener, ?_⟩
  refine ((hprinted' 0).2.of_some _ ?_).1
  rw [hdelivered]
  decide +kernel

end Program

end StatusBoard
