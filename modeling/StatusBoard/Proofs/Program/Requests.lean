import StatusBoard.Program.Session
import StatusBoard.Proofs.Server.Responses

/-!
Questions to a run that serves. Whatever is asked, and however the questions fall between the polls
and the signals, polling goes on as if nobody had asked: a run with questions differs from the run
without them in the replies alone, and these are made of what the run without them has published
so far.
-/
namespace StatusBoard.Program

namespace Service

/-- What can happen to a run that serves. -/
inductive Event where
  | poll (now : Nat) (e : Poller.Event)
  | signal (now : Nat) (x : SystemSignal)
  | ask (fresh : String) (q : Question)

def Event.isQuestion : Event → Bool
  | .ask _ _ => true
  | .poll _ _ | .signal _ _ => false

def take (s : Service) : Event → Service
  | .poll now e => s.poll now e
  | .signal now x => s.signal now x
  | .ask fresh q => s.ask fresh q

def after (s : Service) (events : List Event) : Service :=
  events.foldl take s

/-- The replies to the questions among events, in a run to which only the others happen. -/
def answersTo (s : Service) : List Event → List Reply
  | [] => []
  | .ask fresh q :: events => (s.reply? fresh q).toList ++ s.answersTo events
  | e :: events => (s.take e).answersTo events

def withReplies (s : Service) (replies : List Reply) : Service :=
  { s with replies := s.replies ++ replies }

variable (s : Service) (replies : List Reply)

theorem ask_eq (fresh : String) (q : Question) :
    s.ask fresh q = s.withReplies (s.reply? fresh q).toList := rfl

theorem withReplies_withReplies (more : List Reply) :
    (s.withReplies replies).withReplies more = s.withReplies (replies ++ more) := by
  unfold withReplies
  rw [List.append_assoc]

theorem take_withReplies {e : Event} (he : e.isQuestion = false) :
    (s.withReplies replies).take e = (s.take e).withReplies replies := by
  cases e with
  | poll | signal => rfl
  | ask => cases he

theorem reply?_withReplies (fresh : String) (q : Question) :
    (s.withReplies replies).reply? fresh q = s.reply? fresh q := by
  cases q <;> rfl

theorem answersTo_withReplies (events : List Event) :
    (s.withReplies replies).answersTo events = s.answersTo events := by
  induction events generalizing s with
  | nil => rfl
  | cons e events ih =>
    cases e with
    | poll now e => exact ih (s.poll now e)
    | signal now x => exact ih (s.signal now x)
    | ask fresh q =>
      show ((s.withReplies replies).reply? fresh q).toList ++ (s.withReplies replies).answersTo events
        = (s.reply? fresh q).toList ++ s.answersTo events
      rw [reply?_withReplies, ih]

theorem after_withReplies (events : List Event) (hevents : ∀ e ∈ events, e.isQuestion = false) :
    (s.withReplies replies).after events = (s.after events).withReplies replies := by
  induction events generalizing s with
  | nil => rfl
  | cons e events ih =>
    obtain ⟨he, hevents⟩ := List.forall_mem_cons.mp hevents
    show ((s.withReplies replies).take e).after events = _
    rw [take_withReplies s replies he, ih (s.take e) hevents]
    rfl

theorem replies_after (events : List Event) (hevents : ∀ e ∈ events, e.isQuestion = false) :
    (s.after events).replies = s.replies := by
  induction events generalizing s with
  | nil => rfl
  | cons e events ih =>
    obtain ⟨he, hevents⟩ := List.forall_mem_cons.mp hevents
    have htake : (s.take e).replies = s.replies := by
      cases e with
      | poll | signal => rfl
      | ask => cases he
    exact (ih (s.take e) hevents).trans htake

/-- The events that are no questions. -/
def unasked (events : List Event) : List Event :=
  events.filter fun e => !e.isQuestion

theorem isQuestion_of_mem_unasked {events : List Event} :
    ∀ e ∈ unasked events, e.isQuestion = false := by
  intro e he
  simpa using (List.mem_filter.mp he).2

/-- A run with questions is one without them, but for the replies. -/
theorem after_eq_withReplies (events : List Event) :
    s.after events = (s.after (unasked events)).withReplies (s.answersTo events) := by
  induction events generalizing s with
  | nil =>
    show s = { s with replies := s.replies ++ [] }
    rw [List.append_nil]
  | cons e events ih =>
    cases e with
    | poll now e => exact ih (s.poll now e)
    | signal now x => exact ih (s.signal now x)
    | ask fresh q =>
      -- the replies to this question are there from now on, and nothing else looks at them
      show (s.ask fresh q).after events = (s.after (unasked events)).withReplies
        ((s.reply? fresh q).toList ++ s.answersTo events)
      rw [ih, ask_eq, after_withReplies s _ _ isQuestion_of_mem_unasked, answersTo_withReplies,
        withReplies_withReplies]

theorem foldl_ask (fresh : String) (questions : List Question) :
    questions.foldl (ask fresh) s = s.after (questions.map (.ask fresh)) := by
  unfold after
  rw [List.foldl_map]
  rfl

theorem unasked_questions (fresh : String) (questions : List Question) (events : List Event) :
    unasked (questions.map (.ask fresh) ++ events) = unasked events := by
  have hnone : unasked (questions.map (.ask fresh)) = [] := by
    apply List.filter_eq_nil_iff.mpr
    intro e he
    obtain ⟨q, -, rfl⟩ := List.mem_map.mp he
    simp [Event.isQuestion]
  unfold unasked at hnone ⊢
  rw [List.filter_append, hnone, List.nil_append]

/-- Questions before a signal do not show in a report but for the replies. -/
theorem report_signal_foldl_ask (fresh : String) (questions : List Question) (now : Nat)
    (x : SystemSignal) (log : List Log.Line) : ∃ replies,
    ((questions.foldl (ask fresh) s).signal now x).report log =
      { (s.signal now x).report log with replies := replies } := by
  have hrun : (questions.foldl (ask fresh) s).signal now x =
      (s.signal now x).withReplies
        (s.answersTo (questions.map (.ask fresh) ++ [.signal now x])) := by
    calc
      _ = s.after (questions.map (.ask fresh) ++ [.signal now x]) := by
        unfold after
        rw [List.foldl_append, foldl_ask]
        rfl
      _ = _ := by
        rw [after_eq_withReplies, unasked_questions]
        rfl
  rw [hrun]
  exact ⟨_, rfl⟩

end Service

/-- A run that serves ends in the same state of its surroundings and with the same report, but for
the replies, whatever it is asked. -/
theorem serve_unasked {σ : Type} (send : Gateway.Request → StateM σ Gateway.Answer) (now : Nat)
    (fresh : String) (c : Config) (x : Session) (start : σ) :
    ∃ report rest replies,
      (serve send now fresh c { x with questions := [] }).run start = (report, rest) ∧
        (serve send now fresh c x).run start = ({ report with replies }, rest) := by
  unfold serve
  cases Gateway.Fetcher.ofConfig c.source with
  | error e => exact ⟨_, _, _, rfl, rfl⟩
  | ok f =>
    dsimp only
    by_cases htaken : x.isTaken ∧ c.server.enabled
    · rw [if_pos htaken, if_pos htaken]
      exact ⟨_, _, _, rfl, rfl⟩
    · rw [if_neg htaken, if_neg htaken]
      rcases hpolled : ((Service.start c).poll? send now f x.passes x.fetches).run start with
        ⟨polled, rest⟩
      obtain ⟨replies, hreport⟩ := polled.report_signal_foldl_ask fresh x.questions now x.signal
        [startLine c, f.readyLine]
      refine ⟨(polled.signal now x.signal).report [startLine c, f.readyLine], rest, replies, ?_, ?_⟩
      · rw [StateT.run_bind, hpolled]
        rfl
      · rw [StateT.run_bind, hpolled, ← hreport]
        rfl

/-- The server of a run replies to every message, from the view that is published then. -/
theorem Service.exists_received (s : Service) (hserver : s.config.server.enabled = true)
    (fresh : String) (r : Server.Request) :
    ∃ x, s.reply? fresh (.board r) = some (.document x) ∧
      Server.Received (Server.refreshSecs s.config.refresh) fresh s.poller.poller.published r x := by
  exact ⟨_, if_pos hserver, Server.received _ fresh _ r⟩

/-- A request that reaches the server is answered by its path, its method and the published view,
in a response with an id that must not be stored, and so are the requests to a run that serves. No
request changes anything: a service is the same with questions and without, but for the replies, and
so is what a run reports. -/
theorem requests_answered_and_board_kept :
    (∀ refreshSecs fresh v inTime r, Server.Answered refreshSecs fresh v inTime r
      (Server.answer refreshSecs fresh v inTime r)) ∧
    (∀ s : Service, s.config.server.enabled = true → ∀ fresh r, ∃ x,
      s.reply? fresh (.board r) = some (.document x) ∧
        Server.Received (Server.refreshSecs s.config.refresh) fresh s.poller.poller.published r x) ∧
    (∀ (s : Service) (events : List Service.Event), s.after events =
      { s.after (Service.unasked events) with replies := s.replies ++ s.answersTo events }) ∧
    ∀ (σ : Type) (send : Gateway.Request → StateM σ Gateway.Answer) (now : Nat) (fresh : String)
      (c : Config) (x : Session) (start : σ), ∃ report rest replies,
        (serve send now fresh c { x with questions := [] }).run start = (report, rest) ∧
          (serve send now fresh c x).run start = ({ report with replies }, rest) := by
  refine ⟨Server.answered, Service.exists_received, ?_, fun _ => serve_unasked⟩
  intro s events
  rw [Service.after_eq_withReplies, Service.withReplies,
    Service.replies_after s _ Service.isQuestion_of_mem_unasked]

end StatusBoard.Program
