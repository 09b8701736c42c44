import StatusBoard.Poller.Run
import StatusBoard.Proofs.Poller.Task
import StatusBoard.Proofs.Shutdown.Use

/-!
The poller's loop among all that goes on beside it. The clock strikes, answers arrive, and others
use the channel of the signal to stop, each at any moment. The loop waits for its clock or the
signal; after a tick it begins a fetch and waits for the answer or the signal; with an answer it
goes through a pass step by step and waits again. Where it waits and both are there, either may
win. The signal found while a fetch is open drops that fetch.

However these steps are interleaved, at most one fetch is open, what is published is the view of
the board after whole passes, a dropped fetch leaves no trace, and the loop leaves only after a
signal or with the last handle gone. The board it hands back is the one it published last.
-/
namespace StatusBoard.Poller.Loop

/-- What the loop is at. -/
inductive Stage where
  | waiting
  /-- The tick is taken and the fetch not begun. -/
  | ticked
  | fetching (number : Nat)
  | passing (task : Task)
  | left

/-- A fetch that was begun, with its answer once that has arrived. -/
structure Fetch where
  number : Nat
  answer : Option (Except FetchError Snapshot)

structure State where
  poller : Poller
  stage : Stage
  /-- Whether the clock struck and the tick was not taken. -/
  struck : Bool
  /-- Fetches begun so far. -/
  begun : Nat
  /-- Fetches that were neither taken in nor dropped. -/
  outstanding : List Fetch
  channel : Channel
  /-- The loop's own receiver. -/
  receiver : Nat

/-- What happens, in the loop or beside it. -/
inductive Event where
  | strike
  | tick
  | begin
  | arrive (number : Nat) (answer : Except FetchError Snapshot)
  | take (arrival : Arrival)
  | work
  | leave
  | use (u : Channel.Use)

namespace Stage

/-- Whether the loop waits, so that it would notice the signal. -/
def Awaits : Stage → Prop
  | .waiting | .ticked | .fetching _ => True
  | .passing _ | .left => False

def phase : Stage → Phase
  | .waiting | .passing _ => .waiting
  | .ticked | .fetching _ => .fetching
  | .left => .left

end Stage

/-- Before the loop, with a receiver that has just been subscribed. The first tick is due at
once. -/
def State.start (c : Channel) (handle : Nat) : State where
  poller := .start
  stage := .waiting
  struck := true
  begun := 0
  outstanding := []
  channel := (c.subscribe handle).1
  receiver := c.receivers.length

variable (r : Renderer Id)

/-- The answer of a fetch is taken in: a failure is counted, and a snapshot begins a pass. -/
def State.take (s : State) (number : Nat) (a : Arrival) : State :=
  let outstanding := s.outstanding.filter (·.number ≠ number)
  match a.answer with
  | .error _ =>
    { s with
      poller := { s.poller with metrics := s.poller.metrics.recordFetch false }
      stage := .waiting
      outstanding := outstanding }
  | .ok snapshot =>
    { s with
      poller := { s.poller with metrics := s.poller.metrics.recordFetch true }
      stage := .passing (.start s.poller.board a.time snapshot)
      outstanding := outstanding }

/-- A step of a pass; after the last one the loop waits again. -/
def State.work (s : State) (t : Task) : State :=
  let (poller, rest) := t.step r s.poller
  { s with
    poller := poller
    stage := match rest with
      | some u => .passing u
      | none => .waiting }

/-- The loop leaves: it drops its fetches and its receiver. -/
def State.leave (s : State) : State :=
  { s with
    stage := .left
    outstanding := []
    channel := ((s.channel.receive s.receiver).1.dropReceiver s.receiver).1 }

inductive Step : State → Event → State → Prop
  | strike (s : State) : Step s .strike { s with struck := true }
  | tick (s : State) (hs : s.stage = .waiting) (hstruck : s.struck = true) :
      Step s .tick { s with stage := .ticked, struck := false }
  | begin (s : State) (hs : s.stage = .ticked) :
      Step s .begin { s with
        stage := .fetching s.begun
        begun := s.begun + 1
        outstanding := s.outstanding ++ [⟨s.begun, none⟩] }
  | arrive (s : State) (number : Nat) (answer : Except FetchError Snapshot)
      (hopen : ⟨number, none⟩ ∈ s.outstanding) :
      Step s (.arrive number answer) { s with
        outstanding := s.outstanding.map fun f =>
          if f.number = number then ⟨number, some answer⟩ else f }
  | take (s : State) (number time : Nat) (answer : Except FetchError Snapshot)
      (hs : s.stage = .fetching number) (hanswer : ⟨number, some answer⟩ ∈ s.outstanding) :
      Step s (.take ⟨time, answer⟩) (s.take number ⟨time, answer⟩)
  | work (s : State) (t : Task) (hs : s.stage = .passing t) : Step s .work (s.work r t)
  | leave (s : State) (hs : s.stage.Awaits)
      (hfound : (s.channel.receive s.receiver).2 ≠ some .empty) : Step s .leave s.leave
  | use (s : State) (u : Channel.Use) (c : Channel) (hothers : u.receiver? ≠ some s.receiver)
      (hc : s.channel.use? u = some c) : Step s (.use u) { s with channel := c }

inductive Reaches : State → List Event → State → Prop
  | refl (s : State) : Reaches s [] s
  | tail {s t u : State} {trace : List Event} {e : Event} :
      Reaches s trace t → Step r t e u → Reaches s (trace ++ [e]) u

/-- The answers that the loop took in, the first one first. -/
def taken (trace : List Event) : List Arrival :=
  trace.filterMap fun
    | .take a => some a
    | _ => none

/-- Whether the signal was sent. -/
def Triggered (trace : List Event) : Prop :=
  ∃ handle, Event.use (.trigger handle) ∈ trace

/-- What the run of the poller sees of an event, and when. -/
def Event.seen? : Event → Option (Nat × Poller.Event)
  | .tick => some (0, .tick)
  | .take a => some (a.time, .answer a.answer)
  | .leave => some (0, .stop)
  | _ => none

/-- The run that an interleaving amounts to. -/
def replay (milliseconds : Nat) (trace : List Event) : Run :=
  (trace.filterMap Event.seen?).foldl (fun x e => x.step r e.1 e.2) (.start milliseconds)

namespace State

/-- The poller once the pass under way is over. -/
def settled (s : State) : Poller :=
  match s.stage with
  | .passing t => t.finish r s.poller
  | _ => s.poller

/-- The board that the loop hands back when it has left. -/
def handedBack? (s : State) : Option Board :=
  match s.stage with
  | .left => some s.poller.board
  | _ => none

end State

/-- The fetches that are open at a stage. -/
def Stage.Opens : Stage → List Fetch → Prop
  | .fetching n, fs => ∃ answer, fs = [⟨n, answer⟩]
  | _, fs => fs = []

/-- What holds of every state that an interleaving leads to; `next` is the signal that the loop's
receiver waited for from the start. -/
structure Sound (next : Nat) (trace : List Event) (s : State) : Prop where
  settled : s.settled r = Poller.after r (taken trace)
  published : ∃ done, done <+: taken trace ∧
    s.poller.published = (Poller.after r done).published ∧
    ((∀ t, s.stage ≠ .passing t) → done = taken trace)
  opens : s.stage.Opens s.outstanding
  waits : s.stage ≠ .left → s.channel.Waits s.receiver next
  sent : s.stage ≠ .left → next ≤ s.channel.sent ∧ (next < s.channel.sent ↔ Triggered trace)
  stopped : s.stage = .left → Triggered trace ∨ s.channel.isOpen = false

variable {r} {next : Nat} {trace : List Event} {s : State}

theorem taken_concat (trace : List Event) (e : Event) :
    taken (trace ++ [e]) = taken trace ++ taken [e] :=
  List.filterMap_append

theorem triggered_concat (trace : List Event) (e : Event) :
    Triggered (trace ++ [e]) ↔ Triggered trace ∨ ∃ handle, e = .use (.trigger handle) := by
  simp only [Triggered, List.mem_append, List.mem_singleton, exists_or, eq_comm]

namespace Sound

/-- An event that neither brings an answer nor sends the signal says nothing new. -/
theorem concat (hs : Sound r next trace s) (e : Event) (htaken : taken [e] = [])
    (hquiet : ∀ handle, e ≠ .use (.trigger handle)) : Sound r next (trace ++ [e]) s := by
  have hsame : taken (trace ++ [e]) = taken trace := by
    rw [taken_concat, htaken, List.append_nil]
  have htriggered : Triggered (trace ++ [e]) ↔ Triggered trace := by
    rw [triggered_concat]
    exact or_iff_left fun ⟨handle, heq⟩ => hquiet handle heq
  exact {
    settled := hsame ▸ hs.settled
    published := hsame ▸ hs.published
    opens := hs.opens
    waits := hs.waits
    sent := by
      rw [htriggered]
      exact hs.sent
    stopped := by
      rw [htriggered]
      exact hs.stopped }

theorem strike (hs : Sound r next trace s) : Sound r next trace { s with struck := true } :=
  ⟨hs.settled, hs.published, hs.opens, hs.waits, hs.sent, hs.stopped⟩

theorem tick (hs : Sound r next trace s) (hwaiting : s.stage = .waiting) :
    Sound r next trace { s with stage := .ticked, struck := false } := by
  obtain ⟨poller, stage, struck, begun, outstanding, channel, receiver⟩ := s
  subst hwaiting
  obtain ⟨done, hprefix, hpublished, hall⟩ := hs.published
  exact {
    settled := hs.settled
    published := ⟨done, hprefix, hpublished, fun _ => hall fun t ht => Stage.noConfusion ht⟩
    opens := hs.opens
    waits := fun _ => hs.waits Stage.noConfusion
    sent := fun _ => hs.sent Stage.noConfusion
    stopped := Stage.noConfusion }

theorem begin (hs : Sound r next trace s) (hticked : s.stage = .ticked) :
    Sound r next trace { s with
      stage := .fetching s.begun
      begun := s.begun + 1
      outstanding := s.outstanding ++ [⟨s.begun, none⟩] } := by
  obtain ⟨poller, stage, struck, begun, outstanding, channel, receiver⟩ := s
  subst hticked
  obtain ⟨done, hprefix, hpublished, hall⟩ := hs.published
  have hnone : outstanding = [] := hs.opens
  subst hnone
  exact {
    settled := hs.settled
    published := ⟨done, hprefix, hpublished, fun _ => hall fun t ht => Stage.noConfusion ht⟩
    opens := ⟨none, rfl⟩
    waits := fun _ => hs.waits Stage.noConfusion
    sent := fun _ => hs.sent Stage.noConfusion
    stopped := Stage.noConfusion }

/-- An arrival fills in the one fetch that is open. -/
theorem arrive (hs : Sound r next trace s) (number : Nat) (answer : Except FetchError Snapshot) :
    Sound r next trace { s with
      outstanding := s.outstanding.map fun f =>
        if f.number = number then ⟨number, some answer⟩ else f } := by
  obtain ⟨poller, stage, struck, begun, outstanding, channel, receiver⟩ := s
  have hopens : stage.Opens (outstanding.map fun f =>
      if f.number = number then ⟨number, some answer⟩ else f) := by
    have hbefore : stage.Opens outstanding := hs.opens
    cases stage with
    | fetching n =>
      obtain ⟨old, rfl⟩ := hbefore
      by_cases hn : n = number
      · exact ⟨some answer, by simp [hn]⟩
      · exact ⟨old, by simp [hn]⟩
    | _ =>
      have hnone : outstanding = [] := hbefore
      rw [hnone]
      rfl
  exact ⟨hs.settled, hs.published, hopens, hs.waits, hs.sent, hs.stopped⟩

/-- An answer that is taken in is the next one of the poller; a snapshot begins a pass that has not
published yet. -/
theorem take (hs : Sound r next trace s) (number time : Nat)
    (answer : Except FetchError Snapshot) (hfetching : s.stage = .fetching number) :
    Sound r next (trace ++ [.take ⟨time, answer⟩]) (s.take number ⟨time, answer⟩) := by
  obtain ⟨poller, stage, struck, begun, outstanding, channel, receiver⟩ := s
  subst hfetching
  obtain ⟨done, hprefix, hpublished, hall⟩ := hs.published
  have hdone : done = taken trace := hall fun t ht => Stage.noConfusion ht
  have hpoller : poller = Poller.after r (taken trace) := hs.settled
  obtain ⟨old, hone⟩ := hs.opens
  have hnone : outstanding.filter (·.number ≠ number) = [] := by
    have hlist : outstanding = [⟨number, old⟩] := hone
    simp [hlist]
  have htaken : taken (trace ++ [.take ⟨time, answer⟩]) = taken trace ++ [⟨time, answer⟩] :=
    taken_concat trace _
  have hafter : Poller.after r (taken (trace ++ [.take ⟨time, answer⟩])) =
      (poller.poll r time answer).1 := by
    rw [htaken, Poller.after, List.foldl_append, hpoller]
    rfl
  have hsent : next ≤ channel.sent ∧
      (next < channel.sent ↔ Triggered (trace ++ [.take ⟨time, answer⟩])) := by
    rw [triggered_concat]
    simpa using hs.sent Stage.noConfusion
  cases answer with
  | error e =>
    exact {
      settled := hafter.symm
      published := by
        refine ⟨_, List.prefix_refl _, ?_, fun _ => rfl⟩
        rw [hafter]
        rw [hdone, ← hpoller] at hpublished
        exact hpublished
      opens := hnone
      waits := fun _ => hs.waits Stage.noConfusion
      sent := fun _ => hsent
      stopped := Stage.noConfusion }
  | ok snapshot =>
    exact {
      settled := (Task.finish_start r poller time snapshot).trans hafter.symm
      published := by
        refine ⟨done, ?_, hpublished, fun h => absurd rfl (h _)⟩
        rw [htaken]
        exact hprefix.trans (List.prefix_append _ _)
      opens := hnone
      waits := fun _ => hs.waits Stage.noConfusion
      sent := fun _ => hsent
      stopped := Stage.noConfusion }

/-- A step of a pass keeps what the pass comes to; only the last one publishes, and then the pass
is whole. -/
theorem work (hs : Sound r next trace s) (t : Task) (hpassing : s.stage = .passing t) :
    Sound r next trace (s.work r t) := by
  obtain ⟨poller, stage, struck, begun, outstanding, channel, receiver⟩ := s
  subst hpassing
  obtain ⟨done, hprefix, hpublished, -⟩ := hs.published
  have hsettled : t.finish r poller = Poller.after r (taken trace) := hs.settled
  have hfinish := Task.finish_step r t poller
  cases hstep : t.step r poller with
  | mk q rest =>
    rw [hstep] at hfinish
    cases rest with
    | some u =>
      simp only [State.work, hstep]
      exact {
        settled := hfinish.symm.trans hsettled
        published := ⟨done, hprefix, (Task.published_step r t poller q u hstep).trans hpublished,
          fun h => absurd rfl (h _)⟩
        opens := hs.opens
        waits := fun _ => hs.waits Stage.noConfusion
        sent := fun _ => hs.sent Stage.noConfusion
        stopped := Stage.noConfusion }
    | none =>
      have hq : q = Poller.after r (taken trace) := hfinish.symm.trans hsettled
      simp only [State.work, hstep]
      exact {
        settled := hq
        published := ⟨_, List.prefix_refl _, congrArg Poller.published hq, fun _ => rfl⟩
        opens := hs.opens
        waits := fun _ => hs.waits Stage.noConfusion
        sent := fun _ => hs.sent Stage.noConfusion
        stopped := Stage.noConfusion }

theorem stopped_of_found (hs : Sound r next trace s) (hawaits : s.stage.Awaits)
    (hfound : (s.channel.receive s.receiver).2 ≠ some .empty) :
    Triggered trace ∨ s.channel.isOpen = false := by
  have hstay : s.stage ≠ .left := by
    intro heq
    rw [heq] at hawaits
    exact hawaits
  obtain ⟨hle, hiff⟩ := hs.sent hstay
  rw [Ne, Channel.receive_eq_empty_iff _ _ next (hs.waits hstay) hle, not_not, hiff] at hfound
  exact hfound

theorem leave (hs : Sound r next trace s) (hawaits : s.stage.Awaits)
    (hfound : (s.channel.receive s.receiver).2 ≠ some .empty) :
    Sound r next trace s.leave := by
  have hstopped := hs.stopped_of_found hawaits hfound
  obtain ⟨poller, stage, struck, begun, outstanding, channel, receiver⟩ := s
  have hpassing : ∀ t, stage ≠ .passing t := by
    intro t heq
    rw [heq] at hawaits
    exact hawaits
  have hpoller : poller = Poller.after r (taken trace) := by
    have hsettled := hs.settled
    cases stage with
    | passing t => exact absurd rfl (hpassing t)
    | _ => exact hsettled
  obtain ⟨done, hprefix, hpublished, hall⟩ := hs.published
  have hopen : (((channel.receive receiver).1.dropReceiver receiver).1).isOpen = channel.isOpen :=
    congrArg (List.any · id) (Channel.handles_receive channel receiver)
  exact {
    settled := hpoller
    published := ⟨done, hprefix, hpublished, fun _ => hall hpassing⟩
    opens := rfl
    waits := fun h => absurd rfl h
    sent := fun h => absurd rfl h
    stopped := fun _ => hstopped.imp_right hopen.trans }

theorem use (hs : Sound r next trace s) (u : Channel.Use) (c : Channel)
    (hothers : u.receiver? ≠ some s.receiver) (hc : s.channel.use? u = some c) :
    Sound r next (trace ++ [.use u]) { s with channel := c } := by
  have htaken : taken (trace ++ [.use u]) = taken trace := by
    rw [taken_concat]
    exact List.append_nil _
  exact {
    settled := htaken ▸ hs.settled
    published := htaken ▸ hs.published
    opens := hs.opens
    waits := fun hstay => (Channel.waits_use (hs.waits hstay) hothers hc).1
    sent := by
      intro hstay
      obtain ⟨hle, hiff⟩ := hs.sent hstay
      have hsent := (Channel.waits_use (hs.waits hstay) hothers hc).2
      rw [triggered_concat, ← hiff]
      cases u with
      | trigger h =>
        refine ⟨by simp only [hsent]; omega, ?_⟩
        simp only [hsent, Event.use.injEq, Channel.Use.trigger.injEq, exists_eq', or_true, iff_true]
        omega
      | _ => simp [hsent, hle]
    stopped := fun hleft => (hs.stopped hleft).imp
      (fun htriggered => (triggered_concat trace _).mpr (Or.inl htriggered))
      (fun hclosed => Channel.isOpen_use hclosed hc) }

/-- Each step keeps what holds of the states of the loop. -/
theorem step {e : Event} {t : State} (hs : Sound r next trace s) (h : Step r s e t) :
    Sound r next (trace ++ [e]) t := by
  cases h with
  | strike => exact (hs.concat _ rfl fun _ => Event.noConfusion).strike
  | tick hwaiting _ => exact (hs.concat _ rfl fun _ => Event.noConfusion).tick hwaiting
  | begin hticked => exact (hs.concat _ rfl fun _ => Event.noConfusion).begin hticked
  | arrive number answer _ =>
    exact (hs.concat _ rfl fun _ => Event.noConfusion).arrive number answer
  | take number time answer hfetching _ => exact hs.take number time answer hfetching
  | work t hpassing => exact (hs.concat _ rfl fun _ => Event.noConfusion).work t hpassing
  | leave hawaits hfound => exact (hs.concat _ rfl fun _ => Event.noConfusion).leave hawaits hfound
  | use u c hothers hc => exact hs.use u c hothers hc

theorem start (c : Channel) (handle : Nat) (halive : c.isAlive handle = true) :
    Sound r c.sent [] (.start c handle) where
  settled := rfl
  published := ⟨[], List.prefix_refl _, rfl, fun _ => rfl⟩
  opens := rfl
  waits _ := Channel.waits_subscribe c handle halive
  sent _ := by
    have hsent : (c.subscribe handle).1.sent = c.sent := by simp [Channel.subscribe, halive]
    simp [State.start, hsent, Triggered]
  stopped := Stage.noConfusion

theorem of_reaches (c : Channel) (handle : Nat) (halive : c.isAlive handle = true)
    (h : Reaches r (.start c handle) trace s) : Sound r c.sent trace s := by
  induction h with
  | refl => exact start c handle halive
  | tail _ hstep ih => exact ih.step hstep

end Sound

/-- Nothing happens to the poller once the loop has left. -/
theorem poller_of_left {t : State} {more : List Event} (h : Reaches r s more t)
    (hleft : s.stage = .left) : t.stage = .left ∧ t.poller = s.poller := by
  induction h with
  | refl => exact ⟨hleft, rfl⟩
  | tail _ hstep ih =>
    obtain ⟨hstage, hpoller⟩ := ih
    cases hstep with
    | strike | arrive | use => exact ⟨hstage, hpoller⟩
    | tick hs | begin hs | take _ _ _ hs | work _ hs => simp [hstage] at hs
    | leave hs => simp [hstage, Stage.Awaits] at hs

theorem replay_concat (milliseconds : Nat) (trace : List Event) (e : Event) :
    replay r milliseconds (trace ++ [e]) =
      match e.seen? with
      | some (now, x) => (replay r milliseconds trace).step r now x
      | none => replay r milliseconds trace := by
  rw [replay, List.filterMap_append, List.foldl_append]
  cases e <;> rfl

theorem taken_replay (milliseconds : Nat) {e : Event} {t : State}
    (hphase : (replay r milliseconds trace).phase = s.stage.phase)
    (hpoller : (replay r milliseconds trace).poller = Poller.after r (taken trace))
    (h : Step r s e t) :
    (replay r milliseconds (trace ++ [e])).phase = t.stage.phase ∧
      (replay r milliseconds (trace ++ [e])).poller = Poller.after r (taken (trace ++ [e])) := by
  rw [replay_concat, taken_concat]
  cases h with
  | strike | arrive | use => exact ⟨hphase, hpoller.trans (congrArg _ (List.append_nil _).symm)⟩
  | begin hs =>
    rw [hs] at hphase
    exact ⟨hphase, hpoller.trans (congrArg _ (List.append_nil _).symm)⟩
  | tick hs =>
    rw [hs] at hphase
    simp only [Event.seen?, Run.step, hphase, Stage.phase]
    exact ⟨trivial, hpoller.trans (congrArg _ (List.append_nil _).symm)⟩
  | take number time answer hs =>
    rw [hs] at hphase
    have hafter : ((replay r milliseconds trace).poller.poll r time answer).1 =
        Poller.after r (taken trace ++ [⟨time, answer⟩]) := by
      rw [Poller.after, List.foldl_append, hpoller]
      rfl
    simp only [Event.seen?, Run.step, hphase, Stage.phase]
    refine ⟨?_, hafter⟩
    cases answer <;> rfl
  | work task hs =>
    rw [hs] at hphase
    refine ⟨hphase.trans ?_, hpoller.trans (congrArg _ (List.append_nil _).symm)⟩
    simp only [State.work]
    cases (task.step r s.poller).2 <;> rfl
  | leave hs =>
    have hleft : ((replay r milliseconds trace).step r 0 .stop).phase = .left ∧
        ((replay r milliseconds trace).step r 0 .stop).poller =
          (replay r milliseconds trace).poller := by
      cases hstage : s.stage with
      | waiting | ticked | fetching =>
        rw [hstage] at hphase
        simp [Run.step, hphase, Stage.phase]
      | passing | left =>
        rw [hstage] at hs
        exact hs.elim
    exact ⟨hleft.1, hleft.2.trans (hpoller.trans (congrArg _ (List.append_nil _).symm))⟩

/-- An interleaving is a run of the poller: the same answers in the same phases. -/
theorem replay_of_reaches (milliseconds : Nat) {c : Channel} {handle : Nat}
    (h : Reaches r (.start c handle) trace s) :
    (replay r milliseconds trace).phase = s.stage.phase ∧
      (replay r milliseconds trace).poller = Poller.after r (taken trace) := by
  induction h with
  | refl => exact ⟨rfl, rfl⟩
  | tail _ hstep ih => exact taken_replay milliseconds ih.1 ih.2 hstep

/-- What the loop guarantees in a state that an interleaving leads to. -/
structure Guarantees (r : Renderer Id) (trace : List Event) (s : State) : Prop where
  one_fetch : s.outstanding.length ≤ 1
  /-- What is published is the view after whole passes, after all of them outside of a pass. -/
  whole_passes : ∃ done, done <+: passes (taken trace) ∧
    s.poller.published = ((Board.after r done).view r).run ∧
    ((∀ t, s.stage ≠ .passing t) → done = passes (taken trace))
  /-- Outside of a pass the board, what is published and the measurements are those of the answers
  taken in; a fetch that was dropped is not among them. -/
  no_trace : (∀ t, s.stage ≠ .passing t) → s.poller = Poller.after r (taken trace)
  /-- The loop can leave exactly where it waits and the signal was sent or nobody can send it. -/
  leaves_iff : (∃ t, Step r s .leave t) ↔
    s.stage.Awaits ∧ (Triggered trace ∨ s.channel.isOpen = false)
  stopped : s.stage = .left → Triggered trace ∨ s.channel.isOpen = false
  /-- Nothing is published, nor anything else done to the poller, after the loop has left. -/
  at_rest : s.stage = .left → ∀ more t, Reaches r s more t → t.stage = .left ∧ t.poller = s.poller
  /-- The board that is handed back is the one published last; it is fresh if no pass succeeded. -/
  handed_back : ∀ b, s.handedBack? = some b → s.poller.published = (b.view r).run ∧
    (passes (taken trace) = [] → b = .empty)
  /-- The loop goes through the phases of a run with the same answers. -/
  is_run : ∀ milliseconds, (replay r milliseconds trace).phase = s.stage.phase ∧
    (replay r milliseconds trace).poller = s.settled r

namespace Sound

theorem one_fetch (hs : Sound r next trace s) : s.outstanding.length ≤ 1 := by
  have hopens := hs.opens
  cases hstage : s.stage with
  | fetching n =>
    rw [hstage] at hopens
    obtain ⟨answer, hone⟩ := hopens
    simp [hone]
  | _ =>
    rw [hstage] at hopens
    have hnone : s.outstanding = [] := hopens
    simp [hnone]

theorem poller_eq (hs : Sound r next trace s) (hpassing : ∀ t, s.stage ≠ .passing t) :
    s.poller = Poller.after r (taken trace) := by
  have hsettled := hs.settled
  unfold State.settled at hsettled
  split at hsettled
  · rename_i t ht
    exact absurd ht (hpassing t)
  · exact hsettled

theorem leaves_iff (hs : Sound r next trace s) :
    (∃ t, Step r s .leave t) ↔
      s.stage.Awaits ∧ (Triggered trace ∨ s.channel.isOpen = false) := by
  constructor
  · rintro ⟨t, hstep⟩
    cases hstep with
    | leave hawaits hfound => exact ⟨hawaits, hs.stopped_of_found hawaits hfound⟩
  · rintro ⟨hawaits, hstopped⟩
    have hstay : s.stage ≠ .left := by
      intro heq
      rw [heq] at hawaits
      exact hawaits
    obtain ⟨hle, hiff⟩ := hs.sent hstay
    refine ⟨_, .leave s hawaits ?_⟩
    rw [Ne, Channel.receive_eq_empty_iff _ _ next (hs.waits hstay) hle, not_not, hiff]
    exact hstopped

theorem handed_back (hs : Sound r next trace s) (b : Board) (hb : s.handedBack? = some b) :
    s.poller.published = (b.view r).run ∧ (passes (taken trace) = [] → b = .empty) := by
  unfold State.handedBack? at hb
  split at hb
  · rename_i hleft
    have hpassing : ∀ t, s.stage ≠ .passing t := by simp [hleft]
    have hpoller := hs.poller_eq hpassing
    rw [Option.some.injEq, hpoller] at hb
    rw [hpoller, ← hb]
    refine ⟨published_after r (taken trace), fun hnone => ?_⟩
    rw [board_after, hnone]
    rfl
  · exact absurd hb (Option.some_ne_none b).symm

end Sound

/-- In every state that the loop can reach: at most one fetch is open, whole passes are published,
dropped fetches leave no trace, and the loop leaves only when it was told to. -/
theorem guarantees_of_reaches (c : Channel) (handle : Nat) (halive : c.isAlive handle = true)
    (trace : List Event) (s : State) (h : Reaches r (.start c handle) trace s) :
    Guarantees r trace s := by
  have hs := Sound.of_reaches c handle halive h
  obtain ⟨done, ⟨later, hlater⟩, hpublished, hall⟩ := hs.published
  exact {
    one_fetch := hs.one_fetch
    whole_passes := by
      refine ⟨passes done, ⟨passes later, ?_⟩, ?_, fun hpassing => by rw [hall hpassing]⟩
      · rw [← hlater, passes, passes, passes, List.filterMap_append]
      · rw [hpublished, published_after, board_after]
    no_trace := hs.poller_eq
    leaves_iff := hs.leaves_iff
    stopped := hs.stopped
    at_rest := fun hleft more t hmore => poller_of_left hmore hleft
    handed_back := hs.handed_back
    is_run := by
      intro milliseconds
      obtain ⟨hphase, hpoller⟩ := replay_of_reaches milliseconds h
      exact ⟨hphase, hpoller.trans hs.settled.symm⟩ }

/-- A run with one whole pass and a second fetch, whose answer has arrived when the signal is found
instead. -/
theorem guarantees_of_dropped_fetch :
    let snapshot : Snapshot := ⟨"gateway", []⟩
    let trace : List Event :=
      [.tick, .begin, .arrive 0 (.ok snapshot), .take ⟨7, .ok snapshot⟩] ++
        List.replicate 5 .work ++
        [.strike, .tick, .begin, .use (.trigger 0), .arrive 1 (.ok snapshot), .leave]
    Channel.opened.isAlive 0 = true ∧
      ∃ s, Reaches .html (.start .opened 0) trace s ∧ s.stage = .left ∧ s.begun = 2 ∧
        s.poller.published.passes = 1 ∧ Guarantees .html trace s := by
  intro snapshot trace
  have halive : Channel.opened.isAlive 0 = true := rfl
  refine ⟨halive, ?_⟩
  have hpass := Reaches.refl (r := .html) (.start .opened 0)
    |>.tail (.tick _ rfl rfl) |>.tail (.begin _ rfl)
    |>.tail (.arrive _ 0 (.ok snapshot) (List.mem_singleton_self _))
    |>.tail (.take _ 0 7 (.ok snapshot) rfl (List.mem_singleton_self _))
    |>.tail (.work _ _ rfl) |>.tail (.work _ _ rfl) |>.tail (.work _ _ rfl)
    |>.tail (.work _ _ rfl) |>.tail (.work _ _ rfl)
  have hleft := hpass
    |>.tail (.strike _) |>.tail (.tick _ rfl rfl) |>.tail (.begin _ rfl)
    |>.tail (.use _ (.trigger 0) _ nofun rfl)
    |>.tail (.arrive _ 1 (.ok snapshot) (List.mem_singleton_self _))
    |>.tail (.leave _ trivial nofun)
  exact ⟨_, hleft, rfl, rfl, rfl, guarantees_of_reaches .opened 0 halive _ _ hleft⟩

end StatusBoard.Poller.Loop
