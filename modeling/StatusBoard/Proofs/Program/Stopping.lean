import StatusBoard.Program.Serve
import StatusBoard.Proofs.Poller.Loop
import StatusBoard.Proofs.Shutdown.Inbox

/-!
How a run that serves is told to stop. The poller, the idle wait and the server subscribe before
anyone could send the signal; then each of them starts, and a termination signal arrives, in any
order. Nobody who has not stopped can miss the signal: it stays in the inbox until the next look.
-/
namespace StatusBoard

namespace Poller

/-- How many steps of a pass are still to come. -/
def Task.length (t : Task) : Nat :=
  match t.remainder with
  | .creating services => services.length + t.plan.updates.length + 5
  | .updating services => services.length + 4
  | .concluding => 3
  | .measuring => 2
  | .publishing => 1

theorem Task.length_step (r : Renderer Id) (t u : Task) (p q : Poller)
    (h : t.step r p = (q, some u)) : u.length < t.length := by
  obtain ⟨time, snapshot, plan, remainder⟩ := t
  cases remainder with
  | creating services =>
    cases services <;> cases h <;> simp only [Task.length, List.length_cons, List.length_nil] <;>
      omega
  | updating services =>
    cases services <;> cases h <;> simp only [Task.length, List.length_cons, List.length_nil] <;>
      omega
  | concluding | measuring =>
    cases h
    exact Nat.lt_succ_self _
  | publishing => cases h

namespace Loop

theorem Stage.Awaits.ne_left {stage : Stage} (h : stage.Awaits) : stage ≠ .left := by
  rintro rfl
  exact h

variable {r : Renderer Id} {s t : State} {e : Event}

/-- The loop touches the channel only when it leaves. -/
theorem Step.channel (h : Step r s e t) (hown : ∀ u, e ≠ .use u) :
    t.channel = s.channel ∧ t.receiver = s.receiver ∧ (t.stage = .left ↔ s.stage = .left) ∨
      s.stage.Awaits ∧ (s.channel.receive s.receiver).2 ≠ some .empty ∧ t = s.leave := by
  cases h with
  | strike | arrive => exact Or.inl ⟨rfl, rfl, Iff.rfl⟩
  | tick hs | begin hs => exact Or.inl ⟨rfl, rfl, by simp [hs]⟩
  | take number time answer hs =>
    left
    cases answer <;> exact ⟨rfl, rfl, by simp [hs, State.take]⟩
  | work task hs =>
    left
    unfold State.work
    split
    refine ⟨rfl, rfl, ?_⟩
    simp only [hs, reduceCtorEq, iff_false]
    split <;> simp
  | leave hs hfound => exact Or.inr ⟨hs, hfound, rfl⟩
  | use u => exact absurd rfl (hown u)

end Loop

end Poller

namespace Program.Stopping

/-- Who may wait for the signal besides the poller. -/
inductive Waiter where
  | idle
  | server
deriving DecidableEq, Repr

/-- The receiver that was subscribed for a waiter; the first one is the poller's. -/
def Waiter.receiver : Waiter → Nat
  | .idle => 1
  | .server => 2

inductive Stage where
  | unstarted
  | listening
  | stopped
deriving DecidableEq, Repr

/-- A run that serves, as far as the signal is concerned. -/
structure State where
  /-- The poller's loop and the channel. -/
  loop : Poller.Loop.State
  /-- Whether what passes the signal on has ended. -/
  ended : Bool
  stage : Waiter → Stage

inductive Event where
  | signal (x : SystemSignal)
  /-- The poller's own step. -/
  | loop (e : Poller.Loop.Event)
  | begin (w : Waiter)
  | look (w : Waiter) (found : Receipt)

namespace State

/-- Everyone has subscribed and nobody has started. -/
def start : State where
  loop := { Poller.Loop.State.start .opened 0 with channel := Service.wiring }
  ended := false
  stage _ := .unstarted

def channel (s : State) : Channel :=
  s.loop.channel

def withChannel (s : State) (c : Channel) : State :=
  { s with loop := { s.loop with channel := c } }

/-- A termination signal arrives. What passes it on ends with it and lets go of its handle. -/
def signal (s : State) (x : SystemSignal) : State :=
  if s.ended then s
  else
    let signals := (SignalListener.start s.channel).notify x
    { s.withChannel (signals.channel.dropHandle 1).1 with ended := signals.ended }

/-- A waiter looks for the signal, and stops if it finds anything. -/
def look (s : State) (w : Waiter) (c : Channel) (found : Receipt) : State :=
  { s.withChannel c with
    stage := if found = .empty then s.stage else Function.update s.stage w .stopped }

end State

variable (r : Renderer Id)

inductive Step : State → Event → State → Prop
  | signal (s : State) (x : SystemSignal) : Step s (.signal x) (s.signal x)
  | loop (s : State) (e : Poller.Loop.Event) (t : Poller.Loop.State) (hown : ∀ u, e ≠ .use u)
      (h : Poller.Loop.Step r s.loop e t) : Step s (.loop e) { s with loop := t }
  | begin (s : State) (w : Waiter) (hw : s.stage w = .unstarted) :
      Step s (.begin w) { s with stage := Function.update s.stage w .listening }
  | look (s : State) (w : Waiter) (c : Channel) (found : Receipt) (hw : s.stage w = .listening)
      (hfound : s.channel.receive w.receiver = (c, some found)) :
      Step s (.look w found) (s.look w c found)

inductive Reaches : State → List Event → State → Prop
  | refl (s : State) : Reaches s [] s
  | tail {s t u : State} {trace : List Event} {e : Event} :
      Reaches s trace t → Step r t e u → Reaches s (trace ++ [e]) u

def Event.isSignal : Event → Bool
  | .signal _ => true
  | _ => false

/-- Whether a termination signal has arrived. -/
def signalled (trace : List Event) : Bool :=
  trace.any Event.isSignal

/-- How many signals there are to come for who has not stopped. -/
def pending (trace : List Event) : Nat :=
  (signalled trace).toNat

/-- What holds of every state that a run comes to. -/
structure Sound (trace : List Event) (s : State) : Prop where
  /-- There is a handle that nobody lets go of. -/
  held : s.channel.isAlive 0 = true
  handle : s.ended = false → s.channel.isAlive 1 = true
  ended : s.ended = signalled trace
  receiver : s.loop.receiver = 0
  poller : s.loop.stage ≠ .left → s.channel.Inbox 0 (pending trace)
  waiter : ∀ w, s.stage w ≠ .stopped → s.channel.Inbox w.receiver (pending trace)
  left : s.loop.stage = .left → signalled trace = true
  stopped : ∀ w, s.stage w = .stopped → signalled trace = true

variable {r} {trace more : List Event} {s t u : State} {e : Event}

theorem Reaches.trans (hst : Reaches r s trace t) (htu : Reaches r t more u) :
    Reaches r s (trace ++ more) u := by
  induction htu with
  | refl => rwa [List.append_nil]
  | tail _ hstep ih =>
    rw [← List.append_assoc]
    exact ih.tail hstep

theorem signalled_append (trace more : List Event) :
    signalled (trace ++ more) = (signalled trace || signalled more) :=
  List.any_append

theorem signalled_concat_of_quiet (trace : List Event) (e : Event) (he : e.isSignal = false) :
    signalled (trace ++ [e]) = signalled trace := by
  simp [signalled, he]

namespace Sound

/-- An event that is not the signal says nothing new. -/
theorem concat (hs : Sound trace s) (e : Event) (he : e.isSignal = false) :
    Sound (trace ++ [e]) s := by
  have hsame := signalled_concat_of_quiet trace e he
  have hpending : pending (trace ++ [e]) = pending trace := congrArg Bool.toNat hsame
  exact {
    held := hs.held
    handle := hs.handle
    ended := hs.ended.trans hsame.symm
    receiver := hs.receiver
    poller := hpending ▸ hs.poller
    waiter := hpending ▸ hs.waiter
    left := hsame ▸ hs.left
    stopped := hsame ▸ hs.stopped }

theorem isOpen (hs : Sound trace s) : s.channel.isOpen = true :=
  Channel.isOpen_of_isAlive hs.held

/-- Who has not stopped finds the signal exactly if that has arrived. -/
theorem found (hs : Sound trace s) {i : Nat} (hi : s.channel.Inbox i (pending trace)) :
    (s.channel.receive i).2 = some (if signalled trace then .signal else .empty) := by
  unfold pending at hi
  cases hsignal : signalled trace with
  | false =>
    rw [hsignal] at hi
    rw [hi.receive_none.2, hs.isOpen]
    rfl
  | true =>
    rw [hsignal] at hi
    exact hi.receive_one.2

theorem start : Sound [] .start where
  held := rfl
  handle _ := rfl
  ended := rfl
  receiver := rfl
  poller _ := ⟨0, rfl, rfl⟩
  waiter w _ := by cases w <;> exact ⟨0, rfl, rfl⟩
  left := Poller.Loop.Stage.noConfusion
  stopped _ := Stage.noConfusion

/-- A signal finds nobody when there has been one. -/
theorem signal_again (hs : Sound trace s) (x : SystemSignal) (hended : s.ended = true) :
    Sound (trace ++ [.signal x]) s := by
  have hbefore : signalled trace = true := hs.ended ▸ hended
  have hsame : signalled (trace ++ [.signal x]) = signalled trace := by
    rw [signalled_append, hbefore]
    rfl
  have hpending : pending (trace ++ [.signal x]) = pending trace := congrArg Bool.toNat hsame
  exact {
    held := hs.held
    handle := hs.handle
    ended := hs.ended.trans hsame.symm
    receiver := hs.receiver
    poller := hpending ▸ hs.poller
    waiter := hpending ▸ hs.waiter
    left := hsame ▸ hs.left
    stopped := hsame ▸ hs.stopped }

/-- The first signal comes to everyone. -/
theorem signal_first (hs : Sound trace s) (x : SystemSignal) (hended : s.ended = false) :
    Sound (trace ++ [.signal x])
      { s.withChannel (s.channel.send.dropHandle 1).1 with ended := true } := by
  have hsignalled : signalled (trace ++ [.signal x]) = true := by
    rw [signalled_append]
    exact Bool.or_true _
  have hbefore : pending trace = 0 := by
    rw [pending, ← hs.ended, hended]
    rfl
  have hafter : pending (trace ++ [.signal x]) = 1 := congrArg Bool.toNat hsignalled
  have hinbox : ∀ i, s.channel.Inbox i (pending trace) →
      (s.channel.send.dropHandle 1).1.Inbox i (pending (trace ++ [.signal x])) := by
    intro i hi
    rw [hbefore] at hi
    rw [hafter]
    have hsend : s.channel.use? (.trigger 1) = some s.channel.send := if_pos (hs.handle hended)
    exact (hi.use (u := .trigger 1) nofun hsend).use (u := .dropHandle 1) nofun rfl
  exact {
    held := (Channel.isAlive_dropHandle _ Nat.one_ne_zero).trans
      ((Channel.isAlive_send s.channel 0).trans hs.held)
    handle := Bool.noConfusion
    ended := hsignalled.symm
    receiver := hs.receiver
    poller := fun hstay => hinbox 0 (hs.poller hstay)
    waiter := fun w hw => hinbox w.receiver (hs.waiter w hw)
    left := fun _ => hsignalled
    stopped := fun _ _ => hsignalled }

theorem signal (hs : Sound trace s) (x : SystemSignal) :
    Sound (trace ++ [.signal x]) (s.signal x) := by
  unfold State.signal
  cases hended : s.ended with
  | true => exact hs.signal_again x hended
  | false => exact hs.signal_first x hended

/-- The loop's own steps leave the others alone, as long as it does not leave. -/
theorem loop_stay (hs : Sound trace s) {l : Poller.Loop.State}
    (hchannel : l.channel = s.loop.channel) (hreceiver : l.receiver = s.loop.receiver)
    (hleft : l.stage = .left ↔ s.loop.stage = .left) : Sound trace { s with loop := l } := by
  have hsame : State.channel { s with loop := l } = s.channel := hchannel
  exact {
    held := hsame ▸ hs.held
    handle := hsame ▸ hs.handle
    ended := hs.ended
    receiver := hreceiver.trans hs.receiver
    poller := by
      rw [hsame]
      exact fun hstay => hs.poller fun heq => hstay (hleft.mpr heq)
    waiter := hsame ▸ hs.waiter
    left := fun heq => hs.left (hleft.mp heq)
    stopped := hs.stopped }

/-- The loop leaves with its own receiver only, and only after the signal. -/
theorem loop_leave (hs : Sound trace s) (hawaits : s.loop.stage.Awaits)
    (hfound : (s.loop.channel.receive s.loop.receiver).2 ≠ some .empty) :
    Sound trace { s with loop := s.loop.leave } := by
  have hstay := hawaits.ne_left
  have hsignalled : signalled trace = true := by
    have hreceipt := hs.found (hs.poller hstay)
    rw [hs.receiver] at hfound
    by_contra hquiet
    rw [if_neg hquiet] at hreceipt
    exact hfound hreceipt
  have hleave : State.channel { s with loop := s.loop.leave } =
      ((s.channel.receive 0).1.dropReceiver 0).1 := by
    rw [← hs.receiver]
    rfl
  have halive : ∀ h, (State.channel { s with loop := s.loop.leave }).isAlive h =
      s.channel.isAlive h := by
    intro h
    rw [hleave]
    exact Channel.isAlive_receive s.channel 0 h
  exact {
    held := (halive 0).trans hs.held
    handle := fun hended => (halive 1).trans (hs.handle hended)
    ended := hs.ended
    receiver := hs.receiver
    poller := fun h => absurd rfl h
    waiter := by
      intro w hw
      have hothers : some 0 ≠ some w.receiver := by cases w <;> decide
      rw [hleave]
      exact ((hs.waiter w hw).use (u := .receive 0) hothers rfl).use (u := .dropReceiver 0)
        hothers rfl
    left := fun _ => hsignalled
    stopped := fun _ _ => hsignalled }

theorem loop (hs : Sound trace s) {e : Poller.Loop.Event} {l : Poller.Loop.State}
    (hown : ∀ u, e ≠ .use u) (h : Poller.Loop.Step r s.loop e l) :
    Sound trace { s with loop := l } := by
  rcases h.channel hown with ⟨hchannel, hreceiver, hleft⟩ | ⟨hawaits, hfound, rfl⟩
  · exact hs.loop_stay hchannel hreceiver hleft
  · exact hs.loop_leave hawaits hfound

theorem begin (hs : Sound trace s) (w : Waiter) (hw : s.stage w = .unstarted) :
    Sound trace { s with stage := Function.update s.stage w .listening } := by
  have hstage : ∀ v, Function.update s.stage w .listening v = .stopped ↔ s.stage v = .stopped := by
    intro v
    by_cases hv : v = w
    · simp [hv, hw]
    · simp [hv]
  exact {
    held := hs.held
    handle := hs.handle
    ended := hs.ended
    receiver := hs.receiver
    poller := hs.poller
    waiter := fun v hv => hs.waiter v fun heq => hv ((hstage v).mpr heq)
    left := hs.left
    stopped := fun v hv => hs.stopped v ((hstage v).mp hv) }

/-- A look takes nothing from anyone else. Who finds nothing goes on listening, and who finds
something finds the signal. -/
theorem look (hs : Sound trace s) (w : Waiter) (c : Channel) (found : Receipt)
    (hw : s.stage w = .listening) (hfound : s.channel.receive w.receiver = (c, some found)) :
    Sound trace (s.look w c found) := by
  have hinbox := hs.waiter w (by simp [hw])
  have hreceipt := hs.found hinbox
  rw [hfound, Option.some.injEq] at hreceipt
  obtain rfl : (s.channel.receive w.receiver).1 = c := congrArg Prod.fst hfound
  have hothers : ∀ i, w.receiver ≠ i → s.channel.Inbox i (pending trace) →
      (s.channel.receive w.receiver).1.Inbox i (pending trace) := fun i hne hi =>
    hi.use (u := .receive w.receiver) (fun heq => hne (Option.some.inj heq)) rfl
  exact {
    held := (Channel.isAlive_receive _ _ 0).trans hs.held
    handle := fun hended => (Channel.isAlive_receive _ _ 1).trans (hs.handle hended)
    ended := hs.ended
    receiver := hs.receiver
    poller := fun hstay => hothers 0 (by cases w <;> decide) (hs.poller hstay)
    waiter := by
      intro v hv
      by_cases hvw : v = w
      · subst hvw
        -- it goes on listening, so it found nothing, and there is nothing to come
        have hquiet : signalled trace = false := by
          by_contra hsignalled
          rw [Bool.not_eq_false] at hsignalled
          simp [State.look, hreceipt, hsignalled] at hv
        rw [pending, hquiet] at hinbox ⊢
        exact hinbox.receive_none.1
      · have hstage : s.stage v ≠ .stopped := by
          unfold State.look at hv
          split at hv
          · exact hv
          · simpa [hvw] using hv
        refine hothers v.receiver (fun heq => hvw ?_) (hs.waiter v hstage)
        cases v <;> cases w <;> first | rfl | cases heq
    left := hs.left
    stopped := by
      intro v hv
      unfold State.look at hv
      split at hv
      · exact hs.stopped v hv
      · rename_i hne
        by_contra hquiet
        rw [if_neg hquiet] at hreceipt
        exact hne hreceipt }

/-- Each event keeps what holds of the states of a run. -/
theorem step (hs : Sound trace s) (h : Step r s e t) : Sound (trace ++ [e]) t := by
  cases h with
  | signal x => exact hs.signal x
  | loop e l hown h => exact (hs.concat _ rfl).loop hown h
  | begin w hw => exact (hs.concat _ rfl).begin w hw
  | look w c found hw hfound => exact (hs.concat _ rfl).look w c found hw hfound

theorem reaches (hs : Sound trace s) (h : Reaches r s more t) : Sound (trace ++ more) t := by
  induction h with
  | refl => rwa [List.append_nil]
  | tail _ hstep ih =>
    rw [← List.append_assoc]
    exact ih.step hstep

/-- Once the signal has arrived, the loop can leave where it waits. -/
theorem leave (hs : Sound trace s) (hsignalled : signalled trace = true)
    (hawaits : s.loop.stage.Awaits) : Step r s (.loop .leave) { s with loop := s.loop.leave } := by
  refine .loop s .leave _ (fun _ => Poller.Loop.Event.noConfusion) (.leave s.loop hawaits ?_)
  have hfound := hs.found (hs.poller hawaits.ne_left)
  rw [hsignalled, if_pos rfl, State.channel] at hfound
  rw [hs.receiver, hfound]
  simp

/-- Once the signal has arrived, a waiter that listens stops at its next look. -/
theorem stop (hs : Sound trace s) (hsignalled : signalled trace = true) (w : Waiter)
    (hw : s.stage w = .listening) :
    Step r s (.look w .signal) (s.look w (s.channel.receive w.receiver).1 .signal) := by
  have hfound := hs.found (hs.waiter w (by simp [hw]))
  rw [hsignalled] at hfound
  exact .look s w _ .signal hw (Prod.ext rfl hfound)

end Sound

/-- A pass comes to its end, and then the loop waits. -/
theorem exists_awaits (task : Poller.Task) (hs : s.loop.stage = .passing task) :
    ∃ more t, Reaches r s more t ∧ signalled more = false ∧ t.loop.stage.Awaits ∧
      t.stage = s.stage := by
  induction hlength : task.length using Nat.strongRecOn generalizing s task with
  | ind n ih =>
    have hwork : Reaches r s [.loop .work] { s with loop := s.loop.work r task } :=
      (Reaches.refl s).tail (.loop s .work _ (fun _ => Poller.Loop.Event.noConfusion)
        (.work s.loop task hs))
    rcases hstep : task.step r s.loop.poller with ⟨q, rest⟩
    cases rest with
    | none =>
      have hwaiting : (s.loop.work r task).stage = .waiting := by
        simp only [Poller.Loop.State.work, hstep]
      refine ⟨_, _, hwork, rfl, ?_, rfl⟩
      rw [hwaiting]
      trivial
    | some u =>
      have hpassing : (s.loop.work r task).stage = .passing u := by
        simp only [Poller.Loop.State.work, hstep]
      have hless : u.length < n := hlength ▸ task.length_step r u s.loop.poller q hstep
      obtain ⟨more, t, hreaches, hquiet, hawaits, hstage⟩ :=
        ih u.length hless (s := { s with loop := s.loop.work r task }) u hpassing rfl
      exact ⟨_, t, hwork.trans hreaches, by rw [signalled_append, hquiet]; rfl, hawaits, hstage⟩

/-- Once the signal has arrived, the poller can leave without anyone else's doing. -/
theorem Sound.exists_left (hs : Sound trace s) (hsignalled : signalled trace = true) :
    ∃ more t, Reaches r s more t ∧ signalled more = false ∧ t.loop.stage = .left ∧
      t.stage = s.stage := by
  have hleaves : ∀ more t, Reaches r s more t → signalled more = false → t.loop.stage.Awaits →
      t.stage = s.stage → ∃ more t, Reaches r s more t ∧ signalled more = false ∧
        t.loop.stage = .left ∧ t.stage = s.stage := by
    intro more t hreaches hquiet hawaits hstage
    have hthere : signalled (trace ++ more) = true := by rw [signalled_append, hsignalled]; rfl
    refine ⟨_, _, hreaches.tail ((hs.reaches hreaches).leave hthere hawaits), ?_, rfl, hstage⟩
    rw [signalled_append, hquiet]
    rfl
  cases hloop : s.loop.stage with
  | waiting | ticked | fetching =>
    exact hleaves [] s (.refl s) rfl (by rw [hloop]; trivial) rfl
  | passing task =>
    obtain ⟨more, t, hreaches, hquiet, hawaits, hstage⟩ := exists_awaits task hloop
    exact hleaves more t hreaches hquiet hawaits hstage
  | left => exact ⟨[], s, .refl s, rfl, hloop, rfl⟩

/-- Once the signal has arrived, a waiter can stop without anyone else's doing. -/
theorem Sound.exists_stopped (hs : Sound trace s) (hsignalled : signalled trace = true)
    (w : Waiter) :
    ∃ more t, Reaches r s more t ∧ signalled more = false ∧ t.stage w = .stopped ∧
      t.loop.stage = s.loop.stage ∧ ∀ v, s.stage v = .stopped → t.stage v = .stopped := by
  cases hw : s.stage w with
  | stopped => exact ⟨[], s, .refl s, rfl, hw, rfl, fun _ => id⟩
  | listening =>
    refine ⟨_, _, (Reaches.refl s).tail (hs.stop hsignalled w hw), rfl, ?_, rfl, ?_⟩
    · simp [State.look]
    · intro v hv
      by_cases hvw : v = w <;> simp [State.look, hvw, hv]
  | unstarted =>
    have hbegin : Step r s (.begin w) _ := .begin s w hw
    have hthere : signalled (trace ++ [.begin w]) = true := by
      rw [signalled_append, hsignalled]
      rfl
    have hlook := (hs.step hbegin).stop (r := r) hthere w (by simp)
    refine ⟨_, _, ((Reaches.refl s).tail hbegin).tail hlook, rfl, ?_, rfl, ?_⟩
    · simp [State.look]
    · intro v hv
      by_cases hvw : v = w <;> simp [State.look, hvw, hv]

/-- What the three who wait may rely on. -/
structure Guarantees (r : Renderer Id) (trace : List Event) (s : State) : Prop where
  /-- Until it has left, the poller finds the signal when it looks exactly if that has arrived. -/
  poller : s.loop.stage ≠ .left → (s.channel.receive s.loop.receiver).2 =
    some (if signalled trace then .signal else .empty)
  /-- So does everyone else who waits, started or not. -/
  waiter : ∀ w, s.stage w ≠ .stopped → (s.channel.receive w.receiver).2 =
    some (if signalled trace then .signal else .empty)
  /-- Nobody stops without the signal. -/
  stopped : (s.loop.stage = .left ∨ ∃ w, s.stage w = .stopped) → signalled trace = true
  /-- After one signal all of them can stop, without another one. -/
  stops : signalled trace = true → ∃ more t, Reaches r s more t ∧ signalled more = false ∧
    t.loop.stage = .left ∧ ∀ w, t.stage w = .stopped

theorem Sound.guarantees (hs : Sound trace s) : Guarantees r trace s where
  poller hstay := by
    rw [hs.receiver]
    exact hs.found (hs.poller hstay)
  waiter w hw := hs.found (hs.waiter w hw)
  stopped := by
    rintro (hleft | ⟨w, hw⟩)
    · exact hs.left hleft
    · exact hs.stopped w hw
  stops := by
    intro hsignalled
    have hstill : ∀ more, signalled (trace ++ more) = true := by
      intro more
      rw [signalled_append, hsignalled]
      rfl
    obtain ⟨first, s₁, hreaches₁, hquiet₁, hleft₁, -⟩ := hs.exists_left hsignalled
    have hs₁ := hs.reaches hreaches₁
    obtain ⟨second, s₂, hreaches₂, hquiet₂, hidle₂, hloop₂, -⟩ :=
      hs₁.exists_stopped (r := r) (hstill first) .idle
    have hs₂ := hs₁.reaches hreaches₂
    rw [List.append_assoc] at hs₂
    obtain ⟨third, s₃, hreaches₃, hquiet₃, hserver₃, hloop₃, hkept₃⟩ :=
      hs₂.exists_stopped (r := r) (hstill (first ++ second)) .server
    refine ⟨_, s₃, (hreaches₁.trans hreaches₂).trans hreaches₃, ?_, ?_, ?_⟩
    · rw [signalled_append, signalled_append, hquiet₁, hquiet₂, hquiet₃]
      rfl
    · rw [hloop₃, hloop₂, hleft₁]
    · intro w
      cases w with
      | idle => exact hkept₃ .idle hidle₂
      | server => exact hserver₃

/-- No signal is lost. On any channel a receiver has to come what was sent since it subscribed, less
what it used up; and in a run that serves, in whatever order signals arrive and tasks start, nobody
is left without the signal. -/
theorem no_signal_lost :
    (∀ (trace : List Channel.Event) (c : Channel), Channel.Reaches .opened trace c →
      c.isOpen = true → Channel.Law trace c) ∧
    ∀ (r : Renderer Id) (trace : List Event) (s : State), Reaches r .start trace s →
      Guarantees r trace s := by
  constructor
  · intro trace c h hopen
    exact (Channel.Sound.of_reaches h).law hopen
  · intro r trace s h
    exact (Sound.start.reaches h).guarantees

/-- Two signals through two handles, the second of which replaces the first; and a run whose signal
comes before anyone has started, so that the poller drops its first fetch. -/
theorem no_signal_lost_before_start :
    let uses : List Channel.Event :=
      [.subscribe 0 0, .clone 0 1, .trigger 1, .trigger 0, .receive 0 (.lagged 1),
        .receive 0 .signal, .subscribe 1 1]
    let trace : List Event :=
      [.signal .term, .begin .server, .look .server .signal, .loop .tick, .loop .begin,
        .loop .leave]
    (∃ c, Channel.Reaches .opened uses c ∧ c.isOpen = true ∧ c.receiverCount = 2 ∧
      Channel.Law uses c) ∧
    ∃ s, Reaches .html .start trace s ∧ s.loop.stage = .left ∧ Guarantees .html trace s := by
  intro uses trace
  have hchannel : Channel.Reaches .opened uses ⟨2, [true, true], [some ⟨2⟩, some ⟨2⟩]⟩ :=
    Channel.Reaches.refl .opened
      |>.tail (.subscribe _ ⟨0, [true], [some ⟨0⟩]⟩ 0 0 rfl)
      |>.tail (.clone _ ⟨0, [true, true], [some ⟨0⟩]⟩ 0 1 rfl rfl)
      |>.tail (.trigger _ ⟨1, [true, true], [some ⟨0⟩]⟩ 1 rfl)
      |>.tail (.trigger _ ⟨2, [true, true], [some ⟨0⟩]⟩ 0 rfl)
      |>.tail (.receive _ ⟨2, [true, true], [some ⟨1⟩]⟩ 0 (.lagged 1) rfl)
      |>.tail (.receive _ ⟨2, [true, true], [some ⟨2⟩]⟩ 0 .signal rfl)
      |>.tail (.subscribe _ _ 1 1 rfl)
  have hrun := Reaches.refl (r := .html) .start
    |>.tail (.signal _ .term) |>.tail (.begin _ .server rfl)
    |>.tail (.look _ .server _ .signal rfl rfl)
    |>.tail (.loop _ _ _ (fun _ => Poller.Loop.Event.noConfusion) (.tick _ rfl rfl))
    |>.tail (.loop _ _ _ (fun _ => Poller.Loop.Event.noConfusion) (.begin _ rfl))
    |>.tail (.loop _ _ _ (fun _ => Poller.Loop.Event.noConfusion)
      (.leave _ trivial (by decide)))
  exact ⟨⟨_, hchannel, rfl, rfl, no_signal_lost.1 uses _ hchannel rfl⟩,
    _, hrun, rfl, no_signal_lost.2 .html trace _ hrun⟩

end Program.Stopping

end StatusBoard
