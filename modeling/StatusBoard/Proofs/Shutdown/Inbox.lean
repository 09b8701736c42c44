import Mathlib.Algebra.Ring.Nat
import Mathlib.Data.List.Basic
import StatusBoard.Proofs.Shutdown.Use

/-!
What each receiver of a channel still has to come. The channel keeps one signal and a receiver keeps
only its place, yet nobody loses count: however subscribing, cloning, triggering, looking and
dropping are interleaved, a receiver has as many signals to come as were sent since it subscribed,
less those it found or was told it missed. What was sent before is nothing to it.
-/
namespace StatusBoard

/-- How many signals a receipt accounts for. -/
def Receipt.consumed : Receipt → Nat
  | .signal => 1
  | .lagged missed => missed
  | .empty | .closed => 0

namespace Channel

/-- A use that was possible, and what came of it. -/
inductive Event where
  | subscribe (handle receiver : Nat)
  | clone (handle copy : Nat)
  | trigger (handle : Nat)
  | dropHandle (handle : Nat)
  | receive (receiver : Nat) (found : Receipt)
  | dropReceiver (receiver : Nat)
deriving DecidableEq, Repr

def Use.isTrigger : Use → Bool
  | .trigger _ => true
  | _ => false

namespace Event

def use : Event → Use
  | .subscribe h _ => .subscribe h
  | .clone h _ => .clone h
  | .trigger h => .trigger h
  | .dropHandle h => .dropHandle h
  | .receive i _ => .receive i
  | .dropReceiver i => .dropReceiver i

def isTrigger (e : Event) : Bool :=
  e.use.isTrigger

/-- How many signals a receiver uses up. -/
def consumedBy (i : Nat) : Event → Nat
  | .receive k found => if k = i then found.consumed else 0
  | _ => 0

end Event

inductive Step : Channel → Event → Channel → Prop
  | subscribe (c d : Channel) (h i : Nat) (hc : c.subscribe h = (d, some i)) :
      Step c (.subscribe h i) d
  | clone (c d : Channel) (h k : Nat) (halive : c.isAlive h = true) (hc : c.clone h = (d, k)) :
      Step c (.clone h k) d
  | trigger (c d : Channel) (h : Nat) (hc : c.trigger? h = some d) : Step c (.trigger h) d
  | dropHandle (c d : Channel) (h : Nat) (hc : c.dropHandle h = (d, true)) :
      Step c (.dropHandle h) d
  | receive (c d : Channel) (i : Nat) (found : Receipt) (hc : c.receive i = (d, some found)) :
      Step c (.receive i found) d
  | dropReceiver (c d : Channel) (i : Nat) (hc : c.dropReceiver i = (d, true)) :
      Step c (.dropReceiver i) d

inductive Reaches : Channel → List Event → Channel → Prop
  | refl (c : Channel) : Reaches c [] c
  | tail {c d f : Channel} {trace : List Event} {e : Event} :
      Reaches c trace d → Step d e f → Reaches c (trace ++ [e]) f

/-- How many signals were sent. -/
def triggers (trace : List Event) : Nat :=
  trace.countP Event.isTrigger

/-- How many signals a receiver used up. -/
def consumed (i : Nat) (trace : List Event) : Nat :=
  (trace.map (Event.consumedBy i)).sum

/-- A receiver subscribed and was not dropped; what happened after that. -/
def Since (trace : List Event) (i : Nat) (after : List Event) : Prop :=
  ∃ before handle, trace = before ++ .subscribe handle i :: after ∧ .dropReceiver i ∉ after

/-- A receiver with so many signals to come. -/
def Inbox (c : Channel) (i pending : Nat) : Prop :=
  ∃ next, c.Waits i next ∧ c.sent = next + pending

/-- What a receiver finds that has so many signals to come: none, and it stays without one; one, and
it gets that; several, and it learns how many it missed before it gets the newest. -/
structure Finds (c : Channel) (i pending : Nat) : Prop where
  waits_iff : (c.receive i).2 = some .empty ↔ pending = 0
  one : pending = 1 → (c.receive i).2 = some .signal
  several : 1 < pending → (c.receive i).2 = some (.lagged (pending - 1)) ∧
    ((c.receive i).1.receive i).2 = some .signal

variable {c d : Channel} {e : Event} {i n : Nat} {trace : List Event}

theorem Step.use? (h : Step c e d) : c.use? e.use = some d := by
  cases h with
  | subscribe _ h i hc => exact congrArg (some ·.1) hc
  | clone _ h k _ hc => exact congrArg (some ·.1) hc
  | trigger _ h hc => exact hc
  | dropHandle _ h hc => exact congrArg (some ·.1) hc
  | receive _ i found hc => exact congrArg (some ·.1) hc
  | dropReceiver _ i hc => exact congrArg (some ·.1) hc

theorem isAlive_send (c : Channel) (h : Nat) : c.send.isAlive h = c.isAlive h := by
  unfold send
  split <;> rfl

theorem isAlive_receive (c : Channel) (i h : Nat) : (c.receive i).1.isAlive h = c.isAlive h :=
  congrArg (·.getD h false) (handles_receive c i)

theorem isAlive_dropHandle (c : Channel) {h k : Nat} (hne : k ≠ h) :
    (c.dropHandle k).1.isAlive h = c.isAlive h := by
  simp only [isAlive, dropHandle, List.getD_eq_getElem?_getD, List.getElem?_set_ne hne]

theorem isOpen_of_isAlive {h : Nat} (halive : c.isAlive h = true) : c.isOpen = true := by
  rw [isAlive, List.getD_eq_getElem?_getD, Option.getD_eq_iff] at halive
  simp only [Bool.false_eq_true, and_false, or_false] at halive
  exact List.any_eq_true.mpr ⟨true, List.mem_of_getElem? halive, rfl⟩

theorem subscribe_eq_some_iff (c d : Channel) (h i : Nat) :
    c.subscribe h = (d, some i) ↔
      c.isAlive h = true ∧ i = c.receivers.length ∧
        d = { c with receivers := c.receivers ++ [some ⟨c.sent⟩] } := by
  unfold subscribe
  split
  · rename_i halive
    simp [halive, eq_comm, and_comm]
  · rename_i halive
    simp [halive]

theorem receive_of_look (c : Channel) (i next later m : Nat) (found : Receipt)
    (hi : c.Waits i next) (hlook : c.look ⟨next⟩ = (⟨later⟩, found)) (hsent : c.sent = later + m) :
    (c.receive i).1.Inbox i m ∧ (c.receive i).2 = some found := by
  have hlt : i < c.receivers.length := (List.getElem?_eq_some_iff.mp hi).1
  have hget : c.receivers.getD i none = some ⟨next⟩ := by
    rw [List.getD_eq_getElem?_getD, hi]
    rfl
  have hreceive : c.receive i =
      ({ c with receivers := c.receivers.set i (some ⟨later⟩) }, some found) := by
    simp only [receive, hget, hlook]
  rw [hreceive]
  exact ⟨⟨later, List.getElem?_set_self hlt, hsent⟩, rfl⟩

namespace Inbox

theorem receive_none (hi : c.Inbox i 0) :
    (c.receive i).1.Inbox i 0 ∧
      (c.receive i).2 = some (if c.isOpen then .empty else .closed) := by
  obtain ⟨next, hwaits, hsent⟩ := hi
  have hsame : next = c.sent := hsent.symm
  refine receive_of_look c i next next 0 _ hwaits ?_ hsent
  rw [look, if_pos hsame]

theorem receive_one (hi : c.Inbox i 1) :
    (c.receive i).1.Inbox i 0 ∧ (c.receive i).2 = some .signal := by
  obtain ⟨next, hwaits, hsent⟩ := hi
  have hmore : next ≠ c.sent := by omega
  have hkept : ¬ next + capacity < c.sent := by simp only [capacity]; omega
  refine receive_of_look c i next (next + 1) 0 _ hwaits ?_ hsent
  rw [look, if_neg hmore, if_neg hkept]

/-- All but the newest signal are lost, and counted. -/
theorem receive_several (hi : c.Inbox i (n + 2)) :
    (c.receive i).1.Inbox i 1 ∧ (c.receive i).2 = some (.lagged (n + 1)) := by
  obtain ⟨next, hwaits, hsent⟩ := hi
  have hmore : next ≠ c.sent := by omega
  have hlost : next + capacity < c.sent := by simp only [capacity]; omega
  have hnewest : c.sent - capacity = next + (n + 1) := by simp only [capacity]; omega
  refine receive_of_look c i next (next + (n + 1)) 1 _ hwaits ?_ (by omega)
  rw [look, if_neg hmore, if_pos hlost, hnewest, Nat.add_sub_cancel_left]

/-- A receipt takes what it accounts for out of the signals to come. -/
theorem receive (hi : c.Inbox i n) :
    ∃ m found, (c.receive i).2 = some found ∧ (c.receive i).1.Inbox i m ∧
      found.consumed + m = n := by
  match n with
  | 0 =>
    obtain ⟨hlater, hfound⟩ := hi.receive_none
    refine ⟨0, _, hfound, hlater, ?_⟩
    cases c.isOpen <;> rfl
  | 1 =>
    obtain ⟨hlater, hfound⟩ := hi.receive_one
    exact ⟨0, _, hfound, hlater, rfl⟩
  | n + 2 =>
    obtain ⟨hlater, hfound⟩ := hi.receive_several
    exact ⟨1, _, hfound, hlater, rfl⟩

theorem finds (hi : c.Inbox i n) (hopen : c.isOpen = true) : c.Finds i n := by
  match n with
  | 0 =>
    have hfound := hi.receive_none.2
    rw [hopen, if_pos rfl] at hfound
    exact ⟨by simp [hfound], by simp, by simp⟩
  | 1 =>
    have hfound := hi.receive_one.2
    exact ⟨by simp [hfound], fun _ => hfound, by simp⟩
  | n + 2 =>
    obtain ⟨hlater, hfound⟩ := hi.receive_several
    exact ⟨by simp [hfound], by simp, fun _ => ⟨hfound, hlater.receive_one.2⟩⟩

theorem subscribe (c : Channel) (h : Nat) (halive : c.isAlive h = true) :
    (c.subscribe h).1.Inbox c.receivers.length 0 :=
  ⟨c.sent, waits_subscribe c h halive, by simp [Channel.subscribe, halive]⟩

/-- What others do leaves the signals to come as they are, but for one more with each trigger. -/
theorem use {u : Use} (hi : c.Inbox i n) (hothers : u.receiver? ≠ some i)
    (hd : c.use? u = some d) : d.Inbox i (n + if u.isTrigger then 1 else 0) := by
  obtain ⟨next, hwaits, hsent⟩ := hi
  obtain ⟨hlater, hcount⟩ := waits_use hwaits hothers hd
  refine ⟨next, hlater, ?_⟩
  rw [hcount, ← Nat.add_assoc, ← hsent]
  cases u <;> rfl

/-- Every step keeps the account of a receiver that it does not drop. -/
theorem step (hi : c.Inbox i n) (h : Step c e d) (hkept : e ≠ .dropReceiver i) :
    ∃ m, d.Inbox i m ∧ e.consumedBy i + m = n + if e.isTrigger then 1 else 0 := by
  by_cases hown : e.use.receiver? = some i
  · cases h with
    | receive _ k found hc =>
      obtain rfl := Option.some.inj hown
      obtain ⟨m, receipt, hfound, hm, hsum⟩ := hi.receive
      rw [hc] at hfound hm
      cases hfound
      refine ⟨m, hm, ?_⟩
      simpa [Event.consumedBy, Event.isTrigger, Event.use, Use.isTrigger] using hsum
    | dropReceiver => exact absurd (congrArg Event.dropReceiver (Option.some.inj hown)) hkept
    | subscribe | clone | trigger | dropHandle => cases hown
  · have hnone : e.consumedBy i = 0 := by
      cases e with
      | receive k found => exact if_neg fun hk => hown (congrArg some hk)
      | _ => rfl
    exact ⟨_, hi.use hown h.use?, by rw [hnone, Nat.zero_add]; rfl⟩

end Inbox

theorem triggers_concat (trace : List Event) (e : Event) :
    triggers (trace ++ [e]) = triggers trace + if e.isTrigger then 1 else 0 := by
  simp [triggers, List.countP_append, List.countP_singleton]

theorem consumed_concat (i : Nat) (trace : List Event) (e : Event) :
    consumed i (trace ++ [e]) = consumed i trace + e.consumedBy i := by
  simp [consumed]

theorem since_concat {after : List Event} :
    Since (trace ++ [e]) i after ↔
      (after = [] ∧ ∃ handle, e = .subscribe handle i) ∨
        ∃ earlier, Since trace i earlier ∧ e ≠ .dropReceiver i ∧ after = earlier ++ [e] := by
  constructor
  · rintro ⟨before, handle, htrace, hkept⟩
    rcases List.eq_nil_or_concat after with rfl | ⟨earlier, last, rfl⟩
    · obtain ⟨-, hlast⟩ := List.append_inj' htrace rfl
      exact Or.inl ⟨rfl, handle, List.singleton_inj.mp hlast⟩
    · rw [List.concat_eq_append] at htrace hkept ⊢
      rw [← List.cons_append, ← List.append_assoc] at htrace
      obtain ⟨hbefore, hlast⟩ := List.append_inj' htrace rfl
      obtain rfl := List.singleton_inj.mp hlast
      simp only [List.mem_append, List.mem_singleton, not_or] at hkept
      exact Or.inr ⟨earlier, ⟨before, handle, hbefore, hkept.1⟩, Ne.symm hkept.2, rfl⟩
  · rintro (⟨rfl, handle, rfl⟩ | ⟨earlier, ⟨before, handle, rfl, hkept⟩, hne, rfl⟩)
    · exact ⟨trace, handle, rfl, List.not_mem_nil⟩
    · refine ⟨before, handle, by simp, ?_⟩
      simp only [List.mem_append, List.mem_singleton, not_or]
      exact ⟨hkept, Ne.symm hne⟩

/-- A receiver is there after a step only if it was there before and not dropped, or is new. -/
theorem Step.exists_waits (h : Step c e d) {next : Nat} (hd : d.Waits i next) :
    (∃ handle, e = .subscribe handle i) ∨ (∃ earlier, c.Waits i earlier) ∧ e ≠ .dropReceiver i := by
  cases h with
  | subscribe _ h k hc =>
    obtain ⟨-, rfl, rfl⟩ := (subscribe_eq_some_iff _ _ _ _).mp hc
    rcases Nat.lt_trichotomy i c.receivers.length with hlt | rfl | hgt
    · exact Or.inr ⟨⟨next, (List.getElem?_append_left hlt).symm.trans hd⟩, by simp⟩
    · exact Or.inl ⟨_, rfl⟩
    · have hnone : (c.receivers ++ [some ⟨c.sent⟩])[i]? = none :=
        List.getElem?_eq_none (by rw [List.length_append]; exact hgt)
      rw [Waits, hnone] at hd
      cases hd
  | clone _ h k _ hc =>
    obtain ⟨rfl, -⟩ := Prod.mk.inj hc
    exact Or.inr ⟨⟨next, hd⟩, by simp⟩
  | trigger _ h hc =>
    unfold trigger? send at hc
    split at hc
    · obtain rfl := Option.some.inj hc
      refine Or.inr ⟨⟨next, ?_⟩, by simp⟩
      split at hd <;> exact hd
    · cases hc
  | dropHandle _ h hc =>
    obtain ⟨rfl, -⟩ := Prod.mk.inj hc
    exact Or.inr ⟨⟨next, hd⟩, by simp⟩
  | receive _ k found hc =>
    refine Or.inr ⟨?_, by simp⟩
    have hreceivers : d = (c.receive k).1 := by rw [hc]
    by_cases hk : k = i
    · subst hk
      unfold Channel.receive at hc
      split at hc
      · cases hc
      · rename_i r hr
        rw [List.getD_eq_getElem?_getD, Option.getD_eq_iff] at hr
        simp only [and_false, reduceCtorEq, or_false] at hr
        exact ⟨r.next, hr⟩
    · rw [Waits, hreceivers, receivers_receive c k i hk] at hd
      exact ⟨next, hd⟩
  | dropReceiver _ k hc =>
    obtain ⟨rfl, -⟩ := Prod.mk.inj hc
    have hk : k ≠ i := by
      rintro rfl
      have hgone : (c.receivers.set k none)[k]? = some (some ⟨next⟩) := hd
      simp only [List.getElem?_set, if_true] at hgone
      split at hgone <;> simp at hgone
    exact Or.inr ⟨⟨next, (List.getElem?_set_ne hk).symm.trans hd⟩, by simpa using hk⟩

/-- What holds of every channel that a run leads to. -/
structure Sound (trace : List Event) (c : Channel) : Prop where
  inbox : ∀ i after, Since trace i after →
    ∃ n, c.Inbox i n ∧ consumed i after + n = triggers after
  lives : ∀ i next, c.Waits i next → ∃ after, Since trace i after

namespace Sound

theorem opened : Sound [] .opened where
  inbox := by
    rintro i after ⟨before, handle, htrace, -⟩
    simp at htrace
  lives := by
    intro i next hi
    simp [Waits, Channel.opened] at hi

theorem step (hc : Sound trace c) (h : Step c e d) : Sound (trace ++ [e]) d where
  inbox := by
    intro i after hsince
    rcases since_concat.mp hsince with ⟨rfl, handle, rfl⟩ | ⟨earlier, hbefore, hkept, rfl⟩
    · cases h with
      | subscribe _ _ _ heq =>
        obtain ⟨halive, rfl, -⟩ := (subscribe_eq_some_iff _ _ _ _).mp heq
        have hnew := Inbox.subscribe c handle halive
        rw [heq] at hnew
        exact ⟨0, hnew, rfl⟩
    · obtain ⟨n, hn, hsum⟩ := hc.inbox i earlier hbefore
      obtain ⟨m, hm, hstep⟩ := hn.step h hkept
      refine ⟨m, hm, ?_⟩
      rw [triggers_concat, consumed_concat]
      omega
  lives := by
    intro i next hi
    rcases h.exists_waits hi with ⟨handle, rfl⟩ | ⟨⟨earlier, hearlier⟩, hkept⟩
    · exact ⟨[], since_concat.mpr (Or.inl ⟨rfl, handle, rfl⟩)⟩
    · obtain ⟨after, hafter⟩ := hc.lives i earlier hearlier
      exact ⟨after ++ [e], since_concat.mpr (Or.inr ⟨after, hafter, hkept, rfl⟩)⟩

theorem of_reaches (h : Reaches .opened trace c) : Sound trace c := by
  induction h with
  | refl => exact opened
  | tail _ hstep ih => exact ih.step hstep

/-- The receivers that are counted are those that subscribed and were not dropped. -/
theorem exists_live (hc : Sound trace c) :
    ∃ live : List Nat, live.Nodup ∧ (∀ i, i ∈ live ↔ ∃ after, Since trace i after) ∧
      c.receiverCount = live.length := by
  refine ⟨c.receivers.findIdxs (·.isSome), List.nodup_findIdxs, ?_, ?_⟩
  · intro i
    rw [List.mem_findIdxs_iff_exists_getElem_pos]
    constructor
    · rintro ⟨hlt, hsome⟩
      obtain ⟨r, hr⟩ := Option.isSome_iff_exists.mp hsome
      exact hc.lives i r.next (List.getElem?_eq_some_iff.mpr ⟨hlt, hr⟩)
    · rintro ⟨after, hafter⟩
      obtain ⟨n, ⟨next, hwaits, -⟩, -⟩ := hc.inbox i after hafter
      obtain ⟨hlt, hget⟩ := List.getElem?_eq_some_iff.mp hwaits
      exact ⟨hlt, by rw [hget]; rfl⟩
  · exact List.length_findIdxs.symm

end Sound

/-- What the users of a channel may rely on while there is a handle. -/
structure Law (trace : List Event) (c : Channel) : Prop where
  /-- A receiver uses up no more than what was sent since it subscribed. -/
  none_earlier : ∀ i after, Since trace i after → consumed i after ≤ triggers after
  /-- The rest is what it has to come. -/
  finds : ∀ i after, Since trace i after → c.Finds i (triggers after - consumed i after)
  counts : ∃ live : List Nat, live.Nodup ∧ (∀ i, i ∈ live ↔ ∃ after, Since trace i after) ∧
    c.receiverCount = live.length

theorem Sound.law (hc : Sound trace c) (hopen : c.isOpen = true) : Law trace c where
  none_earlier := by
    intro i after hsince
    obtain ⟨n, -, hsum⟩ := hc.inbox i after hsince
    omega
  finds := by
    intro i after hsince
    obtain ⟨n, hn, hsum⟩ := hc.inbox i after hsince
    have hrest : triggers after - consumed i after = n := by omega
    rw [hrest]
    exact hn.finds hopen
  counts := hc.exists_live

end Channel

end StatusBoard
