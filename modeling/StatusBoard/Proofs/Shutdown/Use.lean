import StatusBoard.Shutdown.Channel

/-!
What the holders of handles and receivers do with a channel, and what one receiver among them
notices. A receiver that nobody else touches keeps its place: it finds something exactly when a
signal was sent since, or when the last handle is gone.
-/
namespace StatusBoard.Channel

/-- One use of a channel, through a handle or a receiver. -/
inductive Use where
  | subscribe (handle : Nat)
  | clone (handle : Nat)
  | trigger (handle : Nat)
  | dropHandle (handle : Nat)
  | receive (receiver : Nat)
  | dropReceiver (receiver : Nat)
deriving DecidableEq, Repr

/-- The receiver that a use is about, if it is about one. -/
def Use.receiver? : Use → Option Nat
  | .receive i => some i
  | .dropReceiver i => some i
  | _ => none

/-- The channel after a use; none if there is no handle to trigger with. -/
def use? (c : Channel) : Use → Option Channel
  | .subscribe h => some (c.subscribe h).1
  | .clone h => some (c.clone h).1
  | .trigger h => c.trigger? h
  | .dropHandle h => some (c.dropHandle h).1
  | .receive i => some (c.receive i).1
  | .dropReceiver i => some (c.dropReceiver i).1

/-- The receiver of a number waits for the signal of a number. -/
def Waits (c : Channel) (i next : Nat) : Prop :=
  c.receivers[i]? = some (some ⟨next⟩)

theorem waits_subscribe (c : Channel) (h : Nat) (halive : c.isAlive h = true) :
    (c.subscribe h).1.Waits c.receivers.length c.sent := by
  simp [subscribe, halive, Waits]

theorem receiverCount_pos_of_waits (c : Channel) (i next : Nat) (hi : c.Waits i next) :
    0 < c.receiverCount :=
  List.countP_pos_iff.mpr ⟨some ⟨next⟩, List.mem_of_getElem? hi, rfl⟩

/-- With a receiver waiting, a trigger is counted. -/
theorem trigger?_eq_some_iff (c d : Channel) (h i next : Nat) (hi : c.Waits i next) :
    c.trigger? h = some d ↔ c.isAlive h = true ∧ d = { c with sent := c.sent + 1 } := by
  have hpos : c.receiverCount ≠ 0 := Nat.ne_of_gt (receiverCount_pos_of_waits c i next hi)
  have hsend : c.send = { c with sent := c.sent + 1 } := by rw [send, if_neg hpos]
  rw [trigger?, hsend]
  split
  · rename_i halive
    simp [halive, eq_comm]
  · rename_i halive
    simp [halive]

theorem receivers_receive (c : Channel) (i k : Nat) (hne : i ≠ k) :
    (c.receive i).1.receivers[k]? = c.receivers[k]? := by
  unfold receive
  split
  · rfl
  · exact List.getElem?_set_ne hne

theorem sent_receive (c : Channel) (i : Nat) : (c.receive i).1.sent = c.sent := by
  unfold receive
  split <;> rfl

theorem handles_receive (c : Channel) (i : Nat) : (c.receive i).1.handles = c.handles := by
  unfold receive
  split <;> rfl

/-- What others do leaves a receiver waiting where it waits, and only triggers count on. -/
theorem waits_use {c d : Channel} {u : Use} {i next : Nat} (hi : c.Waits i next)
    (hu : u.receiver? ≠ some i) (hd : c.use? u = some d) :
    d.Waits i next ∧
      d.sent = match u with
        | .trigger _ => c.sent + 1
        | _ => c.sent := by
  have hlt : i < c.receivers.length := (List.getElem?_eq_some_iff.mp hi).1
  cases u with
  | subscribe h =>
    simp only [use?, subscribe, Option.some.injEq] at hd
    subst hd
    split
    · exact ⟨(List.getElem?_append_left hlt).trans hi, rfl⟩
    · exact ⟨hi, rfl⟩
  | clone h =>
    simp only [use?, clone, Option.some.injEq] at hd
    subst hd
    exact ⟨hi, rfl⟩
  | trigger h =>
    obtain ⟨-, rfl⟩ := (trigger?_eq_some_iff c d h i next hi).mp hd
    exact ⟨hi, rfl⟩
  | dropHandle h =>
    simp only [use?, dropHandle, Option.some.injEq] at hd
    subst hd
    exact ⟨hi, rfl⟩
  | receive k =>
    have hne : k ≠ i := fun heq => hu (congrArg some heq)
    simp only [use?, Option.some.injEq] at hd
    subst hd
    exact ⟨(receivers_receive c k i hne).trans hi, sent_receive c k⟩
  | dropReceiver k =>
    have hne : k ≠ i := fun heq => hu (congrArg some heq)
    simp only [use?, dropReceiver, Option.some.injEq] at hd
    subst hd
    exact ⟨(List.getElem?_set_ne hne).trans hi, rfl⟩

/-- A channel without handles does not get one again. -/
theorem isOpen_use {c d : Channel} {u : Use} (hclosed : c.isOpen = false)
    (hd : c.use? u = some d) : d.isOpen = false := by
  have hdead : ∀ h, c.isAlive h = false := by
    intro h
    simp only [isOpen, List.any_eq_false, id_eq, Bool.not_eq_true] at hclosed
    rw [isAlive, List.getD_eq_getElem?_getD]
    cases hh : c.handles[h]? with
    | none => rfl
    | some alive => exact hclosed alive (List.mem_of_getElem? hh)
  cases u with
  | subscribe h =>
    simp only [use?, subscribe, hdead, Bool.false_eq_true, if_false, Option.some.injEq] at hd
    rwa [← hd]
  | clone h =>
    simp only [use?, clone, hdead, Option.some.injEq] at hd
    subst hd
    simpa [isOpen] using hclosed
  | trigger h => simp [use?, trigger?, hdead] at hd
  | dropHandle h =>
    simp only [use?, dropHandle, Option.some.injEq] at hd
    subst hd
    simp only [isOpen, List.any_eq_false, id_eq, Bool.not_eq_true] at hclosed ⊢
    intro alive halive
    rcases List.mem_or_eq_of_mem_set halive with hold | rfl
    · exact hclosed alive hold
    · rfl
  | receive i =>
    simp only [use?, Option.some.injEq] at hd
    rw [← hd, isOpen, handles_receive]
    exact hclosed
  | dropReceiver i =>
    simp only [use?, dropReceiver, Option.some.injEq] at hd
    rwa [← hd]

/-- A receiver finds something exactly when a signal came or none can come any more. -/
theorem receive_eq_empty_iff (c : Channel) (i next : Nat) (hi : c.Waits i next)
    (hle : next ≤ c.sent) :
    (c.receive i).2 = some .empty ↔ ¬ (next < c.sent ∨ c.isOpen = false) := by
  have hget : c.receivers.getD i none = some ⟨next⟩ := by
    rw [List.getD_eq_getElem?_getD, hi]
    rfl
  simp only [receive, hget, Option.some.injEq, look]
  by_cases hsame : next = c.sent
  · cases hopen : c.isOpen <;> simp [hsame]
  · have hlt : next < c.sent := Nat.lt_of_le_of_ne hle hsame
    simp only [hsame, if_false, hlt, true_or, not_true_eq_false, iff_false]
    split <;> simp

end StatusBoard.Channel
