import StatusBoard.Proofs.Board.Order
import StatusBoard.Proofs.Poller.Loop
import StatusBoard.Server.Document

/-!
Readers beside the poller's loop. A handler takes hold of the view that is published at that moment
and writes its response from it later, while the loop goes on; any number of handlers may be at work
at any stage of a pass. Reads leave the loop alone. What they see are views after whole passes, and
of two reads the later one sees at least as many passes, the same entries in the same places, and
perhaps new ones behind them.
-/
namespace StatusBoard

namespace Board

variable (r : Renderer Id)

/-- The view of the board after a history. -/
def shown (h : List Pass) : View :=
  ((after r h).view r).run

theorem passes_shown (h : List Pass) : (shown r h).passes = h.length :=
  passes_after r h

theorem map_entries_shown {α : Type} (h : List Pass) (f : EntryView → α) :
    (shown r h).entries.map f =
      (after r h).listed.map fun e => f (EntryView.ofEntry r e).run := by
  unfold shown
  rw [entries_view, List.map_map]
  rfl

/-- A later view has the entries of an earlier one in the same places, with the same APIs. -/
theorem named_apis_shown_append (h k : List Pass) :
    (shown r h).entries.map (fun e => (e.name, e.apis)) <+:
      (shown r (h ++ k)).entries.map (fun e => (e.name, e.apis)) := by
  rw [map_entries_shown, map_entries_shown]
  exact map_listed_after_append r (fun e : Entry => (e.name, e.apis)) (fun _ _ _ => rfl) h k

theorem nodup_names_shown (h : List Pass) : ((shown r h).entries.map (·.name)).Nodup := by
  rw [map_entries_shown]
  have hnames := (sound_after (r := r) h).name_listed
  have hnodup := (sound_after (r := r) h).order_nodup
  rw [← hnames] at hnodup
  exact hnodup

/-- Of two views of one history the first is not the later one. -/
def Precedes (h : List Pass) (v w : View) : Prop :=
  ∃ before done, before <+: done ∧ done <+: h ∧ v = shown r before ∧ w = shown r done

variable {r} {h : List Pass} {v w : View}

theorem Precedes.append (hvw : Precedes r h v w) (k : List Pass) : Precedes r (h ++ k) v w := by
  obtain ⟨before, done, hbefore, hdone, hv, hw⟩ := hvw
  exact ⟨before, done, hbefore, hdone.trans (List.prefix_append h k), hv, hw⟩

/-- The view after a longer history is later than all views of it. -/
theorem Precedes.to_shown (hvw : Precedes r h v w) (k : List Pass) :
    Precedes r (h ++ k) v (shown r (h ++ k)) := by
  obtain ⟨before, done, hbefore, hdone, hv, -⟩ := hvw
  have hprefix : before <+: h ++ k := (hbefore.trans hdone).trans (List.prefix_append h k)
  exact ⟨before, h ++ k, hprefix, List.prefix_rfl, hv, rfl⟩

end Board

/-- What a reader may rely on between two views, the second of which is not the earlier one. -/
structure View.GrowsTo (v w : View) : Prop where
  passes_le : v.passes ≤ w.passes
  names_prefix : v.entries.map (·.name) <+: w.entries.map (·.name)
  same_apis : ∀ e ∈ v.entries, ∀ f ∈ w.entries, e.name = f.name → e.apis = f.apis

namespace Board

variable {r : Renderer Id} {h : List Pass} {v w : View}

theorem Precedes.growsTo (hvw : Precedes r h v w) : v.GrowsTo w := by
  obtain ⟨before, done, ⟨later, rfl⟩, -, rfl, rfl⟩ := hvw
  have hpairs := named_apis_shown_append r before later
  constructor
  · rw [passes_shown, passes_shown, List.length_append]
    exact Nat.le_add_right _ _
  · have hnames := hpairs.map Prod.fst
    rw [List.map_map, List.map_map] at hnames
    exact hnames
  · intro e he f hf hname
    -- the later view has an entry of this name with the APIs of the earlier one, and only one
    have hpair : (e.name, e.apis) ∈
        (shown r before).entries.map fun e => (e.name, e.apis) := List.mem_map_of_mem he
    obtain ⟨g, hg, heq⟩ := List.mem_map.mp (hpairs.subset hpair)
    obtain ⟨hgname, hgapis⟩ := Prod.mk.inj heq
    have hsame : g = f :=
      List.inj_on_of_nodup_map (nodup_names_shown r (before ++ later)) hg hf (hgname.trans hname)
    rw [← hgapis, hsame]

/-- Views after prefixes of one history with equally many passes are equal. -/
theorem shown_eq_of_passes {before done : List Pass} (hbefore : before <+: h) (hdone : done <+: h)
    (hpasses : (shown r before).passes = (shown r done).passes) : shown r before = shown r done := by
  rw [passes_shown, passes_shown] at hpasses
  have hfirst := List.prefix_of_prefix_length_le hbefore hdone (Nat.le_of_eq hpasses)
  rw [hfirst.eq_of_length hpasses]

end Board

namespace Poller.Loop

variable {r : Renderer Id}

/-- What is published changes only at the end of a pass. -/
theorem published_step {s t : State} {e : Event} (h : Step r s e t) :
    t.poller.published = s.poller.published ∨ ∀ u, t.stage ≠ .passing u := by
  cases h with
  | strike | tick | begin | arrive | leave | use => exact Or.inl rfl
  | take number time answer hs =>
    left
    cases answer <;> rfl
  | work task hs =>
    unfold State.work
    rcases hstep : task.step r s.poller with ⟨q, rest⟩
    cases rest with
    | none =>
      right
      intro u
      exact Stage.noConfusion
    | some u =>
      left
      exact task.published_step r s.poller q u hstep

/-- Outside of a pass the view after all passes is published. -/
theorem Sound.published_eq_shown {next : Nat} {trace : List Event} {s : State}
    (hs : Sound r next trace s) (hpassing : ∀ u, s.stage ≠ .passing u) :
    s.poller.published = Board.shown r (passes (taken trace)) := by
  rw [hs.poller_eq hpassing, published_after, board_after]
  rfl

/-- What is published is a view of the passes so far. -/
theorem Sound.exists_shown {next : Nat} {trace : List Event} {s : State}
    (hs : Sound r next trace s) :
    ∃ done, done <+: passes (taken trace) ∧ s.poller.published = Board.shown r done := by
  obtain ⟨done, hprefix, hpublished, -⟩ := hs.published
  refine ⟨passes done, hprefix.filterMap _, ?_⟩
  rw [hpublished, published_after, board_after]
  rfl

end Poller.Loop

namespace Server

/-- A read: what is asked for, the view that its handler took hold of, and the response once that is
written. -/
structure Read where
  document : Document
  view : View
  response : Option String

/-- A read with the response that its handler writes from the view it holds. -/
def Read.written (refreshSecs : Nat) (x : Read) : Read :=
  { x with response := some (content refreshSecs x.view x.document) }

namespace Readers

/-- The loop, and the reads in the order in which their handlers took hold of a view. -/
structure State where
  loop : Poller.Loop.State
  reads : List Read

inductive Event where
  /-- Something happens to the loop. -/
  | loop (e : Poller.Loop.Event)
  /-- A handler takes hold of the view that is published. -/
  | load (d : Document)
  /-- The handler of a read writes its response. -/
  | respond (number : Nat)

variable (r : Renderer Id) (refreshSecs : Nat)

inductive Step : State → Event → State → Prop
  | loop (s : State) (e : Poller.Loop.Event) (t : Poller.Loop.State)
      (h : Poller.Loop.Step r s.loop e t) : Step s (.loop e) { s with loop := t }
  | load (s : State) (d : Document) :
      Step s (.load d) { s with reads := s.reads ++ [⟨d, s.loop.poller.published, none⟩] }
  | respond (s : State) (number : Nat) (x : Read) (hx : s.reads[number]? = some x)
      (hopen : x.response = none) :
      Step s (.respond number) { s with reads := s.reads.set number (x.written refreshSecs) }

inductive Reaches : State → List Event → State → Prop
  | refl (s : State) : Reaches s [] s
  | tail {s t u : State} {trace : List Event} {e : Event} :
      Reaches s trace t → Step r refreshSecs t e u → Reaches s (trace ++ [e]) u

/-- The loop's own part of a trace. -/
def loopTrace (trace : List Event) : List Poller.Loop.Event :=
  trace.filterMap fun
    | .loop e => some e
    | _ => none

/-- The passes that the loop has begun. -/
def history (trace : List Event) : List Pass :=
  Poller.passes (Poller.Loop.taken (loopTrace trace))

/-- What holds of every state that the loop and its readers come to. -/
structure Sound (next : Nat) (trace : List Event) (s : State) : Prop where
  loop : Poller.Loop.Sound r next (loopTrace trace) s.loop
  before_published : ∀ x ∈ s.reads, Board.Precedes r (history trace) x.view s.loop.poller.published
  in_order : (s.reads.map (·.view)).Pairwise (Board.Precedes r (history trace))
  responses : ∀ x ∈ s.reads, ∀ text, x.response = some text →
    text = content refreshSecs x.view x.document

variable {r} {refreshSecs} {next : Nat} {trace : List Event} {s : State}

theorem loopTrace_concat (trace : List Event) (e : Event) :
    loopTrace (trace ++ [e]) = loopTrace trace ++ loopTrace [e] :=
  List.filterMap_append

theorem exists_history_concat (trace : List Event) (e : Event) :
    ∃ k, history (trace ++ [e]) = history trace ++ k := by
  refine ⟨Poller.passes (Poller.Loop.taken (loopTrace [e])), ?_⟩
  unfold history
  rw [loopTrace_concat, Poller.Loop.taken, List.filterMap_append, Poller.passes,
    List.filterMap_append]
  rfl

/-- Writing a response leaves the views as they are. -/
theorem views_written (refreshSecs : Nat) {reads : List Read} {number : Nat} {x : Read}
    (hx : reads[number]? = some x) :
    (reads.set number (x.written refreshSecs)).map (·.view) = reads.map (·.view) := by
  obtain ⟨hnumber, rfl⟩ := List.getElem?_eq_some_iff.mp hx
  have hlength : number < (reads.map (·.view)).length := by rwa [List.length_map]
  have hset := List.set_getElem_self hlength
  rw [List.getElem_map] at hset
  rw [List.map_set]
  exact hset

namespace Sound

theorem loop_step (hs : Sound r refreshSecs next trace s) {e : Poller.Loop.Event}
    {t : Poller.Loop.State} (h : Poller.Loop.Step r s.loop e t) :
    Sound r refreshSecs next (trace ++ [.loop e]) { s with loop := t } := by
  obtain ⟨k, hk⟩ := exists_history_concat trace (.loop e)
  have hloop : Poller.Loop.Sound r next (loopTrace (trace ++ [.loop e])) t := by
    rw [loopTrace_concat]
    exact hs.loop.step h
  refine ⟨hloop, ?_, ?_, hs.responses⟩
  · intro x hx
    have hbefore := hs.before_published x hx
    rw [hk]
    rcases Poller.Loop.published_step h with hsame | hsettled
    · rw [hsame]
      exact hbefore.append k
    · have hpublished := hloop.published_eq_shown hsettled
      have hhistory : Poller.passes (Poller.Loop.taken (loopTrace (trace ++ [.loop e]))) =
          history trace ++ k := hk
      rw [hhistory] at hpublished
      rw [hpublished]
      exact hbefore.to_shown k
  · rw [hk]
    exact hs.in_order.imp fun hvw => hvw.append k

/-- Reads have no part in the loop's trace. -/
theorem of_quiet (hs : Sound r refreshSecs next trace s) (e : Event) (hquiet : loopTrace [e] = []) :
    Sound r refreshSecs next (trace ++ [e]) s := by
  have hsame : loopTrace (trace ++ [e]) = loopTrace trace := by
    rw [loopTrace_concat, hquiet, List.append_nil]
  have hhistory : history (trace ++ [e]) = history trace := by
    unfold history
    rw [hsame]
  exact {
    loop := hsame ▸ hs.loop
    before_published := hhistory ▸ hs.before_published
    in_order := hhistory ▸ hs.in_order
    responses := hs.responses }

/-- A handler takes hold of the latest view, which no view read before it follows. -/
theorem load (hs : Sound r refreshSecs next trace s) (d : Document) :
    Sound r refreshSecs next trace
      { s with reads := s.reads ++ [⟨d, s.loop.poller.published, none⟩] } := by
  have hlatest : Board.Precedes r (history trace) s.loop.poller.published
      s.loop.poller.published := by
    obtain ⟨done, hdone, hpublished⟩ := hs.loop.exists_shown
    exact ⟨done, done, List.prefix_rfl, hdone, hpublished, hpublished⟩
  refine ⟨hs.loop, ?_, ?_, ?_⟩
  · intro x hx
    rcases List.mem_append.mp hx with hold | hnew
    · exact hs.before_published x hold
    · rw [List.mem_singleton.mp hnew]
      exact hlatest
  · rw [List.map_append, List.pairwise_append]
    refine ⟨hs.in_order, List.pairwise_singleton _ _, ?_⟩
    intro v hv w hw
    obtain ⟨x, hx, rfl⟩ := List.mem_map.mp hv
    rw [List.mem_singleton.mp hw]
    exact hs.before_published x hx
  · intro x hx text htext
    rcases List.mem_append.mp hx with hold | hnew
    · exact hs.responses x hold text htext
    · rw [List.mem_singleton.mp hnew] at htext
      exact absurd htext (Option.some_ne_none text).symm

/-- A response is written from the view that its handler holds, whatever is published by then. -/
theorem respond (hs : Sound r refreshSecs next trace s) (number : Nat) (x : Read)
    (hx : s.reads[number]? = some x) :
    Sound r refreshSecs next trace
      { s with reads := s.reads.set number (x.written refreshSecs) } := by
  have hmem : x ∈ s.reads := List.mem_of_getElem? hx
  refine ⟨hs.loop, ?_, ?_, ?_⟩
  · intro y hy
    rcases List.mem_or_eq_of_mem_set hy with hold | rfl
    · exact hs.before_published y hold
    · exact hs.before_published x hmem
  · rw [views_written refreshSecs hx]
    exact hs.in_order
  · intro y hy text htext
    rcases List.mem_or_eq_of_mem_set hy with hold | rfl
    · exact hs.responses y hold text htext
    · exact (Option.some.inj htext).symm

theorem step (hs : Sound r refreshSecs next trace s) {e : Event} {t : State}
    (h : Step r refreshSecs s e t) : Sound r refreshSecs next (trace ++ [e]) t := by
  cases h with
  | loop e t h => exact hs.loop_step h
  | load d => exact (hs.of_quiet _ rfl).load d
  | respond number x hx _ => exact (hs.of_quiet _ rfl).respond number x hx

theorem of_reaches (c : Channel) (handle : Nat) (halive : c.isAlive handle = true)
    (h : Reaches r refreshSecs ⟨.start c handle, []⟩ trace s) :
    Sound r refreshSecs c.sent trace s := by
  induction h with
  | refl =>
    exact {
      loop := Poller.Loop.Sound.start c handle halive
      before_published := by simp
      in_order := List.Pairwise.nil
      responses := by simp }
  | tail _ hstep ih => exact ih.step hstep

end Sound

/-- Without its reads a trace leads the loop to the same state. -/
theorem loop_reaches {l : Poller.Loop.State} (h : Reaches r refreshSecs ⟨l, []⟩ trace s) :
    Poller.Loop.Reaches r l (loopTrace trace) s.loop := by
  induction h with
  | refl => exact .refl l
  | tail _ hstep ih =>
    rw [loopTrace_concat]
    cases hstep with
    | loop e t hloop => exact ih.tail hloop
    | load d =>
      have hquiet : loopTrace [.load d] = [] := rfl
      rw [hquiet, List.append_nil]
      exact ih
    | respond number =>
      have hquiet : loopTrace [.respond number] = [] := rfl
      rw [hquiet, List.append_nil]
      exact ih

/-- What readers may rely on, and the loop beside them. -/
structure Guarantees (r : Renderer Id) (refreshSecs : Nat) (start : Poller.Loop.State)
    (trace : List Event) (s : State) : Prop where
  /-- A response is written from one view. -/
  one_view : ∀ x ∈ s.reads, ∀ text, x.response = some text →
    text = content refreshSecs x.view x.document
  /-- That view was published: it is the one after some whole passes. -/
  whole_passes : ∀ x ∈ s.reads, ∃ done, done <+: history trace ∧ x.view = Board.shown r done
  /-- A later read sees what an earlier one saw, and perhaps more. -/
  growing : s.reads.Pairwise fun x y => x.view.GrowsTo y.view
  /-- After equally many passes two reads see equal views. -/
  same_view : ∀ x ∈ s.reads, ∀ y ∈ s.reads, x.view.passes = y.view.passes → x.view = y.view
  /-- The loop gets to where it is without any reads too. -/
  undisturbed : Poller.Loop.Reaches r start (loopTrace trace) s.loop

/-- Readers beside the loop, however their steps are interleaved with its own. -/
theorem guarantees_beside_loop (c : Channel) (handle : Nat) (halive : c.isAlive handle = true)
    (trace : List Event) (s : State) (h : Reaches r refreshSecs ⟨.start c handle, []⟩ trace s) :
    Guarantees r refreshSecs (.start c handle) trace s := by
  have hs := Sound.of_reaches c handle halive h
  have hwhole : ∀ x ∈ s.reads, ∃ done, done <+: history trace ∧ x.view = Board.shown r done := by
    intro x hx
    obtain ⟨before, done, hbefore, hdone, hview, -⟩ := hs.before_published x hx
    exact ⟨before, hbefore.trans hdone, hview⟩
  refine ⟨hs.responses, hwhole, ?_, ?_, loop_reaches h⟩
  · exact (List.pairwise_map.mp hs.in_order).imp fun hviews => hviews.growsTo
  · intro x hx y hy hpasses
    obtain ⟨before, hbefore, hv⟩ := hwhole x hx
    obtain ⟨done, hdone, hw⟩ := hwhole y hy
    rw [hv, hw] at hpasses ⊢
    exact Board.shown_eq_of_passes hbefore hdone hpasses

/-- Three reads around a pass. The second one takes hold of a view in its midst and is written after
it, when the third one has already seen the pass. -/
theorem guarantees_of_reads_around_pass :
    let snapshot : Snapshot := ⟨"gateway", []⟩
    let trace : List Event :=
      [.load .page, .loop .tick, .loop .begin, .loop (.arrive 0 (.ok snapshot)),
        .loop (.take ⟨7, .ok snapshot⟩), .load .health] ++
        List.replicate 5 (.loop .work) ++ [.load .board, .respond 1]
    Channel.opened.isAlive 0 = true ∧
      ∃ s, Reaches .html 5 ⟨.start .opened 0, []⟩ trace s ∧
        s.reads.map (·.view.passes) = [0, 0, 1] ∧
        s.reads.map (·.response) = [none, some (content 5 .empty .health), none] ∧
        Guarantees .html 5 (.start .opened 0) trace s := by
  intro snapshot trace
  have halive : Channel.opened.isAlive 0 = true := rfl
  refine ⟨halive, ?_⟩
  have hmidst := @Reaches.refl .html 5 ⟨.start .opened 0, []⟩
    |>.tail (.load _ .page)
    |>.tail (.loop _ _ _ (.tick _ rfl rfl)) |>.tail (.loop _ _ _ (.begin _ rfl))
    |>.tail (.loop _ _ _ (.arrive _ 0 (.ok snapshot) (List.mem_singleton_self _)))
    |>.tail (.loop _ _ _ (.take _ 0 7 (.ok snapshot) rfl (List.mem_singleton_self _)))
    |>.tail (.load _ .health)
  have hwritten := hmidst
    |>.tail (.loop _ _ _ (.work _ _ rfl)) |>.tail (.loop _ _ _ (.work _ _ rfl))
    |>.tail (.loop _ _ _ (.work _ _ rfl)) |>.tail (.loop _ _ _ (.work _ _ rfl))
    |>.tail (.loop _ _ _ (.work _ _ rfl))
    |>.tail (.load _ .board) |>.tail (.respond _ 1 _ rfl rfl)
  exact ⟨_, hwritten, rfl, rfl, guarantees_beside_loop .opened 0 halive _ _ hwritten⟩

end Readers

end Server

end StatusBoard
