import StatusBoard.Proofs.Board.Document
import Mathlib.Data.List.Forall2
import Std.Data.String.ToNat

/-!
What a page shows. Two boards have the same page if and only if they agree on the client, on the
counts and, entry by entry, on all that readers may see of it; the flags of an API show in the chips
of its methods, hence only where there are any. So a page tells the board that it was written for.
-/
namespace StatusBoard

open Html (Node Content)

/-- APIs that look alike. -/
structure Api.ShowsLike (a b : Api) : Prop where
  path : a.path = b.path
  methods : a.methods = b.methods
  flags : a.methods ≠ [] → a.secured = b.secured ∧ a.async = b.async

/-- Entries that look alike. -/
structure Entry.ShowsLike (e f : Entry) : Prop where
  name : e.name = f.name
  health : e.health = f.health
  indicator : e.indicator = f.indicator
  instances : e.instances = f.instances
  healthy : e.healthy = f.healthy
  unhealthy : e.unhealthy = f.unhealthy
  apis : List.Forall₂ Api.ShowsLike e.apis f.apis

/-- Boards that look alike; a client that is not known counts as one without a name. -/
structure Board.ShowsLike (b c : Board) : Prop where
  clientId : b.clientId.getD "" = c.clientId.getD ""
  counts : b.counts = c.counts
  entries : List.Forall₂ Entry.ShowsLike b.listed c.listed

theorem map_eq_map_iff_forall₂ {α β γ : Type} {f : α → γ} {g : β → γ} (xs : List α)
    (ys : List β) : xs.map f = ys.map g ↔ List.Forall₂ (fun x y => f x = g y) xs ys := by
  rw [← congrFun₂ List.forall₂_eq_eq_eq (xs.map f) (ys.map g), List.forall₂_map_left_iff,
    List.forall₂_map_right_iff]

/-- Blocks of one length, one after another, are told apart. -/
theorem flatMap_eq_iff_forall₂ {α β : Type} {f g : α → List β} {n : Nat} (hn : 0 < n)
    (hf : ∀ x, (f x).length = n) (hg : ∀ x, (g x).length = n) (xs ys : List α) :
    xs.flatMap f = ys.flatMap g ↔ List.Forall₂ (fun x y => f x = g y) xs ys := by
  have hlengths {h : α → List β} (hh : ∀ x, (h x).length = n) (zs : List α) :
      (zs.map h).map List.length = List.replicate zs.length n := by
    rw [List.map_map, ← List.map_const']
    exact List.map_congr_left fun x _ => hh x
  rw [← map_eq_map_iff_forall₂, List.flatMap, List.flatMap]
  constructor
  · intro h
    have htotal := congrArg List.length h
    rw [List.length_flatten, List.length_flatten, hlengths hf, hlengths hg, List.sum_replicate_nat,
      List.sum_replicate_nat] at htotal
    have hcount : xs.length = ys.length := Nat.eq_of_mul_eq_mul_right hn htotal
    refine List.eq_iff_flatten_eq.mpr ⟨h, ?_⟩
    rw [hlengths hf, hlengths hg, hcount]
  · exact congrArg List.flatten

namespace Indicator

theorem word_inj {i j : Indicator} (h : i.word = j.word) : i = j := by
  revert h
  cases i <;> cases j <;> decide

theorem ofHealth_inj {x y : Health} (h : ofHealth x = ofHealth y) : x = y := by
  revert h
  cases x <;> cases y <;> decide

end Indicator

namespace Markup

open Html.Node Html.Content

def iconContent (name : String) : Content :=
  .element "i" [("class", "small material-icons")] (chars name)

theorem content_chip (a : Api) (method : String) :
    (chip a method).content = [.element "span" [("class", "chip")]
      (iconContent (if a.secured then "lock" else "lock_open") :: (chars " " ++
        ((if a.async then iconContent "swap_vert" :: chars " " else []) ++ chars method)))] := by
  unfold chip
  cases a.async <;> simp [icon, iconContent, content, contentAll]

/-- A chip tells whether its API is secured by its first icon, whether it is asynchronous by its
second one or the lack of it, and its method by the text behind them. -/
theorem content_chip_eq_iff (a b : Api) (m l : String) :
    (chip a m).content = (chip b l).content ↔
      (a.secured = b.secured ∧ a.async = b.async) ∧ m = l := by
  have hlock : (if a.secured then "lock" else "lock_open") =
      (if b.secured then "lock" else "lock_open") ↔ a.secured = b.secured := by
    cases a.secured <;> cases b.secured <;> decide
  have hswap (s t : String) (rest : List Content) : chars s ≠ iconContent t :: rest :=
    chars_ne_element s "i" _ _ rest
  -- no method begins with an icon, so none can pass for the icon of an asynchronous API
  have hrest : (if a.async then iconContent "swap_vert" :: chars " " else []) ++ chars m =
      (if b.async then iconContent "swap_vert" :: chars " " else []) ++ chars l ↔
        a.async = b.async ∧ m = l := by
    cases a.async <;> cases b.async <;> simp [chars_inj, hswap, (hswap _ _ _).symm]
  rw [content_chip, content_chip]
  simp only [iconContent, List.cons.injEq, Content.element.injEq, chars_inj, hlock,
    List.append_cancel_left_eq, true_and, and_true, and_assoc]
  exact and_congr_right fun _ => hrest

theorem contentAll_chips_eq_iff (a b : Api) :
    contentAll (a.methods.map (chip a)) = contentAll (b.methods.map (chip b)) ↔
      a.methods = b.methods ∧ (a.methods ≠ [] → a.secured = b.secured ∧ a.async = b.async) := by
  have hlength (c : Api) (m : String) : (chip c m).content.length = 1 := rfl
  rw [contentAll_eq_flatMap, contentAll_eq_flatMap, List.flatMap_map, List.flatMap_map,
    flatMap_eq_iff_forall₂ Nat.one_pos (hlength a) (hlength b)]
  simp only [content_chip_eq_iff, List.forall₂_and_left, List.forall₂_eq_eq_eq]
  rw [and_comm]
  refine and_congr_right fun _ => ?_
  constructor
  · intro h hne
    obtain ⟨m, hm⟩ := List.exists_mem_of_ne_nil _ hne
    exact h m hm
  · intro h m hm
    exact h (List.ne_nil_of_mem hm)

theorem content_api_eq_iff (service : String) (a b : Api) :
    (api service a).content = (api service b).content ↔ a.ShowsLike b := by
  have hpath : (" /apis/" ++ service ++ "/" ++ a.path = " /apis/" ++ service ++ "/" ++ b.path) ↔
      a.path = b.path := String.append_right_inj _
  simp only [api, content, contentAll, contentAll_append, List.append_nil, List.cons.injEq,
    Content.element.injEq, List.append_singleton_inj, chars_inj, contentAll_chips_eq_iff, hpath,
    true_and, and_true]
  constructor
  · rintro ⟨⟨hmethods, hflags⟩, hsame⟩
    exact ⟨hsame, hmethods, hflags⟩
  · intro h
    exact ⟨⟨h.methods, h.flags⟩, h.path⟩

/-- Without methods there are no chips, and the flags do not show. -/
example : (api "s" ⟨"v1", [], true, true⟩).content = (api "s" ⟨"v1", [], false, false⟩).content :=
  rfl

theorem contentAll_apis_eq_iff (service : String) (as bs : List Api) :
    contentAll (apis service as) = contentAll (apis service bs) ↔
      List.Forall₂ Api.ShowsLike as bs := by
  have hlength (a : Api) : (api service a).content.length = 1 := rfl
  rw [apis, apis, contentAll_eq_flatMap, contentAll_eq_flatMap, List.flatMap_map,
    List.flatMap_map, flatMap_eq_iff_forall₂ Nat.one_pos hlength hlength]
  simp only [content_api_eq_iff]

theorem label_inj (caption : String) (m n : UInt64) :
    caption ++ toString m = caption ++ toString n ↔ m = n := by
  rw [String.append_right_inj]
  exact Nat.repr_inj.trans UInt64.toNat_inj

/-- The health of an entry shows in the colour of its icon. -/
theorem content_node_eq_iff {e f : Entry} (he : e.indicator = .ofHealth e.health)
    (hf : f.indicator = .ofHealth f.health) :
    e.node.content = f.node.content ↔ e.ShowsLike f := by
  have hinstances : e.instancesLabel = f.instancesLabel ↔ e.instances = f.instances :=
    label_inj "Instances: " e.instances f.instances
  have hhealthy : e.healthyLabel = f.healthyLabel ↔ e.healthy = f.healthy :=
    label_inj "Healthy: " e.healthy f.healthy
  have hunhealthy : e.unhealthyLabel = f.unhealthyLabel ↔ e.unhealthy = f.unhealthy :=
    label_inj "Unhealthy: " e.unhealthy f.unhealthy
  simp only [Entry.node, entry, countChip, ElementIds.ofName, content, contentAll, List.append_nil,
    List.cons_append, List.nil_append, List.cons.injEq, Content.element.injEq, Prod.mk.injEq,
    String.append_left_inj, String.append_right_inj, chars_inj, hinstances, hhealthy, hunhealthy,
    true_and, and_true]
  constructor
  · rintro ⟨hname, ⟨⟨hword, -⟩, -, ⟨-, hinstances⟩, ⟨-, hhealthy⟩, -, hunhealthy⟩, hlist⟩
    have hindicator : e.indicator = f.indicator := Indicator.word_inj hword
    rw [hname, contentAll_apis_eq_iff] at hlist
    exact {
      name := hname
      health := Indicator.ofHealth_inj (by rw [← he, ← hf, hindicator])
      indicator := hindicator
      instances := hinstances
      healthy := hhealthy
      unhealthy := hunhealthy
      apis := hlist }
  · intro h
    have hlist := (contentAll_apis_eq_iff f.name e.apis f.apis).mpr h.apis
    simp only [h.name, h.indicator, h.instances, h.healthy, h.unhealthy, hlist, and_self]

end Markup

namespace Board

open Html.Node Html.Content

theorem contentAll_lines_eq_iff (es fs : List Entry) :
    contentAll ((es.map Entry.node).flatMap fun n => [n, .text "\n"]) =
        contentAll ((fs.map Entry.node).flatMap fun n => [n, .text "\n"]) ↔
      List.Forall₂ (fun e f => e.node.content = f.node.content) es fs := by
  have hline (e : Entry) : ([e.node, .text "\n"].flatMap content).length = 2 := rfl
  rw [contentAll_eq_flatMap, contentAll_eq_flatMap, List.flatMap_assoc, List.flatMap_assoc,
    List.flatMap_map, List.flatMap_map, flatMap_eq_iff_forall₂ Nat.two_pos hline hline]
  simp only [List.flatMap_cons, List.append_left_inj]

theorem contentAll_nodes_eq_iff (b c : Board) (refreshSeconds : Nat) :
    contentAll (b.nodes refreshSeconds) = contentAll (c.nodes refreshSeconds) ↔
      b.clientId.getD "" = c.clientId.getD "" ∧ b.counts = c.counts ∧
        List.Forall₂ (fun e f => e.node.content = f.node.content) b.listed c.listed := by
  have hnumber (m n : Nat) : toString m = toString n ↔ m = n := Nat.repr_inj
  have hcounts : (b.counts.total = c.counts.total ∧ b.counts.healthy = c.counts.healthy ∧
      b.counts.unhealthy = c.counts.unhealthy ∧ b.counts.unknown = c.counts.unknown) ↔
        b.counts = c.counts := by
    rw [← Counts.mk.injEq]
  -- the two trees have the same frame; what is left are the texts in it and the entries
  simp only [nodes, View.document, View.head, View.stylesheet, View.body, View.totals,
    View.countLine, View.captioned, content, contentAll, List.append_nil, List.cons_append,
    List.nil_append, List.cons.injEq, Content.element.injEq, List.append_cancel_left_eq, chars_inj,
    hnumber, contentAll_lines_eq_iff, hcounts, true_and, and_true]

/-- Entries whose indicators are those of their health look alike if and only if their trees
have the same content. -/
theorem forall₂_content_iff {es fs : List Entry}
    (hes : ∀ e ∈ es, e.indicator = .ofHealth e.health)
    (hfs : ∀ f ∈ fs, f.indicator = .ofHealth f.health) :
    List.Forall₂ (fun e f => e.node.content = f.node.content) es fs ↔
      List.Forall₂ Entry.ShowsLike es fs := by
  rw [List.forall₂_iff_zip, List.forall₂_iff_zip]
  have hpair {e f : Entry} (hmem : (e, f) ∈ es.zip fs) :
      e.node.content = f.node.content ↔ e.ShowsLike f := by
    obtain ⟨he, hf⟩ := List.of_mem_zip hmem
    exact Markup.content_node_eq_iff (hes e he) (hfs f hf)
  constructor
  · rintro ⟨hlength, hall⟩
    exact ⟨hlength, fun hmem => (hpair hmem).mp (hall hmem)⟩
  · rintro ⟨hlength, hall⟩
    exact ⟨hlength, fun hmem => (hpair hmem).mpr (hall hmem)⟩

theorem indicator_of_history (h : List Pass) :
    ∀ e ∈ (after (.html : Renderer Id) h).listed, e.indicator = .ofHealth e.health :=
  fun _ he => ((sound_after h).of_mem_listed he).indicator_eq

/-- Pages with the same reload time are the same text if and only if their boards look alike. -/
theorem page_eq_iff_showsLike (h k : List Pass) (refreshSeconds : Nat) :
    ((after .html h).view .html : Id View).run.page refreshSeconds =
        ((after .html k).view .html : Id View).run.page refreshSeconds ↔
      (after (.html : Renderer Id) h).ShowsLike (after .html k) := by
  have hentries := forall₂_content_iff (indicator_of_history h) (indicator_of_history k)
  rw [page_of_history, page_of_history, String.append_right_inj,
    markup_eq_iff (properAll_nodes _ _) (properAll_nodes _ _) (plainAll_nodes _ _)
      (plainAll_nodes _ _), contentAll_nodes_eq_iff, hentries]
  constructor
  · rintro ⟨hclient, hcounts, hlisted⟩
    exact ⟨hclient, hcounts, hlisted⟩
  · intro hlike
    exact ⟨hlike.clientId, hlike.counts, hlike.entries⟩

end Board

end StatusBoard
