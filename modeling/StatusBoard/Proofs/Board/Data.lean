import StatusBoard.Proofs.Board.Likeness
import StatusBoard.Proofs.Json.Injectivity
import StatusBoard.Server.Document

/-!
The board as data. The text that is served of a view is a JSON document, and it tells all of the
view but the markup of its entries: views with the same text agree on everything else, and views
that differ in nothing else have the same text.
-/
namespace StatusBoard

open Json (IsDocument Value)

/-- Entries that agree on all but their markup. -/
structure EntryView.SameData (e f : EntryView) : Prop where
  name : e.name = f.name
  health : e.health = f.health
  indicator : e.indicator = f.indicator
  instances : e.instances = f.instances
  healthy : e.healthy = f.healthy
  unhealthy : e.unhealthy = f.unhealthy
  apis : e.apis = f.apis

/-- Views that agree on all but the markup of their entries. A client that is not known is not one
with an empty name. -/
structure View.SameData (v w : View) : Prop where
  clientId : v.clientId = w.clientId
  counts : v.counts = w.counts
  entries : List.Forall₂ EntryView.SameData v.entries w.entries
  passes : v.passes = w.passes
  reconciledAt : v.reconciledAt = w.reconciledAt

theorem Health.word_inj {x y : Health} (h : x.word = y.word) : x = y := by
  rw [← ofWord_word x, h, ofWord_word]

theorem Json.Value.ofOption_inj {s t : Option String} (h : ofOption s = ofOption t) : s = t := by
  cases s with
  | none =>
    cases t with
    | none => rfl
    | some t => exact Value.noConfusion h
  | some s =>
    cases t with
    | none => exact Value.noConfusion h
    | some t => exact congrArg some (Value.string.inj h)

theorem Api.toValue_inj {a b : Api} (h : a.toValue = b.toValue) : a = b := by
  have hstring : Function.Injective Value.string := fun _ _ => Value.string.inj
  simp only [toValue, Value.object.injEq, List.cons.injEq, Prod.mk.injEq, Value.string.injEq,
    Value.array.injEq, Value.bool.injEq, hstring.list_map.eq_iff, true_and, and_true] at h
  cases a
  cases b
  obtain ⟨rfl, rfl, rfl, rfl⟩ := h
  rfl

theorem Counts.toValue_inj {c d : Counts} (h : c.toValue = d.toValue) : c = d := by
  simp only [toValue, Value.object.injEq, List.cons.injEq, Prod.mk.injEq, Value.number.injEq,
    true_and, and_true] at h
  cases c
  cases d
  obtain ⟨rfl, rfl, rfl, rfl⟩ := h
  rfl

theorem EntryView.toValue_eq_iff (e f : EntryView) : e.toValue = f.toValue ↔ e.SameData f := by
  constructor
  · intro h
    have hapis : Function.Injective Api.toValue := fun _ _ => Api.toValue_inj
    simp only [toValue, Value.object.injEq, List.cons.injEq, Prod.mk.injEq, Value.string.injEq,
      Value.number.injEq, Value.array.injEq, UInt64.toNat_inj, hapis.list_map.eq_iff, true_and,
      and_true] at h
    obtain ⟨hname, hhealth, hindicator, hinstances, hhealthy, hunhealthy, hlist⟩ := h
    exact {
      name := hname
      health := Health.word_inj hhealth
      indicator := Indicator.word_inj hindicator
      instances := hinstances
      healthy := hhealthy
      unhealthy := hunhealthy
      apis := hlist }
  · intro h
    simp only [toValue, h.name, h.health, h.indicator, h.instances, h.healthy, h.unhealthy, h.apis]

theorem View.toValue_eq_iff (v w : View) : v.toValue = w.toValue ↔ v.SameData w := by
  have hentries : v.entries.map EntryView.toValue = w.entries.map EntryView.toValue ↔
      List.Forall₂ EntryView.SameData v.entries w.entries := by
    rw [map_eq_map_iff_forall₂]
    simp only [EntryView.toValue_eq_iff]
  constructor
  · intro h
    simp only [toValue, Value.object.injEq, List.cons.injEq, Prod.mk.injEq, Value.array.injEq,
      Value.number.injEq, hentries, true_and, and_true] at h
    obtain ⟨hclient, hcounts, hlist, hpasses, htime⟩ := h
    refine ⟨Value.ofOption_inj hclient, Counts.toValue_inj hcounts, hlist, hpasses, ?_⟩
    cases hv : v.reconciledAt <;> cases hw : w.reconciledAt <;> simp_all
  · intro h
    simp only [toValue, h.clientId, h.counts, h.passes, h.reconciledAt, hentries.mpr h.entries]

/-- The text of a view as data is a JSON document, and two such texts are equal exactly when their
views differ in the markup of entries at most. -/
theorem board_text_eq_iff_sameData (refreshSeconds : Nat) (v w : View) :
    IsDocument v.toValue.draft (Server.content refreshSeconds v .board).toUTF8.toList ∧
      (Server.content refreshSeconds v .board = Server.content refreshSeconds w .board ↔
        v.SameData w) := by
  refine ⟨v.toValue.isDocument_text, ?_⟩
  rw [← View.toValue_eq_iff]
  constructor
  · intro h
    exact Value.text_inj h
  · intro h
    show v.toValue.text = w.toValue.text
    rw [h]

end StatusBoard
