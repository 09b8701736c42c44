import StatusBoard.Proofs.Json.Tokens
import StatusBoard.Proofs.Snapshot.Layout
import StatusBoard.Proofs.Snapshot.RoundTrip
import Mathlib.Logic.Relation
import Mathlib.Tactic.MkIffOfInductiveProp

/-!
Documents that say the same in other words. The members of a record may be permuted, members that
mean nothing added or removed, null written for a default or left out, records given by place, and
white space put between any tokens. However many such edits a document goes through, it decodes to
the same snapshot, or is refused as before.
-/
namespace StatusBoard

open Schema
open Json (Draft IsDocument Spaced Value)
open Json.Grammar (Tokens)

namespace Schema

/-- One item of a list in place of another. -/
inductive ReplacesItem (R : Draft → Draft → Prop) : Draft → Draft → Prop
  | mk (ds es : List Draft) (a b : Draft) (h : R a b) :
      ReplacesItem R (.array (ds ++ a :: es) true) (.array (ds ++ b :: es) true)

section Lists

variable {α : Type} {P : Draft → α → Prop} {R : Draft → Draft → Prop}

theorem forall₂_replace {a b : Draft} (h : ∀ x, P a x ↔ P b x) (ds es : List Draft)
    (xs : List α) : List.Forall₂ P (ds ++ a :: es) xs ↔ List.Forall₂ P (ds ++ b :: es) xs := by
  induction ds generalizing xs with
  | nil => simp only [List.nil_append, List.forall₂_cons_left_iff, h]
  | cons d ds ih => simp only [List.cons_append, List.forall₂_cons_left_iff, ih]

theorem listOf_array_iff (ds : List Draft) (xs : List α) :
    ListOf P (.array ds true) xs ↔ List.Forall₂ P ds xs := by
  simp [ListOf]

theorem listOf_iff_of_replacesItem (hR : ∀ a b, R a b → ∀ x, P a x ↔ P b x) {d e : Draft}
    (h : ReplacesItem R d e) (xs : List α) : ListOf P d xs ↔ ListOf P e xs := by
  cases h with
  | mk ds es a b h =>
    rw [listOf_array_iff, listOf_array_iff]
    exact forall₂_replace (hR a b h) ds es xs

/-- Neither of the two lists is null. -/
theorem orNull_iff_of_replacesItem {d e : Draft} (h : ReplacesItem R d e) {absent x : α}
    (hP : P d x ↔ P e x) : OrNull P absent d x ↔ OrNull P absent e x := by
  cases h with
  | mk => simp [OrNull, hP]

end Lists

end Schema

attribute [mk_iff] Api.Conforms Service.Conforms Snapshot.Conforms

namespace Api

def layout : Layout where
  keys := keys
  defaults := [("methods", .array []), ("secured", .bool false), ("async", .bool false)]
  nullable := ["methods"]
  nodup := by decide
  nullable_subset := by decide

/-- Inside the fields of an API nothing changes. -/
def Inside (_ : String) (_ _ : Draft) : Prop := False

/-- One change of an API's record. -/
def Change : Draft → Draft → Prop :=
  layout.Change Inside

theorem suits_methods : layout.Suits Inside "methods" (OrNull (ListOf IsText) []) [] :=
  Layout.suits_of_reader (orNull_eq_ok_iff (list_eq_ok_iff text_eq_ok_iff) not_listOf_null [])
    (fun _ => .inl ⟨rfl, rfl⟩) rfl (.inr (listOf_array Value.string (fun _ => rfl) []))
    fun _ _ => False.elim

theorem suits_flag {k : String} (hdefault : layout.defaults.lookup k = some (.bool false))
    (hnull : k ∉ layout.nullable) : layout.Suits Inside k IsFlag false :=
  Layout.suits_of_reader flag_eq_ok_iff (absurd · hnull) hdefault rfl fun _ _ => False.elim

theorem conforms_iff_of_change {d e : Draft} (h : Change d e) (a : Api) :
    Conforms d a ↔ Conforms e a := by
  have hrecord : IsRecord keys d ↔ IsRecord keys e := h.isRecord_iff
  rw [conforms_iff, conforms_iff, ← hrecord]
  refine and_congr_right fun hd => ?_
  have hpath : field? keys d "path" = field? keys e "path" :=
    h.field_eq hd (by decide) (by decide) rfl fun _ _ => id
  rw [hpath]
  exact and_congr_right fun _ =>
    and_congr (h.optional_iff hd (by decide) suits_methods _) <|
    and_congr (h.optional_iff hd (by decide) (suits_flag rfl (by decide)) _)
      (h.optional_iff hd (by decide) (suits_flag rfl (by decide)) _)

end Api

namespace Service

def layout : Layout where
  keys := keys
  defaults := [("status", .string "UNKNOWN"), ("instances", .number 0), ("healthy", .number 0),
    ("unhealthy", .number 0), ("apis", .array [])]
  nullable := ["instances", "healthy", "unhealthy", "apis"]
  nodup := by decide
  nullable_subset := by decide

/-- Inside the fields of a service one of its APIs may change. -/
def Inside (k : String) (d e : Draft) : Prop :=
  k = "apis" ∧ ReplacesItem Api.Change d e

/-- One change of a service's record or of one among its APIs. -/
def Change : Draft → Draft → Prop :=
  layout.Change Inside

theorem not_inside {k : String} (hk : k ≠ "apis") (d e : Draft) : ¬Inside k d e :=
  fun h => hk h.1

theorem suits_status : layout.Suits Inside "status" IsStatus .unknown :=
  Layout.suits_of_reader health_eq_ok_iff (absurd · (by decide)) rfl Health.unknown.isStatus_word
    fun d e h => absurd h (not_inside (by decide) d e)

theorem suits_count {k : String} (hdefault : layout.defaults.lookup k = some (.number 0))
    (hk : k ≠ "apis") : layout.Suits Inside k (OrNull IsCount 0) 0 :=
  Layout.suits_of_reader (orNull_eq_ok_iff count_eq_ok_iff not_isCount_null 0)
    (fun _ => .inl ⟨rfl, rfl⟩) hdefault (.inr (isCount_number 0))
    fun d e h => absurd h (not_inside hk d e)

theorem suits_apis : layout.Suits Inside "apis" (OrNull (ListOf Api.Conforms) []) [] := by
  have hlist := list_eq_ok_iff Api.ofDraft_eq_ok_iff
  refine Layout.suits_of_reader (orNull_eq_ok_iff hlist not_listOf_null [])
    (fun _ => .inl ⟨rfl, rfl⟩) rfl (.inr (listOf_array Api.toValue Api.conforms_toValue [])) ?_
  intro d e h apis
  refine orNull_iff_of_replacesItem h.2 (listOf_iff_of_replacesItem ?_ h.2 apis)
  exact fun _ _ => Api.conforms_iff_of_change

theorem conforms_iff_of_change {d e : Draft} (h : Change d e) (s : Service) :
    Conforms d s ↔ Conforms e s := by
  have hrecord : IsRecord keys d ↔ IsRecord keys e := h.isRecord_iff
  rw [conforms_iff, conforms_iff, ← hrecord]
  refine and_congr_right fun hd => ?_
  have hname : field? keys d "name" = field? keys e "name" :=
    h.field_eq hd (by decide) (by decide) rfl (not_inside (by decide))
  rw [hname]
  exact and_congr_right fun _ =>
    and_congr (h.optional_iff hd (by decide) suits_status _) <|
    and_congr (h.optional_iff hd (by decide) (suits_count rfl (by decide)) _) <|
    and_congr (h.optional_iff hd (by decide) (suits_count rfl (by decide)) _) <|
    and_congr (h.optional_iff hd (by decide) (suits_count rfl (by decide)) _)
      (h.optional_iff hd (by decide) suits_apis _)

end Service

namespace Snapshot

def layout : Layout where
  keys := keys
  defaults := [("clientId", .string ""), ("services", .array [])]
  nullable := []
  nodup := by decide
  nullable_subset := by decide

/-- Inside the fields of a snapshot one of its services may change. -/
def Inside (k : String) (d e : Draft) : Prop :=
  k = "services" ∧ ReplacesItem Service.Change d e

/-- One change of a snapshot's record or of one among its services. -/
def Change : Draft → Draft → Prop :=
  layout.Change Inside

theorem suits_clientId : layout.Suits Inside "clientId" IsText "" :=
  Layout.suits_of_reader text_eq_ok_iff (absurd · List.not_mem_nil) rfl rfl
    fun _ _ h => absurd h.1 (by decide)

theorem suits_services : layout.Suits Inside "services" (ListOf Service.Conforms) [] := by
  refine Layout.suits_of_reader (list_eq_ok_iff Service.ofDraft_eq_ok_iff)
    (absurd · List.not_mem_nil) rfl (listOf_array Service.toValue Service.conforms_toValue []) ?_
  intro d e h
  refine listOf_iff_of_replacesItem ?_ h.2
  exact fun _ _ => Service.conforms_iff_of_change

theorem conforms_iff_of_change {d e : Draft} (h : Change d e) (s : Snapshot) :
    Conforms d s ↔ Conforms e s := by
  have hrecord : IsRecord keys d ↔ IsRecord keys e := h.isRecord_iff
  rw [conforms_iff, conforms_iff, ← hrecord]
  refine and_congr_right fun hd => ?_
  exact and_congr (h.optional_iff hd (by decide) suits_clientId _)
    (h.optional_iff hd (by decide) suits_services _)

/-- One edit of a document's text: its white space, or the text of a value after one change. -/
inductive Edit : List UInt8 → List UInt8 → Prop
  | respace (d : Draft) (ts : List (List UInt8)) (t u : List UInt8) (hd : Tokens (.value d) ts)
      (ht : Spaced ts t) (hu : Spaced ts u) : Edit t u
  | change (d e : Draft) (t u : List UInt8) (hde : Change d e) (ht : IsDocument d t)
      (hu : IsDocument e u) : Edit t u

theorem Edit.decode_iff {t u : List UInt8} (h : Edit t u) (s : Snapshot) :
    decode t = .ok s ↔ decode u = .ok s := by
  cases h with
  | respace d ts _ _ hd ht hu =>
    have hdt := (Json.isDocument_iff_exists_tokens d t).mpr ⟨ts, hd, ht⟩
    have hdu := (Json.isDocument_iff_exists_tokens d u).mpr ⟨ts, hd, hu⟩
    rw [decode_of_isDocument hdt, decode_of_isDocument hdu]
  | change d e _ _ hde ht hu =>
    rw [decode_of_isDocument ht, decode_of_isDocument hu, ofDraft_eq_ok_iff, ofDraft_eq_ok_iff]
    exact conforms_iff_of_change hde s

/-- The run: any number of edits, made or undone. -/
theorem decode_iff_of_eqvGen {t u : List UInt8} (h : Relation.EqvGen Edit t u) (s : Snapshot) :
    decode t = .ok s ↔ decode u = .ok s := by
  induction h with
  | rel t u h => exact h.decode_iff s
  | refl t => exact Iff.rfl
  | symm t u _ ih => exact ih.symm
  | trans t u v _ _ iht ihu => exact iht.trans ihu

/-- Edited documents decode alike. Where the first one conforms to the schema, the last one is read
as the schema reads the first. -/
theorem decode_iff_of_edits {t u : List UInt8} (h : Relation.EqvGen Edit t u) (s : Snapshot) :
    (decode t = .ok s ↔ decode u = .ok s) ∧
      ∀ d, IsDocument d t → Conforms d s → decode u = .ok s := by
  have hiff := decode_iff_of_eqvGen h s
  refine ⟨hiff, fun d hdt hd => hiff.mp ?_⟩
  rw [decode_of_isDocument hdt, ofDraft_eq_ok_iff]
  exact hd

/-- A service by place, a null for a number, and a space in front. -/
theorem decode_edited :
    decode (utf8
        " \x7b\"clientId\":\"c\",\"services\":[[\"a\",\"UNKNOWN\",null,0,0,[]]]\x7d".toList) =
      .ok ⟨"c", [⟨"a", .unknown, 0, 0, 0, []⟩]⟩ := by
  have hwritten := (Snapshot.toValue ⟨"c", [⟨"a", .unknown, 0, 0, 0, []⟩]⟩).isDocument_write
  have hplaced := Value.isDocument_write (.object [("clientId", .string "c"), ("services",
    .array [.array [.string "a", .string "UNKNOWN", .number 0, .number 0, .number 0, .array []]])])
  have hnull := Value.isDocument_write (.object [("clientId", .string "c"), ("services",
    .array [.array [.string "a", .string "UNKNOWN", .null, .number 0, .number 0, .array []]])])
  obtain ⟨ts, hts, hspaced⟩ := (Json.isDocument_iff_exists_tokens _ _).mp hnull
  have hspace : Json.Spaces (utf8 [' ']) := fun b hb => .inl (List.mem_singleton.mp hb)
  have hfirst : Edit _ _ := .change _ _ _ _ (.inside "services" _ _ _ _ (by decide)
    ⟨rfl, .mk [] [] _ _ (.byPlace _ _ (Service.conforms_toValue _).record (.cons (.inl rfl)
      (.cons (.inl rfl) (.cons (.inl rfl) (.cons (.inl rfl) (.cons (.inl rfl)
        (.cons (.inl rfl) .nil)))))))⟩ (.member [_] [])) hwritten hplaced
  have hsecond : Edit _ _ := .change _ _ _ _ (.inside "services" _ _ _ _ (by decide)
    ⟨rfl, .mk [] [] _ _ (.nullAsDefault "instances" (.number 0) _ _ (by decide) rfl
      (.item [_, _] [_, _, _] rfl))⟩ (.member [_] [])) hnull hplaced
  have hthird : Edit _ _ := .respace _ ts _ _ hts hspaced (hspaced.indent hspace)
  have hdecode := (decode_iff_of_edits (.trans _ _ _ (.rel _ _ hfirst)
    (.trans _ _ _ (.symm _ _ (.rel _ _ hsecond)) (.rel _ _ hthird))) _).2 _ hwritten
      (Snapshot.conforms_toValue _)
  rwa [← utf8_append] at hdecode

end Snapshot

end StatusBoard
