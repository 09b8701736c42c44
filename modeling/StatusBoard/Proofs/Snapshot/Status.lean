import StatusBoard.Proofs.Json.Parts
import StatusBoard.Proofs.Snapshot.Fields
import StatusBoard.Proofs.Snapshot.RoundTrip

/-!
What the status of a service does to a snapshot. Any value that can be parsed may be given to a
service as its status, in place of another one or where there is none, however it is written. The
document decodes as before, and nothing but the health of that service may change.
-/
namespace StatusBoard

open Schema
open Json (Draft IsDocument Grammatical GrammaticalMember)

namespace Schema

variable {keys : List String} {k : String} {old new a b : Draft}

theorem Replaces.grammatical (h : Replaces keys k old new a b) (ha : Grammatical a)
    (hnew : Grammatical new) : Grammatical b := by
  cases h with
  | member ms ns =>
    have hparts := List.forall_mem_append.mp ((Json.grammatical_object_iff _).mp ha)
    obtain ⟨hold, hns⟩ := List.forall_mem_cons.mp hparts.2
    exact (Json.grammatical_object_iff _).mpr
      (List.forall_mem_append.mpr ⟨hparts.1, List.forall_mem_cons.mpr ⟨⟨hold.1, hnew⟩, hns⟩⟩)
  | item ds es hk =>
    have hparts := List.forall_mem_append.mp ((Json.grammatical_array_iff _).mp ha)
    exact (Json.grammatical_array_iff _).mpr (List.forall_mem_append.mpr
      ⟨hparts.1, List.forall_mem_cons.mpr ⟨hnew, (List.forall_mem_cons.mp hparts.2).2⟩⟩)

theorem Replaces.grammatical_old (h : Replaces keys k old new a b) (ha : Grammatical a) :
    Grammatical old := by
  cases h with
  | member ms ns =>
    exact ((Json.grammatical_object_iff _).mp ha (some k, old) (by simp)).2
  | item ds es hk => exact (Json.grammatical_array_iff _).mp ha old (by simp)

theorem Adds.grammatical (h : Adds keys k new a b) (ha : Grammatical a) (hnew : Grammatical new) :
    Grammatical b := by
  cases h with
  | member ms ns hfresh =>
    have hparts := List.forall_mem_append.mp ((Json.grammatical_object_iff _).mp ha)
    have hkey : GrammaticalMember (some k, new) := ⟨⟨_, Json.quoted_writeString k⟩, hnew⟩
    exact (Json.grammatical_object_iff _).mpr
      (List.forall_mem_append.mpr ⟨hparts.1, List.forall_mem_cons.mpr ⟨hkey, hparts.2⟩⟩)
  | item ds hk =>
    exact (Json.grammatical_array_iff _).mpr (List.forall_mem_append.mpr
      ⟨(Json.grammatical_array_iff _).mp ha, List.forall_mem_singleton.mpr hnew⟩)

/-- A value that a record has for a field can be replaced. -/
theorem exists_replaces (ha : IsRecord keys a) (hold : field? keys a k = some old) (new : Draft) :
    ∃ b, Replaces keys k old new a b := by
  cases ha with
  | object ns honce =>
    obtain ⟨before, behind, hms, -⟩ := List.lookup_eq_some_iff.mp hold
    rw [hms]
    exact ⟨_, .member before behind⟩
  | array ds hlength =>
    obtain ⟨before, behind, hzip, -⟩ := List.lookup_eq_some_iff.mp hold
    have hpair : (keys.zip ds)[before.length]? = some (k, old) := by
      rw [hzip, List.getElem?_append_right (Nat.le_refl _), Nat.sub_self, List.getElem?_cons_zero]
    obtain ⟨hkey, hitem⟩ := List.getElem?_zip_eq_some.mp hpair
    obtain ⟨items, es, hds, hplace⟩ := exists_split_of_place hitem
    rw [hds]
    exact ⟨_, .item items es (hplace ▸ hkey)⟩

theorem grammatical_of_field (ha : IsRecord keys a) (hold : field? keys a k = some old)
    (hgrammatical : Grammatical a) : Grammatical old := by
  obtain ⟨_, h⟩ := exists_replaces ha hold .null
  exact h.grammatical_old hgrammatical

section Items

variable {α : Type} {P : Draft → α → Prop} {xs : List α}

/-- One item of a list is exchanged, and what it is read as changes with it. -/
theorem forall₂_modify {a b : Draft} {before behind : List Draft}
    (h : List.Forall₂ P (before ++ a :: behind) xs) {f : α → α} (hf : ∀ x, P a x → P b (f x)) :
    List.Forall₂ P (before ++ b :: behind) (xs.modify before.length f) := by
  induction before generalizing xs with
  | nil =>
    cases h with
    | cons ha hbehind => exact .cons (hf _ ha) hbehind
  | cons d before ih =>
    cases h with
    | cons hd hrest => exact .cons hd (ih hrest)

theorem exists_split_of_forall₂ {ds : List Draft} (h : List.Forall₂ P ds xs) {i : Nat}
    (hi : i < xs.length) :
    ∃ before a behind x, ds = before ++ a :: behind ∧ before.length = i ∧ P a x := by
  have hlt : i < ds.length := h.length_eq ▸ hi
  obtain ⟨before, behind, hds, hlength⟩ := exists_split_of_place (List.getElem?_eq_getElem hlt)
  exact ⟨before, ds[i], behind, xs[i], hds, hlength, h.get hlt hi⟩

end Items

end Schema

/-- The health that a value stands for: only two words mean something. -/
def Health.ofStatus : Draft → Health
  | .string (some "HEALTHY") => .healthy
  | .string (some "UNHEALTHY") => .unhealthy
  | _ => .unknown

theorem Health.isStatus_ofStatus {v : Draft} (hv : Parses (maxDepth - 3) v) :
    IsStatus v (ofStatus v) := by
  unfold ofStatus
  split
  case h_1 => exact ⟨hv, by simp, by simp⟩
  case h_2 => exact ⟨hv, by simp, by simp⟩
  case h_3 hhealthy hunhealthy =>
    exact ⟨hv, by simpa using hhealthy, by simpa using hunhealthy⟩

namespace Service

/-- A service with the status `v` in place of the one it has, or has not. -/
def Restated (v a b : Draft) : Prop :=
  (∃ old, Replaces keys "status" old v a b) ∨ Adds keys "status" v a b

variable {v a b : Draft} {s : Service}

theorem Restated.conforms (h : Restated v a b) (hv : Parses (maxDepth - 3) v) (ha : Conforms a s) :
    Conforms b { s with health := .ofStatus v } := by
  obtain ⟨old, h⟩ : ∃ old, DifferIn keys "status" old (some v) a b := by
    rcases h with ⟨old, h⟩ | h
    · exact ⟨some old, h.differIn (by decide) (by decide) ha.record⟩
    · exact ⟨none, h.differIn (by decide) ha.record⟩
  exact {
    record := h.right
    name := by
      rw [h.others "name" (by decide)]
      exact ha.name
    status := .inr ⟨v, h.new, Health.isStatus_ofStatus hv⟩
    instances := by
      rw [h.others "instances" (by decide)]
      exact ha.instances
    healthy := by
      rw [h.others "healthy" (by decide)]
      exact ha.healthy
    unhealthy := by
      rw [h.others "unhealthy" (by decide)]
      exact ha.unhealthy
    apis := by
      rw [h.others "apis" (by decide)]
      exact ha.apis }

theorem exists_adds (v : Draft) (ha : Conforms a s) (hnone : field? keys a "status" = none) :
    ∃ b, Adds keys "status" v a b := by
  obtain ⟨name, hname, -⟩ := ha.name
  cases ha.record with
  | object ns honce =>
    refine ⟨_, .member [] _ fun hmem => ?_⟩
    obtain ⟨m, hm, hkey⟩ := List.mem_map.mp hmem
    have hne := List.lookup_eq_none_iff.mp hnone m hm
    rw [hkey] at hne
    exact absurd rfl (bne_iff_ne.mp hne)
  | array ds hlength =>
    -- the name is there and the status is not, so the name is the only item
    match ds with
    | [] => exact nomatch hname
    | [d] => exact ⟨_, .item [d] rfl⟩
    | _ :: _ :: _ => exact nomatch hnone

/-- Every service can be given a status. -/
theorem exists_restated (ha : Conforms a s) (hgrammatical : Grammatical a) (hv : Grammatical v) :
    ∃ b, Restated v a b ∧ Grammatical b := by
  cases hold : field? keys a "status" with
  | some old =>
    obtain ⟨b, hb⟩ := exists_replaces ha.record hold v
    exact ⟨b, .inl ⟨old, hb⟩, hb.grammatical hgrammatical hv⟩
  | none =>
    obtain ⟨b, hb⟩ := exists_adds v ha hold
    exact ⟨b, .inr hb, hb.grammatical hgrammatical hv⟩

end Service

namespace Snapshot

/-- A snapshot in which the service at place `i` has the status `v`. -/
def Restated (i : Nat) (v d e : Draft) : Prop :=
  ∃ before a b behind, before.length = i ∧ Service.Restated v a b ∧
    Replaces keys "services" (.array (before ++ a :: behind) true)
      (.array (before ++ b :: behind) true) d e

variable {i : Nat} {v d e : Draft} {s : Snapshot}

theorem Restated.conforms (h : Restated i v d e) (hv : Parses (maxDepth - 3) v)
    (hd : Conforms d s) :
    Conforms e { s with services := s.services.modify i ({ · with health := .ofStatus v }) } := by
  obtain ⟨before, a, b, behind, rfl, hab, h⟩ := h
  have h := h.differIn (by decide) (by decide) hd.record
  obtain ⟨ds, hds, hservices⟩ : ListOf Service.Conforms (.array (before ++ a :: behind) true)
      s.services := by
    have hservices := hd.services
    rw [h.old] at hservices
    simpa [Optional] using hservices
  obtain ⟨rfl, -⟩ := Draft.array.inj hds
  exact {
    record := h.right
    clientId := by
      rw [h.others "clientId" (by decide)]
      exact hd.clientId
    services := .inr ⟨_, h.new, _, rfl, forall₂_modify hservices fun _ => hab.conforms hv⟩ }

theorem exists_restated (hd : Conforms d s) (hgrammatical : Grammatical d) (hv : Grammatical v)
    (hi : i < s.services.length) : ∃ e, Restated i v d e ∧ Grammatical e := by
  rcases hd.services with ⟨-, hnone⟩ | ⟨l, hl, ds, rfl, hservices⟩
  · rw [hnone] at hi
    exact absurd hi (Nat.not_lt_zero i)
  · obtain ⟨before, a, behind, x, rfl, hi, ha⟩ := exists_split_of_forall₂ hservices hi
    have hlist := (Json.grammatical_array_iff _).mp (grammatical_of_field hd.record hl hgrammatical)
    obtain ⟨hbefore, hrest⟩ := List.forall_mem_append.mp hlist
    obtain ⟨hgrammaticalService, hbehind⟩ := List.forall_mem_cons.mp hrest
    obtain ⟨b, hab, hb⟩ := Service.exists_restated ha hgrammaticalService hv
    obtain ⟨e, he⟩ := exists_replaces hd.record hl (.array (before ++ b :: behind) true)
    have hreplaced : Grammatical (.array (before ++ b :: behind) true) :=
      (Json.grammatical_array_iff _).mpr
        (List.forall_mem_append.mpr ⟨hbefore, List.forall_mem_cons.mpr ⟨hb, hbehind⟩⟩)
    exact ⟨e, ⟨before, a, b, behind, hi, hab, he⟩, he.grammatical hgrammatical hreplaced⟩

/-- A text for a snapshot, and another one in which the service at place `i` has the status `v`. -/
def Restates (i : Nat) (v : Draft) (t u : List UInt8) : Prop :=
  ∃ d e, IsDocument d t ∧ IsDocument e u ∧ Restated i v d e

/-- Every status that can be parsed may be given to every service, and only that service's health
depends on it. -/
theorem decode_restated {t : List UInt8} {s : Snapshot} (ht : decode t = .ok s) {i : Nat}
    (hi : i < s.services.length) {v : Draft} (hgrammatical : Grammatical v)
    (hparses : Parses (maxDepth - 3) v) :
    (∃ u, Restates i v t u) ∧ ∀ u, Restates i v t u →
      decode u = .ok
        { s with services := s.services.modify i ({ · with health := .ofStatus v }) } := by
  obtain ⟨d, hdt, hd⟩ := exists_conforms_of_decode ht
  constructor
  · obtain ⟨e, hde, u, heu⟩ := exists_restated hd ⟨t, hdt⟩ hgrammatical hi
    exact ⟨u, d, e, hdt, heu, hde⟩
  · rintro u ⟨d', e, hdt', heu, hde⟩
    obtain rfl := hdt.unique hdt'
    rw [decode_of_isDocument heu, ofDraft_eq_ok_iff]
    exact hde.conforms hparses hd

/-- The word of a healthy service in an array is no such word. -/
theorem decode_status_in_array :
    decode (utf8 ("\x7b\"clientId\":\"c\",\"services\":[\x7b\"name\":\"a\"," ++
        "\"status\":[\"HEALTHY\"],\"instances\":1,\"healthy\":1,\"unhealthy\":0," ++
        "\"apis\":[]\x7d]\x7d").toList) =
      .ok ⟨"c", [⟨"a", .unknown, 1, 1, 0, []⟩]⟩ := by
  have hbefore := (Snapshot.toValue ⟨"c", [⟨"a", .healthy, 1, 1, 0, []⟩]⟩).isDocument_write
  have hafter := Json.Value.isDocument_write (.object [("clientId", .string "c"), ("services",
    .array [.object [("name", .string "a"), ("status", .array [.string "HEALTHY"]),
      ("instances", .number 1), ("healthy", .number 1), ("unhealthy", .number 0),
      ("apis", .array [])]])])
  have hdecode := (decode_of_isDocument hbefore).trans
    ((ofDraft_eq_ok_iff _ _).mpr (Snapshot.conforms_toValue _))
  have hrestates : Restates 0 (.array [.string (some "HEALTHY")] true) _ _ :=
    ⟨_, _, hbefore, hafter, [], _, _, [], rfl, .inl ⟨_, .member [_] [_, _, _, _]⟩, .member [_] []⟩
  have hparses : Parses (maxDepth - 3) (.array [.string (some "HEALTHY")] true) :=
    .array _ _ fun d hd => List.mem_singleton.mp hd ▸ .string _ _
  exact (decode_restated hdecode Nat.zero_lt_one
    ⟨_, Json.Value.isDocument_write (.array [.string "HEALTHY"])⟩ hparses).2 _ hrestates

end Snapshot

end StatusBoard
