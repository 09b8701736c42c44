import Mathlib.Data.List.Nodup
import StatusBoard.Proofs.Json.Soundness
import StatusBoard.Proofs.Json.Writing
import StatusBoard.Proofs.Snapshot.Values

/-!
The decoder accepts a document exactly when it conforms to the schema, and reads it as the schema
does. A record is filled in by those of its fields that the document has, in whichever form it gives
them, and each field reads its value as its rule in the schema says.
-/
namespace StatusBoard

open Schema
open Json (Draft IsDocument)

section Records

variable {ρ : Type} {fields : List (Field Draft ρ)}

/-- The members of an object whose keys are all proper. -/
def named (ms : List (String × Draft)) : List (Option String × Draft) :=
  ms.map fun m => (some m.1, m.2)

theorem lookup_named (ms : List (String × Draft)) (k : String) :
    (named ms).lookup (some k) = ms.lookup k := by
  induction ms with
  | nil => rfl
  | cons m ms ih =>
    obtain ⟨l, d⟩ := m
    have hbeq : (some k == some l) = (k == l) := rfl
    rw [named, List.map_cons, List.lookup_cons, List.lookup_cons, hbeq, ← named, ih]

theorem foldlM_putMember_iff (ms : List (Option String × Draft)) (p q : Field.Progress ρ) :
    ms.foldlM (Draft.putMember fields) p = .ok q ↔
      ∃ ns, ms = named ns ∧ ns.foldlM (fun p m => Field.put fields p m.1 m.2) p = .ok q := by
  induction ms generalizing p with
  | nil =>
    constructor
    · exact fun h => ⟨[], rfl, h⟩
    · rintro ⟨ns, hns, h⟩
      obtain rfl := List.map_eq_nil_iff.mp hns.symm
      exact h
  | cons m ms ih =>
    obtain ⟨k, d⟩ := m
    rw [List.foldlM_cons, bind_eq_ok_iff]
    constructor
    · rintro ⟨p', hput, hfold⟩
      obtain ⟨ns, rfl, h⟩ := (ih p').mp hfold
      cases k with
      | none => exact nomatch hput
      | some k => exact ⟨(k, d) :: ns, rfl, bind_eq_ok_iff.mpr ⟨p', hput, h⟩⟩
    · rintro ⟨ns, hns, h⟩
      cases ns with
      | nil => exact nomatch hns
      | cons n ns =>
        obtain ⟨hn, rfl⟩ := List.cons.inj hns
        obtain ⟨rfl, rfl⟩ := Prod.mk.inj hn
        rw [List.foldlM_cons] at h
        obtain ⟨p', hput, h⟩ := bind_eq_ok_iff.mp h
        exact ⟨p', hput, (ih p').mpr ⟨ns, rfl, h⟩⟩

/-- No known key comes twice. -/
theorem nodup_known_iff {ks : List String} :
    (Field.known fields ks).Nodup ↔ ∀ k ∈ fields.map (·.name), ks.count k ≤ 1 := by
  have hcount : ∀ k ∈ fields.map (·.name), (Field.known fields ks).count k = ks.count k :=
    fun k hk => List.count_filter (decide_eq_true (p := k ∈ fields.map (·.name)) hk)
  rw [List.nodup_iff_count]
  constructor
  · intro h k hk
    exact hcount k hk ▸ h k
  · intro h k
    by_cases hk : k ∈ fields.map (·.name)
    · rw [hcount k hk]
      exact h k hk
    · rw [List.count_eq_zero_of_not_mem fun hmem => hk (Field.mem_known.mp hmem).2]
      exact Nat.zero_le 1

theorem record_object_eq_ok_iff (hcommute : fields.Pairwise Field.Commute)
    (hnames : (fields.map (·.name)).Nodup) (name : String) (blank : ρ)
    (ms : List (Option String × Draft)) (closed : Bool) (r : ρ) :
    Draft.record name fields blank (.object ms closed) = .ok r ↔
      closed = true ∧ ∃ ns, ms = named ns ∧
        (∀ k ∈ fields.map (·.name), (ns.map (·.1)).count k ≤ 1) ∧
          Field.Fills (ns.lookup ·) fields blank r := by
  rw [Draft.record, bind_eq_ok_iff]
  constructor
  · rintro ⟨q, hmembers, h⟩
    obtain ⟨ns, rfl, hfold⟩ := (foldlM_putMember_iff ms _ _).mp hmembers
    obtain ⟨hseen, hnodup, hfilled⟩ :=
      (Field.foldlM_put_iff hcommute hnames ns ⟨blank, []⟩ q).mp ⟨hfold, List.nodup_nil⟩
    rw [List.append_nil] at hseen
    rw [hseen, List.nodup_reverse, nodup_known_iff] at hnodup
    split at h
    case isTrue => exact nomatch h
    case isFalse hclosed =>
      split at h
      case h_1 => exact nomatch h
      case h_2 hmissing =>
        obtain rfl : q.record = r := Except.ok.inj h
        have hcomplete := (Field.missing?_known ns q.seen (fun k => by
          rw [hseen, List.mem_reverse])).mp hmissing
        exact ⟨eq_true_of_ne_false hclosed, ns, rfl, hnodup, hcomplete, hfilled⟩
  · rintro ⟨rfl, ns, rfl, honce, hcomplete, hfilled⟩
    have hnodup := List.nodup_reverse.mpr (nodup_known_iff.mpr honce)
    obtain ⟨hfold, _⟩ := (Field.foldlM_put_iff hcommute hnames ns ⟨blank, []⟩
      ⟨r, (Field.known fields (ns.map (·.1))).reverse⟩).mpr
        ⟨(List.append_nil _).symm, hnodup, hfilled⟩
    have hmissing := (Field.missing?_known ns (Field.known fields (ns.map (·.1))).reverse
      (fun k => List.mem_reverse)).mpr hcomplete
    refine ⟨_, (foldlM_putMember_iff _ _ _).mpr ⟨ns, rfl, hfold⟩, ?_⟩
    simp [hmissing]

theorem record_array_eq_ok_iff (hnames : (fields.map (·.name)).Nodup) (name : String) (blank : ρ)
    (ds : List Draft) (closed : Bool) (r : ρ) :
    Draft.record name fields blank (.array ds closed) = .ok r ↔
      closed = true ∧ ds.length ≤ fields.length ∧
        Field.Fills (Field.byPlace fields ds) fields blank r := by
  rw [Draft.record, bind_eq_ok_iff]
  simp only [Field.putInOrder_iff hnames]
  constructor
  · rintro ⟨s, hfilled, h⟩
    split at h
    case isTrue => exact nomatch h
    case isFalse hlength =>
      obtain ⟨hclosed, hlength⟩ := not_or.mp hlength
      split at h
      case h_1 => exact nomatch h
      case h_2 habsent =>
        obtain rfl : s = r := Except.ok.inj h
        exact ⟨eq_true_of_ne_false hclosed, Nat.le_of_not_lt hlength,
          (Field.firstAbsent?_eq_none_iff hnames ds).mp habsent, hfilled⟩
  · rintro ⟨rfl, hlength, hcomplete, hfilled⟩
    have habsent := (Field.firstAbsent?_eq_none_iff hnames ds).mpr hcomplete
    refine ⟨r, hfilled, ?_⟩
    simp [habsent, hlength]

theorem record_eq_ok_iff (hcommute : fields.Pairwise Field.Commute)
    (hnames : (fields.map (·.name)).Nodup) (name : String) (blank : ρ) (d : Draft) (r : ρ) :
    Draft.record name fields blank d = .ok r ↔
      IsRecord (fields.map (·.name)) d ∧
        Field.Fills (field? (fields.map (·.name)) d) fields blank r := by
  cases d with
  | object ms closed =>
    rw [record_object_eq_ok_iff hcommute hnames]
    constructor
    · rintro ⟨rfl, ns, rfl, honce, hfills⟩
      have hfield : field? (fields.map (·.name)) (.object (named ns) true) = (ns.lookup ·) :=
        funext (lookup_named ns)
      exact ⟨.object ns honce, hfield.symm ▸ hfills⟩
    · rintro ⟨hrecord, hfills⟩
      cases hrecord with
      | object ns honce =>
        have hfield : field? (fields.map (·.name)) (.object (named ns) true) = (ns.lookup ·) :=
          funext (lookup_named ns)
        exact ⟨rfl, ns, rfl, honce, hfield ▸ hfills⟩
  | array ds closed =>
    rw [record_array_eq_ok_iff hnames]
    constructor
    · rintro ⟨rfl, hlength, hfills⟩
      exact ⟨.array ds (by rwa [List.length_map]), hfills⟩
    · rintro ⟨hrecord, hfills⟩
      cases hrecord with
      | array _ hlength => exact ⟨rfl, by rwa [List.length_map] at hlength, hfills⟩
  | null | bool | number | string | broken =>
    exact ⟨fun h => (nomatch h), fun h => (nomatch h.1)⟩

variable {α : Type} {fs : List (Field Draft ρ)} {v : String → Option Draft} {r s : ρ}
  {name : String} {value : Draft → Except Mismatch α} {set : ρ → α → ρ} {P : Draft → α → Prop}

theorem fills_required (hvalue : ∀ d x, value d = .ok x ↔ P d x) :
    Field.Fills v (requiredField name value set :: fs) r s ↔
      ∃ x, Required P (v name) x ∧ Field.Fills v fs (set r x) s := by
  rw [Field.fills_cons_required rfl]
  simp only [requiredField, map_eq_ok_iff, hvalue]
  constructor
  · rintro ⟨d, hd, _, ⟨x, hx, rfl⟩, h⟩
    exact ⟨x, ⟨d, hd, hx⟩, h⟩
  · rintro ⟨x, ⟨d, hd, hx⟩, h⟩
    exact ⟨d, hd, _, ⟨x, hx, rfl⟩, h⟩

theorem fills_optional (hvalue : ∀ d x, value d = .ok x ↔ P d x) {absent : α}
    (habsent : set r absent = r) :
    Field.Fills v (optionalField name value set :: fs) r s ↔
      ∃ x, Optional P absent (v name) x ∧ Field.Fills v fs (set r x) s := by
  rw [Field.fills_cons_optional rfl]
  simp only [optionalField, map_eq_ok_iff, hvalue]
  constructor
  · rintro (⟨hd, h⟩ | ⟨d, hd, _, ⟨x, hx, rfl⟩, h⟩)
    · exact ⟨absent, .inl ⟨hd, rfl⟩, habsent.symm ▸ h⟩
    · exact ⟨x, .inr ⟨d, hd, hx⟩, h⟩
  · rintro ⟨x, ⟨hd, rfl⟩ | ⟨d, hd, hx⟩, h⟩
    · exact .inl ⟨hd, habsent ▸ h⟩
    · exact .inr ⟨d, hd, _, ⟨x, hx, rfl⟩, h⟩

end Records

namespace Api

theorem fields_commute : fields.Pairwise Field.Commute := by
  simp only [fields, List.pairwise_cons, List.forall_mem_cons, List.Pairwise.nil,
    List.not_mem_nil, false_imp_iff, implies_true, and_true]
  and_intros <;> exact Field.commute_of_set (fun _ _ => rfl) (fun _ _ => rfl) fun _ _ _ => rfl

theorem ofDraft_eq_ok_iff (d : Draft) (a : Api) : ofDraft d = .ok a ↔ Conforms d a := by
  have htexts := orNull_eq_ok_iff (list_eq_ok_iff text_eq_ok_iff) not_listOf_null []
  have hnames : (fields.map (·.name)).Nodup := by decide
  rw [ofDraft, record_eq_ok_iff fields_commute hnames]
  constructor
  · rintro ⟨hrecord, h⟩
    obtain ⟨path, hpath, h⟩ := (fills_required text_eq_ok_iff).mp h
    obtain ⟨methods, hmethods, h⟩ := (fills_optional htexts rfl).mp h
    obtain ⟨secured, hsecured, h⟩ := (fills_optional flag_eq_ok_iff rfl).mp h
    obtain ⟨async, hasync, h⟩ := (fills_optional flag_eq_ok_iff rfl).mp h
    obtain rfl := Field.fills_nil.mp h
    exact ⟨hrecord, hpath, hmethods, hsecured, hasync⟩
  · rintro ⟨hrecord, hpath, hmethods, hsecured, hasync⟩
    exact ⟨hrecord, (fills_required text_eq_ok_iff).mpr ⟨_, hpath,
      (fills_optional htexts rfl).mpr ⟨_, hmethods,
        (fills_optional flag_eq_ok_iff rfl).mpr ⟨_, hsecured,
          (fills_optional flag_eq_ok_iff rfl).mpr ⟨_, hasync, Field.fills_nil.mpr rfl⟩⟩⟩⟩⟩

end Api

namespace Service

theorem fields_commute : fields.Pairwise Field.Commute := by
  simp only [fields, List.pairwise_cons, List.forall_mem_cons, List.Pairwise.nil,
    List.not_mem_nil, false_imp_iff, implies_true, and_true]
  and_intros <;> exact Field.commute_of_set (fun _ _ => rfl) (fun _ _ => rfl) fun _ _ _ => rfl

theorem ofDraft_eq_ok_iff (d : Draft) (s : Service) : ofDraft d = .ok s ↔ Conforms d s := by
  have hcount := orNull_eq_ok_iff count_eq_ok_iff not_isCount_null 0
  have hapis := orNull_eq_ok_iff (list_eq_ok_iff Api.ofDraft_eq_ok_iff) not_listOf_null []
  have hnames : (fields.map (·.name)).Nodup := by decide
  rw [ofDraft, record_eq_ok_iff fields_commute hnames]
  constructor
  · rintro ⟨hrecord, h⟩
    obtain ⟨name, hname, h⟩ := (fills_required text_eq_ok_iff).mp h
    obtain ⟨health, hhealth, h⟩ := (fills_optional health_eq_ok_iff rfl).mp h
    obtain ⟨instances, hinstances, h⟩ := (fills_optional hcount rfl).mp h
    obtain ⟨healthy, hhealthy, h⟩ := (fills_optional hcount rfl).mp h
    obtain ⟨unhealthy, hunhealthy, h⟩ := (fills_optional hcount rfl).mp h
    obtain ⟨apis, hapis, h⟩ := (fills_optional hapis rfl).mp h
    obtain rfl := Field.fills_nil.mp h
    exact ⟨hrecord, hname, hhealth, hinstances, hhealthy, hunhealthy, hapis⟩
  · rintro ⟨hrecord, hname, hhealth, hinstances, hhealthy, hunhealthy, hs⟩
    exact ⟨hrecord, (fills_required text_eq_ok_iff).mpr ⟨_, hname,
      (fills_optional health_eq_ok_iff rfl).mpr ⟨_, hhealth,
        (fills_optional hcount rfl).mpr ⟨_, hinstances,
          (fills_optional hcount rfl).mpr ⟨_, hhealthy,
            (fills_optional hcount rfl).mpr ⟨_, hunhealthy,
              (fills_optional hapis rfl).mpr ⟨_, hs, Field.fills_nil.mpr rfl⟩⟩⟩⟩⟩⟩⟩

end Service

namespace Snapshot

theorem fields_commute : fields.Pairwise Field.Commute := by
  simp only [fields, List.pairwise_cons, List.forall_mem_cons, List.Pairwise.nil,
    List.not_mem_nil, false_imp_iff, implies_true, and_true]
  exact Field.commute_of_set (fun _ _ => rfl) (fun _ _ => rfl) fun _ _ _ => rfl

theorem ofDraft_eq_ok_iff (d : Draft) (s : Snapshot) : ofDraft d = .ok s ↔ Conforms d s := by
  have hservices := list_eq_ok_iff Service.ofDraft_eq_ok_iff
  have hnames : (fields.map (·.name)).Nodup := by decide
  rw [ofDraft, record_eq_ok_iff fields_commute hnames]
  constructor
  · rintro ⟨hrecord, h⟩
    obtain ⟨clientId, hclientId, h⟩ := (fills_optional text_eq_ok_iff rfl).mp h
    obtain ⟨services, hs, h⟩ := (fills_optional hservices rfl).mp h
    obtain rfl := Field.fills_nil.mp h
    exact ⟨hrecord, hclientId, hs⟩
  · rintro ⟨hrecord, hclientId, hs⟩
    exact ⟨hrecord, (fills_optional text_eq_ok_iff rfl).mpr ⟨_, hclientId,
      (fills_optional hservices rfl).mpr ⟨_, hs, Field.fills_nil.mpr rfl⟩⟩⟩

/-- Only the value of a well-formed text counts. -/
theorem decode_of_isDocument {d : Draft} {bytes : List UInt8} (h : IsDocument d bytes) :
    decode bytes = ofDraft d := by
  rw [decode, Json.Document.read_of_isDocument h, ofDocument]
  cases ofDraft d <;> rfl

/-- What is decoded is well-formed, and its value conforms to the schema. -/
theorem exists_conforms_of_decode {bytes : List UInt8} {s : Snapshot} (h : decode bytes = .ok s) :
    ∃ d, IsDocument d bytes ∧ Conforms d s := by
  obtain ⟨r, hr, h⟩ := bind_eq_ok_iff.mp h
  split at h
  case isTrue hcomplete =>
    obtain rfl := Except.ok.inj h
    have hread : Json.Document.read bytes = ⟨(Json.Document.read bytes).root, true⟩ := by
      rw [← hcomplete]
    exact ⟨_, (Json.read_eq_iff_isDocument _ _).mp hread, (ofDraft_eq_ok_iff _ r).mp hr⟩
  case isFalse => exact nomatch h

/-- What is decoded is a whole document that conforms to the schema. -/
theorem decode_eq_ok_iff (bytes : List UInt8) (s : Snapshot) :
    decode bytes = .ok s ↔ ∃ d, IsDocument d bytes ∧ Conforms d s := by
  constructor
  · exact exists_conforms_of_decode
  · rintro ⟨d, hd, hs⟩
    rw [decode_of_isDocument hd]
    exact (ofDraft_eq_ok_iff d s).mpr hs

/-- A well-formed text is decoded exactly when its value conforms to the schema, to the snapshot
that the schema reads from it. -/
theorem decode_iff_conforms {d : Draft} {bytes : List UInt8} (h : IsDocument d bytes)
    (s : Snapshot) : decode bytes = .ok s ↔ Conforms d s := by
  rw [decode_of_isDocument h, ofDraft_eq_ok_iff]

/-- A service by position, behind a member that no field has. -/
theorem decode_positional_service :
    decode (utf8 "\x7b\"more\":[],\"services\":[[\"a\",null,3]]\x7d".toList) =
      .ok ⟨"", [⟨"a", .unknown, 3, 0, 0, []⟩]⟩ := by
  have hdocument := Json.Value.isDocument_write (.object [("more", .array []),
    ("services", .array [.array [.string "a", .null, .number 3]])])
  have hservice : Service.Conforms (.array [.string (some "a"), .null, .number (.ofNat 3)] true)
      ⟨"a", .unknown, 3, 0, 0, []⟩ :=
    { record := .array _ (by decide)
      name := ⟨_, rfl, rfl⟩
      status := .inr ⟨_, rfl, .null _, by simp, by simp⟩
      instances := .inr ⟨_, rfl, .inr ⟨_, rfl, Json.value_decimal 3⟩⟩
      healthy := .inl ⟨rfl, rfl⟩
      unhealthy := .inl ⟨rfl, rfl⟩
      apis := .inl ⟨rfl, rfl⟩ }
  exact (decode_iff_conforms hdocument _).mpr
    { record := .object [("more", .array [] true), ("services", _)] (by decide)
      clientId := .inl ⟨rfl, rfl⟩
      services := .inr ⟨_, rfl, _, rfl, .cons hservice .nil⟩ }

end Snapshot

end StatusBoard
