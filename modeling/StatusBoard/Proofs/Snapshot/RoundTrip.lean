import StatusBoard.Proofs.Snapshot.Acceptance
import StatusBoard.Snapshot.Encoding

/-!
A snapshot survives being written and read: what the encoder writes conforms to the schema, record
by record, and the schema reads it as the snapshot it came from.
-/
namespace StatusBoard

open Schema
open Json (Draft Value)

section Values

theorem isCount_number (n : UInt64) : IsCount (Value.number n.toNat).draft n :=
  ⟨Json.decimal n.toNat, rfl, Json.value_decimal n.toNat⟩

variable {α : Type} {P : Draft → α → Prop}

theorem listOf_array (write : α → Value) (hwrite : ∀ x, P (write x).draft x) (xs : List α) :
    ListOf P (Value.array (xs.map write)).draft xs := by
  refine ⟨(xs.map write).map Value.draft, by rw [Value.draft, Value.drafts_eq_map], ?_⟩
  rw [List.map_map, List.forall₂_map_left_iff]
  exact List.forall₂_same.mpr fun x _ => hwrite x

/-- A field that is there. -/
theorem given {absent : α} {v : Option Draft} {d : Draft} {x : α} (hv : v = some d) (h : P d x) :
    Optional P absent v x :=
  .inr ⟨d, hv, h⟩

/-- An object with the members of a record in order. -/
theorem isRecord_object {keys : List String} {ms : List (String × Value)}
    (hkeys : ms.map (·.1) = keys) (hnodup : keys.Nodup) :
    IsRecord keys (Value.object ms).draft := by
  have hdraft : (Value.object ms).draft =
      .object ((ms.map fun m => (m.1, m.2.draft)).map fun m => (some m.1, m.2)) true := by
    rw [Value.draft, Value.memberDrafts_eq_map, List.map_map]
    rfl
  have hnames : (ms.map fun m => (m.1, m.2.draft)).map (·.1) = keys := by
    rw [← hkeys, List.map_map]
    rfl
  rw [hdraft]
  exact .object _ fun k _ => hnames ▸ List.nodup_iff_count.mp hnodup k

end Values

theorem Health.isStatus_word (h : Health) : IsStatus (.string (some h.word)) h where
  parses := .string _ _
  healthy := by cases h <;> simp [word]
  unhealthy := by cases h <;> simp [word]

theorem Api.conforms_toValue (a : Api) : Conforms a.toValue.draft a where
  record := isRecord_object rfl (by decide)
  path := ⟨_, rfl, rfl⟩
  methods := given rfl (.inr (listOf_array Value.string (fun _ => rfl) a.methods))
  secured := given rfl rfl
  async := given rfl rfl

theorem Service.conforms_toValue (s : Service) : Conforms s.toValue.draft s where
  record := isRecord_object rfl (by decide)
  name := ⟨_, rfl, rfl⟩
  status := given rfl s.health.isStatus_word
  instances := given rfl (.inr (isCount_number s.instances))
  healthy := given rfl (.inr (isCount_number s.healthy))
  unhealthy := given rfl (.inr (isCount_number s.unhealthy))
  apis := given rfl (.inr (listOf_array Api.toValue Api.conforms_toValue s.apis))

theorem Snapshot.conforms_toValue (s : Snapshot) : Conforms s.toValue.draft s where
  record := isRecord_object rfl (by decide)
  clientId := given rfl rfl
  services := given rfl (listOf_array Service.toValue Service.conforms_toValue s.services)

/-- Decoding undoes encoding. -/
theorem Snapshot.decode_encode (s : Snapshot) : decode s.encode.toUTF8.toList = .ok s := by
  rw [encode, decode_of_isDocument s.toValue.isDocument_text]
  exact (ofDraft_eq_ok_iff _ s).mpr s.conforms_toValue

end StatusBoard
