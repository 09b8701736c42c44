import Mathlib.Data.List.Forall2
import StatusBoard.Proofs.Record.Filling
import StatusBoard.Proofs.Snapshot.Schema
import StatusBoard.Snapshot.Decoding

/-!
The readers of single values. For each there is one lemma that says which values it accepts and
what it makes of them, and those are the values that the schema allows there.
-/
namespace StatusBoard

open Schema
open Json (Draft Numeral)

section Values

theorem text_eq_ok_iff (d : Draft) (s : String) : d.text = .ok s ↔ IsText d s := by
  constructor
  · intro h
    unfold Draft.text at h
    split at h
    · exact congrArg (Draft.string <| some ·) (Except.ok.inj h)
    · exact nomatch h
  · rintro rfl
    rfl

theorem flag_eq_ok_iff (d : Draft) (b : Bool) : d.flag = .ok b ↔ IsFlag d b := by
  constructor
  · intro h
    unfold Draft.flag at h
    split at h
    · exact congrArg Draft.bool (Except.ok.inj h)
    · exact nomatch h
  · rintro rfl
    rfl

/-- Only a literal without sign, fraction and exponent stands for an integer from zero on. -/
theorem number?_eq_integer_iff (l : Numeral) (m : Nat) :
    l.number? = some (.integer m) ↔
      ∃ ds, l = ⟨false, ds, none, none⟩ ∧ Numeral.value ds = m ∧ m < UInt64.size := by
  have hfloat : ∀ b, l.size.map (Json.Number.float b) ≠ some (.integer m) := by
    intro b h
    obtain ⟨_, _, h⟩ := Option.map_eq_some_iff.mp h
    exact nomatch h
  constructor
  · intro h
    obtain ⟨negative, ds, fraction, exponent⟩ := l
    cases negative with
    | false =>
      simp only [Numeral.number?, Bool.false_eq_true, if_false] at h
      split at h
      case isTrue hplain =>
        obtain ⟨rfl, rfl, hrange⟩ := hplain
        obtain rfl := Int.ofNat.inj (Json.Number.integer.inj (Option.some.inj h))
        exact ⟨ds, rfl, rfl, hrange⟩
      case isFalse => exact absurd h (hfloat _)
    | true =>
      simp only [Numeral.number?, if_true] at h
      split at h
      case isTrue hplain =>
        have hinteger := Json.Number.integer.inj (Option.some.inj h)
        omega
      case isFalse => exact absurd h (hfloat _)
  · rintro ⟨ds, rfl, rfl, hm⟩
    exact if_pos ⟨rfl, rfl, hm⟩

theorem count_eq_ok_iff (d : Draft) (n : UInt64) : d.count = .ok n ↔ IsCount d n := by
  constructor
  · intro h
    unfold Draft.count at h
    split at h
    case h_1 i hfound =>
      split at h
      case isTrue => exact nomatch h
      case isFalse hi =>
        obtain ⟨m, rfl⟩ := Int.eq_ofNat_of_zero_le (Int.not_lt.mp hi)
        cases d with
        | number l =>
          obtain ⟨number, hnumber, hfound⟩ := Option.map_eq_some_iff.mp hfound
          cases number with
          | integer i =>
            obtain rfl : i = m := Found.integer.inj hfound
            obtain ⟨ds, rfl, hvalue, hm⟩ := (number?_eq_integer_iff l m).mp hnumber
            obtain rfl : UInt64.ofNat m = n := Except.ok.inj h
            exact ⟨ds, rfl, by rw [hvalue, UInt64.toNat_ofNat_of_lt' hm]⟩
          | float => exact nomatch hfound
        | string s => cases s <;> exact nomatch hfound
        | null | bool | array | object | broken => exact nomatch hfound
    case h_2 => exact nomatch h
  · rintro ⟨ds, rfl, hvalue⟩
    have hnumber := (number?_eq_integer_iff ⟨false, ds, none, none⟩ n.toNat).mpr
      ⟨ds, rfl, hvalue, n.toNat_lt_size⟩
    have hfound : (Draft.number ⟨false, ds, none, none⟩).found? = some (.integer n.toNat) := by
      rw [Draft.found?, hnumber]
      rfl
    simp [Draft.count, hfound]

variable {α : Type}

theorem orNull_eq_ok_iff {value : Draft → Except Mismatch α} {P : Draft → α → Prop}
    (hvalue : ∀ d x, value d = .ok x ↔ P d x) (hnull : ∀ x, ¬P .null x) (absent : α) (d : Draft)
    (x : α) : Draft.orNull absent value d = .ok x ↔ OrNull P absent d x := by
  by_cases hd : d = .null
  · subst hd
    rw [Draft.orNull, OrNull, Except.ok.injEq, or_iff_left (hnull x), and_iff_right rfl, eq_comm]
  · have hvalue' : Draft.orNull absent value d = value d := by
      cases d <;> first | rfl | exact absurd rfl hd
    rw [hvalue', hvalue, OrNull, or_iff_right (fun h => hd h.1)]

theorem mapM_eq_ok_iff {item : Draft → Except Mismatch α} {P : Draft → α → Prop}
    (hitem : ∀ d x, item d = .ok x ↔ P d x) (ds : List Draft) (xs : List α) :
    ds.mapM item = .ok xs ↔ List.Forall₂ P ds xs := by
  induction ds generalizing xs with
  | nil =>
    rw [List.mapM_nil, List.forall₂_nil_left_iff]
    exact ⟨fun h => (Except.ok.inj h).symm, fun h => congrArg _ h.symm⟩
  | cons d ds ih =>
    simp only [List.mapM_cons, bind_eq_ok_iff, List.forall₂_cons_left_iff, hitem, ih]
    constructor
    · rintro ⟨x, hx, ys, hys, h⟩
      exact ⟨x, ys, hx, hys, (Except.ok.inj h).symm⟩
    · rintro ⟨x, ys, hx, hys, rfl⟩
      exact ⟨x, hx, ys, hys, rfl⟩

theorem list_eq_ok_iff {item : Draft → Except Mismatch α} {P : Draft → α → Prop}
    (hitem : ∀ d x, item d = .ok x ↔ P d x) (d : Draft) (xs : List α) :
    Draft.list item d = .ok xs ↔ ListOf P d xs := by
  constructor
  · intro h
    cases d with
    | array ds closed =>
      obtain ⟨ys, hys, h⟩ := bind_eq_ok_iff.mp h
      cases closed with
      | false => exact nomatch h
      | true =>
        obtain rfl : ys = xs := Except.ok.inj h
        exact ⟨ds, rfl, (mapM_eq_ok_iff hitem ds ys).mp hys⟩
    | null | bool | number | string | object | broken => exact nomatch h
  · rintro ⟨ds, rfl, h⟩
    exact bind_eq_ok_iff.mpr ⟨xs, (mapM_eq_ok_iff hitem ds xs).mpr h, rfl⟩

/-- Null is no list. -/
theorem not_listOf_null {P : Draft → α → Prop} (xs : List α) : ¬ListOf P .null xs :=
  fun ⟨_, h, _⟩ => nomatch h

theorem not_isCount_null (n : UInt64) : ¬IsCount .null n :=
  fun ⟨_, h, _⟩ => nomatch h

end Values

section Status

open Json.Draft

mutual

theorem isSound_iff : (n : Nat) → (d : Draft) → (d.isSound (n + 1) = true ↔ Parses n d)
  | n, .null => ⟨fun _ => .null n, fun _ => rfl⟩
  | n, .bool b => ⟨fun _ => .bool n b, fun _ => rfl⟩
  | n, .number l => ⟨fun h => .number n l h, fun h => by cases h; assumption⟩
  | n, .string none => ⟨fun h => (nomatch h), fun h => (nomatch h)⟩
  | n, .string (some s) => ⟨fun _ => .string n s, fun _ => rfl⟩
  | 0, .array ds closed => by
    rw [isSound]
    exact ⟨fun h => by simp at h, fun h => nomatch h⟩
  | n + 1, .array ds closed => by
    have hitems := areSound_iff n ds
    rw [isSound, Bool.and_eq_true, Bool.and_eq_true, decide_eq_true_eq]
    constructor
    · rintro ⟨⟨rfl, _⟩, h⟩
      exact .array n ds (hitems.mp h)
    · intro h
      cases h with
      | array _ _ h => exact ⟨⟨rfl, by omega⟩, hitems.mpr h⟩
  | 0, .object ms closed => by
    rw [isSound]
    exact ⟨fun h => by simp at h, fun h => nomatch h⟩
  | n + 1, .object ms closed => by
    have hmembers := areSoundMembers_iff n ms
    rw [isSound, Bool.and_eq_true, Bool.and_eq_true, decide_eq_true_eq]
    constructor
    · rintro ⟨⟨rfl, _⟩, h⟩
      obtain ⟨ns, rfl, hns⟩ := hmembers.mp h
      exact .object n ns hns
    · intro h
      cases h with
      | object _ ns h => exact ⟨⟨rfl, by omega⟩, hmembers.mpr ⟨ns, rfl, h⟩⟩
  | n, .broken => ⟨fun h => (nomatch h), fun h => (nomatch h)⟩

theorem areSound_iff : (n : Nat) → (ds : List Draft) →
    (areSound (n + 1) ds = true ↔ ∀ d ∈ ds, Parses n d)
  | n, [] => ⟨fun _ d hd => absurd hd List.not_mem_nil, fun _ => rfl⟩
  | n, d :: ds => by
    rw [areSound, Bool.and_eq_true, isSound_iff n d, areSound_iff n ds, List.forall_mem_cons]

theorem areSoundMembers_iff : (n : Nat) → (ms : List (Option String × Draft)) →
    (areSoundMembers (n + 1) ms = true ↔
      ∃ ns : List (String × Draft),
        ms = ns.map (fun m => (some m.1, m.2)) ∧ ∀ m ∈ ns, Parses n m.2)
  | n, [] => ⟨fun _ => ⟨[], rfl, fun m hm => absurd hm List.not_mem_nil⟩, fun _ => rfl⟩
  | n, (k, d) :: ms => by
    rw [areSoundMembers, Bool.and_eq_true, Bool.and_eq_true, isSound_iff n d,
      areSoundMembers_iff n ms]
    constructor
    · rintro ⟨⟨hk, hd⟩, ns, rfl, hns⟩
      obtain ⟨k, rfl⟩ := Option.isSome_iff_exists.mp hk
      exact ⟨(k, d) :: ns, rfl, List.forall_mem_cons.mpr ⟨hd, hns⟩⟩
    · rintro ⟨ns, hms, hns⟩
      cases ns with
      | nil => exact nomatch hms
      | cons m ns =>
        obtain ⟨hm, rfl⟩ := List.cons.inj hms
        obtain ⟨rfl, rfl⟩ := Prod.mk.inj hm
        obtain ⟨hd, hns⟩ := List.forall_mem_cons.mp hns
        exact ⟨⟨rfl, hd⟩, ns, rfl, hns⟩

end

theorem ofWord_eq_iff (w : String) (h : Health) :
    Health.ofWord w = h ↔
      (h = .healthy ↔ w = "HEALTHY") ∧ (h = .unhealthy ↔ w = "UNHEALTHY") := by
  unfold Health.ofWord
  by_cases hhealthy : w = "HEALTHY"
  · subst hhealthy
    cases h <;> simp
  · by_cases hunhealthy : w = "UNHEALTHY"
    · subst hunhealthy
      cases h <;> simp
    · cases h <;> simp [hhealthy, hunhealthy]

theorem health_eq_ok_iff (d : Draft) (h : Health) : Health.ofDraft d = .ok h ↔ IsStatus d h := by
  have hparses := isSound_iff (maxDepth - 3) d
  unfold Health.ofDraft
  split
  case isFalse hsound =>
    exact ⟨fun h => (nomatch h), fun hd => absurd (hparses.mpr hd.parses) hsound⟩
  case isTrue hsound =>
    have hstatus : IsStatus d h ↔ (h = .healthy ↔ d = .string (some "HEALTHY")) ∧
        (h = .unhealthy ↔ d = .string (some "UNHEALTHY")) :=
      ⟨fun hd => ⟨hd.healthy, hd.unhealthy⟩, fun ⟨hh, hu⟩ => ⟨hparses.mp hsound, hh, hu⟩⟩
    rw [Except.ok.injEq, hstatus]
    split
    case h_1 w =>
      rw [ofWord_eq_iff]
      simp only [string.injEq, Option.some.injEq]
    case h_2 hword =>
      have hhealthy : d ≠ .string (some "HEALTHY") := hword "HEALTHY"
      have hunhealthy : d ≠ .string (some "UNHEALTHY") := hword "UNHEALTHY"
      simp only [hhealthy, hunhealthy, iff_false]
      cases h <;> simp

end Status

end StatusBoard
