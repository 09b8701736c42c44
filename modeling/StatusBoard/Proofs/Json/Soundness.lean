import StatusBoard.Proofs.Json.Reading

/-!
The reader accepts documents only. From where a value may stand, a text that is accepted begins with
the bytes of a value, and what is behind them is accepted from where that value is settled.
-/
namespace StatusBoard.Json.Reader

open Grammar

/-- Behind what led to `x` these bytes make the whole text one of `d`. -/
def Accepts (x : Reader) (t : List UInt8) (d : Draft) : Prop :=
  (t.foldl step x).document = ⟨d, true⟩

section Refusals

variable {t : List UInt8} {d : Draft}

theorem accepts_cons {x : Reader} {b : UInt8} : Accepts x (b :: t) d ↔ Accepts (x.step b) t d :=
  Iff.rfl

theorem not_accepts_stopped (e : Draft) : ¬Accepts (.stopped ⟨e, false⟩) t d := by
  have hstay : t.foldl step (.stopped ⟨e, false⟩) = .stopped ⟨e, false⟩ := by
    induction t with
    | nil => rfl
    | cons b t ih => exact ih
  intro h
  rw [Accepts, hstay] at h
  exact nomatch h

theorem not_accepts_stop (fs : List Frame) : ¬Accepts (stop fs) t d :=
  not_accepts_stopped _

end Refusals

section Spacing

variable {fs : List Frame} {due : Due} {t : List UInt8} {d : Draft}

theorem space_of_isSpace {b : UInt8} (hb : isSpace b = true) :
    b = code ' ' ∨ b = code '\t' ∨ b = code '\n' ∨ b = code '\r' := by
  rwa [isSpace, Bool.or_eq_true, Bool.or_eq_true, Bool.or_eq_true, or_assoc, or_assoc, beq_iff_eq,
    beq_iff_eq, beq_iff_eq, beq_iff_eq] at hb

theorem spaces_cons {b : UInt8} (hb : isSpace b = true) (ht : Spaces t) : Spaces (b :: t) :=
  List.forall_mem_cons.mpr ⟨space_of_isSpace hb, ht⟩

theorem exists_dispatch (h : Accepts (.reading fs (.between due)) t d) :
    ∃ u b v, t = u ++ b :: v ∧ Spaces u ∧ isSpace b = false ∧ Accepts (dispatch fs due b) v d := by
  induction t with
  | nil => exact nomatch h
  | cons b t ih =>
    have hstep : step (.reading fs (.between due)) b =
        if isSpace b then .reading fs (.between due) else dispatch fs due b := rfl
    rw [accepts_cons, hstep] at h
    cases hb : isSpace b with
    | true =>
      rw [if_pos hb] at h
      obtain ⟨u, c, v, rfl, hu, hc, h⟩ := ih h
      exact ⟨b :: u, c, v, rfl, spaces_cons hb hu, hc, h⟩
    | false =>
      rw [if_neg (Bool.eq_false_iff.mp hb)] at h
      exact ⟨[], b, t, rfl, spaces_nil, hb, h⟩

theorem accepts_of_dispatch {u v : List UInt8} {b : UInt8} (hu : Spaces u) (hb : isSpace b = false)
    (h : Accepts (dispatch fs due b) v d) :
    Accepts (.reading fs (.between due)) (u ++ b :: v) d := by
  have hstep : step (.reading fs (.between due)) b = dispatch fs due b :=
    if_neg (Bool.eq_false_iff.mp hb)
  rwa [Accepts, List.foldl_append, foldl_spaces_between _ _ hu, List.foldl_cons, hstep]

/-- Behind the value of the whole text there is white space only. -/
theorem spaces_of_accepts_finished {e : Draft} (h : Accepts (.finished d) t e) :
    Spaces t ∧ d = e := by
  induction t with
  | nil => exact ⟨spaces_nil, (Document.mk.inj h).1⟩
  | cons b t ih =>
    have hstep : step (.finished d) b =
        if isSpace b then .finished d else .stopped ⟨d, false⟩ := rfl
    rw [accepts_cons, hstep] at h
    split at h
    case isTrue hb => exact ⟨spaces_cons hb (ih h).1, (ih h).2⟩
    case isFalse => exact absurd h (not_accepts_stopped d)

end Spacing

section Words

theorem exists_word {fs : List Frame} {word : List UInt8} {meaning : Draft} {t : List UInt8}
    {d : Draft} (hword : word ≠ []) (h : Accepts (.reading fs (.word word meaning)) t d) :
    ∃ v, t = word ++ v ∧ Accepts (settle fs meaning) v d := by
  induction word generalizing t with
  | nil => exact absurd rfl hword
  | cons c word ih =>
    cases t with
    | nil => exact nomatch h
    | cons b t =>
      rw [accepts_cons] at h
      cases word with
      | nil =>
        have hstep : step (.reading fs (.word [c] meaning)) b =
            if b == c then settle fs meaning else stop fs := rfl
        rw [hstep] at h
        split at h
        case isTrue hb => exact ⟨t, congrArg (· :: t) (eq_of_beq hb), h⟩
        case isFalse => exact absurd h (not_accepts_stop fs)
      | cons c' word =>
        have hstep : step (.reading fs (.word (c :: c' :: word) meaning)) b =
            if b == c then .reading fs (.word (c' :: word) meaning) else stop fs := rfl
        rw [hstep] at h
        split at h
        case isTrue hb =>
          obtain ⟨v, rfl, hv⟩ := ih (List.cons_ne_nil _ _) h
          exact ⟨v, congrArg (· :: (c' :: word ++ v)) (eq_of_beq hb), hv⟩
        case isFalse => exact absurd h (not_accepts_stop fs)

end Words

section Numbers

/-- What is read of a literal and where in it the reader stands. -/
inductive Partial : Numeral → NumeralPart → List UInt8 → Prop
  | sign (negative : Bool) :
      Partial ⟨negative, [], none, none⟩ .sign (if negative then [code '-'] else [])
  | whole (negative : Bool) (ds : List Nat) (hds : IsWhole ds) :
      Partial ⟨negative, ds, none, none⟩ (if ds = [0] then .zero else .whole)
        ((if negative then [code '-'] else []) ++ digitCodes ds)
  | fraction (negative : Bool) (whole ds : List Nat) (hwhole : IsWhole whole)
      (hds : ∀ d ∈ ds, d < 10) :
      Partial ⟨negative, whole, some ds, none⟩ (if ds = [] then .point else .fraction)
        ((if negative then [code '-'] else []) ++ digitCodes whole ++ ([code '.'] ++ digitCodes ds))
  | mark (negative : Bool) (whole : List Nat) (f : Option (List Nat)) (t : List UInt8)
      (mark : UInt8) (hwhole : IsWhole whole) (hf : Fraction f t)
      (hmark : mark = code 'e' ∨ mark = code 'E') :
      Partial ⟨negative, whole, f, some (false, [])⟩ .mark
        ((if negative then [code '-'] else []) ++ digitCodes whole ++ t ++ [mark])
  | power (negative : Bool) (whole : List Nat) (f : Option (List Nat)) (t : List UInt8)
      (mark : UInt8) (down : Bool) (sign : List UInt8) (ds : List Nat) (hwhole : IsWhole whole)
      (hf : Fraction f t) (hmark : mark = code 'e' ∨ mark = code 'E')
      (hsign : ExponentSign down sign) (hds : ∀ d ∈ ds, d < 10) :
      Partial ⟨negative, whole, f, some (down, ds)⟩ (if ds = [] then .markSign else .power)
        ((if negative then [code '-'] else []) ++ digitCodes whole ++ t ++
          ([mark] ++ sign ++ digitCodes ds))

theorem exists_digit {b : UInt8} (hb : isDigit b = true) :
    ∃ d, d < 10 ∧ b = .ofNat (0x30 + d) := by
  simp only [isDigit, Bool.and_eq_true, decide_eq_true_eq, UInt8.le_iff_toNat_le] at hb
  have hlow : 0x30 ≤ b.toNat := hb.1
  have hhigh : b.toNat ≤ 0x39 := hb.2
  refine ⟨b.toNat - 0x30, by omega, ?_⟩
  rw [Nat.add_sub_of_le hlow, UInt8.ofNat_toNat]

theorem digitCodes_concat (ds : List Nat) (d : Nat) :
    digitCodes (ds ++ [d]) = digitCodes ds ++ [.ofNat (0x30 + d)] := by
  rw [digitCodes, List.map_append]
  rfl

theorem digits_concat {ds : List Nat} {d : Nat} (hds : ∀ d ∈ ds, d < 10) (hd : d < 10) :
    IsDigits (ds ++ [d]) where
  ne_nil := List.concat_ne_nil d ds
  lt_ten := List.forall_mem_append.mpr ⟨hds, List.forall_mem_singleton.mpr hd⟩

theorem isWhole_concat {ds : List Nat} {d : Nat} (hds : IsWhole ds) (hne : ds ≠ [0]) (hd : d < 10) :
    IsWhole (ds ++ [d]) where
  toIsDigits := digits_concat hds.lt_ten hd
  no_leading_zero := by
    obtain ⟨e, es, rfl⟩ := List.exists_cons_of_ne_nil hds.ne_nil
    exact .inr (hds.no_leading_zero.resolve_left hne)

theorem isWhole_singleton {d : Nat} (hd : d < 10) : IsWhole [d] where
  ne_nil := List.cons_ne_nil d []
  lt_ten := List.forall_mem_singleton.mpr hd
  no_leading_zero := by
    by_cases h : d = 0
    · exact .inl (congrArg ([·]) h)
    · exact .inr fun hhead => h (Option.some.inj hhead)

section Extensions

variable {negative : Bool} {whole : List Nat} {f : Option (List Nat)} {t : List UInt8} {b : UInt8}
  {m : Numeral} {next : NumeralPart}

theorem partial_of_mark (negative : Bool) (hwhole : IsWhole whole) (hf : Fraction f t)
    (hb : (if b == 0x65 || b == 0x45 then
      some ((⟨negative, whole, f, some (false, [])⟩ : Numeral), NumeralPart.mark) else none) =
        some (m, next)) :
    Partial m next ((if negative then [code '-'] else []) ++ digitCodes whole ++ t ++ [b]) := by
  split at hb
  case isTrue hmark =>
    obtain ⟨rfl, rfl⟩ := Prod.mk.inj (Option.some.inj hb)
    rw [Bool.or_eq_true, beq_iff_eq, beq_iff_eq] at hmark
    exact .mark negative whole f t b hwhole hf hmark
  case isFalse => exact nomatch hb

theorem partial_of_point (hwhole : IsWhole whole)
    (hb : (if b == 0x2e then some ((⟨negative, whole, some [], none⟩ : Numeral), NumeralPart.point)
      else if b == 0x65 || b == 0x45 then
        some ((⟨negative, whole, none, some (false, [])⟩ : Numeral), NumeralPart.mark) else none) =
          some (m, next)) :
    Partial m next ((if negative then [code '-'] else []) ++ digitCodes whole ++ [b]) := by
  split at hb
  case isTrue hpoint =>
    obtain ⟨rfl, rfl⟩ := Prod.mk.inj (Option.some.inj hb)
    obtain rfl : b = code '.' := eq_of_beq hpoint
    exact .fraction negative whole [] hwhole fun d hd => absurd hd List.not_mem_nil
  case isFalse =>
    have h := partial_of_mark negative hwhole .none hb
    rwa [List.append_nil] at h

theorem partial_of_sign {down : Bool} {mark : UInt8} (hwhole : IsWhole whole) (hf : Fraction f t)
    (hmark : mark = code 'e' ∨ mark = code 'E') (hsign : ExponentSign down [b]) :
    Partial ⟨negative, whole, f, some (down, [])⟩ .markSign
      ((if negative then [code '-'] else []) ++ digitCodes whole ++ t ++ [mark] ++ [b]) := by
  have h := Partial.power negative whole f t mark down [b] [] hwhole hf hmark hsign
    fun d hd => absurd hd List.not_mem_nil
  simpa only [digitCodes, List.map_nil, List.append_nil, List.append_assoc, if_true] using h

theorem partial_of_digit {down : Bool} {mark : UInt8} {sign : List UInt8} {ds : List Nat} {d : Nat}
    (hwhole : IsWhole whole) (hf : Fraction f t) (hmark : mark = code 'e' ∨ mark = code 'E')
    (hsign : ExponentSign down sign) (hds : ∀ d ∈ ds, d < 10) (hd : d < 10) :
    Partial ⟨negative, whole, f, some (down, ds ++ [d])⟩ .power
      ((if negative then [code '-'] else []) ++ digitCodes whole ++ t ++
        ([mark] ++ sign ++ digitCodes ds) ++ [.ofNat (0x30 + d)]) := by
  have hdigits := digits_concat hds hd
  have h := Partial.power negative whole f t mark down sign (ds ++ [d]) hwhole hf hmark hsign
    hdigits.lt_ten
  rw [if_neg hdigits.ne_nil, digitCodes_concat] at h
  simpa only [List.append_assoc] using h

end Extensions

/-- The step: the literal goes on with one more byte. -/
theorem Partial.extend {n m : Numeral} {part next : NumeralPart} {t : List UInt8} {b : UInt8}
    (h : Partial n part t) (hb : extend? n part b = some (m, next)) :
    Partial m next (t ++ [b]) := by
  cases h with
  | sign negative =>
    simp only [extend?] at hb
    split at hb
    case isTrue hdigit =>
      obtain ⟨d, hd, rfl⟩ := exists_digit hdigit
      obtain ⟨rfl, rfl⟩ := Prod.mk.inj (Option.some.inj hb)
      have h : Partial _ _ (_ ++ [.ofNat (0x30 + d)]) :=
        .whole negative [d] (isWhole_singleton hd)
      simpa only [digit_digitCode d hd, digitCode_beq_zero d hd, decide_eq_true_eq,
        List.cons.injEq, and_true] using h
    case isFalse => cases hb
  | whole negative ds hds =>
    split at hb
    case isTrue => exact partial_of_point hds hb
    case isFalse hne =>
      cases hdigit : isDigit b with
      | true =>
        obtain ⟨d, hd, rfl⟩ := exists_digit hdigit
        rw [extend?_whole negative ds d hd] at hb
        obtain ⟨rfl, rfl⟩ := Prod.mk.inj (Option.some.inj hb)
        have hlong : ds ++ [d] ≠ [0] := fun h => hds.ne_nil (List.append_inj_left' h rfl)
        have h := Partial.whole negative (ds ++ [d]) (isWhole_concat hds hne hd)
        rwa [if_neg hlong, digitCodes_concat, ← List.append_assoc] at h
      | false =>
        simp only [extend?, hdigit] at hb
        exact partial_of_point hds hb
  | fraction negative whole ds hwhole hds =>
    cases hdigit : isDigit b with
    | true =>
      obtain ⟨d, hd, rfl⟩ := exists_digit hdigit
      have hpart : (if ds = [] then NumeralPart.point else .fraction) = .point ∨
          (if ds = [] then NumeralPart.point else .fraction) = .fraction := by
        split
        · exact .inl rfl
        · exact .inr rfl
      rw [extend?_fraction negative whole ds _ hpart d hd] at hb
      obtain ⟨rfl, rfl⟩ := Prod.mk.inj (Option.some.inj hb)
      have hdigits := digits_concat hds hd
      have h := Partial.fraction negative whole (ds ++ [d]) hwhole hdigits.lt_ten
      rw [if_neg hdigits.ne_nil, digitCodes_concat] at h
      simpa only [List.append_assoc] using h
    | false =>
      split at hb
      case isTrue => simp [extend?, hdigit] at hb
      case isFalse hne =>
        simp only [extend?, hdigit] at hb
        exact partial_of_mark negative hwhole (.some ds ⟨hne, hds⟩) hb
  | mark negative whole f t mark hwhole hf hmark =>
    cases hdigit : isDigit b with
    | true =>
      obtain ⟨d, hd, rfl⟩ := exists_digit hdigit
      rw [extend?_power negative whole f false [] _ (.inl rfl) d hd] at hb
      obtain ⟨rfl, rfl⟩ := Prod.mk.inj (Option.some.inj hb)
      exact partial_of_digit hwhole hf hmark .none (fun d hd => absurd hd List.not_mem_nil) hd
    | false =>
      simp only [extend?, hdigit, Bool.false_eq_true, if_false, decide_true, Bool.true_and] at hb
      split at hb
      case isTrue hsign =>
        obtain ⟨rfl, rfl⟩ := Prod.mk.inj (Option.some.inj hb)
        rcases Bool.or_eq_true _ _ ▸ hsign with hplus | hminus
        · obtain rfl : b = code '+' := eq_of_beq hplus
          exact partial_of_sign hwhole hf hmark .plus
        · obtain rfl : b = code '-' := eq_of_beq hminus
          exact partial_of_sign hwhole hf hmark .minus
      case isFalse => cases hb
  | power negative whole f t mark down sign ds hwhole hf hmark hsign hds =>
    cases hdigit : isDigit b with
    | true =>
      obtain ⟨d, hd, rfl⟩ := exists_digit hdigit
      have hpart : (if ds = [] then NumeralPart.markSign else .power) = .markSign ∨
          (if ds = [] then NumeralPart.markSign else .power) = .power := by
        split
        · exact .inl rfl
        · exact .inr rfl
      rw [extend?_power negative whole f down ds _ (.inr hpart) d hd] at hb
      obtain ⟨rfl, rfl⟩ := Prod.mk.inj (Option.some.inj hb)
      exact partial_of_digit hwhole hf hmark hsign hds hd
    | false =>
      split at hb <;> simp [extend?, hdigit] at hb

theorem Partial.literal {n : Numeral} {part : NumeralPart} {t : List UInt8} (h : Partial n part t)
    (hend : part.mayEnd = true) : Literal n t := by
  cases h with
  | sign | mark => exact nomatch hend
  | whole negative ds hds =>
    have hliteral := Literal.mk ⟨negative, ds, none, none⟩ [] [] hds .none .none
    rwa [List.append_nil, List.append_nil] at hliteral
  | fraction negative whole ds hwhole hds =>
    by_cases hne : ds = []
    · rw [if_pos hne] at hend
      exact nomatch hend
    · have hliteral :=
        Literal.mk ⟨negative, whole, some ds, none⟩ _ [] hwhole (.some ds ⟨hne, hds⟩) .none
      rwa [List.append_nil] at hliteral
  | power negative whole f t mark down sign ds hwhole hf hmark hsign hds =>
    by_cases hne : ds = []
    · rw [if_pos hne] at hend
      exact nomatch hend
    · exact .mk ⟨negative, whole, f, some (down, ds)⟩ t _ hwhole hf
        (.some mark down sign ds hmark hsign ⟨hne, hds⟩)

theorem exists_literal {fs : List Frame} {n : Numeral} {part : NumeralPart} {s t : List UInt8}
    {d : Draft} (hn : Partial n part s) (h : Accepts (.reading fs (.number n part)) t d) :
    ∃ m u v, t = u ++ v ∧ Literal m (s ++ u) ∧ Accepts (settle fs (.number m)) v d := by
  induction t generalizing n part s with
  | nil =>
    have hdocument : Reader.document (.reading fs (.number n part)) =
        if part.mayEnd then ⟨enclose fs (.number n), fs.isEmpty⟩ else ⟨enclose fs .broken, false⟩ :=
      rfl
    rw [Accepts, List.foldl_nil, hdocument] at h
    split at h
    case isTrue hend =>
      obtain ⟨hd, hfs⟩ := Document.mk.inj h
      obtain rfl := List.isEmpty_iff.mp hfs
      refine ⟨n, [], [], rfl, ?_, congrArg (Document.mk · true) hd⟩
      rw [List.append_nil]
      exact hn.literal hend
    case isFalse => exact nomatch h
  | cons b t ih =>
    have hstep : step (.reading fs (.number n part)) b = stepNumber fs n part b := rfl
    rw [accepts_cons, hstep, stepNumber] at h
    split at h
    case h_1 m next hb =>
      obtain ⟨l, u, v, rfl, hl, hv⟩ := ih (hn.extend hb) h
      rw [List.append_assoc] at hl
      exact ⟨l, b :: u, v, rfl, hl, hv⟩
    case h_2 =>
      split at h
      case isTrue hend =>
        rw [Bool.and_eq_true] at hend
        refine ⟨n, [], b :: t, rfl, ?_, ?_⟩
        · rw [List.append_nil]
          exact hn.literal hend.1
        · rwa [accepts_cons, step_settle]
      case isFalse => exact absurd h (not_accepts_stop fs)

end Numbers

section Texts

variable {fs : List Frame} {isKey : Bool} {held : List Glyph} {t : List UInt8} {d : Draft}

theorem hexDigit_of_hexDigit? {d : Nat} {b : UInt8} (h : hexDigit? b = some d) : HexDigit d b := by
  -- letters stand for the digits from ten on
  have hletter : ∀ low high : UInt8, (low ≤ b && b ≤ high) = true → high.toNat = low.toNat + 5 →
      ∃ e, e < 6 ∧ b = .ofNat (low.toNat + e) ∧ b.toNat = low.toNat + e := by
    intro low high hb hhigh
    simp only [Bool.and_eq_true, decide_eq_true_eq, UInt8.le_iff_toNat_le] at hb
    have hsum : low.toNat + (b.toNat - low.toNat) = b.toNat := Nat.add_sub_of_le hb.1
    refine ⟨b.toNat - low.toNat, by omega, ?_, hsum.symm⟩
    rw [hsum, UInt8.ofNat_toNat]
  unfold hexDigit? at h
  split at h
  case isTrue hb =>
    obtain ⟨e, he, rfl⟩ := exists_digit hb
    obtain rfl := Option.some.inj h
    rw [digit_digitCode e he]
    exact .decimal e he
  case isFalse =>
    split at h
    case isTrue hb =>
      obtain ⟨e, he, hcode, hnat⟩ := hletter 0x41 0x46 hb rfl
      have hvalue : b.toNat - 0x37 = d := Option.some.inj h
      have hnat : b.toNat = 0x41 + e := hnat
      obtain rfl : 10 + e = d := by omega
      exact hcode ▸ .upper e he
    case isFalse =>
      split at h
      case isTrue hb =>
        obtain ⟨e, he, hcode, hnat⟩ := hletter 0x61 0x66 hb rfl
        have hvalue : b.toNat - 0x57 = d := Option.some.inj h
        have hnat : b.toNat = 0x61 + e := hnat
        obtain rfl : 10 + e = d := by omega
        exact hcode ▸ .lower e he
      case isFalse => exact nomatch h

theorem exists_shortEscape {b c : UInt8} (h : shortEscape? b = some c) :
    ∃ e ∈ shortEscapes, b = code e.1 ∧ c = code e.2 := by
  have hall : ∀ n < 256, ∀ c ∈ shortEscape? (.ofNat n),
      ∃ e ∈ shortEscapes, UInt8.ofNat n = code e.1 ∧ c = code e.2 := by decide +kernel
  have hb := hall b.toNat b.toNat_lt c
  rw [UInt8.ofNat_toNat] at hb
  exact hb h

theorem exists_hexDigit {count value : Nat}
    (h : Accepts (.reading fs (.text isKey held (.hex count value))) t d) :
    ∃ p b v, t = b :: v ∧ HexDigit p b ∧
      Accepts (if count = 3 then .reading fs (.text isKey (.unit (16 * value + p) :: held) .outside)
        else .reading fs (.text isKey held (.hex (count + 1) (16 * value + p)))) v d := by
  cases t with
  | nil => exact nomatch h
  | cons b t =>
    have hstep : step (.reading fs (.text isKey held (.hex count value))) b =
        stepText fs isKey held (.hex count value) b := rfl
    rw [accepts_cons, hstep] at h
    simp only [stepText] at h
    split at h
    case h_1 => exact absurd h (not_accepts_stop fs)
    case h_2 p hp => exact ⟨p, b, t, rfl, hexDigit_of_hexDigit? hp, h⟩

/-- What stands behind a backslash. -/
theorem exists_escape (h : Accepts (.reading fs (.text isKey held .opened)) t d) :
    ∃ g u v, t = u ++ v ∧ SpelledGlyph g (code '\\' :: u) ∧
      Accepts (.reading fs (.text isKey (g :: held) .outside)) v d := by
  cases t with
  | nil => exact nomatch h
  | cons b t =>
    have hstep : step (.reading fs (.text isKey held .opened)) b =
        stepText fs isKey held .opened b := rfl
    rw [accepts_cons, hstep] at h
    simp only [stepText] at h
    split at h
    case isTrue hb =>
      obtain rfl : b = code 'u' := eq_of_beq hb
      obtain ⟨p, a, t, rfl, ha, h⟩ := exists_hexDigit h
      obtain ⟨q, b, t, rfl, hb, h⟩ := exists_hexDigit h
      obtain ⟨r, c, t, rfl, hc, h⟩ := exists_hexDigit h
      obtain ⟨s, e, t, rfl, he, h⟩ := exists_hexDigit h
      rw [Nat.mul_zero, Nat.zero_add p] at h
      exact ⟨_, [code 'u', a, b, c, e], t, rfl, .unit p q r s a b c e ha hb hc he, h⟩
    case isFalse =>
      split at h
      case h_1 c hc =>
        obtain ⟨e, he, rfl, rfl⟩ := exists_shortEscape hc
        exact ⟨_, [code e.1], t, rfl, .short e.1 e.2 he, h⟩
      case h_2 => exact absurd h (not_accepts_stop fs)

theorem exists_glyphs {held : List Glyph} {t : List UInt8}
    (h : Accepts (.reading fs (.text isKey held .outside)) t d) :
    ∃ gs u v, t = u ++ [code '"'] ++ v ∧ Glyphs gs u ∧
      Accepts (settleText fs isKey (gs.reverse ++ held)) v d := by
  cases t with
  | nil => exact nomatch h
  | cons b t =>
    have hstep : step (.reading fs (.text isKey held .outside)) b =
        stepText fs isKey held .outside b := rfl
    rw [accepts_cons, hstep] at h
    simp only [stepText] at h
    split at h
    case isTrue hb =>
      obtain rfl : b = code '"' := eq_of_beq hb
      exact ⟨[], [], t, rfl, .nil, h⟩
    case isFalse hquote =>
      split at h
      case isTrue hb =>
        obtain rfl : b = code '\\' := eq_of_beq hb
        obtain ⟨g, u, v, rfl, hg, h⟩ := exists_escape h
        obtain ⟨gs, w, x, rfl, hgs, h⟩ := exists_glyphs h
        refine ⟨g :: gs, code '\\' :: u ++ w, x, ?_, .cons g gs _ w hg hgs, ?_⟩
        · simp only [List.append_assoc, List.cons_append]
        · rwa [List.reverse_cons, List.append_assoc, List.singleton_append]
      case isFalse hback =>
        split at h
        case isTrue => exact absurd h (not_accepts_stop fs)
        case isFalse hcontrol =>
          obtain ⟨gs, w, x, rfl, hgs, h⟩ := exists_glyphs h
          refine ⟨.byte b :: gs, b :: w, x, rfl, .cons _ gs [b] w ?_ hgs, ?_⟩
          · exact .plain b (UInt8.not_lt.mp hcontrol) (fun h => hquote (beq_iff_eq.mpr h))
              fun h => hback (beq_iff_eq.mpr h)
          · rwa [List.reverse_cons, List.append_assoc, List.singleton_append]
termination_by t.length

/-- What a row of glyphs in quotes is read to. -/
theorem quoted_of_glyphs {gs : List Glyph} {u : List UInt8} (h : Glyphs gs u) :
    Quoted (Glyph.text? gs) ([code '"'] ++ u ++ [code '"']) := by
  have hgives := Glyph.text?_eq_some_iff (Glyph.unit_lt_of_glyphs h)
  cases hs : Glyph.text? gs with
  | some s =>
    have hquoted := Quoted.proper s.toList gs u h ((hgives s).mp hs)
    rwa [String.ofList_toList] at hquoted
  | none =>
    refine .improper gs u h fun cs hcs => ?_
    rw [Glyph.text?_givesAll hcs] at hs
    exact nomatch hs

end Texts

section Values

variable {fs : List Frame} {t : List UInt8} {d : Draft}

/-- Behind an item or a member there is a comma, or the bracket that closes what is open. -/
theorem exists_separator {f : Frame} {next : Due} {c : UInt8} {e : Draft}
    (hf : ∀ b, afterValue (f :: fs) b =
      if b == 0x2c then .reading (f :: fs) (.between next)
      else if b == c then settle fs e else stop (f :: fs))
    (h : Accepts (.reading (f :: fs) (.between .separator)) t d) :
    ∃ u v, Spaces u ∧
      (t = u ++ [code ','] ++ v ∧ Accepts (.reading (f :: fs) (.between next)) v d ∨
        t = u ++ [c] ++ v ∧ Accepts (settle fs e) v d) := by
  obtain ⟨u, b, v, rfl, hu, -, h⟩ := exists_dispatch h
  refine ⟨u, v, hu, ?_⟩
  rw [List.append_cons]
  simp only [dispatch, hf] at h
  split at h
  case isTrue hb => exact .inl ⟨congrArg (u ++ [·] ++ v) (eq_of_beq hb), h⟩
  split at h
  case isTrue hb => exact .inr ⟨congrArg (u ++ [·] ++ v) (eq_of_beq hb), h⟩
  exact absurd h (not_accepts_stop _)

/-- A key with its colon; the white space behind the colon is counted to it as well. -/
theorem exists_key {ms : List (Option String × Draft)}
    (h : Accepts (.reading (.object ms :: fs) (.between .key)) t d) :
    ∃ k u v, t = u ++ v ∧ (∀ w, Spaces w → Key k (u ++ w)) ∧
      Accepts (.reading (.member ms k :: fs) (.between .value)) v d := by
  obtain ⟨u, b, v, rfl, hu, -, htext⟩ := exists_dispatch h
  simp only [dispatch] at htext
  split at htext
  case isFalse => exact absurd htext (not_accepts_stop _)
  case isTrue hquote =>
    obtain rfl : b = code '"' := eq_of_beq hquote
    obtain ⟨gs, q, v, rfl, hgs, hbehind⟩ := exists_glyphs htext
    rw [List.append_nil] at hbehind
    simp only [settleText, List.reverse_reverse, if_true] at hbehind
    obtain ⟨w, c, v, rfl, hw, -, hvalue⟩ := exists_dispatch hbehind
    simp only [dispatch] at hvalue
    split at hvalue
    case isFalse => exact absurd hvalue (not_accepts_stop _)
    case isTrue hcolon =>
      obtain rfl : c = code ':' := eq_of_beq hcolon
      refine ⟨_, u ++ ([code '"'] ++ q ++ [code '"']) ++ w ++ [code ':'], v, ?_,
        fun x hx => .mk _ _ u w x (quoted_of_glyphs hgs) hu hw hx, hvalue⟩
      simp only [List.append_assoc, List.cons_append, List.nil_append]

/-- What an accepted text begins with, from where a value may stand. -/
def BeginsWithValue (fs : List Frame) (t : List UInt8) (e : Draft) : Prop :=
  ∃ d u v w, t = u ++ v ++ w ∧ Spaces u ∧ Spells (.value d) v ∧ Accepts (settle fs d) w e

/-- Texts shorter than `n` begin with a value where they are accepted. -/
def ValuesBelow (n : Nat) : Prop :=
  ∀ fs t e, t.length < n → Accepts (.reading fs (.between .value)) t e → BeginsWithValue fs t e

theorem exists_items {n : Nat} (hvalues : ValuesBelow n) {items : List Draft} {t : List UInt8}
    (ht : t.length < n) (h : Accepts (.reading (.array items :: fs) (.between .value)) t d) :
    ∃ ds u v, t = u ++ v ∧ Spells (.items ds) u ∧
      Accepts (settle fs (.array (items.reverse ++ ds) true)) v d := by
  obtain ⟨e, u, v, w, rfl, hu, he, hbehind⟩ := hvalues _ _ _ ht h
  obtain ⟨x, y, hx, ⟨rfl, hnext⟩ | ⟨rfl, hend⟩⟩ :=
    exists_separator (c := code ']') (fun _ => rfl) hbehind
  · have hy : y.length < (u ++ v ++ (x ++ [code ','] ++ y)).length := by
      simp only [List.length_append, List.length_singleton]
      omega
    obtain ⟨ds, a, b, rfl, hds, hend⟩ := exists_items hvalues (Nat.lt_trans hy ht) hnext
    rw [List.reverse_cons, List.append_assoc, List.singleton_append] at hend
    refine ⟨e :: ds, u ++ v ++ x ++ [code ','] ++ a, b, ?_, .item e ds v u x a hu he hx hds, hend⟩
    simp only [List.append_assoc]
  · rw [List.reverse_cons] at hend
    refine ⟨[e], u ++ v ++ x ++ [code ']'], y, ?_, .lastItem e v u x hu he hx, hend⟩
    simp only [List.append_assoc]
termination_by t.length

theorem exists_members {n : Nat} (hvalues : ValuesBelow n) {ms : List (Option String × Draft)}
    {t : List UInt8} (ht : t.length < n)
    (h : Accepts (.reading (.object ms :: fs) (.between .key)) t d) :
    ∃ ns u v, t = u ++ v ∧ Spells (.members ns) u ∧
      Accepts (settle fs (.object (ms.reverse ++ ns) true)) v d := by
  obtain ⟨k, q, r, rfl, hk, hvalue⟩ := exists_key h
  have hr : r.length < n := Nat.lt_of_le_of_lt (by simp) ht
  obtain ⟨e, u, v, w, rfl, hu, he, hbehind⟩ := hvalues _ _ _ hr hvalue
  obtain ⟨x, y, hx, ⟨rfl, hnext⟩ | ⟨rfl, hend⟩⟩ :=
    exists_separator (c := code '\x7d') (fun _ => rfl) hbehind
  · have hy : y.length < (q ++ (u ++ v ++ (x ++ [code ','] ++ y))).length := by
      simp only [List.length_append, List.length_singleton]
      omega
    obtain ⟨ns, a, b, rfl, hns, hend⟩ := exists_members hvalues (Nat.lt_trans hy ht) hnext
    rw [List.reverse_cons, List.append_assoc, List.singleton_append] at hend
    refine ⟨(k, e) :: ns, q ++ u ++ v ++ x ++ [code ','] ++ a, b, ?_,
      .member k e ns (q ++ u) v x a (hk u hu) he hx hns, hend⟩
    simp only [List.append_assoc]
  · rw [List.reverse_cons] at hend
    refine ⟨[(k, e)], q ++ u ++ v ++ x ++ [code '\x7d'], y, ?_,
      .lastMember k e (q ++ u) v x (hk u hu) he hx, hend⟩
    simp only [List.append_assoc]
termination_by t.length

theorem exists_array {n : Nat} (hvalues : ValuesBelow n) (ht : t.length < n)
    (h : Accepts (.reading (.array [] :: fs) (.between .valueOrEnd)) t d) :
    ∃ ds u v, t = u ++ v ∧ Spells (.value (.array ds true)) ([code '['] ++ u) ∧
      Accepts (settle fs (.array ds true)) v d := by
  obtain ⟨u, b, v, rfl, hu, hb, h⟩ := exists_dispatch h
  simp only [dispatch] at h
  split at h
  case isTrue hclose =>
    obtain rfl : b = code ']' := eq_of_beq hclose
    refine ⟨[], u ++ [code ']'], v, List.append_cons u _ v, ?_, h⟩
    rw [← List.append_assoc]
    exact .emptyArray u hu
  case isFalse =>
    obtain ⟨ds, w, x, hw, hds, h⟩ := exists_items hvalues ht (accepts_of_dispatch hu hb h)
    exact ⟨ds, w, x, hw, .array ds w hds, h⟩

theorem exists_object {n : Nat} (hvalues : ValuesBelow n) (ht : t.length < n)
    (h : Accepts (.reading (.object [] :: fs) (.between .keyOrEnd)) t d) :
    ∃ ms u v, t = u ++ v ∧ Spells (.value (.object ms true)) ([code '\x7b'] ++ u) ∧
      Accepts (settle fs (.object ms true)) v d := by
  obtain ⟨u, b, v, rfl, hu, hb, h⟩ := exists_dispatch h
  simp only [dispatch] at h
  split at h
  case isTrue hclose =>
    obtain rfl : b = code '\x7d' := eq_of_beq hclose
    refine ⟨[], u ++ [code '\x7d'], v, List.append_cons u _ v, ?_, h⟩
    rw [← List.append_assoc]
    exact .emptyObject u hu
  case isFalse =>
    have hkey : Accepts (dispatch (.object [] :: fs) .key b) v d := h
    obtain ⟨ms, w, x, hw, hms, h⟩ := exists_members hvalues ht (accepts_of_dispatch hu hb hkey)
    exact ⟨ms, w, x, hw, .object ms w hms, h⟩

/-- A value that a byte opens. -/
def OpensValue (fs : List Frame) (b : UInt8) (t : List UInt8) (e : Draft) : Prop :=
  ∃ d u v, b :: t = u ++ v ∧ Spells (.value d) u ∧ Accepts (settle fs d) v e

theorem opensValue_of_word {b c : UInt8} {word : List UInt8} {e : Draft} (hb : (b == c) = true)
    (hword : word ≠ []) (hspells : Spells (.value e) (c :: word))
    (h : Accepts (.reading fs (.word word e)) t d) : OpensValue fs b t d := by
  obtain ⟨v, rfl, hend⟩ := exists_word hword h
  exact ⟨e, c :: word, v, congrArg (· :: (word ++ v)) (eq_of_beq hb), hspells, hend⟩

theorem opensValue_of_partial {b : UInt8} {n : Numeral} {part : NumeralPart}
    (hn : Partial n part [b]) (h : Accepts (.reading fs (.number n part)) t d) :
    OpensValue fs b t d := by
  obtain ⟨m, u, v, rfl, hm, hend⟩ := exists_literal hn h
  exact ⟨.number m, b :: u, v, rfl, .number m _ hm, hend⟩

theorem opensValue_of_accepts {n : Nat} (hvalues : ValuesBelow n) {b : UInt8} (ht : t.length < n)
    (h : Accepts (openValue fs b) t d) : OpensValue fs b t d := by
  unfold openValue at h
  split at h
  case isTrue hb =>
    obtain ⟨ds, u, v, rfl, hds, hend⟩ := exists_array hvalues ht h
    exact ⟨_, _, v, congrArg (· :: (u ++ v)) (eq_of_beq hb), hds, hend⟩
  split at h
  case isTrue hb =>
    obtain ⟨ms, u, v, rfl, hms, hend⟩ := exists_object hvalues ht h
    exact ⟨_, _, v, congrArg (· :: (u ++ v)) (eq_of_beq hb), hms, hend⟩
  split at h
  case isTrue hb =>
    obtain ⟨gs, u, v, rfl, hgs, hend⟩ := exists_glyphs h
    simp only [settleText, List.append_nil, List.reverse_reverse, Bool.false_eq_true,
      if_false] at hend
    refine ⟨_, [code '"'] ++ u ++ [code '"'], v, ?_, .string _ _ (quoted_of_glyphs hgs), hend⟩
    rw [eq_of_beq hb]
    rfl
  split at h
  case isTrue hb =>
    obtain rfl : b = code '-' := eq_of_beq hb
    exact opensValue_of_partial (.sign true) h
  split at h
  case isTrue hb =>
    obtain rfl : b = code '0' := eq_of_beq hb
    exact opensValue_of_partial (.whole false [0] (isWhole_singleton (by decide))) h
  case isFalse hzero =>
  split at h
  case isTrue hb =>
    have hextend : extend? ⟨false, [], none, none⟩ .sign b =
        some (⟨false, [digit b], none, none⟩, .whole) := by
      simp only [extend?, hb, if_true, if_neg hzero]
    exact opensValue_of_partial ((Partial.sign false).extend hextend) h
  split at h
  case isTrue hb => exact opensValue_of_word hb (by decide) .null h
  split at h
  case isTrue hb => exact opensValue_of_word hb (by decide) .yes h
  split at h
  case isTrue hb => exact opensValue_of_word hb (by decide) .no h
  exact absurd h (not_accepts_stop fs)

theorem valuesBelow (n : Nat) : ValuesBelow n := by
  induction n with
  | zero => exact fun _ _ _ ht => absurd ht (Nat.not_lt_zero _)
  | succ n ih =>
    intro fs t e ht h
    obtain ⟨u, b, v, rfl, hu, -, h⟩ := exists_dispatch h
    have hv : v.length < n := by
      rw [List.length_append, List.length_cons] at ht
      omega
    obtain ⟨d, w, x, hw, hd, h⟩ := opensValue_of_accepts ih hv h
    exact ⟨d, u, w, x, by rw [hw, List.append_assoc], hu, hd, h⟩

end Values

end StatusBoard.Json.Reader

namespace StatusBoard.Json

/-- The reader accepts documents and nothing else. -/
theorem read_eq_iff_isDocument (t : List UInt8) (d : Draft) :
    Document.read t = ⟨d, true⟩ ↔ IsDocument d t := by
  constructor
  · intro h
    have haccepts : Reader.Accepts .start t d := h
    obtain ⟨e, u, v, w, rfl, hu, he, hend⟩ :=
      Reader.valuesBelow _ _ _ _ (Nat.lt_succ_self _) haccepts
    obtain ⟨hw, rfl⟩ := Reader.spaces_of_accepts_finished hend
    exact .mk e v u w hu he hw
  · exact Document.read_of_isDocument

end StatusBoard.Json
