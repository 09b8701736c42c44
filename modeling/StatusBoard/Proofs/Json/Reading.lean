import StatusBoard.Proofs.Json.Text

/-!
The reader reads what the grammar spells. After the bytes of a value the reader has settled it in
the open arrays and objects, except that a number waits for the byte behind it, which only has to
be one that no number goes on with. A whole text is read to its value, and nothing is left over.
-/
namespace StatusBoard.Json.Reader

open Grammar

theorem isSpace_of_spaces {t : List UInt8} (ht : Spaces t) : ∀ b ∈ t, isSpace b = true := by
  intro b hb
  rcases ht b hb with rfl | rfl | rfl | rfl <;> rfl

theorem foldl_spaces_between (fs : List Frame) (due : Due) {t : List UInt8} (ht : Spaces t) :
    t.foldl step (.reading fs (.between due)) = .reading fs (.between due) := by
  induction t with
  | nil => rfl
  | cons b rest ih =>
    obtain ⟨hb, hrest⟩ := List.forall_mem_cons.mp ht
    have hstep : step (.reading fs (.between due)) b = .reading fs (.between due) :=
      if_pos (isSpace_of_spaces ht b List.mem_cons_self)
    rw [List.foldl_cons, hstep, ih hrest]

/-- White space behind a value that is settled. -/
theorem foldl_spaces_settle (fs : List Frame) (d : Draft) {t : List UInt8} (ht : Spaces t) :
    t.foldl step (settle fs d) = settle fs d := by
  cases fs with
  | nil =>
    induction t with
    | nil => rfl
    | cons b rest ih =>
      obtain ⟨hb, hrest⟩ := List.forall_mem_cons.mp ht
      have hstep : step (.finished d) b = .finished d :=
        if_pos (isSpace_of_spaces ht b List.mem_cons_self)
      exact (congrArg (rest.foldl step) hstep).trans (ih hrest)
  | cons f fs =>
    cases f with
    | array items => exact foldl_spaces_between _ _ ht
    | member ms k => exact foldl_spaces_between _ _ ht
    | object ms =>
      have hstay : ∀ doc, t.foldl step (.stopped doc) = .stopped doc := by
        intro doc
        clear ht
        induction t with
        | nil => rfl
        | cons b rest ih => exact ih
      exact hstay _

/-- A value is read: it is settled, or it is a number that the next byte will settle. -/
inductive Settled (fs : List Frame) : Draft → Reader → Prop
  | done (d : Draft) : Settled fs d (settle fs d)
  | pending (n : Numeral) (part : NumeralPart) (hend : part.mayEnd = true) :
      Settled fs (.number n) (.reading fs (.number n part))

/-- The bytes that may stand behind a value. -/
def delimiters : List UInt8 := [' ', '\t', '\n', '\r', ',', ']', '\x7d'].map code

theorem mem_delimiters_of_spaces {t : List UInt8} (ht : Spaces t) : ∀ b ∈ t, b ∈ delimiters := by
  intro b hb
  rcases ht b hb with rfl | rfl | rfl | rfl <;> decide

theorem plain_of_mem_delimiters {b : UInt8} (hb : b ∈ delimiters) :
    isDigit b = false ∧ (b == 0x2e) = false ∧ (b == 0x65) = false ∧ (b == 0x45) = false := by
  have hplain : delimiters.all (fun b => isDigit b = false ∧ (b == 0x2e) = false ∧
      (b == 0x65) = false ∧ (b == 0x45) = false) = true := by decide
  exact of_decide_eq_true (List.all_eq_true.mp hplain b hb)

/-- No number goes on with a delimiter. -/
theorem extend?_delimiter (n : Numeral) (part : NumeralPart) (b : UInt8) (hb : b ∈ delimiters)
    (hend : part.mayEnd = true) : extend? n part b = none := by
  obtain ⟨hdigit, hpoint, hlower, hupper⟩ := plain_of_mem_delimiters hb
  cases part with
  | zero | whole | fraction | power => simp [extend?, hdigit, hpoint, hlower, hupper]
  | sign | point | mark | markSign => cases hend

theorem step_settle (fs : List Frame) (d : Draft) (b : UInt8) :
    step (settle fs d) b = stepBetween (settle fs d) b := by
  cases fs with
  | nil => rfl
  | cons f fs => cases f <;> rfl

theorem Settled.step {fs : List Frame} {d : Draft} {x : Reader} (hx : Settled fs d x) {b : UInt8}
    (hb : b ∈ delimiters) : x.step b = (settle fs d).step b := by
  cases hx with
  | done => rfl
  | pending n part hend =>
    have hdigit : isDigit b = false := (plain_of_mem_delimiters hb).1
    have hnone := extend?_delimiter n part b hb hend
    have hstep : Reader.step (.reading fs (.number n part)) b = stepNumber fs n part b := rfl
    rw [hstep, step_settle]
    simp [stepNumber, hnone, hend, hdigit]

/-- White space behind a value, and the byte behind that. -/
theorem Settled.foldl_spaces {fs : List Frame} {d : Draft} {x : Reader} (hx : Settled fs d x)
    {t : List UInt8} (ht : Spaces t) {b : UInt8} (hb : b ∈ delimiters) (u : List UInt8) :
    (t ++ b :: u).foldl Reader.step x = u.foldl Reader.step ((settle fs d).step b) := by
  cases t with
  | nil => rw [List.nil_append, List.foldl_cons, hx.step hb]
  | cons c rest =>
    have hc := hx.step (mem_delimiters_of_spaces ht c List.mem_cons_self)
    have hspaces := foldl_spaces_settle fs d ht
    rw [List.foldl_cons, ← hc] at hspaces
    rw [List.cons_append, List.foldl_cons, List.foldl_append, hspaces, List.foldl_cons]

section Numbers

variable (fs : List Frame)

theorem isDigit_digitCode : ∀ d < 10, isDigit (.ofNat (0x30 + d)) = true := by decide

theorem digit_digitCode : ∀ d < 10, digit (.ofNat (0x30 + d)) = d := by decide

theorem digitCode_beq_zero :
    ∀ d < 10, (UInt8.ofNat (0x30 + d) == 0x30) = decide (d = 0) := by decide

theorem step_number {n m : Numeral} {part next : NumeralPart} {b : UInt8}
    (h : extend? n part b = some (m, next)) :
    step (.reading fs (.number n part)) b = .reading fs (.number m next) := by
  have hstep : step (.reading fs (.number n part)) b = stepNumber fs n part b := rfl
  rw [hstep, stepNumber, h]

/-- A row of digits where each digit leaves the reader in the same part. -/
theorem foldl_digits (n : List Nat → Numeral) (part : NumeralPart)
    (hextend : ∀ ds, ∀ d < 10,
      extend? (n ds) part (.ofNat (0x30 + d)) = some (n (ds ++ [d]), part))
    (before ds : List Nat) (hds : ∀ d ∈ ds, d < 10) :
    (digitCodes ds).foldl step (.reading fs (.number (n before) part)) =
      .reading fs (.number (n (before ++ ds)) part) := by
  induction ds generalizing before with
  | nil => rw [List.append_nil]; rfl
  | cons d rest ih =>
    obtain ⟨hd, hrest⟩ := List.forall_mem_cons.mp hds
    rw [digitCodes, List.map_cons, List.foldl_cons, step_number fs (hextend before d hd)]
    rw [← digitCodes, ih _ hrest, List.append_assoc, List.singleton_append]

theorem extend?_whole (negative : Bool) (ds : List Nat) (d : Nat) (hd : d < 10) :
    extend? ⟨negative, ds, none, none⟩ .whole (.ofNat (0x30 + d)) =
      some (⟨negative, ds ++ [d], none, none⟩, .whole) := by
  simp only [extend?, isDigit_digitCode d hd, digit_digitCode d hd, if_true]

theorem extend?_fraction (negative : Bool) (whole ds : List Nat) (part : NumeralPart)
    (hpart : part = .point ∨ part = .fraction) (d : Nat) (hd : d < 10) :
    extend? ⟨negative, whole, some ds, none⟩ part (.ofNat (0x30 + d)) =
      some (⟨negative, whole, some (ds ++ [d]), none⟩, .fraction) := by
  rcases hpart with rfl | rfl <;>
    simp only [extend?, isDigit_digitCode d hd, digit_digitCode d hd, if_true, Option.map_some]

theorem extend?_power (negative : Bool) (whole : List Nat) (fraction : Option (List Nat))
    (down : Bool) (ds : List Nat) (part : NumeralPart)
    (hpart : part = .mark ∨ part = .markSign ∨ part = .power) (d : Nat) (hd : d < 10) :
    extend? ⟨negative, whole, fraction, some (down, ds)⟩ part (.ofNat (0x30 + d)) =
      some (⟨negative, whole, fraction, some (down, ds ++ [d])⟩, .power) := by
  rcases hpart with rfl | rfl | rfl <;>
    simp only [extend?, isDigit_digitCode d hd, digit_digitCode d hd, if_true, Option.map_some]

/-- Where a reader stands that has read the whole part, and perhaps a fraction. -/
def TakesMark (part : NumeralPart) : Prop :=
  part = .zero ∨ part = .whole ∨ part = .fraction

/-- The whole part, from where its first digit opens it. -/
theorem foldl_whole (negative : Bool) {ds : List Nat} (hds : IsWhole ds) (x : Reader)
    (hx : ∀ d < 10, x.step (.ofNat (0x30 + d)) =
      .reading fs (.number ⟨negative, [d], none, none⟩ (if d = 0 then .zero else .whole))) :
    (digitCodes ds).foldl step x =
      .reading fs (.number ⟨negative, ds, none, none⟩ (if ds = [0] then .zero else .whole)) := by
  cases ds with
  | nil => exact absurd rfl hds.ne_nil
  | cons d rest =>
    obtain ⟨hd, hrest⟩ := List.forall_mem_cons.mp hds.lt_ten
    rw [digitCodes, List.map_cons, List.foldl_cons, hx d hd, ← digitCodes]
    rcases hds.no_leading_zero with hzero | hlead
    · obtain ⟨rfl, rfl⟩ := List.cons.inj hzero
      rfl
    · have hd0 : d ≠ 0 := fun h => hlead (congrArg some h)
      have hne : d :: rest ≠ [0] := fun h => hd0 (List.cons.inj h).1
      rw [if_neg hd0, if_neg hne]
      exact foldl_digits fs (fun ds => ⟨negative, ds, none, none⟩) .whole
        (extend?_whole negative) [d] rest hrest

theorem foldl_fraction (negative : Bool) (whole : List Nat) {part : NumeralPart}
    (hpart : part = .zero ∨ part = .whole) {f : Option (List Nat)} {t : List UInt8}
    (hf : Fraction f t) :
    ∃ next, TakesMark next ∧
      t.foldl step (.reading fs (.number ⟨negative, whole, none, none⟩ part)) =
        .reading fs (.number ⟨negative, whole, f, none⟩ next) := by
  cases hf with
  | none => exact ⟨part, hpart.imp_right .inl, rfl⟩
  | some ds hds =>
    refine ⟨.fraction, .inr (.inr rfl), ?_⟩
    have hpoint : extend? ⟨negative, whole, none, none⟩ part (code '.') =
        some (⟨negative, whole, some [], none⟩, .point) := by
      rcases hpart with rfl | rfl <;> rfl
    obtain ⟨d, rest, rfl⟩ := List.exists_cons_of_ne_nil hds.ne_nil
    obtain ⟨hd, hrest⟩ := List.forall_mem_cons.mp hds.lt_ten
    rw [List.singleton_append, List.foldl_cons, step_number fs hpoint, digitCodes, List.map_cons,
      List.foldl_cons, step_number fs (extend?_fraction negative whole [] .point (.inl rfl) d hd),
      ← digitCodes]
    exact foldl_digits fs (fun ds => ⟨negative, whole, some ds, none⟩) .fraction
      (fun ds => extend?_fraction negative whole ds .fraction (.inr rfl)) [d] rest hrest

theorem foldl_exponent (negative : Bool) (whole : List Nat) (fraction : Option (List Nat))
    {part : NumeralPart} (hpart : TakesMark part) {e : Option (Bool × List Nat)} {t : List UInt8}
    (he : Exponent e t) :
    ∃ next, next.mayEnd = true ∧
      t.foldl step (.reading fs (.number ⟨negative, whole, fraction, none⟩ part)) =
        .reading fs (.number ⟨negative, whole, fraction, e⟩ next) := by
  cases he with
  | none =>
    refine ⟨part, ?_, rfl⟩
    rcases hpart with rfl | rfl | rfl <;> rfl
  | some mark down sign ds hmark hsign hds =>
    refine ⟨.power, rfl, ?_⟩
    have hopen : extend? ⟨negative, whole, fraction, none⟩ part mark =
        some (⟨negative, whole, fraction, some (false, [])⟩, .mark) := by
      rcases hpart with rfl | rfl | rfl <;> rcases hmark with rfl | rfl <;> rfl
    obtain ⟨next, hnext, hsigned⟩ : ∃ next, (next = .mark ∨ next = .markSign ∨ next = .power) ∧
        sign.foldl step
            (.reading fs (.number ⟨negative, whole, fraction, some (false, [])⟩ .mark)) =
          .reading fs (.number ⟨negative, whole, fraction, some (down, [])⟩ next) := by
      cases hsign with
      | none => exact ⟨.mark, .inl rfl, rfl⟩
      | plus => exact ⟨.markSign, .inr (.inl rfl), rfl⟩
      | minus => exact ⟨.markSign, .inr (.inl rfl), rfl⟩
    obtain ⟨d, rest, rfl⟩ := List.exists_cons_of_ne_nil hds.ne_nil
    obtain ⟨hd, hrest⟩ := List.forall_mem_cons.mp hds.lt_ten
    rw [List.foldl_append, List.singleton_append, List.foldl_cons, step_number fs hopen, hsigned,
      digitCodes, List.map_cons, List.foldl_cons,
      step_number fs (extend?_power negative whole fraction down [] next hnext d hd), ← digitCodes]
    exact foldl_digits fs (fun ds => ⟨negative, whole, fraction, some (down, ds)⟩) .power
      (fun ds => extend?_power negative whole fraction down ds .power (.inr (.inr rfl))) [d] rest
      hrest

/-- Where a value may stand. -/
def TakesValue (due : Due) : Prop := due = .value ∨ due = .valueOrEnd

theorem step_between_digit {due : Due} (hdue : TakesValue due) (d : Nat) (hd : d < 10) :
    step (.reading fs (.between due)) (.ofNat (0x30 + d)) =
      .reading fs (.number ⟨false, [d], none, none⟩ (if d = 0 then .zero else .whole)) := by
  have hall : ∀ d < 10, [0x20, 0x09, 0x0a, 0x0d, 0x5d, 0x5b, 0x7b, 0x22, 0x2d].all
      (fun b => (UInt8.ofNat (0x30 + d) == b) = false) = true := by decide
  have hother : ∀ b ∈ [0x20, 0x09, 0x0a, 0x0d, 0x5d, 0x5b, 0x7b, 0x22, 0x2d],
      (UInt8.ofNat (0x30 + d) == b) = false := fun b hb =>
    of_decide_eq_true (List.all_eq_true.mp (hall d hd) b hb)
  have hopen : openValue fs (.ofNat (0x30 + d)) =
      .reading fs (.number ⟨false, [d], none, none⟩ (if d = 0 then .zero else .whole)) := by
    simp only [openValue, hother, isDigit_digitCode d hd, digit_digitCode d hd,
      digitCode_beq_zero d hd, List.mem_cons, true_or, or_true, Bool.false_eq_true, if_false,
      if_true, decide_eq_true_eq]
    by_cases h : d = 0
    · rw [if_pos h, if_pos h, h]
    · rw [if_neg h, if_neg h]
  have hspace : isSpace (.ofNat (0x30 + d)) = false := by
    simp only [isSpace, hother, List.mem_cons, true_or, or_true, Bool.or_false]
  rcases hdue with rfl | rfl
  · simpa only [step, stepBetween, hspace, Bool.false_eq_true, if_false, dispatch] using hopen
  · simpa only [step, stepBetween, hspace, Bool.false_eq_true, if_false, dispatch, hother,
      List.mem_cons, true_or, or_true] using hopen

theorem step_sign_digit (d : Nat) (hd : d < 10) :
    step (.reading fs (.number ⟨true, [], none, none⟩ .sign)) (.ofNat (0x30 + d)) =
      .reading fs (.number ⟨true, [d], none, none⟩ (if d = 0 then .zero else .whole)) := by
  apply step_number
  simp only [extend?, isDigit_digitCode d hd, digit_digitCode d hd, if_true,
    digitCode_beq_zero d hd, decide_eq_true_eq]

theorem settled_literal {due : Due} (hdue : TakesValue due) {n : Numeral} {t : List UInt8}
    (ht : Literal n t) :
    Settled fs (.number n) (t.foldl step (.reading fs (.between due))) := by
  cases ht with
  | mk f e hwhole hf he =>
    obtain ⟨negative, whole, fraction, exponent⟩ := n
    have hread : ((if negative then [code '-'] else []) ++ digitCodes whole).foldl step
        (.reading fs (.between due)) =
          .reading fs
            (.number ⟨negative, whole, none, none⟩ (if whole = [0] then .zero else .whole)) := by
      cases negative with
      | false => exact foldl_whole fs false hwhole _ (step_between_digit fs hdue)
      | true =>
        have hminus : step (.reading fs (.between due)) (code '-') =
            .reading fs (.number ⟨true, [], none, none⟩ .sign) := by
          rcases hdue with rfl | rfl <;> rfl
        rw [if_pos rfl, List.singleton_append, List.foldl_cons, hminus]
        exact foldl_whole fs true hwhole _ (step_sign_digit fs)
    have hpart : (if whole = [0] then NumeralPart.zero else .whole) = .zero ∨
        (if whole = [0] then NumeralPart.zero else .whole) = .whole := by
      split
      · exact .inl rfl
      · exact .inr rfl
    obtain ⟨part, hpart, hfraction⟩ := foldl_fraction fs negative whole hpart hf
    obtain ⟨last, hlast, hexponent⟩ := foldl_exponent fs negative whole fraction hpart he
    rw [List.foldl_append, List.foldl_append, hread, hfraction, hexponent]
    exact .pending _ last hlast

end Numbers

section Texts

variable (fs : List Frame) (isKey : Bool)

theorem hexDigit?_of_hexDigit {d : Nat} {b : UInt8} (h : HexDigit d b) :
    hexDigit? b = some d := by
  have hdecimal : ∀ d < 10, hexDigit? (.ofNat (0x30 + d)) = some d := by decide
  have hupper : ∀ d < 6, hexDigit? (.ofNat (0x41 + d)) = some (10 + d) := by decide
  have hlower : ∀ d < 6, hexDigit? (.ofNat (0x61 + d)) = some (10 + d) := by decide
  cases h with
  | decimal d hd => exact hdecimal d hd
  | upper d hd => exact hupper d hd
  | lower d hd => exact hlower d hd

theorem shortEscape?_of_mem : ∀ e ∈ shortEscapes,
    code e.1 ≠ code 'u' ∧ shortEscape? (code e.1) = some (code e.2) := by
  decide

theorem step_hex (held : List Glyph) (count value : Nat) {d : Nat} {b : UInt8}
    (h : HexDigit d b) :
    step (.reading fs (.text isKey held (.hex count value))) b =
      if count = 3 then .reading fs (.text isKey (.unit (16 * value + d) :: held) .outside)
      else .reading fs (.text isKey held (.hex (count + 1) (16 * value + d))) := by
  simp only [step, stepText, hexDigit?_of_hexDigit h]

theorem foldl_glyph (held : List Glyph) {g : Glyph} {t : List UInt8} (h : SpelledGlyph g t) :
    t.foldl step (.reading fs (.text isKey held .outside)) =
      .reading fs (.text isKey (g :: held) .outside) := by
  cases h with
  | plain b hcontrol hquote hback =>
    have hquote : (b == 0x22) = false := beq_eq_false_iff_ne.mpr hquote
    have hback : (b == 0x5c) = false := beq_eq_false_iff_ne.mpr hback
    simp only [List.foldl_cons, List.foldl_nil, step, stepText, hquote, hback,
      UInt8.not_lt.mpr hcontrol, Bool.false_eq_true, if_false]
  | short letter c h =>
    obtain ⟨hu, hshort⟩ := shortEscape?_of_mem (letter, c) h
    have hu : (code letter == 0x75) = false := beq_eq_false_iff_ne.mpr hu
    have hopen : step (.reading fs (.text isKey held .outside)) (code '\\') =
        .reading fs (.text isKey held .opened) := rfl
    rw [List.foldl_cons, hopen]
    simp only [List.foldl_cons, List.foldl_nil, step, stepText, hu, hshort, Bool.false_eq_true,
      if_false]
  | unit p q r s a b c d ha hb hc hd =>
    have hopen : [code '\\', code 'u'].foldl step (.reading fs (.text isKey held .outside)) =
        .reading fs (.text isKey held (.hex 0 0)) := rfl
    have hdigits : [a, b, c, d].foldl step (.reading fs (.text isKey held (.hex 0 0))) =
        .reading fs
          (.text isKey (.unit (16 * (16 * (16 * (16 * 0 + p) + q) + r) + s) :: held) .outside) := by
      rw [List.foldl_cons, step_hex fs isKey held 0 0 ha, List.foldl_cons]
      rw [if_neg (by decide), step_hex fs isKey held _ _ hb, List.foldl_cons]
      rw [if_neg (by decide), step_hex fs isKey held _ _ hc, List.foldl_cons]
      rw [if_neg (by decide), step_hex fs isKey held _ _ hd, List.foldl_nil, if_pos rfl]
    have hsplit : [code '\\', code 'u', a, b, c, d] = [code '\\', code 'u'] ++ [a, b, c, d] := rfl
    rw [hsplit, List.foldl_append, hopen, hdigits, Nat.mul_zero, Nat.zero_add]

theorem foldl_glyphs (held : List Glyph) {gs : List Glyph} {t : List UInt8} (h : Glyphs gs t) :
    t.foldl step (.reading fs (.text isKey held .outside)) =
      .reading fs (.text isKey (gs.reverse ++ held) .outside) := by
  induction h generalizing held with
  | nil => rfl
  | cons g gs t u hg hgs ih =>
    rw [List.foldl_append, foldl_glyph fs isKey held hg, ih, List.reverse_cons, List.append_assoc,
      List.singleton_append]

/-- A quoted text, from where its first quote opens it. -/
theorem foldl_quoted {s : Option String} {t : List UInt8} (h : Quoted s t) (x : Reader)
    (hx : x.step (code '"') = .reading fs (.text isKey [] .outside)) :
    ∃ gs, Glyph.text? gs = s ∧ t.foldl step x = settleText fs isKey gs.reverse := by
  obtain ⟨gs, u, rfl, hu, hs⟩ := Glyph.exists_glyphs_of_quoted h
  refine ⟨gs, hs, ?_⟩
  rw [List.append_assoc, List.singleton_append, List.foldl_cons, hx, List.foldl_append,
    foldl_glyphs fs isKey [] hu, List.append_nil]
  rfl

theorem foldl_text {due : Due} (hdue : TakesValue due) {s : Option String} {t : List UInt8}
    (h : Quoted s t) :
    t.foldl step (.reading fs (.between due)) = settle fs (.string s) := by
  have hquote : step (.reading fs (.between due)) (code '"') =
      .reading fs (.text false [] .outside) := by
    rcases hdue with rfl | rfl <;> rfl
  obtain ⟨gs, rfl, hread⟩ := foldl_quoted fs false h _ hquote
  simp only [hread, settleText, List.reverse_reverse, Bool.false_eq_true, if_false]

theorem foldl_key {due : Due} (hdue : due = .key ∨ due = .keyOrEnd)
    (ms : List (Option String × Draft)) {k : Option String} {t : List UInt8} (h : Key k t) :
    t.foldl step (.reading (.object ms :: fs) (.between due)) =
      .reading (.member ms k :: fs) (.between .value) := by
  cases h with
  | mk t u v w hk hu hv hw =>
    have hquote : step (.reading (.object ms :: fs) (.between due)) (code '"') =
        .reading (.object ms :: fs) (.text true [] .outside) := by
      rcases hdue with rfl | rfl <;> rfl
    obtain ⟨gs, rfl, hread⟩ := foldl_quoted _ true hk _ hquote
    have hcolon : step (.reading (.member ms (Glyph.text? gs) :: fs) (.between .colon)) (code ':') =
        .reading (.member ms (Glyph.text? gs) :: fs) (.between .value) := rfl
    rw [List.foldl_append, List.foldl_append, List.foldl_append, List.foldl_append,
      foldl_spaces_between _ _ hu, hread]
    simp only [settleText, List.reverse_reverse, if_true]
    rw [foldl_spaces_between _ _ hv, List.foldl_cons, hcolon, List.foldl_nil,
      foldl_spaces_between _ _ hw]

end Texts

/-- What it means that the reader has read some content, from where that may stand. -/
def ReadsAs : Content → List UInt8 → Prop
  | .value d, t => ∀ fs due, TakesValue due →
      Settled fs d (t.foldl step (.reading fs (.between due)))
  | .items ds, t => ∀ fs ds' due, TakesValue due →
      t.foldl step (.reading (.array ds' :: fs) (.between due)) =
        settle fs (.array (ds'.reverse ++ ds) true)
  | .members ms, t => ∀ fs ms' due, due = .key ∨ due = .keyOrEnd →
      t.foldl step (.reading (.object ms' :: fs) (.between due)) =
        settle fs (.object (ms'.reverse ++ ms) true)

theorem readsAs_of_spells {c : Content} {t : List UInt8} (h : Spells c t) : ReadsAs c t := by
  induction h with
  | null | yes | no =>
    intro fs due hdue
    rcases hdue with rfl | rfl <;> exact .done _
  | number n t h => exact fun fs due hdue => settled_literal fs hdue h
  | string s t h =>
    intro fs due hdue
    rw [foldl_text fs hdue h]
    exact .done _
  | emptyArray u hu =>
    intro fs due hdue
    have hopen : step (.reading fs (.between due)) (code '[') =
        .reading (.array [] :: fs) (.between .valueOrEnd) := by
      rcases hdue with rfl | rfl <;> rfl
    rw [List.append_assoc, List.singleton_append, List.foldl_cons, hopen, List.foldl_append,
      foldl_spaces_between _ _ hu]
    exact .done _
  | array ds t h ih =>
    intro fs due hdue
    have hopen : step (.reading fs (.between due)) (code '[') =
        .reading (.array [] :: fs) (.between .valueOrEnd) := by
      rcases hdue with rfl | rfl <;> rfl
    rw [List.singleton_append, List.foldl_cons, hopen, ih fs [] .valueOrEnd (.inr rfl)]
    exact .done _
  | emptyObject u hu =>
    intro fs due hdue
    have hopen : step (.reading fs (.between due)) (code '\x7b') =
        .reading (.object [] :: fs) (.between .keyOrEnd) := by
      rcases hdue with rfl | rfl <;> rfl
    rw [List.append_assoc, List.singleton_append, List.foldl_cons, hopen, List.foldl_append,
      foldl_spaces_between _ _ hu]
    exact .done _
  | object ms t h ih =>
    intro fs due hdue
    have hopen : step (.reading fs (.between due)) (code '\x7b') =
        .reading (.object [] :: fs) (.between .keyOrEnd) := by
      rcases hdue with rfl | rfl <;> rfl
    rw [List.singleton_append, List.foldl_cons, hopen, ih fs [] .keyOrEnd (.inr rfl)]
    exact .done _
  | lastItem d t u v hu hd hv ih =>
    intro fs ds' due hdue
    have hclose : step (.reading (.array (d :: ds') :: fs) (.between .separator)) (code ']') =
        settle fs (.array (d :: ds').reverse true) := rfl
    simp only [List.append_assoc]
    rw [List.foldl_append, foldl_spaces_between _ _ hu, List.foldl_append,
      (ih _ due hdue).foldl_spaces hv (by decide), settle, hclose, List.reverse_cons,
      List.foldl_nil]
  | item d ds t u v w hu hd hv hds ihd ihds =>
    intro fs ds' due hdue
    have hcomma : step (.reading (.array (d :: ds') :: fs) (.between .separator)) (code ',') =
        .reading (.array (d :: ds') :: fs) (.between .value) := rfl
    simp only [List.append_assoc, List.singleton_append]
    rw [List.foldl_append, foldl_spaces_between _ _ hu, List.foldl_append,
      (ihd _ due hdue).foldl_spaces hv (by decide), settle, hcomma,
      ihds fs (d :: ds') .value (.inl rfl), List.reverse_cons, List.append_assoc,
      List.singleton_append]
  | lastMember k d t u v hk hd hv ih =>
    intro fs ms' due hdue
    have hclose :
        step (.reading (.object ((k, d) :: ms') :: fs) (.between .separator)) (code '\x7d') =
          settle fs (.object ((k, d) :: ms').reverse true) := rfl
    simp only [List.append_assoc]
    rw [List.foldl_append, foldl_key fs hdue ms' hk, List.foldl_append,
      (ih _ .value (.inl rfl)).foldl_spaces hv (by decide), settle, hclose, List.reverse_cons,
      List.foldl_nil]
  | member k d ms t u v w hk hd hv hms ihd ihms =>
    intro fs ms' due hdue
    have hcomma :
        step (.reading (.object ((k, d) :: ms') :: fs) (.between .separator)) (code ',') =
          .reading (.object ((k, d) :: ms') :: fs) (.between .key) := rfl
    simp only [List.append_assoc, List.singleton_append]
    rw [List.foldl_append, foldl_key fs hdue ms' hk, List.foldl_append,
      (ihd _ .value (.inl rfl)).foldl_spaces hv (by decide), settle, hcomma,
      ihms fs ((k, d) :: ms') .key (.inl rfl), List.reverse_cons, List.append_assoc,
      List.singleton_append]

/-- A value with white space behind it, at the end of the text. -/
theorem Settled.document_foldl_spaces {d : Draft} {x : Reader} (hx : Settled [] d x)
    {t : List UInt8} (ht : Spaces t) : (t.foldl Reader.step x).document = ⟨d, true⟩ := by
  cases t with
  | nil =>
    cases hx with
    | done => rfl
    | pending n part hend => exact if_pos hend
  | cons b rest =>
    have hb := hx.step (mem_delimiters_of_spaces ht b List.mem_cons_self)
    have hspaces := foldl_spaces_settle [] d ht
    rw [List.foldl_cons, ← hb] at hspaces
    rw [List.foldl_cons, hspaces]
    rfl

end StatusBoard.Json.Reader

namespace StatusBoard.Json

/-- The reader reads a text to the value it spells. -/
theorem Document.read_of_isDocument {d : Draft} {bytes : List UInt8} (h : IsDocument d bytes) :
    Document.read bytes = ⟨d, true⟩ := by
  cases h with
  | mk t u v hu hd hv =>
    have hsettled := Reader.readsAs_of_spells hd [] .value (.inl rfl)
    rw [Document.read, Reader.start, List.foldl_append, List.foldl_append,
      Reader.foldl_spaces_between _ _ hu, hsettled.document_foldl_spaces hv]

/-- The grammar is unambiguous. -/
theorem IsDocument.unique {d e : Draft} {bytes : List UInt8} (hd : IsDocument d bytes)
    (he : IsDocument e bytes) : d = e := by
  have hread := (Document.read_of_isDocument hd).symm.trans (Document.read_of_isDocument he)
  exact (Document.mk.inj hread).1

end StatusBoard.Json
