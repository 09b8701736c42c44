import StatusBoard.Json.Value
import StatusBoard.Proofs.Json.Reading

/-!
The writer keeps to the grammar: the text of a value spells that value. Numbers go by their decimal
digits without leading zeros, and a character of a text is either short for itself behind a
backslash, or a code unit, or given by its bytes, none of which ends the text.
-/
namespace StatusBoard.Json

open Grammar

section Numbers

/-- The decimal digits of a number. -/
def decimal (n : Nat) : List Nat :=
  if n < 10 then [n] else decimal (n / 10) ++ [n % 10]

theorem value_concat (ds : List Nat) (d : Nat) :
    Numeral.value (ds ++ [d]) = 10 * Numeral.value ds + d := by
  rw [Numeral.value, List.foldl_append]
  rfl

theorem value_decimal (n : Nat) : Numeral.value (decimal n) = n := by
  fun_induction decimal n with
  | case1 n h => simp [Numeral.value]
  | case2 n h ih =>
    rw [value_concat, ih]
    omega

theorem decimal_ne_nil (n : Nat) : decimal n ≠ [] := by
  rw [decimal]
  split <;> simp

theorem decimal_lt_ten (n : Nat) : ∀ d ∈ decimal n, d < 10 := by
  fun_induction decimal n with
  | case1 n h => simpa using h
  | case2 n h ih =>
    intro d hd
    rcases List.mem_append.mp hd with hd | hd
    · exact ih d hd
    · rw [List.mem_singleton.mp hd]
      exact Nat.mod_lt n (by decide)

theorem head?_decimal (n : Nat) (hn : 0 < n) : (decimal n).head? ≠ some 0 := by
  fun_induction decimal n with
  | case1 n h => simpa using Nat.ne_of_gt hn
  | case2 n h ih =>
    obtain ⟨d, rest, hd⟩ := List.exists_cons_of_ne_nil (decimal_ne_nil (n / 10))
    have hlead := ih (by omega)
    rw [hd] at hlead ⊢
    exact hlead

theorem isWhole_decimal (n : Nat) : IsWhole (decimal n) where
  ne_nil := decimal_ne_nil n
  lt_ten := decimal_lt_ten n
  no_leading_zero := by
    rcases Nat.eq_zero_or_pos n with rfl | hn
    · exact .inl (by simp [decimal])
    · exact .inr (head?_decimal n hn)

theorem toDigits_eq_map_decimal (n : Nat) :
    Nat.toDigits 10 n = (decimal n).map Nat.digitChar := by
  fun_induction decimal n with
  | case1 n h => exact Nat.toDigits_of_lt_base h
  | case2 n h ih =>
    rw [Nat.toDigits_of_base_le (by decide) (by omega), ih, List.map_append, List.map_singleton]

theorem utf8_digitChar : ∀ d < 10, utf8 [Nat.digitChar d] = digitCodes [d] := by decide

theorem utf8_map_digitChar {ds : List Nat} (hds : ∀ d ∈ ds, d < 10) :
    utf8 (ds.map Nat.digitChar) = digitCodes ds := by
  induction ds with
  | nil => rfl
  | cons d rest ih =>
    obtain ⟨hd, hrest⟩ := List.forall_mem_cons.mp hds
    have hsplit : d :: rest = [d] ++ rest := rfl
    rw [hsplit, List.map_append, utf8_append, ih hrest, List.map_singleton, utf8_digitChar d hd]
    rfl

theorem utf8_toDigits (n : Nat) : utf8 (Nat.toDigits 10 n) = digitCodes (decimal n) := by
  rw [toDigits_eq_map_decimal, utf8_map_digitChar (decimal_lt_ten n)]

/-- The literal of a natural number. -/
def Numeral.ofNat (n : Nat) : Numeral := ⟨false, decimal n, none, none⟩

theorem literal_toDigits (n : Nat) : Literal (.ofNat n) (utf8 (Nat.toDigits 10 n)) := by
  have h := Literal.mk (.ofNat n) [] [] (isWhole_decimal n) .none .none
  rw [List.append_nil, List.append_nil] at h
  rw [utf8_toDigits]
  exact h

end Numbers

section Texts

/-- How a character of a text is written. -/
theorem escapeChar_cases (c : Char) :
    (∃ letter, (letter, c) ∈ shortEscapes ∧ Value.escapeChar c = ['\\', letter]) ∨
      (c.toNat < 0x20 ∧ Value.escapeChar c = ['\\', 'u'] ++ Value.fourHex c.toNat) ∨
      (0x20 ≤ c.toNat ∧ c ≠ '"' ∧ c ≠ '\\' ∧ Value.escapeChar c = [c]) := by
  by_cases hshort : c ∈ ['"', '\\', '\x08', '\t', '\n', '\x0c', '\r']
  · left
    have hall : ['"', '\\', '\x08', '\t', '\n', '\x0c', '\r'].all (fun c => shortEscapes.any
        fun e => e.2 = c ∧ Value.escapeChar c = ['\\', e.1]) = true := by decide
    obtain ⟨⟨letter, d⟩, he, h⟩ := List.any_eq_true.mp (List.all_eq_true.mp hall c hshort)
    obtain ⟨rfl, hwrite⟩ := of_decide_eq_true h
    exact ⟨letter, he, hwrite⟩
  · right
    simp only [List.mem_cons, List.not_mem_nil, or_false, not_or] at hshort
    obtain ⟨hquote, hback, hb, ht, hn, hf, hr⟩ := hshort
    by_cases hcontrol : c.toNat < 0x20
    · left
      simp [Value.escapeChar, *]
    · right
      simp [Value.escapeChar, *]
      omega

theorem toNat_code (c : Char) (hc : c.toNat < 0x80) : (code c).toNat = c.toNat := by
  rw [code, UInt8.toNat_ofNat', Nat.mod_eq_of_lt (by omega)]

theorem code_ne {c d : Char} (hc : c.toNat < 0x80) (hd : d.toNat < 0x80) (h : c ≠ d) :
    code c ≠ code d := by
  intro hcode
  have hnat := congrArg UInt8.toNat hcode
  rw [toNat_code c hc, toNat_code d hd] at hnat
  exact h (Char.toNat_inj.mp hnat)

theorem utf8EncodeChar_ascii (c : Char) (hc : c.toNat < 0x80) :
    String.utf8EncodeChar c = [code c] := by
  have hle : c.val.toNat ≤ 0x7f := Nat.le_of_lt_succ hc
  rw [String.utf8EncodeChar, if_pos hle]
  rfl

/-- A byte that stands for itself in a text. -/
theorem spelledGlyph_of_le {b : UInt8} (hb : 0x80 ≤ b) : SpelledGlyph (.byte b) [b] := by
  have hne : ∀ d : UInt8, d < 0x80 → b ≠ d := by
    rintro d hd rfl
    exact absurd hd (UInt8.not_lt.mpr hb)
  exact .plain b (UInt8.le_trans (by decide) hb) (hne _ (by decide)) (hne _ (by decide))

theorem glyphs_of_le {bs : List UInt8} (hbs : ∀ b ∈ bs, 0x80 ≤ b) : Glyphs (bs.map .byte) bs := by
  induction bs with
  | nil => exact .nil
  | cons b rest ih =>
    obtain ⟨hb, hrest⟩ := List.forall_mem_cons.mp hbs
    exact .cons (.byte b) _ [b] rest (spelledGlyph_of_le hb) (ih hrest)

theorem glyphs_singleton {g : Glyph} {t : List UInt8} (h : SpelledGlyph g t) : Glyphs [g] t := by
  have hcons := Glyphs.cons g [] t [] h .nil
  rwa [List.append_nil] at hcons

theorem glyphs_append {gs hs : List Glyph} {t u : List UInt8} (hgs : Glyphs gs t)
    (hhs : Glyphs hs u) : Glyphs (gs ++ hs) (t ++ u) := by
  induction hgs with
  | nil => exact hhs
  | cons g gs v w hg hgs ih =>
    rw [List.append_assoc]
    exact .cons g _ v _ hg ih

theorem utf8_shortEscape : ∀ e ∈ shortEscapes,
    utf8 ['\\', e.1] = [code '\\', code e.1] ∧ e.2.toNat < 0x80 := by
  decide

theorem hexDigit_digitChar (d : Nat) (hd : d < 16) :
    HexDigit d (code (Nat.digitChar d)) := by
  have hdecimal : ∀ d < 10, code (Nat.digitChar d) = .ofNat (0x30 + d) := by decide
  have hlower : ∀ d < 6, code (Nat.digitChar (10 + d)) = .ofNat (0x61 + d) := by decide
  by_cases h : d < 10
  · rw [hdecimal d h]
    exact .decimal d h
  · obtain ⟨e, rfl⟩ : ∃ e, d = 10 + e := ⟨d - 10, by omega⟩
    rw [hlower e (by omega)]
    exact .lower e (by omega)

theorem spelledGlyph_fourHex (n : Nat) (hn : n < 0x10000) :
    SpelledGlyph (.unit n) (utf8 (['\\', 'u'] ++ Value.fourHex n)) := by
  have hascii : ∀ d < 16, String.utf8EncodeChar (Nat.digitChar d) = [code (Nat.digitChar d)] := by
    decide
  have hbytes : utf8 (['\\', 'u'] ++ Value.fourHex n) =
      [code '\\', code 'u', code (Nat.digitChar (n / 4096 % 16)),
        code (Nat.digitChar (n / 256 % 16)), code (Nat.digitChar (n / 16 % 16)),
        code (Nat.digitChar (n % 16))] := by
    have hopen : utf8 ['\\', 'u'] = [code '\\', code 'u'] := by decide
    rw [utf8_append, hopen]
    simp [Value.fourHex, utf8, hascii, Nat.mod_lt]
  have hdigits : n =
      16 * (16 * (16 * (n / 4096 % 16) + n / 256 % 16) + n / 16 % 16) + n % 16 := by omega
  have hunit := SpelledGlyph.unit (n / 4096 % 16) (n / 256 % 16) (n / 16 % 16) (n % 16) _ _ _ _
    (hexDigit_digitChar _ (Nat.mod_lt _ (by decide)))
    (hexDigit_digitChar _ (Nat.mod_lt _ (by decide)))
    (hexDigit_digitChar _ (Nat.mod_lt _ (by decide)))
    (hexDigit_digitChar _ (Nat.mod_lt _ (by decide)))
  rw [← hdigits] at hunit
  rw [hbytes]
  exact hunit

/-- Each character is written by glyphs that give it. -/
theorem exists_glyphs_escapeChar (c : Char) :
    ∃ gs, Gives c gs ∧ Glyphs gs (utf8 (Value.escapeChar c)) := by
  rcases escapeChar_cases c with ⟨letter, he, hwrite⟩ | ⟨hc, hwrite⟩ | ⟨hc, hquote, hback, hwrite⟩
  · obtain ⟨hbytes, hascii⟩ := utf8_shortEscape _ he
    refine ⟨[.byte (code c)], ?_, ?_⟩
    · have hgives := Gives.bytes c
      rwa [utf8EncodeChar_ascii c hascii] at hgives
    · rw [hwrite, hbytes]
      exact glyphs_singleton (.short letter c he)
  · have hlt : c.toNat < 0x10000 := Nat.lt_trans hc (by decide)
    refine ⟨[.unit c.toNat], .unit c hlt, ?_⟩
    rw [hwrite]
    exact glyphs_singleton (spelledGlyph_fourHex c.toNat hlt)
  · refine ⟨_, .bytes c, ?_⟩
    have hself : utf8 [c] = String.utf8EncodeChar c := List.append_nil _
    rw [hwrite, hself]
    by_cases hascii : c.toNat < 0x80
    · rw [utf8EncodeChar_ascii c hascii]
      have hcontrol : 0x20 ≤ code c := by
        rw [UInt8.le_iff_toNat_le, toNat_code c hascii]
        exact hc
      exact glyphs_singleton (.plain (code c) hcontrol (code_ne hascii (by decide) hquote)
        (code_ne hascii (by decide) hback))
    · exact glyphs_of_le (le_of_mem_utf8EncodeChar c (Nat.le_of_not_lt hascii))

theorem exists_glyphs_escape (cs : List Char) :
    ∃ gs, GivesAll cs gs ∧ Glyphs gs (utf8 (cs.flatMap Value.escapeChar)) := by
  induction cs with
  | nil => exact ⟨[], .nil, .nil⟩
  | cons c rest ih =>
    obtain ⟨gs, hgives, hglyphs⟩ := exists_glyphs_escapeChar c
    obtain ⟨hs, hgivesAll, hrest⟩ := ih
    refine ⟨gs ++ hs, .cons c rest gs hs hgives hgivesAll, ?_⟩
    rw [List.flatMap_cons, utf8_append]
    exact glyphs_append hglyphs hrest

theorem quoted_writeString (s : String) : Quoted (some s) (utf8 (Value.writeString s)) := by
  obtain ⟨gs, hgives, hglyphs⟩ := exists_glyphs_escape s.toList
  have hquoted := Quoted.proper s.toList gs _ hglyphs hgives
  rw [String.ofList_toList] at hquoted
  have hquote : utf8 ['"'] = [code '"'] := by decide
  rw [Value.writeString, utf8_append, utf8_append, hquote]
  exact hquoted

end Texts

namespace Value

mutual

/-- What the text of a value is read to. -/
def draft : Value → Draft
  | .null => .null
  | .bool b => .bool b
  | .number n => .number (.ofNat n)
  | .string s => .string (some s)
  | .array vs => .array (drafts vs) true
  | .object ms => .object (memberDrafts ms) true

def drafts : List Value → List Draft
  | [] => []
  | v :: vs => draft v :: drafts vs

def memberDrafts : List (String × Value) → List (Option String × Draft)
  | [] => []
  | (k, v) :: ms => (some k, draft v) :: memberDrafts ms

end

theorem drafts_eq_map (vs : List Value) : drafts vs = vs.map draft := by
  induction vs with
  | nil => rfl
  | cons v vs ih => rw [drafts, ih, List.map_cons]

theorem memberDrafts_eq_map (ms : List (String × Value)) :
    memberDrafts ms = ms.map fun m => (some m.1, m.2.draft) := by
  induction ms with
  | nil => rfl
  | cons m ms ih => rw [memberDrafts, ih, List.map_cons]

end Value

section Values

/-- The bytes of the characters that stand around values. -/
theorem utf8_singleton (c : Char) (hc : c ∈ ['[', ']', '\x7b', '\x7d', ',', ':']) :
    utf8 [c] = [code c] := by
  have hall : ['[', ']', '\x7b', '\x7d', ',', ':'].all (fun c => utf8 [c] = [code c]) = true := by
    decide
  exact of_decide_eq_true (List.all_eq_true.mp hall c hc)

theorem key_writeString (k : String) : Key (some k) (utf8 (Value.writeString k ++ [':'])) := by
  have hkey := Key.mk (some k) _ [] [] [] (quoted_writeString k) spaces_nil spaces_nil spaces_nil
  rw [utf8_append, utf8_singleton ':' (by decide)]
  rwa [List.append_nil, List.append_nil, List.nil_append] at hkey

mutual

/-- The text of a value spells that value. -/
theorem spells_write : (v : Value) → Spells (.value v.draft) (utf8 v.write)
  | .null => .null
  | .bool true => .yes
  | .bool false => .no
  | .number n => .number _ _ (literal_toDigits n)
  | .string s => .string _ _ (quoted_writeString s)
  | .array [] => .emptyArray [] spaces_nil
  | .array (v :: vs) => by
    have hitems := spells_writeItems v.draft (utf8 v.write) (spells_write v) vs
    have hbytes : utf8 (Value.array (v :: vs)).write =
        [code '['] ++ (utf8 v.write ++ utf8 (Value.writeItems vs ++ [']'])) := by
      simp only [Value.write, utf8_append, List.append_assoc, utf8_singleton '[' (by decide)]
    rw [hbytes]
    exact .array _ _ hitems
  | .object [] => .emptyObject [] spaces_nil
  | .object ((k, v) :: ms) => by
    have hmembers := spells_writeMembers (some k) v.draft _ (utf8 v.write) (key_writeString k)
      (spells_write v) ms
    have hbytes : utf8 (Value.object ((k, v) :: ms)).write =
        [code '\x7b'] ++ (utf8 (Value.writeString k ++ [':']) ++ utf8 v.write ++
          utf8 (Value.writeMembers ms ++ ['\x7d'])) := by
      simp only [Value.write, utf8_append, List.append_assoc, utf8_singleton '\x7b' (by decide)]
    rw [hbytes]
    exact .object _ _ hmembers

/-- The items behind the first. -/
theorem spells_writeItems (d : Draft) (t : List UInt8) (hd : Spells (.value d) t) :
    (vs : List Value) →
      Spells (.items (d :: Value.drafts vs)) (t ++ utf8 (Value.writeItems vs ++ [']']))
  | [] => by
    have hlast := Spells.lastItem d t [] [] spaces_nil hd spaces_nil
    rwa [List.nil_append, List.append_nil] at hlast
  | v :: vs => by
    have hrest := spells_writeItems v.draft (utf8 v.write) (spells_write v) vs
    have hitem := Spells.item d _ t [] [] _ spaces_nil hd spaces_nil hrest
    rw [List.nil_append, List.append_nil, List.append_assoc] at hitem
    have hbytes : utf8 (Value.writeItems (v :: vs) ++ [']']) =
        [code ','] ++ (utf8 v.write ++ utf8 (Value.writeItems vs ++ [']'])) := by
      simp only [Value.writeItems, utf8_append, List.append_assoc, utf8_singleton ',' (by decide)]
    rw [hbytes]
    exact hitem

/-- The members behind the first. -/
theorem spells_writeMembers (k : Option String) (d : Draft) (t u : List UInt8) (hk : Key k t)
    (hd : Spells (.value d) u) : (ms : List (String × Value)) →
      Spells (.members ((k, d) :: Value.memberDrafts ms))
        (t ++ u ++ utf8 (Value.writeMembers ms ++ ['\x7d']))
  | [] => by
    have hlast := Spells.lastMember k d t u [] hk hd spaces_nil
    rwa [List.append_nil] at hlast
  | (k', v) :: ms => by
    have hrest := spells_writeMembers (some k') v.draft _ (utf8 v.write) (key_writeString k')
      (spells_write v) ms
    have hmember := Spells.member k d _ t u [] _ hk hd spaces_nil hrest
    rw [List.append_nil, List.append_assoc] at hmember
    have hbytes : utf8 (Value.writeMembers ((k', v) :: ms) ++ ['\x7d']) =
        [code ','] ++ (utf8 (Value.writeString k' ++ [':']) ++ utf8 v.write ++
          utf8 (Value.writeMembers ms ++ ['\x7d'])) := by
      simp only [Value.writeMembers, utf8_append, List.append_assoc,
        utf8_singleton ',' (by decide)]
    rw [hbytes]
    exact hmember

end

end Values

theorem Value.isDocument_write (v : Value) : IsDocument v.draft (utf8 v.write) := by
  have hdocument :=
    IsDocument.mk v.draft (utf8 v.write) [] [] spaces_nil (spells_write v) spaces_nil
  rwa [List.nil_append, List.append_nil] at hdocument

/-- The writer writes a text of the value's draft. -/
theorem Value.isDocument_text (v : Value) : IsDocument v.draft v.text.toUTF8.toList := by
  rw [Value.text, toList_toUTF8_ofList]
  exact v.isDocument_write

end StatusBoard.Json
