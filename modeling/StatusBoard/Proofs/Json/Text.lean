import StatusBoard.Proofs.Json.Grammar
import StatusBoard.Proofs.Text.Utf8

/-!
What a row of glyphs stands for. A character may be given by its UTF-8 bytes, by an escaped code
unit, or by an escaped surrogate pair, and the text of a row is the text of its characters.
-/
namespace StatusBoard.Json.Glyph

open Grammar

theorem bytes?_map_byte (bs : List UInt8) (gs : List Glyph) :
    bytes? (bs.map .byte ++ gs) = (bytes? gs).map (bs ++ ·) := by
  induction bs with
  | nil => simp
  | cons b rest ih =>
    simp only [List.map_cons, List.cons_append, bytes?, ih, Option.map_map]
    rfl

/-- A code unit that is no surrogate. -/
theorem bytes?_unit (u : Nat) (gs : List Glyph) (hu : u < 0xd800 ∨ 0xe000 ≤ u) :
    bytes? (.unit u :: gs) = (bytes? gs).map (encode u ++ ·) := by
  have hleading : isLeading u = false := by
    simp only [isLeading, Bool.and_eq_false_iff, decide_eq_false_iff_not]
    omega
  have htrailing : isTrailing u = false := by
    simp only [isTrailing, Bool.and_eq_false_iff, decide_eq_false_iff_not]
    omega
  cases gs with
  | nil => simp [bytes?, hleading, htrailing]
  | cons g gs => cases g <;> simp [bytes?, hleading, htrailing]

theorem bytes?_pair (n : Nat) (gs : List Glyph) (hlow : 0x10000 ≤ n) (hhigh : n < 0x110000) :
    bytes? (.unit (0xd800 + (n - 0x10000) / 0x400) ::
        .unit (0xdc00 + (n - 0x10000) % 0x400) :: gs) = (bytes? gs).map (encode n ++ ·) := by
  have hleading : isLeading (0xd800 + (n - 0x10000) / 0x400) = true := by
    simp only [isLeading, Bool.and_eq_true, decide_eq_true_eq]
    omega
  have htrailing : isTrailing (0xdc00 + (n - 0x10000) % 0x400) = true := by
    simp only [isTrailing, Bool.and_eq_true, decide_eq_true_eq]
    omega
  have hjoin : 0x10000 + (0xd800 + (n - 0x10000) / 0x400 - 0xd800) * 0x400 +
      (0xdc00 + (n - 0x10000) % 0x400 - 0xdc00) = n := by omega
  simp only [bytes?, hleading, htrailing, if_true, hjoin]

theorem encode_toNat (c : Char) : encode c.toNat = String.utf8EncodeChar c := by
  rw [encode, Char.ofNat_toNat]

theorem bytes?_gives {c : Char} {gs : List Glyph} (h : Gives c gs) (rest : List Glyph) :
    bytes? (gs ++ rest) = (bytes? rest).map (String.utf8EncodeChar c ++ ·) := by
  cases h with
  | bytes => exact bytes?_map_byte _ rest
  | unit hc =>
    have hscalar : c.toNat < 0xd800 ∨ 0xe000 ≤ c.toNat := by
      rcases c.valid with h | h <;> simp only [Char.toNat] <;> omega
    exact (bytes?_unit c.toNat rest hscalar).trans (by rw [encode_toNat])
  | pair hc =>
    have hscalar : c.toNat < 0x110000 := by
      rcases c.valid with h | h <;> simp only [Char.toNat] <;> omega
    exact (bytes?_pair c.toNat rest hc hscalar).trans (by rw [encode_toNat])

theorem bytes?_givesAll {cs : List Char} {gs : List Glyph} (h : GivesAll cs gs) :
    bytes? gs = some (utf8 cs) := by
  induction h with
  | nil => rfl
  | cons c cs gs hs hc hcs ih => rw [bytes?_gives hc, ih, Option.map_some, utf8_cons]

theorem text?_givesAll {cs : List Char} {gs : List Glyph} (h : GivesAll cs gs) :
    text? gs = some (String.ofList cs) := by
  rw [text?, bytes?_givesAll h]
  exact fromUTF8?_utf8 cs

theorem toNat_ofNat {n : Nat} (hscalar : n < 0xd800 ∨ 0xe000 ≤ n) (hn : n < 0x110000) :
    (Char.ofNat n).toNat = n := by
  have hvalid : n.isValidChar := by
    unfold Nat.isValidChar
    omega
  rw [Char.ofNat, dif_pos hvalid]
  rfl

/-- A surrogate is the first of a pair, or the row has no bytes. -/
theorem bytes?_surrogate {u : Nat} {gs : List Glyph} {bs : List UInt8}
    (hu : ¬(u < 0xd800 ∨ 0xe000 ≤ u)) (h : bytes? (.unit u :: gs) = some bs) :
    ∃ v more, gs = .unit v :: more ∧ isLeading u = true ∧ isTrailing v = true ∧
      (bytes? more).map (encode (0x10000 + (u - 0xd800) * 0x400 + (v - 0xdc00)) ++ ·) =
        some bs := by
  have hsurrogate : (isLeading u || isTrailing u) = true := by
    simp only [isLeading, isTrailing, Bool.or_eq_true, Bool.and_eq_true, decide_eq_true_eq]
    omega
  cases gs with
  | nil => simp [bytes?, hsurrogate] at h
  | cons g more =>
    cases g with
    | byte b => simp [bytes?, hsurrogate] at h
    | unit v =>
      rw [bytes?] at h
      by_cases hleading : isLeading u = true
      · by_cases htrailing : isTrailing v = true
        · rw [if_pos hleading, if_pos htrailing] at h
          exact ⟨v, more, rfl, hleading, htrailing, h⟩
        · simp [hleading, htrailing] at h
      · have htrailing : isTrailing u = true := by simpa [hleading] using hsurrogate
        simp [hleading, htrailing] at h

/-- How the bytes of a row begin: with a raw byte, or with a character that escapes give. -/
theorem bytes?_cons {g : Glyph} {gs : List Glyph} {bs : List UInt8}
    (hunits : ∀ u, .unit u ∈ g :: gs → u < 0x10000) (h : bytes? (g :: gs) = some bs) :
    (∃ b rest, g = .byte b ∧ bytes? gs = some rest ∧ bs = b :: rest) ∨
      ∃ c hs more rest, g :: gs = hs ++ more ∧ Gives c hs ∧ bytes? more = some rest ∧
        bs = String.utf8EncodeChar c ++ rest := by
  cases g with
  | byte b =>
    obtain ⟨rest, hrest, rfl⟩ := Option.map_eq_some_iff.mp h
    exact .inl ⟨b, rest, rfl, hrest, rfl⟩
  | unit u =>
    right
    have hu := hunits u List.mem_cons_self
    by_cases hscalar : u < 0xd800 ∨ 0xe000 ≤ u
    · rw [bytes?_unit u gs hscalar] at h
      obtain ⟨rest, hrest, rfl⟩ := Option.map_eq_some_iff.mp h
      have htoNat : (Char.ofNat u).toNat = u := toNat_ofNat (by omega) (by omega)
      have hgives := Gives.unit (Char.ofNat u) (by omega)
      rw [htoNat] at hgives
      exact ⟨Char.ofNat u, [.unit u], gs, rest, rfl, hgives, hrest, rfl⟩
    · obtain ⟨v, more, rfl, hleading, htrailing, h⟩ := bytes?_surrogate hscalar h
      obtain ⟨rest, hrest, rfl⟩ := Option.map_eq_some_iff.mp h
      simp only [isLeading, isTrailing, Bool.and_eq_true, decide_eq_true_eq] at hleading htrailing
      have hn : ∃ n, n = 0x10000 + (u - 0xd800) * 0x400 + (v - 0xdc00) := ⟨_, rfl⟩
      obtain ⟨n, hn⟩ := hn
      have htoNat : (Char.ofNat n).toNat = n := toNat_ofNat (by omega) (by omega)
      have hu : u = 0xd800 + (n - 0x10000) / 0x400 := by omega
      have hv : v = 0xdc00 + (n - 0x10000) % 0x400 := by omega
      have hgives := Gives.pair (Char.ofNat n) (by omega)
      rw [htoNat, ← hu, ← hv] at hgives
      exact ⟨Char.ofNat n, [.unit u, .unit v], more, rest, rfl, hgives, hrest,
        by rw [← hn, encode]⟩

/-- Bytes that go on with a character are raw. -/
theorem exists_map_byte {ds bs : List UInt8} (hds : ∀ d ∈ ds, ¬d.IsUTF8FirstByte) {gs : List Glyph}
    (hunits : ∀ u, .unit u ∈ gs → u < 0x10000) (h : bytes? gs = some (ds ++ bs)) :
    ∃ more, gs = ds.map .byte ++ more ∧ bytes? more = some bs := by
  induction ds generalizing gs with
  | nil => exact ⟨gs, rfl, h⟩
  | cons d ds ih =>
    obtain ⟨hd, hds⟩ := List.forall_mem_cons.mp hds
    cases gs with
    | nil => exact nomatch h
    | cons g gs =>
      rcases bytes?_cons hunits h with ⟨b, rest, rfl, hrest, heq⟩ | ⟨c, hs, more, rest, -, -, -, heq⟩
      · obtain ⟨rfl, rfl⟩ := List.cons.inj heq
        obtain ⟨more, rfl, hmore⟩ :=
          ih hds (fun u hu => hunits u (List.mem_cons_of_mem _ hu)) hrest
        exact ⟨more, rfl, hmore⟩
      · obtain ⟨b, tail, hc⟩ := List.exists_cons_of_ne_nil (String.utf8EncodeChar_ne_nil (c := c))
        rw [hc, List.cons_append, List.cons_append] at heq
        obtain ⟨rfl, -⟩ := List.cons.inj heq
        exact absurd (isUTF8FirstByte_cons hc).1 hd

theorem givesAll_of_bytes? {cs : List Char} {gs : List Glyph}
    (hunits : ∀ u, .unit u ∈ gs → u < 0x10000) (h : bytes? gs = some (utf8 cs)) :
    GivesAll cs gs := by
  induction cs generalizing gs with
  | nil =>
    cases gs with
    | nil => exact .nil
    | cons g gs =>
      rcases bytes?_cons hunits h with ⟨b, rest, -, -, heq⟩ | ⟨c, hs, more, rest, -, -, -, heq⟩
      · exact nomatch heq
      · exact absurd (List.append_eq_nil_iff.mp heq.symm).1 String.utf8EncodeChar_ne_nil
  | cons c cs ih =>
    cases gs with
    | nil =>
      exact absurd (List.append_eq_nil_iff.mp (Option.some.inj h).symm).1
        String.utf8EncodeChar_ne_nil
    | cons g gs =>
      rcases bytes?_cons hunits h with
        ⟨b, rest, rfl, hrest, heq⟩ | ⟨d, hs, more, rest, hsplit, hd, hmore, heq⟩
      · obtain ⟨b', tail, hc⟩ := List.exists_cons_of_ne_nil (String.utf8EncodeChar_ne_nil (c := c))
        rw [utf8_cons, hc, List.cons_append] at heq
        obtain ⟨rfl, rfl⟩ := List.cons.inj heq
        have hgs : ∀ u, .unit u ∈ gs → u < 0x10000 := fun u hu =>
          hunits u (List.mem_cons_of_mem _ hu)
        obtain ⟨more, rfl, hmore⟩ := exists_map_byte (isUTF8FirstByte_cons hc).2 hgs hrest
        have hmoreUnits : ∀ u, .unit u ∈ more → u < 0x10000 := fun u hu =>
          hgs u (List.mem_append_right _ hu)
        have hbytes := Gives.bytes c
        rw [hc] at hbytes
        exact .cons c cs _ more hbytes (ih hmoreUnits hmore)
      · obtain ⟨rfl, rfl⟩ := utf8EncodeChar_append_inj heq
        have hmoreUnits : ∀ u, .unit u ∈ more → u < 0x10000 := fun u hu =>
          hunits u (hsplit ▸ List.mem_append_right _ hu)
        rw [hsplit]
        exact .cons c cs hs more hd (ih hmoreUnits hmore)

/-- A row of glyphs is a proper text exactly when it gives characters. -/
theorem text?_eq_some_iff {gs : List Glyph} (hunits : ∀ u, .unit u ∈ gs → u < 0x10000)
    (s : String) : text? gs = some s ↔ GivesAll s.toList gs := by
  constructor
  · intro h
    obtain ⟨bs, hbs, h⟩ := Option.bind_eq_some_iff.mp h
    rw [eq_utf8_of_fromUTF8? h] at hbs
    exact givesAll_of_bytes? hunits hbs
  · intro h
    rw [text?_givesAll h, String.ofList_toList]

theorem lt_of_hexDigit {d : Nat} {b : UInt8} (h : HexDigit d b) : d < 16 := by
  cases h <;> omega

theorem unit_lt_of_glyphs {gs : List Glyph} {t : List UInt8} (h : Glyphs gs t) :
    ∀ u, .unit u ∈ gs → u < 0x10000 := by
  induction h with
  | nil => exact fun u hu => absurd hu List.not_mem_nil
  | cons g gs t v hg hgs ih =>
    intro u hu
    rcases List.mem_cons.mp hu with rfl | hu
    · cases hg with
      | unit p q r s a b c d ha hb hc hd =>
        have hp := lt_of_hexDigit ha
        have hq := lt_of_hexDigit hb
        have hr := lt_of_hexDigit hc
        have hs := lt_of_hexDigit hd
        omega
    · exact ih u hu

/-- A quoted text is what its glyphs are read to. -/
theorem exists_glyphs_of_quoted {s : Option String} {t : List UInt8} (h : Quoted s t) :
    ∃ gs u, t = [code '"'] ++ u ++ [code '"'] ∧ Glyphs gs u ∧ text? gs = s := by
  cases h with
  | proper cs gs u hu hgs => exact ⟨gs, u, rfl, hu, text?_givesAll hgs⟩
  | improper gs u hu hgs =>
    refine ⟨gs, u, rfl, hu, Option.eq_none_iff_forall_ne_some.mpr fun s hs => ?_⟩
    exact hgs s.toList ((text?_eq_some_iff (unit_lt_of_glyphs hu) s).mp hs)

end StatusBoard.Json.Glyph
