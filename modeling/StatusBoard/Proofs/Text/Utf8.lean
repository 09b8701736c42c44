/-!
Characters and their UTF-8 bytes. The bytes of a text are those of its characters one after another,
and they tell the characters: the first byte of a character is never one that goes on with another.
-/
namespace StatusBoard

/-- The UTF-8 bytes of characters. -/
def utf8 (cs : List Char) : List UInt8 := cs.flatMap String.utf8EncodeChar

theorem utf8_append (cs ds : List Char) : utf8 (cs ++ ds) = utf8 cs ++ utf8 ds :=
  List.flatMap_append

theorem utf8_cons (c : Char) (cs : List Char) :
    utf8 (c :: cs) = String.utf8EncodeChar c ++ utf8 cs := rfl

/-- The loop walks the bytes from a place on. -/
theorem toList_loop (bs : ByteArray) (i : Nat) (r : List UInt8) :
    ByteArray.toList.loop bs i r = r.reverse ++ bs.data.toList.drop i := by
  fun_induction ByteArray.toList.loop bs i r with
  | case1 i r h ih =>
    have hi : i < bs.data.toList.length := h
    have hget : bs.get! i = bs.data.toList[i] := by
      simp only [ByteArray.get!, Array.getElem_toList]
      exact getElem!_pos bs.data i h
    rw [ih, List.drop_eq_getElem_cons hi, hget, List.reverse_cons, List.append_assoc,
      List.singleton_append]
  | case2 i r h =>
    rw [List.drop_eq_nil_of_le (Nat.le_of_not_lt h), List.append_nil]

theorem toList_toByteArray (bs : List UInt8) : bs.toByteArray.toList = bs := by
  rw [ByteArray.toList, toList_loop, List.toList_data_toByteArray, List.reverse_nil,
    List.nil_append, List.drop_zero]

theorem toList_toUTF8_ofList (cs : List Char) : (String.ofList cs).toUTF8.toList = utf8 cs := by
  rw [String.toUTF8_eq_toByteArray, String.toByteArray_ofList, List.utf8Encode,
    toList_toByteArray, utf8]

theorem fromUTF8?_utf8 (cs : List Char) :
    String.fromUTF8? ⟨(utf8 cs).toArray⟩ = some (String.ofList cs) := by
  have hbytes : (⟨(utf8 cs).toArray⟩ : ByteArray) = cs.utf8Encode :=
    ByteArray.ext List.data_toByteArray.symm
  rw [hbytes, String.fromUTF8?, dif_pos ByteArray.isValidUTF8_utf8Encode]
  exact congrArg some (String.toByteArray_inj.mp String.toByteArray_ofList.symm)

/-- Bytes that are read to a text are the bytes of its characters. -/
theorem eq_utf8_of_fromUTF8? {bs : List UInt8} {s : String}
    (h : String.fromUTF8? ⟨bs.toArray⟩ = some s) : bs = utf8 s.toList := by
  unfold String.fromUTF8? at h
  split at h
  case isTrue hvalid =>
    have hbytes : (⟨bs.toArray⟩ : ByteArray) = (utf8 s.toList).toByteArray := by
      have hs : s.toByteArray = s.toList.utf8Encode := by
        conv => lhs; rw [← String.ofList_toList (s := s), String.toByteArray_ofList]
      rw [utf8, ← List.utf8Encode, ← hs, ← Option.some.inj h]
      rfl
    have hdata := congrArg (fun b => b.data.toList) hbytes
    simpa only [List.toList_data_toByteArray] using hdata
  case isFalse => exact nomatch h

theorem le_of_mem_utf8EncodeChar (c : Char) (hc : 0x80 ≤ c.toNat) :
    ∀ b ∈ String.utf8EncodeChar c, 0x80 ≤ b := by
  -- Every byte is a remainder on top of a mark that has the highest bit.
  have hbyte : ∀ n k mark, 0 < k → 0x80 ≤ mark → k + mark ≤ 0x100 →
      (0x80 : UInt8) ≤ .ofNat (n % k + mark) := by
    intro n k mark hpos hlow hhigh
    have hlt := Nat.mod_lt n hpos
    rw [UInt8.le_iff_toNat_le, UInt8.toNat_ofNat', Nat.mod_eq_of_lt (by omega)]
    exact Nat.le_trans hlow (Nat.le_add_left _ _)
  have hbig : ¬c.val.toNat ≤ 0x7f := Nat.not_le_of_lt hc
  rw [String.utf8EncodeChar, if_neg hbig]
  intro b hb
  split at hb
  · simp only [List.mem_cons, List.not_mem_nil, or_false] at hb
    rcases hb with rfl | rfl <;> exact hbyte _ _ _ (by decide) (by decide) (by decide)
  · split at hb
    · simp only [List.mem_cons, List.not_mem_nil, or_false] at hb
      rcases hb with rfl | rfl | rfl <;> exact hbyte _ _ _ (by decide) (by decide) (by decide)
    · simp only [List.mem_cons, List.not_mem_nil, or_false] at hb
      rcases hb with rfl | rfl | rfl | rfl <;>
        exact hbyte _ _ _ (by decide) (by decide) (by decide)

/-- Only the first byte of a character can begin one. -/
theorem isUTF8FirstByte_cons {c : Char} {b : UInt8} {rest : List UInt8}
    (h : String.utf8EncodeChar c = b :: rest) :
    b.IsUTF8FirstByte ∧ ∀ d ∈ rest, ¬d.IsUTF8FirstByte := by
  have hat : ∀ i (hi : i < (b :: rest).length), (b :: rest)[i].IsUTF8FirstByte ↔ i = 0 := by
    rw [← h]
    exact fun i hi => UInt8.isUTF8FirstByte_getElem_utf8EncodeChar
  refine ⟨(hat 0 (Nat.zero_lt_succ _)).mpr rfl, fun d hd hfirst => ?_⟩
  obtain ⟨i, hi, rfl⟩ := List.mem_iff_getElem.mp hd
  exact Nat.succ_ne_zero i ((hat (i + 1) (Nat.succ_lt_succ hi)).mp hfirst)

/-- What begins with the bytes of one character does not begin with those of another. -/
theorem utf8EncodeChar_append_inj {c d : Char} {bs cs : List UInt8}
    (h : String.utf8EncodeChar c ++ bs = String.utf8EncodeChar d ++ cs) : c = d ∧ bs = cs := by
  have hbytes := congrArg List.toByteArray h
  rw [List.toByteArray_append, List.toByteArray_append] at hbytes
  have hc := ByteArray.utf8DecodeChar?_utf8EncodeChar_append (b := bs.toByteArray) (c := c)
  have hd := ByteArray.utf8DecodeChar?_utf8EncodeChar_append (b := cs.toByteArray) (c := d)
  rw [hbytes, hd] at hc
  obtain rfl : d = c := Option.some.inj hc
  exact ⟨rfl, List.append_cancel_left h⟩

/-- Every character takes a byte at least. -/
theorem length_le_utf8ByteSize (s : String) : s.length ≤ s.utf8ByteSize := by
  induction s using String.push_induction with
  | empty => exact Nat.le_refl 0
  | push s c ih =>
    have hc : 0 < c.utf8Size := c.utf8Size_pos
    rw [String.length_push, String.utf8ByteSize_push]
    omega

end StatusBoard
