import Mathlib.Data.List.Basic
import StatusBoard.Url.Path

/-!
Paths of special URLs as segments. What reading leaves in a segment it leaves there for good:
nothing in it is encoded, split at or resolved a second time. So the text of such a path is read as the same
segments again, behind whatever segments come before.
-/
namespace StatusBoard.Url

namespace Percent

variable {inSet : Char → Bool} {c : Char} {cs : List Char}

theorem encodeChar_eq_self (hascii : c.toNat < 0x80) (hset : inSet c = false) :
    encodeChar inSet c = [c] := by
  rw [encodeChar, if_pos hascii, hset, if_neg Bool.false_ne_true]

theorem encode_eq_self (h : ∀ c ∈ cs, encodeChar inSet c = [c]) : encode inSet cs = cs := by
  induction cs with
  | nil => rfl
  | cons c rest ih =>
    have hrest := ih fun d hd => h d (List.mem_cons_of_mem c hd)
    rw [encode, List.flatMap_cons, h c List.mem_cons_self]
    exact congrArg (List.cons c) hrest

theorem kept_hexDigit : ∀ n < 16, encodeChar inPath (hexDigit n) = [hexDigit n] := by
  decide

theorem kept_of_mem_encodeByte {b : UInt8} (h : c ∈ encodeByte b) :
    encodeChar inPath c = [c] := by
  have hbyte := b.toNat_lt
  simp only [encodeByte, List.mem_cons, List.not_mem_nil, or_false] at h
  rcases h with rfl | rfl | rfl
  · decide
  · exact kept_hexDigit _ (by omega)
  · exact kept_hexDigit _ (by omega)

/-- What is encoded in a path is not encoded again. -/
theorem kept_of_mem_encode (h : c ∈ encode inPath cs) : encodeChar inPath c = [c] := by
  obtain ⟨d, -, hc⟩ := List.mem_flatMap.mp h
  unfold encodeChar at hc
  split at hc
  · rename_i hascii
    split at hc
    · exact kept_of_mem_encodeByte hc
    · rename_i hset
      obtain rfl := List.mem_singleton.mp hc
      exact encodeChar_eq_self hascii (Bool.eq_false_iff.mpr hset)
  · obtain ⟨b, -, hc⟩ := List.mem_flatMap.mp hc
    exact kept_of_mem_encodeByte hc

end Percent

namespace Path

/-- A slash of either kind, at which the paths of special URLs are split. -/
def isSlash (c : Char) : Bool := c == '/' || c == '\\'

/-- A character that is neither encoded nor split at. -/
def IsPlain (c : Char) : Prop :=
  Percent.encodeChar Percent.inPath c = [c] ∧ isSlash c = false

/-- A segment that reading a path leaves as it is. -/
structure IsNormal (s : List Char) : Prop where
  plain : ∀ c ∈ s, IsPlain c
  not_dot : isDot s = false
  not_doubleDot : isDoubleDot s = false

theorem IsNormal.nil : IsNormal [] := ⟨nofun, by decide, by decide⟩

variable {before ss rest : List (List Char)} {s cs : List Char}

/-- No piece holds what was split at. -/
theorem of_mem_splitOnP {p : Char → Bool} (hs : s ∈ cs.splitOnP p) :
    ∀ c ∈ s, c ∈ cs ∧ p c = false := by
  induction cs generalizing s with
  | nil =>
    obtain rfl := List.mem_singleton.mp hs
    exact nofun
  | cons x xs ih =>
    have hrest {t : List Char} (ht : t ∈ xs.splitOnP p) : ∀ c ∈ t, c ∈ x :: xs ∧ p c = false :=
      fun c hc => ⟨List.mem_cons_of_mem x (ih ht c hc).1, (ih ht c hc).2⟩
    rw [List.splitOnP_cons_eq_if_modifyHead] at hs
    split at hs
    · rcases List.mem_cons.mp hs with rfl | hs
      · exact nofun
      · exact hrest hs
    · rename_i hx
      obtain ⟨t, ts, hsplit⟩ := List.exists_cons_of_ne_nil (List.splitOnP_ne_nil p xs)
      rw [hsplit, List.modifyHead_cons] at hs
      rcases List.mem_cons.mp hs with rfl | hs
      · intro c hc
        rcases List.mem_cons.mp hc with rfl | hc
        · exact ⟨List.mem_cons_self, Bool.eq_false_iff.mpr hx⟩
        · exact hrest (hsplit ▸ List.mem_cons_self) c hc
      · exact hrest (hsplit ▸ List.mem_cons_of_mem t hs)

theorem text_cons (s : List Char) (rest : List (List Char)) :
    text (s :: rest) = '/' :: (s ++ text rest) := rfl

theorem text_concat (ss : List (List Char)) (s : List Char) :
    text (ss ++ [s]) = text ss ++ '/' :: s := by
  rw [text, text, List.flatMap_append, List.flatMap_singleton]

/-- The text of a path is split into its segments. -/
theorem splitOnP_text (hs : ∀ c ∈ s, isSlash c = false)
    (hrest : ∀ t ∈ rest, ∀ c ∈ t, isSlash c = false) :
    (s ++ text rest).splitOnP isSlash = s :: rest := by
  induction rest generalizing s with
  | nil =>
    rw [text, List.flatMap_nil, List.append_nil]
    exact List.splitOnP_eq_singleton hs
  | cons t rest ih =>
    rw [text_cons, List.splitOnP_append_cons_of_forall_mem hs '/' rfl,
      ih (hrest t List.mem_cons_self) fun u hu => hrest u (List.mem_cons_of_mem t hu)]

theorem normal_eq_self (s : List Char) : normal false s = s := by
  unfold normal
  split <;> rfl

theorem append_cons (hdot : isDot s = false) (hdoubleDot : isDoubleDot s = false) :
    append false before (s :: ss) = append false (before ++ [s]) ss := by
  cases ss <;> simp [append, hdot, hdoubleDot, normal_eq_self]

/-- Segments without dots are appended as they are. -/
theorem append_eq (h : ∀ s ∈ ss, IsNormal s) : append false before ss = before ++ ss := by
  induction ss generalizing before with
  | nil => rw [append, List.append_nil]
  | cons s rest ih =>
    have hs := h s List.mem_cons_self
    rw [append_cons hs.not_dot hs.not_doubleDot, ih fun t ht => h t (List.mem_cons_of_mem s ht),
      List.append_assoc, List.singleton_append]

theorem normal_shorten (h : ∀ t ∈ before, IsNormal t) : ∀ t ∈ shorten before, IsNormal t := by
  unfold shorten
  split
  · split
    · exact h
    · exact fun t ht => h t (List.dropLast_subset _ ht)
  · exact nofun

theorem normal_concat (h : ∀ t ∈ before, IsNormal t) (hs : IsNormal s) :
    ∀ t ∈ before ++ [s], IsNormal t :=
  List.forall_mem_append.mpr ⟨h, List.forall_mem_singleton.mpr hs⟩

/-- Appending resolves the dots. -/
theorem normal_append (hbefore : ∀ t ∈ before, IsNormal t) (hss : ∀ t ∈ ss, ∀ c ∈ t, IsPlain c) :
    ∀ t ∈ append false before ss, IsNormal t := by
  fun_induction append false before ss with
  | case1 before => exact hbefore
  | case2 before s hdoubleDot => exact normal_concat (normal_shorten hbefore) .nil
  | case3 before s hdoubleDot hdot => exact normal_concat hbefore .nil
  | case4 before s hdoubleDot hdot =>
    rw [normal_eq_self]
    exact normal_concat hbefore
      ⟨hss s List.mem_cons_self, Bool.eq_false_iff.mpr hdot, Bool.eq_false_iff.mpr hdoubleDot⟩
  | case5 before s rest hrest hdoubleDot ih =>
    exact ih (normal_shorten hbefore) fun t ht => hss t (List.mem_cons_of_mem s ht)
  | case6 before s rest hrest hdoubleDot hdot ih =>
    exact ih hbefore fun t ht => hss t (List.mem_cons_of_mem s ht)
  | case7 before s rest hrest hdoubleDot hdot ih =>
    refine ih ?_ fun t ht => hss t (List.mem_cons_of_mem s ht)
    rw [normal_eq_self]
    exact normal_concat hbefore
      ⟨hss s List.mem_cons_self, Bool.eq_false_iff.mpr hdot, Bool.eq_false_iff.mpr hdoubleDot⟩

theorem append_ne_nil (h : ss ≠ []) : append false before ss ≠ [] := by
  fun_induction append false before ss with
  | case1 => exact absurd rfl h
  | case2 | case3 | case4 => exact List.append_ne_nil_of_right_ne_nil _ (List.cons_ne_nil _ _)
  | case5 before s rest hrest hdoubleDot ih => exact ih fun hnil => hrest hnil
  | case6 before s rest hrest hdoubleDot hdot ih => exact ih fun hnil => hrest hnil
  | case7 before s rest hrest hdoubleDot hdot ih => exact ih fun hnil => hrest hnil

theorem read_eq_append (before : List (List Char)) (cs : List Char) :
    read true false before cs =
      append false before ((Percent.encode Percent.inPath cs).splitOnP isSlash) := rfl

/-- A path that is read has normal segments. -/
theorem normal_read (h : ∀ t ∈ before, IsNormal t) (cs : List Char) :
    ∀ t ∈ read true false before cs, IsNormal t := by
  rw [read_eq_append]
  refine normal_append h fun t ht c hc => ?_
  obtain ⟨hmem, hslash⟩ := of_mem_splitOnP ht c hc
  exact ⟨Percent.kept_of_mem_encode hmem, hslash⟩

theorem read_ne_nil (before : List (List Char)) (cs : List Char) :
    read true false before cs ≠ [] := by
  rw [read_eq_append]
  exact append_ne_nil (List.splitOnP_ne_nil _ _)

/-- The text of normal segments is read as these segments. -/
theorem read_text (before : List (List Char)) (hs : IsNormal s) (hrest : ∀ t ∈ rest, IsNormal t) :
    read true false before (s ++ text rest) = before ++ s :: rest := by
  have hkept : ∀ c ∈ s ++ text rest, Percent.encodeChar Percent.inPath c = [c] := by
    intro c hc
    rcases List.mem_append.mp hc with hc | hc
    · exact (hs.plain c hc).1
    · obtain ⟨t, ht, hc⟩ := List.mem_flatMap.mp hc
      rcases List.mem_cons.mp hc with rfl | hc
      · decide
      · exact ((hrest t ht).plain c hc).1
  rw [read_eq_append, Percent.encode_eq_self hkept,
    splitOnP_text (fun c hc => (hs.plain c hc).2) fun t ht c hc => ((hrest t ht).plain c hc).2]
  exact append_eq (List.forall_mem_cons.mpr ⟨hs, hrest⟩)

/-- The text of a path ends in a slash exactly if its last segment is empty. -/
theorem getLast?_text_iff (h : ∀ t ∈ ss, IsNormal t) :
    (text ss).getLast? = some '/' ↔ ss.getLast? = some [] := by
  rcases List.eq_nil_or_concat' ss with rfl | ⟨init, s, rfl⟩
  · exact iff_of_false nofun nofun
  · rw [text_concat, List.getLast?_concat]
    rcases List.eq_nil_or_concat' s with rfl | ⟨front, c, rfl⟩
    · exact iff_of_true (List.getLast?_concat ..) rfl
    · rw [← List.cons_append, ← List.append_assoc, List.getLast?_concat]
      refine iff_of_false (fun hc => ?_) fun hs => List.concat_ne_nil c front (Option.some.inj hs)
      obtain rfl := Option.some.inj hc
      have hplain := (h (front ++ ['/']) (by simp)).plain '/' (by simp)
      exact Bool.noConfusion hplain.2

end Path

end StatusBoard.Url
