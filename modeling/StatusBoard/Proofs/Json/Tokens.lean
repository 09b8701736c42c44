import StatusBoard.Proofs.Json.Grammar

/-!
The tokens of a JSON text: its brackets, commas, colons, texts, numbers and words, without the white
space around them. A text is a document exactly when it consists of the tokens of a value, with any
white space before, between and behind them.
-/
namespace StatusBoard.Json

/-- Tokens, and white space before, between and behind them. -/
inductive Spaced : List (List UInt8) → List UInt8 → Prop
  | nil (u : List UInt8) (hu : Spaces u) : Spaced [] u
  | cons (t : List UInt8) (ts : List (List UInt8)) (u v : List UInt8) (hu : Spaces u)
      (h : Spaced ts v) : Spaced (t :: ts) (u ++ t ++ v)

namespace Grammar

/-- The tokens that spell some content. -/
inductive Tokens : Content → List (List UInt8) → Prop
  | null : Tokens (.value .null) [[code 'n', code 'u', code 'l', code 'l']]
  | yes : Tokens (.value (.bool true)) [[code 't', code 'r', code 'u', code 'e']]
  | no : Tokens (.value (.bool false)) [[code 'f', code 'a', code 'l', code 's', code 'e']]
  | number (n : Numeral) (t : List UInt8) (h : Literal n t) : Tokens (.value (.number n)) [t]
  | string (s : Option String) (t : List UInt8) (h : Quoted s t) : Tokens (.value (.string s)) [t]
  | emptyArray : Tokens (.value (.array [] true)) [[code '['], [code ']']]
  | array (ds : List Draft) (ts : List (List UInt8)) (h : Tokens (.items ds) ts) :
      Tokens (.value (.array ds true)) ([code '['] :: ts)
  | emptyObject : Tokens (.value (.object [] true)) [[code '\x7b'], [code '\x7d']]
  | object (ms : List (Option String × Draft)) (ts : List (List UInt8))
      (h : Tokens (.members ms) ts) : Tokens (.value (.object ms true)) ([code '\x7b'] :: ts)
  | lastItem (d : Draft) (ts : List (List UInt8)) (hd : Tokens (.value d) ts) :
      Tokens (.items [d]) (ts ++ [[code ']']])
  | item (d : Draft) (ds : List Draft) (ts us : List (List UInt8)) (hd : Tokens (.value d) ts)
      (hds : Tokens (.items ds) us) : Tokens (.items (d :: ds)) (ts ++ [code ','] :: us)
  | lastMember (k : Option String) (d : Draft) (t : List UInt8) (ts : List (List UInt8))
      (hk : Quoted k t) (hd : Tokens (.value d) ts) :
      Tokens (.members [(k, d)]) (t :: [code ':'] :: (ts ++ [[code '\x7d']]))
  | member (k : Option String) (d : Draft) (ms : List (Option String × Draft)) (t : List UInt8)
      (ts us : List (List UInt8)) (hk : Quoted k t) (hd : Tokens (.value d) ts)
      (hms : Tokens (.members ms) us) :
      Tokens (.members ((k, d) :: ms)) (t :: [code ':'] :: (ts ++ [code ','] :: us))

end Grammar

open Grammar

section Spacing

theorem Spaced.indent {ts : List (List UInt8)} {t u : List UInt8} (hu : Spaces u)
    (ht : Spaced ts t) : Spaced ts (u ++ t) := by
  cases ht with
  | nil v hv => exact .nil _ (hu.append hv)
  | cons t ts v w hv h =>
    rw [← List.append_assoc, ← List.append_assoc]
    exact .cons t ts _ w (hu.append hv) h

theorem Spaced.append {ss ts : List (List UInt8)} {t u : List UInt8} (ht : Spaced ss t)
    (hu : Spaced ts u) : Spaced (ss ++ ts) (t ++ u) := by
  induction ht with
  | nil v hv => exact hu.indent hv
  | cons s ss v w hv _ ih =>
    rw [List.append_assoc _ w]
    exact .cons s _ v _ hv ih

/-- The white space between two rows of tokens may be counted to the second. -/
theorem exists_spaced_of_append {ss ts : List (List UInt8)} {t : List UInt8}
    (h : Spaced (ss ++ ts) t) : ∃ u v, t = u ++ v ∧ Spaced ss u ∧ Spaced ts v := by
  induction ss generalizing t with
  | nil => exact ⟨[], t, rfl, .nil [] spaces_nil, h⟩
  | cons s ss ih =>
    cases h with
    | cons _ _ w x hw h =>
      obtain ⟨u, v, rfl, hu, hv⟩ := ih h
      exact ⟨w ++ s ++ u, v, (List.append_assoc _ _ _).symm, .cons s ss w u hw hu, hv⟩

theorem exists_spaces_of_cons {s : List UInt8} {ts : List (List UInt8)} {t : List UInt8}
    (h : Spaced (s :: ts) t) : ∃ u v, t = u ++ s ++ v ∧ Spaces u ∧ Spaced ts v := by
  cases h with
  | cons _ _ u v hu h => exact ⟨u, v, rfl, hu, h⟩

theorem exists_spaces_of_singleton {s t : List UInt8} (h : Spaced [s] t) :
    ∃ u v, t = u ++ s ++ v ∧ Spaces u ∧ Spaces v := by
  obtain ⟨u, v, rfl, hu, h⟩ := exists_spaces_of_cons h
  cases h with
  | nil _ hv => exact ⟨u, v, rfl, hu, hv⟩

theorem spaced_singleton (t : List UInt8) : Spaced [t] t := by
  have h := Spaced.cons t [] [] [] spaces_nil (.nil [] spaces_nil)
  rwa [List.append_nil] at h

end Spacing

/-- What tokens with white space around them make. -/
def Frames : Content → List UInt8 → Prop
  | .value d, t => IsDocument d t
  | c, t => ∃ u v, t = u ++ v ∧ Spells c u ∧ Spaces v

theorem exists_spells_of_isDocument {d : Draft} {t : List UInt8} (h : IsDocument d t) :
    ∃ u v w, t = u ++ v ++ w ∧ Spaces u ∧ Spells (.value d) v ∧ Spaces w := by
  cases h with
  | mk v u w hu hd hw => exact ⟨u, v, w, rfl, hu, hd, hw⟩

theorem isDocument_of_token {d : Draft} {s t : List UInt8} (hs : Spells (.value d) s)
    (ht : Spaced [s] t) : IsDocument d t := by
  obtain ⟨u, v, rfl, hu, hv⟩ := exists_spaces_of_singleton ht
  exact .mk d s u v hu hs hv

theorem frames_of_tokens {c : Content} {ts : List (List UInt8)} (h : Tokens c ts)
    {t : List UInt8} (ht : Spaced ts t) : Frames c t := by
  induction h generalizing t with
  | null => exact isDocument_of_token .null ht
  | yes => exact isDocument_of_token .yes ht
  | no => exact isDocument_of_token .no ht
  | number n s h => exact isDocument_of_token (.number n s h) ht
  | string o s h => exact isDocument_of_token (.string o s h) ht
  | emptyArray =>
    obtain ⟨u, v, rfl, hu, hv⟩ := exists_spaces_of_cons ht
    obtain ⟨w, x, rfl, hw, hx⟩ := exists_spaces_of_singleton hv
    have hdocument := IsDocument.mk _ _ u x hu (.emptyArray w hw) hx
    simpa only [Frames, List.append_assoc] using hdocument
  | array ds ss _ ih =>
    obtain ⟨u, v, rfl, hu, hv⟩ := exists_spaces_of_cons ht
    obtain ⟨w, x, rfl, hw, hx⟩ := ih hv
    have hdocument := IsDocument.mk _ _ u x hu (.array ds w hw) hx
    simpa only [Frames, List.append_assoc] using hdocument
  | emptyObject =>
    obtain ⟨u, v, rfl, hu, hv⟩ := exists_spaces_of_cons ht
    obtain ⟨w, x, rfl, hw, hx⟩ := exists_spaces_of_singleton hv
    have hdocument := IsDocument.mk _ _ u x hu (.emptyObject w hw) hx
    simpa only [Frames, List.append_assoc] using hdocument
  | object ms ss _ ih =>
    obtain ⟨u, v, rfl, hu, hv⟩ := exists_spaces_of_cons ht
    obtain ⟨w, x, rfl, hw, hx⟩ := ih hv
    have hdocument := IsDocument.mk _ _ u x hu (.object ms w hw) hx
    simpa only [Frames, List.append_assoc] using hdocument
  | lastItem d ss _ ih =>
    obtain ⟨u, v, rfl, hu, hv⟩ := exists_spaced_of_append ht
    obtain ⟨a, b, e, rfl, ha, hd, he⟩ := exists_spells_of_isDocument (ih hu)
    obtain ⟨f, g, rfl, hf, hg⟩ := exists_spaces_of_singleton hv
    refine ⟨_, g, ?_, .lastItem d b a (e ++ f) ha hd (he.append hf), hg⟩
    simp only [List.append_assoc]
  | item d ds ss us _ _ ihd ihds =>
    obtain ⟨u, v, rfl, hu, hv⟩ := exists_spaced_of_append ht
    obtain ⟨a, b, e, rfl, ha, hd, he⟩ := exists_spells_of_isDocument (ihd hu)
    obtain ⟨f, g, rfl, hf, hg⟩ := exists_spaces_of_cons hv
    obtain ⟨x, y, rfl, hx, hy⟩ := ihds hg
    refine ⟨_, y, ?_, .item d ds b a (e ++ f) x ha hd (he.append hf) hx, hy⟩
    simp only [List.append_assoc]
  | lastMember k d s ss hk _ ih =>
    obtain ⟨u, v, rfl, hu, hv⟩ := exists_spaces_of_cons ht
    obtain ⟨w, x, rfl, hw, hx⟩ := exists_spaces_of_cons hv
    obtain ⟨y, z, rfl, hy, hz⟩ := exists_spaced_of_append hx
    obtain ⟨a, b, e, rfl, ha, hd, he⟩ := exists_spells_of_isDocument (ih hy)
    obtain ⟨f, g, rfl, hf, hg⟩ := exists_spaces_of_singleton hz
    have hkey := Key.mk k s u w a hk hu hw ha
    refine ⟨_, g, ?_, .lastMember k d _ b (e ++ f) hkey hd (he.append hf), hg⟩
    simp only [List.append_assoc]
  | member k d ms s ss us hk _ _ ihd ihms =>
    obtain ⟨u, v, rfl, hu, hv⟩ := exists_spaces_of_cons ht
    obtain ⟨w, x, rfl, hw, hx⟩ := exists_spaces_of_cons hv
    obtain ⟨y, z, rfl, hy, hz⟩ := exists_spaced_of_append hx
    obtain ⟨a, b, e, rfl, ha, hd, he⟩ := exists_spells_of_isDocument (ihd hy)
    obtain ⟨f, g, rfl, hf, hg⟩ := exists_spaces_of_cons hz
    obtain ⟨p, q, rfl, hp, hq⟩ := ihms hg
    have hkey := Key.mk k s u w a hk hu hw ha
    refine ⟨_, q, ?_, .member k d ms _ b (e ++ f) p hkey hd (he.append hf) hp, hq⟩
    simp only [List.append_assoc]

theorem exists_tokens_of_key {k : Option String} {t : List UInt8} (h : Key k t) :
    ∃ s, Quoted k s ∧ Spaced [s, [code ':']] t := by
  cases h with
  | mk s u v w hs hu hv hw =>
    have hspaced := ((spaced_singleton s).indent hu).append
      (((spaced_singleton [code ':']).indent hv).append (.nil w hw))
    simp only [← List.append_assoc] at hspaced
    exact ⟨s, hs, hspaced⟩

/-- Every spelling consists of tokens. -/
theorem exists_tokens_of_spells {c : Content} {t : List UInt8} (h : Spells c t) :
    ∃ ts, Tokens c ts ∧ Spaced ts t := by
  induction h with
  | null => exact ⟨_, .null, spaced_singleton _⟩
  | yes => exact ⟨_, .yes, spaced_singleton _⟩
  | no => exact ⟨_, .no, spaced_singleton _⟩
  | number n t h => exact ⟨_, .number n t h, spaced_singleton t⟩
  | string s t h => exact ⟨_, .string s t h, spaced_singleton t⟩
  | emptyArray u hu =>
    have hspaced := (spaced_singleton [code '[']).append ((spaced_singleton [code ']']).indent hu)
    rw [← List.append_assoc] at hspaced
    exact ⟨_, .emptyArray, hspaced⟩
  | array ds t _ ih =>
    obtain ⟨ts, hts, ht⟩ := ih
    exact ⟨_, .array ds ts hts, (spaced_singleton _).append ht⟩
  | emptyObject u hu =>
    have hspaced :=
      (spaced_singleton [code '\x7b']).append ((spaced_singleton [code '\x7d']).indent hu)
    rw [← List.append_assoc] at hspaced
    exact ⟨_, .emptyObject, hspaced⟩
  | object ms t _ ih =>
    obtain ⟨ts, hts, ht⟩ := ih
    exact ⟨_, .object ms ts hts, (spaced_singleton _).append ht⟩
  | lastItem d t u v hu _ hv ih =>
    obtain ⟨ts, hts, ht⟩ := ih
    have hspaced := (ht.indent hu).append ((spaced_singleton [code ']']).indent hv)
    rw [← List.append_assoc] at hspaced
    exact ⟨_, .lastItem d ts hts, hspaced⟩
  | item d ds t u v w hu _ hv _ ihd ihds =>
    obtain ⟨ts, hts, ht⟩ := ihd
    obtain ⟨us, hus, hw⟩ := ihds
    have hspaced := ((ht.indent hu).append ((spaced_singleton [code ',']).indent hv)).append hw
    simp only [← List.append_assoc] at hspaced
    rw [List.append_assoc ts] at hspaced
    exact ⟨_, .item d ds ts us hts hus, hspaced⟩
  | lastMember k d t u v hk _ hv ih =>
    obtain ⟨s, hs, ht⟩ := exists_tokens_of_key hk
    obtain ⟨ts, hts, hu⟩ := ih
    have hspaced := (ht.append hu).append ((spaced_singleton [code '\x7d']).indent hv)
    rw [← List.append_assoc] at hspaced
    exact ⟨_, .lastMember k d s ts hs hts, hspaced⟩
  | member k d ms t u v w hk _ hv _ ihd ihms =>
    obtain ⟨s, hs, ht⟩ := exists_tokens_of_key hk
    obtain ⟨ts, hts, hu⟩ := ihd
    obtain ⟨us, hus, hw⟩ := ihms
    have hspaced :=
      ((ht.append hu).append ((spaced_singleton [code ',']).indent hv)).append hw
    simp only [← List.append_assoc] at hspaced
    rw [List.append_assoc _ [[code ',']]] at hspaced
    exact ⟨_, .member k d ms s ts us hs hts hus, hspaced⟩

/-- A document is a row of tokens with any white space around each. -/
theorem isDocument_iff_exists_tokens (d : Draft) (t : List UInt8) :
    IsDocument d t ↔ ∃ ts, Tokens (.value d) ts ∧ Spaced ts t := by
  constructor
  · intro h
    obtain ⟨u, v, w, rfl, hu, hd, hw⟩ := exists_spells_of_isDocument h
    obtain ⟨ts, hts, hv⟩ := exists_tokens_of_spells hd
    have hspaced := (hv.indent hu).append (.nil w hw)
    rw [List.append_nil] at hspaced
    exact ⟨ts, hts, hspaced⟩
  · rintro ⟨ts, hts, ht⟩
    exact frames_of_tokens hts ht

end StatusBoard.Json
