import Mathlib.Logic.ExistsUnique
import StatusBoard.Html.Escape

/-!
Escaped texts. They are the texts without angle brackets and quotes in which each ampersand opens
one of the five entities. One pass from left to right, which puts characters in the place of
entities, gives back the text that was escaped, be there texts of entities in it or not.
-/
namespace StatusBoard.Html

/-- The entities and the characters that they stand for. -/
def entities : List (String × Char) :=
  [("&amp;", '&'), ("&lt;", '<'), ("&gt;", '>'), ("&quot;", '"'), ("&#39;", '\'')]

/-- The characters that are written as entities. -/
def special : List Char := ['&', '<', '>', '"', '\'']

/-- The text begins with an entity, and with one only. -/
def OpensEntity (t : List Char) : Prop := ∃! e, e ∈ entities ∧ e.1.toList <+: t

/-- No character that could mean markup, and no ampersand but those of entities. -/
structure Escaped (t : List Char) : Prop where
  bare : ∀ c ∈ t, c ≠ '<' ∧ c ≠ '>' ∧ c ≠ '"' ∧ c ≠ '\''
  ampersand : ∀ rest, '&' :: rest <:+ t → OpensEntity ('&' :: rest)

/-- One pass over a text from left to right: where an entity stands, its character is put in its
place, and any other character is kept. -/
inductive Reads : List Char → List Char → Prop where
  | nil : Reads [] []
  | entity {name : String} {c : Char} {t s : List Char} (h : (name, c) ∈ entities) :
      Reads t s → Reads (name.toList ++ t) (c :: s)
  | char {c : Char} {t s : List Char} (h : ∀ e ∈ entities, ¬ e.1.toList <+: c :: t) :
      Reads t s → Reads (c :: t) (c :: s)

section Characters

theorem not_special_iff (c : Char) :
    c ∉ special ↔ c ≠ '&' ∧ c ≠ '<' ∧ c ≠ '>' ∧ c ≠ '"' ∧ c ≠ '\'' := by
  simp only [special, List.mem_cons, List.not_mem_nil, or_false, not_or]

theorem exists_entity_of_special {c : Char} (h : c ∈ special) : ∃ name, (name, c) ∈ entities := by
  have hspecial : special = entities.map (·.2) := rfl
  rw [hspecial] at h
  obtain ⟨e, he, rfl⟩ := List.mem_map.mp h
  exact ⟨e.1, he⟩

theorem escapeChar_of_entity {e : String × Char} (he : e ∈ entities) :
    escapeChar e.2 = e.1.toList := by
  have hall : ∀ e ∈ entities, escapeChar e.2 = e.1.toList := by decide
  exact hall e he

theorem escapeChar_of_not_special {c : Char} (h : c ∉ special) : escapeChar c = [c] := by
  obtain ⟨hamp, hopen, hclose, hquote, hapostrophe⟩ := (not_special_iff c).mp h
  simp only [escapeChar, hamp, hopen, hclose, hquote, hapostrophe, if_false]

/-- An entity is an ampersand and characters that are not special. -/
theorem entity_eq_cons {e : String × Char} (he : e ∈ entities) :
    ∃ rest, e.1.toList = '&' :: rest ∧ ∀ c ∈ rest, c ∉ special := by
  have hall : ∀ e ∈ entities, e.1.toList = '&' :: e.1.toList.tail ∧
      e.1.toList.tail.all (· ∉ special) = true := by decide
  obtain ⟨hcons, hrest⟩ := hall e he
  exact ⟨_, hcons, fun c hc => of_decide_eq_true (List.all_eq_true.mp hrest c hc)⟩

theorem entity_eq_of_isPrefix {e f : String × Char} (he : e ∈ entities) (hf : f ∈ entities)
    (h : e.1.toList <+: f.1.toList) : e = f := by
  have hall : ∀ e ∈ entities, ∀ f ∈ entities, e.1.toList <+: f.1.toList → e = f := by decide
  exact hall e he f hf h

/-- No entity begins like another one. -/
theorem opensEntity_append {e : String × Char} (he : e ∈ entities) (t : List Char) :
    OpensEntity (e.1.toList ++ t) := by
  refine ⟨e, ⟨he, List.prefix_append _ _⟩, ?_⟩
  rintro f ⟨hf, hprefix⟩
  rcases List.prefix_or_prefix_of_prefix hprefix (List.prefix_append e.1.toList t) with h | h
  · exact entity_eq_of_isPrefix hf he h
  · exact (entity_eq_of_isPrefix he hf h).symm

theorem not_entity_of_ne {c : Char} (hc : c ≠ '&') (t : List Char) :
    ∀ e ∈ entities, ¬ e.1.toList <+: c :: t := by
  rintro e he hprefix
  obtain ⟨rest, hcons, -⟩ := entity_eq_cons he
  rw [hcons, List.cons_prefix_cons] at hprefix
  exact hc hprefix.1.symm

end Characters

section Escaped

theorem escaped_nil : Escaped [] where
  bare _ hc := absurd hc List.not_mem_nil
  ampersand _ hrest := nomatch List.eq_nil_of_suffix_nil hrest

theorem escaped_cons_iff (c : Char) (t : List Char) :
    Escaped (c :: t) ↔ (c ≠ '<' ∧ c ≠ '>' ∧ c ≠ '"' ∧ c ≠ '\'') ∧
      (c = '&' → OpensEntity (c :: t)) ∧ Escaped t := by
  constructor
  · intro h
    obtain ⟨hc, ht⟩ := List.forall_mem_cons.mp h.bare
    refine ⟨hc, ?_, ht, fun rest hrest => h.ampersand rest (hrest.trans (List.suffix_cons c t))⟩
    rintro rfl
    exact h.ampersand t List.suffix_rfl
  · rintro ⟨hc, hopens, ht⟩
    refine ⟨List.forall_mem_cons.mpr ⟨hc, ht.bare⟩, fun rest hrest => ?_⟩
    rcases List.suffix_cons_iff.mp hrest with heq | hlater
    · obtain ⟨rfl, rfl⟩ := List.cons.inj heq
      exact hopens rfl
    · exact ht.ampersand rest hlater

theorem escaped_append_iff {s : List Char} (hs : ∀ c ∈ s, c ∉ special) (t : List Char) :
    Escaped (s ++ t) ↔ Escaped t := by
  induction s with
  | nil => exact Iff.rfl
  | cons c rest ih =>
    obtain ⟨hc, hrest⟩ := List.forall_mem_cons.mp hs
    obtain ⟨hamp, hbare⟩ := (not_special_iff c).mp hc
    rw [List.cons_append, escaped_cons_iff, ih hrest]
    exact ⟨fun h => h.2.2, fun h => ⟨hbare, fun heq => absurd heq hamp, h⟩⟩

/-- An entity may stand before any escaped text. -/
theorem escaped_entity_append_iff {e : String × Char} (he : e ∈ entities) (t : List Char) :
    Escaped (e.1.toList ++ t) ↔ Escaped t := by
  obtain ⟨rest, hcons, hrest⟩ := entity_eq_cons he
  have hopens := opensEntity_append he t
  rw [hcons, List.cons_append] at hopens ⊢
  rw [escaped_cons_iff, escaped_append_iff hrest]
  exact ⟨fun h => h.2.2, fun h => ⟨by decide, fun _ => hopens, h⟩⟩

theorem escaped_escape (s : List Char) : Escaped (escape s) := by
  induction s with
  | nil => exact escaped_nil
  | cons c rest ih =>
    rw [escape, List.flatMap_cons]
    by_cases hc : c ∈ special
    · obtain ⟨name, he⟩ := exists_entity_of_special hc
      rw [escapeChar_of_entity he]
      exact (escaped_entity_append_iff he _).mpr ih
    · rw [escapeChar_of_not_special hc]
      exact (escaped_append_iff (List.forall_mem_singleton.mpr hc) _).mpr ih

end Escaped

section Reading

theorem unescape_entity_append {e : String × Char} (he : e ∈ entities) (t : List Char) :
    unescape (e.1.toList ++ t) = e.2 :: unescape t := by
  simp only [entities, List.mem_cons, List.not_mem_nil, or_false] at he
  rcases he with rfl | rfl | rfl | rfl | rfl <;> rfl

theorem unescape_char {c : Char} {t : List Char} (h : ∀ e ∈ entities, ¬ e.1.toList <+: c :: t) :
    unescape (c :: t) = c :: unescape t := by
  rw [unescape] <;> rintro rest rfl rfl
  · exact h ("&amp;", '&') (by decide) ⟨rest, rfl⟩
  · exact h ("&lt;", '<') (by decide) ⟨rest, rfl⟩
  · exact h ("&gt;", '>') (by decide) ⟨rest, rfl⟩
  · exact h ("&quot;", '"') (by decide) ⟨rest, rfl⟩
  · exact h ("&#39;", '\'') (by decide) ⟨rest, rfl⟩

theorem reads_unescape (t : List Char) : Reads t (unescape t) := by
  fun_induction unescape t with
  | case1 r ih => exact .entity (show ("&amp;", '&') ∈ entities by decide) ih
  | case2 r ih => exact .entity (show ("&lt;", '<') ∈ entities by decide) ih
  | case3 r ih => exact .entity (show ("&gt;", '>') ∈ entities by decide) ih
  | case4 r ih => exact .entity (show ("&quot;", '"') ∈ entities by decide) ih
  | case5 r ih => exact .entity (show ("&#39;", '\'') ∈ entities by decide) ih
  | case6 c r hamp hlt hgt hquot hapos ih =>
    refine .char ?_ ih
    rintro e he ⟨rest, heq⟩
    simp only [entities, List.mem_cons, List.not_mem_nil, or_false] at he
    rcases he with rfl | rfl | rfl | rfl | rfl
    all_goals obtain ⟨rfl, rfl⟩ := List.cons.inj heq
    · exact hamp rest rfl rfl
    · exact hlt rest rfl rfl
    · exact hgt rest rfl rfl
    · exact hquot rest rfl rfl
    · exact hapos rest rfl rfl
  | case7 => exact .nil

theorem reads_iff (t s : List Char) : Reads t s ↔ s = unescape t := by
  constructor
  · intro h
    induction h with
    | nil => rfl
    | entity he _ ih => rw [unescape_entity_append he, ih]
    | char hnone _ ih => rw [unescape_char hnone, ih]
  · rintro rfl
    exact reads_unescape t

/-- The spelling of one character is read as that character, whatever follows. -/
theorem unescape_escapeChar_append (c : Char) (r : List Char) :
    unescape (escapeChar c ++ r) = c :: unescape r := by
  by_cases hc : c ∈ special
  · obtain ⟨name, he⟩ := exists_entity_of_special hc
    rw [escapeChar_of_entity he, unescape_entity_append he]
  · rw [escapeChar_of_not_special hc, List.singleton_append,
      unescape_char (not_entity_of_ne ((not_special_iff c).mp hc).1 r)]

theorem unescape_escape (s : List Char) : unescape (escape s) = s := by
  induction s with
  | nil => rfl
  | cons c rest ih =>
    have hcons : escape (c :: rest) = escapeChar c ++ escape rest := rfl
    rw [hcons, unescape_escapeChar_append, ih]

/-- A text with its entities read. -/
def unescapeText (s : String) : String :=
  String.ofList (unescape s.toList)

theorem unescapeText_escapeText (s : String) : unescapeText (escapeText s) = s := by
  rw [unescapeText, escapeText, String.toList_ofList, unescape_escape, String.ofList_toList]

/-- No text is lost when it is escaped. -/
theorem escape_inj {s t : List Char} (h : escape s = escape t) : s = t := by
  rw [← unescape_escape s, h, unescape_escape]

/-- What an escaped text is read as is the text that it was made of. -/
theorem Reads.escape_eq {t s : List Char} (h : Reads t s) (ht : Escaped t) : escape s = t := by
  induction h with
  | nil => rfl
  | entity he _ ih =>
    rw [escape, List.flatMap_cons, escapeChar_of_entity he]
    exact congrArg _ (ih ((escaped_entity_append_iff he _).mp ht))
  | @char c t s hnone _ ih =>
    obtain ⟨hbare, hopens, hrest⟩ := (escaped_cons_iff c t).mp ht
    have hamp : c ≠ '&' := by
      intro heq
      obtain ⟨e, ⟨he, hprefix⟩, -⟩ := hopens heq
      exact hnone e he hprefix
    have hc : c ∉ special := (not_special_iff c).mpr ⟨hamp, hbare⟩
    rw [escape, List.flatMap_cons, escapeChar_of_not_special hc]
    exact congrArg (c :: ·) (ih hrest)

theorem escaped_iff (t : List Char) : Escaped t ↔ ∃ s, escape s = t := by
  constructor
  · intro h
    exact ⟨unescape t, (reads_unescape t).escape_eq h⟩
  · rintro ⟨s, rfl⟩
    exact escaped_escape s

end Reading

/-- Escaping makes the escaped texts and no others. The entities of an escaped text are read as the
text that it was made of, so no two texts are escaped alike. Texts may be escaped piece by piece. -/
theorem escapeText_faithful :
    (∀ t : String, Escaped t.toList ↔ ∃ s, escapeText s = t) ∧
      (∀ s u : String, Reads (escapeText s).toList u.toList ↔ u = s) ∧
      Function.Injective escapeText ∧
      ∀ s t : String, escapeText (s ++ t) = escapeText s ++ escapeText t := by
  have htoList (s : String) : (escapeText s).toList = escape s.toList := String.toList_ofList
  refine ⟨?_, ?_, ?_, ?_⟩
  · intro t
    rw [escaped_iff]
    constructor
    · rintro ⟨s, hs⟩
      exact ⟨String.ofList s, by rw [escapeText, String.toList_ofList, hs, String.ofList_toList]⟩
    · rintro ⟨s, rfl⟩
      exact ⟨s.toList, (htoList s).symm⟩
  · intro s u
    rw [reads_iff, htoList, unescape_escape, String.toList_inj]
  · intro s t h
    rw [← unescapeText_escapeText s, h, unescapeText_escapeText]
  · intro s t
    rw [escapeText, String.toList_append, escape_append, String.ofList_append]
    rfl

/-- The spelling of an entity is a text like others. -/
example : escapeText "&lt;" = "&amp;lt;" := by decide

end StatusBoard.Html
