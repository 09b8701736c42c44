import StatusBoard.Proofs.Except
import StatusBoard.Url.Parser

/-!
The scheme of a URL that is read. A text that names a scheme gives a URL of that scheme, and one that
names none takes the scheme of the base. So against a base a text either stays with the scheme of
the base, or it is a URL by itself and the base has no part in it.
-/
namespace StatusBoard.Url

/-- Whether a URL is one of HTTP, plain or secured. -/
def IsHttp (u : Url) : Prop :=
  u.scheme = "http" ∨ u.scheme = "https"

theorem isHttpText_iff (s : String) : isHttpText s = true ↔ ∃ u, parse s = .ok u ∧ u.IsHttp := by
  unfold isHttpText
  cases hparse : parse s with
  | error e => exact iff_of_false Bool.false_ne_true nofun
  | ok u => simp [IsHttp]

/-- Whether a URL that is read, if any, has a scheme. -/
def Yields (scheme : String) (x : Except ParseError Url) : Prop :=
  ∀ u, x = .ok u → u.scheme = scheme

variable {scheme : String}

theorem yields_ok {u : Url} (h : u.scheme = scheme) : Yields scheme (.ok u) := by
  rintro _ ⟨⟩
  exact h

theorem yields_error (e : ParseError) : Yields scheme (.error e) := nofun

theorem yields_bind {α : Type} {x : Except ParseError α} {f : α → Except ParseError Url}
    (h : ∀ a, Yields scheme (f a)) : Yields scheme (x >>= f) := by
  intro u hu
  obtain ⟨a, -, hu⟩ := bind_eq_ok_iff.mp hu
  exact h a u hu

theorem yields_afterSlashes (scheme : String) (cs : List Char) :
    Yields scheme (afterSlashes scheme cs) := by
  refine yields_bind fun credentials => yields_bind fun address => ?_
  dsimp only
  split
  · exact yields_error _
  · exact yields_ok rfl

theorem yields_ofOther (scheme : String) (cs : List Char) : Yields scheme (ofOther scheme cs) := by
  unfold ofOther
  split
  · exact yields_afterSlashes scheme _
  · exact yields_ok rfl

theorem yields_relative (base : Url) (cs : List Char) :
    Yields base.scheme (relative base cs) := by
  unfold relative
  dsimp only
  split
  · exact yields_ok rfl
  · exact yields_ok rfl
  · exact yields_ok rfl
  · split
    · split
      · exact yields_ok rfl
      · split
        · split <;> exact yields_afterSlashes base.scheme _
        · exact yields_ok rfl
    · exact yields_ok rfl

section File

variable {base : Option Url} (hbase : ∀ b ∈ base, b.scheme = "file")

include hbase

theorem yields_fileRelative (a : Char) (cs : List Char) (host : Host)
    (segments : List (List Char)) :
    Yields "file" (file.fileRelative base a cs host segments) := by
  unfold file.fileRelative
  split
  · split
    · exact yields_ok rfl
    · split
      · split <;> exact yields_ok rfl
      · exact yields_ok rfl
  · split
    · exact yields_ok rfl
    · have hscheme := hbase _ rfl
      split
      · exact yields_ok hscheme
      · split
        · exact yields_ok hscheme
        · split <;> exact yields_ok rfl

theorem yields_file (cs : List Char) : Yields "file" (file base cs) := by
  unfold file
  dsimp only
  split
  · split
    · split
      · exact yields_ok rfl
      · refine yields_bind fun host => yields_ok ?_
        rw [apply_ite Url.scheme]
        exact ite_self _
    · exact yields_fileRelative hbase _ _ _ _
  · exact yields_fileRelative hbase _ _ _ _
  · split
    · rename_i b
      have hscheme := hbase b rfl
      exact yields_ok hscheme
    · exact yields_ok rfl

end File

theorem schemeKind_eq_file_iff (scheme : String) : schemeKind scheme = .file ↔ scheme = "file" := by
  unfold schemeKind
  split
  · exact iff_of_true rfl ‹_›
  · refine iff_of_false ?_ ‹_›
    split <;> exact SchemeKind.noConfusion

theorem yields_afterScheme (base : Option Url) (scheme : String) (cs : List Char) :
    Yields scheme (afterScheme base scheme cs) := by
  unfold afterScheme
  dsimp only
  split
  · rw [(schemeKind_eq_file_iff scheme).mp ‹_›]
    refine yields_file ?_ cs
    intro b hb
    exact of_decide_eq_true (Option.mem_filter_iff.mp hb).2
  · exact yields_ofOther scheme cs
  · split
    · split
      · rename_i b hrelative
        rw [← hrelative.2]
        exact yields_relative b cs
      · exact yields_afterSlashes scheme _
    · exact yields_afterSlashes scheme _

/-- A base of another scheme has no part in what is read behind a scheme. -/
theorem afterScheme_of_scheme_ne {base : Url} (h : base.scheme ≠ scheme) (cs : List Char) :
    afterScheme (some base) scheme cs = afterScheme none scheme cs := by
  unfold afterScheme
  split
  · rename_i hkind
    rw [(schemeKind_eq_file_iff scheme).mp hkind] at h
    rw [Option.filter_some, if_neg (by simpa using h), Option.filter_none]
  · rfl
  · dsimp only
    rw [if_neg fun hrelative => h hrelative.2]

/-- A text that names no scheme takes that of the base. -/
theorem yields_read_of_scheme?_eq_none (base : Url) {cs : List Char} (h : scheme? cs = none) :
    Yields base.scheme (read (some base) cs) := by
  unfold read
  rw [h]
  dsimp only
  split
  · exact yields_ok rfl
  · exact yields_error _
  · split
    · rename_i hkind
      have hfile := (schemeKind_eq_file_iff base.scheme).mp hkind
      rw [hfile]
      refine yields_file ?_ _
      rintro _ ⟨⟩
      exact hfile
    · exact yields_relative base _

/-- A URL that a text refers to has the scheme of the base, or the text is that URL by itself. -/
theorem scheme_eq_or_parse_eq_of_join {base u : Url} {s : String} (h : base.join s = .ok u) :
    u.scheme = base.scheme ∨ parse s = .ok u := by
  unfold join at h
  unfold parse
  cases hscheme : scheme? (significant s.toList) with
  | none => exact Or.inl (yields_read_of_scheme?_eq_none base hscheme u h)
  | some named =>
    obtain ⟨scheme, rest⟩ := named
    have hread (b : Option Url) :
        read b (significant s.toList) = afterScheme b scheme rest := by
      unfold read
      rw [hscheme]
    rw [hread] at h
    by_cases hsame : base.scheme = scheme
    · exact Or.inl ((yields_afterScheme _ scheme rest u h).trans hsame.symm)
    · rw [afterScheme_of_scheme_ne hsame] at h
      exact Or.inr ((hread none).trans h)

theorem scheme_withPath (u : Url) (cs : List Char) : (u.withPath cs).scheme = u.scheme := by
  unfold withPath
  split <;> rfl

theorem scheme_asDirectory (u : Url) : u.asDirectory.scheme = u.scheme := by
  unfold asDirectory
  dsimp only
  split
  · rfl
  · exact scheme_withPath u _

end StatusBoard.Url
