import Mathlib.Data.List.TakeDrop
import Mathlib.Data.List.TakeWhile
import StatusBoard.Gateway.Endpoint
import StatusBoard.Proofs.Url.Scheme
import StatusBoard.Proofs.Url.Segments

/-!
URLs of HTTP as directories, and what plain paths refer to from them. Reading gives such a URL a
path of normal segments, so that nothing but a slash changes when its path is read anew with a slash at
the end. A plain path is then appended to the segments of the directory, or stands for all of them
if it begins with a slash.
-/
namespace StatusBoard

namespace Url

/-- The path has segments, at least one, and all of them are normal. -/
def HasNormalPath (u : Url) : Prop :=
  ∃ s rest, u.path = .segments (s :: rest) ∧ ∀ t ∈ s :: rest, Path.IsNormal t

/-- The segments of the directory that a URL stands for: an empty one at the end is not counted. -/
def directory (u : Url) : List (List Char) :=
  match u.path with
  | .segments ss => if ss.getLast? = some [] then ss.dropLast else ss
  | .opaquePath _ => []

section Reading

variable {u : Url}

theorem IsHttp.kind_eq (h : u.IsHttp) : u.kind = .special := by
  unfold kind
  rcases h with h | h <;> rw [h] <;> decide

theorem hasNormalPath_read {u : Url} {before : List (List Char)} {cs : List Char}
    (h : u.path = .segments (Path.read true false before cs))
    (hbefore : ∀ t ∈ before, Path.IsNormal t) : u.HasNormalPath := by
  obtain ⟨s, rest, hss⟩ := List.exists_cons_of_ne_nil (Path.read_ne_nil before cs)
  have hnormal := Path.normal_read hbefore cs
  rw [hss] at h hnormal
  exact ⟨s, rest, h, hnormal⟩

theorem hasNormalPath_afterSlashes {scheme : String} {cs : List Char}
    (hkind : schemeKind scheme = .special) (h : afterSlashes scheme cs = .ok u) :
    u.HasNormalPath := by
  obtain ⟨credentials, -, h⟩ := bind_eq_ok_iff.mp h
  obtain ⟨address, -, h⟩ := bind_eq_ok_iff.mp h
  dsimp only at h
  split at h
  · exact nomatch h
  · obtain rfl := Except.ok.inj h
    rw [hkind]
    dsimp only [pathAfterAuthority]
    split
    · exact ⟨[], [], rfl, List.forall_mem_singleton.mpr .nil⟩
    · exact hasNormalPath_read rfl nofun

/-- Reading gives a URL of HTTP a path of normal segments. -/
theorem hasNormalPath_of_parse {s : String} (h : parse s = .ok u) (hhttp : u.IsHttp) :
    u.HasNormalPath := by
  unfold parse read at h
  split at h
  · rename_i scheme rest _
    have hkind : schemeKind scheme = .special := by
      rw [← yields_afterScheme none scheme rest u h]
      exact hhttp.kind_eq
    unfold afterScheme at h
    rw [hkind] at h
    exact hasNormalPath_afterSlashes hkind h
  · exact nomatch h

/-- With its path read anew a URL of HTTP gets a slash at the end, if it has none, and nothing else
changes. -/
theorem asDirectory_eq (hhttp : u.IsHttp) (hpath : u.HasNormalPath) :
    u.asDirectory = { u with path := .segments (u.directory ++ [[]]) } := by
  obtain ⟨s, rest, hss, hnormal⟩ := hpath
  have hslash := Path.getLast?_text_iff hnormal
  unfold asDirectory directory
  rw [hss]
  dsimp only [Path.toText]
  by_cases hlast : (s :: rest).getLast? = some []
  · rw [if_pos (hslash.mpr hlast), if_pos hlast, List.dropLast_append_getLast? [] hlast, ← hss]
  · rw [if_neg fun htext => hlast (hslash.mp htext), if_neg hlast]
    have htext : Path.text (s :: rest) ++ ['/'] = '/' :: (s ++ Path.text (rest ++ [[]])) := by
      rw [Path.text_concat, Path.text_cons, List.cons_append, List.append_assoc]
    unfold withPath isSpecial
    rw [hss, hhttp.kind_eq, htext]
    have hread := Path.read_text [] (hnormal s List.mem_cons_self)
      (Path.normal_concat (fun t ht => hnormal t (List.mem_cons_of_mem s ht)) .nil)
    exact congrArg (fun ss => { u with path := .segments ss }) hread

end Reading

/-- The unreserved characters of URLs. -/
def IsUnreserved (c : Char) : Prop :=
  c.isAlphanum = true ∨ c = '-' ∨ c = '.' ∨ c = '_' ∨ c = '~'

instance (c : Char) : Decidable (IsUnreserved c) :=
  inferInstanceAs (Decidable (_ ∨ _))

/-- A segment of unreserved characters that is neither empty nor a dot or two. -/
structure IsPlainSegment (s : String) : Prop where
  unreserved : ∀ c ∈ s.toList, IsUnreserved c
  ne_empty : s ≠ ""
  ne_dot : s ≠ "."
  ne_doubleDot : s ≠ ".."

section Joining

theorem IsUnreserved.lt {c : Char} (h : IsUnreserved c) : c.toNat < 0x80 := by
  rcases h with h | rfl | rfl | rfl | rfl
  · change ((decide (c.val ≥ 'A'.val ∧ c.val ≤ 'Z'.val) ||
      (decide (c.val ≥ 'a'.val) && decide (c.val ≤ 'z'.val))) ||
        (decide (c.val ≥ '0'.val) && decide (c.val ≤ '9'.val))) = true at h
    simp only [Bool.or_eq_true, Bool.and_eq_true, decide_eq_true_iff, ge_iff_le,
      UInt32.le_iff_toNat_le] at h
    have hle : c.val.toNat ≤ 122 := by
      rcases h with (h | h) | h <;> exact Nat.le_trans h.2 (by decide)
    exact Nat.lt_of_le_of_lt hle (by decide)
  · decide
  · decide
  · decide
  · decide

/-- Characters of plain paths. -/
def IsPathChar (c : Char) : Prop := c = '/' ∨ IsUnreserved c

instance (c : Char) : Decidable (IsPathChar c) := inferInstanceAs (Decidable (_ ∨ _))

theorem IsPathChar.lt {c : Char} (h : IsPathChar c) : c.toNat < 0x80 := by
  rcases h with rfl | h
  · decide
  · exact h.lt

/-- A property of ASCII characters that is checked one by one. -/
theorem of_ascii {p : Char → Prop} (h : ∀ n < 0x80, p (Char.ofNat n)) {c : Char}
    (hc : c.toNat < 0x80) : p c := by
  have hp := h c.toNat hc
  rwa [Char.ofNat_toNat] at hp

/-- A character of a plain path is no delimiter of URLs and counts wherever it stands. -/
structure Counts (c : Char) : Prop where
  not_edge : isEdge c = false
  not_break : (c != '\t' && c != '\n' && c != '\r') = true
  not_colon : c ≠ ':'
  not_tail : (c != '?' && c != '#') = true
  not_percent : c ≠ '%'

theorem IsPathChar.counts {c : Char} (h : IsPathChar c) : Counts c := by
  have htable := of_ascii (p := fun c => IsPathChar c →
    isEdge c = false ∧ (c != '\t' && c != '\n' && c != '\r') = true ∧ c ≠ ':' ∧
      (c != '?' && c != '#') = true ∧ c ≠ '%') (by decide +kernel) h.lt h
  exact ⟨htable.1, htable.2.1, htable.2.2.1, htable.2.2.2.1, htable.2.2.2.2⟩

theorem IsUnreserved.isPlain {c : Char} (h : IsUnreserved c) :
    Percent.encodeChar Percent.inPath c = [c] ∧ Path.isSlash c = false :=
  of_ascii (p := fun c => IsUnreserved c →
    Percent.encodeChar Percent.inPath c = [c] ∧ Path.isSlash c = false) (by decide +kernel) h.lt h

variable {cs : List Char}

theorem significant_eq_self (h : ∀ c ∈ cs, IsPathChar c) : significant cs = cs := by
  have hdrop {ds : List Char} (hds : ∀ c ∈ ds, IsPathChar c) : ds.dropWhile isEdge = ds := by
    cases ds with
    | nil => rfl
    | cons c rest =>
      exact List.dropWhile_cons_of_neg (by simp [(hds c List.mem_cons_self).counts.not_edge])
  unfold significant
  dsimp only
  rw [hdrop h, hdrop fun c hc => h c (List.mem_reverse.mp hc), List.reverse_reverse]
  exact List.filter_eq_self.mpr fun c hc => (h c hc).counts.not_break

theorem scheme?_eq_none (h : ∀ c ∈ cs, IsPathChar c) : scheme? cs = none := by
  unfold scheme?
  split
  · rfl
  · dsimp only
    split
    · rename_i rest hdrop
      have hcolon := h ':' (List.mem_of_mem_drop (hdrop ▸ List.mem_cons_self))
      exact absurd rfl hcolon.counts.not_colon
    · rfl

theorem splitTail_eq (h : ∀ c ∈ cs, IsPathChar c) : splitTail cs = (cs, []) := by
  have htail : ∀ c ∈ cs, (c != '?' && c != '#') = true := fun c hc => (h c hc).counts.not_tail
  rw [splitTail, List.span_eq_takeWhile_dropWhile, List.takeWhile_eq_self_iff.mpr htail,
    List.dropWhile_eq_nil_iff.mpr htail]

/-- A text that begins with no mark of a query or fragment is resolved as a path: against no
segments behind a slash, and else against the directory. -/
theorem relative_of_path {base : Url} {ss : List (List Char)} {c : Char}
    (hkind : base.isSpecial = true) (hpath : base.path = .segments ss) (hc : IsUnreserved c)
    (h : ∀ d ∈ c :: cs, IsPathChar d) :
    relative base (c :: cs) = .ok ⟨base.scheme, base.authority,
        .segments (Path.read true false ss.dropLast (c :: cs)), none, none⟩ ∧
      relative base ('/' :: c :: cs) = .ok ⟨base.scheme, base.authority,
        .segments (Path.read true false [] (c :: cs)), none, none⟩ := by
  have hslash : ¬ (c == '/' || c == '\\') = true := Bool.eq_false_iff.mp hc.isPlain.2
  have hmark : c ≠ '?' ∧ c ≠ '#' := by
    simpa using (h c List.mem_cons_self).counts.not_tail
  constructor
  · unfold relative
    dsimp only
    split
    · rename_i heq
      exact nomatch heq
    · rename_i heq
      exact absurd (List.cons.inj heq).1 hmark.1
    · rename_i heq
      exact absurd (List.cons.inj heq).1 hmark.2
    · rename_i heq
      obtain ⟨rfl, rfl⟩ := List.cons.inj heq
      rw [if_neg hslash, splitTail_eq h, hpath, hkind]
      rfl
  · unfold relative
    dsimp only
    split
    · rename_i heq
      exact nomatch heq
    · rename_i heq
      exact absurd (List.cons.inj heq).1 (by decide)
    · rename_i heq
      exact absurd (List.cons.inj heq).1 (by decide)
    · rename_i heq
      obtain ⟨rfl, rfl⟩ := List.cons.inj heq
      dsimp only
      rw [if_pos (by decide : ('/' == '/' || '/' == '\\') = true), if_neg hslash, splitTail_eq h,
        hkind]
      rfl

/-- A text of plain characters is no URL by itself. -/
theorem join_eq_relative {base : Url} {s : String} {ss : List (List Char)} (hhttp : base.IsHttp)
    (hpath : base.path = .segments ss) (h : ∀ c ∈ s.toList, IsPathChar c) :
    base.join s = relative base s.toList := by
  unfold join read
  rw [significant_eq_self h, scheme?_eq_none h]
  dsimp only
  rw [hpath]
  split
  · rename_i heq
    have hmark := (h '#' (heq ▸ List.mem_cons_self)).counts.not_tail
    exact Bool.noConfusion hmark
  · rename_i heq _
    exact nomatch heq
  · rw [hhttp.kind_eq]
    rfl

theorem IsPlainSegment.not_percent {s : String} (h : IsPlainSegment s) : '%' ∉ s.toList := by
  intro hmem
  have hchar : IsPathChar '%' := Or.inr (h.unreserved '%' hmem)
  exact hchar.counts.not_percent rfl

/-- A plain segment is a normal one: only an escape could make it one of dots. -/
theorem IsPlainSegment.normal {s : String} (h : IsPlainSegment s) : Path.IsNormal s.toList := by
  refine ⟨fun c hc => (h.unreserved c hc).isPlain, Bool.eq_false_iff.mpr fun hdot => ?_,
    Bool.eq_false_iff.mpr fun hdots => ?_⟩
  · obtain ⟨t, ht, heq⟩ := List.mem_map.mp (of_decide_eq_true hdot)
    obtain rfl := String.toList_inj.mp heq
    simp only [List.mem_cons, List.not_mem_nil, or_false] at ht
    rcases ht with rfl | rfl | rfl
    · exact h.ne_dot rfl
    all_goals exact absurd (by decide) h.not_percent
  · obtain ⟨t, ht, heq⟩ := List.mem_map.mp (of_decide_eq_true hdots)
    obtain rfl := String.toList_inj.mp heq
    simp only [List.mem_cons, List.not_mem_nil, or_false] at ht
    rcases ht with rfl | rfl | rfl | rfl | rfl | rfl | rfl | rfl | rfl
    · exact h.ne_doubleDot rfl
    all_goals exact absurd (by decide) h.not_percent

theorem intercalate_eq_text (s : List Char) (rest : List (List Char)) :
    ['/'].intercalate (s :: rest) = s ++ Path.text rest := by
  induction rest generalizing s with
  | nil => simp [Path.text]
  | cons t rest ih =>
    rw [Path.text_cons, ← ih t]
    simp [List.intercalate]

/-- Plain segments between slashes begin with a plain character, and are read as these segments. -/
theorem exists_chars_of_segments {s : String} {rest : List String} (hs : IsPlainSegment s)
    (hrest : ∀ t ∈ rest, IsPlainSegment t) :
    ∃ c cs, ("/".intercalate (s :: rest)).toList = c :: cs ∧ IsUnreserved c ∧
      (∀ d ∈ c :: cs, IsPathChar d) ∧
      ∀ before, Path.read true false before (c :: cs) =
        before ++ (s :: rest).map String.toList := by
  have hchars : ("/".intercalate (s :: rest)).toList =
      s.toList ++ Path.text (rest.map String.toList) := by
    rw [String.toList_intercalate]
    exact intercalate_eq_text _ _
  have hpath : ∀ d ∈ s.toList ++ Path.text (rest.map String.toList), IsPathChar d := by
    intro d hd
    rcases List.mem_append.mp hd with hd | hd
    · exact Or.inr (hs.unreserved d hd)
    · obtain ⟨cs, hcs, hd⟩ := List.mem_flatMap.mp hd
      obtain ⟨t, ht, rfl⟩ := List.mem_map.mp hcs
      exact (List.mem_cons.mp hd).imp_right ((hrest t ht).unreserved d)
  have hread (before : List (List Char)) := Path.read_text before hs.normal
    (List.forall_mem_map.mpr fun t ht => (hrest t ht).normal)
  cases hfirst : s.toList with
  | nil => exact absurd (String.toList_eq_nil_iff.mp hfirst) hs.ne_empty
  | cons c cs =>
    have hc := hs.unreserved c (hfirst ▸ List.mem_cons_self)
    rw [hfirst, List.cons_append] at hchars hpath
    refine ⟨c, _, hchars, hc, hpath, fun before => ?_⟩
    rw [← List.cons_append, ← hfirst]
    exact hread before

end Joining

end Url

/-- Below a base URL of HTTP a plain status path is appended to the segments of the base, with or
without a slash at their end, and one that begins with a slash stands for them; the scheme and the
authority are those of the base. -/
theorem statusUrl_of_http {baseUrl : String} {base : Url} (hbase : Url.parse baseUrl = .ok base)
    (hhttp : base.IsHttp) :
    (base.path = .segments base.directory ∨ base.path = .segments (base.directory ++ [[]])) ∧
      (∀ (otherUrl : String) (other : Url), Url.parse otherUrl = .ok other →
        other = { base with path := other.path } → other.directory = base.directory →
        ∀ path : String, statusUrl otherUrl path = statusUrl baseUrl path) ∧
      ∀ segments : List String, segments ≠ [] → (∀ s ∈ segments, Url.IsPlainSegment s) →
        statusUrl baseUrl ("/".intercalate segments) = .ok ⟨base.scheme, base.authority,
          .segments (base.directory ++ segments.map String.toList), none, none⟩ ∧
        statusUrl baseUrl ("/" ++ "/".intercalate segments) = .ok ⟨base.scheme, base.authority,
          .segments (segments.map String.toList), none, none⟩ := by
  have hpath := Url.hasNormalPath_of_parse hbase hhttp
  have hstatus (path : String) : statusUrl baseUrl path =
      Url.join { base with path := .segments (base.directory ++ [[]]) } path := by
    rw [statusUrl, hbase, ← Url.asDirectory_eq hhttp hpath]
    rfl
  refine ⟨?_, ?_, ?_⟩
  · obtain ⟨s, rest, hss, -⟩ := hpath
    unfold Url.directory
    rw [hss]
    dsimp only
    split
    · rename_i hlast
      right
      rw [List.dropLast_append_getLast? [] hlast]
    · exact Or.inl rfl
  · intro otherUrl other hother hsame hdirectory path
    have hotherHttp : other.IsHttp := by
      rw [hsame]
      exact hhttp
    have hotherPath := Url.hasNormalPath_of_parse hother hotherHttp
    rw [hstatus, statusUrl, hother]
    change other.asDirectory.join path = _
    rw [Url.asDirectory_eq hotherHttp hotherPath, hdirectory, hsame]
  · intro segments hne hplain
    obtain ⟨s, rest, rfl⟩ := List.exists_cons_of_ne_nil hne
    obtain ⟨hs, hrest⟩ := List.forall_mem_cons.mp hplain
    obtain ⟨c, cs, hchars, hc, hcs, hread⟩ := Url.exists_chars_of_segments hs hrest
    have hhttp' : Url.IsHttp { base with path := .segments (base.directory ++ [[]]) } := hhttp
    have hspecial :
        Url.isSpecial { base with path := .segments (base.directory ++ [[]]) } = true := by
      rw [Url.isSpecial, hhttp'.kind_eq]
      rfl
    obtain ⟨hbelow, hroot⟩ := Url.relative_of_path hspecial rfl hc hcs
    constructor
    · rw [hstatus, Url.join_eq_relative hhttp' rfl (hchars ▸ hcs), hchars, hbelow, hread,
        List.dropLast_concat]
    · have hslash : ("/" ++ "/".intercalate (s :: rest)).toList = '/' :: c :: cs := by
        rw [String.toList_append, hchars]
        rfl
      have hpathChars : ∀ d ∈ '/' :: c :: cs, Url.IsPathChar d :=
        List.forall_mem_cons.mpr ⟨Or.inl rfl, hcs⟩
      rw [hstatus, Url.join_eq_relative hhttp' rfl (hslash ▸ hpathChars), hslash, hroot, hread,
        List.nil_append]

/-- A base with credentials, an escaped slash, a query and a fragment, with a slash at the end of
its path and without. -/
theorem statusUrl_of_http_escaped :
    let base (path : List (List Char)) : Url :=
      ⟨"http", some ⟨"user".toList, "pw".toList, .name "gw", some 8080⟩, .segments path,
        some "q=1".toList, some "top".toList⟩
    (Url.parse "http://user:pw@gw:8080/a%2Fb/?q=1#top" = .ok (base ["a%2Fb".toList, []]) ∧
      Url.parse "http://user:pw@gw:8080/a%2Fb?q=1#top" = .ok (base ["a%2Fb".toList])) ∧
    statusUrl "http://user:pw@gw:8080/a%2Fb/?q=1#top" "v1/status" =
        .ok ⟨"http", some ⟨"user".toList, "pw".toList, .name "gw", some 8080⟩,
          .segments ["a%2Fb".toList, "v1".toList, "status".toList], none, none⟩ ∧
      statusUrl "http://user:pw@gw:8080/a%2Fb?q=1#top" "v1/status" =
        statusUrl "http://user:pw@gw:8080/a%2Fb/?q=1#top" "v1/status" := by
  intro base
  have hslash : Url.parse "http://user:pw@gw:8080/a%2Fb/?q=1#top" =
      .ok (base ["a%2Fb".toList, []]) :=
    toOption_eq_some_iff.mp (by decide +kernel)
  have hbare : Url.parse "http://user:pw@gw:8080/a%2Fb?q=1#top" = .ok (base ["a%2Fb".toList]) :=
    toOption_eq_some_iff.mp (by decide +kernel)
  have hplain : ∀ s ∈ ["v1", "status"], Url.IsPlainSegment s :=
    List.forall_mem_cons.mpr ⟨⟨by simp [Url.IsUnreserved], by decide, by decide, by decide⟩,
      List.forall_mem_singleton.mpr ⟨by simp [Url.IsUnreserved], by decide, by decide, by decide⟩⟩
  obtain ⟨-, hother, hbelow⟩ := statusUrl_of_http hslash (Or.inl rfl)
  exact ⟨⟨hslash, hbare⟩, (hbelow ["v1", "status"] (List.cons_ne_nil _ _) hplain).1,
    hother _ _ hbare rfl rfl "v1/status"⟩

end StatusBoard
