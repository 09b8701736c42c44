import StatusBoard.Proofs.Except
import StatusBoard.Record.Field

/-!
What it takes for a record to be filled in. Given which value each field has, if any, the record is
filled in field after field in the order of their declaration. A document may give its values in
another order; the result is the same when fields do not touch each other's parts, as long as no
field is given twice.
-/
namespace StatusBoard

namespace Field

variable {δ ρ : Type}

/-- From `r` to `s` by the fields that have a value. -/
def Filled (value : String → Option δ) : List (Field δ ρ) → ρ → ρ → Prop
  | [], r, s => s = r
  | f :: fs, r, s =>
    match value f.name with
    | none => Filled value fs r s
    | some d => ∃ t, f.fill r d = .ok t ∧ Filled value fs t s

/-- Every required field has a value. -/
def Complete (value : String → Option δ) (fields : List (Field δ ρ)) : Prop :=
  ∀ f ∈ fields, f.required = true → (value f.name).isSome = true

/-- Two fields that may be filled in either order. -/
def Commute (f g : Field δ ρ) : Prop :=
  ∀ r d e s, (∃ t, f.fill r d = .ok t ∧ g.fill t e = .ok s) ↔
    ∃ t, g.fill r e = .ok t ∧ f.fill t d = .ok s

theorem filled_cons_none {value : String → Option δ} {f : Field δ ρ} (h : value f.name = none)
    (fs : List (Field δ ρ)) (r s : ρ) : Filled value (f :: fs) r s ↔ Filled value fs r s := by
  rw [Filled, h]

theorem filled_cons_some {value : String → Option δ} {f : Field δ ρ} {d : δ}
    (h : value f.name = some d) (fs : List (Field δ ρ)) (r s : ρ) :
    Filled value (f :: fs) r s ↔ ∃ t, f.fill r d = .ok t ∧ Filled value fs t s := by
  rw [Filled, h]

/-- Only the values of the fields count. -/
theorem filled_congr {v w : String → Option δ} {fields : List (Field δ ρ)}
    (h : ∀ f ∈ fields, v f.name = w f.name) (r s : ρ) :
    Filled v fields r s ↔ Filled w fields r s := by
  induction fields generalizing r with
  | nil => exact Iff.rfl
  | cons f fs ih =>
    obtain ⟨hf, hfs⟩ := List.forall_mem_cons.mp h
    cases hw : w f.name with
    | none => rw [filled_cons_none (hf.trans hw), filled_cons_none hw, ih hfs]
    | some d =>
      rw [filled_cons_some (hf.trans hw), filled_cons_some hw]
      exact exists_congr fun t => and_congr_right fun _ => ih hfs t

/-- Nothing is filled in where no field has a value. -/
theorem filled_none {value : String → Option δ} {fields : List (Field δ ρ)}
    (h : ∀ f ∈ fields, value f.name = none) (r s : ρ) : Filled value fields r s ↔ s = r := by
  induction fields with
  | nil => exact Iff.rfl
  | cons f fs ih =>
    obtain ⟨hf, hfs⟩ := List.forall_mem_cons.mp h
    rw [filled_cons_none hf, ih hfs]

theorem name_ne_of_nodup {f g : Field δ ρ} {fs : List (Field δ ρ)}
    (hnames : ((f :: fs).map (·.name)).Nodup) (hg : g ∈ fs) : g.name ≠ f.name := by
  intro h
  rw [List.map_cons, List.nodup_cons] at hnames
  exact hnames.1 (h ▸ List.mem_map_of_mem hg)

/-- A field that gets its value can be the first one filled in. -/
theorem filled_insert {v w : String → Option δ} {fields : List (Field δ ρ)}
    (hcommute : fields.Pairwise Commute) (hnames : (fields.map (·.name)).Nodup) {f : Field δ ρ}
    (hf : f ∈ fields) {d : δ} (hv : v f.name = none) (hw : w f.name = some d)
    (hother : ∀ k ≠ f.name, w k = v k) (r s : ρ) :
    Filled w fields r s ↔ ∃ t, f.fill r d = .ok t ∧ Filled v fields t s := by
  induction fields generalizing r with
  | nil => exact absurd hf List.not_mem_nil
  | cons g gs ih =>
    obtain ⟨hg, hgs⟩ := List.pairwise_cons.mp hcommute
    have hgsNames : (gs.map (·.name)).Nodup := (List.nodup_cons.mp hnames).2
    rcases List.mem_cons.mp hf with rfl | hmem
    · rw [filled_cons_some hw]
      refine exists_congr fun t => and_congr_right fun _ => ?_
      rw [filled_cons_none hv]
      exact filled_congr (fun g hg => hother g.name (name_ne_of_nodup hnames hg)) t s
    · have hne : g.name ≠ f.name := (name_ne_of_nodup hnames hmem).symm
      cases he : v g.name with
      | none =>
        rw [filled_cons_none ((hother g.name hne).trans he), ih hgs hgsNames hmem]
        exact exists_congr fun t => and_congr_right fun _ => (filled_cons_none he gs t s).symm
      | some e =>
        rw [filled_cons_some ((hother g.name hne).trans he)]
        calc (∃ t, g.fill r e = .ok t ∧ Filled w gs t s)
            ↔ ∃ t, g.fill r e = .ok t ∧ ∃ u, f.fill t d = .ok u ∧ Filled v gs u s :=
              exists_congr fun t => and_congr_right fun _ => ih hgs hgsNames hmem t
          _ ↔ ∃ u, (∃ t, g.fill r e = .ok t ∧ f.fill t d = .ok u) ∧ Filled v gs u s :=
              ⟨fun ⟨t, ht, u, hu, h⟩ => ⟨u, ⟨t, ht, hu⟩, h⟩,
                fun ⟨u, ⟨t, ht, hu⟩, h⟩ => ⟨t, ht, u, hu, h⟩⟩
          _ ↔ ∃ u, (∃ t, f.fill r d = .ok t ∧ g.fill t e = .ok u) ∧ Filled v gs u s :=
              exists_congr fun u => and_congr_left fun _ => hg f hmem r e d u
          _ ↔ ∃ t, f.fill r d = .ok t ∧ Filled v (g :: gs) t s := by
              simp only [filled_cons_some he]
              exact ⟨fun ⟨u, ⟨t, ht, hu⟩, h⟩ => ⟨t, ht, u, hu, h⟩,
                fun ⟨t, ht, u, hu, h⟩ => ⟨u, ⟨t, ht, hu⟩, h⟩⟩

section Members

variable {fields : List (Field δ ρ)}

/-- The keys that are names of fields. -/
def known (fields : List (Field δ ρ)) (ks : List String) : List String :=
  ks.filter (· ∈ fields.map (·.name))

theorem mem_known {k : String} {ks : List String} :
    k ∈ known fields ks ↔ k ∈ ks ∧ k ∈ fields.map (·.name) := by
  rw [known, List.mem_filter, decide_eq_true_eq]

theorem find?_name (hnames : (fields.map (·.name)).Nodup) {f : Field δ ρ} (hf : f ∈ fields) :
    fields.find? (·.name == f.name) = some f := by
  induction fields with
  | nil => exact absurd hf List.not_mem_nil
  | cons g gs ih =>
    rcases List.mem_cons.mp hf with rfl | hmem
    · exact List.find?_cons_of_pos (beq_self_eq_true f.name)
    · have hne : (g.name == f.name) = false :=
        beq_eq_false_iff_ne.mpr (name_ne_of_nodup hnames hmem).symm
      rw [List.find?_cons, hne]
      exact ih (List.nodup_cons.mp hnames).2 hmem

theorem put_unknown {k : String} (hk : k ∉ fields.map (·.name)) (p : Progress ρ) (d : δ) :
    put fields p k d = .ok p := by
  have hfind : fields.find? (·.name == k) = none := by
    rw [List.find?_eq_none]
    intro f hf hname
    exact hk (eq_of_beq hname ▸ List.mem_map_of_mem hf)
  rw [put, hfind]

/-- Where a key has a field, it is put in unless it was seen. -/
theorem put_known (hnames : (fields.map (·.name)).Nodup) {f : Field δ ρ} (hf : f ∈ fields)
    (p q : Progress ρ) (d : δ) :
    put fields p f.name d = .ok q ↔
      f.name ∉ p.seen ∧ ∃ t, f.fill p.record d = .ok t ∧ q = ⟨t, f.name :: p.seen⟩ := by
  rw [put, find?_name hnames hf]
  by_cases hseen : f.name ∈ p.seen
  · simp only [hseen, if_true, not_true_eq_false, false_and, iff_false]
    exact fun h => nomatch h
  · simp only [hseen, if_false, not_false_eq_true, true_and, map_eq_ok_iff]

theorem lookup_cons_ne {k l : String} (h : l ≠ k) (d : δ) (ms : List (String × δ)) :
    ((k, d) :: ms).lookup l = ms.lookup l := by
  rw [List.lookup_cons, beq_eq_false_iff_ne.mpr h]

theorem lookup_eq_none {κ : Type} [BEq κ] [LawfulBEq κ] {k : κ} {ms : List (κ × δ)}
    (h : k ∉ ms.map (·.1)) : ms.lookup k = none := by
  rw [List.lookup_eq_none_iff]
  intro m hm
  rw [bne_iff_ne]
  rintro rfl
  exact h (List.mem_map_of_mem hm)

/-- A known key that came just before does not come again. -/
theorem fresh_of_nodup {k : String} (hk : k ∈ fields.map (·.name)) {ks seen : List String}
    (h : ((known fields ks).reverse ++ k :: seen).Nodup) : k ∉ ks ∧ (k :: seen).Nodup := by
  obtain ⟨_, hseen, hdisjoint⟩ := List.nodup_append.mp h
  refine ⟨fun hmem => ?_, hseen⟩
  have hknown := List.mem_reverse.mpr (mem_known.mpr ⟨hmem, hk⟩)
  exact hdisjoint k hknown k List.mem_cons_self rfl

/-- Members put in one after the other. -/
theorem foldlM_put_iff (hcommute : fields.Pairwise Commute)
    (hnames : (fields.map (·.name)).Nodup) (ms : List (String × δ)) (p q : Progress ρ) :
    ms.foldlM (fun p m => put fields p m.1 m.2) p = .ok q ∧ p.seen.Nodup ↔
      q.seen = (known fields (ms.map (·.1))).reverse ++ p.seen ∧ q.seen.Nodup ∧
        Filled (ms.lookup ·) fields p.record q.record := by
  induction ms generalizing p with
  | nil =>
    rw [filled_none (fun _ _ => rfl)]
    constructor
    · rintro ⟨hq, hp⟩
      obtain rfl : p = q := Except.ok.inj hq
      exact ⟨rfl, hp, rfl⟩
    · rintro ⟨hseen, hnodup, hrecord⟩
      obtain ⟨record, seen⟩ := p
      obtain ⟨record', seen'⟩ := q
      obtain rfl : seen' = seen := hseen
      obtain rfl : record' = record := hrecord
      exact ⟨rfl, hnodup⟩
  | cons m ms ih =>
    obtain ⟨k, d⟩ := m
    rw [List.foldlM_cons, bind_eq_ok_iff, List.map_cons]
    by_cases hk : k ∈ fields.map (·.name)
    · obtain ⟨f, hf, rfl⟩ := List.mem_map.mp hk
      have hknown : known fields (f.name :: ms.map (·.1)) =
          f.name :: known fields (ms.map (·.1)) :=
        List.filter_cons_of_pos (decide_eq_true hk)
      have hinsert := fun hms : f.name ∉ ms.map (·.1) =>
        filled_insert (v := (ms.lookup ·)) (w := (((f.name, d) :: ms).lookup ·)) hcommute hnames hf
          (lookup_eq_none hms) List.lookup_cons_self (fun l hl => lookup_cons_ne hl d ms)
          p.record q.record
      simp only [put_known hnames hf, hknown, List.reverse_cons, List.append_assoc,
        List.singleton_append]
      constructor
      · rintro ⟨⟨_, ⟨hfresh, t, ht, rfl⟩, hrest⟩, hp⟩
        obtain ⟨hseen, hnodup, hfilled⟩ :=
          (ih ⟨t, f.name :: p.seen⟩).mp ⟨hrest, List.nodup_cons.mpr ⟨hfresh, hp⟩⟩
        have hms := (fresh_of_nodup hk (hseen ▸ hnodup)).1
        exact ⟨hseen, hnodup, (hinsert hms).mpr ⟨t, ht, hfilled⟩⟩
      · rintro ⟨hseen, hnodup, hfilled⟩
        obtain ⟨hms, hp⟩ := fresh_of_nodup hk (hseen ▸ hnodup)
        obtain ⟨t, ht, hfilled⟩ := (hinsert hms).mp hfilled
        obtain ⟨hrest, hp⟩ := (ih ⟨t, f.name :: p.seen⟩).mpr ⟨hseen, hnodup, hfilled⟩
        obtain ⟨hfresh, hp⟩ := List.nodup_cons.mp hp
        exact ⟨⟨_, ⟨hfresh, t, ht, rfl⟩, hrest⟩, hp⟩
    · have hknown : known fields (k :: ms.map (·.1)) = known fields (ms.map (·.1)) :=
        List.filter_cons_of_neg (by simpa using hk)
      have hne : ∀ f ∈ fields, f.name ≠ k := by
        rintro f hf rfl
        exact hk (List.mem_map_of_mem hf)
      have hcongr := filled_congr (v := (((k, d) :: ms).lookup ·)) (w := (ms.lookup ·))
        (fun f hf => lookup_cons_ne (hne f hf) d ms) p.record q.record
      rw [hknown, hcongr, ← ih p]
      simp only [put_unknown hk, Except.ok.injEq, exists_eq_left']

theorem missing?_eq_none_iff (seen : List String) :
    missing? fields seen = none ↔ ∀ f ∈ fields, f.required = true → f.name ∈ seen := by
  simp [missing?, List.find?_eq_none]

/-- All that is required was seen, when the members hold it. -/
theorem missing?_known (ms : List (String × δ)) (seen : List String)
    (hseen : ∀ k, k ∈ seen ↔ k ∈ known fields (ms.map (·.1))) :
    missing? fields seen = none ↔ Complete (ms.lookup ·) fields := by
  rw [missing?_eq_none_iff]
  refine forall₂_congr fun f hf => imp_congr_right fun _ => ?_
  have hname : f.name ∈ fields.map (·.name) := List.mem_map_of_mem hf
  rw [hseen, mem_known, and_iff_left hname, List.mem_map, List.lookup_isSome_iff]
  exact exists_congr fun m => and_congr_right fun _ => by rw [beq_iff_eq, eq_comm]

end Members

section Places

variable {fields : List (Field δ ρ)}

/-- The values by name, when they come in the order of the fields. -/
def byPlace (fields : List (Field δ ρ)) (ds : List δ) (k : String) : Option δ :=
  ((fields.map (·.name)).zip ds).lookup k

theorem byPlace_nil (fields : List (Field δ ρ)) (k : String) : byPlace fields [] k = none := by
  rw [byPlace, List.zip_nil_right, List.lookup_nil]

theorem byPlace_head (f : Field δ ρ) (fs : List (Field δ ρ)) (d : δ) (ds : List δ) :
    byPlace (f :: fs) (d :: ds) f.name = some d :=
  List.lookup_cons_self

theorem byPlace_tail {f g : Field δ ρ} {fs : List (Field δ ρ)}
    (hnames : ((f :: fs).map (·.name)).Nodup) (hg : g ∈ fs) (d : δ) (ds : List δ) :
    byPlace (f :: fs) (d :: ds) g.name = byPlace fs ds g.name :=
  lookup_cons_ne (name_ne_of_nodup hnames hg) d _

theorem putInOrder_iff (hnames : (fields.map (·.name)).Nodup) (ds : List δ) (r s : ρ) :
    putInOrder fields r ds = .ok s ↔ Filled (byPlace fields ds) fields r s := by
  induction fields generalizing ds r with
  | nil => exact ⟨fun h => (Except.ok.inj h).symm, fun h => congrArg _ (Eq.symm h)⟩
  | cons f fs ih =>
    cases ds with
    | nil =>
      rw [filled_none (fun g _ => byPlace_nil _ g.name)]
      exact ⟨fun h => (Except.ok.inj h).symm, fun h => congrArg _ (Eq.symm h)⟩
    | cons d ds =>
      have htail : ∀ t, putInOrder fs t ds = .ok s ↔
          Filled (byPlace (f :: fs) (d :: ds)) fs t s := fun t =>
        (ih (List.nodup_cons.mp hnames).2 ds t).trans
          (filled_congr (fun g hg => byPlace_tail hnames hg d ds) t s).symm
      rw [filled_cons_some (byPlace_head f fs d ds), putInOrder, List.zip_cons_cons,
        List.foldlM_cons, bind_eq_ok_iff]
      exact exists_congr fun t => and_congr_right fun _ => htail t

/-- The values that come in order reach all required fields. -/
theorem drop_required_iff (hnames : (fields.map (·.name)).Nodup) (ds : List δ) :
    (∀ f ∈ fields.drop ds.length, f.required = false) ↔ Complete (byPlace fields ds) fields := by
  induction fields generalizing ds with
  | nil => simp [Complete]
  | cons f fs ih =>
    cases ds with
    | nil =>
      refine forall₂_congr fun g _ => ?_
      rw [byPlace_nil]
      simp
    | cons d ds =>
      have hhead : f.required = true → (byPlace (f :: fs) (d :: ds) f.name).isSome = true := by
        rw [byPlace_head]
        exact fun _ => rfl
      rw [Complete, List.forall_mem_cons, and_iff_right hhead]
      refine (ih (List.nodup_cons.mp hnames).2 ds).trans (forall₂_congr fun g hg => ?_)
      rw [byPlace_tail hnames hg]

theorem firstAbsent?_eq_none_iff (hnames : (fields.map (·.name)).Nodup) (ds : List δ) :
    firstAbsent? fields ds.length = none ↔ Complete (byPlace fields ds) fields := by
  rw [firstAbsent?, Option.map_eq_none_iff, List.findIdx?_eq_none_iff, drop_required_iff hnames]

end Places

/-- Filled in with all that is required. -/
structure Fills (value : String → Option δ) (fields : List (Field δ ρ)) (r s : ρ) : Prop where
  complete : Complete value fields
  filled : Filled value fields r s

theorem fills_nil {value : String → Option δ} {r s : ρ} : Fills value [] r s ↔ s = r :=
  ⟨fun h => h.filled, fun h => ⟨fun _ hf => absurd hf List.not_mem_nil, h⟩⟩

/-- A required field comes first. -/
theorem fills_cons_required {value : String → Option δ} {f : Field δ ρ} {fs : List (Field δ ρ)}
    {r s : ρ} (hf : f.required = true) :
    Fills value (f :: fs) r s ↔
      ∃ d, value f.name = some d ∧ ∃ t, f.fill r d = .ok t ∧ Fills value fs t s := by
  constructor
  · rintro ⟨hcomplete, hfilled⟩
    obtain ⟨hhead, hrest⟩ := List.forall_mem_cons.mp hcomplete
    obtain ⟨d, hd⟩ := Option.isSome_iff_exists.mp (hhead hf)
    obtain ⟨t, ht, hfilled⟩ := (filled_cons_some hd fs r s).mp hfilled
    exact ⟨d, hd, t, ht, hrest, hfilled⟩
  · rintro ⟨d, hd, t, ht, hrest, hfilled⟩
    have hhead : f.required = true → (value f.name).isSome = true := fun _ => hd ▸ rfl
    exact ⟨List.forall_mem_cons.mpr ⟨hhead, hrest⟩,
      (filled_cons_some hd fs r s).mpr ⟨t, ht, hfilled⟩⟩

/-- A field that may be left out comes first. -/
theorem fills_cons_optional {value : String → Option δ} {f : Field δ ρ} {fs : List (Field δ ρ)}
    {r s : ρ} (hf : f.required = false) :
    Fills value (f :: fs) r s ↔
      value f.name = none ∧ Fills value fs r s ∨
        ∃ d, value f.name = some d ∧ ∃ t, f.fill r d = .ok t ∧ Fills value fs t s := by
  have hhead : f.required = true → (value f.name).isSome = true := fun h =>
    absurd (hf.symm.trans h) Bool.false_ne_true
  have hcomplete : Complete value (f :: fs) ↔ Complete value fs := by
    rw [Complete, List.forall_mem_cons, and_iff_right hhead]
    rfl
  constructor
  · rintro ⟨h, hfilled⟩
    have hrest := hcomplete.mp h
    cases hd : value f.name with
    | none => exact .inl ⟨rfl, hrest, (filled_cons_none hd fs r s).mp hfilled⟩
    | some d =>
      obtain ⟨t, ht, hfilled⟩ := (filled_cons_some hd fs r s).mp hfilled
      exact .inr ⟨d, rfl, t, ht, hrest, hfilled⟩
  · rintro (⟨hd, hrest, hfilled⟩ | ⟨d, hd, t, ht, hrest, hfilled⟩)
    · exact ⟨hcomplete.mpr hrest, (filled_cons_none hd fs r s).mpr hfilled⟩
    · exact ⟨hcomplete.mpr hrest, (filled_cons_some hd fs r s).mpr ⟨t, ht, hfilled⟩⟩

/-- Fields that set different parts commute. -/
theorem commute_of_set {α β : Type} {f g : Field δ ρ} {value : δ → Except Mismatch α}
    {set : ρ → α → ρ} {value' : δ → Except Mismatch β} {set' : ρ → β → ρ}
    (hf : ∀ r d, f.fill r d = (value d).map (set r))
    (hg : ∀ r d, g.fill r d = (value' d).map (set' r))
    (hset : ∀ r x y, set' (set r x) y = set (set' r y) x) : Commute f g := by
  intro r d e s
  simp only [hf, hg, map_eq_ok_iff]
  constructor
  · rintro ⟨_, ⟨x, hx, rfl⟩, y, hy, rfl⟩
    exact ⟨_, ⟨y, hy, rfl⟩, x, hx, hset r x y⟩
  · rintro ⟨_, ⟨y, hy, rfl⟩, x, hx, rfl⟩
    exact ⟨_, ⟨x, hx, rfl⟩, y, hy, (hset r x y).symm⟩

end Field

end StatusBoard
