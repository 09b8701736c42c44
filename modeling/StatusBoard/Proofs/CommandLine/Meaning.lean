import Mathlib.Data.List.Nodup
import StatusBoard.Proofs.CommandLine.Grammar

/-!
What a command line and an environment mean. Of the options of a line that is accepted no two are
for the same thing. What they give for a parameter is the text of its option; only where there is
none the environment is asked.
-/
namespace StatusBoard.Arguments

/-- The parameter that an option is for, if it is for one. -/
def Item.parameter? : Item → Option Parameter
  | .value p _ => some p
  | .once => none

/-- The text that the options give for a parameter. -/
def optionText (items : List Item) (p : Parameter) : Option String :=
  items.findSome? fun
    | .value q v => if q = p then some v else none
    | .once => none

/-- What a parameter is after it was given a text, or none. -/
def Holds (a : Arguments) (text : Option String) : Parameter → Prop
  | .config => a.config = text ∧ text ≠ some ""
  | .baseUrl => a.baseUrl = text
  | .intervalMs => text.map number? = a.intervalMs.map some
  | .bind => a.bind = text

variable {a b : Arguments} {f : Parameter → Option String}

theorem Holds.gives {text : Option String} {p : Parameter} (h : a.Holds text p) :
    a.gives p = text.isSome := by
  cases p with
  | config | baseUrl | bind => simp_all [Holds, Arguments.gives]
  | intervalMs =>
    have hsome := congrArg Option.isSome h
    simpa [Arguments.gives] using hsome.symm

/-- Giving one parameter a text leaves the others as they are. -/
theorem holds_of_put {p : Parameter} {v : String} (h : a.put p v = .ok b) :
    b.Holds (some v) p ∧ (∀ q ≠ p, ∀ text, a.Holds text q → b.Holds text q) ∧
      b.once = a.once := by
  cases p with
  | config =>
    simp only [put] at h
    split at h
    · cases h
    · rename_i hv
      cases h
      refine ⟨⟨rfl, by simpa using hv⟩, fun q hq text hholds => ?_, rfl⟩
      cases q <;> first | exact absurd rfl hq | exact hholds
  | baseUrl | bind =>
    cases h
    refine ⟨rfl, fun q hq text hholds => ?_, rfl⟩
    cases q <;> first | exact absurd rfl hq | exact hholds
  | intervalMs =>
    simp only [put] at h
    split at h
    · cases h
    · rename_i n hn
      cases h
      refine ⟨by simp [Holds, hn], fun q hq text hholds => ?_, rfl⟩
      cases q <;> first | exact absurd rfl hq | exact hholds

theorem holds_update {p : Parameter} {v : String} (ha : ∀ q, a.Holds (f q) q)
    (h : a.put p v = .ok b) : ∀ q, b.Holds (if q = p then some v else f q) q := by
  obtain ⟨hp, hothers, -⟩ := holds_of_put h
  intro q
  split
  · rename_i hq
    exact hq ▸ hp
  · rename_i hq
    exact hothers q hq (f q) (ha q)

theorem optionText_value (p q : Parameter) (v : String) (items : List Item) :
    optionText (.value p v :: items) q = if q = p then some v else optionText items q := by
  by_cases h : q = p
  · simp [optionText, h]
  · simp [optionText, h, Ne.symm h]

theorem optionText_once (q : Parameter) (items : List Item) :
    optionText (.once :: items) q = optionText items q := by
  simp [optionText]

/-- What options leave behind that were put in one after the other: they are all different, none of
them was given before, and the rest is as it was. -/
structure PutAll (f : Parameter → Option String) (a : Arguments) (items : List Item)
    (b : Arguments) : Prop where
  distinct : (items.map Item.parameter?).Nodup
  fresh : ∀ p v, .value p v ∈ items → f p = none
  fresh_once : .once ∈ items → a.once = false
  holds : ∀ p, b.Holds ((f p).or (optionText items p)) p
  once : b.once = true ↔ a.once = true ∨ .once ∈ items

theorem putAll_cons_value {items : List Item} {p : Parameter} {v : String}
    (ha : ∀ q, a.Holds (f q) q) (hput : a.putOnce p v = .ok b) {c : Arguments}
    (hrest : (∀ q, b.Holds (if q = p then some v else f q) q) →
      PutAll (fun q => if q = p then some v else f q) b items c) :
    PutAll f a (.value p v :: items) c := by
  unfold putOnce at hput
  split at hput
  · cases hput
  rename_i hgives
  have hfresh : f p = none := by
    rw [(ha p).gives] at hgives
    simpa using hgives
  have hsame := (holds_of_put hput).2.2
  have hitems := hrest (holds_update ha hput)
  have hothers : ∀ q w, .value q w ∈ items → q ≠ p ∧ f q = none := by
    intro q w hq
    have hnone := hitems.fresh q w hq
    split at hnone
    · cases hnone
    · exact ⟨‹_›, hnone⟩
  constructor
  · rw [List.map_cons, List.nodup_cons]
    refine ⟨?_, hitems.distinct⟩
    intro hmem
    obtain ⟨item, hitem, hp⟩ := List.mem_map.mp hmem
    cases item with
    | once => cases hp
    | value q w => exact (hothers q w hitem).1 (Option.some.inj hp)
  · intro q w hq
    rcases List.mem_cons.mp hq with heq | hmem
    · cases heq
      exact hfresh
    · exact (hothers q w hmem).2
  · intro honce
    rw [← hsame]
    exact hitems.fresh_once (by simpa using honce)
  · intro q
    have hq := hitems.holds q
    rw [optionText_value]
    by_cases hqp : q = p
    · subst hqp
      simpa [hfresh] using hq
    · simpa [hqp] using hq
  · rw [hitems.once, hsame]
    simp

theorem putAll_cons_once {items : List Item} (hfresh : ¬ a.once = true) {c : Arguments}
    (hitems : PutAll f { a with once := true } items c) : PutAll f a (.once :: items) c := by
  have honly : .once ∉ items := fun h => nomatch hitems.fresh_once h
  constructor
  · rw [List.map_cons, List.nodup_cons]
    refine ⟨?_, hitems.distinct⟩
    intro hmem
    obtain ⟨item, hitem, hp⟩ := List.mem_map.mp hmem
    cases item with
    | once => exact honly hitem
    | value q w => cases hp
  · intro q w hq
    exact hitems.fresh q w (by simpa using hq)
  · intro _
    simpa using hfresh
  · intro q
    rw [optionText_once]
    exact hitems.holds q
  · rw [hitems.once]
    simp

theorem putAll_of_foldlM {items : List Item} (ha : ∀ p, a.Holds (f p) p)
    (h : items.foldlM Item.put a = .ok b) : PutAll f a items b := by
  induction items generalizing a f with
  | nil =>
    cases h
    exact {
      distinct := List.nodup_nil
      fresh := by simp
      fresh_once := by simp
      holds := fun p => by simpa [optionText] using ha p
      once := by simp }
  | cons item items ih =>
    rw [List.foldlM_cons] at h
    obtain ⟨t, hput, hrest⟩ := bind_eq_ok_iff.mp h
    cases item with
    | value p v => exact putAll_cons_value ha hput fun ht => ih ht hrest
    | once =>
      simp only [Item.put] at hput
      split at hput
      · cases hput
      · rename_i hfresh
        cases hput
        refine putAll_cons_once hfresh (ih (fun p => ?_) hrest)
        have hp := ha p
        cases p <;> exact hp

/-- The environment is asked for one parameter, if that is not given. -/
def ask (env : String → Option String) (a : Arguments) (p : Parameter) :
    Except UsageError Arguments :=
  match env p.environmentName with
  | some v => if a.gives p then .ok a else a.put p v
  | none => .ok a

theorem withEnvironment_eq_ask (env : String → Option String) (a : Arguments) :
    a.withEnvironment env = Parameter.all.foldlM (ask env) a :=
  rfl

variable {env : String → Option String}

theorem holds_ask {p : Parameter} (ha : ∀ q, a.Holds (f q) q) (h : a.ask env p = .ok b) :
    (∀ q, b.Holds (if q = p then (f q).or (env q.environmentName) else f q) q) ∧
      b.once = a.once := by
  unfold ask at h
  split at h
  · rename_i v hv
    split at h
    · rename_i hgives
      cases h
      rw [(ha p).gives] at hgives
      obtain ⟨w, hw⟩ := Option.isSome_iff_exists.mp hgives
      refine ⟨fun q => ?_, rfl⟩
      split
      · rename_i hq
        subst hq
        rw [hw, Option.some_or, ← hw]
        exact ha q
      · exact ha q
    · rename_i hgives
      have hnone : f p = none := by
        rw [(ha p).gives] at hgives
        simpa using hgives
      refine ⟨fun q => ?_, (holds_of_put h).2.2⟩
      have hq := holds_update ha h q
      split
      · rename_i heq
        rw [if_pos heq] at hq
        rw [heq, hnone, Option.none_or, hv, ← heq]
        exact hq
      · rename_i hne
        rwa [if_neg hne] at hq
  · rename_i hnone
    cases h
    refine ⟨fun q => ?_, rfl⟩
    split
    · rename_i hq
      rw [hq, hnone, Option.or_none, ← hq]
      exact ha q
    · exact ha q

theorem holds_foldlM_ask {ps : List Parameter} (ha : ∀ q, a.Holds (f q) q)
    (h : ps.foldlM (ask env) a = .ok b) :
    (∀ q, b.Holds (if q ∈ ps then (f q).or (env q.environmentName) else f q) q) ∧
      b.once = a.once := by
  induction ps generalizing a f with
  | nil =>
    cases h
    exact ⟨fun q => by simpa using ha q, rfl⟩
  | cons p ps ih =>
    rw [List.foldlM_cons] at h
    obtain ⟨t, hask, hrest⟩ := bind_eq_ok_iff.mp h
    obtain ⟨ht, honce⟩ := holds_ask ha hask
    obtain ⟨hb, honce'⟩ := ih ht hrest
    refine ⟨fun q => ?_, honce'.trans honce⟩
    have hq := hb q
    by_cases hqp : q = p
    · -- asking twice gives what asking once gives
      subst hqp
      by_cases hmem : q ∈ ps <;> simpa [hmem, Option.or_assoc] using hq
    · simpa [hqp] using hq

theorem holds_withEnvironment (ha : ∀ p, a.Holds (f p) p) (h : a.withEnvironment env = .ok b) :
    (∀ p, b.Holds ((f p).or (env p.environmentName)) p) ∧ b.once = a.once := by
  rw [withEnvironment_eq_ask] at h
  obtain ⟨hb, honce⟩ := holds_foldlM_ask ha h
  refine ⟨fun p => ?_, honce⟩
  have hall : p ∈ Parameter.all := by cases p <;> decide
  have hp := hb p
  rwa [if_pos hall] at hp

/-- What an accepted command line and environment say: the words spell options, none of them twice,
and each parameter is what its option gives, or else the environment. -/
structure Means (env : String → Option String) (words : List String) (items : List Item)
    (a : Arguments) : Prop where
  spelled : Line words items
  distinct : (items.map Item.parameter?).Nodup
  holds : ∀ p, a.Holds ((optionText items p).or (env p.environmentName)) p
  once : a.once = true ↔ .once ∈ items

theorem exists_means_of_parse {words : List String} (h : parse env words = .ok a) :
    ∃ items, Means env words items a := by
  obtain ⟨b, hfinish, henv⟩ := bind_eq_ok_iff.mp h
  obtain ⟨items, hline, hitems⟩ : ∃ items, Line words items ∧ items.foldlM Item.put {} = .ok b :=
    Reading.leads_of_finish hfinish
  have hnone : ∀ p, ({} : Arguments).Holds none p := by
    intro p
    cases p <;> simp [Holds]
  have hput := putAll_of_foldlM hnone hitems
  obtain ⟨hholds, honce⟩ := holds_withEnvironment hput.holds henv
  refine ⟨items, hline, hput.distinct, fun p => ?_, ?_⟩
  · simpa using hholds p
  · rw [honce, hput.once]
    simp

end StatusBoard.Arguments
