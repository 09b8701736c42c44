import StatusBoard.Proofs.Config.Overlay
import StatusBoard.Proofs.Toml.Restating
import StatusBoard.Proofs.Toml.WellFormed

/-!
What the lines of a text give for the configuration. Each setting is what the lines state for it, or
its default if they state nothing, whatever else they state and however they are spelled.
-/
namespace StatusBoard

open Toml (Item Line Sight States Value)
open Toml.Entries (membersOf valueOf)
open Toml.Value (Gives setting?)

namespace Config

/-- The kinds of settings. -/
inductive Kind where
  | text
  | flag
  | count

namespace Kind

/-- What settings of a kind hold. -/
abbrev Carrier : Kind → Type
  | .text => String
  | .flag => Bool
  | .count => UInt64

/-- The value that stands for a setting. -/
def value : (k : Kind) → k.Carrier → Value
  | .text, s => .string s
  | .flag, b => .boolean b
  | .count, n => .integer n.toNat

/-- How a setting is read from a value. -/
def read : (k : Kind) → Value → Except Mismatch k.Carrier
  | .text => Value.text
  | .flag => Value.flag
  | .count => Value.count

/-- The values of a kind. -/
def Accepts : Kind → Value → Prop
  | .text, v => ∃ s, v = .string s
  | .flag, v => ∃ b, v = .boolean b
  | .count, v => ∃ n, v = .integer n ∧ 0 ≤ n

variable {k : Kind} {v : Value}

theorem accepts_value (a : k.Carrier) : k.Accepts (k.value a) := by
  cases k with
  | text => exact ⟨a, rfl⟩
  | flag => exact ⟨a, rfl⟩
  | count => exact ⟨_, rfl, Int.natCast_nonneg _⟩

theorem Accepts.isScalar (h : k.Accepts v) : v.IsScalar := by
  cases k with
  | text | flag => obtain ⟨_, rfl⟩ := h; exact trivial
  | count => obtain ⟨_, rfl, -⟩ := h; exact trivial

theorem exists_eq_value (hv : v.IsWellFormed) (h : k.Accepts v) : ∃ a, v = k.value a := by
  cases k with
  | text => exact h
  | flag => exact h
  | count =>
    obtain ⟨n, rfl, hn⟩ := h
    rcases hv with _ | ⟨_, -, hhigh⟩
    refine ⟨UInt64.ofNat n.toNat, congrArg Value.integer ?_⟩
    have hsize : n.toNat < UInt64.size := by
      have hsize' : UInt64.size = 2 ^ 64 := rfl
      omega
    rw [UInt64.toNat_ofNat_of_lt' hsize, Int.toNat_of_nonneg hn]

theorem read_value (a : k.Carrier) : k.read (k.value a) = .ok a := by
  cases k with
  | text => rfl
  | flag => rfl
  | count =>
    have hnonneg : ¬((UInt64.toNat a : Int) < 0) := by omega
    simp only [read, value, Value.count, if_neg hnonneg, Int.toNat_natCast, UInt64.ofNat_toNat]

theorem accepts_of_read {a : k.Carrier} (h : k.read v = .ok a) : k.Accepts v := by
  cases k with
  | text => cases v <;> first | exact ⟨_, rfl⟩ | cases h
  | flag => cases v <;> first | exact ⟨_, rfl⟩ | cases h
  | count =>
    cases v with
    | integer n =>
      refine ⟨n, rfl, ?_⟩
      by_contra hneg
      rw [read, Value.count, if_pos (Int.not_le.mp hneg)] at h
      cases h
    | string | float | boolean | moment | array | table => cases h

/-- A setting is read from the value that stands for it, and from no other. -/
theorem read_eq_ok_iff (hv : v.IsWellFormed) (a : k.Carrier) :
    k.read v = .ok a ↔ v = k.value a := by
  refine ⟨fun h => ?_, fun h => h ▸ read_value a⟩
  obtain ⟨b, rfl⟩ := exists_eq_value hv (accepts_of_read h)
  rw [Except.ok.inj ((read_value b).symm.trans h)]

end Kind

/-- A setting of a section, and where it stands in the configuration. -/
structure Setting where
  sectionName : String
  name : String
  kind : Kind
  get : Config → kind.Carrier

/-- The known settings. -/
def settings : List Setting :=
  [⟨"source", "base_url", .text, (·.source.baseUrl)⟩,
    ⟨"source", "status_path", .text, (·.source.statusPath)⟩,
    ⟨"source", "timeout_ms", .count, (·.source.timeoutMs)⟩,
    ⟨"source", "user_agent", .text, (·.source.userAgent)⟩,
    ⟨"refresh", "interval_ms", .count, (·.refresh.intervalMs)⟩,
    ⟨"server", "enabled", .flag, (·.server.enabled)⟩,
    ⟨"server", "bind_address", .text, (·.server.bindAddress)⟩,
    ⟨"server", "request_timeout_secs", .count, (·.server.requestTimeoutSecs)⟩,
    ⟨"observability", "log_level", .text, (·.observability.logLevel)⟩,
    ⟨"observability", "metrics_enabled", .flag, (·.observability.metricsEnabled)⟩,
    ⟨"observability", "metrics_address", .text, (·.observability.metricsAddress)⟩]

namespace Setting

def path (k : Setting) : List String :=
  [k.sectionName, k.name]

/-- What is stated for a setting can be read as it. -/
def Fits (ls : List Line) (k : Setting) : Prop :=
  ∀ x, States ls k.path x → ∃ v, x = .value v ∧ k.kind.Accepts v

/-- What a setting is by the lines of a document: what they state, or the default if they state
nothing. -/
def Takes (ls : List Line) (k : Setting) (a : k.kind.Carrier) : Prop :=
  States ls k.path (.value (k.kind.value a)) ∨ (∀ x, ¬States ls k.path x) ∧ a = k.get {}

end Setting

/-- A text by its lines: they make up a document, in which the known sections are tables, as far as
they are there. -/
structure IsWritten (s : String) (ls : List Line) : Prop where
  lines : Toml.lines s = some ls
  reads : (Toml.parse s).isSome
  tables : ∀ name ∈ fields.map (·.name), ∀ x, States ls [name] x → x = .table

namespace IsWritten

variable {s : String} {ls : List Line}

/-- A document by the entries of its table. -/
theorem exists_entries (h : IsWritten s ls) : ∃ es : Toml.Entries,
    Toml.parse s = some (.table (membersOf es)) ∧ es.IsWellFormed ∧
      ∀ p x, es.sight? p = some x ↔ States ls p x := by
  have hreads := h.reads
  simp only [Toml.parse, h.lines, Option.bind_eq_bind, Option.bind_some] at hreads
  cases hbuild : Toml.build ls with
  | none =>
    rw [hbuild] at hreads
    cases hreads
  | some es =>
    refine ⟨es, ?_, Toml.isWellFormed_of_build h.lines hbuild, Toml.sight?_build_iff hbuild⟩
    simp only [Toml.parse, h.lines, hbuild, Option.bind_eq_bind, Option.bind_some]

end IsWritten

/-- Whether a text is a document in which the known sections are tables, as far as they are
there. -/
def hasTables (s : String) : Bool :=
  ((Toml.lines s).bind Toml.build).any fun es =>
    fields.all fun f => (es.find? f.name).all fun item => item.sight matches .table

theorem exists_isWritten (s : String) (h : hasTables s = true) : ∃ ls, IsWritten s ls := by
  obtain ⟨es, hes, htables⟩ := (Option.any_eq_true _ _).mp h
  obtain ⟨ls, hlines, hbuild⟩ := Option.bind_eq_some_iff.mp hes
  refine ⟨ls, hlines, by simp [Toml.parse, hlines, hbuild], fun name hname x hx => ?_⟩
  obtain ⟨f, hf, rfl⟩ := List.mem_map.mp hname
  have hitem := List.all_eq_true.mp htables f hf
  rw [← Toml.sight?_build_iff hbuild, Toml.Entries.sight?_cons] at hx
  obtain ⟨item, hfound, hx⟩ := Option.bind_eq_some_iff.mp hx
  cases hx
  rw [hfound, Option.all_some] at hitem
  cases hsight : item.sight with
  | table => rfl
  | value v => simp [hsight] at hitem
  | rows => simp [hsight] at hitem

section Entries

variable {ls : List Line} {es : Toml.Entries} {name : String}

theorem section?_eq (es : Toml.Entries) (name : String) :
    (section? (.table (membersOf es)) name) = (es.find? name).map valueOf :=
  Toml.Entries.lookup_membersOf es name

/-- A section that is a table, by its members. -/
theorem exists_members (htable : ∀ x, es.sight? [name] = some x → x = .table) {item : Item}
    (hitem : es.find? name = some item) : ∃ members, valueOf item = .table members ∧
      ∀ key, members.lookup key = (item.child? key).map valueOf := by
  refine Item.exists_valueOf_eq_table (htable _ ?_)
  rw [Toml.Entries.sight?_cons, hitem, Option.bind_some, Item.sight?_nil]

/-- What a document gives for a setting of a section. -/
theorem setting?_eq {ρ : Type} (fs : List (Field Value ρ))
    (htable : ∀ x, es.sight? [name] = some x → x = .table) (key : String) :
    setting? fs (section? (.table (membersOf es)) name) key =
      ((Item.table .stated es).at? [name, key]).map valueOf := by
  have hat : (Item.table .stated es).at? [name, key] =
      (es.find? name).bind fun item => item.child? key := by
    simp [Item.at?, Item.child?]
  rw [setting?, section?_eq, hat]
  cases hitem : es.find? name with
  | none => rfl
  | some item =>
    obtain ⟨members, hmembers, hlookup⟩ := exists_members htable hitem
    rw [Option.map_some, hmembers]
    exact hlookup key

theorem isSection_of_table {ρ : Type} (fs : List (Field Value ρ)) (hes : es.IsWellFormed)
    (htable : ∀ x, es.sight? [name] = some x → x = .table) :
    ∀ d ∈ section? (.table (membersOf es)) name, d.IsSection fs := by
  intro d hd
  rw [section?_eq] at hd
  obtain ⟨item, hitem, rfl⟩ := Option.map_eq_some_iff.mp hd
  obtain ⟨members, hmembers, -⟩ := exists_members htable hitem
  have hformed := hes.of_find? hitem
  rw [hmembers] at hformed ⊢
  obtain _ | _ | _ | _ | _ | _ | ⟨_, hnames, -⟩ := hformed
  exact hnames.filter _

/-- A setting takes what the document gives for it. -/
theorem gives_iff_takes {ρ : Type} (fs : List (Field Value ρ)) (hes : es.IsWellFormed)
    (hstates : ∀ p x, es.sight? p = some x ↔ States ls p x) (k : Setting)
    (htable : ∀ x, es.sight? [k.sectionName] = some x → x = .table) (a : k.kind.Carrier) :
    Gives k.kind.read (k.get {})
        (setting? fs (section? (.table (membersOf es)) k.sectionName) k.name) a ↔
      k.Takes ls a := by
  have hsight : es.sight? k.path =
      ((Item.table .stated es).at? [k.sectionName, k.name]).map Item.sight := rfl
  rw [setting?_eq fs htable, Setting.Takes]
  simp only [← hstates, hsight]
  cases hitem : (Item.table .stated es).at? [k.sectionName, k.name] with
  | none => simp [Gives]
  | some item =>
    have hformed := Item.isWellFormed_of_at?
      ((Toml.Entries.isWellFormed_table_iff .stated).mpr hes) hitem
    have hread := Kind.read_eq_ok_iff (k := k.kind) hformed a
    rw [← Item.sight_eq_value_iff (Kind.accepts_value a).isScalar] at hread
    simpa [Gives] using hread

section Tables

variable (hes : es.IsWellFormed)
  (htables : ∀ name ∈ fields.map (·.name), ∀ x, es.sight? [name] = some x → x = .table)

include hes htables

theorem isDocument_of_tables : IsDocument (.table (membersOf es)) := by
  have hsection {ρ : Type} (fs : List (Field Value ρ)) (name : String)
      (hname : name ∈ fields.map (·.name)) := isSection_of_table fs hes (htables name hname)
  refine ⟨?_, hsection _ _ (by simp [fields, setting]), hsection _ _ (by simp [fields, setting]),
    hsection _ _ (by simp [fields, setting]), hsection _ _ (by simp [fields, setting])⟩
  obtain _ | _ | _ | _ | _ | _ | ⟨_, hnames, -⟩ :=
    (Toml.Entries.isWellFormed_table_iff .stated).mpr hes
  exact hnames.filter _

/-- The configuration overlays the defaults with a document if each setting takes what the document
gives for it. -/
theorem overlays_iff (hstates : ∀ p x, es.sight? p = some x ↔ States ls p x) (c : Config) :
    c.Overlays (.table (membersOf es)) ↔ ∀ k ∈ settings, k.Takes ls (k.get c) := by
  have hnames : ∀ k ∈ settings, k.sectionName ∈ fields.map (·.name) := by
    simp [settings, fields, setting]
  have hgives : ∀ k ∈ settings, ∀ {ρ : Type} (fs : List (Field Value ρ)),
      Gives k.kind.read (k.get {})
          (setting? fs (section? (.table (membersOf es)) k.sectionName) k.name) (k.get c) ↔
        k.Takes ls (k.get c) :=
    fun k hk {_} fs => gives_iff_takes fs hes hstates k (htables _ (hnames k hk)) (k.get c)
  simp only [settings, List.forall_mem_cons, List.not_mem_nil, false_imp_iff, implies_true,
    and_true] at hgives ⊢
  obtain ⟨h₁, h₂, h₃, h₄, h₅, h₆, h₇, h₈, h₉, h₁₀, h₁₁⟩ := hgives
  constructor
  · rintro ⟨hsource, hrefresh, hserver, hobservability⟩
    exact ⟨(h₁ _).mp hsource.base_url, (h₂ _).mp hsource.status_path, (h₃ _).mp hsource.timeout_ms,
      (h₄ _).mp hsource.user_agent, (h₅ _).mp hrefresh.interval_ms, (h₆ _).mp hserver.enabled,
      (h₇ _).mp hserver.bind_address, (h₈ _).mp hserver.request_timeout_secs,
      (h₉ _).mp hobservability.log_level, (h₁₀ _).mp hobservability.metrics_enabled,
      (h₁₁ _).mp hobservability.metrics_address⟩
  · rintro ⟨t₁, t₂, t₃, t₄, t₅, t₆, t₇, t₈, t₉, t₁₀, t₁₁⟩
    exact ⟨⟨(h₁ _).mpr t₁, (h₂ _).mpr t₂, (h₃ _).mpr t₃, (h₄ _).mpr t₄⟩, ⟨(h₅ _).mpr t₅⟩,
      ⟨(h₆ _).mpr t₆, (h₇ _).mpr t₇, (h₈ _).mpr t₈⟩,
      ⟨(h₉ _).mpr t₉, (h₁₀ _).mpr t₁₀, (h₁₁ _).mpr t₁₁⟩⟩

end Tables

end Entries

/-- What a text gives, by its lines. -/
structure IsRead (s : String) (ls : List Line) : Prop where
  /-- The text is read exactly if what is stated for the settings can be read as them. -/
  succeeds_iff : (∃ c, parse s = .ok c) ↔ ∀ k ∈ settings, k.Fits ls
  /-- Each setting is what is stated for it, or else its default. -/
  ok_iff : ∀ c, parse s = .ok c ↔ ∀ k ∈ settings, k.Takes ls (k.get c)
  /-- Texts give the same if they state the same for the settings. -/
  same : ∀ t ms, IsWritten t ms → (∀ k ∈ settings, ∀ x, States ls k.path x ↔ States ms k.path x) →
    (parse s).toOption = (parse t).toOption
  /-- Neither the order nor the spelling matters, nor what is beside the settings. -/
  restated : ∀ t ms, IsWritten t ms →
    Relation.EqvGen (Toml.Restates (settings.map Setting.path)) (Toml.said ls) (Toml.said ms) →
      (parse s).toOption = (parse t).toOption

variable {s : String} {ls : List Line}

theorem parse_eq_ok_iff_takes (h : IsWritten s ls) (c : Config) :
    parse s = .ok c ↔ ∀ k ∈ settings, k.Takes ls (k.get c) := by
  obtain ⟨es, hparse, hes, hstates⟩ := h.exists_entries
  have htables : ∀ name ∈ fields.map (·.name), ∀ x, es.sight? [name] = some x → x = .table :=
    fun name hname x hx => h.tables name hname x ((hstates _ x).mp hx)
  rw [parse_eq_ok_iff, hparse, ← overlays_iff hes htables hstates]
  simp only [Option.some.injEq, exists_eq_left', isDocument_of_tables hes htables, true_and]

/-- What is stated for a setting is stated once. -/
theorem IsWritten.states_unique (h : IsWritten s ls) {p : List String} {x y : Sight}
    (hx : States ls p x) (hy : States ls p y) : x = y := by
  obtain ⟨es, -, -, hstates⟩ := h.exists_entries
  exact Option.some.inj (((hstates p x).mpr hx).symm.trans ((hstates p y).mpr hy))

theorem Setting.Takes.fits (h : IsWritten s ls) {k : Setting} {a : k.kind.Carrier}
    (ha : k.Takes ls a) : k.Fits ls := by
  intro x hx
  rcases ha with ha | ⟨hnone, -⟩
  · exact ⟨_, h.states_unique hx ha, Kind.accepts_value a⟩
  · exact absurd hx (hnone x)

theorem Setting.Fits.exists_takes (h : IsWritten s ls) {k : Setting} (hk : k.Fits ls) :
    ∃ a, k.Takes ls a := by
  obtain ⟨es, -, hes, hstates⟩ := h.exists_entries
  cases hitem : (Item.table .stated es).at? k.path with
  | none =>
    refine ⟨k.get {}, Or.inr ⟨fun x hx => ?_, rfl⟩⟩
    have hsight := (hstates _ x).mpr hx
    rw [Toml.Entries.sight?, Item.sight?, hitem] at hsight
    cases hsight
  | some item =>
    have hsight : es.sight? k.path = some item.sight := congrArg (Option.map Item.sight) hitem
    have hx := (hstates _ _).mp hsight
    obtain ⟨v, hv, haccepts⟩ := hk _ hx
    have hvalue : valueOf item = v := (Item.sight_eq_value_iff haccepts.isScalar).mp hv
    have hformed := Item.isWellFormed_of_at?
      ((Toml.Entries.isWellFormed_table_iff .stated).mpr hes) hitem
    obtain ⟨a, rfl⟩ := Kind.exists_eq_value (hvalue ▸ hformed) haccepts
    exact ⟨a, Or.inl (hv ▸ hx)⟩

/-- A configuration with given settings. -/
theorem exists_of_settings {P : (k : Setting) → k.kind.Carrier → Prop}
    (h : ∀ k ∈ settings, ∃ a, P k a) : ∃ c : Config, ∀ k ∈ settings, P k (k.get c) := by
  simp only [settings, List.forall_mem_cons, List.not_mem_nil, false_imp_iff, implies_true,
    and_true] at h ⊢
  obtain ⟨⟨a₁, h₁⟩, ⟨a₂, h₂⟩, ⟨a₃, h₃⟩, ⟨a₄, h₄⟩, ⟨a₅, h₅⟩, ⟨a₆, h₆⟩, ⟨a₇, h₇⟩, ⟨a₈, h₈⟩, ⟨a₉, h₉⟩,
    ⟨a₁₀, h₁₀⟩, ⟨a₁₁, h₁₁⟩⟩ := h
  exact ⟨⟨⟨a₁, a₂, a₃, a₄⟩, ⟨a₅⟩, ⟨a₆, a₇, a₈⟩, ⟨a₉, a₁₀, a₁₁⟩⟩,
    h₁, h₂, h₃, h₄, h₅, h₆, h₇, h₈, h₉, h₁₀, h₁₁⟩

theorem toOption_parse_congr {t : String} {ms : List Line} (h : IsWritten s ls)
    (ht : IsWritten t ms) (hsame : ∀ k ∈ settings, ∀ x, States ls k.path x ↔ States ms k.path x) :
    (parse s).toOption = (parse t).toOption := by
  have htakes (k : Setting) (hk : k ∈ settings) (a : k.kind.Carrier) :
      k.Takes ls a ↔ k.Takes ms a := by
    simp only [Setting.Takes, hsame k hk]
  refine Option.ext fun c => ?_
  rw [toOption_eq_some_iff, toOption_eq_some_iff, parse_eq_ok_iff_takes h, parse_eq_ok_iff_takes ht]
  exact forall₂_congr fun k hk => htakes k hk _

/-- A text is read setting by setting. -/
theorem isRead_of_isWritten (h : IsWritten s ls) : IsRead s ls where
  succeeds_iff := by
    simp only [parse_eq_ok_iff_takes h]
    constructor
    · rintro ⟨c, hc⟩ k hk
      exact (hc k hk).fits h
    · exact fun hfits => exists_of_settings fun k hk => (hfits k hk).exists_takes h
  ok_iff := parse_eq_ok_iff_takes h
  same _ _ ht hsame := toOption_parse_congr h ht hsame
  restated _ _ ht hrestates :=
    toOption_parse_congr h ht fun _ hk =>
      Toml.shows_iff_of_eqvGen hrestates (List.mem_map_of_mem hk)

/-- A document with headers, and one with dotted keys, an inline table and more besides. -/
theorem isRead_of_isWritten_spellings :
    let headers := "[source]\nbase_url = \"http://h/\"\n\n[refresh]\ninterval_ms = 9\n"
    let dotted := "theme = 'dark'\nrefresh = \x7b interval_ms = 9, jitter = [1] \x7d\n" ++
      "source.base_url = 'http://h/'\n[[extra]]\nsource = 1\n"
    let c : Config := { source.baseUrl := "http://h/", refresh.intervalMs := 9 }
    ∃ ls ms, IsWritten headers ls ∧ IsWritten dotted ms ∧ parse headers = .ok c ∧
      parse dotted = .ok c ∧ ∀ k ∈ settings, k.Takes ls (k.get c) ∧ k.Takes ms (k.get c) := by
  intro headers dotted c
  obtain ⟨ls, hheaders⟩ := exists_isWritten headers (by decide +kernel)
  obtain ⟨ms, hdotted⟩ := exists_isWritten dotted (by decide +kernel)
  have hparse : parse headers = .ok c := toOption_eq_some_iff.mp (by decide +kernel)
  have hparse' : parse dotted = .ok c := toOption_eq_some_iff.mp (by decide +kernel)
  refine ⟨ls, ms, hheaders, hdotted, hparse, hparse', fun k hk => ⟨?_, ?_⟩⟩
  · exact ((isRead_of_isWritten hheaders).ok_iff c).mp hparse k hk
  · exact ((isRead_of_isWritten hdotted).ok_iff c).mp hparse' k hk

end Config

end StatusBoard
