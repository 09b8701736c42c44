import Mathlib.Data.List.Nodup
import StatusBoard.Config.Decoding
import StatusBoard.Proofs.Record.Filling

/-!
What a document gives for the configuration. A section is a table, or an array in the order of its
settings; each setting is what the section gives for it, or its default if there is no such section
or the section does not give it.
-/
namespace StatusBoard

namespace Toml.Value

/-- What a value gives for a name: by name in a table, by place in an array. -/
def give (names : List String) : Value → String → Option Value
  | .table members, name => members.lookup name
  | .array items, name => (names.zip items).lookup name
  | _, _ => none

/-- A value that gives settings, none of the known ones twice. -/
def IsSection {ρ : Type} (fields : List (Field Value ρ)) : Value → Prop
  | .table members => (Field.known fields (members.map (·.1))).Nodup
  | .array _ | .moment _ => True
  | _ => False

/-- What a section gives for a setting, if the section is there. -/
def setting? {ρ : Type} (fields : List (Field Value ρ)) (v : Option Value) (name : String) :
    Option Value :=
  v.bind fun v => v.give (fields.map (·.name)) name

/-- What becomes of a setting: what is given for it, if that can be read, or its default. -/
def Gives {α : Type} (read : Value → Except Mismatch α) (default : α) : Option Value → α → Prop
  | none, x => x = default
  | some v, x => read v = .ok x

variable {ρ α : Type} {fields : List (Field Value ρ)} {r s : ρ}

theorem record_eq_ok_iff (hcommute : fields.Pairwise Field.Commute)
    (hnames : (fields.map (·.name)).Nodup) (name : String) (v : Value) :
    record name fields r v = .ok s ↔
      v.IsSection fields ∧ Field.Filled (v.give (fields.map (·.name))) fields r s := by
  have hnone : Field.Filled (fun _ => none) fields r s ↔ s = r :=
    Field.filled_none (fun _ _ => rfl) r s
  cases v with
  | table members =>
    have hput := Field.foldlM_put_iff hcommute hnames members ⟨r, []⟩
    simp only [record, map_eq_ok_iff]
    constructor
    · rintro ⟨p, hp, rfl⟩
      obtain ⟨hseen, hnodup, hfilled⟩ := (hput p).mp ⟨hp, List.nodup_nil⟩
      rw [hseen, List.append_nil, List.nodup_reverse] at hnodup
      exact ⟨hnodup, hfilled⟩
    · rintro ⟨hnodup, hfilled⟩
      refine ⟨⟨s, _⟩, ((hput ⟨s, _⟩).mpr ⟨rfl, ?_, hfilled⟩).1, rfl⟩
      rw [List.append_nil, List.nodup_reverse]
      exact hnodup
  | array items =>
    rw [IsSection, true_and]
    exact Field.putInOrder_iff hnames items r s
  | moment literal =>
    rw [IsSection, true_and]
    refine Iff.trans ?_ hnone.symm
    exact ⟨fun h => (Except.ok.inj h).symm, fun h => congrArg _ h.symm⟩
  | string | integer | float | boolean => exact iff_of_false nofun fun h => h.1

/-- A section that is left out gives the defaults. -/
theorem gives_record_iff (hcommute : fields.Pairwise Field.Commute)
    (hnames : (fields.map (·.name)).Nodup) (name : String) (v : Option Value) :
    Gives (record name fields r) r v s ↔
      (∀ d ∈ v, d.IsSection fields) ∧ Field.Filled (setting? fields v) fields r s := by
  cases v with
  | none =>
    have hnone : Field.Filled (fun _ => none) fields r s ↔ s = r :=
      Field.filled_none (fun _ _ => rfl) r s
    refine Iff.trans hnone.symm (iff_and_self.mpr fun _ => ?_)
    simp
  | some v =>
    refine (record_eq_ok_iff hcommute hnames name v).trans (and_congr_left fun _ => ?_)
    simp

/-- A setting comes first. -/
theorem filled_setting {value : String → Option Value} {name : String}
    {read : Value → Except Mismatch α} {set : ρ → α → ρ} {fs : List (Field Value ρ)} {default : α}
    (hdefault : set r default = r) :
    Field.Filled value (setting name read set :: fs) r s ↔
      ∃ x, Gives read default (value name) x ∧ Field.Filled value fs (set r x) s := by
  cases hvalue : value name with
  | none =>
    rw [Field.filled_cons_none hvalue]
    simp [Gives, hdefault]
  | some d =>
    rw [Field.filled_cons_some hvalue]
    simp only [setting, map_eq_ok_iff, Gives]
    constructor
    · rintro ⟨_, ⟨x, hx, rfl⟩, h⟩
      exact ⟨x, hx, h⟩
    · rintro ⟨x, hx, h⟩
      exact ⟨_, ⟨x, hx, rfl⟩, h⟩

end Toml.Value

open Toml (Value)
open Toml.Value (Gives setting? filled_setting)

/-- The section of the source, setting by setting. -/
structure SourceConfig.Overlays (v : Option Value) (c : SourceConfig) : Prop where
  base_url : Gives Value.text ({} : SourceConfig).baseUrl (setting? fields v "base_url") c.baseUrl
  status_path :
    Gives Value.text ({} : SourceConfig).statusPath (setting? fields v "status_path") c.statusPath
  timeout_ms :
    Gives Value.count ({} : SourceConfig).timeoutMs (setting? fields v "timeout_ms") c.timeoutMs
  user_agent :
    Gives Value.text ({} : SourceConfig).userAgent (setting? fields v "user_agent") c.userAgent

namespace SourceConfig

theorem fields_commute : fields.Pairwise Field.Commute := by
  simp only [fields, List.pairwise_cons, List.forall_mem_cons, List.Pairwise.nil,
    List.not_mem_nil, false_imp_iff, implies_true, and_true]
  and_intros <;> exact Field.commute_of_set (fun _ _ => rfl) (fun _ _ => rfl) fun _ _ _ => rfl

theorem gives_iff (v : Option Value) (c : SourceConfig) :
    Gives ofValue {} v c ↔ (∀ d ∈ v, d.IsSection fields) ∧ c.Overlays v := by
  have hnames : (fields.map (·.name)).Nodup := by decide
  rw [ofValue, Value.gives_record_iff fields_commute hnames]
  refine and_congr_right fun _ => ?_
  constructor
  · intro h
    obtain ⟨baseUrl, hbaseUrl, h⟩ := (filled_setting rfl).mp h
    obtain ⟨statusPath, hstatusPath, h⟩ := (filled_setting rfl).mp h
    obtain ⟨timeoutMs, htimeoutMs, h⟩ := (filled_setting rfl).mp h
    obtain ⟨userAgent, huserAgent, rfl⟩ := (filled_setting rfl).mp h
    exact ⟨hbaseUrl, hstatusPath, htimeoutMs, huserAgent⟩
  · intro h
    exact (filled_setting rfl).mpr ⟨_, h.base_url, (filled_setting rfl).mpr ⟨_, h.status_path,
      (filled_setting rfl).mpr ⟨_, h.timeout_ms, (filled_setting rfl).mpr ⟨_, h.user_agent, rfl⟩⟩⟩⟩

end SourceConfig

/-- The section of the refreshing. -/
structure RefreshConfig.Overlays (v : Option Value) (c : RefreshConfig) : Prop where
  interval_ms :
    Gives Value.count ({} : RefreshConfig).intervalMs (setting? fields v "interval_ms") c.intervalMs

namespace RefreshConfig

theorem gives_iff (v : Option Value) (c : RefreshConfig) :
    Gives ofValue {} v c ↔ (∀ d ∈ v, d.IsSection fields) ∧ c.Overlays v := by
  have hcommute : fields.Pairwise Field.Commute := List.pairwise_singleton _ _
  have hnames : (fields.map (·.name)).Nodup := by decide
  rw [ofValue, Value.gives_record_iff hcommute hnames]
  refine and_congr_right fun _ => ?_
  constructor
  · intro h
    obtain ⟨intervalMs, hintervalMs, rfl⟩ := (filled_setting rfl).mp h
    exact ⟨hintervalMs⟩
  · intro h
    exact (filled_setting rfl).mpr ⟨_, h.interval_ms, rfl⟩

end RefreshConfig

/-- The section of the server. -/
structure ServerConfig.Overlays (v : Option Value) (c : ServerConfig) : Prop where
  enabled : Gives Value.flag ({} : ServerConfig).enabled (setting? fields v "enabled") c.enabled
  bind_address :
    Gives Value.text ({} : ServerConfig).bindAddress (setting? fields v "bind_address")
      c.bindAddress
  request_timeout_secs :
    Gives Value.count ({} : ServerConfig).requestTimeoutSecs
      (setting? fields v "request_timeout_secs") c.requestTimeoutSecs

namespace ServerConfig

theorem fields_commute : fields.Pairwise Field.Commute := by
  simp only [fields, List.pairwise_cons, List.forall_mem_cons, List.Pairwise.nil,
    List.not_mem_nil, false_imp_iff, implies_true, and_true]
  and_intros <;> exact Field.commute_of_set (fun _ _ => rfl) (fun _ _ => rfl) fun _ _ _ => rfl

theorem gives_iff (v : Option Value) (c : ServerConfig) :
    Gives ofValue {} v c ↔ (∀ d ∈ v, d.IsSection fields) ∧ c.Overlays v := by
  have hnames : (fields.map (·.name)).Nodup := by decide
  rw [ofValue, Value.gives_record_iff fields_commute hnames]
  refine and_congr_right fun _ => ?_
  constructor
  · intro h
    obtain ⟨enabled, henabled, h⟩ := (filled_setting rfl).mp h
    obtain ⟨bindAddress, hbindAddress, h⟩ := (filled_setting rfl).mp h
    obtain ⟨timeout, htimeout, rfl⟩ := (filled_setting rfl).mp h
    exact ⟨henabled, hbindAddress, htimeout⟩
  · intro h
    exact (filled_setting rfl).mpr ⟨_, h.enabled, (filled_setting rfl).mpr ⟨_, h.bind_address,
      (filled_setting rfl).mpr ⟨_, h.request_timeout_secs, rfl⟩⟩⟩

end ServerConfig

/-- The section of what is logged and measured. -/
structure ObservabilityConfig.Overlays (v : Option Value) (c : ObservabilityConfig) : Prop where
  log_level :
    Gives Value.text ({} : ObservabilityConfig).logLevel (setting? fields v "log_level") c.logLevel
  metrics_enabled :
    Gives Value.flag ({} : ObservabilityConfig).metricsEnabled
      (setting? fields v "metrics_enabled") c.metricsEnabled
  metrics_address :
    Gives Value.text ({} : ObservabilityConfig).metricsAddress
      (setting? fields v "metrics_address") c.metricsAddress

namespace ObservabilityConfig

theorem fields_commute : fields.Pairwise Field.Commute := by
  simp only [fields, List.pairwise_cons, List.forall_mem_cons, List.Pairwise.nil,
    List.not_mem_nil, false_imp_iff, implies_true, and_true]
  and_intros <;> exact Field.commute_of_set (fun _ _ => rfl) (fun _ _ => rfl) fun _ _ _ => rfl

theorem gives_iff (v : Option Value) (c : ObservabilityConfig) :
    Gives ofValue {} v c ↔ (∀ d ∈ v, d.IsSection fields) ∧ c.Overlays v := by
  have hnames : (fields.map (·.name)).Nodup := by decide
  rw [ofValue, Value.gives_record_iff fields_commute hnames]
  refine and_congr_right fun _ => ?_
  constructor
  · intro h
    obtain ⟨logLevel, hlogLevel, h⟩ := (filled_setting rfl).mp h
    obtain ⟨enabled, henabled, h⟩ := (filled_setting rfl).mp h
    obtain ⟨address, haddress, rfl⟩ := (filled_setting rfl).mp h
    exact ⟨hlogLevel, henabled, haddress⟩
  · intro h
    exact (filled_setting rfl).mpr ⟨_, h.log_level, (filled_setting rfl).mpr
      ⟨_, h.metrics_enabled, (filled_setting rfl).mpr ⟨_, h.metrics_address, rfl⟩⟩⟩

end ObservabilityConfig

namespace Config

/-- What a document gives for a section. -/
def section? (doc : Value) (name : String) : Option Value :=
  doc.give (fields.map (·.name)) name

/-- The whole configuration, section by section. -/
structure Overlays (doc : Value) (c : Config) : Prop where
  source : c.source.Overlays (section? doc "source")
  refresh : c.refresh.Overlays (section? doc "refresh")
  server : c.server.Overlays (section? doc "server")
  observability : c.observability.Overlays (section? doc "observability")

/-- A document whose sections are sections. -/
structure IsDocument (doc : Value) : Prop where
  sections : doc.IsSection fields
  source : ∀ d ∈ section? doc "source", d.IsSection SourceConfig.fields
  refresh : ∀ d ∈ section? doc "refresh", d.IsSection RefreshConfig.fields
  server : ∀ d ∈ section? doc "server", d.IsSection ServerConfig.fields
  observability : ∀ d ∈ section? doc "observability", d.IsSection ObservabilityConfig.fields

theorem fields_commute : fields.Pairwise Field.Commute := by
  simp only [fields, List.pairwise_cons, List.forall_mem_cons, List.Pairwise.nil,
    List.not_mem_nil, false_imp_iff, implies_true, and_true]
  and_intros <;> exact Field.commute_of_set (fun _ _ => rfl) (fun _ _ => rfl) fun _ _ _ => rfl

/-- A document gives a configuration exactly when its sections are sections and each of their
settings can be read; the configuration overlays the defaults with them. -/
theorem ofValue_eq_ok_iff (doc : Value) (c : Config) :
    ofValue doc = .ok c ↔ IsDocument doc ∧ c.Overlays doc := by
  have hnames : (fields.map (·.name)).Nodup := by decide
  rw [ofValue, Value.record_eq_ok_iff fields_commute hnames]
  constructor
  · rintro ⟨hdoc, h⟩
    obtain ⟨source, hsource, h⟩ := (filled_setting rfl).mp h
    obtain ⟨refresh, hrefresh, h⟩ := (filled_setting rfl).mp h
    obtain ⟨server, hserver, h⟩ := (filled_setting rfl).mp h
    obtain ⟨observability, hobservability, rfl⟩ := (filled_setting rfl).mp h
    obtain ⟨hsource, hsource'⟩ := (SourceConfig.gives_iff _ _).mp hsource
    obtain ⟨hrefresh, hrefresh'⟩ := (RefreshConfig.gives_iff _ _).mp hrefresh
    obtain ⟨hserver, hserver'⟩ := (ServerConfig.gives_iff _ _).mp hserver
    obtain ⟨hobservability, hobservability'⟩ :=
      (ObservabilityConfig.gives_iff _ _).mp hobservability
    exact ⟨⟨hdoc, hsource, hrefresh, hserver, hobservability⟩,
      ⟨hsource', hrefresh', hserver', hobservability'⟩⟩
  · rintro ⟨⟨hdoc, hsource, hrefresh, hserver, hobservability⟩, h⟩
    have hsource' := (SourceConfig.gives_iff _ _).mpr ⟨hsource, h.source⟩
    have hrefresh' := (RefreshConfig.gives_iff _ _).mpr ⟨hrefresh, h.refresh⟩
    have hserver' := (ServerConfig.gives_iff _ _).mpr ⟨hserver, h.server⟩
    have hobservability' :=
      (ObservabilityConfig.gives_iff _ _).mpr ⟨hobservability, h.observability⟩
    exact ⟨hdoc, (filled_setting rfl).mpr ⟨_, hsource', (filled_setting rfl).mpr ⟨_, hrefresh',
      (filled_setting rfl).mpr ⟨_, hserver', (filled_setting rfl).mpr ⟨_, hobservability', rfl⟩⟩⟩⟩⟩

theorem parse_eq_ok_iff (s : String) (c : Config) :
    parse s = .ok c ↔ ∃ doc, Toml.parse s = some doc ∧ IsDocument doc ∧ c.Overlays doc := by
  unfold parse
  cases Toml.parse s with
  | none => simp
  | some doc => simp [ofValue_eq_ok_iff]

end Config

end StatusBoard
