import Mathlib.Data.List.Forall2
import StatusBoard.Proofs.Config.Validity

/-!
The checks on a configuration one by one: when each is violated, what is told of it, and which
settings it looks at. The violations that are told are those of the violated checks, one for each,
in the order of the checks, so that what is told of some checks is a matter of the settings that
these checks look at.
-/
namespace StatusBoard

/-- The setting that a violation names. -/
def Violation.setting : Violation → String
  | .invalidBaseUrl _ => "source.base_url"
  | .emptyStatusPath => "source.status_path"
  | .invalidStatusPath _ => "source.status_path"
  | .zero setting => setting
  | .invalidAddress setting _ => setting
  | .invalidLogLevel _ => "observability.log_level"

namespace Config

/-- The checks, each for one setting. -/
inductive Check where
  | baseUrl
  | statusPath
  | timeout
  | interval
  | bindAddress
  | requestTimeout
  | metricsAddress
  | logLevel
deriving DecidableEq

namespace Check

/-- The order in which violations are told. -/
def all : List Check :=
  [.baseUrl, .statusPath, .timeout, .interval, .bindAddress, .requestTimeout, .metricsAddress,
    .logLevel]

def setting : Check → String
  | .baseUrl => "source.base_url"
  | .statusPath => "source.status_path"
  | .timeout => "source.timeout_ms"
  | .interval => "refresh.interval_ms"
  | .bindAddress => "server.bind_address"
  | .requestTimeout => "server.request_timeout_secs"
  | .metricsAddress => "observability.metrics_address"
  | .logLevel => "observability.log_level"

/-- Two configurations agree in the settings that a check looks at. The address and the timeout of a
server are looked at only if the server is on, and so is the address for measurements. -/
def AgreeOn (c d : Config) : Check → Prop
  | .baseUrl => c.source.baseUrl = d.source.baseUrl
  | .statusPath =>
    c.source.baseUrl = d.source.baseUrl ∧ c.source.statusPath = d.source.statusPath
  | .timeout => c.source.timeoutMs = d.source.timeoutMs
  | .interval => c.refresh.intervalMs = d.refresh.intervalMs
  | .bindAddress =>
    c.server.enabled = d.server.enabled ∧
      (c.server.enabled = true → c.server.bindAddress = d.server.bindAddress)
  | .requestTimeout =>
    c.server.enabled = d.server.enabled ∧
      (c.server.enabled = true → c.server.requestTimeoutSecs = d.server.requestTimeoutSecs)
  | .metricsAddress =>
    c.observability.metricsEnabled = d.observability.metricsEnabled ∧
      (c.observability.metricsEnabled = true →
        c.observability.metricsAddress = d.observability.metricsAddress)
  | .logLevel => c.observability.logLevel = d.observability.logLevel

theorem mem_all (k : Check) : k ∈ all := by
  cases k <;> decide

theorem setting_inj {k l : Check} (h : k.setting = l.setting) : k = l := by
  revert h
  cases k <;> cases l <;> decide

end Check

/-- When a configuration violates a check, and what is told of it. A status path has to resolve only
against a base that is a URL, of whatever scheme. -/
def Violates (c : Config) : Check → Violation → Prop
  | .baseUrl, v =>
    (¬ ∃ u, Url.parse c.source.baseUrl = .ok u ∧ u.IsHttp) ∧
      v = .invalidBaseUrl c.source.baseUrl
  | .statusPath, v =>
    (∀ x ∈ c.source.statusPath.toList, Text.isBlank x = true) ∧ v = .emptyStatusPath ∨
      ((∃ x ∈ c.source.statusPath.toList, Text.isBlank x = false) ∧
        (∃ u, Url.parse c.source.baseUrl = .ok u) ∧
        ∃ e, statusUrl c.source.baseUrl c.source.statusPath = .error e) ∧
        v = .invalidStatusPath c.source.statusPath
  | .timeout, v => c.source.timeoutMs = 0 ∧ v = .zero "source.timeout_ms"
  | .interval, v => c.refresh.intervalMs = 0 ∧ v = .zero "refresh.interval_ms"
  | .bindAddress, v =>
    c.server.enabled = true ∧ SocketAddress.parse? c.server.bindAddress = none ∧
      v = .invalidAddress "server.bind_address" c.server.bindAddress
  | .requestTimeout, v =>
    c.server.enabled = true ∧ c.server.requestTimeoutSecs = 0 ∧
      v = .zero "server.request_timeout_secs"
  | .metricsAddress, v =>
    c.observability.metricsEnabled = true ∧
      SocketAddress.parse? c.observability.metricsAddress = none ∧
      v = .invalidAddress "observability.metrics_address" c.observability.metricsAddress
  | .logLevel, v =>
    (∀ level ∈ ["trace", "debug", "info", "warn", "error"],
      Text.asciiLower c.observability.logLevel ≠ Text.asciiLower level) ∧
      v = .invalidLogLevel c.observability.logLevel

/-- The violations of exactly the violated checks, each once and in order. -/
def Lists (c : Config) (vs : List Violation) : Prop :=
  ∃ ks : List Check, ks.Sublist Check.all ∧ (∀ k, k ∈ ks ↔ ∃ v, c.Violates k v) ∧
    List.Forall₂ c.Violates ks vs

/-- What is told of some of the checks. -/
def violationsOf (c : Config) (ks : List Check) : List Violation :=
  match c.validate with
  | .ok () => []
  | .error vs => vs.filter fun v => v.setting ∈ ks.map Check.setting

/-- What is told of a check. -/
def told (c : Config) : Check → List Violation
  | .baseUrl => check (Url.isHttpText c.source.baseUrl) (.invalidBaseUrl c.source.baseUrl)
  | .statusPath => statusPathViolations c.source
  | .timeout => check (c.source.timeoutMs != 0) (.zero "source.timeout_ms")
  | .interval => check (c.refresh.intervalMs != 0) (.zero "refresh.interval_ms")
  | .bindAddress =>
    if c.server.enabled then
      check (isAddress c.server.bindAddress)
        (.invalidAddress "server.bind_address" c.server.bindAddress)
    else []
  | .requestTimeout =>
    if c.server.enabled then
      check (c.server.requestTimeoutSecs != 0) (.zero "server.request_timeout_secs")
    else []
  | .metricsAddress =>
    if c.observability.metricsEnabled then
      check (isAddress c.observability.metricsAddress)
        (.invalidAddress "observability.metrics_address" c.observability.metricsAddress)
    else []
  | .logLevel =>
    check (logLevels.contains (Text.asciiLower c.observability.logLevel))
      (.invalidLogLevel c.observability.logLevel)

theorem violations_eq_flatMap (c : Config) : c.violations = Check.all.flatMap c.told := by
  unfold violations
  cases hserver : c.server.enabled <;> cases hmetrics : c.observability.metricsEnabled <;>
    simp [Check.all, told, hserver, hmetrics]

variable {c d : Config} {k : Check} {v : Violation}

theorem isBlankText_eq_true_iff (s : String) :
    Text.isBlankText s = true ↔ ∀ x ∈ s.toList, Text.isBlank x = true :=
  List.all_eq_true

theorem isBlankText_eq_false_iff (s : String) :
    Text.isBlankText s = false ↔ ∃ x ∈ s.toList, Text.isBlank x = false := by
  rw [Text.isBlankText, List.all_eq_false]
  simp only [Bool.not_eq_true]

theorem resolves_eq_false_iff (baseUrl statusPath : String) :
    resolves baseUrl statusPath = false ↔
      (∃ u, Url.parse baseUrl = .ok u) ∧ ∃ e, statusUrl baseUrl statusPath = .error e := by
  unfold resolves
  cases Url.parse baseUrl with
  | error e => simp
  | ok u => cases statusUrl baseUrl statusPath <;> simp

theorem mem_statusPathViolations_iff :
    v ∈ statusPathViolations c.source ↔ c.Violates .statusPath v := by
  unfold statusPathViolations Violates
  rw [← isBlankText_eq_true_iff, ← isBlankText_eq_false_iff, ← resolves_eq_false_iff]
  cases Text.isBlankText c.source.statusPath with
  | true => simp
  | false => simp [mem_check]

theorem isAddress_eq_false_iff (s : String) :
    isAddress s = false ↔ SocketAddress.parse? s = none := by
  rw [isAddress, Option.isSome_eq_false_iff, Option.isNone_iff_eq_none]

theorem contains_level_eq_false_iff (level : String) :
    logLevels.contains (Text.asciiLower level) = false ↔
      ∀ l ∈ ["trace", "debug", "info", "warn", "error"],
        Text.asciiLower level ≠ Text.asciiLower l := by
  have hlower : ∀ l ∈ logLevels, Text.asciiLower l = l := by decide
  rw [Bool.eq_false_iff, ne_eq, List.contains_iff_mem]
  constructor
  · intro h l hl heq
    rw [hlower l hl] at heq
    exact h (heq ▸ hl)
  · intro h hmem
    exact h _ hmem (hlower _ hmem).symm

/-- What is told are the violations. -/
theorem mem_told_iff : v ∈ c.told k ↔ c.Violates k v := by
  cases k with
  | baseUrl => rw [told, Violates, mem_check, Bool.eq_false_iff, ne_eq, Url.isHttpText_iff]
  | statusPath => exact mem_statusPathViolations_iff
  | timeout | interval => rw [told, Violates, mem_check, bne_eq_false_iff_eq]
  | bindAddress | metricsAddress =>
    rw [told, Violates, List.mem_ite_nil_right, mem_check, isAddress_eq_false_iff]
  | requestTimeout =>
    rw [told, Violates, List.mem_ite_nil_right, mem_check, bne_eq_false_iff_eq]
  | logLevel => rw [told, Violates, mem_check, contains_level_eq_false_iff]

theorem length_check (ok : Bool) (v : Violation) : (check ok v).length ≤ 1 := by
  cases ok <;> simp [check]

theorem length_told (c : Config) (k : Check) : (c.told k).length ≤ 1 := by
  cases k with
  | baseUrl | timeout | interval | logLevel => exact length_check _ _
  | statusPath =>
    rw [told, statusPathViolations]
    split
    · exact Nat.le_refl 1
    · exact length_check _ _
  | bindAddress | requestTimeout | metricsAddress =>
    rw [told]
    split
    · exact length_check _ _
    · exact Nat.zero_le 1

/-- A check that holds tells nothing, and a violated one tells one thing. -/
theorem told_cases (c : Config) (k : Check) :
    c.told k = [] ∧ (∀ v, ¬ c.Violates k v) ∨ ∃ v, c.told k = [v] ∧ c.Violates k v := by
  cases htold : c.told k with
  | nil =>
    refine Or.inl ⟨rfl, fun v hv => ?_⟩
    rw [← mem_told_iff, htold] at hv
    exact List.not_mem_nil hv
  | cons v rest =>
    have hlength := length_told c k
    rw [htold, List.length_cons, Nat.succ_le_succ_iff, Nat.le_zero, List.length_eq_zero_iff]
      at hlength
    subst hlength
    exact Or.inr ⟨v, rfl, mem_told_iff.mp (htold ▸ List.mem_singleton_self v)⟩

theorem told_ne_nil_iff : c.told k ≠ [] ↔ ∃ v, c.Violates k v := by
  rcases told_cases c k with ⟨htold, hv⟩ | ⟨v, htold, hv⟩
  · simp [htold, hv]
  · simp only [htold, ne_eq, List.cons_ne_self, not_false_eq_true, true_iff]
    exact ⟨v, hv⟩

theorem forall₂_violates (c : Config) (ks : List Check) :
    List.Forall₂ c.Violates (ks.filter fun k => c.told k ≠ []) (ks.flatMap c.told) := by
  induction ks with
  | nil => exact .nil
  | cons k rest ih =>
    rw [List.flatMap_cons]
    rcases told_cases c k with ⟨htold, -⟩ | ⟨v, htold, hv⟩
    · rw [List.filter_cons_of_neg (by simp [htold]), htold]
      exact ih
    · rw [List.filter_cons_of_pos (by simp [htold]), htold]
      exact .cons hv ih

theorem lists_violations (c : Config) : c.Lists c.violations := by
  refine ⟨Check.all.filter fun k => c.told k ≠ [], List.filter_sublist, fun k => ?_, ?_⟩
  · rw [List.mem_filter, decide_eq_true_iff, told_ne_nil_iff]
    exact and_iff_right k.mem_all
  · rw [violations_eq_flatMap]
    exact forall₂_violates c Check.all

theorem violations_eq_nil_iff (c : Config) : c.violations = [] ↔ ∀ k v, ¬ c.Violates k v := by
  rw [violations_eq_flatMap, List.flatMap_eq_nil_iff]
  constructor
  · intro h k v hv
    rw [← mem_told_iff, h k k.mem_all] at hv
    exact List.not_mem_nil hv
  · intro h k _
    by_contra htold
    obtain ⟨v, hv⟩ := told_ne_nil_iff.mp htold
    exact h k v hv

/-- A check looks at its own settings only. -/
theorem told_congr (h : k.AgreeOn c d) : c.told k = d.told k := by
  cases k with
  | baseUrl => rw [told, told, show c.source.baseUrl = d.source.baseUrl from h]
  | statusPath =>
    rw [told, told, statusPathViolations, statusPathViolations, h.1, h.2]
  | timeout => rw [told, told, show c.source.timeoutMs = d.source.timeoutMs from h]
  | interval => rw [told, told, show c.refresh.intervalMs = d.refresh.intervalMs from h]
  | bindAddress | requestTimeout | metricsAddress =>
    rw [told, told, ← h.1]
    refine ite_congr rfl (fun henabled => ?_) fun _ => rfl
    rw [h.2 henabled]
  | logLevel => rw [told, told, show c.observability.logLevel = d.observability.logLevel from h]

theorem setting_of_violates (h : c.Violates k v) : v.setting = k.setting := by
  cases k with
  | statusPath =>
    rcases h with h | h
    · rw [h.2, Violation.setting, Check.setting]
    · rw [h.2, Violation.setting, Check.setting]
  | baseUrl | timeout | interval | logLevel => rw [h.2, Violation.setting, Check.setting]
  | bindAddress | requestTimeout | metricsAddress =>
    rw [h.2.2, Violation.setting, Check.setting]

/-- A violation is told if and only if the check of its setting is violated in this way. -/
theorem mem_violations_iff (k : Check) (hsetting : v.setting = k.setting) :
    v ∈ c.violations ↔ c.Violates k v := by
  rw [violations_eq_flatMap, List.mem_flatMap]
  constructor
  · rintro ⟨l, -, hl⟩
    have hv := mem_told_iff.mp hl
    rwa [← Check.setting_inj ((setting_of_violates hv).symm.trans hsetting)]
  · intro hv
    exact ⟨k, k.mem_all, mem_told_iff.mpr hv⟩

theorem setting_mem_iff (h : c.Violates k v) (ks : List Check) :
    v.setting ∈ ks.map Check.setting ↔ k ∈ ks := by
  rw [setting_of_violates h, List.mem_map]
  constructor
  · rintro ⟨l, hl, hsetting⟩
    rwa [← Check.setting_inj hsetting]
  · intro hk
    exact ⟨k, hk, rfl⟩

/-- What is told of some checks is what these checks tell. -/
theorem violationsOf_eq_flatMap (c : Config) (ks : List Check) :
    c.violationsOf ks = (Check.all.filter (· ∈ ks)).flatMap c.told := by
  have hfilter : c.violationsOf ks =
      c.violations.filter fun v => v.setting ∈ ks.map Check.setting := by
    unfold violationsOf validate
    cases c.violations <;> rfl
  rw [hfilter, violations_eq_flatMap]
  induction Check.all with
  | nil => rfl
  | cons k rest ih =>
    rw [List.flatMap_cons, List.filter_append, ih]
    by_cases hk : k ∈ ks
    · rw [List.filter_cons_of_pos (by simpa using hk), List.flatMap_cons]
      refine congrArg (· ++ _) (List.filter_eq_self.mpr fun v hv => ?_)
      exact decide_eq_true ((setting_mem_iff (mem_told_iff.mp hv) ks).mpr hk)
    · rw [List.filter_cons_of_neg (by simpa using hk)]
      refine List.append_left_eq_self.mpr (List.filter_eq_nil_iff.mpr fun v hv => ?_)
      rw [decide_eq_true_iff, setting_mem_iff (mem_told_iff.mp hv) ks]
      exact hk

theorem violationsOf_congr {ks : List Check} (h : ∀ k ∈ ks, k.AgreeOn c d) :
    c.violationsOf ks = d.violationsOf ks := by
  rw [violationsOf_eq_flatMap, violationsOf_eq_flatMap]
  refine List.flatMap_congr fun k hk => told_congr (h k ?_)
  exact of_decide_eq_true (List.mem_filter.mp hk).2

theorem violations_congr (h : ∀ k : Check, k.AgreeOn c d) : c.violations = d.violations := by
  rw [violations_eq_flatMap, violations_eq_flatMap]
  exact List.flatMap_congr fun k _ => told_congr (h k)

theorem validate_congr (h : ∀ k : Check, k.AgreeOn c d) : c.validate = d.validate := by
  unfold validate
  rw [violations_congr h]

/-- What a configuration can rely on when its checks are made. -/
structure Reported (c : Config) : Prop where
  /-- Nothing is told exactly if no check is violated. -/
  ok_iff : c.validate = .ok () ↔ ∀ k v, ¬ c.Violates k v
  /-- What is told are the violations of exactly the violated checks, in order. -/
  lists : ∀ vs, c.validate = .error vs → vs ≠ [] ∧ c.Lists vs
  /-- What is told of some checks is a matter of their own settings. -/
  own_settings : ∀ (d : Config) (ks : List Check), (∀ k ∈ ks, k.AgreeOn c d) →
    c.violationsOf ks = d.violationsOf ks
  /-- The settings of a server that is off do not matter. -/
  server_off : c.server.enabled = false → ∀ s : ServerConfig, s.enabled = false →
    { c with server := s }.validate = c.validate
  /-- Nor does the address for measurements that are off. -/
  metrics_off : c.observability.metricsEnabled = false → ∀ address : String,
    { c with observability.metricsAddress := address }.validate = c.validate

/-- The violated checks are told, each once and in order, and each goes by its own settings. -/
theorem checks_reported (c : Config) : c.Reported where
  ok_iff := by rw [validate_eq_ok_iff_violations, violations_eq_nil_iff]
  lists vs h := by
    have htold := (validate_eq_error_iff c vs).mp h
    exact ⟨htold.1, htold.2 ▸ c.lists_violations⟩
  own_settings d ks h := violationsOf_congr h
  server_off hserver s hs := by
    refine validate_congr fun k => ?_
    cases k with
    | bindAddress | requestTimeout =>
      exact ⟨hs.trans hserver.symm, fun hon => absurd hon (hs ▸ Bool.false_ne_true)⟩
    | baseUrl | timeout | interval | logLevel => rfl
    | statusPath => exact ⟨rfl, rfl⟩
    | metricsAddress => exact ⟨rfl, fun _ => rfl⟩
  metrics_off hmetrics address := by
    refine validate_congr fun k => ?_
    cases k with
    | metricsAddress => exact ⟨rfl, fun hon => absurd hon (hmetrics ▸ Bool.false_ne_true)⟩
    | baseUrl | timeout | interval | logLevel => rfl
    | statusPath => exact ⟨rfl, rfl⟩
    | bindAddress | requestTimeout => exact ⟨rfl, fun _ => rfl⟩

end Config

end StatusBoard
