import StatusBoard.Config.Validation
import StatusBoard.Proofs.Url.Scheme

/-!
What the checks ask of a configuration, taken together. A configuration passes them exactly when it
is valid in this sense; the endpoint of a valid one resolves.
-/
namespace StatusBoard.Config

/-- A configuration that there is nothing to say against. -/
structure Valid (c : Config) : Prop where
  base_url : ∃ u, Url.parse c.source.baseUrl = .ok u ∧ u.IsHttp
  status_path : Text.isBlankText c.source.statusPath = false
  endpoint : ∃ url, statusUrl c.source.baseUrl c.source.statusPath = .ok url
  timeout : c.source.timeoutMs ≠ 0
  interval : c.refresh.intervalMs ≠ 0
  server : c.server.enabled = true →
    isAddress c.server.bindAddress = true ∧ c.server.requestTimeoutSecs ≠ 0
  metrics : c.observability.metricsEnabled = true →
    isAddress c.observability.metricsAddress = true
  log_level : Text.asciiLower c.observability.logLevel ∈ logLevels

theorem check_eq_nil_iff (ok : Bool) (v : Violation) : check ok v = [] ↔ ok = true := by
  cases ok with
  | true => exact iff_of_true rfl rfl
  | false => exact iff_of_false (List.cons_ne_nil _ _) Bool.false_ne_true

theorem validate_eq_ok_iff_violations (c : Config) : c.validate = .ok () ↔ c.violations = [] := by
  unfold validate
  split
  · rename_i hnone
    exact iff_of_true rfl hnone
  · rename_i hsome
    exact iff_of_false nofun hsome

/-- Against a base that is a URL a status path has to resolve. -/
theorem statusPathViolations_eq_nil_iff (s : SourceConfig) {base : Url}
    (hbase : Url.parse s.baseUrl = .ok base) :
    statusPathViolations s = [] ↔
      Text.isBlankText s.statusPath = false ∧ ∃ url, statusUrl s.baseUrl s.statusPath = .ok url := by
  unfold statusPathViolations
  cases hblank : Text.isBlankText s.statusPath with
  | true => exact iff_of_false (List.cons_ne_nil _ _) fun h => absurd h.1 nofun
  | false =>
    rw [if_neg Bool.false_ne_true, check_eq_nil_iff]
    unfold resolves
    rw [hbase]
    cases hurl : statusUrl s.baseUrl s.statusPath with
    | error e => simp
    | ok url => simp

theorem validate_eq_ok_iff (c : Config) : c.validate = .ok () ↔ c.Valid := by
  rw [validate_eq_ok_iff_violations]
  simp only [violations, List.append_eq_nil_iff, check_eq_nil_iff, and_assoc, bne_iff_ne,
    List.contains_iff_mem, ite_eq_right_iff]
  constructor
  · rintro ⟨hbase, hpath, htimeout, hinterval, hserver, hmetrics, hlevel⟩
    obtain ⟨base, hparse, hhttp⟩ := (Url.isHttpText_iff _).mp hbase
    obtain ⟨hblank, hendpoint⟩ := (statusPathViolations_eq_nil_iff _ hparse).mp hpath
    exact ⟨⟨base, hparse, hhttp⟩, hblank, hendpoint, htimeout, hinterval, hserver, hmetrics, hlevel⟩
  · intro h
    obtain ⟨base, hparse, -⟩ := h.base_url
    exact ⟨(Url.isHttpText_iff _).mpr h.base_url,
      (statusPathViolations_eq_nil_iff _ hparse).mpr ⟨h.status_path, h.endpoint⟩,
      h.timeout, h.interval, h.server, h.metrics, h.log_level⟩

theorem mem_check {ok : Bool} {v w : Violation} : w ∈ check ok v ↔ ok = false ∧ w = v := by
  cases ok <;> simp [check]

/-- Either nothing is violated, or all that is violated is told. -/
theorem validate_eq_error_iff (c : Config) (vs : List Violation) :
    c.validate = .error vs ↔ vs ≠ [] ∧ vs = c.violations := by
  unfold validate
  split
  · rename_i hnone
    simp [hnone]
  · rename_i hsome
    constructor
    · intro h
      have hvs := Except.error.inj h
      exact ⟨hvs ▸ hsome, hvs.symm⟩
    · intro h
      exact congrArg _ h.2.symm

end StatusBoard.Config
