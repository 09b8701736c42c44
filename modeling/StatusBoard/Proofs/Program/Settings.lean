import StatusBoard.Program.Session
import StatusBoard.Proofs.CommandLine.Meaning
import StatusBoard.Proofs.Config.Checks
import StatusBoard.Proofs.Config.Overlay

/-!
Which settings a run goes by. Three of them may come from four places: an option, a variable of the
environment, the file, the defaults, the first of these that has the setting; the others come from
the file or the defaults. Only what comes out is checked, so that what is overridden can neither
help nor harm.
-/
namespace StatusBoard.Program

open Arguments (Item optionText number? Means)

namespace Surroundings

variable (s : Surroundings) (items : List Item)

/-- The text that the options give for a parameter, or else the environment. -/
def text? (p : Parameter) : Option String :=
  (optionText items p).or (s.«variables» p.environmentName)

/-- The configuration of the file that is asked for, setting by setting; the defaults if none is. -/
def FileGives (file : Config) : Prop :=
  match s.text? items .config with
  | none => file = {}
  | some path => ∃ text doc, (s.files path).text = .ok text ∧ Toml.parse text = some doc ∧
      file.Overlays doc

/-- The settings by their places: three of them are overridden where there is a text for them, and
the others are those of the file. -/
structure Overridden (file c : Config) : Prop where
  base_url : c.source.baseUrl = (s.text? items .baseUrl).getD file.source.baseUrl
  /-- A text for the interval is a number. -/
  interval_ms : some c.refresh.intervalMs =
    ((s.text? items .intervalMs).map number?).getD (some file.refresh.intervalMs)
  bind_address : c.server.bindAddress = (s.text? items .bind).getD file.server.bindAddress
  source : c.source = { file.source with baseUrl := c.source.baseUrl }
  refresh : c.refresh = { file.refresh with intervalMs := c.refresh.intervalMs }
  server : c.server = { file.server with bindAddress := c.server.bindAddress }
  observability : c.observability = file.observability

/-- A run that ends with a violation, before anything is done. -/
def Refuses (v : Violation) : Prop :=
  ∃ vs, s.effective = .error (.config (.violated vs)) ∧ v ∈ vs

/-- What the checks make of the settings that are overridden: only the text that overrides counts.
The address is checked where there is a server to listen at it. -/
structure ChecksOverrides (file : Config) : Prop where
  base_url : ∀ text, s.text? items .baseUrl = some text → ∀ u,
    s.Refuses (.invalidBaseUrl u) ↔ Url.isHttpText text = false ∧ u = text
  interval_ms : ∀ text, s.text? items .intervalMs = some text →
    (s.Refuses (.zero "refresh.interval_ms") ↔ number? text = some 0)
  bind_address : ∀ text, s.text? items .bind = some text → ∀ v,
    s.Refuses (.invalidAddress "server.bind_address" v) ↔
      file.server.enabled = true ∧ Config.isAddress text = false ∧ v = text

end Surroundings

/-- What a run does once its settings have passed the checks. -/
def proceed {m : Type → Type} [Monad m] (send : Gateway.Request → m Gateway.Answer) (now : Nat)
    (fresh : String) (s : Surroundings) (x : Session) (a : Arguments) (c : Config) : m Report := do
  let report ← if a.once then once send now c else serve send now fresh c x
  pure (report.filtered (.ofEnvironment (s.«variables» "RUST_LOG") c.observability.logLevel))

/-- A run goes on exactly when nothing is to be said against its settings, and else ends with all
that is to be said. -/
structure GoesBy (s : Surroundings) (a : Arguments) (c : Config) : Prop where
  effective_iff : s.effective = .ok (a, c) ↔ c.validate = .ok ()
  run_valid : c.validate = .ok () → ∀ {m : Type → Type} [Monad m]
    (send : Gateway.Request → m Gateway.Answer) (now : Nat) (fresh : String) (x : Session),
    run send now fresh s x = proceed send now fresh s x a c
  run_violated : ∀ vs, c.validate = .error vs → ∀ {m : Type → Type} [Monad m]
    (send : Gateway.Request → m Gateway.Answer) (now : Nat) (fresh : String) (x : Session),
    run send now fresh s x = pure (.failed (.config (.violated vs)) [])

variable {s : Surroundings} {items : List Item} {a : Arguments} {file c : Config}

namespace Surroundings

/-- With a command line and a file that can be read, only the checks decide. -/
theorem effective_of_parse (ha : Arguments.parse s.«variables» s.words = .ok a)
    (hfile : s.baseConfig a = .ok file) :
    s.effective = match (a.override file).validate with
      | .ok () => .ok (a, a.override file)
      | .error vs => .error (.config (.violated vs)) := by
  have hover : s.overridden a = .ok (a.override file) := by
    rw [overridden, hfile]
    rfl
  unfold effective
  rw [ha]
  simp only [Except.mapError, Bind.bind, Except.bind, hover, Config.checked]
  cases (a.override file).validate <;> rfl

theorem refuses_iff (ha : Arguments.parse s.«variables» s.words = .ok a)
    (hfile : s.baseConfig a = .ok file) (v : Violation) :
    s.Refuses v ↔ v ∈ (a.override file).violations := by
  unfold Refuses
  rw [effective_of_parse ha hfile]
  cases hvalid : (a.override file).validate with
  | ok =>
    have hnone := (Config.validate_eq_ok_iff_violations _).mp hvalid
    simp [hnone]
  | error vs =>
    have hvs := ((Config.validate_eq_error_iff _ _).mp hvalid).2
    simp [← hvs]

theorem fileGives_of_baseConfig (hmeans : Means s.«variables» s.words items a)
    (hfile : s.baseConfig a = .ok file) : s.FileGives items file := by
  have hpath : a.config = s.text? items .config := (hmeans.holds .config).1
  unfold baseConfig at hfile
  unfold FileGives
  rw [← hpath]
  cases hconfig : a.config with
  | none =>
    rw [hconfig] at hfile
    exact (Except.ok.inj hfile).symm
  | some path =>
    rw [hconfig] at hfile
    simp only [Config.read] at hfile
    split at hfile
    · cases hfile
    · rename_i text htext
      have hparse : Config.parse text = .ok file := by
        cases hp : Config.parse text with
        | error e =>
          rw [hp] at hfile
          cases hfile
        | ok c =>
          rw [hp] at hfile
          exact congrArg _ (Except.ok.inj hfile)
      obtain ⟨doc, hdoc, -, hoverlays⟩ := (Config.parse_eq_ok_iff text file).mp hparse
      exact ⟨text, doc, htext, hdoc, hoverlays⟩

/-- A text for the interval is a number, and it is the one that is given. -/
theorem intervalMs_of_means (hmeans : Means s.«variables» s.words items a) :
    (s.text? items .intervalMs).map number? = a.intervalMs.map some :=
  hmeans.holds .intervalMs

theorem overridden_override (hmeans : Means s.«variables» s.words items a) (file : Config) :
    s.Overridden items file (a.override file) where
  base_url := by
    have htext : a.baseUrl = s.text? items .baseUrl := hmeans.holds .baseUrl
    rw [← htext]
    rfl
  interval_ms := by
    rw [intervalMs_of_means hmeans]
    cases hinterval : a.intervalMs <;> simp [Arguments.override, hinterval]
  bind_address := by
    have htext : a.bind = s.text? items .bind := hmeans.holds .bind
    rw [← htext]
    rfl
  source := rfl
  refresh := rfl
  server := rfl
  observability := rfl

theorem checksOverrides (ha : Arguments.parse s.«variables» s.words = .ok a)
    (hfile : s.baseConfig a = .ok file) (hmeans : Means s.«variables» s.words items a) :
    s.ChecksOverrides items file := by
  have hover := overridden_override hmeans file
  constructor
  · intro text htext u
    have hbase : (a.override file).source.baseUrl = text := by
      rw [hover.base_url, htext, Option.getD_some]
    rw [refuses_iff ha hfile, Config.mem_violations_iff .baseUrl rfl, Config.Violates, hbase,
      ← Url.isHttpText_iff, Bool.not_eq_true, Violation.invalidBaseUrl.injEq]
  · intro text htext
    have hinterval : some (a.override file).refresh.intervalMs = number? text := by
      rw [hover.interval_ms, htext, Option.map_some, Option.getD_some]
    rw [refuses_iff ha hfile, Config.mem_violations_iff .interval rfl, Config.Violates,
      and_iff_left rfl, ← hinterval, Option.some.injEq]
  · intro text htext v
    have hbind : (a.override file).server.bindAddress = text := by
      rw [hover.bind_address, htext, Option.getD_some]
    have henabled : (a.override file).server.enabled = file.server.enabled := rfl
    rw [refuses_iff ha hfile, Config.mem_violations_iff .bindAddress rfl, Config.Violates, hbind,
      henabled, ← Config.isAddress_eq_false_iff, Violation.invalidAddress.injEq, and_iff_right rfl]

end Surroundings

theorem goesBy_override (ha : Arguments.parse s.«variables» s.words = .ok a)
    (hfile : s.baseConfig a = .ok file) : GoesBy s a (a.override file) := by
  have heffective := Surroundings.effective_of_parse ha hfile
  constructor
  · rw [heffective]
    cases (a.override file).validate <;> simp
  · intro hvalid m _ send now fresh x
    rw [hvalid] at heffective
    rw [run, heffective]
    rfl
  · intro vs hviolated m _ send now fresh x
    rw [hviolated] at heffective
    rw [run, heffective]

/-- For a command line, an environment and a file that can be read: where the settings in effect
come from, and that they alone decide whether the run goes on. -/
theorem settings_in_effect (s : Surroundings) (a : Arguments) (file : Config)
    (ha : Arguments.parse s.«variables» s.words = .ok a) (hfile : s.baseConfig a = .ok file) :
    ∃ items c, Means s.«variables» s.words items a ∧ s.FileGives items file ∧
      s.Overridden items file c ∧ GoesBy s a c ∧ s.ChecksOverrides items file := by
  obtain ⟨items, hmeans⟩ := Arguments.exists_means_of_parse ha
  exact ⟨items, a.override file, hmeans, Surroundings.fileGives_of_baseConfig hmeans hfile,
    Surroundings.overridden_override hmeans file, goesBy_override ha hfile,
    Surroundings.checksOverrides ha hfile hmeans⟩

/-- A base URL and an interval that are both refused, and both overridden: the URL by an option, the
interval by the environment. -/
theorem settings_in_effect_over_bad_file :
    let s : Surroundings := {
      words := ["--base-url=http://gateway.example/", "-c", "board.toml"]
      «variables» v := if v = "REVOLVER_REFRESH_MS" then some "250" else none
      files _ := .ok
        "[source]\nbase_url = \"gateway\"\n[refresh]\ninterval_ms = 0\n".toUTF8.toList }
    let a : Arguments := {
      config := some "board.toml"
      baseUrl := some "http://gateway.example/"
      intervalMs := some 250 }
    let file : Config := { source := { baseUrl := "gateway" }, refresh := { intervalMs := 0 } }
    Arguments.parse s.«variables» s.words = .ok a ∧ s.baseConfig a = .ok file ∧
      file.violations = [.invalidBaseUrl "gateway", .zero "refresh.interval_ms"] ∧
      s.effective = .ok (a, a.override file) ∧
      ∃ items c, Means s.«variables» s.words items a ∧ s.FileGives items file ∧
        s.Overridden items file c ∧ GoesBy s a c ∧ s.ChecksOverrides items file := by
  intro s a file
  have hparse : Arguments.parse s.«variables» s.words = .ok a :=
    toOption_eq_some_iff.mp (by decide +kernel)
  have hfile : s.baseConfig a = .ok file := toOption_eq_some_iff.mp (by decide +kernel)
  exact ⟨hparse, hfile, by decide +kernel, toOption_eq_some_iff.mp (by decide +kernel),
    settings_in_effect s a file hparse hfile⟩

/-- An address in the file, overridden by a text that is none, where there is no server: nothing is
said against it. -/
theorem bad_address_without_server :
    let s : Surroundings := {
      words := ["-c", "board.toml", "--bind", "nowhere"]
      «variables» _ := none
      files _ := .ok
        "[server]\nenabled = false\nbind_address = \"127.0.0.1:8090\"\n".toUTF8.toList }
    let a : Arguments := { config := some "board.toml", bind := some "nowhere" }
    let file : Config := { server := { enabled := false, bindAddress := "127.0.0.1:8090" } }
    Arguments.parse s.«variables» s.words = .ok a ∧ s.baseConfig a = .ok file ∧
      Config.isAddress file.server.bindAddress = true ∧ Config.isAddress "nowhere" = false ∧
      s.effective = .ok (a, a.override file) ∧
      (a.override file).server.bindAddress = "nowhere" := by
  intro s a file
  exact ⟨toOption_eq_some_iff.mp (by decide +kernel), toOption_eq_some_iff.mp (by decide +kernel),
    by decide +kernel, by decide +kernel, toOption_eq_some_iff.mp (by decide +kernel), rfl⟩

end StatusBoard.Program
