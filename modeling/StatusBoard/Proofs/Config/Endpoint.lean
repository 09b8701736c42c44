import StatusBoard.Gateway.Fetcher
import StatusBoard.Proofs.Config.Validity

/-!
What becomes of a valid configuration when a fetcher is made of it. Its endpoint resolves, so that
only the user agent, which no check looks at, can be in the way. The endpoint is one of HTTP like the
base URL, as long as the status path is no URL of another kind by itself.
-/
namespace StatusBoard

/-- The endpoint has the scheme of the base URL, or the status path is that URL by itself. -/
theorem scheme_eq_or_parse_eq_of_statusUrl {baseUrl statusPath : String} {base url : Url}
    (hbase : Url.parse baseUrl = .ok base) (hurl : statusUrl baseUrl statusPath = .ok url) :
    url.scheme = base.scheme ∨ Url.parse statusPath = .ok url := by
  unfold statusUrl at hurl
  rw [hbase] at hurl
  have hjoin := Url.scheme_eq_or_parse_eq_of_join hurl
  rwa [Url.scheme_asDirectory] at hjoin

namespace Config

variable {c : Config} {url : Url}

theorem Valid.isHttp_endpoint (hc : c.Valid)
    (hurl : statusUrl c.source.baseUrl c.source.statusPath = .ok url)
    (hown : ∀ u, Url.parse c.source.statusPath = .ok u → u.IsHttp) : url.IsHttp := by
  obtain ⟨base, hbase, hhttp⟩ := hc.base_url
  rcases scheme_eq_or_parse_eq_of_statusUrl hbase hurl with hsame | hitself
  · unfold Url.IsHttp
    rw [hsame]
    exact hhttp
  · exact hown url hitself

end Config

namespace Gateway.Fetcher

theorem ofConfig_of_statusUrl {s : SourceConfig} {url : Url}
    (hurl : statusUrl s.baseUrl s.statusPath = .ok url) :
    ofConfig s = if Http.isFieldValue s.userAgent then .ok ⟨url, s.timeoutMs.toNat, s.userAgent⟩
      else .error .client := by
  unfold ofConfig
  rw [hurl]

/-- A valid configuration has an endpoint, and its fetcher is made if the user agent is a header
value; if it is none, there is no client, and this is all that can be in the way. -/
theorem ofConfig_of_validate (c : Config) (h : c.validate = .ok ()) :
    ∃ url, statusUrl c.source.baseUrl c.source.statusPath = .ok url ∧
      (Http.isFieldValue c.source.userAgent = true →
        ofConfig c.source = .ok ⟨url, c.source.timeoutMs.toNat, c.source.userAgent⟩) ∧
      (Http.isFieldValue c.source.userAgent = false → ofConfig c.source = .error .client) ∧
      ((∀ u, Url.parse c.source.statusPath = .ok u → u.IsHttp) → url.IsHttp) := by
  have hc := (Config.validate_eq_ok_iff c).mp h
  obtain ⟨url, hurl⟩ := hc.endpoint
  have hfetcher := ofConfig_of_statusUrl hurl
  refine ⟨url, hurl, ?_, ?_, hc.isHttp_endpoint hurl⟩
  · intro hlegal
    rwa [if_pos hlegal] at hfetcher
  · intro hillegal
    rwa [hillegal, if_neg Bool.false_ne_true] at hfetcher

/-- A status path that is a URL of HTTP by itself. -/
theorem ofConfig_of_validate_own_url :
    let c : Config := { source := { statusPath := "https://files.example/status" } }
    c.validate = .ok () ∧ ∃ f, ofConfig c.source = .ok f ∧ f.url.IsHttp := by
  have hviolations :
      Config.violations { source := { statusPath := "https://files.example/status" } } = [] := by
    decide +kernel
  have hpath : Url.isHttpText "https://files.example/status" = true := by
    decide +kernel
  intro c
  have hvalid := (Config.validate_eq_ok_iff_violations c).mpr hviolations
  obtain ⟨url, -, hfetcher, -, hhttp⟩ := ofConfig_of_validate c hvalid
  obtain ⟨own, hown, hownHttp⟩ := (Url.isHttpText_iff _).mp hpath
  refine ⟨hvalid, _, hfetcher (by decide), hhttp ?_⟩
  intro u hu
  rwa [← Except.ok.inj (hown.symm.trans hu)]

/-- Valid, with a line end in the user agent, so that no fetcher is made; and valid, with a status
path that leads to a server of another protocol. -/
theorem valid_without_http_fetcher :
    let broken : Config := { source := { userAgent := "a\nb" } }
    let elsewhere : Config := { source := { statusPath := "ftp://files.example/status" } }
    (broken.validate = .ok () ∧ ¬ ∃ f, ofConfig broken.source = .ok f) ∧
      (elsewhere.validate = .ok () ∧
        ¬ ∃ f, ofConfig elsewhere.source = .ok f ∧ f.url.IsHttp) := by
  have hbroken : Config.violations { source := { userAgent := "a\nb" } } = [] ∧
      (ofConfig { userAgent := "a\nb" }).toOption = none := by
    decide +kernel
  have helsewhere :
      Config.violations { source := { statusPath := "ftp://files.example/status" } } = [] ∧
      (ofConfig { statusPath := "ftp://files.example/status" }).toOption.map (·.url.scheme) =
        some "ftp" := by
    decide +kernel
  intro broken elsewhere
  refine ⟨⟨(Config.validate_eq_ok_iff_violations _).mpr hbroken.1, ?_⟩,
    (Config.validate_eq_ok_iff_violations _).mpr helsewhere.1, ?_⟩
  · rintro ⟨f, hf⟩
    have hnone : (ofConfig broken.source).toOption = none := hbroken.2
    rw [hf] at hnone
    exact Option.some_ne_none f hnone
  · rintro ⟨f, hf, hhttp⟩
    have hftp : (ofConfig elsewhere.source).toOption.map (·.url.scheme) = some "ftp" :=
      helsewhere.2
    rw [hf] at hftp
    have hscheme : f.url.scheme = "ftp" := Option.some.inj hftp
    simp [Url.IsHttp, hscheme] at hhttp

end Gateway.Fetcher

end StatusBoard
