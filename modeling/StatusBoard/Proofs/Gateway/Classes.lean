import StatusBoard.Gateway.Fetcher
import StatusBoard.Poller.Basic
import StatusBoard.Proofs.Snapshot.Acceptance
import StatusBoard.Proofs.Url.Scheme

/-!
What a fetch makes of the gateway's answers. Redirects are followed to a final answer, and what is
fetched depends on this answer alone: first on its status, then on the transfer of its body, then on
the body. Each class of answers has its own result, and only a status document makes a pass.
-/
namespace StatusBoard

namespace Gateway

/-- Whether an address is asked for over HTTP, plain or secured. -/
def IsAsked (address : String) : Prop :=
  ∃ u, Url.parse address = .ok u ∧ u.IsHttp

/-- The answers of a gateway lead from an address to a final answer, with a number of redirects
left. A redirect beyond that number is a failure, and so is one that leads away from HTTP. -/
inductive Settles {σ : Type} (send : Request → StateM σ Answer) (userAgent : String) :
    Nat → String → σ → Answer → σ → Prop
  | unasked {left : Nat} {address : String} {s : σ} (hasked : ¬ IsAsked address) :
      Settles send userAgent left address s (.failed .other) s
  | failed {left : Nat} {address : String} {s t : σ} {f : Failure}
      (hasked : IsAsked address)
      (hsend : (send ⟨address, userAgent⟩).run s = (.failed f, t)) :
      Settles send userAgent left address s (.failed f) t
  | final {left : Nat} {address : String} {s t : σ} {r : Response}
      (hasked : IsAsked address)
      (hsend : (send ⟨address, userAgent⟩).run s = (.response r, t))
      (hstay : Fetcher.redirect? address r = none) :
      Settles send userAgent left address s (.response r) t
  | exhausted {address next : String} {s t : σ} {r : Response}
      (hasked : IsAsked address)
      (hsend : (send ⟨address, userAgent⟩).run s = (.response r, t))
      (hnext : Fetcher.redirect? address r = some next) :
      Settles send userAgent 0 address s (.failed .other) t
  | redirected {left : Nat} {address next : String} {s t u : σ} {r : Response} {a : Answer}
      (hasked : IsAsked address)
      (hsend : (send ⟨address, userAgent⟩).run s = (.response r, t))
      (hnext : Fetcher.redirect? address r = some next)
      (hrest : Settles send userAgent left next t a u) :
      Settles send userAgent (left + 1) address s a u

section Settling

variable {σ α β : Type} {send : Request → StateM σ Answer} {userAgent : String}

theorem run_bind_of_run {x : StateM σ α} {f : α → StateM σ β} {s t : σ} {a : α}
    (h : x.run s = (a, t)) : (x >>= f).run s = (f a).run t := by
  rw [StateT.run_bind, h]
  rfl

theorem run_exchange_of_settles {left : Nat} {address : String} {s t : σ} {a : Answer}
    (h : Settles send userAgent left address s a t) :
    (Fetcher.exchange send userAgent left address).run s = (a, t) := by
  have htext {address : String} : IsAsked address ↔ Url.isHttpText address = true :=
    (Url.isHttpText_iff address).symm
  induction h with
  | unasked hasked =>
    rw [Fetcher.exchange, Bool.eq_false_iff.mpr (mt htext.mpr hasked)]
    rfl
  | failed hasked hsend =>
    rw [Fetcher.exchange, htext.mp hasked]
    exact run_bind_of_run hsend
  | final hasked hsend hstay =>
    rw [Fetcher.exchange, htext.mp hasked]
    refine (run_bind_of_run hsend).trans ?_
    dsimp only
    rw [hstay]
    rfl
  | exhausted hasked hsend hnext =>
    rw [Fetcher.exchange, htext.mp hasked]
    refine (run_bind_of_run hsend).trans ?_
    dsimp only
    rw [hnext]
    rfl
  | redirected hasked hsend hnext _ ih =>
    rw [Fetcher.exchange, htext.mp hasked]
    refine (run_bind_of_run hsend).trans ?_
    dsimp only
    rw [hnext]
    exact ih

/-- The answer to a request is final, or it is a redirect. -/
theorem settles_or_redirects (address : String) (s : σ) :
    (∃ a t, ∀ left, Settles send userAgent left address s a t) ∨
      ∃ r t next, IsAsked address ∧
        (send ⟨address, userAgent⟩).run s = (.response r, t) ∧
        Fetcher.redirect? address r = some next := by
  by_cases hasked : IsAsked address
  · rcases hsend : (send ⟨address, userAgent⟩).run s with ⟨answer, t⟩
    cases answer with
    | failed f => exact Or.inl ⟨_, _, fun _ => .failed hasked hsend⟩
    | response r =>
      cases hnext : Fetcher.redirect? address r with
      | none => exact Or.inl ⟨_, _, fun _ => .final hasked hsend hnext⟩
      | some next => exact Or.inr ⟨r, t, next, hasked, rfl, hnext⟩
  · exact Or.inl ⟨_, _, fun _ => .unasked hasked⟩

/-- Every exchange comes to an end. -/
theorem exists_settles (left : Nat) (address : String) (s : σ) :
    ∃ a t, Settles send userAgent left address s a t := by
  induction left generalizing address s with
  | zero =>
    rcases settles_or_redirects address s with ⟨a, t, h⟩ | ⟨r, t, next, hasked, hsend, hnext⟩
    · exact ⟨a, t, h 0⟩
    · exact ⟨_, t, .exhausted hasked hsend hnext⟩
  | succ left ih =>
    rcases settles_or_redirects address s with ⟨a, t, h⟩ | ⟨r, t, next, hasked, hsend, hnext⟩
    · exact ⟨a, t, h (left + 1)⟩
    · obtain ⟨a, u, hrest⟩ := ih next t
      exact ⟨a, u, .redirected hasked hsend hnext hrest⟩

end Settling

namespace Answer

/-- A response of success whose body was read as these bytes. -/
def Delivers (a : Answer) (bytes : List UInt8) : Prop :=
  ∃ r, a = .response r ∧ (200 ≤ r.status ∧ r.status ≤ 299) ∧ r.body = .ok bytes

/-- The transfer came to nothing, before the head of a response or in the body of one of success. -/
def Breaks (a : Answer) (f : Failure) : Prop :=
  a = .failed f ∨
    ∃ r, a = .response r ∧ (200 ≤ r.status ∧ r.status ≤ 299) ∧ r.body = .error f

/-- A response of another status than success. -/
def Declines (a : Answer) (code : Nat) : Prop :=
  ∃ r, a = .response r ∧ r.status = code ∧ ¬ (200 ≤ code ∧ code ≤ 299)

/-- What is fetched when an answer is the final one: exactly one result for each class of
answers. -/
structure FetchedAs (timeoutMs : Nat) (a : Answer) (x : Except FetchError Snapshot) : Prop where
  ok_iff : ∀ s, x = .ok s ↔
    ∃ bytes, a.Delivers bytes ∧ ∃ d, Json.IsDocument d bytes ∧ Snapshot.Conforms d s
  decode_iff : ∀ m, x = .error (.decode m) ↔
    ∃ bytes, a.Delivers bytes ∧ Snapshot.decode bytes = .error m
  status_iff : ∀ code, x = .error (.status code) ↔ a.Declines code
  timeout_iff : ∀ ms, x = .error (.timeout ms) ↔ a.Breaks .timeout ∧ ms = timeoutMs
  transport_iff : x = .error .transport ↔ a.Breaks .other

variable {f : Failure} {r : Response} {bytes : List UInt8} {code : Nat}

theorem not_delivers_failed : ¬ (failed f).Delivers bytes := by
  rintro ⟨r, ha, -⟩
  exact Answer.noConfusion ha

theorem not_declines_failed : ¬ (failed f).Declines code := by
  rintro ⟨r, ha, -⟩
  exact Answer.noConfusion ha

theorem breaks_failed_iff {g : Failure} : (failed f).Breaks g ↔ f = g := by
  constructor
  · rintro (ha | ⟨r, ha, -⟩)
    · exact Answer.failed.inj ha
    · exact Answer.noConfusion ha
  · rintro rfl
    exact Or.inl rfl

theorem delivers_response_iff :
    (response r).Delivers bytes ↔ (200 ≤ r.status ∧ r.status ≤ 299) ∧ r.body = .ok bytes := by
  constructor
  · rintro ⟨_, ⟨⟩, h⟩
    exact h
  · intro h
    exact ⟨r, rfl, h⟩

theorem breaks_response_iff :
    (response r).Breaks f ↔ (200 ≤ r.status ∧ r.status ≤ 299) ∧ r.body = .error f := by
  constructor
  · rintro (ha | ⟨_, ⟨⟩, h⟩)
    · exact Answer.noConfusion ha
    · exact h
  · intro h
    exact Or.inr ⟨r, rfl, h⟩

theorem declines_response_iff :
    (response r).Declines code ↔ r.status = code ∧ ¬ (200 ≤ r.status ∧ r.status ≤ 299) := by
  constructor
  · rintro ⟨_, ⟨⟩, rfl, h⟩
    exact ⟨rfl, h⟩
  · rintro ⟨rfl, h⟩
    exact ⟨r, rfl, rfl, h⟩

theorem isSuccess_iff (status : Nat) :
    Response.isSuccess status = true ↔ 200 ≤ status ∧ status ≤ 299 := by
  rw [Response.isSuccess, Bool.and_eq_true, decide_eq_true_iff, decide_eq_true_iff,
    Nat.lt_succ_iff]

theorem fetchedAs_failed (timeoutMs : Nat) (f : Failure) :
    (failed f).FetchedAs timeoutMs (.error (f.toError timeoutMs)) where
  ok_iff s := by simp [not_delivers_failed]
  decode_iff m := by cases f <;> simp [Failure.toError, not_delivers_failed]
  status_iff code := by cases f <;> simp [Failure.toError, not_declines_failed]
  timeout_iff ms := by cases f <;> simp [Failure.toError, breaks_failed_iff, eq_comm]
  transport_iff := by cases f <;> simp [Failure.toError, breaks_failed_iff]

theorem fetchedAs_declined (timeoutMs : Nat) (h : ¬ (200 ≤ r.status ∧ r.status ≤ 299)) :
    (response r).FetchedAs timeoutMs (.error (.status r.status)) where
  ok_iff s := by simp [delivers_response_iff, h]
  decode_iff m := by simp [delivers_response_iff, h]
  status_iff code := by simp [declines_response_iff, h]
  timeout_iff ms := by simp [breaks_response_iff, h]
  transport_iff := by simp [breaks_response_iff, h]

theorem fetchedAs_broken (timeoutMs : Nat) (h : 200 ≤ r.status ∧ r.status ≤ 299)
    (hbody : r.body = .error f) :
    (response r).FetchedAs timeoutMs (.error (f.toError timeoutMs)) where
  ok_iff s := by simp [delivers_response_iff, hbody]
  decode_iff m := by cases f <;> simp [Failure.toError, delivers_response_iff, hbody]
  status_iff code := by cases f <;> simp [Failure.toError, declines_response_iff, h]
  timeout_iff ms := by cases f <;> simp [Failure.toError, breaks_response_iff, h, hbody, eq_comm]
  transport_iff := by cases f <;> simp [Failure.toError, breaks_response_iff, h, hbody]

theorem fetchedAs_delivered (timeoutMs : Nat) (h : 200 ≤ r.status ∧ r.status ≤ 299)
    (hbody : r.body = .ok bytes) :
    (response r).FetchedAs timeoutMs ((Snapshot.decode bytes).mapError .decode) := by
  have hbytes (b : List UInt8) : (response r).Delivers b ↔ bytes = b := by
    simp [delivers_response_iff, h, hbody]
  have hbreaks (g : Failure) : ¬ (response r).Breaks g := by
    simp [breaks_response_iff, hbody]
  have hdeclines (code : Nat) : ¬ (response r).Declines code := by
    simp [declines_response_iff, h]
  refine ⟨fun s => ?_, fun m => ?_, fun code => ?_, fun ms => ?_, ?_⟩
  · rw [mapError_eq_ok_iff, Snapshot.decode_eq_ok_iff]
    simp [hbytes]
  · simp [mapError_eq_error_iff, hbytes]
  · simp [mapError_eq_error_iff, hdeclines]
  · simp [mapError_eq_error_iff, hbreaks]
  · simp [mapError_eq_error_iff, hbreaks]

/-- The status comes first, then the transfer of the body, then the body. -/
theorem fetchedAs_snapshot (timeoutMs : Nat) (a : Answer) :
    a.FetchedAs timeoutMs (a.snapshot timeoutMs) := by
  cases a with
  | failed f => exact fetchedAs_failed timeoutMs f
  | response r =>
    unfold snapshot Response.snapshot
    by_cases h : 200 ≤ r.status ∧ r.status ≤ 299
    · dsimp only
      rw [if_pos ((isSuccess_iff r.status).mpr h)]
      cases hbody : r.body with
      | error f => exact fetchedAs_broken timeoutMs h hbody
      | ok bytes => exact fetchedAs_delivered timeoutMs h hbody
    · dsimp only
      rw [if_neg fun hs => h ((isSuccess_iff r.status).mp hs)]
      exact fetchedAs_declined timeoutMs h

end Answer

namespace Fetcher

theorem run_fetch_of_settles {f : Fetcher} {σ : Type} {send : Request → StateM σ Answer} {s t : σ}
    {a : Answer} (h : Settles send (Http.bare f.userAgent) redirectLimit f.address s a t) :
    (f.fetch send).run s = (a.snapshot f.timeoutMs, t) :=
  run_bind_of_run (run_exchange_of_settles h)

theorem settings_of_ofConfig {c : SourceConfig} {f : Fetcher} (h : ofConfig c = .ok f) :
    f.timeoutMs = c.timeoutMs.toNat ∧ f.userAgent = c.userAgent := by
  unfold ofConfig at h
  split at h
  · exact nomatch h
  · split at h
    · obtain rfl := Except.ok.inj h
      exact ⟨rfl, rfl⟩
    · exact nomatch h

/-- A fetch comes to an end with whatever answers the gateway gives, its result goes by the class of
the final one, and every result but a snapshot leaves the board and what is published as they
are. -/
theorem classes_of_fetch (c : SourceConfig) (f : Fetcher) (hf : ofConfig c = .ok f) {σ : Type}
    (send : Request → StateM σ Answer) (s : σ) :
    (∃ a t, Settles send (Http.bare c.userAgent) redirectLimit f.address s a t) ∧
      ∀ a t, Settles send (Http.bare c.userAgent) redirectLimit f.address s a t →
        ∃ x, (f.fetch send).run s = (x, t) ∧ a.FetchedAs c.timeoutMs.toNat x ∧
          ∀ (r : Renderer Id) (now : Nat) (p : Poller), (∀ snapshot, x ≠ .ok snapshot) →
            (p.poll r now x).1.board = p.board ∧ (p.poll r now x).1.published = p.published ∧
              (p.poll r now x).2 = none := by
  obtain ⟨htimeout, hagent⟩ := settings_of_ofConfig hf
  rw [← htimeout, ← hagent]
  refine ⟨exists_settles redirectLimit f.address s, fun a t hanswer => ?_⟩
  refine ⟨a.snapshot f.timeoutMs, run_fetch_of_settles hanswer, a.fetchedAs_snapshot f.timeoutMs,
    ?_⟩
  intro r now p hx
  cases hresult : a.snapshot f.timeoutMs with
  | error e => exact ⟨rfl, rfl, rfl⟩
  | ok snapshot => exact absurd hresult (hx snapshot)

/-- A redirect to a secured connection leads to a status document that comes with a status of
failure. -/
theorem classes_of_fetch_redirected :
    let c : SourceConfig := { baseUrl := "http://gw/r", statusPath := "s" }
    let next : Request → StateM (List Answer) Answer := fun _ => modifyGet fun
      | a :: rest => (a, rest)
      | [] => (.failed .other, [])
    let answers : List Answer := [.response ⟨302, [("Location", "https://gw/t")], .ok []⟩,
      .response ⟨503, [], .ok (utf8 ['\x7b', '\x7d'])⟩]
    ∃ f, ofConfig c = .ok f ∧ (f.fetch next).run answers = (.error (.status 503), []) ∧
      ∀ (r : Renderer Id) (p : Poller),
        (p.poll r 0 (.error (.status 503))).1.board = p.board := by
  have hf : ofConfig { baseUrl := "http://gw/r", statusPath := "s" } = .ok
      ⟨⟨"http", some (.ofHost (.name "gw")), .segments [['r'], ['s']], none, none⟩, 3000,
        "revolver-dashboard/0.1.0"⟩ := by
    refine toOption_eq_some_iff.mp ?_
    decide +kernel
  have hasked : Url.isHttpText "http://gw/r/s" = true ∧ Url.isHttpText "https://gw/t" = true := by
    decide +kernel
  have hnext : redirect? "http://gw/r/s" ⟨302, [("Location", "https://gw/t")], .ok []⟩ =
      some "https://gw/t" := by
    decide +kernel
  have hstay : redirect? "https://gw/t" ⟨503, [], .ok (utf8 ['\x7b', '\x7d'])⟩ = none := rfl
  intro c next answers
  obtain ⟨-, h⟩ := classes_of_fetch c _ hf next answers
  obtain ⟨x, hx, hclass, hkept⟩ :=
    h _ [] (.redirected ((Url.isHttpText_iff _).mp hasked.1) rfl hnext
      (.final ((Url.isHttpText_iff _).mp hasked.2) rfl hstay))
  have hstatus : x = .error (.status 503) :=
    (hclass.status_iff 503).mpr ⟨_, rfl, rfl, by decide⟩
  subst hstatus
  exact ⟨_, hf, hx, fun r p => (hkept r 0 p nofun).1⟩

end Fetcher

end Gateway

end StatusBoard
