import WebhookGuard.Proofs.Http.Framing
import WebhookGuard.Proofs.Receiver.Accounting

/-
  Who may read the counters. A collector is admitted when it presents the token of the receiver, or
  when there is none and the counters are public; it presents the token when its first authorization
  value is visible, has the word for a token in front, and the rest has the digest of the token
  (`Request.token?_eq_some_iff`). This depends on the settings, which no request changes
  (`settings_after`). Whoever is not admitted is told so and nothing else: the response does not
  depend on what the receiver has verified, nor on its secret, its store or its token
  (`counters_for_admitted_only`).
-/
namespace WebhookGuard

open WebhookGuard.Text

/-! ## Tokens in requests -/

/-- The first value that a request has for a name: the fields before it have other names. -/
def Request.IsFirstValue (r : Request) (name : String) (value : Bytes) : Prop :=
  ∃ before field after, r.fields = before ++ field :: after ∧
    lower field.name = lower name ∧ field.value = value ∧
    ∀ earlier ∈ before, lower earlier.name ≠ lower name

theorem Request.value?_eq_some_iff {r : Request} {name : String} {value : Bytes} :
    r.value? name = some value ↔ r.IsFirstValue name value := by
  unfold value? IsFirstValue
  constructor
  · intro h
    obtain ⟨field, hfind, rfl⟩ := Option.map_eq_some_iff.mp h
    obtain ⟨hname, before, after, hfields, hbefore⟩ := List.find?_eq_some_iff_append.mp hfind
    refine ⟨before, field, after, hfields, sameUpToCase_iff.mp hname, rfl, fun earlier he heq => ?_⟩
    have hother := hbefore earlier he
    rw [sameUpToCase_iff.mpr heq] at hother
    cases hother
  · rintro ⟨before, field, after, hfields, hname, rfl, hbefore⟩
    refine Option.map_eq_some_iff.mpr ⟨field, ?_, rfl⟩
    refine List.find?_eq_some_iff_append.mpr
      ⟨sameUpToCase_iff.mpr hname, before, after, hfields, fun earlier he => ?_⟩
    rw [Bool.not_eq_true', Bool.eq_false_iff]
    exact fun hsame => hbefore earlier he (sameUpToCase_iff.mp hsame)

/-- A request brings a token: what follows the word for it in a value that is visible. -/
def Request.Brings (r : Request) (given : Bytes) : Prop :=
  r.IsFirstValue "authorization" (utf8 "Bearer " ++ given) ∧ given.all isVisible = true

/-- Bytes that are visible are those of a text. -/
theorem exists_visibleText? {value : Bytes} (h : value.all isVisible = true) :
    ∃ s, visibleText? value = some s := ⟨_, if_pos h⟩

theorem utf8_ofList_append (cs ds : List Char) :
    utf8 (String.ofList (cs ++ ds)) = utf8 (String.ofList cs) ++ utf8 (String.ofList ds) := by
  simp [utf8]

theorem visibleText?_append {first second : Bytes} {s t : String}
    (hs : visibleText? first = some s) (ht : visibleText? second = some t) :
    visibleText? (first ++ second) = some (String.ofList (s.toList ++ t.toList)) := by
  have hfirst := (utf8_of_visibleText? hs).2
  have hsecond := (utf8_of_visibleText? ht).2
  unfold visibleText? at *
  rw [if_pos hfirst] at hs
  rw [if_pos hsecond] at ht
  obtain rfl := Option.some.inj hs
  obtain rfl := Option.some.inj ht
  have hall : (first ++ second).all isVisible = true := by
    rw [List.all_append, hfirst, hsecond]
    rfl
  rw [if_pos hall, List.map_append, String.toList_ofList, String.toList_ofList]

/-- The token that is compared is the one that the request brings. -/
theorem Request.token?_eq_some_iff {r : Request} {given : Bytes} :
    r.token? = some given ↔ r.Brings given := by
  have hword : visibleText? (utf8 "Bearer ") = some "Bearer " := visibleText?_utf8 (by decide)
  unfold token? Brings
  constructor
  · intro h
    obtain ⟨value, hvalue, h⟩ := Option.bind_eq_some_iff.mp h
    obtain ⟨text, htext, h⟩ := Option.bind_eq_some_iff.mp h
    obtain ⟨token, htoken, h⟩ := Option.bind_eq_some_iff.mp h
    obtain rfl := Option.some.inj h
    obtain ⟨hutf8, hvisible⟩ := utf8_of_visibleText? htext
    have hsplit : value = utf8 "Bearer " ++ utf8 (String.ofList token) := by
      rw [← hutf8, ← String.ofList_toList (s := text), eq_append_of_after? htoken,
        utf8_ofList_append, String.ofList_toList]
    rw [hsplit, List.all_append, Bool.and_eq_true] at hvisible
    rw [← hsplit]
    exact ⟨value?_eq_some_iff.mp hvalue, hvisible.2⟩
  · rintro ⟨hvalue, hvisible⟩
    obtain ⟨token, htoken⟩ := exists_visibleText? hvisible
    rw [value?_eq_some_iff.mpr hvalue, Option.bind_eq_bind, Option.bind_some,
      visibleText?_append hword htoken, Option.bind_eq_bind, Option.bind_some,
      String.toList_ofList, String.toList_ofList, after?_append, Option.bind_eq_bind,
      Option.bind_some, String.ofList_toList, (utf8_of_visibleText? htoken).1]
    rfl

/-- A request asks for the counters. -/
def Request.IsCollection (r : Request) : Prop := r.method = "GET" ∧ r.path = utf8 "/metrics"

/-- A request presents a token: what it brings has the digest of the token. -/
def Request.Presents (r : Request) (token : Bytes) : Prop :=
  ∃ given, r.Brings given ∧ Digest.sha256 given = Digest.sha256 token

instance (r : Request) : Decidable r.IsCollection := inferInstanceAs (Decidable (_ ∧ _))

theorem Request.not_presents_of_token? {r : Request} (h : r.token? = none) (token : Bytes) :
    ¬ r.Presents token := by
  rintro ⟨given, hbrings, -⟩
  rw [token?_eq_some_iff.mpr hbrings] at h
  cases h

namespace Receiver

variable {σ : Type}

/-! ## Admission -/

/-- Whom a receiver lets read the counters. -/
def Admits (s : Receiver σ) (r : Request) : Prop :=
  match s.metricsToken with
  | some token => r.Presents token
  | none => s.publicMetrics = true

/-- The response to whom it does not. -/
def denial (s : Receiver σ) : Response :=
  if s.metricsToken.isSome then
    ⟨401, [("content-type", "application/json")],
      "\x7b\"error\":\"unauthorized\"," ++
        "\"message\":\"Valid Bearer token required for /metrics\"\x7d"⟩
  else
    ⟨403, [("content-type", "application/json")],
      "\x7b\"error\":\"forbidden\"," ++
        "\"message\":\"Set METRICS_TOKEN or SWISH_PUBLIC_METRICS=true to access /metrics\"\x7d"⟩

theorem access_of_admits {s : Receiver σ} {r : Request} (h : s.Admits r) :
    Access.of s.metricsToken s.publicMetrics r = .granted := by
  unfold Admits at h
  unfold Access.of
  cases htoken : s.metricsToken with
  | some token =>
    rw [htoken] at h
    obtain ⟨given, hbrings, hdigest⟩ := h
    simp only [Request.token?_eq_some_iff.mpr hbrings]
    exact if_pos (beq_iff_eq.mpr hdigest)
  | none =>
    rw [htoken] at h
    exact if_pos h

theorem access_of_not_admits {s : Receiver σ} {r : Request} (h : ¬ s.Admits r) :
    Access.of s.metricsToken s.publicMetrics r =
      if s.metricsToken.isSome then .unauthorized else .forbidden := by
  unfold Admits at h
  unfold Access.of
  cases htoken : s.metricsToken with
  | some token =>
    rw [htoken] at h
    cases hgiven : r.token? with
    | none => rfl
    | some given =>
      refine if_neg fun hsame => h ⟨given, Request.token?_eq_some_iff.mp hgiven, ?_⟩
      exact beq_iff_eq.mp hsame
  | none =>
    rw [htoken] at h
    exact if_neg h

theorem counters_of_admits {s : Receiver σ} {r : Request} (h : s.Admits r) :
    s.counters r =
      ⟨200, [("content-type", "text/plain; version=0.0.4")], s.metrics.exposition⟩ := by
  unfold counters
  rw [access_of_admits h]
  rfl

theorem counters_of_not_admits {s : Receiver σ} {r : Request} (h : ¬ s.Admits r) :
    s.counters r = s.denial := by
  unfold counters denial
  rw [access_of_not_admits h]
  cases s.metricsToken with
  | some token =>
    simp only [Option.isSome_some, ↓reduceIte]
    decide
  | none =>
    simp only [Option.isSome_none, Bool.false_eq_true, ↓reduceIte]
    decide

theorem denial_status_ne (s : Receiver σ) : s.denial.status ≠ 200 := by
  unfold denial
  split <;> decide

/-! ## Any history -/

variable [NonceStore σ]

theorem answer_of_isCollection (s : Receiver σ) {r : Request} (hr : r.IsCollection)
    (now : Instant) : s.answer r now = s.counters r := by
  have hplace : Endpoint.of? r = some .metrics := Endpoint.of?_eq_some_iff.mpr hr
  unfold answer handle
  rw [hplace]

/-- No request changes who is admitted. -/
theorem settings_handle (s : Receiver σ) (r : Request) (now : Instant) :
    (s.handle r now).1.metricsToken = s.metricsToken ∧
      (s.handle r now).1.publicMetrics = s.publicMetrics := by
  unfold handle
  split
  · exact ⟨rfl, rfl⟩
  · exact ⟨rfl, rfl⟩
  · exact ⟨rfl, rfl⟩
  · unfold deliver
    split <;> exact ⟨rfl, rfl⟩

theorem settings_after (s : Receiver σ) (requests : List (Request × Instant)) :
    (s.after requests).metricsToken = s.metricsToken ∧
      (s.after requests).publicMetrics = s.publicMetrics := by
  induction requests generalizing s with
  | nil => exact ⟨rfl, rfl⟩
  | cons request requests ih =>
    obtain ⟨r, now⟩ := request
    obtain ⟨htoken, hpublic⟩ := s.settings_handle r now
    obtain ⟨htokenAfter, hpublicAfter⟩ := ih (s.handle r now).1
    exact ⟨htokenAfter.trans htoken, hpublicAfter.trans hpublic⟩

theorem admits_after_iff {s : Receiver σ} {r : Request} (requests : List (Request × Instant)) :
    (s.after requests).Admits r ↔ s.Admits r := by
  obtain ⟨htoken, hpublic⟩ := s.settings_after requests
  unfold Admits
  rw [htoken, hpublic]

theorem denial_after (s : Receiver σ) (requests : List (Request × Instant)) :
    (s.after requests).denial = s.denial := by
  unfold denial
  rw [(s.settings_after requests).1]

theorem answer_of_not_admits {s : Receiver σ} {r : Request} (hr : r.IsCollection)
    (h : ¬ s.Admits r) (requests : List (Request × Instant)) (now : Instant) :
    (s.after requests).answer r now = s.denial := by
  rw [answer_of_isCollection _ hr, counters_of_not_admits (mt (admits_after_iff requests).mp h),
    denial_after]

/-- After any history the counters are for those whom the settings admit. Anyone else is told only
whether there is a token, whatever was verified before and by whatever receiver. -/
theorem counters_for_admitted_only :
    (∀ (σ : Type) [NonceStore σ] (s : Receiver σ) (requests : List (Request × Instant))
      (r : Request) (now : Instant), r.IsCollection →
      ((s.after requests).answer r now = ⟨200, [("content-type", "text/plain; version=0.0.4")],
          (s.after requests).metrics.exposition⟩ ↔ s.Admits r) ∧
      (¬ s.Admits r → (s.after requests).answer r now = s.denial)) ∧
    ∀ (σ σ' : Type) [NonceStore σ] [NonceStore σ'] (s : Receiver σ) (s' : Receiver σ')
      (requests requests' : List (Request × Instant)) (r r' : Request) (now now' : Instant),
      r.IsCollection → r'.IsCollection → ¬ s.Admits r → ¬ s'.Admits r' →
      s.metricsToken.isSome = s'.metricsToken.isSome →
      (s.after requests).answer r now = (s'.after requests').answer r' now' := by
  refine ⟨fun σ _ s requests r now hr => ⟨⟨fun hanswer => ?_, fun h => ?_⟩, fun h => ?_⟩, ?_⟩
  · by_contra h
    rw [answer_of_not_admits hr h] at hanswer
    exact s.denial_status_ne (congrArg Response.status hanswer)
  · rw [answer_of_isCollection _ hr, counters_of_admits ((admits_after_iff requests).mpr h)]
  · exact answer_of_not_admits hr h requests now
  · intro σ σ' _ _ s s' requests requests' r r' now now' hr hr' h h' htoken
    rw [answer_of_not_admits hr h, answer_of_not_admits hr' h', denial, denial, htoken]

/-! ## Samples -/

/-- The sample receiver with a token for the counters. -/
def guarded : Receiver MemoryStore := { sample with metricsToken := some (utf8 "t") }

/-- Another receiver with another token, which was told that everyone may read the counters. -/
def otherGuarded : Receiver TableStore :=
  { otherSample with metricsToken := some (utf8 "u"), publicMetrics := true }

/-- A request for the counters with a value for authorization. -/
def collection (value : Bytes) : Request where
  method := "GET"
  target := "/metrics"
  fields := [⟨"Authorization", value⟩]

/-- The token is presented in one form. Without the word for it or with a byte that is not visible,
two receivers with different tokens, stores and histories answer the same. -/
theorem counters_for_admitted_only_of_samples :
    (guarded.after sampleRequests).answer (collection (utf8 "Bearer t")) ⟨1757962700, 0⟩ =
      ⟨200, [("content-type", "text/plain; version=0.0.4")],
        (guarded.after sampleRequests).metrics.exposition⟩ ∧
    (guarded.after sampleRequests).answer (collection (utf8 "bearer t")) ⟨1757962700, 0⟩ =
      otherGuarded.answer (collection (utf8 "Bearer u" ++ [0x80])) ⟨0, 0⟩ := by
  obtain ⟨hexact, hsame⟩ := counters_for_admitted_only
  have hadmits : guarded.Admits (collection (utf8 "Bearer t")) :=
    ⟨utf8 "t", Request.token?_eq_some_iff.mp (by decide +kernel), rfl⟩
  have hdenied : ¬ guarded.Admits (collection (utf8 "bearer t")) :=
    Request.not_presents_of_token? (by decide +kernel) _
  have hdenied' : ¬ otherGuarded.Admits (collection (utf8 "Bearer u" ++ [0x80])) :=
    Request.not_presents_of_token? (by decide +kernel) _
  constructor
  · exact (hexact _ guarded sampleRequests _ _ (by decide +kernel)).1.mpr hadmits
  · exact hsame _ _ guarded otherGuarded sampleRequests [] _ _ _ _ (by decide +kernel)
      (by decide +kernel) hdenied hdenied' rfl

end Receiver

end WebhookGuard
