import WebhookGuard.Proofs.Verifier.Check

/-
  How long a claim lasts. The expiry is an ordinary instant within the calendar. It lies after the
  clock reading of its claim (`lt_expiry`), so no claim of a verifier is void from the start, and
  for a message whose timestamp is ordinary it lies in a later second than every reading at which
  the message is still fresh (`secs_lt_expiry`), unless the calendar ends first. The readings
  themselves may be in leap seconds.
-/
namespace WebhookGuard.Verifier

open Instant LawfulStore

/-- Both deadlines of a message, and the second that is added to the later one, are within the
calendar. -/
def InCalendar (v : Verifier) (now sent : Instant) : Prop :=
  ((now.add? v.options.maxMessageAge).bind fun t => t.add? (.ofSecs 1)).isSome ∧
    ((sent.add? v.options.allowedClockSkew).bind fun t => t.add? (.ofSecs 1)).isSome

instance (v : Verifier) (now sent : Instant) : Decidable (v.InCalendar now sent) :=
  inferInstanceAs (Decidable (_ ∧ _))

/-- The expiry is a second after the later deadline, or the end of the calendar. -/
theorem expiry_cases (v : Verifier) (now sent : Instant) :
    v.expiry now sent = .latest ∨ ∃ byAge bySkew,
      now.add? v.options.maxMessageAge = some byAge ∧
      sent.add? v.options.allowedClockSkew = some bySkew ∧
      (byAge.max bySkew).add? (.ofSecs 1) = some (v.expiry now sent) := by
  unfold expiry
  split
  · next byAge bySkew ha hs =>
    cases he : (byAge.max bySkew).add? (.ofSecs 1) with
    | none => exact Or.inl rfl
    | some e => exact Or.inr ⟨byAge, bySkew, ha, hs, he⟩
  · exact Or.inl rfl

/-- Within the calendar the expiry is the sum that it stands for. -/
theorem expiry_of_inCalendar {v : Verifier} {now sent : Instant} (h : v.InCalendar now sent) :
    ∃ byAge bySkew, now.add? v.options.maxMessageAge = some byAge ∧
      sent.add? v.options.allowedClockSkew = some bySkew ∧
      (byAge.max bySkew).add? (.ofSecs 1) = some (v.expiry now sent) := by
  obtain ⟨ha, hs⟩ := h
  rw [Option.isSome_bind, Option.any_eq_true] at ha hs
  obtain ⟨byAge, hba, hea⟩ := ha
  obtain ⟨bySkew, hbs, hes⟩ := hs
  refine ⟨byAge, bySkew, hba, hbs, ?_⟩
  have hsum : ((byAge.max bySkew).add? (.ofSecs 1)).isSome = true := by
    rcases max_eq_or byAge bySkew with h | h <;> rw [h] <;> assumption
  obtain ⟨e, he⟩ := Option.isSome_iff_exists.mp hsum
  unfold expiry
  rw [hba, hbs]
  show _ = some (((byAge.max bySkew).add? (.ofSecs 1)).getD .latest)
  rw [he]
  rfl

theorem expiry_ordinary (v : Verifier) (now sent : Instant) :
    (v.expiry now sent).Ordinary ∧ (v.expiry now sent).InRange := by
  rcases expiry_cases v now sent with h | ⟨byAge, bySkew, -, -, h⟩
  · rw [h]
    decide
  · exact (add?_of_secs_pos secs_ofSecs_one h).2

/-- No expiry lies after the end of the calendar. -/
theorem expiry_le_latest (v : Verifier) (now sent : Instant) : v.expiry now sent ≤ .latest :=
  le_latest (expiry_ordinary v now sent).1 (expiry_ordinary v now sent).2

/-- A claim expires after the reading it was made at. -/
theorem lt_expiry (v : Verifier) {now : Instant} (h : now < .latest) (sent : Instant) :
    now < v.expiry now sent := by
  rcases expiry_cases v now sent with he | ⟨byAge, bySkew, ha, -, he⟩
  · rw [he]
    exact h
  · have hlt := (add?_of_secs_pos secs_ofSecs_one he).1
    have hmax := secs_le_of_le (le_max_left byAge bySkew)
    have hage := secs_le_of_add? ha
    exact lt_of_secs_lt (by omega)

/-- A message with an ordinary timestamp is stale before the deadline set by the skew has passed
for a whole second, wherever the clock stood when its nonce was claimed. -/
theorem secs_lt_of_sum {v : Verifier} {now' sent byAge bySkew e : Instant} (hs : sent.Ordinary)
    (hf : v.IsFresh now' sent) (hskew : sent.add? v.options.allowedClockSkew = some bySkew)
    (he : (byAge.max bySkew).add? (.ofSecs 1) = some e) : now'.secs < e.secs := by
  rw [add?_eq hs] at hskew
  obtain ⟨-, rfl⟩ := inRange?_eq_some.mp hskew
  have hmax := secs_le_of_le
    (le_max_right byAge (ofCount (sent.count + v.options.allowedClockSkew.nanos)))
  have hlt := (add?_of_secs_pos secs_ofSecs_one he).1
  have hnow := secs_le_of_since now' hs
  have hdist := hf.2
  rw [secs_ofCount] at hmax
  omega

theorem secs_lt_expiry {v : Verifier} {now' sent : Instant} (hs : sent.Ordinary)
    (hf : v.IsFresh now' sent) (now : Instant) :
    v.expiry now sent = .latest ∨ now'.secs < (v.expiry now sent).secs := by
  rcases expiry_cases v now sent with h | ⟨byAge, bySkew, -, hskew, he⟩
  · exact Or.inl h
  · exact Or.inr (secs_lt_of_sum hs hf hskew he)

theorem secs_lt_expiry_of_inCalendar {v : Verifier} {now now' sent : Instant}
    (hs : sent.Ordinary) (hf : v.IsFresh now' sent) (hc : v.InCalendar now sent) :
    now'.secs < (v.expiry now sent).secs := by
  obtain ⟨byAge, bySkew, -, hskew, he⟩ := expiry_of_inCalendar hc
  exact secs_lt_of_sum hs hf hskew he

/-! ## The claims of a verifier -/

/-- No claim that passes the checks before the end of the calendar is void. -/
theorem isVoid_of_check {v : Verifier} {d : Delivery} {c : Claim} (h : v.check d = .ok c)
    (hnow : d.now < .latest) : c.isVoid = false := by
  obtain ⟨timestamp, sent, hauth, -, hc⟩ := check_eq_ok_iff.mp h
  refine Claim.isVoid_eq_false (isBlank_of_nonce? hauth.nonce_eq) ?_
  rw [hc]
  exact v.lt_expiry hnow sent

/-- A claim that is not void was made before the end of the calendar. -/
theorem lt_latest_of_check {v : Verifier} {d : Delivery} {c : Claim} (h : v.check d = .ok c)
    (hvoid : c.isVoid = false) : d.now < .latest := by
  obtain ⟨timestamp, sent, -, -, hc⟩ := check_eq_ok_iff.mp h
  have hlt := Claim.now_lt_of_not_isVoid hvoid
  have hend := v.expiry_le_latest d.now sent
  rw [hc] at hlt
  grind

/-- Before the end of the calendar a store takes the nonce of an authentic and fresh delivery
exactly when it is free. -/
theorem takes_of_check {σ τ : Type} [NonceStore σ] [LE τ] [LT τ]
    [DecidableRel (LT.lt : τ → τ → Prop)] [LawfulStore σ τ] {s : σ} {v : Verifier} {d : Delivery}
    {c : Claim} (h : v.check d = .ok c) (hnow : d.now < .latest) :
    takes s c = !holds s c.nonce d.now := by
  obtain ⟨timestamp, sent, -, -, hc⟩ := check_eq_ok_iff.mp h
  have hcnow : c.now = d.now := by rw [hc]
  unfold takes
  rw [isVoid_of_check h hnow, hcnow]
  rfl

/-- Before the end of the calendar the nonce of a replay is held. -/
theorem holds_of_replay {σ τ : Type} [NonceStore σ] [LE τ] [LT τ]
    [DecidableRel (LT.lt : τ → τ → Prop)] [LawfulStore σ τ] {s : σ} {v : Verifier} {d : Delivery}
    {c : Claim} (h : v.check d = .ok c) (hnow : d.now < .latest)
    (hreplay : (v.verify s d).verdict = .rejected .replay) : holds s c.nonce d.now = true := by
  rw [verdict_of_check s h, takes_of_check h hnow] at hreplay
  cases hheld : holds s c.nonce d.now with
  | true => rfl
  | false => simp [hheld] at hreplay

/-- An authentic and fresh delivery whose nonce is free is accepted. -/
theorem Authentic.verify_accepted {σ τ : Type} [NonceStore σ] [LE τ] [LT τ]
    [DecidableRel (LT.lt : τ → τ → Prop)] [LawfulStore σ τ] {s : σ} {v : Verifier} {d : Delivery}
    {timestamp nonce : String} {sent : Instant}
    (h : v.Authentic d.body d.headers timestamp nonce sent) (hf : v.IsFresh d.now sent)
    (hnow : d.now < .latest) (hfree : holds s nonce d.now = false) :
    (v.verify s d).verdict = .accepted := by
  rw [verdict_of_check s (h.check_eq hf), takes_of_check (h.check_eq hf) hnow, hfree]
  rfl

end WebhookGuard.Verifier
