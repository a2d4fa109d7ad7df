import WebhookGuard.Store.Ledger

/-
  Ledgers as functions. A ledger is seen through `get?` and `isLive`; each operation is described
  by what it does to these two and to the records. A nonce that is live at some time stays live at
  that time, whatever is claimed afterwards and whatever is purged up to that time
  (`isLive_claim_of_isLive`, `isLive_live_of_isLive`).
-/
namespace WebhookGuard.Ledger

variable {τ : Type}

/-! ## Records -/

theorem lookup_filter_ne (records : List (String × τ)) {nonce other : String}
    (h : other ≠ nonce) :
    (records.filter fun record => record.1 != nonce).lookup other = records.lookup other := by
  induction records with
  | nil => rfl
  | cons record records ih =>
    obtain ⟨name, expiry⟩ := record
    by_cases hn : name = nonce
    · have hb : (other == name) = false := by rw [hn]; exact beq_false_of_ne h
      simp [hn, List.lookup_cons, ih, hn ▸ hb]
    · simp [hn, List.lookup_cons, ih]

theorem get?_put (l : Ledger τ) (nonce other : String) (expiry : τ) :
    (l.put nonce expiry).get? other = if other = nonce then some expiry else l.get? other := by
  unfold put get?
  by_cases h : other = nonce
  · simp [h]
  · rw [List.lookup_cons, beq_false_of_ne h, if_neg h]
    exact lookup_filter_ne l.records h

theorem mem_of_get? {l : Ledger τ} {nonce : String} {expiry : τ}
    (h : l.get? nonce = some expiry) : (nonce, expiry) ∈ l.records := by
  unfold get? at h
  obtain ⟨before, after, heq, -⟩ := List.lookup_eq_some_iff.mp h
  rw [heq]
  simp

/-- A record that is put replaces those of its nonce. -/
theorem mem_put {l : Ledger τ} {nonce : String} {expiry : τ} {record : String × τ} :
    record ∈ (l.put nonce expiry).records ↔
      record = (nonce, expiry) ∨ (record ∈ l.records ∧ record.1 ≠ nonce) := by
  simp [put]

variable [LT τ] [DecidableRel (LT.lt : τ → τ → Prop)]

theorem mem_live {l : Ledger τ} {now : τ} {record : String × τ} :
    record ∈ (l.live now).records ↔ record ∈ l.records ∧ now < record.2 := by
  simp [live]

/-- A purge keeps the record of a nonce that is live. -/
theorem get?_live {l : Ledger τ} {nonce : String} {expiry now : τ}
    (h : l.get? nonce = some expiry) (hlt : now < expiry) :
    (l.live now).get? nonce = some expiry := by
  unfold get? at *
  obtain ⟨before, after, heq, hne⟩ := List.lookup_eq_some_iff.mp h
  rw [List.lookup_eq_some_iff]
  refine ⟨before.filter fun record => decide (now < record.2),
    after.filter fun record => decide (now < record.2), ?_, ?_⟩
  · simp [live, heq, hlt]
  · intro record hr
    exact hne record (List.mem_filter.mp hr).1

/-! ## Live nonces -/

theorem isLive_iff {l : Ledger τ} {nonce : String} {now : τ} :
    l.isLive nonce now = true ↔ ∃ expiry, l.get? nonce = some expiry ∧ now < expiry := by
  unfold isLive
  cases l.get? nonce <;> simp

theorem isLive_put (l : Ledger τ) (nonce other : String) (expiry now : τ) :
    (l.put nonce expiry).isLive other now =
      if other = nonce then decide (now < expiry) else l.isLive other now := by
  unfold isLive
  rw [get?_put]
  by_cases h : other = nonce
  · rw [if_pos h, if_pos h]
  · rw [if_neg h, if_neg h]

/-! ## Claims and purges -/

theorem claim_of_isLive {l : Ledger τ} {nonce : String} {expiry now : τ}
    (h : l.isLive nonce now = true) : l.claim nonce expiry now = (l, false) := by
  rw [claim, if_pos h]

theorem claim_of_not_isLive {l : Ledger τ} {nonce : String} {expiry now : τ}
    (h : l.isLive nonce now = false) : l.claim nonce expiry now = (l.put nonce expiry, true) := by
  rw [claim, if_neg (by simp [h])]

/-- A claim takes a nonce exactly when it is not live. -/
theorem claim_snd (l : Ledger τ) (nonce : String) (expiry now : τ) :
    (l.claim nonce expiry now).2 = !l.isLive nonce now := by
  cases h : l.isLive nonce now
  · rw [claim_of_not_isLive h]; rfl
  · rw [claim_of_isLive h]; rfl

/-- A claim on another nonce is not seen. -/
theorem isLive_claim_of_ne (l : Ledger τ) {nonce other : String} (h : other ≠ nonce)
    (expiry now t : τ) :
    (l.claim nonce expiry now).1.isLive other t = l.isLive other t := by
  cases hl : l.isLive nonce now
  · rw [claim_of_not_isLive hl, isLive_put, if_neg h]
  · rw [claim_of_isLive hl]

variable [LE τ] [Std.IsLinearOrder τ] [Std.LawfulOrderLT τ]

/-- A nonce that is live at `now` is live at all times before. -/
theorem isLive_of_le {l : Ledger τ} {nonce : String} {t now : τ}
    (h : l.isLive nonce now = true) (hle : t ≤ now) : l.isLive nonce t = true := by
  obtain ⟨expiry, hget, hlt⟩ := isLive_iff.mp h
  exact isLive_iff.mpr ⟨expiry, hget, by grind⟩

/-- A claim whose expiry is not before its own time frees no nonce at any time: it takes over only
records that have expired by then, and what it enters expires later. -/
theorem isLive_claim_of_isLive {l : Ledger τ} {nonce other : String} {expiry now t : τ}
    (h : l.isLive other t = true) (hle : now ≤ expiry) :
    (l.claim nonce expiry now).1.isLive other t = true := by
  cases hl : l.isLive nonce now
  · rw [claim_of_not_isLive hl, isLive_put]
    split
    · next heq =>
      subst heq
      obtain ⟨held, hget, hlt⟩ := isLive_iff.mp h
      have hexpired : ¬ now < held := by
        intro hc
        rw [isLive_iff.mpr ⟨held, hget, hc⟩] at hl
        exact Bool.noConfusion hl
      exact decide_eq_true (by grind)
    · exact h
  · rw [claim_of_isLive hl]
    exact h

/-- A purge frees no nonce at its own time or later. -/
theorem isLive_live_of_isLive {l : Ledger τ} {nonce : String} {now t : τ}
    (h : l.isLive nonce t = true) (hle : now ≤ t) : (l.live now).isLive nonce t = true := by
  obtain ⟨expiry, hget, hlt⟩ := isLive_iff.mp h
  exact isLive_iff.mpr ⟨expiry, get?_live hget (by grind), hlt⟩

end WebhookGuard.Ledger
