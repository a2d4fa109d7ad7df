import WebhookGuard.Proofs.Store.Ledger
import WebhookGuard.Proofs.Time.Instant
import WebhookGuard.Store.Table

/-
  Stores that are ledgers. The store of a process and the table in a file differ in what they see
  of the clock: one sees instants as they are, the other their milliseconds. Everything else is
  common. `LawfulStore` says so, and what follows from it is proved once for both: which claims
  are taken (`takes`), and that a nonce that is held at some instant stays held at that instant
  through all claims and through the purges up to it (`holds_claim`, `holds_purge`).
-/
namespace WebhookGuard

/-- A store that keeps its records in a ledger, by readings of the clock. -/
class LawfulStore (σ : Type) (τ : outParam Type) [NonceStore σ] [LE τ] [LT τ]
    [DecidableRel (LT.lt : τ → τ → Prop)] where
  /-- The records. -/
  ledger : σ → Ledger τ
  /-- What the store sees of an instant. -/
  reading : Instant → τ
  /-- Instants that readings keep in order. -/
  Readable : Instant → Prop
  reading_le : ∀ {a b}, Readable a → a ≤ b → reading a ≤ reading b
  ledger_claim : ∀ s c, ledger (NonceStore.claim s c).1 =
    if c.isVoid then ledger s
    else ((ledger s).claim c.nonce (reading c.expiresAt) (reading c.now)).1
  reply_claim : ∀ s c, (NonceStore.claim s c).2 =
    { answer := .ok (!c.isVoid && !(ledger s).isLive c.nonce (reading c.now)) }
  ledger_purge : ∀ s now, ledger (NonceStore.purge s now).1 = (ledger s).live (reading now)

instance : LawfulStore MemoryStore Instant where
  ledger := MemoryStore.ledger
  reading := id
  Readable _ := True
  reading_le _ h := h
  ledger_claim s c := by
    simp only [NonceStore.claim, MemoryStore.claim, id]
    split <;> rfl
  reply_claim s c := by
    simp only [NonceStore.claim, MemoryStore.claim, id]
    split
    · next h => simp [h]
    · next h => simp [h, Ledger.claim_snd]
  ledger_purge _ _ := rfl

instance : LawfulStore TableStore Int where
  ledger := TableStore.ledger
  reading := Instant.millis
  Readable := Instant.Ordinary
  reading_le ha h := Instant.millis_le_millis ha h
  ledger_claim s c := by
    simp only [NonceStore.claim, TableStore.claim]
    split <;> rfl
  reply_claim s c := by
    simp only [NonceStore.claim, TableStore.claim]
    split
    · next h => simp [h]
    · next h => simp [h, Ledger.claim_snd]
  ledger_purge _ _ := rfl

theorem Claim.now_lt_of_not_isVoid {c : Claim} (h : c.isVoid = false) : c.now < c.expiresAt := by
  unfold Claim.isVoid at h
  simp only [Bool.or_eq_false_iff, decide_eq_false_iff_not] at h
  grind

theorem Claim.isVoid_eq_false {c : Claim} (hn : Text.isBlank c.nonce = false)
    (h : c.now < c.expiresAt) : c.isVoid = false := by
  unfold Claim.isVoid
  simp only [hn, Bool.false_or, decide_eq_false_iff_not]
  grind

namespace LawfulStore

variable {σ τ : Type} [NonceStore σ] [LE τ] [LT τ] [DecidableRel (LT.lt : τ → τ → Prop)]
variable [LawfulStore σ τ]

/-- Whether a nonce is claimed at an instant. -/
def holds (s : σ) (nonce : String) (t : Instant) : Bool :=
  (ledger s).isLive nonce (reading σ t)

/-- Whether a store takes the nonce of a claim. -/
def takes (s : σ) (c : Claim) : Bool :=
  !c.isVoid && !holds s c.nonce c.now

theorem takes_iff {s : σ} {c : Claim} :
    takes s c = true ↔ c.isVoid = false ∧ holds s c.nonce c.now = false := by
  simp [takes]

/-- A claim is answered at once. -/
theorem claim_snd (s : σ) (c : Claim) :
    (NonceStore.claim s c).2 = { answer := .ok (takes s c) } :=
  reply_claim s c

/-- A claim that is not taken leaves the records as they are. -/
theorem ledger_claim_of_not_takes {s : σ} {c : Claim} (h : takes s c = false) :
    ledger (NonceStore.claim s c).1 = ledger s := by
  rw [ledger_claim]
  split
  · rfl
  · next hv =>
    have hl : (ledger s).isLive c.nonce (reading σ c.now) = true := by
      simpa [takes, hv, holds] using h
    rw [Ledger.claim_of_isLive hl]

theorem ledger_claim_of_takes {s : σ} {c : Claim} (h : takes s c = true) :
    ledger (NonceStore.claim s c).1 = (ledger s).put c.nonce (reading σ c.expiresAt) := by
  obtain ⟨hv, hl⟩ := takes_iff.mp h
  rw [ledger_claim, if_neg (by simp [hv]), Ledger.claim_of_not_isLive hl]

/-- A nonce that was taken is held for as long as its expiry lies ahead. -/
theorem holds_of_takes {s : σ} {c : Claim} {t : Instant} (h : takes s c = true)
    (hlt : reading σ t < reading σ c.expiresAt) :
    holds (NonceStore.claim s c).1 c.nonce t = true := by
  unfold holds
  rw [ledger_claim_of_takes h, Ledger.isLive_put, if_pos rfl]
  exact decide_eq_true hlt

/-- What a claim records is either its own expiry or was there before. -/
theorem mem_ledger_claim {s : σ} {c : Claim} {record : String × τ}
    (h : record ∈ (ledger (NonceStore.claim s c).1).records) :
    (takes s c = true ∧ record = (c.nonce, reading σ c.expiresAt)) ∨
      record ∈ (ledger s).records := by
  cases ht : takes s c
  · rw [ledger_claim_of_not_takes ht] at h
    exact Or.inr h
  · rw [ledger_claim_of_takes ht] at h
    rcases Ledger.mem_put.mp h with h | h
    · exact Or.inl ⟨rfl, h⟩
    · exact Or.inr h.1

/-- A claim that is taken leaves no other record of its nonce. -/
theorem eq_of_mem_ledger_claim {s : σ} {c : Claim} {expiry : τ} (ht : takes s c = true)
    (h : (c.nonce, expiry) ∈ (ledger (NonceStore.claim s c).1).records) :
    expiry = reading σ c.expiresAt := by
  rw [ledger_claim_of_takes ht] at h
  rcases Ledger.mem_put.mp h with h | ⟨-, hne⟩
  · exact congrArg Prod.snd h
  · exact absurd rfl hne

/-- A nonce is held by what is recorded of it. -/
theorem exists_of_holds {s : σ} {nonce : String} {t : Instant} (h : holds s nonce t = true) :
    ∃ expiry, (nonce, expiry) ∈ (ledger s).records ∧ reading σ t < expiry := by
  obtain ⟨expiry, hget, hlt⟩ := Ledger.isLive_iff.mp h
  exact ⟨expiry, Ledger.mem_of_get? hget, hlt⟩

/-- A claim on another nonce is not seen. -/
theorem holds_claim_of_ne (s : σ) {c : Claim} {nonce : String} (h : nonce ≠ c.nonce)
    (t : Instant) : holds (NonceStore.claim s c).1 nonce t = holds s nonce t := by
  unfold holds
  rw [ledger_claim]
  split
  · rfl
  · exact Ledger.isLive_claim_of_ne _ h _ _ _

variable [Std.IsLinearOrder τ] [Std.LawfulOrderLT τ]

/-- No claim frees a nonce. -/
theorem holds_claim {s : σ} {c : Claim} {nonce : String} {t : Instant}
    (h : holds s nonce t = true) (hr : Readable σ c.now) :
    holds (NonceStore.claim s c).1 nonce t = true := by
  unfold holds at *
  rw [ledger_claim]
  split
  · exact h
  · next hv =>
    have hlt : c.now < c.expiresAt := Claim.now_lt_of_not_isVoid (by simpa using hv)
    exact Ledger.isLive_claim_of_isLive h (reading_le hr (by grind))

/-- A purge frees no nonce at its own instant or later. -/
theorem holds_purge {s : σ} {nonce : String} {now t : Instant} (h : holds s nonce t = true)
    (hr : Readable σ now) (hle : now ≤ t) :
    holds (NonceStore.purge s now).1 nonce t = true := by
  unfold holds at *
  rw [ledger_purge]
  exact Ledger.isLive_live_of_isLive h (reading_le hr hle)

/-- A nonce that is held at `now` is held at all instants before. -/
theorem holds_of_le {s : σ} {nonce : String} {t now : Instant} (h : holds s nonce now = true)
    (hr : Readable σ t) (hle : t ≤ now) : holds s nonce t = true :=
  Ledger.isLive_of_le h (reading_le hr hle)

end LawfulStore

end WebhookGuard
