import WebhookGuard.Proofs.Store.LawfulStore

/-
  One record for each nonce. No operation of a ledger leaves two records for one nonce
  (`Distinct.put`, `Distinct.live`), and over such a ledger claims and purges can be told exactly by
  what is held afterwards: a claim that is taken changes what is held of its own nonce and of no
  other (`holds_claim_eq`), and a purge changes nothing for the instants from its own on
  (`holds_purge_eq`).
-/
namespace WebhookGuard

namespace Ledger

variable {τ : Type}

/-- No nonce has two records. -/
def Distinct (l : Ledger τ) : Prop := (l.records.map Prod.fst).Nodup

instance (l : Ledger τ) : Decidable l.Distinct :=
  inferInstanceAs (Decidable (List.Nodup _))

theorem distinct_empty : (empty : Ledger τ).Distinct := List.nodup_nil

theorem Distinct.put {l : Ledger τ} (h : l.Distinct) (nonce : String) (expiry : τ) :
    (l.put nonce expiry).Distinct := by
  refine List.nodup_cons.mpr ⟨?_, h.sublist (List.filter_sublist.map _)⟩
  intro hmem
  obtain ⟨record, hrecord, hname⟩ := List.mem_map.mp hmem
  have hne := (List.mem_filter.mp hrecord).2
  simp [hname] at hne

theorem Distinct.get?_of_mem {l : Ledger τ} (h : l.Distinct) {nonce : String} {expiry : τ}
    (hmem : (nonce, expiry) ∈ l.records) : l.get? nonce = some expiry := by
  obtain ⟨before, after, heq⟩ := List.append_of_mem hmem
  refine List.lookup_eq_some_iff.mpr ⟨before, after, heq, ?_⟩
  intro record hrecord
  unfold Distinct at h
  rw [heq, List.map_append, List.map_cons, List.nodup_append] at h
  have hne := h.2.2 record.1 (List.mem_map_of_mem hrecord) nonce List.mem_cons_self
  exact bne_iff_ne.mpr hne.symm

variable [LT τ] [DecidableRel (LT.lt : τ → τ → Prop)]

theorem Distinct.live {l : Ledger τ} (h : l.Distinct) (now : τ) : (l.live now).Distinct :=
  h.sublist (List.filter_sublist.map _)

/-- A purge keeps a record if and only if it expires later. -/
theorem Distinct.get?_live {l : Ledger τ} (h : l.Distinct) (nonce : String) (now : τ) :
    (l.live now).get? nonce = (l.get? nonce).filter fun expiry => decide (now < expiry) := by
  ext expiry
  rw [Option.filter_eq_some_iff]
  constructor
  · intro hlive
    obtain ⟨hmem, hlt⟩ := mem_live.mp (mem_of_get? hlive)
    exact ⟨h.get?_of_mem hmem, decide_eq_true hlt⟩
  · rintro ⟨hget, hlt⟩
    exact Ledger.get?_live hget (of_decide_eq_true hlt)

theorem Distinct.isLive_live {l : Ledger τ} (h : l.Distinct) (nonce : String) (now t : τ) :
    (l.live now).isLive nonce t = (l.isLive nonce now && l.isLive nonce t) := by
  unfold isLive
  rw [h.get?_live]
  cases l.get? nonce with
  | none => rfl
  | some expiry => by_cases hlt : now < expiry <;> simp [Option.filter, hlt]

end Ledger

namespace LawfulStore

variable {σ τ : Type} [NonceStore σ] [LE τ] [LT τ] [DecidableRel (LT.lt : τ → τ → Prop)]
variable [LawfulStore σ τ]

theorem distinct_claim {s : σ} (h : (ledger s).Distinct) (c : Claim) :
    (ledger (NonceStore.claim s c).1).Distinct := by
  cases ht : takes s c
  · rw [ledger_claim_of_not_takes ht]
    exact h
  · rw [ledger_claim_of_takes ht]
    exact h.put _ _

theorem distinct_purge {s : σ} (h : (ledger s).Distinct) (now : Instant) :
    (ledger (NonceStore.purge s now).1).Distinct := by
  rw [ledger_purge]
  exact h.live _

/-- What is held after a claim: its own nonce until its expiry, if it was taken, and all else as
before. -/
theorem holds_claim_eq (s : σ) (c : Claim) (nonce : String) (t : Instant) :
    holds (NonceStore.claim s c).1 nonce t =
      if takes s c = true ∧ nonce = c.nonce then decide (reading σ t < reading σ c.expiresAt)
      else holds s nonce t := by
  unfold holds
  cases ht : takes s c
  · rw [ledger_claim_of_not_takes ht, if_neg (fun h => Bool.noConfusion h.1)]
  · rw [ledger_claim_of_takes ht, Ledger.isLive_put]
    by_cases hn : nonce = c.nonce <;> simp [hn]

variable [Std.IsLinearOrder τ] [Std.LawfulOrderLT τ]

/-- From its own instant on, as far as the store can tell, a purge changes nothing. -/
theorem holds_purge_eq {s : σ} (h : (ledger s).Distinct) (nonce : String) {now t : Instant}
    (hle : reading σ now ≤ reading σ t) :
    holds (NonceStore.purge s now).1 nonce t = holds s nonce t := by
  unfold holds
  rw [ledger_purge, h.isLive_live]
  cases hl : (ledger s).isLive nonce (reading σ t)
  · rw [Bool.and_false]
  · rw [Ledger.isLive_of_le hl hle]
    rfl

omit [Std.IsLinearOrder τ] in
/-- A purge at the expiry of a claim frees the nonce that it took. -/
theorem not_holds_of_purged {s : σ} {c : Claim} (h : takes s c = true) (t : Instant) :
    holds (NonceStore.purge (NonceStore.claim s c).1 c.expiresAt).1 c.nonce t = false := by
  rw [Bool.eq_false_iff]
  intro hheld
  obtain ⟨expiry, hmem, -⟩ := exists_of_holds hheld
  rw [ledger_purge] at hmem
  obtain ⟨hrecord, hlive⟩ := Ledger.mem_live.mp hmem
  rw [eq_of_mem_ledger_claim h hrecord] at hlive
  exact absurd hlive (Std.not_gt_of_lt hlive)

end LawfulStore

end WebhookGuard
