import WebhookGuard.Proofs.Store.Course

/-
  Claims for one nonce at one instant. If the nonce is available, the first of them takes it. The
  next is refused when the store can tell the expiry of the first from the instant, and takes the
  nonce over when it cannot. So the claims that are taken are the first ones, up to and including
  the first whose expiry the store can tell from the instant (`winners_eq_take`). Claims for other
  nonces may come between and change nothing.

  The store of a process tells any two instants apart, so exactly one claim is taken. The table
  compares milliseconds, while whether a claim is void from the start is judged to the nanosecond. A
  claim that is good for less than the rest of its millisecond is entered as a row that has expired:
  the next claim takes the nonce once more, and a purge at the same instant removes the row.
-/
namespace WebhookGuard

open LawfulStore Course

/-- The claims for a nonce among some claims. -/
def claimsOn (nonce : String) (cs : List Claim) : List Claim :=
  cs.filter fun c => c.nonce = nonce

/-- The claims for a nonce that a store takes when some claims are made one after the other. -/
def winners {σ : Type} [NonceStore σ] (s : σ) (nonce : String) : List Claim → List Claim
  | [] => []
  | c :: cs => (taken? s nonce (.claim c)).toList ++ winners (NonceStore.claim s c).1 nonce cs

theorem claimsOn_cons_of_eq {nonce : String} {c : Claim} (h : c.nonce = nonce) (cs : List Claim) :
    claimsOn nonce (c :: cs) = c :: claimsOn nonce cs :=
  List.filter_cons_of_pos (decide_eq_true h)

theorem claimsOn_cons_of_ne {nonce : String} {c : Claim} (h : c.nonce ≠ nonce) (cs : List Claim) :
    claimsOn nonce (c :: cs) = claimsOn nonce cs :=
  List.filter_cons_of_neg (by simpa using h)

section Lawful

variable {σ τ : Type} [NonceStore σ] [LE τ] [LT τ] [DecidableRel (LT.lt : τ → τ → Prop)]
variable [LawfulStore σ τ]

theorem taken?_of_takes {s : σ} {c : Claim} (h : takes s c = true) :
    taken? s c.nonce (.claim c) = some c := by
  simp [taken?, won_claim, h]

theorem taken?_of_not_takes {s : σ} {c : Claim} (h : takes s c = false) (nonce : String) :
    taken? s nonce (.claim c) = none := by
  simp [taken?, won_claim, h]

theorem taken?_of_ne (s : σ) {c : Claim} {nonce : String} (h : c.nonce ≠ nonce) :
    taken? s nonce (.claim c) = none := by
  simp [taken?, h]

/-- While a nonce is claimed at an instant, no claim at that instant is taken. -/
theorem winners_of_holds {s : σ} {nonce : String} {now : Instant} {cs : List Claim}
    (hon : ∀ c ∈ cs, c.nonce = nonce → c.now = now) (hheld : holds s nonce now = true) :
    winners s nonce cs = [] := by
  induction cs generalizing s with
  | nil => rfl
  | cons c cs ih =>
    have hon' : ∀ c ∈ cs, c.nonce = nonce → c.now = now :=
      fun d hd => hon d (List.mem_cons_of_mem _ hd)
    by_cases hn : c.nonce = nonce
    · have hnow := hon c List.mem_cons_self hn
      have ht : takes s c = false := by
        unfold takes
        rw [hn, hnow, hheld, Bool.not_true, Bool.and_false]
      have hheld' : holds (NonceStore.claim s c).1 nonce now = true := by
        rw [holds_claim_eq, if_neg (by simp [ht])]
        exact hheld
      rw [winners, taken?_of_not_takes ht, ih hon' hheld']
      rfl
    · have hheld' : holds (NonceStore.claim s c).1 nonce now = true := by
        rw [holds_claim_of_ne s (Ne.symm hn)]
        exact hheld
      rw [winners, taken?_of_ne s hn, ih hon' hheld']
      rfl

/-- Of the claims for an available nonce that are made at one instant, those are taken that come
before the first whose expiry the store can tell from the instant, and that one itself. The
induction goes on as long as the claims that are taken leave the nonce available. -/
theorem winners_eq_take {s : σ} {nonce : String} {now : Instant} {cs : List Claim}
    (hon : ∀ c ∈ cs, c.nonce = nonce → c.isVoid = false ∧ c.now = now)
    (hfree : holds s nonce now = false) :
    winners s nonce cs = (claimsOn nonce cs).take (((claimsOn nonce cs).takeWhile fun c =>
      !decide (reading σ now < reading σ c.expiresAt)).length + 1) := by
  induction cs generalizing s with
  | nil => rfl
  | cons c cs ih =>
    have hon' : ∀ c ∈ cs, c.nonce = nonce → c.isVoid = false ∧ c.now = now :=
      fun d hd => hon d (List.mem_cons_of_mem _ hd)
    by_cases hn : c.nonce = nonce
    · obtain ⟨hvoid, hnow⟩ := hon c List.mem_cons_self hn
      have ht : takes s c = true := takes_iff.mpr ⟨hvoid, by rw [hn, hnow]; exact hfree⟩
      have hafter : holds (NonceStore.claim s c).1 nonce now =
          decide (reading σ now < reading σ c.expiresAt) := by
        rw [holds_claim_eq, if_pos ⟨ht, hn.symm⟩]
      have htaken : taken? s nonce (.claim c) = some c := hn ▸ taken?_of_takes ht
      rw [winners, htaken, claimsOn_cons_of_eq hn]
      cases hlt : decide (reading σ now < reading σ c.expiresAt)
      · rw [ih hon' (hafter.trans hlt), List.takeWhile_cons_of_pos (by rw [hlt]; rfl),
          List.length_cons, List.take_succ_cons]
        rfl
      · rw [winners_of_holds (fun d hd h => (hon' d hd h).2) (hafter.trans hlt),
          List.takeWhile_cons_of_neg (by rw [hlt]; exact Bool.noConfusion)]
        rfl
    · rw [winners, taken?_of_ne s hn, claimsOn_cons_of_ne hn]
      refine ih hon' ?_
      rw [holds_claim_of_ne s (Ne.symm hn)]
      exact hfree

/-- Exactly one of the claims is taken if there is only one or the store can tell the expiry of the
first from the instant. -/
theorem length_winners_eq_one_iff {s : σ} {nonce : String} {now : Instant} {cs rest : List Claim}
    {first : Claim} (hon : ∀ c ∈ cs, c.nonce = nonce → c.isVoid = false ∧ c.now = now)
    (hfree : holds s nonce now = false) (hcs : claimsOn nonce cs = first :: rest) :
    (winners s nonce cs).length = 1 ↔
      rest = [] ∨ reading σ now < reading σ first.expiresAt := by
  rw [winners_eq_take hon hfree, hcs]
  by_cases hlt : reading σ now < reading σ first.expiresAt
  · rw [List.takeWhile_cons_of_neg (by simp [hlt])]
    simp [hlt]
  · rw [List.takeWhile_cons_of_pos (by simp [hlt]), List.length_take, List.length_cons,
      List.length_cons, ← List.length_eq_zero_iff]
    simp only [hlt, or_false]
    omega

end Lawful

/-- The store of a process gives an available nonce to exactly one of the claims for it. -/
theorem MemoryStore.length_winners_eq_one {s : MemoryStore} {nonce : String} {now : Instant}
    {cs : List Claim} (hon : ∀ c ∈ cs, c.nonce = nonce → c.isVoid = false ∧ c.now = now)
    (hfree : s.isClaimed nonce now = false) (hcs : claimsOn nonce cs ≠ []) :
    (winners s nonce cs).length = 1 := by
  obtain ⟨first, rest, hfirst⟩ := List.exists_cons_of_ne_nil hcs
  have hmem : first ∈ claimsOn nonce cs := by
    rw [hfirst]
    exact List.mem_cons_self
  obtain ⟨hc, hn⟩ := List.mem_filter.mp hmem
  obtain ⟨hvoid, hnow⟩ := hon first hc (of_decide_eq_true hn)
  have hlt : now < first.expiresAt := hnow ▸ Claim.now_lt_of_not_isVoid hvoid
  have hfree' : holds s nonce now = false := hfree
  exact (length_winners_eq_one_iff hon hfree' hfirst).mpr (Or.inr hlt)

namespace TableStore

/-- Over a table that began without rows, a nonce whose last claim has expired at an ordinary
instant is available. Of several claims for an available nonce at one instant, none of them void,
the first is taken, and it is the only one if and only if it is alone or expires in a later
millisecond. A purge removes a row if and only if the claim that it stems from expires in no later
millisecond. -/
theorem taken_once_iff (before : List Step) (now : Instant) :
    (∀ nonce, (∀ c, lastTaken TableStore.empty nonce before = some c →
        c.expiresAt.Ordinary ∧ c.expiresAt ≤ now) →
      holds (storeAfter TableStore.empty before) nonce now = false) ∧
    (∀ nonce cs first rest, Text.isBlank nonce = false →
      holds (storeAfter TableStore.empty before) nonce now = false →
      claimsOn nonce cs = first :: rest →
      (∀ c ∈ first :: rest, c.now = now ∧ now < c.expiresAt) →
      first ∈ winners (storeAfter TableStore.empty before) nonce cs ∧
      ((winners (storeAfter TableStore.empty before) nonce cs).length = 1 ↔
        rest = [] ∨ now.millis < first.expiresAt.millis)) ∧
    (∀ nonce c, lastTaken TableStore.empty nonce before = some c →
      (storeAfter TableStore.empty before).ledger.get? nonce ≠ none →
      ((NonceStore.purge (storeAfter TableStore.empty before) now).1.ledger.get? nonce = none ↔
        c.expiresAt.millis ≤ now.millis)) := by
  refine ⟨?_, ?_, ?_⟩
  · intro nonce hexpired
    rw [Bool.eq_false_iff]
    intro hheld
    obtain ⟨c, hlast, hlt⟩ := exists_lastTaken_of_holds rfl hheld
    obtain ⟨hord, hle⟩ := hexpired c hlast
    have hmillis : c.expiresAt.millis ≤ now.millis := Instant.millis_le_millis hord hle
    change now.millis < c.expiresAt.millis at hlt
    omega
  · intro nonce cs first rest hblank hfree hcs hat
    have hon : ∀ c ∈ cs, c.nonce = nonce → c.isVoid = false ∧ c.now = now := by
      intro c hc hn
      have hmem : c ∈ claimsOn nonce cs := List.mem_filter.mpr ⟨hc, decide_eq_true hn⟩
      obtain ⟨hnow, hlt⟩ := hat c (hcs ▸ hmem)
      exact ⟨Claim.isVoid_eq_false (hn ▸ hblank) (hnow ▸ hlt), hnow⟩
    refine ⟨?_, length_winners_eq_one_iff hon hfree hcs⟩
    rw [winners_eq_take hon hfree, hcs, List.take_succ_cons]
    exact List.mem_cons_self
  · intro nonce c hlast hrecord
    have hpurge := get?_purge_eq_none_iff rfl hlast hrecord now
    exact hpurge.trans Int.not_lt

/-- A claim for a millisecond, made half a second past one. -/
def milliClaim : Claim := ⟨"n", ⟨1757962690, 501000000⟩, ⟨1757962690, 500000000⟩⟩

/-- A millisecond is enough: of three claims one is taken, although a claim for another nonce comes
between, and a purge at the same instant leaves its row alone. -/
theorem taken_once_of_milli :
    (winners TableStore.empty "n"
      [milliClaim, { milliClaim with nonce := "m" }, milliClaim, milliClaim]).length = 1 ∧
    (NonceStore.purge (storeAfter TableStore.empty [.claim milliClaim])
      milliClaim.now).1.ledger.get? "n" ≠ none := by
  have hone := (taken_once_iff [] milliClaim.now).2.1 "n"
    [milliClaim, { milliClaim with nonce := "m" }, milliClaim, milliClaim] milliClaim
    [milliClaim, milliClaim] (by decide) ((taken_once_iff [] milliClaim.now).1 "n" (by decide))
    (by decide) (by decide)
  have hpurge := (taken_once_iff [.claim milliClaim] milliClaim.now).2.2 "n" milliClaim (by decide)
    (by decide)
  exact ⟨hone.2.mpr (Or.inr (by decide)), mt hpurge.mp (by decide)⟩

/-- A claim for half a microsecond. -/
def briefClaim : Claim := ⟨"n", ⟨1757962690, 500⟩, ⟨1757962690, 0⟩⟩

/-- Less than a millisecond is not: the nonce is taken each time, and a purge at the same instant
removes the row although the claim has not expired. -/
theorem taken_twice_of_brief :
    briefClaim.isVoid = false ∧ holds TableStore.empty "n" briefClaim.now = false ∧
    winners TableStore.empty "n" [briefClaim, briefClaim] = [briefClaim, briefClaim] ∧
    briefClaim.now < briefClaim.expiresAt ∧
    (NonceStore.claim TableStore.empty briefClaim).1.ledger.get? "n" ≠ none ∧
    (NonceStore.purge (NonceStore.claim TableStore.empty briefClaim).1
      briefClaim.now).1.ledger.get? "n" = none := by
  decide

end TableStore

end WebhookGuard
