import WebhookGuard.Proofs.Store.Course
import WebhookGuard.Proofs.Time.Instant

/-
  Purges are not seen. Two courses that differ in their purges only give the same answers to claims
  and queries, as long as nothing after a purge looks at an instant before it. The stores of the two
  courses need not be equal: a record that has expired may be gone from one of them, where the same
  claim then inserts a record that takes one over in the other. What they agree on is what is held at
  the instants that are still to be looked at (`Agree`), and this is enough for the next answer and is
  kept by every step (`observations_eq`).

  A store has to see a purge as no later than what comes after it. The store of a process always
  does. The table counts milliseconds, and the count goes back when a leap second ends: a purge within
  the leap second removes rows that are live in the second after it (`purge_unseen_iff`).
-/
namespace WebhookGuard

open LawfulStore

namespace Course

/-! ## Courses and their purges -/

/-- The instant at which a step looks at the records and answers by what it finds. -/
def Step.looksAt? : Step → Option Instant
  | .claim c => some c.now
  | .query _ now => some now
  | .purge _ => none

def Step.isPurge : Step → Bool
  | .claim _ | .query .. => false
  | .purge _ => true

/-- The course without its purges. -/
def withoutPurges (steps : List Step) : List Step :=
  steps.filter fun step => !step.isPurge

/-- If the first step is a purge, the second does not look at an instant before it. -/
def Precedes (le : Instant → Instant → Prop) : Step → Step → Prop
  | .purge p, step => ∀ t ∈ step.looksAt?, le p t
  | .claim _, _ | .query .., _ => True

instance (le : Instant → Instant → Prop) [DecidableRel le] : DecidableRel (Precedes le)
  | .purge p, .claim c => decidable_of_iff (le p c.now) (by simp [Precedes, Step.looksAt?])
  | .purge p, .query _ now => decidable_of_iff (le p now) (by simp [Precedes, Step.looksAt?])
  | .purge _, .purge _ => isTrue (by simp [Precedes, Step.looksAt?])
  | .claim _, _ => isTrue trivial
  | .query .., _ => isTrue trivial

/-- Nothing after a purge looks at an instant before it. -/
def OrderlyBy (le : Instant → Instant → Prop) (steps : List Step) : Prop :=
  steps.Pairwise (Precedes le)

/-- Nothing after a purge looks at an earlier instant. -/
def Orderly (steps : List Step) : Prop := OrderlyBy (· ≤ ·) steps

instance (steps : List Step) : Decidable (Orderly steps) :=
  inferInstanceAs (Decidable (steps.Pairwise (Precedes (· ≤ ·))))

theorem OrderlyBy.imp {le le' : Instant → Instant → Prop} {steps : List Step}
    (h : OrderlyBy le steps)
    (himp : ∀ p t, .purge p ∈ steps → le p t → le' p t) : OrderlyBy le' steps := by
  refine List.Pairwise.imp_of_mem ?_ h
  intro a b ha _ hab
  cases a with
  | claim c => trivial
  | query nonce now => trivial
  | purge p => exact fun t ht => himp p t ha (hab t ht)

section Lawful

variable {σ τ : Type} [NonceStore σ] [LE τ] [LT τ] [DecidableRel (LT.lt : τ → τ → Prop)]
variable [LawfulStore σ τ]

/-- The answers to claims and queries, in order. -/
def observations (s : σ) : List Step → List Answer
  | [] => []
  | .claim c :: steps => (perform s (.claim c)).2 :: observations (perform s (.claim c)).1 steps
  | .query nonce now :: steps =>
    (perform s (.query nonce now)).2 :: observations (perform s (.query nonce now)).1 steps
  | .purge now :: steps => observations (perform s (.purge now)).1 steps

/-- Two stores hold the same nonces at all instants that some steps look at. -/
def Agree (steps : List Step) (s s' : σ) : Prop :=
  ∀ nonce, ∀ step ∈ steps, ∀ t ∈ step.looksAt?, holds s nonce t = holds s' nonce t

theorem Agree.tail {step : Step} {steps : List Step} {s s' : σ} (h : Agree (step :: steps) s s') :
    Agree steps s s' :=
  fun nonce other hother => h nonce other (List.mem_cons_of_mem _ hother)

theorem Agree.takes_eq {c : Claim} {steps : List Step} {s s' : σ}
    (h : Agree (.claim c :: steps) s s') : takes s c = takes s' c := by
  unfold takes
  rw [h c.nonce (.claim c) List.mem_cons_self c.now rfl]

/-- A claim is answered the same by both stores, and they go on agreeing, whether it takes over a
record or inserts one. -/
theorem Agree.claim {c : Claim} {steps : List Step} {s s' : σ}
    (h : Agree (.claim c :: steps) s s') :
    (NonceStore.claim s c).2 = (NonceStore.claim s' c).2 ∧
      Agree steps (NonceStore.claim s c).1 (NonceStore.claim s' c).1 := by
  refine ⟨by rw [claim_snd, claim_snd, h.takes_eq], ?_⟩
  intro nonce step hstep t ht
  rw [holds_claim_eq, holds_claim_eq, h.takes_eq, h.tail nonce step hstep t ht]

variable [Std.IsLinearOrder τ] [Std.LawfulOrderLT τ]

/-- A purge of one of two stores does not part them, if it comes before all that is still looked
at. -/
theorem Agree.purge {p : Instant} {steps : List Step} {s s' : σ} (hd : (ledger s).Distinct)
    (ho : OrderlyBy (fun p t => reading σ p ≤ reading σ t) (.purge p :: steps))
    (h : Agree steps s s') : Agree steps (NonceStore.purge s p).1 s' := by
  intro nonce step hstep t ht
  have hle := (List.pairwise_cons.mp ho).1 step hstep t ht
  rw [holds_purge_eq hd nonce hle]
  exact h nonce step hstep t ht

/-- The induction is on the course. It carries a second store that is not purged. -/
theorem observations_withoutPurges {s s' : σ} {steps : List Step} (hd : (ledger s).Distinct)
    (ho : OrderlyBy (fun p t => reading σ p ≤ reading σ t) steps) (h : Agree steps s s') :
    observations s steps = observations s' (withoutPurges steps) := by
  induction steps generalizing s s' with
  | nil => rfl
  | cons step steps ih =>
    have ho' := (List.pairwise_cons.mp ho).2
    cases step with
    | claim c =>
      obtain ⟨hreply, hafter⟩ := h.claim
      have hrest := ih (distinct_claim hd c) ho' hafter
      exact List.cons_eq_cons.mpr ⟨congrArg Answer.claimed hreply, hrest⟩
    | query nonce now =>
      have hanswer := h nonce (.query nonce now) List.mem_cons_self now rfl
      have hrest := ih hd ho' h.tail
      exact List.cons_eq_cons.mpr ⟨congrArg Answer.live hanswer, hrest⟩
    | purge p => exact ih (distinct_purge hd p) ho' (h.tail.purge hd ho)

/-- Courses that differ in their purges only are answered the same. -/
theorem observations_eq {s : σ} {xs ys : List Step} (hd : (ledger s).Distinct)
    (hx : OrderlyBy (fun p t => reading σ p ≤ reading σ t) xs)
    (hy : OrderlyBy (fun p t => reading σ p ≤ reading σ t) ys)
    (hxy : withoutPurges xs = withoutPurges ys) : observations s xs = observations s ys := by
  have hagree : ∀ steps, Agree steps s s := fun _ _ _ _ _ _ => rfl
  rw [observations_withoutPurges hd hx (hagree xs), observations_withoutPurges hd hy (hagree ys),
    hxy]

end Lawful

/-- From a store without records on, no nonce gets two of them. -/
theorem distinct_memory (before : List Step) :
    (ledger (storeAfter MemoryStore.empty before)).Distinct :=
  distinct_storeAfter Ledger.distinct_empty before

theorem distinct_table (before : List Step) :
    (ledger (storeAfter TableStore.empty before)).Distinct :=
  distinct_storeAfter Ledger.distinct_empty before

end Course

open Course

/-! ## The store of a process -/

/-- A purge keeps exactly the records that expire later, and counts the others. -/
theorem MemoryStore.purge_exact (s : MemoryStore) (now : Instant) :
    (∀ record, record ∈ (s.purge now).1.ledger.records ↔
      record ∈ s.ledger.records ∧ now < record.2) ∧
    (s.purge now).2 = s.ledger.records.countP fun record => !decide (now < record.2) := by
  refine ⟨fun record => Ledger.mem_live, ?_⟩
  have hsplit := List.length_eq_countP_add_countP (fun record : String × Instant =>
    decide (now < record.2)) (l := s.ledger.records)
  show s.ledger.records.length - (s.ledger.records.filter _).length = _
  rw [← List.countP_eq_length_filter, hsplit]
  simp

/-! ## The table -/

namespace TableStore

/-- A claim that expires at an instant. -/
def claimUntil (p : Instant) : Claim := ⟨"n", p, ⟨p.secs - 1, 0⟩⟩

/-- A claim on the same nonce that is made at an instant. -/
def claimFrom (t : Instant) : Claim := ⟨"n", ⟨t.secs + 1, 0⟩, t⟩

theorem isVoid_claimUntil (p : Instant) : (claimUntil p).isVoid = false := by
  have hn : Text.isBlank "n" = false := by decide
  refine Claim.isVoid_eq_false hn (Instant.lt_of_secs_lt ?_)
  show p.secs - 1 < p.secs
  omega

theorem isVoid_claimFrom (t : Instant) : (claimFrom t).isVoid = false := by
  have hn : Text.isBlank "n" = false := by decide
  refine Claim.isVoid_eq_false hn (Instant.lt_of_secs_lt ?_)
  show t.secs < t.secs + 1
  omega

/-- A row that expires at a purge is removed by it, and is live in every earlier millisecond if it is
not purged. -/
theorem purge_seen_of_lt {p t : Instant} (hlt : t.millis < p.millis) :
    (NonceStore.claim (NonceStore.purge (NonceStore.claim empty (claimUntil p)).1 p).1
      (claimFrom t)).2 ≠
    (NonceStore.claim (NonceStore.claim empty (claimUntil p)).1 (claimFrom t)).2 := by
  have htakes : takes empty (claimUntil p) = true := takes_iff.mpr ⟨isVoid_claimUntil p, rfl⟩
  have hheld : holds (NonceStore.claim empty (claimUntil p)).1 "n" t = true :=
    holds_of_takes htakes hlt
  have hgone : holds (NonceStore.purge (NonceStore.claim empty (claimUntil p)).1 p).1 "n" t =
      false := not_holds_of_purged htakes t
  rw [claim_snd, claim_snd, takes_iff.mpr ⟨isVoid_claimFrom t, hgone⟩]
  intro hsame
  have htaken : takes (NonceStore.claim empty (claimUntil p)).1 (claimFrom t) = true :=
    (Except.ok.inj (congrArg Reply.answer hsame)).symm
  exact Bool.noConfusion (hheld.symm.trans (takes_iff.mp htaken).2)

/-- A claim that the table gets after a purge is answered as it would be without, whatever the table
holds, if and only if the claim looks at no earlier millisecond than the purge. -/
theorem purge_unseen_iff (p t : Instant) :
    (∀ (before : List Step) (c : Claim), c.now = t →
      (NonceStore.claim (NonceStore.purge (storeAfter empty before) p).1 c).2 =
        (NonceStore.claim (storeAfter empty before) c).2) ↔
      p.millis ≤ t.millis := by
  constructor
  · intro h
    apply Int.not_lt.mp
    intro hlt
    exact purge_seen_of_lt hlt (h [.claim (claimUntil p)] (claimFrom t) rfl)
  · intro hle before c hc
    have hagree : holds (NonceStore.purge (storeAfter empty before) p).1 c.nonce c.now =
        holds (storeAfter empty before) c.nonce c.now :=
      holds_purge_eq (distinct_table before) c.nonce (hc ▸ hle)
    rw [claim_snd, claim_snd]
    unfold takes
    rw [hagree]

end TableStore

namespace Course

/-- Two courses that differ in their purges only, where nothing after a purge looks at an earlier
instant, are answered the same by the store of a process, which keeps exactly the records that expire
later when it is purged. They are answered the same by the table if their purges are at ordinary
instants; a single purge goes unseen by what comes after it if and only if that looks at no earlier
millisecond. -/
theorem purges_unseen (before : List Step) {xs ys : List Step} (hx : Orderly xs) (hy : Orderly ys)
    (hxy : withoutPurges xs = withoutPurges ys) (p : Instant) :
    observations (storeAfter MemoryStore.empty before) xs =
      observations (storeAfter MemoryStore.empty before) ys ∧
    ((∀ record, record ∈ ((storeAfter MemoryStore.empty before).purge p).1.ledger.records ↔
        record ∈ (storeAfter MemoryStore.empty before).ledger.records ∧ p < record.2) ∧
      ((storeAfter MemoryStore.empty before).purge p).2 =
        (storeAfter MemoryStore.empty before).ledger.records.countP fun record =>
          !decide (p < record.2)) ∧
    ((∀ now, .purge now ∈ xs ++ ys → now.Ordinary) →
      observations (storeAfter TableStore.empty before) xs =
        observations (storeAfter TableStore.empty before) ys) ∧
    ∀ t : Instant,
      (∀ (earlier : List Step) (c : Claim), c.now = t →
        (NonceStore.claim (NonceStore.purge (storeAfter TableStore.empty earlier) p).1 c).2 =
          (NonceStore.claim (storeAfter TableStore.empty earlier) c).2) ↔
        p.millis ≤ t.millis := by
  refine ⟨observations_eq (distinct_memory before) hx hy hxy, MemoryStore.purge_exact _ p, ?_,
    TableStore.purge_unseen_iff p⟩
  intro hord
  have hx' := OrderlyBy.imp hx fun now t hmem =>
    Instant.millis_le_millis (b := t) (hord now (List.mem_append_left _ hmem))
  have hy' := OrderlyBy.imp hy fun now t hmem =>
    Instant.millis_le_millis (b := t) (hord now (List.mem_append_right _ hmem))
  exact observations_eq (distinct_table before) hx' hy' hxy

/-- The nonce is claimed, and claimed again before and after it expires, with purges at both
expiries. -/
def purgedCourse : List Step :=
  [ .claim ⟨"n", ⟨10, 500⟩, ⟨5, 0⟩⟩,
    .purge ⟨9, 999999999⟩,
    .claim ⟨"n", ⟨30, 0⟩, ⟨10, 0⟩⟩,
    .purge ⟨10, 500⟩,
    .claim ⟨"n", ⟨20, 0⟩, ⟨10, 1000500⟩⟩,
    .purge ⟨20, 0⟩,
    .query "n" ⟨20, 0⟩ ]

theorem purges_unseen_of_purgedCourse :
    observations MemoryStore.empty purgedCourse =
      observations MemoryStore.empty (withoutPurges purgedCourse) ∧
    observations TableStore.empty purgedCourse =
      observations TableStore.empty (withoutPurges purgedCourse) := by
  have hord : ∀ now, .purge now ∈ purgedCourse ++ withoutPurges purgedCourse → now.Ordinary := by
    intro now hnow
    simp only [purgedCourse, withoutPurges, Step.isPurge, List.mem_append, List.mem_cons,
      List.mem_filter] at hnow
    grind [Instant.Ordinary, Instant.nanosPerSec]
  have hx : Orderly purgedCourse := by decide
  have hy : Orderly (withoutPurges purgedCourse) := by decide
  obtain ⟨hmemory, -, htable, -⟩ := purges_unseen [] hx hy (by decide) ⟨10, 500⟩
  exact ⟨hmemory, htable hord⟩

/-- A nonce is claimed until half a second past the end of the year 2016, which ended with a leap
second. The table is purged within the leap second, and the nonce is claimed again when the year is
over. -/
def leapCourse : List Step :=
  [ .claim ⟨"n", ⟨1483228800, 500000000⟩, ⟨1483228790, 0⟩⟩,
    .purge ⟨1483228799, 1900000000⟩,
    .claim ⟨"n", ⟨1483228900, 0⟩, ⟨1483228800, 0⟩⟩ ]

/-- Without the purge the second claim is refused, as it should be; after the purge it is taken. -/
theorem purge_seen_of_leapCourse :
    Orderly leapCourse ∧ Orderly (withoutPurges leapCourse) ∧
    observations TableStore.empty leapCourse =
      [.claimed { answer := .ok true }, .claimed { answer := .ok true }] ∧
    observations TableStore.empty (withoutPurges leapCourse) =
      [.claimed { answer := .ok true }, .claimed { answer := .ok false }] :=
  ⟨by decide, by decide, rfl, rfl⟩

end Course

end WebhookGuard
