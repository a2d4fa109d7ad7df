import WebhookGuard.Proofs.Replay.Run
import WebhookGuard.Proofs.Verifier.Flight
import WebhookGuard.Proofs.Verifier.Signed

/-
  Calls that overlap. One clock runs over a table, and any number of calls are under way at a time.
  A call reads the clock and does its checks when it starts; its claim takes effect at some later
  moment, and is given up for lost when the time limit of the store has passed by then. At any moment
  the table may be purged by the clock as it stands.

  From an accepted call on, its nonce is held at all readings that the clock may still show before
  the expiry of the call (`Inv`). A second call with the same message is judged by the reading at
  its start, but finds the record only if no purge came between. Hence a message is accepted at
  most once if claims for it outlast those that may be under way (`atMostOnce_of_outlasts`), and
  otherwise there is a course of events in which it is accepted twice (`exists_accepted_twice`).
-/
namespace WebhookGuard

open LawfulStore

/-- A table on which several calls are at work. -/
structure InFlight where
  clock : Instant
  table : TableStore
  /-- The deliveries that have passed the checks, each with the claim that is under way for it. -/
  pending : List (Delivery × Claim) := []
  /-- The calls that have returned, the last one first. -/
  finished : List Call := []

namespace InFlight

/-- No call has started. -/
structure Idle (s : InFlight) : Prop where
  clock : s.clock.IsReading
  pending : s.pending = []
  finished : s.finished = []

/-- A call starts. Unless it fails a check, its claim is then under way. -/
def start (s : InFlight) (v : Verifier) (body : Bytes) (headers : Headers) : InFlight :=
  match v.check ⟨body, headers, s.clock⟩ with
  | .error refusal =>
    { s with finished :=
        ⟨v, ⟨body, headers, s.clock⟩, .rejected refusal.reason⟩ :: s.finished }
  | .ok c => { s with pending := (⟨body, headers, s.clock⟩, c) :: s.pending }

/-- The answer to a claim that takes effect now, if it is in time. -/
def answer (s : InFlight) (v : Verifier) (p : Delivery × Claim) : Except StoreError Bool :=
  if s.clock.since p.1.now ≤ v.options.storeTimeout.nanos then
    (NonceStore.claim s.table p.2).2.answer
  else .error (.timedOut v.options.storeTimeout)

/-- A claim takes effect, and its call returns. -/
def commit (s : InFlight) (v : Verifier) (p : Delivery × Claim) : InFlight :=
  { s with
    table := (NonceStore.claim s.table p.2).1
    pending := s.pending.erase p
    finished := ⟨v, p.1, Verifier.verdictOf (s.answer v p)⟩ :: s.finished }

def sweep (s : InFlight) : InFlight :=
  { s with table := (NonceStore.purge s.table s.clock).1 }

/-- What may happen next. -/
inductive Step (v : Verifier) : InFlight → InFlight → Prop where
  | tick (s : InFlight) (now : Instant) :
    s.clock ≤ now → now.IsReading → Step v s { s with clock := now }
  | start (s : InFlight) (body : Bytes) (headers : Headers) : Step v s (s.start v body headers)
  | commit (s : InFlight) (p : Delivery × Claim) : p ∈ s.pending → Step v s (s.commit v p)
  | sweep (s : InFlight) : Step v s s.sweep

/-- What may come of any table by and by. -/
inductive Reachable (v : Verifier) : InFlight → Prop where
  | idle {s : InFlight} : s.Idle → Reachable v s
  | step {s t : InFlight} : Reachable v s → Step v s t → Reachable v t

variable {v : Verifier} {s : InFlight}

theorem start_of_check {body : Bytes} {headers : Headers} {c : Claim}
    (h : v.check ⟨body, headers, s.clock⟩ = .ok c) :
    s.start v body headers =
      { s with pending := (⟨body, headers, s.clock⟩, c) :: s.pending } := by
  unfold start
  rw [h]

/-- A call is accepted when its claim takes effect in time and takes the nonce. -/
theorem verdictOf_answer_iff {p : Delivery × Claim} :
    Verifier.verdictOf (s.answer v p) = .accepted ↔
      s.clock.since p.1.now ≤ v.options.storeTimeout.nanos ∧ takes s.table p.2 = true := by
  unfold answer
  rw [claim_snd]
  split
  · next h =>
    cases ht : takes s.table p.2 <;> simp [Verifier.verdictOf, h]
  · next h => simp [Verifier.verdictOf, h]

theorem commit_of_takes {p : Delivery × Claim}
    (hintime : s.clock.since p.1.now ≤ v.options.storeTimeout.nanos)
    (htakes : takes s.table p.2 = true) :
    s.commit v p =
      { s with
        table := (NonceStore.claim s.table p.2).1
        pending := s.pending.erase p
        finished := ⟨v, p.1, .accepted⟩ :: s.finished } := by
  unfold commit
  rw [verdictOf_answer_iff.mpr ⟨hintime, htakes⟩]

/-- A call that nothing comes between is a verification. -/
theorem commit_start {body : Bytes} {headers : Headers} {c : Claim}
    (h : v.check ⟨body, headers, s.clock⟩ = .ok c) :
    (s.start v body headers).commit v (⟨body, headers, s.clock⟩, c) =
      { s with
        table := (v.verify s.table ⟨body, headers, s.clock⟩).store
        finished := ⟨v, ⟨body, headers, s.clock⟩,
          (v.verify s.table ⟨body, headers, s.clock⟩).verdict⟩ :: s.finished } := by
  have htime : s.clock.since s.clock ≤ v.options.storeTimeout.nanos := by
    rw [Instant.since_self]
    omega
  have hverdict : (v.verify s.table ⟨body, headers, s.clock⟩).verdict =
      Verifier.verdictOf (NonceStore.claim s.table c).2.answer := by
    rw [Verifier.verdict_of_check s.table h, claim_snd]
    cases takes s.table c <;> rfl
  rw [start_of_check h, Verifier.store_of_check s.table h, hverdict]
  unfold commit answer
  rw [List.erase_cons_head, if_pos htime]

/-! ## What is held -/

/-- The nonce of an accepted call is held at every reading that the clock may still show before the
expiry of the call. -/
def Keeps (v : Verifier) (s : InFlight) (a : Call) : Prop :=
  ∃ c, v.check a.delivery = .ok c ∧ c.isVoid = false ∧
    a.delivery.now.IsReading ∧ a.delivery.now ≤ s.clock ∧
    ∀ t, s.clock ≤ t → t.millis < c.expiresAt.millis → holds s.table c.nonce t = true

/-- What holds of all that may come. -/
structure Inv (v : Verifier) (s : InFlight) : Prop where
  clock : s.clock.IsReading
  pending : ∀ p ∈ s.pending,
    v.check p.1 = .ok p.2 ∧ p.1.now.IsReading ∧ p.1.now ≤ s.clock
  verifier : ∀ a ∈ s.finished, a.verifier = v
  accepted : ∀ a ∈ s.finished, a.verdict = .accepted → Keeps v s a

theorem Idle.inv (h : s.Idle) : Inv v s := by
  refine ⟨h.clock, ?_, ?_, ?_⟩
  · rw [h.pending]
    exact fun p hp => absurd hp List.not_mem_nil
  · rw [h.finished]
    exact fun a ha => absurd ha List.not_mem_nil
  · rw [h.finished]
    exact fun a ha => absurd ha List.not_mem_nil

theorem Inv.tick (h : Inv v s) {now : Instant} (hle : s.clock ≤ now) (hnow : now.IsReading) :
    Inv v { s with clock := now } := by
  refine ⟨hnow, ?_, h.verifier, ?_⟩
  · intro p hp
    obtain ⟨hcheck, hread, hbefore⟩ := h.pending p hp
    exact ⟨hcheck, hread, by grind⟩
  · intro a ha hacc
    obtain ⟨c, hcheck, hvoid, hread, hbefore, hheld⟩ := h.accepted a ha hacc
    exact ⟨c, hcheck, hvoid, hread, by grind, fun t ht hlt => hheld t (by grind) hlt⟩

theorem Inv.start (h : Inv v s) (body : Bytes) (headers : Headers) :
    Inv v (s.start v body headers) := by
  cases hcheck : v.check ⟨body, headers, s.clock⟩ with
  | error refusal =>
    unfold InFlight.start
    rw [hcheck]
    refine ⟨h.clock, h.pending, ?_, ?_⟩
    · intro a ha
      rcases List.mem_cons.mp ha with rfl | ha
      · rfl
      · exact h.verifier a ha
    · intro a ha hacc
      rcases List.mem_cons.mp ha with rfl | ha
      · cases hacc
      · exact h.accepted a ha hacc
  | ok c =>
    rw [start_of_check hcheck]
    refine ⟨h.clock, ?_, h.verifier, h.accepted⟩
    intro p hp
    rcases List.mem_cons.mp hp with rfl | hp
    · exact ⟨hcheck, h.clock, Std.IsPreorder.le_refl _⟩
    · exact h.pending p hp

theorem Inv.commit (h : Inv v s) {p : Delivery × Claim} (hp : p ∈ s.pending) :
    Inv v (s.commit v p) := by
  obtain ⟨hcheck, hread, hbefore⟩ := h.pending p hp
  obtain ⟨timestamp, sent, -, -, hc⟩ := Verifier.check_eq_ok_iff.mp hcheck
  have hnow : p.2.now = p.1.now := by rw [hc]
  refine ⟨h.clock, fun q hq => h.pending q (List.mem_of_mem_erase hq), ?_, ?_⟩
  · intro a ha
    rcases List.mem_cons.mp ha with rfl | ha
    · rfl
    · exact h.verifier a ha
  · intro a ha hacc
    rcases List.mem_cons.mp ha with rfl | ha
    · have ht := (verdictOf_answer_iff.mp hacc).2
      exact ⟨p.2, hcheck, (takes_iff.mp ht).1, hread, hbefore,
        fun t _ hlt => holds_of_takes ht hlt⟩
    · obtain ⟨c, hcheck', hvoid, hread', hbefore', hheld⟩ := h.accepted a ha hacc
      refine ⟨c, hcheck', hvoid, hread', hbefore', fun t ht hlt => ?_⟩
      exact holds_claim (hheld t ht hlt) (by rw [hnow]; exact hread.1)

theorem Inv.sweep (h : Inv v s) : Inv v s.sweep := by
  refine ⟨h.clock, h.pending, h.verifier, ?_⟩
  intro a ha hacc
  obtain ⟨c, hcheck, hvoid, hread, hbefore, hheld⟩ := h.accepted a ha hacc
  exact ⟨c, hcheck, hvoid, hread, hbefore,
    fun t ht hlt => holds_purge (hheld t ht hlt) h.clock.1 ht⟩

theorem Inv.step (h : Inv v s) {t : InFlight} (hs : Step v s t) : Inv v t := by
  cases hs with
  | tick now hle hnow => exact h.tick hle hnow
  | start body headers => exact h.start body headers
  | commit p hp => exact h.commit hp
  | sweep => exact h.sweep

theorem Reachable.inv (h : Reachable v s) : Inv v s := by
  induction h with
  | idle hi => exact hi.inv
  | step _ hs ih => exact ih.step hs

/-! ## Accepted at most once -/

/-- A call that reads this timestamp and this nonce. -/
def Carries (timestamp nonce : String) (a : Call) : Prop :=
  a.timestamp? = some timestamp ∧ a.nonce? = some nonce

/-- Of two calls with this timestamp and this nonce, not both are accepted. -/
def Apart (timestamp nonce : String) (a b : Call) : Prop :=
  Carries timestamp nonce a → Carries timestamp nonce b →
    ¬ (a.verdict = .accepted ∧ b.verdict = .accepted)

/-- Whatever happens, no two calls with this timestamp and this nonce are accepted. -/
def AtMostOnce (v : Verifier) (timestamp nonce : String) : Prop :=
  ∀ s, Reachable v s → s.finished.Pairwise (Apart timestamp nonce)

/-- The claim of a message at a reading. -/
def claimAt (v : Verifier) (nonce : String) (sent now : Instant) : Claim :=
  ⟨nonce, v.expiry now sent, now⟩

theorem eq_claimAt {timestamp nonce : String} {sent : Instant} {d : Delivery} {c : Claim}
    (hread : Timestamp.read? v.options.timestampPolicy timestamp = some sent)
    (hcheck : v.check d = .ok c) (ht : v.timestamp? d.headers = some timestamp)
    (hn : v.nonce? d.headers = some nonce) :
    v.IsFresh d.now sent ∧ c = claimAt v nonce sent d.now := by
  obtain ⟨timestamp', sent', hauth, hfresh, hc⟩ := Verifier.check_eq_ok_iff.mp hcheck
  obtain rfl : timestamp' = timestamp := Option.some.inj (hauth.timestamp_eq.symm.trans ht)
  obtain rfl : sent' = sent := Option.some.inj (hauth.read_eq.symm.trans hread)
  have hnonce : c.nonce = nonce := Option.some.inj (hauth.nonce_eq.symm.trans hn)
  rw [hnonce] at hc
  exact ⟨hfresh, hc⟩

/-- A claim that takes effect in time finds the nonce held if another call with its message was
accepted before. -/
theorem not_accepted_of_keeps {timestamp nonce : String} {sent : Instant}
    (hread : Timestamp.read? v.options.timestampPolicy timestamp = some sent)
    (hout : v.OutlastsFlights sent) (h : Inv v s) {p : Delivery × Claim} (hp : p ∈ s.pending)
    {a : Call} (ha : a ∈ s.finished) (hacc : a.verdict = .accepted)
    (hca : Carries timestamp nonce a)
    (hcp : v.timestamp? p.1.headers = some timestamp ∧ v.nonce? p.1.headers = some nonce) :
    Verifier.verdictOf (s.answer v p) ≠ .accepted := by
  intro haccp
  obtain ⟨hintime, htakes⟩ := verdictOf_answer_iff.mp haccp
  obtain ⟨hvoidp, hfree⟩ := takes_iff.mp htakes
  obtain ⟨hcheckp, hreadp, hbeforep⟩ := h.pending p hp
  obtain ⟨c, hchecka, hvoida, hreada, hbeforea, hheld⟩ := h.accepted a ha hacc
  have halt := Verifier.lt_latest_of_check hchecka hvoida
  have hplt := Verifier.lt_latest_of_check hcheckp hvoidp
  obtain ⟨hta, hna⟩ := hca
  unfold Call.timestamp? at hta
  unfold Call.nonce? at hna
  rw [h.verifier a ha] at hta hna
  obtain ⟨hfresha, rfl⟩ := eq_claimAt hread hchecka hta hna
  obtain ⟨hfreshp, hclaimp⟩ := eq_claimAt hread hcheckp hcp.1 hcp.2
  rw [hclaimp] at hfree
  -- The record of the accepted call outlasts this moment, so no purge can have removed it.
  have hlate : s.clock.millis < (v.expiry a.delivery.now sent).millis :=
    hout _ _ _ hreada hreadp h.clock hfresha hfreshp halt hplt hbeforea hbeforep hintime
  have hnow : holds s.table nonce s.clock = true := hheld s.clock (Std.IsPreorder.le_refl _) hlate
  have hstart : holds s.table nonce p.1.now = true := holds_of_le hnow hreadp.1 hbeforep
  exact Bool.noConfusion (hstart.symm.trans hfree)

theorem pairwise_apart_step {timestamp nonce : String} {sent : Instant}
    (hread : Timestamp.read? v.options.timestampPolicy timestamp = some sent)
    (hout : v.OutlastsFlights sent) (h : Inv v s)
    (hs : s.finished.Pairwise (Apart timestamp nonce)) {t : InFlight} (hstep : Step v s t) :
    t.finished.Pairwise (Apart timestamp nonce) := by
  cases hstep with
  | tick now => exact hs
  | sweep => exact hs
  | start body headers =>
    unfold InFlight.start
    split
    · refine List.pairwise_cons.mpr ⟨?_, hs⟩
      rintro a - - - ⟨hrejected, -⟩
      cases hrejected
    · exact hs
  | commit p hp =>
    refine List.pairwise_cons.mpr ⟨?_, hs⟩
    rintro a ha hcp hca ⟨haccp, hacca⟩
    exact not_accepted_of_keeps hread hout h hp ha hacca hca hcp haccp

theorem atMostOnce_of_outlasts {timestamp nonce : String} {sent : Instant}
    (hread : Timestamp.read? v.options.timestampPolicy timestamp = some sent)
    (hout : v.OutlastsFlights sent) : AtMostOnce v timestamp nonce := by
  intro s hs
  induction hs with
  | idle hi =>
    rw [hi.finished]
    exact List.Pairwise.nil
  | step hr hstep ih => exact pairwise_apart_step hread hout hr.inv ih hstep

/-! ## Accepted twice -/

section Twice

variable {body : Bytes} {headers : Headers} {timestamp nonce : String} {sent a b c : Instant}

theorem start_of_fresh (hauth : v.Authentic body headers timestamp nonce sent)
    (hf : v.IsFresh a sent) (table : TableStore) (pending : List (Delivery × Claim))
    (finished : List Call) :
    (InFlight.mk a table pending finished).start v body headers =
      ⟨a, table, (⟨body, headers, a⟩, claimAt v nonce sent a) :: pending, finished⟩ := by
  have hcheck : v.check ⟨body, headers, a⟩ = .ok (claimAt v nonce sent a) := hauth.check_eq hf
  exact start_of_check (s := InFlight.mk a table pending finished) hcheck

theorem takes_claimAt (hauth : v.Authentic body headers timestamp nonce sent) {table : TableStore}
    (hf : v.IsFresh a sent) (hlt : a < .latest) (hfree : holds table nonce a = false) :
    takes table (claimAt v nonce sent a) = true := by
  have hcheck : v.check ⟨body, headers, a⟩ = .ok (claimAt v nonce sent a) := hauth.check_eq hf
  have htakes := Verifier.takes_of_check (s := table) hcheck hlt
  rw [htakes, show holds table (claimAt v nonce sent a).nonce a = false from hfree]
  rfl

/-- A call that starts over an empty table is accepted, and other claims stay under way. -/
theorem commit_empty (hauth : v.Authentic body headers timestamp nonce sent)
    (hf : v.IsFresh a sent) (hlt : a < .latest) (pending : List (Delivery × Claim)) :
    (InFlight.mk a .empty ((⟨body, headers, a⟩, claimAt v nonce sent a) :: pending) []).commit v
        (⟨body, headers, a⟩, claimAt v nonce sent a) =
      ⟨a, (NonceStore.claim TableStore.empty (claimAt v nonce sent a)).1, pending,
        [⟨v, ⟨body, headers, a⟩, .accepted⟩]⟩ := by
  have hintime : a.since a ≤ v.options.storeTimeout.nanos := by
    rw [Instant.since_self]
    omega
  have htakes : takes TableStore.empty (claimAt v nonce sent a) = true :=
    takes_claimAt hauth hf hlt rfl
  have hcommit := commit_of_takes (s := InFlight.mk a .empty
    ((⟨body, headers, a⟩, claimAt v nonce sent a) :: pending) [])
    (p := (⟨body, headers, a⟩, claimAt v nonce sent a)) hintime htakes
  rw [hcommit, List.erase_cons_head]

/-- A call is accepted over an empty table while another one with the same message is under way.
Either of the two may have started first. -/
theorem exists_pending (hauth : v.Authentic body headers timestamp nonce sent)
    (ha : a.IsReading) (hb : b.IsReading) (hfa : v.IsFresh a sent) (hfb : v.IsFresh b sent)
    (halt : a < .latest) (hac : a ≤ c) (hbc : b ≤ c) :
    ∃ s, Reachable v s ∧ s.clock ≤ c ∧
      s.table = (NonceStore.claim TableStore.empty (claimAt v nonce sent a)).1 ∧
      s.pending = [(⟨body, headers, b⟩, claimAt v nonce sent b)] ∧
      s.finished = [⟨v, ⟨body, headers, a⟩, .accepted⟩] := by
  rcases Std.IsLinearPreorder.le_total a b with hab | hba
  · have h0 : Reachable v (InFlight.mk a .empty [] []) := .idle ⟨ha, rfl, rfl⟩
    have h1 := h0.step (.start _ body headers)
    rw [start_of_fresh hauth hfa] at h1
    have h2 := h1.step (.commit _ _ List.mem_cons_self)
    rw [commit_empty hauth hfa halt] at h2
    have h3 := (h2.step (.tick _ b hab hb)).step (.start _ body headers)
    rw [start_of_fresh hauth hfb] at h3
    exact ⟨_, h3, hbc, rfl, rfl, rfl⟩
  · have h0 : Reachable v (InFlight.mk b .empty [] []) := .idle ⟨hb, rfl, rfl⟩
    have h1 := h0.step (.start _ body headers)
    rw [start_of_fresh hauth hfb] at h1
    have h2 := (h1.step (.tick _ a hba ha)).step (.start _ body headers)
    rw [start_of_fresh hauth hfa] at h2
    have h3 := h2.step (.commit _ _ List.mem_cons_self)
    rw [commit_empty hauth hfa halt] at h3
    exact ⟨_, h3, hac, rfl, rfl, rfl⟩

/-- If a purge removes the record of the accepted call before the other claim takes effect, the
other call is accepted too. -/
theorem exists_accepted_twice (hauth : v.Authentic body headers timestamp nonce sent)
    (ha : a.IsReading) (hb : b.IsReading) (hc : c.IsReading) (hfa : v.IsFresh a sent)
    (hfb : v.IsFresh b sent) (halt : a < .latest) (hblt : b < .latest) (hac : a ≤ c)
    (hbc : b ≤ c) (hintime : c.since b ≤ v.options.storeTimeout.nanos)
    (hexpired : ¬ c.millis < (v.expiry a sent).millis) :
    ∃ s, Reachable v s ∧
      s.finished = [⟨v, ⟨body, headers, b⟩, .accepted⟩, ⟨v, ⟨body, headers, a⟩, .accepted⟩] := by
  obtain ⟨s, hs, hclock, htable, hpending, hfinished⟩ :=
    exists_pending hauth ha hb hfa hfb halt hac hbc
  have hfree : holds (NonceStore.purge s.table c).1 nonce b = false := by
    rw [Bool.eq_false_iff]
    intro hheld
    obtain ⟨expiry, hmem, -⟩ := exists_of_holds hheld
    rw [ledger_purge, htable] at hmem
    obtain ⟨hrecord, hlt⟩ := Ledger.mem_live.mp hmem
    rw [eq_of_mem_ledger_claim (takes_claimAt hauth hfa halt rfl) hrecord] at hlt
    exact hexpired hlt
  have hpurged : Reachable v (InFlight.sweep { s with clock := c }) :=
    (hs.step (.tick s c hclock hc)).step (.sweep _)
  have hmem : (⟨body, headers, b⟩, claimAt v nonce sent b) ∈ s.pending := by
    rw [hpending]
    exact List.mem_cons_self
  refine ⟨_, hpurged.step (.commit _ _ hmem), ?_⟩
  have hcommit := commit_of_takes (s := InFlight.sweep { s with clock := c })
    (p := (⟨body, headers, b⟩, claimAt v nonce sent b)) hintime
    (takes_claimAt hauth hfb hblt hfree)
  rw [hcommit]
  show Call.mk v ⟨body, headers, b⟩ .accepted :: s.finished = _
  rw [hfinished]

theorem outlasts_of_atMostOnce (hauth : v.Authentic body headers timestamp nonce sent)
    (h : AtMostOnce v timestamp nonce) : v.OutlastsFlights sent := by
  intro a b c ha hb hc hfa hfb halt hblt hac hbc hintime
  apply Classical.byContradiction
  intro hexpired
  obtain ⟨s, hs, hfinished⟩ := exists_accepted_twice hauth ha hb hc hfa hfb halt hblt hac hbc
    hintime hexpired
  have hpair := h s hs
  rw [hfinished] at hpair
  have hcarries : ∀ now, Carries timestamp nonce ⟨v, ⟨body, headers, now⟩, .accepted⟩ :=
    fun _ => ⟨hauth.timestamp_eq, hauth.nonce_eq⟩
  exact (List.pairwise_cons.mp hpair).1 _ List.mem_cons_self (hcarries b) (hcarries a) ⟨rfl, rfl⟩

end Twice

/-- With claims under way and purges at any moment, a message is accepted at most once if and only
if its claims outlast those that may be under way. For an ordinary timestamp, away from the ends of
the calendar, this says that a message stops being fresh more than the time limit of the store before
the first of its claims can expire. The table compares the two in whole milliseconds. -/
theorem atMostOnce_iff {body : Bytes} {headers : Headers} {timestamp nonce : String}
    {sent : Instant} (hauth : v.Authentic body headers timestamp nonce sent) :
    (AtMostOnce v timestamp nonce ↔ v.OutlastsFlights sent) ∧
    (sent.Ordinary → (v.firstFresh sent).InRange → (v.lastFlight sent).InRange →
      v.InCalendar (v.firstFresh sent) sent →
      (AtMostOnce v timestamp nonce ↔
        (sent.count + min (v.options.allowedClockSkew.nanos : Int) v.options.maxMessageAge.nanos +
          v.options.storeTimeout.nanos) / 1000000 <
        (sent.count + max (v.options.allowedClockSkew.nanos : Int)
          (v.options.maxMessageAge.nanos - v.options.allowedClockSkew.nanos) + 1000000000) /
          1000000)) := by
  have hiff : AtMostOnce v timestamp nonce ↔ v.OutlastsFlights sent :=
    ⟨outlasts_of_atMostOnce hauth, atMostOnce_of_outlasts hauth.read_eq⟩
  refine ⟨hiff, fun hs hfirst hlast hc => hiff.trans ?_⟩
  rw [Verifier.outlastsFlights_iff hs hfirst hlast hc]
  exact Verifier.lastFlight_lt_expiry_iff hs hc

/-- A verifier that gives its store half a second. -/
def promptVerifier : Verifier where
  options := { secret := [107], storeTimeout := .ofMillis 500 }
  sound := by decide

/-- Half a second is little enough. -/
theorem atMostOnce_of_prompt : AtMostOnce promptVerifier "1757962690" "n" := by
  have hread : Timestamp.read? .flexible "1757962690" = some ⟨1757962690, 0⟩ := by decide +kernel
  have ht : Text.isBlank "1757962690" = false := by decide
  have hnames : ∀ role, promptVerifier.options.header role = role.defaultName := by
    intro role
    cases role <;> rfl
  have hn : Text.isBlank "n" = false := by decide
  have hauth := Verifier.authentic_signed (v := promptVerifier) hnames (by decide) ht hn hread []
    ⟨1757962690, 0⟩
  exact ((atMostOnce_iff hauth).2 (by decide) (by decide) (by decide) (by decide)).mpr (by decide)

/-- With the default options the store has two seconds. A message is accepted as soon as it is
fresh. Another call with it starts at the last moment of its being fresh, the table is purged a
second later, and the claim of that call takes effect. -/
theorem exists_accepted_twice_of_default :
    ∃ s, Reachable .sample s ∧
      s.finished = [⟨.sample, .sample ⟨1757962990, 0⟩, .accepted⟩,
        ⟨.sample, .sample ⟨1757962390, 0⟩, .accepted⟩] :=
  exists_accepted_twice (c := ⟨1757962991, 0⟩) (Verifier.authentic_sample ⟨1757962990, 0⟩)
    (by decide) (by decide) (by decide) (by decide) (by decide) (by decide) (by decide) (by decide)
    (by decide) (by decide) (by decide)

end InFlight

end WebhookGuard
