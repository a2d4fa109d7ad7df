import WebhookGuard.Proofs.Remote.Lifetime
import WebhookGuard.Proofs.Replay.Run
import WebhookGuard.Proofs.Verifier.Signed

/-
  Replays over a remote store. The server writes a key unless it keeps it already, goes by the clock
  of the caller, and keeps the key for the milliseconds that the write asks for. It may drop keys
  that have run out whenever a store is purged.

  A write that asks for some time frees no key, so a key that is kept at some instant is kept at
  that instant through all claims, and through the purges up to it. The key of an accepted message
  is kept for as long as the message is fresh (`lt_deadline_of_isFresh`), so the message is not
  accepted again. Only in a leap second that the message does not notice is the key a moment short
  (`lifetime_covers_window`, `readmitted_in_leap_second`).
-/
namespace WebhookGuard

open RemoteStore Run

/-- The first millisecond of a leap second that comes earlier in the day than a timestamp. The leap
second does not count toward the age of the message. -/
def Instant.Unnoticed (t sent : Instant) : Prop :=
  ¬ t.Ordinary ∧ t.secOfDay < sent.secOfDay ∧ t.nanos < 1001000000

instance (t sent : Instant) : Decidable (t.Unnoticed sent) :=
  inferInstanceAs (Decidable (_ ∧ _ ∧ _))

/-! ## One key -/

namespace RemoteStore

/-- The instant at which the server drops the key of a claim. -/
def keptUntil (c : Claim) : Instant := .ofCount (deadline c)

/-- A write that asks for some time lasts beyond the instant of its claim, whatever the clock
showed. -/
theorem lt_keptUntil {c : Claim} (h : 0 < lifetime c) : c.now < keptUntil c := by
  unfold keptUntil deadline
  by_cases hn : c.now.Ordinary
  · exact Instant.lt_ofCount_of_count_lt hn (by omega)
  · rw [Instant.ordinary_iff] at hn
    refine Instant.lt_ofCount_of_secs_lt ?_
    unfold Instant.count
    omega

section Verifier

variable {v : Verifier} {d : Delivery} {c : Claim} {sent : Instant}

/-- The key is dropped when the milliseconds of the write have been added to the clock reading. -/
theorem add?_lifetime {now : Instant} {nonce : String} (hn : now.Ordinary) (hs : sent.Ordinary)
    (hc : v.InCalendar now sent) :
    now.add? (.ofMillis (lifetime ⟨nonce, v.expiry now sent, now⟩).toNat) =
      some (keptUntil ⟨nonce, v.expiry now sent, now⟩) := by
  have hlifetime : lifetime ⟨nonce, v.expiry now sent, now⟩ = _ := lifetime_of_inCalendar hn hs hc
  have hdeadline : deadline ⟨nonce, v.expiry now sent, now⟩ =
      now.count + 1000000 * lifetime ⟨nonce, v.expiry now sent, now⟩ := rfl
  have hsum : now.count +
      ((Duration.ofMillis (lifetime ⟨nonce, v.expiry now sent, now⟩).toNat).nanos : Int) =
      deadline ⟨nonce, v.expiry now sent, now⟩ := by
    unfold Duration.ofMillis
    simp only [hdeadline, hlifetime]
    omega
  -- The sum lies between the deadline by the age and the expiry, which are in the calendar.
  obtain ⟨byAge, -, hage, -⟩ := Verifier.expiry_of_inCalendar hc
  rw [Instant.add?_eq hn] at hage
  obtain ⟨hin, -⟩ := Instant.inRange?_eq_some.mp hage
  have hord := v.expiry_ordinary now sent
  have hexpiry := Verifier.count_expiry hn hs hc
  rw [Instant.add?_eq hn, Instant.inRange?_eq_some, hsum]
  refine ⟨Instant.inRange_of_le_of_le hin hord.2 ?_ ?_, rfl⟩
  · rw [Instant.count_le_iff (Instant.ordinary_ofCount _) (Instant.ordinary_ofCount _),
      Instant.count_ofCount, Instant.count_ofCount, hdeadline, hlifetime]
    omega
  · rw [Instant.count_le_iff (Instant.ordinary_ofCount _) hord.1, Instant.count_ofCount, hexpiry,
      hdeadline, hlifetime]
    omega

/-- A key is there in a leap second when it is dropped in a later second. -/
theorem lt_keptUntil_iff_of_leap {t : Instant} (ht : ¬ t.Ordinary) :
    t < keptUntil c ↔ ¬ (keptUntil c).secs ≤ t.secs := by
  have hord : (keptUntil c).Ordinary := Instant.ordinary_ofCount _
  rw [Instant.ordinary_iff] at ht hord
  rw [Instant.lt_iff]
  omega

/-- The key of a claim lasts for the age and a second at least, and while the message is fresh. The
exception is an unnoticed leap second in whose second the key is dropped. -/
structure Covers (v : Verifier) (sent : Instant) (c : Claim) : Prop where
  pos : 0 < lifetime c
  sum_eq : c.now.add? (.ofMillis (lifetime c).toNat) = some (keptUntil c)
  age_le : (v.options.maxMessageAge.nanos / 1000000 : Nat) + 1000 ≤ lifetime c
  lt_keptUntil_iff : ∀ t : Instant, v.IsFresh t sent →
    (t < keptUntil c ↔ ¬ (t.Unnoticed sent ∧ (keptUntil c).secs ≤ t.secs))

theorem covers_of_check (h : v.check d = .ok c) (hsent : v.sentAt? d.headers = some sent)
    (hn : d.now.Ordinary) (hs : sent.Ordinary) (hc : v.InCalendar d.now sent) :
    Covers v sent c := by
  obtain ⟨timestamp, sent', hauth, -, hclaim⟩ := Verifier.check_eq_ok_iff.mp h
  obtain rfl : sent' = sent := Option.some.inj (hauth.sentAt?_eq.symm.trans hsent)
  rw [hclaim]
  have hage : _ ≤ lifetime ⟨c.nonce, _, _⟩ := le_lifetime hn hs hc
  refine ⟨by omega, add?_lifetime hn hs hc, hage, fun t hf => ?_⟩
  rcases lt_deadline_of_isFresh hs hf (lt_deadline hn hs hc) with hlt | hunnoticed
  · refine iff_of_true hlt fun ⟨hunnoticed, hsecs⟩ => ?_
    exact (lt_keptUntil_iff_of_leap hunnoticed.1).mp hlt hsecs
  · rw [lt_keptUntil_iff_of_leap hunnoticed.1]
    exact not_congr ⟨fun hsecs => ⟨hunnoticed, hsecs⟩, And.right⟩

/-- A claim that passes the checks is sent, if the server can be reached. -/
theorem sends_of_check {s : RemoteStore} (h : v.check d = .ok c) (hpos : 0 < lifetime c)
    (hreaches : s.Reaches) : s.Sends c := by
  obtain ⟨timestamp, sent, hauth, -⟩ := Verifier.check_eq_ok_iff.mp h
  refine ⟨?_, hreaches⟩
  rintro (hblank | hbrief)
  · rw [Verifier.isBlank_of_nonce? hauth.nonce_eq] at hblank
    cases hblank
  · omega

end Verifier

end RemoteStore

/-! ## The server -/

/-- A remote store and the keys that its server keeps, each with the instant at which it is
dropped. -/
structure KeyedStore where
  store : RemoteStore
  keys : Ledger Instant := .empty

namespace KeyedStore

/-- Whether the server keeps the key of a nonce at an instant. -/
def holds (s : KeyedStore) (nonce : String) (t : Instant) : Bool :=
  s.keys.isLive (s.store.key nonce) t

/-- What the server does with the write of a claim. -/
def act (s : KeyedStore) (c : Claim) : ServerAct :=
  if s.holds c.nonce c.now then .present else .written

/-- The store, with the server that a claim comes upon. -/
def facing (s : KeyedStore) (c : Claim) : RemoteStore :=
  { s.store with server := { s.store.server with script := [s.act c] } }

/-- Claims a nonce. The server hears of claims that are sent, and of no others. -/
def claim (s : KeyedStore) (c : Claim) : KeyedStore × Reply :=
  let (store, reply) := NonceStore.claim (s.facing c) c
  ({ store
     keys :=
      if s.store.Sends c then (s.keys.claim (s.store.key c.nonce) (keptUntil c) c.now).1
      else s.keys },
    reply)

/-- Purges the store, which does nothing. The server takes the occasion to drop what has run out. -/
def purge (s : KeyedStore) (now : Instant) : KeyedStore × Except StoreError Nat :=
  let (store, answer) := NonceStore.purge s.store now
  ({ store, keys := s.keys.live now }, answer)

instance : NonceStore KeyedStore where
  claim := claim
  purge := purge

/-- After a claim, keys begin as before, and if it was sent its own key has been claimed. -/
theorem holds_claim_eq (s : KeyedStore) (c : Claim) (nonce : String) (t : Instant) :
    (NonceStore.claim s c).1.holds nonce t =
      (if s.store.Sends c then (s.keys.claim (s.store.key c.nonce) (keptUntil c) c.now).1
        else s.keys).isLive (s.store.key nonce) t := by
  have hkey : (NonceStore.claim s c).1.store.key nonce = s.store.key nonce :=
    congrArg (· ++ nonce) (RemoteStore.keyStart_after (s.facing c) [.claim c])
  unfold holds
  rw [hkey]
  rfl

/-- A claim is answered with success when it is sent and its key is not there. -/
theorem answer_claim (s : KeyedStore) (c : Claim) :
    (NonceStore.claim s c).2.answer = .ok true ↔
      s.store.Sends c ∧ s.holds c.nonce c.now = false := by
  show (RemoteStore.claim (s.facing c) c).2.answer = .ok true ↔ _
  by_cases hsends : s.store.Sends c
  · have hnext : (s.facing c).server.next = s.act c := rfl
    rw [claim_of_sends (s := s.facing c) hsends, hnext]
    unfold act
    cases s.holds c.nonce c.now <;> simp [answerTo, hsends]
  · simp only [hsends, false_and, iff_false]
    by_cases hworth : Withheld c
    · rw [claim_of_withheld _ hworth]
      simp
    · have hreaches : ¬ (s.facing c).Reaches := fun hreaches => hsends ⟨hworth, hreaches⟩
      rw [claim_of_not_reaches hworth hreaches]
      simp

/-- Claims are answered at once, so every answer is in time. -/
theorem within_claim (s : KeyedStore) (c : Claim) (limit : Duration) :
    (NonceStore.claim s c).2.within limit = (NonceStore.claim s c).2.answer := by
  show (RemoteStore.claim (s.facing c) c).2.within limit =
    (RemoteStore.claim (s.facing c) c).2.answer
  by_cases hworth : Withheld c
  · rw [claim_of_withheld _ hworth]
    exact Verifier.within_of_no_delay _ _
  · by_cases hreaches : (s.facing c).Reaches
    · rw [claim_of_sends ⟨hworth, hreaches⟩]
      exact Verifier.within_of_no_delay _ _
    · rw [claim_of_not_reaches hworth hreaches]
      exact Verifier.within_of_no_delay _ _

/-- A delivery is accepted when it passes the checks, its claim is sent and its key is not there. -/
theorem verify_accepted_iff (s : KeyedStore) (v : Verifier) (d : Delivery) :
    (v.verify s d).verdict = .accepted ↔
      ∃ c, v.check d = .ok c ∧ s.store.Sends c ∧ s.holds c.nonce c.now = false := by
  cases hcheck : v.check d with
  | error refusal =>
    rw [(Verifier.verify_of_refused s hcheck).1]
    simp
  | ok c =>
    rw [Verifier.verdict_eq_of_check s hcheck, Verifier.verdictOf_eq_accepted_iff,
      within_claim, answer_claim]
    simp

/-! ## Runs -/

/-- No claim frees a key. -/
theorem holds_claim {s : KeyedStore} {nonce : String} {t : Instant} (h : s.holds nonce t = true)
    (c : Claim) : (NonceStore.claim s c).1.holds nonce t = true := by
  rw [holds_claim_eq]
  split
  · next hsends =>
    have hpos : 0 < lifetime c := by
      by_contra hbrief
      exact hsends.1 (Or.inr (by omega))
    have hlt := lt_keptUntil hpos
    exact Ledger.isLive_claim_of_isLive h (by grind)
  · exact h

/-- No purge frees a key at its own instant or later. -/
theorem holds_purge {s : KeyedStore} {nonce : String} {now t : Instant}
    (h : s.holds nonce t = true) (hle : now ≤ t) :
    (NonceStore.purge s now).1.holds nonce t = true :=
  Ledger.isLive_live_of_isLive h hle

theorem holds_verify {s : KeyedStore} {nonce : String} {t : Instant} (h : s.holds nonce t = true)
    (v : Verifier) (d : Delivery) : (v.verify s d).store.holds nonce t = true := by
  cases hcheck : v.check d with
  | error refusal =>
    rw [(Verifier.verify_of_refused s hcheck).2]
    exact h
  | ok c =>
    rw [Verifier.store_of_check s hcheck]
    exact holds_claim h c

/-- The key of an accepted delivery is kept for as long as the write asked. -/
theorem holds_of_accepted {s : KeyedStore} {v : Verifier} {d : Delivery} {c : Claim} {t : Instant}
    (h : (v.verify s d).verdict = .accepted) (hcheck : v.check d = .ok c) (hlt : t < keptUntil c) :
    (v.verify s d).store.holds c.nonce t = true := by
  obtain ⟨c', hcheck', hsends, hfree⟩ := (verify_accepted_iff s v d).mp h
  obtain rfl : c' = c := Except.ok.inj (hcheck'.symm.trans hcheck)
  rw [Verifier.store_of_check s hcheck, holds_claim_eq, if_pos hsends,
    Ledger.claim_of_not_isLive hfree, Ledger.isLive_put, if_pos rfl]
  exact decide_eq_true hlt

/-- While the key of a nonce is kept at the clock reading of a call, the call is not accepted. -/
theorem not_accepted_of_holds {s : KeyedStore} {acts : List Action} {c : Call} {nonce : String}
    (ho : Orderly acts) (hc : c ∈ calls s acts) (hn : c.nonce? = some nonce)
    (h : s.holds nonce c.delivery.now = true) : c.verdict ≠ .accepted := by
  induction acts generalizing s with
  | nil => cases hc
  | cons act acts ih =>
    obtain ⟨hfirst, ho'⟩ := List.pairwise_cons.mp ho
    cases act with
    | verify v d =>
      rcases List.mem_cons.mp hc with rfl | hc
      · intro ha
        obtain ⟨claim, hcheck, -, hfree⟩ := (verify_accepted_iff s v d).mp ha
        obtain ⟨timestamp, sent, hauth, -, hclaim⟩ := Verifier.check_eq_ok_iff.mp hcheck
        have hnonce : claim.nonce = nonce := Option.some.inj (hauth.nonce_eq.symm.trans hn)
        rw [hclaim] at hfree
        simp only [hnonce, h] at hfree
        cases hfree
      · exact ih ho' hc (holds_verify h v d)
    | purge now => exact ih ho' hc (holds_purge h (hfirst _ (verify_mem_of_mem_calls hc)))

/-- A delivery that is accepted has passed the checks. -/
theorem check_of_accepted {s : KeyedStore} {acts : List Action} {c : Call} (hc : c ∈ calls s acts)
    (ha : c.verdict = .accepted) : ∃ claim, c.verifier.check c.delivery = .ok claim := by
  obtain ⟨earlier, later, heq⟩ := List.append_of_mem hc
  obtain ⟨before, after, -, -, hverdict⟩ := exists_of_calls_eq heq
  obtain ⟨claim, hcheck, -⟩ := (verify_accepted_iff _ _ _).mp (hverdict.symm.trans ha)
  exact ⟨claim, hcheck⟩

/-- No message is accepted twice, as long as its key covers it. -/
theorem accepted_once_of_covers (s : KeyedStore) {acts : List Action} {skew age : Duration}
    (hw : SameWindow skew age acts) (ho : Orderly acts) :
    (calls s acts).Pairwise fun a b => a.SameMessage b → a.delivery.now.Ordinary →
      (∀ sent, a.sentAt? = some sent → sent.Ordinary ∧
        a.verifier.InCalendar a.delivery.now sent ∧ ¬ b.delivery.now.Unnoticed sent) →
      ¬ (a.verdict = .accepted ∧ b.verdict = .accepted) := by
  induction acts generalizing s with
  | nil => exact List.Pairwise.nil
  | cons act acts ih =>
    have hw' : SameWindow skew age acts := fun a ha => hw a (List.mem_cons_of_mem _ ha)
    have ho' : Orderly acts := (List.pairwise_cons.mp ho).2
    cases act with
    | purge now => exact ih _ hw' ho'
    | verify v d =>
      refine List.pairwise_cons.mpr ⟨?_, ih _ hw' ho'⟩
      rintro b hb hsame hn hord ⟨hacca, haccb⟩
      obtain ⟨ca, hchecka, -⟩ := (verify_accepted_iff s v d).mp hacca
      obtain ⟨cb, hcheckb⟩ := check_of_accepted hb haccb
      obtain ⟨hskewa, hagea⟩ := hw _ List.mem_cons_self
      obtain ⟨hskewb, hageb⟩ := hw' _ (verify_mem_of_mem_calls hb)
      obtain ⟨sent, hsent, hfresh, -⟩ := hsame.isFresh (hskewa.trans hskewb.symm)
        (hagea.trans hageb.symm) hchecka hcheckb
      obtain ⟨hs, hc, hnoticed⟩ := hord sent hsent
      have hcovers : Covers v sent ca := covers_of_check hchecka hsent hn hs hc
      have hlt := (hcovers.lt_keptUntil_iff _ hfresh).mpr fun hgone => hnoticed hgone.1
      have hheld := holds_of_accepted hacca hchecka hlt
      have hnonce : b.nonce? = some ca.nonce := by
        obtain ⟨-, nonce, -, -, hna, hnb⟩ := hsame
        obtain ⟨timestamp, sent', hauth, -⟩ := Verifier.check_eq_ok_iff.mp hchecka
        rw [hnb, ← hna]
        exact hauth.nonce_eq
      exact not_accepted_of_holds ho' hb hnonce hheld haccb

/-- The write for a delivery asks for a time that lasts through the freshness of its message. So in a
run over a server that does as it is asked, no message is accepted twice. -/
theorem lifetime_covers_window (s : KeyedStore) {acts : List Action} {skew age : Duration}
    (hw : SameWindow skew age acts) (ho : Orderly acts) :
    (∀ (v : Verifier) (d : Delivery) (c : Claim) (sent : Instant), v.check d = .ok c →
      v.sentAt? d.headers = some sent → d.now.Ordinary → sent.Ordinary →
      v.InCalendar d.now sent →
      Covers v sent c ∧ ∀ store : RemoteStore, store.Reaches →
        (v.verify store d).store.server.received =
          [store.keyStart ++ c.nonce, "1", "NX", "PX", toString (lifetime c)] ::
            store.server.received) ∧
    (calls s acts).Pairwise fun a b => a.SameMessage b → a.delivery.now.Ordinary →
      (∀ sent, a.sentAt? = some sent → sent.Ordinary ∧
        a.verifier.InCalendar a.delivery.now sent ∧ ¬ b.delivery.now.Unnoticed sent) →
      ¬ (a.verdict = .accepted ∧ b.verdict = .accepted) := by
  refine ⟨?_, accepted_once_of_covers s hw ho⟩
  intro v d c sent hcheck hsent hn hs hc
  have hcovers := covers_of_check hcheck hsent hn hs hc
  refine ⟨hcovers, fun store hreaches => ?_⟩
  rw [Verifier.store_of_check store hcheck]
  exact (oneWrite_of_sends (sends_of_check hcheck hcovers.pos hreaches)).received

/-- A server that keeps no key yet. -/
def sample : KeyedStore where
  store := { keyStart := "p:" }

/-- The claim that a sample delivery makes. -/
def sampleClaim (now : Instant) : Claim :=
  ⟨"n", Verifier.sample.expiry now ⟨1757962690, 0⟩, now⟩

/-- A message five minutes ahead of the clock is accepted, and its key is kept for 601 s. Ten
minutes later, when the message is all but stale, it is not accepted again. -/
theorem lifetime_covers_window_of_future :
    Covers .sample ⟨1757962690, 0⟩ (sampleClaim ⟨1757962390, 0⟩) ∧
    (Verifier.sample.verify sample.store (.sample ⟨1757962390, 0⟩)).store.server.received =
      [["p:n", "1", "NX", "PX", "601000"]] ∧
    ∃ a b, calls sample
        [ .verify .sample (.sample ⟨1757962390, 0⟩),
          .purge ⟨1757962990, 0⟩,
          .verify .sample (.sample ⟨1757962990, 0⟩) ] = [a, b] ∧
      a.verdict = .accepted ∧ b.verdict ≠ .accepted := by
  have hauth := Verifier.authentic_sample ⟨1757962390, 0⟩
  have hauth' := Verifier.authentic_sample ⟨1757962990, 0⟩
  have hcheck : Verifier.sample.check (.sample ⟨1757962390, 0⟩) =
      .ok (sampleClaim ⟨1757962390, 0⟩) := hauth.check_eq (by decide)
  have hw : SameWindow (.ofSecs 300) (.ofSecs 600)
      [.verify .sample (.sample ⟨1757962390, 0⟩), .purge ⟨1757962990, 0⟩,
        .verify .sample (.sample ⟨1757962990, 0⟩)] := by decide
  obtain ⟨hwrite, hpair⟩ := lifetime_covers_window sample hw (by decide)
  obtain ⟨hcovers, hreceived⟩ := hwrite _ _ _ _ hcheck hauth.sentAt?_eq (by decide) (by decide)
    (by decide)
  refine ⟨hcovers, (hreceived _ (by decide)).trans (by decide +kernel), ?_⟩
  have hfirst : (Verifier.sample.verify sample (.sample ⟨1757962390, 0⟩)).verdict = .accepted :=
    (verify_accepted_iff _ _ _).mpr ⟨_, hcheck, by decide +kernel, rfl⟩
  have hcalls : ∀ v d d' now,
      calls sample [.verify v d, .purge now, .verify v d'] =
        [⟨v, d, (v.verify sample d).verdict⟩,
          ⟨v, d', (v.verify (NonceStore.purge (v.verify sample d).store now).1 d').verdict⟩] :=
    fun _ _ _ _ => rfl
  rw [hcalls] at hpair ⊢
  refine ⟨_, _, rfl, (Call.verdict_mk _ _ _).trans hfirst, fun hsecond => ?_⟩
  refine (List.pairwise_cons.mp hpair).1 _ List.mem_cons_self
    ⟨_, _, hauth.timestamp_eq, hauth'.timestamp_eq, hauth.nonce_eq, hauth'.nonce_eq⟩
    (by decide) ?_ ⟨(Call.verdict_mk _ _ _).trans hfirst, hsecond⟩
  intro sent hsent
  obtain rfl := Option.some.inj (hauth.sentAt?_eq.symm.trans hsent)
  decide

/-- A verifier that takes messages up to 360 s old, from a clock up to 300 s off. -/
def shortAge : Verifier where
  options := { secret := [107], maxMessageAge := .ofSecs 360 }
  sound := by decide

/-- A message that is sent at 23:55:59 and presented at `now`. -/
def lateMessage (now : Instant) : Delivery := .signed shortAge "1757980559" "n" [] now

/-- The claim that it makes when the clock is just over two minutes behind. -/
def lateClaim : Claim :=
  ⟨"n", shortAge.expiry ⟨1757980438, 999999999⟩ ⟨1757980559, 0⟩, ⟨1757980438, 999999999⟩⟩

/-- In a leap second at the end of the first minute of the next day the message is still fresh, but
its key is gone, and the message is accepted again. -/
theorem readmitted_in_leap_second :
    shortAge.check (lateMessage ⟨1757980438, 999999999⟩) = .ok lateClaim ∧
    (⟨1757980438, 999999999⟩ : Instant).Ordinary ∧ (⟨1757980559, 0⟩ : Instant).Ordinary ∧
    shortAge.InCalendar ⟨1757980438, 999999999⟩ ⟨1757980559, 0⟩ ∧
    shortAge.IsFresh ⟨1757980859, 1000000000⟩ ⟨1757980559, 0⟩ ∧
    ¬ (⟨1757980859, 1000000000⟩ : Instant) < keptUntil lateClaim ∧
    (calls sample
      [ .verify shortAge (lateMessage ⟨1757980438, 999999999⟩),
        .verify shortAge (lateMessage ⟨1757980859, 1000000000⟩) ]).map Call.verdict =
      [.accepted, .accepted] := by
  have hauth : ∀ now, shortAge.Authentic (lateMessage now).body (lateMessage now).headers
      "1757980559" "n" ⟨1757980559, 0⟩ := by
    have hread : Timestamp.read? .flexible "1757980559" = some ⟨1757980559, 0⟩ := by
      decide +kernel
    have hnames : ∀ role, shortAge.options.header role = role.defaultName := by
      intro role
      cases role <;> rfl
    exact Verifier.authentic_signed hnames (by decide) (by decide) (by decide) hread []
  have hcheck : shortAge.check (lateMessage ⟨1757980438, 999999999⟩) = .ok lateClaim :=
    (hauth _).check_eq (by decide)
  refine ⟨hcheck, by decide, by decide, by decide, by decide, by decide, ?_⟩
  have hfirst : (shortAge.verify sample (lateMessage ⟨1757980438, 999999999⟩)).verdict =
      .accepted := (verify_accepted_iff _ _ _).mpr ⟨_, hcheck, by decide +kernel, rfl⟩
  have hsecond : (shortAge.verify
      (shortAge.verify sample (lateMessage ⟨1757980438, 999999999⟩)).store
        (lateMessage ⟨1757980859, 1000000000⟩)).verdict = .accepted := by
    rw [Verifier.store_of_check sample hcheck]
    exact (verify_accepted_iff _ _ _).mpr
      ⟨_, (hauth _).check_eq (by decide), by decide +kernel, by decide +kernel⟩
  show [_, _] = _
  rw [Call.verdict_mk, Call.verdict_mk, hfirst, hsecond]

end KeyedStore

end WebhookGuard
