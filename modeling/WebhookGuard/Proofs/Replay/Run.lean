import WebhookGuard.Proofs.Verifier.Expiry

/-
  Runs. Verifiers are handed deliveries over one store, which is purged now and then; every action
  brings its own clock reading, and readings may go back and forth. A run yields its calls in
  order, each with its verdict.

  A nonce that a call has taken is held from then on at every instant before the expiry of that
  call, as long as the run is orderly: no verification goes by a reading before that of an earlier
  purge. So no later call with the nonce is accepted at such an instant (`not_accepted_twice`).
-/
namespace WebhookGuard

open LawfulStore

/-- What is done with a store. -/
inductive Action where
  | verify (verifier : Verifier) (delivery : Delivery)
  | purge (now : Instant)

/-- The clock reading of an action. -/
def Action.now : Action → Instant
  | verify _ d => d.now
  | purge now => now

/-- The verifier, if there is one, allows this skew and this age. -/
def Action.HasWindow (skew age : Duration) : Action → Prop
  | verify v _ => v.options.allowedClockSkew = skew ∧ v.options.maxMessageAge = age
  | purge _ => True

instance (skew age : Duration) : DecidablePred (Action.HasWindow skew age)
  | .verify _ _ => inferInstanceAs (Decidable (_ ∧ _))
  | .purge _ => isTrue trivial

/-- A verification that took place, and what came of it. -/
structure Call where
  verifier : Verifier
  delivery : Delivery
  verdict : Verdict

namespace Call

theorem verdict_mk (v : Verifier) (d : Delivery) (verdict : Verdict) :
    (mk v d verdict).verdict = verdict := rfl

def timestamp? (c : Call) : Option String := c.verifier.timestamp? c.delivery.headers

def nonce? (c : Call) : Option String := c.verifier.nonce? c.delivery.headers

def sentAt? (c : Call) : Option Instant := c.verifier.sentAt? c.delivery.headers

/-- The two calls read the same timestamp and the same nonce. -/
def SameMessage (a b : Call) : Prop :=
  ∃ timestamp nonce, a.timestamp? = some timestamp ∧ b.timestamp? = some timestamp ∧
    a.nonce? = some nonce ∧ b.nonce? = some nonce

/-- The call was accepted, and this is what it has recorded. -/
def Enters (σ : Type) {τ : Type} [NonceStore σ] [LE τ] [LT τ]
    [DecidableRel (LT.lt : τ → τ → Prop)] [LawfulStore σ τ] (a : Call) (record : String × τ) :
    Prop :=
  a.verdict = .accepted ∧ a.nonce? = some record.1 ∧
    ∃ sent, a.sentAt? = some sent ∧ record.2 = reading σ (a.verifier.expiry a.delivery.now sent)

/-- The clock reading of `b` lies before the expiry that `a` claims its nonce for, as far as the
store can tell. -/
def Outlasts (σ : Type) {τ : Type} [NonceStore σ] [LE τ] [LT τ]
    [DecidableRel (LT.lt : τ → τ → Prop)] [LawfulStore σ τ] (a b : Call) : Prop :=
  ∀ claim, a.verifier.check a.delivery = .ok claim →
    reading σ b.delivery.now < reading σ claim.expiresAt

/-- What passes the checks of a second verifier is fresh for the first one too, when the two allow
the same skew and the same age. -/
theorem SameMessage.isFresh {a b : Call} {ca cb : Claim} (h : a.SameMessage b)
    (hskew : a.verifier.options.allowedClockSkew = b.verifier.options.allowedClockSkew)
    (hage : a.verifier.options.maxMessageAge = b.verifier.options.maxMessageAge)
    (ha : a.verifier.check a.delivery = .ok ca) (hb : b.verifier.check b.delivery = .ok cb) :
    ∃ sent, a.sentAt? = some sent ∧ a.verifier.IsFresh b.delivery.now sent ∧
      ca.expiresAt = a.verifier.expiry a.delivery.now sent := by
  obtain ⟨timestamp, nonce, hta, htb, -, -⟩ := h
  obtain ⟨ta, sa, hautha, -, hca⟩ := Verifier.check_eq_ok_iff.mp ha
  obtain ⟨tb, sb, hauthb, hfresh, -⟩ := Verifier.check_eq_ok_iff.mp hb
  obtain rfl : ta = timestamp := Option.some.inj (hautha.timestamp_eq.symm.trans hta)
  obtain rfl : tb = ta := Option.some.inj (hauthb.timestamp_eq.symm.trans htb)
  obtain rfl : sb = sa := Timestamp.read?_unique hauthb.read_eq hautha.read_eq
  refine ⟨sb, hautha.sentAt?_eq, ?_, by rw [hca]⟩
  unfold Verifier.IsFresh
  rw [hskew, hage]
  exact hfresh

end Call

namespace Run

/-- The store after some actions. -/
def storeAfter {σ : Type} [NonceStore σ] (s : σ) : List Action → σ
  | [] => s
  | .verify v d :: acts => storeAfter (v.verify s d).store acts
  | .purge now :: acts => storeAfter (NonceStore.purge s now).1 acts

/-- The calls of some actions, in order. -/
def calls {σ : Type} [NonceStore σ] (s : σ) : List Action → List Call
  | [] => []
  | .verify v d :: acts => ⟨v, d, (v.verify s d).verdict⟩ :: calls (v.verify s d).store acts
  | .purge now :: acts => calls (NonceStore.purge s now).1 acts

/-- Of a purge and a later verification, the verification does not go by an earlier reading. -/
def Precedes : Action → Action → Prop
  | .purge now, .verify _ d => now ≤ d.now
  | _, _ => True

instance : DecidableRel Precedes
  | .purge now, .verify _ d => inferInstanceAs (Decidable (now ≤ d.now))
  | .purge _, .purge _ => isTrue trivial
  | .verify _ _, _ => isTrue trivial

/-- No verification goes by a clock reading before that of an earlier purge. -/
def Orderly (acts : List Action) : Prop := acts.Pairwise Precedes

instance (acts : List Action) : Decidable (Orderly acts) :=
  inferInstanceAs (Decidable (acts.Pairwise Precedes))

/-- All verifiers allow the same skew and the same age. -/
def SameWindow (skew age : Duration) (acts : List Action) : Prop :=
  ∀ act ∈ acts, act.HasWindow skew age

instance (skew age : Duration) (acts : List Action) : Decidable (SameWindow skew age acts) :=
  inferInstanceAs (Decidable (∀ act ∈ acts, _))

section Store

variable {σ : Type} [NonceStore σ]

theorem calls_append (s : σ) (xs ys : List Action) :
    calls s (xs ++ ys) = calls s xs ++ calls (storeAfter s xs) ys := by
  induction xs generalizing s with
  | nil => rfl
  | cons act xs ih =>
    cases act with
    | verify v d => simp only [List.cons_append, calls, storeAfter, ih]
    | purge now => simp only [List.cons_append, calls, storeAfter, ih]

/-- Every call takes place at some point of the run, over the store as it is at that point. -/
theorem exists_of_calls_eq {s : σ} {acts : List Action} {earlier later : List Call} {c : Call}
    (h : calls s acts = earlier ++ c :: later) :
    ∃ before after, acts = before ++ .verify c.verifier c.delivery :: after ∧
      calls s before = earlier ∧
      c.verdict = (c.verifier.verify (storeAfter s before) c.delivery).verdict := by
  induction acts generalizing s earlier with
  | nil => exact absurd h.symm (List.append_ne_nil_of_right_ne_nil _ (List.cons_ne_nil _ _))
  | cons act acts ih =>
    cases act with
    | verify v d =>
      cases earlier with
      | nil =>
        obtain ⟨rfl, -⟩ := List.cons.inj h
        exact ⟨[], acts, rfl, rfl, rfl⟩
      | cons first earlier =>
        obtain ⟨rfl, hrest⟩ := List.cons.inj h
        obtain ⟨before, after, rfl, rfl, hverdict⟩ := ih hrest
        exact ⟨.verify v d :: before, after, rfl, rfl, hverdict⟩
    | purge now =>
      obtain ⟨before, after, rfl, hcalls, hverdict⟩ := ih h
      exact ⟨.purge now :: before, after, rfl, hcalls, hverdict⟩

theorem verify_mem_of_mem_calls {s : σ} {acts : List Action} {c : Call} (h : c ∈ calls s acts) :
    .verify c.verifier c.delivery ∈ acts := by
  obtain ⟨earlier, later, heq⟩ := List.append_of_mem h
  obtain ⟨before, after, rfl, -⟩ := exists_of_calls_eq heq
  simp

end Store

section Lawful

variable {σ τ : Type} [NonceStore σ] [LE τ] [LT τ] [DecidableRel (LT.lt : τ → τ → Prop)]
variable [lawful : LawfulStore σ τ]

include lawful in
/-- The claim of an accepted call was worth making. -/
theorem check_of_accepted {s : σ} {acts : List Action} {c : Call} (h : c ∈ calls s acts)
    (ha : c.verdict = .accepted) :
    ∃ claim, c.verifier.check c.delivery = .ok claim ∧ claim.isVoid = false := by
  induction acts generalizing s with
  | nil => cases h
  | cons act acts ih =>
    cases act with
    | verify v d =>
      rcases List.mem_cons.mp h with rfl | h
      · obtain ⟨claim, hcheck, ht⟩ := (Verifier.verify_accepted_iff s v d).mp ha
        exact ⟨claim, hcheck, (takes_iff.mp ht).1⟩
      · exact ih h
    | purge now => exact ih h

include lawful in
/-- What is accepted was presented before the end of the calendar. -/
theorem lt_latest_of_accepted {s : σ} {acts : List Action} {c : Call} (h : c ∈ calls s acts)
    (ha : c.verdict = .accepted) : c.delivery.now < .latest := by
  obtain ⟨claim, hcheck, hvoid⟩ := check_of_accepted h ha
  exact Verifier.lt_latest_of_check hcheck hvoid

/-- What a verification records is what its call enters. -/
theorem mem_ledger_verify {s : σ} {v : Verifier} {d : Delivery} {record : String × τ}
    (h : record ∈ (ledger (v.verify s d).store).records) :
    record ∈ (ledger s).records ∨ (Call.mk v d (v.verify s d).verdict).Enters σ record := by
  cases hcheck : v.check d with
  | error refusal =>
    rw [(Verifier.verify_of_refused s hcheck).2] at h
    exact Or.inl h
  | ok c =>
    rw [Verifier.store_of_check s hcheck] at h
    rcases mem_ledger_claim h with ⟨ht, rfl⟩ | h
    · obtain ⟨timestamp, sent, hauth, -, hc⟩ := Verifier.check_eq_ok_iff.mp hcheck
      refine Or.inr ⟨(Verifier.verify_accepted_iff s v d).mpr ⟨c, hcheck, ht⟩, hauth.nonce_eq,
        sent, hauth.sentAt?_eq, ?_⟩
      rw [hc]
    · exact Or.inl h

/-- Every record stems from an accepted call or was there before the run. -/
theorem mem_ledger_storeAfter {s : σ} {acts : List Action} {record : String × τ}
    (h : record ∈ (ledger (storeAfter s acts)).records) :
    record ∈ (ledger s).records ∨ ∃ a ∈ calls s acts, a.Enters σ record := by
  induction acts generalizing s with
  | nil => exact Or.inl h
  | cons act acts ih =>
    cases act with
    | verify v d =>
      rcases ih h with h | ⟨a, ha, henters⟩
      · rcases mem_ledger_verify h with h | henters
        · exact Or.inl h
        · exact Or.inr ⟨_, List.mem_cons_self, henters⟩
      · exact Or.inr ⟨a, List.mem_cons_of_mem _ ha, henters⟩
    | purge now =>
      rcases ih h with h | later
      · rw [ledger_purge] at h
        exact Or.inl (Ledger.mem_live.mp h).1
      · exact Or.inr later

variable [Std.IsLinearOrder τ] [Std.LawfulOrderLT τ]

/-- While a nonce is held at an instant, no verification frees it at that instant. -/
theorem holds_verify {s : σ} {v : Verifier} {d : Delivery} {nonce : String} {t : Instant}
    (h : holds s nonce t = true) (hr : Readable σ d.now) :
    holds (v.verify s d).store nonce t = true := by
  cases hcheck : v.check d with
  | error refusal =>
    rw [(Verifier.verify_of_refused s hcheck).2]
    exact h
  | ok c =>
    obtain ⟨timestamp, sent, -, -, hc⟩ := Verifier.check_eq_ok_iff.mp hcheck
    rw [Verifier.store_of_check s hcheck]
    exact holds_claim h (by rw [hc]; exact hr)

/-- While a nonce is held at the clock reading of a call, the call is not accepted. The induction
carries along that the nonce is still held: the purges before the call go by readings up to its
own. -/
theorem not_accepted_of_holds {s : σ} {acts : List Action} {c : Call} {nonce : String}
    (hr : ∀ act ∈ acts, Readable σ act.now) (ho : Orderly acts) (hc : c ∈ calls s acts)
    (hn : c.nonce? = some nonce) (h : holds s nonce c.delivery.now = true) :
    c.verdict ≠ .accepted := by
  induction acts generalizing s with
  | nil => cases hc
  | cons act acts ih =>
    have hr' : ∀ act ∈ acts, Readable σ act.now := fun a ha => hr a (List.mem_cons_of_mem _ ha)
    obtain ⟨hfirst, ho'⟩ := List.pairwise_cons.mp ho
    cases act with
    | verify v d =>
      rcases List.mem_cons.mp hc with rfl | hc
      · intro ha
        obtain ⟨claim, hcheck, ht⟩ := (Verifier.verify_accepted_iff s v d).mp ha
        obtain ⟨timestamp, sent, hauth, -, hclaim⟩ := Verifier.check_eq_ok_iff.mp hcheck
        have hnonce : claim.nonce = nonce := Option.some.inj (hauth.nonce_eq.symm.trans hn)
        have hfree := (takes_iff.mp ht).2
        rw [hclaim] at hfree
        simp only [hnonce, h] at hfree
        cases hfree
      · exact ih hr' ho' hc (holds_verify h (hr _ List.mem_cons_self))
    | purge now =>
      have hle : now ≤ c.delivery.now := hfirst _ (verify_mem_of_mem_calls hc)
      exact ih hr' ho' hc (holds_purge h (hr _ List.mem_cons_self) hle)

/-- After an accepted call no other call with its nonce is accepted before the nonce expires. -/
theorem not_accepted_twice (s : σ) {acts : List Action} (hr : ∀ act ∈ acts, Readable σ act.now)
    (ho : Orderly acts) :
    (calls s acts).Pairwise fun a b => a.verdict = .accepted → a.nonce? = b.nonce? →
      a.Outlasts σ b → b.verdict ≠ .accepted := by
  induction acts generalizing s with
  | nil => exact List.Pairwise.nil
  | cons act acts ih =>
    have hr' : ∀ act ∈ acts, Readable σ act.now := fun a ha => hr a (List.mem_cons_of_mem _ ha)
    have ho' : Orderly acts := (List.pairwise_cons.mp ho).2
    cases act with
    | verify v d =>
      refine List.pairwise_cons.mpr ⟨?_, ih _ hr' ho'⟩
      intro b hb ha hn hlast
      obtain ⟨claim, hcheck, ht⟩ := (Verifier.verify_accepted_iff s v d).mp ha
      obtain ⟨timestamp, sent, hauth, -, -⟩ := Verifier.check_eq_ok_iff.mp hcheck
      have hheld : holds (v.verify s d).store claim.nonce b.delivery.now = true := by
        rw [Verifier.store_of_check s hcheck]
        exact holds_of_takes ht (hlast claim hcheck)
      exact not_accepted_of_holds hr' ho' hb (hn.symm.trans hauth.nonce_eq) hheld
    | purge now => exact ih _ hr' ho'

/-- No message is accepted twice, as long as the claims for it outlast its being fresh. -/
theorem accepted_once_of_outlasts (s : σ) {acts : List Action} {skew age : Duration}
    (hr : ∀ act ∈ acts, Readable σ act.now) (ho : Orderly acts) (hw : SameWindow skew age acts) :
    (calls s acts).Pairwise fun a b => a.SameMessage b →
      (∀ sent, a.sentAt? = some sent → a.verifier.IsFresh b.delivery.now sent →
        b.delivery.now < .latest →
        reading σ b.delivery.now < reading σ (a.verifier.expiry a.delivery.now sent)) →
      ¬ (a.verdict = .accepted ∧ b.verdict = .accepted) := by
  refine (not_accepted_twice s hr ho).imp_of_mem ?_
  rintro a b ha hb htwice hsame hlast ⟨hacca, haccb⟩
  obtain ⟨cb, hcheckb, -⟩ := check_of_accepted hb haccb
  obtain ⟨hskewa, hagea⟩ := hw _ (verify_mem_of_mem_calls ha)
  obtain ⟨hskewb, hageb⟩ := hw _ (verify_mem_of_mem_calls hb)
  have hnonce : a.nonce? = b.nonce? := by
    obtain ⟨-, nonce, -, -, hna, hnb⟩ := hsame
    rw [hna, hnb]
  refine htwice hacca hnonce ?_ haccb
  intro ca hchecka
  obtain ⟨sent, hsent, hfresh, hexp⟩ := hsame.isFresh (hskewa.trans hskewb.symm)
    (hagea.trans hageb.symm) hchecka hcheckb
  rw [hexp]
  exact hlast sent hsent hfresh (lt_latest_of_accepted hb haccb)

end Lawful

end Run

end WebhookGuard
