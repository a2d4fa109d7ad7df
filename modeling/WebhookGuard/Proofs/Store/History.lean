import Mathlib.Data.List.Induction
import WebhookGuard.Proofs.Store.Purging

/-
  The history of the store of a process. Of all that a course asks of the store, the claims that are
  taken and the purges change the records (`changes`). From these alone one can tell what is on
  record: a claim stands when it is the last one on its nonce that was taken and no purge since then
  came at its expiry or later (`Stands`), and the records are those of the claims that stand
  (`get?_storeAfter_iff`). So a nonce is claimed at an instant, be it past or to come, if and only if
  a claim on it stands that expires later.

  A claim takes over only a record that has expired by its own reading of the clock, so the claims
  that are taken on a nonce expire ever later, unless a purge has removed the record in between
  (`expiry_lt_expiry`). All of this is put together in `records_tell_history`.
-/
namespace WebhookGuard

open LawfulStore Course

namespace MemoryStore

/-! ## Changes -/

/-- What changes the records. -/
inductive Change where
  | taken (claim : Claim)
  | purged (now : Instant)
deriving DecidableEq, Repr

/-- The change that a step makes, if it makes one. -/
def change? (s : MemoryStore) : Step → Option Change
  | .claim c => if (s.claim c).2 = true then some (.taken c) else none
  | .query .. => none
  | .purge now => some (.purged now)

/-- The changes that some steps make, in order. -/
def changes (s : MemoryStore) : List Step → List Change
  | [] => []
  | step :: steps => (change? s step).toList ++ changes (perform s step).1 steps

/-- The last claim on its nonce that was taken, if no purge since then came at its expiry or
later. -/
def Stands (history : List Change) (c : Claim) : Prop :=
  ∃ front back, history = front ++ .taken c :: back ∧
    (∀ d, .taken d ∈ back → d.nonce ≠ c.nonce) ∧ ∀ now, .purged now ∈ back → now < c.expiresAt

theorem storeAfter_append (s : MemoryStore) (xs ys : List Step) :
    storeAfter s (xs ++ ys) = storeAfter (storeAfter s xs) ys := by
  induction xs generalizing s with
  | nil => rfl
  | cons step steps ih => exact ih _

theorem changes_append (s : MemoryStore) (xs ys : List Step) :
    changes s (xs ++ ys) = changes s xs ++ changes (storeAfter s xs) ys := by
  induction xs generalizing s with
  | nil => rfl
  | cons step steps ih =>
    simp only [List.cons_append, changes, ih, List.append_assoc]
    rfl

/-- One step more makes at most one change more. -/
theorem changes_concat (s : MemoryStore) (steps : List Step) (step : Step) :
    changes s (steps ++ [step]) = changes s steps ++ (change? (storeAfter s steps) step).toList := by
  rw [changes_append]
  simp only [changes, List.append_nil]

/-- Every change is made by a step, over the store that the changes before it led to. -/
theorem exists_step_of_changes_eq {s : MemoryStore} {steps : List Step} {front back : List Change}
    {change : Change} (h : changes s steps = front ++ change :: back) :
    ∃ before step after, steps = before ++ step :: after ∧ changes s before = front ∧
      change? (storeAfter s before) step = some change := by
  induction steps generalizing s front with
  | nil => simp [changes] at h
  | cons step steps ih =>
    rw [changes] at h
    cases hchange : change? s step with
    | none =>
      rw [hchange] at h
      obtain ⟨before, other, after, rfl, hfront, hother⟩ := ih h
      refine ⟨step :: before, other, after, rfl, ?_, hother⟩
      rw [changes, hchange, hfront]
      rfl
    | some first =>
      rw [hchange] at h
      cases front with
      | nil =>
        obtain ⟨rfl, -⟩ := List.cons.inj h
        exact ⟨[], step, steps, rfl, rfl, hchange⟩
      | cons head front =>
        obtain ⟨rfl, hrest⟩ := List.cons.inj h
        obtain ⟨before, other, after, rfl, hfront, hother⟩ := ih hrest
        refine ⟨step :: before, other, after, rfl, ?_, hother⟩
        rw [changes, hchange, hfront]
        rfl

/-- Where the changes have been split when one more was made. -/
theorem split_concat {history front back : List Change} {last change : Change}
    (h : history ++ [last] = front ++ change :: back) :
    (back = [] ∧ front = history ∧ last = change) ∨
      ∃ rest, back = rest ++ [last] ∧ history = front ++ change :: rest := by
  rcases List.eq_nil_or_concat back with rfl | ⟨rest, final, rfl⟩
  · obtain ⟨hfront, hlast⟩ := List.append_inj' h rfl
    exact Or.inl ⟨rfl, hfront.symm, List.singleton_inj.mp hlast⟩
  · have h' : history ++ [last] = (front ++ change :: rest) ++ [final] := by
      rw [h, List.append_assoc, List.cons_append, List.concat_eq_append]
    obtain ⟨hhistory, hlast⟩ := List.append_inj' h' rfl
    obtain rfl := List.singleton_inj.mp hlast
    exact Or.inr ⟨rest, List.concat_eq_append, hhistory⟩

/-- After one change more, it is the claim that was just taken that stands, and those that stood
before and that the change neither takes over nor removes. -/
theorem stands_append_toList_iff (history : List Change) (change : Option Change) (c : Claim) :
    Stands (history ++ change.toList) c ↔ change = some (.taken c) ∨
      (Stands history c ∧ (∀ d, change = some (.taken d) → d.nonce ≠ c.nonce) ∧
        ∀ now, change = some (.purged now) → now < c.expiresAt) := by
  cases change with
  | none => simp
  | some last =>
    simp only [Option.toList_some, Option.some.injEq]
    constructor
    · rintro ⟨front, back, hsplit, htaken, hpurged⟩
      rcases split_concat hsplit with ⟨-, -, hlast⟩ | ⟨rest, rfl, rfl⟩
      · exact Or.inl hlast
      · simp only [List.mem_append, List.mem_singleton] at htaken hpurged
        refine Or.inr ⟨⟨front, rest, rfl, ?_, ?_⟩, ?_, ?_⟩
        · exact fun d hd => htaken d (Or.inl hd)
        · exact fun now hnow => hpurged now (Or.inl hnow)
        · exact fun d hd => htaken d (Or.inr hd.symm)
        · exact fun now hnow => hpurged now (Or.inr hnow.symm)
    · rintro (rfl | ⟨⟨front, back, rfl, htaken, hpurged⟩, hlast, hlast'⟩)
      · exact ⟨history, [], rfl, by simp, by simp⟩
      · refine ⟨front, back ++ [last], by simp, ?_, ?_⟩
        · intro d hd
          rcases List.mem_append.mp hd with hd | hd
          · exact htaken d hd
          · exact hlast d (List.mem_singleton.mp hd).symm
        · intro now hnow
          rcases List.mem_append.mp hnow with hnow | hnow
          · exact hpurged now hnow
          · exact hlast' now (List.mem_singleton.mp hnow).symm

/-! ## One step -/

theorem claim_answer (s : MemoryStore) (c : Claim) : (s.claim c).2 = takes s c :=
  Except.ok.inj (congrArg Reply.answer (claim_snd s c))

theorem change?_eq_taken_iff {s : MemoryStore} {step : Step} {c : Claim} :
    change? s step = some (.taken c) ↔ step = .claim c ∧ takes s c = true := by
  cases step with
  | claim d =>
    simp only [change?, claim_answer, Option.ite_none_right_eq_some, Option.some.injEq,
      Change.taken.injEq, Step.claim.injEq]
    constructor
    · rintro ⟨ht, rfl⟩
      exact ⟨rfl, ht⟩
    · rintro ⟨rfl, ht⟩
      exact ⟨ht, rfl⟩
  | query nonce now => simp [change?]
  | purge now => simp [change?]

/-- A store takes a claim whose nonce is not blank, that has not expired yet, and whose nonce is not
claimed. -/
theorem claim_eq_true_iff (s : MemoryStore) (c : Claim) :
    (s.claim c).2 = true ↔ Text.isBlank c.nonce = false ∧ c.now < c.expiresAt ∧
      s.isClaimed c.nonce c.now = false := by
  rw [claim_answer, takes_iff, ← and_assoc]
  refine and_congr_left' ⟨fun h => ⟨?_, Claim.now_lt_of_not_isVoid h⟩, fun h =>
    Claim.isVoid_eq_false h.1 h.2⟩
  exact (Bool.or_eq_false_iff.mp h).1

/-- A claim that is refused changes nothing. -/
theorem claim_fst_of_refused {s : MemoryStore} {c : Claim} (h : (s.claim c).2 = false) :
    (s.claim c).1 = s :=
  congrArg MemoryStore.mk (ledger_claim_of_not_takes ((claim_answer s c).symm.trans h))

/-- A claim that is taken enters its own expiry in place of any record of its nonce. -/
theorem ledger_claim_of_taken {s : MemoryStore} {c : Claim} (h : (s.claim c).2 = true) :
    (s.claim c).1.ledger = s.ledger.put c.nonce c.expiresAt :=
  ledger_claim_of_takes ((claim_answer s c).symm.trans h)

/-- What is on record after a step was just taken, or it was on record before and the step neither
takes it over nor removes it. -/
theorem get?_perform_iff {s : MemoryStore} (hd : s.ledger.Distinct) (step : Step) (nonce : String)
    (expiry : Instant) :
    (perform s step).1.ledger.get? nonce = some expiry ↔
      (∃ c, change? s step = some (.taken c) ∧ c.nonce = nonce ∧ c.expiresAt = expiry) ∨
      (s.ledger.get? nonce = some expiry ∧
        (∀ d, change? s step = some (.taken d) → d.nonce ≠ nonce) ∧
        ∀ now, change? s step = some (.purged now) → now < expiry) := by
  cases step with
  | claim c =>
    change (s.claim c).1.ledger.get? nonce = some expiry ↔ _
    cases htaken : (s.claim c).2 with
    | false => simp [change?, htaken, claim_fst_of_refused htaken]
    | true =>
      rw [ledger_claim_of_taken htaken, Ledger.get?_put]
      by_cases hn : c.nonce = nonce
      · simp [change?, htaken, hn]
      · simp [change?, htaken, hn, Ne.symm hn]
  | query other now => simp [change?, perform]
  | purge now =>
    change (s.ledger.live now).get? nonce = some expiry ↔ _
    rw [hd.get?_live, Option.filter_eq_some_iff]
    simp [change?]

/-- A record that a claim takes over expires before the claim does. -/
theorem expiry_lt_of_takes {s : MemoryStore} {c : Claim} {expiry : Instant}
    (h : takes s c = true) (hget : s.ledger.get? c.nonce = some expiry) : expiry < c.expiresAt := by
  obtain ⟨hvoid, hfree⟩ := takes_iff.mp h
  have hlt := Claim.now_lt_of_not_isVoid hvoid
  have hexpired : ¬ c.now < expiry := by
    intro hlive
    rw [show holds s c.nonce c.now = true from Ledger.isLive_iff.mpr ⟨expiry, hget, hlive⟩] at hfree
    exact Bool.noConfusion hfree
  grind

/-- A step leaves a nonce a record that expires no earlier, unless it is a purge at the expiry or
later: the record stays, or a claim takes it over and prolongs it. -/
theorem exists_record_perform {s : MemoryStore} (hd : s.ledger.Distinct) {step : Step}
    {nonce : String} {expiry bound : Instant} (hget : s.ledger.get? nonce = some expiry)
    (hle : bound ≤ expiry) (hpurged : ∀ now, change? s step = some (.purged now) → now < bound) :
    ∃ later, (perform s step).1.ledger.get? nonce = some later ∧ bound ≤ later := by
  have hstep := get?_perform_iff hd step nonce
  by_cases hover : ∃ d, change? s step = some (.taken d) ∧ d.nonce = nonce
  · obtain ⟨d, hchange, rfl⟩ := hover
    have hlt := expiry_lt_of_takes (change?_eq_taken_iff.mp hchange).2 hget
    exact ⟨d.expiresAt, (hstep _).mpr (Or.inl ⟨d, hchange, rfl, rfl⟩), by grind⟩
  · refine ⟨expiry, (hstep expiry).mpr (Or.inr ⟨hget, ?_, ?_⟩), hle⟩
    · intro d hchange hn
      exact hover ⟨d, hchange, hn⟩
    · intro now hchange
      have hlt := hpurged now hchange
      grind

/-! ## Courses -/

/-- The changes of a course from the start. -/
def history (steps : List Step) : List Change := changes MemoryStore.empty steps

theorem distinct_ledger (steps : List Step) :
    (storeAfter MemoryStore.empty steps).ledger.Distinct :=
  Course.distinct_memory steps

/-- On record are the claims that stand. The induction adds a step at the end, where a purge or a
claim may strike out what stood so far. -/
theorem get?_storeAfter_iff (steps : List Step) (nonce : String) (expiry : Instant) :
    (storeAfter MemoryStore.empty steps).ledger.get? nonce = some expiry ↔
      ∃ c, Stands (history steps) c ∧ c.nonce = nonce ∧ c.expiresAt = expiry := by
  induction steps using List.reverseRecOn generalizing nonce expiry with
  | nil =>
    constructor
    · intro h
      cases h
    · rintro ⟨c, ⟨front, back, h, -⟩, -⟩
      simp [history, changes] at h
  | append_singleton steps step ih =>
    rw [history, changes_concat, storeAfter_append]
    refine (get?_perform_iff (distinct_ledger steps) step nonce expiry).trans ?_
    rw [ih]
    simp only [stands_append_toList_iff]
    constructor
    · rintro (⟨c, hc, hn, he⟩ | ⟨⟨c, hc, rfl, rfl⟩, htaken, hpurged⟩)
      · exact ⟨c, Or.inl hc, hn, he⟩
      · exact ⟨c, Or.inr ⟨hc, htaken, hpurged⟩, rfl, rfl⟩
    · rintro ⟨c, hc | ⟨hc, htaken, hpurged⟩, rfl, rfl⟩
      · exact Or.inl ⟨c, hc, rfl, rfl⟩
      · exact Or.inr ⟨⟨c, hc, rfl, rfl⟩, htaken, hpurged⟩

/-- A nonce is claimed at an instant as long as a claim on it stands that expires later. -/
theorem isClaimed_storeAfter_iff (steps : List Step) (nonce : String) (t : Instant) :
    (storeAfter MemoryStore.empty steps).isClaimed nonce t = true ↔
      ∃ c, Stands (history steps) c ∧ c.nonce = nonce ∧ t < c.expiresAt := by
  refine Ledger.isLive_iff.trans ?_
  simp only [get?_storeAfter_iff]
  constructor
  · rintro ⟨_, ⟨c, hc, hn, rfl⟩, hlt⟩
    exact ⟨c, hc, hn, hlt⟩
  · rintro ⟨c, hc, hn, hlt⟩
    exact ⟨_, ⟨c, hc, hn, rfl⟩, hlt⟩

theorem mem_records_iff (steps : List Step) (nonce : String) (expiry : Instant) :
    (nonce, expiry) ∈ (storeAfter MemoryStore.empty steps).ledger.records ↔
      ∃ c, Stands (history steps) c ∧ c.nonce = nonce ∧ c.expiresAt = expiry := by
  rw [← get?_storeAfter_iff]
  exact ⟨(distinct_ledger steps).get?_of_mem, Ledger.mem_of_get?⟩

/-- Blank nonces are never taken. -/
theorem isBlank_of_stands {steps : List Step} {c : Claim} (h : Stands (history steps) c) :
    Text.isBlank c.nonce = false := by
  obtain ⟨front, back, hsplit, -⟩ := h
  obtain ⟨before, step, after, -, -, hchange⟩ := exists_step_of_changes_eq hsplit
  have htakes := (change?_eq_taken_iff.mp hchange).2
  exact ((claim_eq_true_iff _ c).mp ((claim_answer _ c).trans htakes)).1

/-- Once a claim was taken, its nonce has a record that expires no earlier, as long as no purge
comes at the expiry of the claim or later. -/
theorem exists_record_of_taken {steps : List Step} {front back : List Change} {c : Claim}
    (h : history steps = front ++ .taken c :: back)
    (hpurged : ∀ now, .purged now ∈ back → now < c.expiresAt) :
    ∃ expiry, (storeAfter MemoryStore.empty steps).ledger.get? c.nonce = some expiry ∧
      c.expiresAt ≤ expiry := by
  induction steps using List.reverseRecOn generalizing back with
  | nil => simp [history, changes] at h
  | append_singleton steps step ih =>
    have hd := distinct_ledger steps
    rw [history, changes_concat] at h
    rw [storeAfter_append]
    cases hchange : change? (storeAfter MemoryStore.empty steps) step with
    | none =>
      rw [hchange, Option.toList_none, List.append_nil] at h
      obtain ⟨expiry, hget, hle⟩ := ih h hpurged
      exact exists_record_perform hd hget hle (by simp [hchange])
    | some last =>
      rw [hchange, Option.toList_some] at h
      -- Either this step took the claim, or an earlier one did and this step came after it.
      rcases split_concat h with ⟨rfl, -, rfl⟩ | ⟨rest, rfl, hsplit⟩
      · exact ⟨c.expiresAt, (get?_perform_iff hd step _ _).mpr (Or.inl ⟨c, hchange, rfl, rfl⟩),
          by grind⟩
      · simp only [List.mem_append, List.mem_singleton] at hpurged
        obtain ⟨expiry, hget, hle⟩ := ih hsplit fun now hnow => hpurged now (Or.inl hnow)
        refine exists_record_perform hd hget hle fun now hnow => hpurged now (Or.inr ?_)
        exact Option.some.inj (hnow.symm.trans hchange)

/-- Of two claims on a nonce that are taken, the later one expires later, unless a purge at the
expiry of the first one or later came between them. -/
theorem expiry_lt_expiry {steps : List Step} {front middle back : List Change} {c d : Claim}
    (h : history steps = front ++ .taken c :: (middle ++ .taken d :: back)) (hn : d.nonce = c.nonce)
    (hpurged : ∀ now, .purged now ∈ middle → now < c.expiresAt) : c.expiresAt < d.expiresAt := by
  have h' : history steps = (front ++ .taken c :: middle) ++ .taken d :: back := by
    rw [h, List.append_assoc]
    rfl
  obtain ⟨before, step, after, -, hbefore, hchange⟩ := exists_step_of_changes_eq h'
  obtain ⟨expiry, hget, hle⟩ := exists_record_of_taken hbefore hpurged
  have hlt := expiry_lt_of_takes (change?_eq_taken_iff.mp hchange).2 (hn ▸ hget)
  grind

/-- The records of a store that began without any are those of the claims that stand, one for each
nonce, and no nonce of a claim that stands is blank. A nonce is claimed as long as a claim on it
stands that expires later. A claim is taken if its nonce is not blank and not claimed at the time and
it has not expired yet; one that is refused changes nothing, and one that is taken changes the record
of its own nonce alone. Of two claims on a nonce that are taken, the later one expires later, unless a
purge at the expiry of the first one or later came between them. -/
theorem records_tell_history (steps : List Step) :
    (∀ nonce expiry, (nonce, expiry) ∈ (storeAfter MemoryStore.empty steps).ledger.records ↔
      ∃ c, Stands (history steps) c ∧ c.nonce = nonce ∧ c.expiresAt = expiry) ∧
    (storeAfter MemoryStore.empty steps).ledger.Distinct ∧
    (∀ record ∈ (storeAfter MemoryStore.empty steps).ledger.records,
      Text.isBlank record.1 = false) ∧
    (∀ nonce t, (storeAfter MemoryStore.empty steps).isClaimed nonce t = true ↔
      ∃ c, Stands (history steps) c ∧ c.nonce = nonce ∧ t < c.expiresAt) ∧
    (∀ c, ((storeAfter MemoryStore.empty steps).claim c).2 = true ↔
      Text.isBlank c.nonce = false ∧ c.now < c.expiresAt ∧
        (storeAfter MemoryStore.empty steps).isClaimed c.nonce c.now = false) ∧
    (∀ c, ((storeAfter MemoryStore.empty steps).claim c).2 = false →
      ((storeAfter MemoryStore.empty steps).claim c).1 = storeAfter MemoryStore.empty steps) ∧
    (∀ c, ((storeAfter MemoryStore.empty steps).claim c).2 = true → ∀ record,
      record ∈ ((storeAfter MemoryStore.empty steps).claim c).1.ledger.records ↔
        record = (c.nonce, c.expiresAt) ∨
          (record ∈ (storeAfter MemoryStore.empty steps).ledger.records ∧ record.1 ≠ c.nonce)) ∧
    ∀ front middle back c d, history steps = front ++ .taken c :: (middle ++ .taken d :: back) →
      d.nonce = c.nonce → (∀ now, .purged now ∈ middle → now < c.expiresAt) →
      c.expiresAt < d.expiresAt := by
  refine ⟨mem_records_iff steps, distinct_ledger steps, ?_, isClaimed_storeAfter_iff steps,
    claim_eq_true_iff _, fun c => claim_fst_of_refused, ?_,
    fun front middle back c d => expiry_lt_expiry⟩
  · rintro ⟨nonce, expiry⟩ hmem
    obtain ⟨c, hc, rfl, -⟩ := (mem_records_iff steps nonce expiry).mp hmem
    exact isBlank_of_stands hc
  · intro c htaken record
    rw [ledger_claim_of_taken htaken]
    exact Ledger.mem_put

/-- One nonce over and over, by a clock that goes back twice: taken; asked for in vain while it is
claimed, with a later expiry; taken over once it has expired; kept by one purge and removed by
another. -/
def contestedCourse : List Step :=
  [ .claim ⟨"n", ⟨20, 0⟩, ⟨10, 0⟩⟩,
    .claim ⟨"n", ⟨90, 0⟩, ⟨19, 999999999⟩⟩,
    .claim ⟨"n", ⟨25, 0⟩, ⟨20, 0⟩⟩,
    .purge ⟨24, 0⟩,
    .claim ⟨"m", ⟨12, 0⟩, ⟨11, 0⟩⟩,
    .claim ⟨"n", ⟨40, 0⟩, ⟨25, 0⟩⟩,
    .purge ⟨40, 0⟩,
    .claim ⟨"n", ⟨15, 0⟩, ⟨14, 0⟩⟩ ]

/-- The expiries of a nonce go up from claim to claim until it is purged; what remains is the last
claim, which is seen by an earlier instant as well, and not at its own expiry. -/
theorem history_of_contestedCourse :
    history contestedCourse =
      [ .taken ⟨"n", ⟨20, 0⟩, ⟨10, 0⟩⟩, .taken ⟨"n", ⟨25, 0⟩, ⟨20, 0⟩⟩, .purged ⟨24, 0⟩,
        .taken ⟨"m", ⟨12, 0⟩, ⟨11, 0⟩⟩, .taken ⟨"n", ⟨40, 0⟩, ⟨25, 0⟩⟩, .purged ⟨40, 0⟩,
        .taken ⟨"n", ⟨15, 0⟩, ⟨14, 0⟩⟩ ] ∧
    (⟨25, 0⟩ : Instant) < ⟨40, 0⟩ ∧
    (storeAfter MemoryStore.empty contestedCourse).isClaimed "n" ⟨0, 0⟩ = true ∧
    (storeAfter MemoryStore.empty contestedCourse).isClaimed "n" ⟨15, 0⟩ = false := by
  obtain ⟨-, -, -, hclaimed, -, -, -, hlater⟩ := records_tell_history contestedCourse
  refine ⟨rfl, ?_, ?_, rfl⟩
  · refine hlater [.taken ⟨"n", ⟨20, 0⟩, ⟨10, 0⟩⟩]
      [.purged ⟨24, 0⟩, .taken ⟨"m", ⟨12, 0⟩, ⟨11, 0⟩⟩]
      [.purged ⟨40, 0⟩, .taken ⟨"n", ⟨15, 0⟩, ⟨14, 0⟩⟩]
      ⟨"n", ⟨25, 0⟩, ⟨20, 0⟩⟩ ⟨"n", ⟨40, 0⟩, ⟨25, 0⟩⟩ rfl rfl ?_
    intro now hnow
    obtain rfl : now = ⟨24, 0⟩ := by simpa using hnow
    decide
  · exact (hclaimed "n" ⟨0, 0⟩).mpr
      ⟨⟨"n", ⟨15, 0⟩, ⟨14, 0⟩⟩,
        ⟨(history contestedCourse).take 6, [], rfl, by simp, by simp⟩, rfl, by decide⟩

end MemoryStore

end WebhookGuard
