import WebhookGuard.Proofs.Store.Course

/-
  Whole milliseconds. The table differs from the store of a process only in what it sees of the
  clock. Where all instants are ordinary and whole milliseconds, their milliseconds are in the same
  order as they are, before the epoch as well as after it. Then the table holds the records of the
  store of a process, each with the milliseconds of its expiry (`Mirrors`), every step keeps it so
  (`perform_of_mirrors`), and the two give the same answers in any course
  (`answers_eq_of_isWholeMilli`).
-/
namespace WebhookGuard

open LawfulStore Course

/-! ## Instants -/

namespace Instant

/-- An ordinary instant at which a millisecond begins. -/
def IsWholeMilli (t : Instant) : Prop := t.Ordinary ∧ t.nanos % 1000000 = 0

instance (t : Instant) : Decidable t.IsWholeMilli := inferInstanceAs (Decidable (_ ∧ _))

theorem IsWholeMilli.millis_lt_millis_iff {a b : Instant} (ha : a.IsWholeMilli)
    (hb : b.IsWholeMilli) : a.millis < b.millis ↔ a < b := by
  obtain ⟨horda, hwholea⟩ := ha
  obtain ⟨hordb, hwholeb⟩ := hb
  rw [ordinary_iff] at horda hordb
  rw [lt_iff]
  unfold millis
  omega

end Instant

/-! ## Ledgers on another clock -/

namespace Ledger

variable {α β : Type}

/-- The same records, with their expiries on another clock. -/
def map (f : α → β) (l : Ledger α) : Ledger β :=
  ⟨l.records.map fun record => (record.1, f record.2)⟩

theorem get?_map (f : α → β) (l : Ledger α) (nonce : String) :
    (l.map f).get? nonce = (l.get? nonce).map f := by
  unfold get? map
  induction l.records with
  | nil => rfl
  | cons record records ih =>
    obtain ⟨name, expiry⟩ := record
    simp only [List.map_cons, List.lookup_cons, ih]
    split <;> rfl

theorem size_map (f : α → β) (l : Ledger α) : (l.map f).size = l.size := List.length_map _

theorem map_put (f : α → β) (l : Ledger α) (nonce : String) (expiry : α) :
    (l.put nonce expiry).map f = (l.map f).put nonce (f expiry) := by
  unfold put map
  simp only [List.map_cons, List.filter_map, Function.comp_def]

variable [LT α] [DecidableRel (LT.lt : α → α → Prop)]
variable [LT β] [DecidableRel (LT.lt : β → β → Prop)]

/-- What is live does not depend on the clock, if the two clocks agree on what lies ahead. -/
theorem isLive_map {f : α → β} {l : Ledger α} {now : α}
    (h : ∀ record ∈ l.records, f now < f record.2 ↔ now < record.2) (nonce : String) :
    (l.map f).isLive nonce (f now) = l.isLive nonce now := by
  unfold isLive
  rw [get?_map]
  cases hget : l.get? nonce with
  | none => rfl
  | some expiry => exact decide_eq_decide.mpr (h _ (mem_of_get? hget))

theorem map_live {f : α → β} {l : Ledger α} {now : α}
    (h : ∀ record ∈ l.records, f now < f record.2 ↔ now < record.2) :
    (l.live now).map f = (l.map f).live (f now) := by
  unfold live map
  simp only [List.filter_map, Function.comp_def]
  refine congrArg (fun records => Ledger.mk (List.map _ records)) (List.filter_congr ?_)
  intro record hrecord
  exact (decide_eq_decide.mpr (h record hrecord)).symm

end Ledger

/-! ## Stores -/

/-- The table holds the records of the store of a process, by milliseconds, which lose nothing. -/
structure Mirrors (t : TableStore) (m : MemoryStore) : Prop where
  ledger_eq : ledger t = (ledger m).map Instant.millis
  whole : ∀ record ∈ (ledger m).records, record.2.IsWholeMilli

theorem mirrors_empty : Mirrors .empty .empty :=
  ⟨rfl, fun _ h => absurd h List.not_mem_nil⟩

namespace Mirrors

variable {t : TableStore} {m : MemoryStore}

theorem millis_lt_iff (h : Mirrors t m) {now : Instant} (hnow : now.IsWholeMilli) :
    ∀ record ∈ (ledger m).records, now.millis < record.2.millis ↔ now < record.2 :=
  fun record hrecord => hnow.millis_lt_millis_iff (h.whole record hrecord)

theorem holds_eq (h : Mirrors t m) {now : Instant} (hnow : now.IsWholeMilli) (nonce : String) :
    holds t nonce now = holds m nonce now := by
  unfold holds
  rw [h.ledger_eq]
  exact Ledger.isLive_map (h.millis_lt_iff hnow) nonce

theorem takes_eq (h : Mirrors t m) {c : Claim} (hnow : c.now.IsWholeMilli) :
    takes t c = takes m c := by
  unfold takes
  rw [h.holds_eq hnow]

theorem claim (h : Mirrors t m) {c : Claim} (hexpiry : c.expiresAt.IsWholeMilli)
    (hnow : c.now.IsWholeMilli) : Mirrors (NonceStore.claim t c).1 (NonceStore.claim m c).1 := by
  have ht := h.takes_eq hnow
  constructor
  · cases hm : takes m c
    · rw [ledger_claim_of_not_takes (ht.trans hm), ledger_claim_of_not_takes hm]
      exact h.ledger_eq
    · rw [ledger_claim_of_takes (ht.trans hm), ledger_claim_of_takes hm, h.ledger_eq,
        Ledger.map_put]
      rfl
  · intro record hrecord
    rcases mem_ledger_claim hrecord with ⟨-, rfl⟩ | hrecord
    · exact hexpiry
    · exact h.whole record hrecord

theorem purge (h : Mirrors t m) {now : Instant} (hnow : now.IsWholeMilli) :
    (NonceStore.purge t now).2 = (NonceStore.purge m now).2 ∧
      Mirrors (NonceStore.purge t now).1 (NonceStore.purge m now).1 := by
  have hlive : (ledger t).live now.millis = ((ledger m).live now).map Instant.millis := by
    rw [h.ledger_eq]
    exact (Ledger.map_live (h.millis_lt_iff hnow)).symm
  refine ⟨?_, hlive, ?_⟩
  · change Except.ok ((ledger t).size - ((ledger t).live now.millis).size) =
      Except.ok ((ledger m).size - ((ledger m).live now).size)
    rw [hlive, h.ledger_eq, Ledger.size_map, Ledger.size_map]
  · intro record hrecord
    exact h.whole record (Ledger.mem_live.mp hrecord).1

end Mirrors

/-! ## Courses -/

namespace Course

/-- The instants that come with a step. -/
def Step.instants : Step → List Instant
  | .claim c => [c.expiresAt, c.now]
  | .query _ now | .purge now => [now]

/-- One step in whole milliseconds gets the same answer from both stores. -/
theorem perform_of_mirrors {t : TableStore} {m : MemoryStore} (h : Mirrors t m) {step : Step}
    (hstep : ∀ i ∈ step.instants, i.IsWholeMilli) :
    (perform t step).2 = (perform m step).2 ∧ Mirrors (perform t step).1 (perform m step).1 := by
  cases step with
  | claim c =>
    have hexpiry : c.expiresAt.IsWholeMilli := hstep _ List.mem_cons_self
    have hnow : c.now.IsWholeMilli := hstep _ (List.mem_cons_of_mem _ List.mem_cons_self)
    refine ⟨?_, h.claim hexpiry hnow⟩
    change Answer.claimed (NonceStore.claim t c).2 = Answer.claimed (NonceStore.claim m c).2
    rw [claim_snd, claim_snd, h.takes_eq hnow]
  | query nonce now =>
    have hnow : now.IsWholeMilli := hstep _ List.mem_cons_self
    exact ⟨congrArg Answer.live (h.holds_eq hnow nonce), h⟩
  | purge now =>
    obtain ⟨hcount, hafter⟩ := h.purge (hstep _ List.mem_cons_self)
    exact ⟨congrArg Answer.purged hcount, hafter⟩

theorem answers_of_mirrors {t : TableStore} {m : MemoryStore} (h : Mirrors t m)
    {steps : List Step} (hsteps : ∀ step ∈ steps, ∀ i ∈ step.instants, i.IsWholeMilli) :
    answers t steps = answers m steps := by
  induction steps generalizing t m with
  | nil => rfl
  | cons step steps ih =>
    obtain ⟨hanswer, hafter⟩ := perform_of_mirrors h (hsteps step List.mem_cons_self)
    have hrest := ih hafter fun other hother => hsteps other (List.mem_cons_of_mem _ hother)
    simp only [answers, hanswer, hrest]

/-- In whole milliseconds nobody can tell a table from the store of a process: whatever is asked of
them from the start, they give the same answers. -/
theorem answers_eq_of_isWholeMilli {steps : List Step}
    (h : ∀ step ∈ steps, ∀ i ∈ step.instants, i.IsWholeMilli) :
    answers TableStore.empty steps = answers MemoryStore.empty steps :=
  answers_of_mirrors mirrors_empty h

/-- Before the epoch a nonce is claimed for two milliseconds, refused one millisecond on, and taken
over in the millisecond in which it expires. A blank nonce is refused, and a purge at the epoch
removes the record. -/
def sampleCourse : List Step :=
  [ .claim ⟨"n", ⟨-1, 1000000⟩, ⟨-2, 999000000⟩⟩,
    .claim ⟨"n", ⟨0, 0⟩, ⟨-1, 0⟩⟩,
    .claim ⟨"n", ⟨0, 0⟩, ⟨-1, 1000000⟩⟩,
    .claim ⟨" ", ⟨0, 0⟩, ⟨-1, 1000000⟩⟩,
    .query "n" ⟨-1, 999000000⟩,
    .purge ⟨0, 0⟩ ]

theorem answers_sampleCourse :
    answers TableStore.empty sampleCourse = answers MemoryStore.empty sampleCourse ∧
    answers TableStore.empty sampleCourse =
      [ .claimed { answer := .ok true },
        .claimed { answer := .ok false },
        .claimed { answer := .ok true },
        .claimed { answer := .ok false },
        .live true,
        .purged (.ok 1) ] :=
  ⟨answers_eq_of_isWholeMilli (by decide), rfl⟩

end Course

end WebhookGuard
