import WebhookGuard.Store.Kind
import WebhookGuard.Sweeper
import WebhookGuard.Verifier

/-
  Simulated runs. Any number of verifiers work over one store while sweepers purge it. Time passes
  only where a step lets it pass or waits for the store, so a run has one outcome. Claims and
  deliveries bring their own clock readings; sweeps read the clock on the wall, which need not keep
  pace with the run. The store is in the hands of the run and of the verifiers, and is gone when
  both have let go of it.
-/
namespace WebhookGuard

/-- The state of a run. -/
structure Simulation where
  /-- The store and who holds it. What a file holds outlives its store. -/
  shared : Shared Store
  /-- The verifiers that were asked for, each built or refused. -/
  verifiers : List (Except ConfigError Verifier) := []
  sweepers : List Sweeper := []
  /-- The time since the start of the run, in whole milliseconds. -/
  clock : Duration := .zero
  /-- What the clock on the wall shows at each time of the run. -/
  wall : Duration → Instant

namespace Simulation

/-- The store. -/
def store (s : Simulation) : Store := s.shared.value

/-- The run with another state of its store. -/
def withStore (s : Simulation) (store : Store) : Simulation :=
  { s with shared := { s.shared with value := store } }

/-- Whether the store is there. -/
def isOpen (s : Simulation) : Bool := s.shared.isHeld

/-- In how many hands a store is that a run has opened: its own and those of the verifiers that
were built. -/
def hands (verifiers : List (Except ConfigError Verifier)) : Nat :=
  1 + verifiers.countP fun
    | .ok _ => true
    | .error _ => false

/-- A step of a run. -/
inductive Step where
  | verify (verifier : Nat) (delivery : Delivery)
  | claim (claim : Claim)
  | purge (now : Instant)
  /-- So many claims at once. -/
  | race (claim : Claim) (count : Nat)
  | isClaimed (nonce : String) (now : Instant)
  | size
  | startSweeper (interval : Duration)
  | advance (time : Duration)
  /-- Lets go of the store and the verifiers. -/
  | drop
  /-- Lets go of the store and the verifiers and opens the same file again. -/
  | reopen

/-- The answer to a step. -/
inductive Answer where
  | verdict (verdict : Verdict)
  | noVerifier
  | noStore
  | claimed (answer : Except StoreError Bool)
  | purged (answer : Except StoreError Nat)
  | taken (count : Nat)
  | live (isLive : Bool)
  | records (count : Nat)
  | started
  /-- Whether the last sweeper has ended, if there is one. -/
  | passed (finished : Option Bool)
  | dropped
  | reopened

/-- A run over a store, with verifiers of the given options, while the clock on the wall stands
still. -/
def start (store : Store) (options : List Options) (wall : Instant) : Simulation :=
  let verifiers := options.map Verifier.ofOptions
  { shared := { value := store, holders := hands verifiers }
    verifiers
    wall := fun _ => wall }

/-- What building the verifiers reports. -/
def startEvents (s : Simulation) : List Event :=
  s.verifiers.flatMap fun
    | .ok v => v.options.warnings
    | .error _ => []

/-- The clock comes to `time`, and the sweepers whose tick this is have their turns. -/
def turns (s : Simulation) (time : Duration) : Simulation × List Event :=
  let (sweepers, shared, events) := Sweeper.turns time (s.wall time) s.sweepers s.shared
  ({ s with sweepers, shared, clock := time }, events)

/-- How much time there is from the next tick of a sweeper to `time`. -/
def timeLeft (s : Simulation) (time : Duration) : Nat :=
  match Sweeper.nextWake? s.sweepers with
  | none => 0
  | some wake => time.nanos - wake.nanos

theorem timeLeft_turns_lt {s : Simulation} {time wake : Duration}
    (h : Sweeper.nextWake? s.sweepers = some wake) (hlt : wake < time) :
    (s.turns wake).1.timeLeft time < s.timeLeft time := by
  have hleft : s.timeLeft time = time.nanos - wake.nanos := by rw [timeLeft, h]
  rw [hleft]
  rw [Duration.lt_iff] at hlt
  unfold timeLeft
  cases hnext : Sweeper.nextWake? (s.turns wake).1.sweepers with
  | none => exact Nat.sub_pos_of_lt hlt
  | some later =>
    have hlater := Duration.lt_iff.mp (Sweeper.lt_nextWake?_turns h hnext)
    show time.nanos - later.nanos < time.nanos - wake.nanos
    omega

/-- Lets the clock run from tick to tick of the sweepers as long as they come before `time`.
What was reported is put before `latest`, the latest first. -/
def runUntil (time : Duration) (s : Simulation) (latest : List Event) :
    Simulation × List Event :=
  match h : Sweeper.nextWake? s.sweepers with
  | none => (s, latest)
  | some wake =>
    if hlt : wake < time then
      have : (s.turns wake).1.timeLeft time < s.timeLeft time := timeLeft_turns_lt h hlt
      let turned := s.turns wake
      runUntil time turned.1 (turned.2.reverse ++ latest)
    else (s, latest)
termination_by s.timeLeft time

/-- Lets time pass. Whoever waits goes on before a sweep that is due at the end of the wait, so such
a sweep is left to the next wait. -/
def pass (s : Simulation) (d : Duration) : Simulation × List Event :=
  let time := s.clock + Timer.wait d
  let (s, latest) := s.runUntil time []
  ({ s with clock := time }, latest.reverse)

/-- The run and its verifiers let go of the store. -/
def letGo (s : Simulation) : Simulation :=
  { s with shared := s.shared.release (hands s.verifiers), verifiers := [] }

/-- Verifies a delivery and waits for the store as long as the verifier does. -/
def verify (s : Simulation) (i : Nat) (d : Delivery) : Simulation × Answer × List Event :=
  match s.verifiers[i]? with
  | some (.ok v) =>
    let outcome := v.verify s.store d
    let (s, swept) := (s.withStore outcome.store).pass outcome.waited
    (s, .verdict outcome.verdict, swept ++ outcome.events)
  | _ => (s, .noVerifier, [])

/-- Claims a nonce and waits for the answer. -/
def claim (s : Simulation) (c : Claim) : Simulation × Answer × List Event :=
  let (store, reply) := NonceStore.claim s.store c
  let (s, swept) := (s.withStore store).pass reply.delay
  (s, .claimed reply.answer, swept ++ reply.events)

/-- The replies to so many claims of one nonce, one after the other. -/
def claims (store : Store) (c : Claim) : Nat → Store × List Reply
  | 0 => (store, [])
  | n + 1 =>
    let (store, reply) := NonceStore.claim store c
    let (store, replies) := claims store c n
    (store, reply :: replies)

/-- Whether a claim took its nonce. -/
def won (reply : Reply) : Bool :=
  match reply.answer with
  | .ok taken => taken
  | .error _ => false

/-- Claims a nonce so many times at once and counts the claims that took it. -/
def race (s : Simulation) (c : Claim) (n : Nat) : Simulation × Answer × List Event :=
  let (store, replies) := claims s.store c n
  let slowest := replies.foldl (fun d reply => d.max (Timer.wait reply.delay)) .zero
  let (s, swept) := (s.withStore store).pass slowest
  (s, .taken (replies.filter won).length, swept ++ replies.flatMap (·.events))

/-- One step of a run on a store that is held. -/
def stepOpen (s : Simulation) : Step → Simulation × Answer × List Event
  | .verify i d => s.verify i d
  | .claim c => s.claim c
  | .purge now =>
    let (store, count) := NonceStore.purge s.store now
    (s.withStore store, .purged count, [])
  | .race c n => s.race c n
  | .isClaimed nonce now =>
    match s.store.memory? with
    | some m => (s, .live (m.isClaimed nonce now), [])
    | none => (s, .noStore, [])
  | .size =>
    match s.store.memory? with
    | some m => (s, .records m.size, [])
    | none => (s, .noStore, [])
  | .startSweeper interval =>
    let sweeper := Sweeper.start interval s.shared.weaken s.clock
    ({ s with sweepers := s.sweepers ++ [sweeper] }, .started, [])
  | .advance d =>
    let (s, events) := s.pass d
    (s, .passed (s.sweepers.getLast?.map (·.finished)), events)
  | .drop => (s.letGo, .dropped, [])
  | .reopen =>
    let s := s.letGo
    ({ s with shared := s.shared.renew }, .reopened, [])

/-- One step of a run: the run afterwards, the answer, and what was reported. -/
def step (s : Simulation) (step : Step) : Simulation × Answer × List Event :=
  match s.isOpen, step with
  | true, step => s.stepOpen step
  | false, .verify .. => (s, .noVerifier, [])
  | false, .advance d => s.stepOpen (.advance d)
  | false, .drop => (s, .dropped, [])
  | false, .reopen => ({ s with shared := s.shared.renew }, .reopened, [])
  | false, _ => (s, .noStore, [])

end Simulation

end WebhookGuard
