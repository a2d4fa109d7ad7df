import WebhookGuard.Store.Remote

/-
  The connection of a remote store. A claim that is worth sending and can reach the server is one
  write there: it takes up one act of the server, which decides the answer and whether the connection
  lives on, and it opens a connection if there is none (`claim_of_sends`). All other claims leave the
  store and the server as they are; of these, a claim that is withheld is refused and one that finds
  no server is not decided.

  So over any run the server has received the claims that were sent, in order and each once, it has
  spent as many acts of its script, and it has accepted a connection for each of these claims that
  began without one (`connection_life`). The server may begin and cease to accept connections at any
  moment in between.
-/
namespace WebhookGuard

/-- What a server does with the next write. -/
def Server.next (s : Server) : ServerAct := s.script.headD .written

namespace RemoteStore

/-! ## One claim -/

/-- A claim that the store keeps to itself: the nonce is blank, or no whole millisecond is left. -/
def Withheld (c : Claim) : Prop := Text.isBlank c.nonce = true ∨ lifetime c ≤ 0

instance (c : Claim) : Decidable (Withheld c) := inferInstanceAs (Decidable (_ ∨ _))

/-- There is a connection, or the server accepts one. -/
def Reaches (s : RemoteStore) : Prop := s.connected = true ∨ s.server.reachable = true

instance (s : RemoteStore) : Decidable s.Reaches := inferInstanceAs (Decidable (_ ∨ _))

/-- A claim goes out to the server. -/
def Sends (s : RemoteStore) (c : Claim) : Prop := ¬ Withheld c ∧ s.Reaches

instance (s : RemoteStore) (c : Claim) : Decidable (s.Sends c) :=
  inferInstanceAs (Decidable (_ ∧ _))

/-- The answer to a claim by what the server does with its write. -/
def answerTo : ServerAct → Except StoreError Bool
  | .written => .ok true
  | .present => .ok false
  | .refused text => .error (.unavailable ("redis SET NX failed: " ++ text))
  | .closed => .error (.unavailable "redis SET NX failed: connection closed")

/-- The store once it has opened a connection. -/
def opened (s : RemoteStore) : RemoteStore :=
  { s with
    server := { s.server with connections := s.server.connections + 1 }
    connected := true }

/-- The store after a claim that was sent. -/
def afterWrite (s : RemoteStore) (c : Claim) : RemoteStore :=
  { s with
    server := { s.server with
      script := s.server.script.drop 1
      connections := s.server.connections + if s.connected then 0 else 1
      received := s.writeArguments c :: s.server.received }
    connected := decide (s.server.next ≠ .closed) }

theorem send_of_connected {s : RemoteStore} (h : s.connected = true) (c : Claim) :
    s.send c = (s.afterWrite c, answerTo s.server.next) := by
  obtain ⟨start, server, connected⟩ := s
  change connected = true at h
  subst h
  unfold send afterWrite Server.next
  cases server.script.headD .written <;> rfl

theorem claim_of_withheld (s : RemoteStore) {c : Claim} (h : Withheld c) :
    s.claim c = (s, { answer := .ok false }) := by
  unfold claim
  rcases h with hblank | hbrief
  · rw [if_pos hblank]
  · rw [if_pos hbrief]
    exact ite_self _

theorem claim_of_not_withheld (s : RemoteStore) {c : Claim} (h : ¬ Withheld c) :
    s.claim c =
      if s.connected then ((s.send c).1, { answer := (s.send c).2 })
      else if s.server.reachable then
        ((s.opened.send c).1, { answer := (s.opened.send c).2, events := [.connectionOpened] })
      else (s, { answer := .error (.unavailable "redis connect failed: connection refused") }) := by
  unfold claim
  rw [if_neg fun hblank => h (Or.inl hblank), if_neg fun hbrief => h (Or.inr hbrief)]
  rfl

/-- A claim that is sent is one write, over the connection that is open or else over a new one. -/
theorem claim_of_sends {s : RemoteStore} {c : Claim} (h : s.Sends c) :
    s.claim c = (s.afterWrite c,
      { answer := answerTo s.server.next
        events := if s.connected then [] else [.connectionOpened] }) := by
  obtain ⟨hworth, hreaches⟩ := h
  rw [claim_of_not_withheld s hworth]
  cases hconn : s.connected with
  | true =>
    rw [send_of_connected hconn]
    rfl
  | false =>
    have hreach : s.server.reachable = true := hreaches.resolve_left (by simp [hconn])
    have hopened : s.opened.afterWrite c = s.afterWrite c := by
      simp [opened, afterWrite, Server.next, writeArguments, key, hconn]
    rw [if_neg Bool.noConfusion, if_pos hreach, send_of_connected (s := s.opened) rfl, hopened]
    rfl

/-- What comes of a claim that is sent: the server receives one write and spends one act on it, the
act decides the answer, and the connection is there afterwards unless the server has closed it. -/
structure OneWrite (s : RemoteStore) (c : Claim) : Prop where
  received : (NonceStore.claim s c).1.server.received =
    [s.keyStart ++ c.nonce, "1", "NX", "PX", toString (lifetime c)] :: s.server.received
  script : (NonceStore.claim s c).1.server.script = s.server.script.drop 1
  written : s.server.next = .written → (NonceStore.claim s c).2.answer = .ok true
  present : s.server.next = .present → (NonceStore.claim s c).2.answer = .ok false
  undecided : s.server.next ≠ .written → s.server.next ≠ .present →
    ∃ cause, (NonceStore.claim s c).2.answer = .error (.unavailable cause)
  connected_iff : (NonceStore.claim s c).1.connected = true ↔ s.server.next ≠ .closed
  connections : (NonceStore.claim s c).1.server.connections =
    s.server.connections + if s.connected then 0 else 1
  events : (NonceStore.claim s c).2.events = if s.connected then [] else [.connectionOpened]

theorem oneWrite_of_sends {s : RemoteStore} {c : Claim} (h : s.Sends c) : s.OneWrite c := by
  have hstore : (NonceStore.claim s c).1 = s.afterWrite c := congrArg Prod.fst (claim_of_sends h)
  have hanswer : (NonceStore.claim s c).2.answer = answerTo s.server.next :=
    congrArg (fun p => p.2.answer) (claim_of_sends h)
  have hevents : (NonceStore.claim s c).2.events =
      if s.connected then [] else [.connectionOpened] :=
    congrArg (fun p => p.2.events) (claim_of_sends h)
  constructor <;> simp only [hstore, hanswer, hevents]
  case received => rfl
  case script => rfl
  case written =>
    intro hact
    rw [hact]
    rfl
  case present =>
    intro hact
    rw [hact]
    rfl
  case undecided =>
    intro hwritten hpresent
    cases hact : s.server.next with
    | written => exact absurd hact hwritten
    | present => exact absurd hact hpresent
    | refused text => exact ⟨_, rfl⟩
    | closed => exact ⟨_, rfl⟩
  case connected_iff => exact decide_eq_true_iff
  case connections => rfl

/-- Without a connection and a server that accepts one, a claim is not decided and changes
nothing. -/
theorem claim_of_not_reaches {s : RemoteStore} {c : Claim} (hworth : ¬ Withheld c)
    (h : ¬ s.Reaches) :
    s.claim c =
      (s, { answer := .error (.unavailable "redis connect failed: connection refused") }) := by
  unfold Reaches at h
  rw [claim_of_not_withheld s hworth, if_neg fun hc => h (Or.inl hc), if_neg fun hr => h (Or.inr hr)]

/-- A store reports a connection that it opens, and nothing else. -/
theorem events_claim (s : RemoteStore) (c : Claim) :
    (NonceStore.claim s c).2.events =
      if s.Sends c ∧ s.connected = false then [.connectionOpened] else [] := by
  by_cases hsends : s.Sends c
  · rw [(oneWrite_of_sends hsends).events]
    cases s.connected with
    | true => rw [if_pos rfl, if_neg fun h => Bool.noConfusion h.2]
    | false => rw [if_neg Bool.noConfusion, if_pos ⟨hsends, rfl⟩]
  · rw [if_neg fun h => hsends h.1]
    change (s.claim c).2.events = []
    by_cases hheld : Withheld c
    · rw [claim_of_withheld s hheld]
    · rw [claim_of_not_reaches hheld fun hreaches => hsends ⟨hheld, hreaches⟩]

/-! ## Runs -/

/-- What happens at a store and its server. -/
inductive Step where
  | claim (claim : Claim)
  | purge (now : Instant)
  /-- From now on the server accepts connections, or it turns them away. -/
  | accept (reachable : Bool)

def step (s : RemoteStore) : Step → RemoteStore
  | .claim c => (NonceStore.claim s c).1
  | .purge now => (NonceStore.purge s now).1
  | .accept reachable => { s with server := { s.server with reachable } }

/-- The store after some steps. -/
def after (s : RemoteStore) : List Step → RemoteStore
  | [] => s
  | step :: steps => (s.step step).after steps

/-- A claim that was sent, and the store that sent it. -/
structure Write where
  store : RemoteStore
  claim : Claim

namespace Write

/-- What the server receives. -/
def arguments (w : Write) : List String := w.store.writeArguments w.claim

/-- What the caller gets. -/
def answer (w : Write) : Except StoreError Bool := (NonceStore.claim w.store w.claim).2.answer

/-- The write has to open a connection. -/
def Opens (w : Write) : Prop := w.store.connected = false

instance (w : Write) : Decidable w.Opens := inferInstanceAs (Decidable (_ = _))

end Write

/-- The write that a step leads to. -/
def write? (s : RemoteStore) : Step → Option Write
  | .claim c => if s.Sends c then some ⟨s, c⟩ else none
  | .purge _ | .accept _ => none

/-- The writes of some steps, in order. -/
def writes (s : RemoteStore) : List Step → List Write
  | [] => []
  | step :: steps => (s.write? step).toList ++ (s.step step).writes steps

/-- A step is one write, or else it touches neither the script nor the record of the server. -/
theorem step_cases (s : RemoteStore) (step : Step) :
    (∃ c, s.Sends c ∧ s.write? step = some ⟨s, c⟩ ∧ s.step step = s.afterWrite c) ∨
      (s.write? step = none ∧ (s.step step).keyStart = s.keyStart ∧
        (s.step step).server.script = s.server.script ∧
        (s.step step).server.received = s.server.received ∧
        (s.step step).server.connections = s.server.connections) := by
  cases step with
  | purge now => exact Or.inr ⟨rfl, rfl, rfl, rfl, rfl⟩
  | accept reachable => exact Or.inr ⟨rfl, rfl, rfl, rfl, rfl⟩
  | claim c =>
    by_cases hsends : s.Sends c
    · exact Or.inl ⟨c, hsends, if_pos hsends, congrArg Prod.fst (claim_of_sends hsends)⟩
    · have hsame : s.step (.claim c) = s := by
        show (s.claim c).1 = s
        by_cases hworth : Withheld c
        · rw [claim_of_withheld s hworth]
        · rw [claim_of_not_reaches hworth fun hreaches => hsends ⟨hworth, hreaches⟩]
      rw [hsame]
      exact Or.inr ⟨if_neg hsends, rfl, rfl, rfl, rfl⟩

theorem keyStart_after (s : RemoteStore) (steps : List Step) :
    (s.after steps).keyStart = s.keyStart := by
  induction steps generalizing s with
  | nil => rfl
  | cons step steps ih =>
    refine (ih (s.step step)).trans ?_
    rcases s.step_cases step with ⟨c, -, -, hstep⟩ | ⟨-, hstart, -⟩
    · rw [hstep]
      rfl
    · exact hstart

/-- Whatever sends a write, the key begins as it does for the store at the start. -/
theorem keyStart_of_mem_writes {s : RemoteStore} {steps : List Step} {w : Write}
    (h : w ∈ s.writes steps) : w.store.keyStart = s.keyStart := by
  induction steps generalizing s with
  | nil => cases h
  | cons step steps ih =>
    rcases s.step_cases step with ⟨c, -, hwrite, hstep⟩ | ⟨hnone, hstart, -⟩
    · rw [writes, hwrite, hstep] at h
      rcases List.mem_cons.mp h with rfl | hlater
      · rfl
      · exact ih (s := s.afterWrite c) hlater
    · rw [writes, hnone] at h
      exact (ih h).trans hstart

theorem received_after (s : RemoteStore) (steps : List Step) :
    (s.after steps).server.received =
      ((s.writes steps).map Write.arguments).reverse ++ s.server.received := by
  induction steps generalizing s with
  | nil => rfl
  | cons step steps ih =>
    rw [after, writes, ih]
    rcases s.step_cases step with ⟨c, -, hwrite, hstep⟩ | ⟨hnone, -, -, hreceived, -⟩
    · rw [hwrite, hstep]
      simp [afterWrite, Write.arguments]
    · rw [hnone, hreceived]
      rfl

theorem script_after (s : RemoteStore) (steps : List Step) :
    (s.after steps).server.script = s.server.script.drop (s.writes steps).length := by
  induction steps generalizing s with
  | nil => rfl
  | cons step steps ih =>
    rw [after, writes, ih]
    rcases s.step_cases step with ⟨c, -, hwrite, hstep⟩ | ⟨hnone, -, hscript, -⟩
    · rw [hwrite, hstep]
      simp [afterWrite, Nat.add_comm]
    · rw [hnone, hscript]
      rfl

theorem connections_after (s : RemoteStore) (steps : List Step) :
    (s.after steps).server.connections =
      s.server.connections + (s.writes steps).countP fun w => decide w.Opens := by
  induction steps generalizing s with
  | nil => rfl
  | cons step steps ih =>
    rw [after, writes, ih]
    rcases s.step_cases step with ⟨c, -, hwrite, hstep⟩ | ⟨hnone, -, -, -, hconnections⟩
    · rw [hwrite, hstep]
      cases hconn : s.connected with
      | true => simp [afterWrite, Write.Opens, hconn]
      | false =>
        simp only [afterWrite, Write.Opens, hconn, Option.toList_some, List.singleton_append,
          List.countP_cons, decide_true, if_true, if_false, Bool.false_eq_true]
        omega
    · rw [hnone, hconnections]
      rfl

/-- The writes are answered one after the other by the acts of the script. -/
theorem answers_writes (s : RemoteStore) (steps : List Step) :
    (s.writes steps).map Write.answer =
      (List.range (s.writes steps).length).map fun i =>
        answerTo (s.server.script.getD i .written) := by
  induction steps generalizing s with
  | nil => rfl
  | cons step steps ih =>
    rw [writes]
    rcases s.step_cases step with ⟨c, hsends, hwrite, hstep⟩ | ⟨hnone, -, hscript, -⟩
    · have hanswer : Write.answer ⟨s, c⟩ = answerTo s.server.next :=
        congrArg (fun p => p.2.answer) (claim_of_sends hsends)
      rw [hwrite, hstep]
      have ih := ih (s.afterWrite c)
      simp only [Option.toList_some, List.singleton_append, List.map_cons, List.length_cons,
        List.range_succ_eq_map, List.map_map, hanswer, ih]
      congr 1
      · unfold Server.next
        cases s.server.script <;> rfl
      · refine List.map_congr_left fun i _ => ?_
        simp [afterWrite, List.getD_eq_getElem?_getD]
    · rw [hnone]
      have ih := ih (s.step step)
      rw [hscript] at ih
      exact ih

/-! ## From the settings on -/

/-- A store begins without a connection, on the server that it is given. -/
theorem eq_of_open? {address start : String} {server : Server} {s : RemoteStore}
    (h : open? address start server = .ok s) :
    s = { keyStart := if Text.isBlank start then defaultKeyStart else start, server } := by
  unfold open? at h
  split at h
  · cases h
  · split at h
    · cases h
    · exact (Except.ok.inj h).symm

/-- At every point of every run, a claim is refused when it is withheld, is one write when it can be
sent, and is not decided otherwise; a purge does nothing. Over the run the server has received the
writes and nothing else, has spent an act of its script on each, by which it was answered, and has
accepted a connection for each that began without one. -/
theorem connection_life {address start : String} {server : Server} {s : RemoteStore}
    (h : open? address start server = .ok s) (steps : List Step) :
    (∀ c, Withheld c →
      NonceStore.claim (s.after steps) c = (s.after steps, { answer := .ok false })) ∧
    (∀ c, (s.after steps).Sends c → (s.after steps).OneWrite c) ∧
    (∀ c, ¬ Withheld c → ¬ (s.after steps).Reaches → ∃ cause,
      NonceStore.claim (s.after steps) c =
        (s.after steps, { answer := .error (.unavailable cause) })) ∧
    (∀ now, NonceStore.purge (s.after steps) now = (s.after steps, .ok 0)) ∧
    (s.after steps).keyStart = (if Text.isBlank start then defaultKeyStart else start) ∧
    (s.after steps).server.received =
      ((s.writes steps).map fun w =>
        [(if Text.isBlank start then defaultKeyStart else start) ++ w.claim.nonce, "1", "NX", "PX",
          toString (lifetime w.claim)]).reverse ++ server.received ∧
    (s.after steps).server.script = server.script.drop (s.writes steps).length ∧
    (s.writes steps).map Write.answer =
      (List.range (s.writes steps).length).map (fun i => answerTo (server.script.getD i .written)) ∧
    (s.after steps).server.connections =
      server.connections + (s.writes steps).countP fun w => decide w.Opens := by
  obtain rfl := eq_of_open? h
  refine ⟨?_, ?_, ?_, ?_, keyStart_after _ steps, ?_, script_after _ steps, answers_writes _ steps,
    connections_after _ steps⟩
  · exact fun c hheld => claim_of_withheld _ hheld
  · exact fun c hsends => oneWrite_of_sends hsends
  · exact fun c hworth hreaches => ⟨_, claim_of_not_reaches hworth hreaches⟩
  · exact fun now => rfl
  · refine (received_after _ steps).trans ?_
    congr 2
    refine List.map_congr_left fun w hw => ?_
    show [w.store.keyStart ++ w.claim.nonce, _, _, _, _] = _
    rw [keyStart_of_mem_writes hw]

/-- A claim for ten seconds. -/
def tenSeconds : Claim := ⟨"n", ⟨1757962700, 0⟩, ⟨1757962690, 0⟩⟩

/-- The server is out of reach for a while in between. -/
def interrupted : List Step :=
  [ .claim tenSeconds, .claim tenSeconds, .accept false, .claim tenSeconds, .accept true,
    .claim tenSeconds ]

/-- The server reports an error, then closes the connection and cannot be reached for a while. Three
of four claims are sent, over two connections. -/
theorem connection_life_of_interrupted :
    ∃ s, open? "redis://127.0.0.1/" " " { script := [.refused "ERR busy", .closed, .present] } =
        .ok s ∧
      (s.after interrupted).server.connections = 2 ∧
      (s.after interrupted).server.received =
        List.replicate 3 ["swish:nonce:n", "1", "NX", "PX", "10000"] := by
  refine ⟨_, rfl, ?_⟩
  obtain ⟨-, -, -, -, -, hreceived, -, -, hconnections⟩ := connection_life
    (rfl : open? "redis://127.0.0.1/" " " { script := [.refused "ERR busy", .closed, .present] } =
      .ok _) interrupted
  rw [hreceived, hconnections]
  decide +kernel

/-- A server that accepts no connection receives nothing, although the claim is worth sending. -/
theorem unsent_of_unreachable :
    ∃ s, open? "redis://127.0.0.1:1/" "p:" { reachable := false } = .ok s ∧
      ¬ Withheld tenSeconds ∧
      (NonceStore.claim s tenSeconds).1.server.received = [] ∧
      (NonceStore.claim s tenSeconds).1.server.connections = 0 :=
  ⟨_, rfl, by decide, rfl, rfl⟩

end RemoteStore

end WebhookGuard
