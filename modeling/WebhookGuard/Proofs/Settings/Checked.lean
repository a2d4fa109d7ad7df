import WebhookGuard.Proofs.Settings.Variable

/-
  Settings that cannot be read. Reading fails if the secret is missing, or else at the first of the
  checked variables that holds what it may not (`FirstFault`). Each variable that is read passes this
  on to the rest of the reading (`FailsAt.bind`), so the reading as a whole is taken apart along the
  list of the variables (`failsAt_read`).
-/
namespace WebhookGuard.Settings

open WebhookGuard.Text

/-! ## Checked variables -/

/-- A variable that is checked. -/
structure Check where
  name : String
  /-- What the variable may hold. -/
  Accepts : String → Prop
  /-- What a complaint shows of the text that the variable holds. -/
  shown : String → String

namespace Check

/-- A number up to a limit. -/
def count (name : String) (limit : Nat) : Check :=
  ⟨name, fun raw => ∃ n, WritesCount limit n raw, id⟩

/-- A flag. -/
def flag (name : String) : Check := ⟨name, fun raw => ∃ b, WritesFlag b raw, trim⟩

/-- The encoding of signatures. -/
def encoding : Check := ⟨"SWISH_SIGNATURE_ENCODING", fun raw => ∃ e, WritesEncoding e raw, id⟩

variable {source : Source} {c : Check}

/-- The variable is unset, or it holds what it may. -/
def Sound (source : Source) (c : Check) : Prop := ∀ raw, source.Holds c.name raw → c.Accepts raw

/-- What is complained of when the variable holds what it may not. -/
def Fault (source : Source) (c : Check) (e : ConfigError) : Prop :=
  ∃ raw, source.Holds c.name raw ∧ ¬ c.Accepts raw ∧ e = .invalidValue c.name (c.shown raw)

theorem sound_iff : c.Sound source ↔ ∀ e, ¬ c.Fault source e := by
  constructor
  · rintro hsound e ⟨raw, hraw, hnot, -⟩
    exact hnot (hsound raw hraw)
  · intro hnone raw hraw
    apply Classical.byContradiction
    intro hnot
    exact hnone _ ⟨raw, hraw, hnot, rfl⟩

end Check

/-- The variables that are checked, in this order. -/
def checked : List Check :=
  [ .count "SWISH_ALLOWED_SKEW_SECS" longestCount,
    .count "SWISH_MAX_MESSAGE_AGE_SECS" longestCount,
    .count "SWISH_STORE_TIMEOUT_MS" longestCount,
    .flag "SWISH_STRICT_TIMESTAMPS",
    .encoding,
    .count "SWISH_NONCE_SWEEP_SECS" longestCount,
    .flag "SWISH_PUBLIC_METRICS",
    .count "PORT" greatestTcpPort ]

section Fault

variable {source : Source} {c : Check} {cs : List Check} {e : ConfigError} {α β : Type}

/-- The complaint about the first variable that is not sound. -/
def FirstFault (source : Source) (cs : List Check) (e : ConfigError) : Prop :=
  ∃ front c back, cs = front ++ c :: back ∧ (∀ d ∈ front, d.Sound source) ∧ c.Fault source e

theorem not_firstFault_nil : ¬ FirstFault source [] e := by
  rintro ⟨front, c, back, h, -⟩
  simp at h

theorem firstFault_cons :
    FirstFault source (c :: cs) e ↔ c.Fault source e ∨ (c.Sound source ∧ FirstFault source cs e) := by
  constructor
  · rintro ⟨front, d, back, hsplit, hfront, hfault⟩
    cases front with
    | nil =>
      obtain ⟨rfl, -⟩ := List.cons.inj hsplit
      exact Or.inl hfault
    | cons first front =>
      obtain ⟨rfl, hrest⟩ := List.cons.inj hsplit
      obtain ⟨hfirst, hfront'⟩ := List.forall_mem_cons.mp hfront
      exact Or.inr ⟨hfirst, front, d, back, hrest, hfront', hfault⟩
  · rintro (hfault | ⟨hsound, front, d, back, rfl, hfront, hfault⟩)
    · exact ⟨[], c, cs, rfl, nofun, hfault⟩
    · exact ⟨c :: front, d, back, rfl, List.forall_mem_cons.mpr ⟨hsound, hfront⟩, hfault⟩

/-- There is something to complain about unless all variables are sound. -/
theorem forall_not_firstFault_iff :
    (∀ e, ¬ FirstFault source cs e) ↔ ∀ c ∈ cs, c.Sound source := by
  induction cs with
  | nil => exact ⟨fun _ => nofun, fun _ _ => not_firstFault_nil⟩
  | cons c cs ih =>
    simp only [firstFault_cons, List.forall_mem_cons, not_or, not_and, forall_and,
      ← Check.sound_iff]
    refine and_congr_right fun hsound => ?_
    rw [← ih]
    exact forall_congr' fun e => ⟨fun h => h hsound, fun h _ => h⟩

/-- A reading that fails at the first variable that is not sound, and only there. -/
def FailsAt (source : Source) (cs : List Check) (result : Except ConfigError α) : Prop :=
  ∀ e, result = .error e ↔ FirstFault source cs e

theorem failsAt_ok (a : α) : FailsAt source [] (.ok a) :=
  fun _ => iff_of_false nofun not_firstFault_nil

/-- What is read after a variable is reached if the variable is sound. -/
theorem FailsAt.bind {default : α} {writes : α → String → Prop} {result : Except ConfigError α}
    {rest : α → Except ConfigError β}
    (hread : source.Reads c.name default writes c.shown result)
    (haccepts : ∀ raw, c.Accepts raw ↔ ∃ a, writes a raw)
    (hrest : ∀ a, FailsAt source cs (rest a)) : FailsAt source (c :: cs) (result >>= rest) := by
  have hfault : ∀ e, result = .error e ↔ c.Fault source e := by
    intro e
    rw [hread.error_iff]
    simp only [Check.Fault, haccepts, not_exists]
  intro e
  rw [firstFault_cons, ← hfault, Check.sound_iff]
  simp only [← hfault]
  cases result with
  | error e' => simp [Bind.bind, Except.bind]
  | ok a =>
    show rest a = .error e ↔ _
    rw [hrest a e]
    simp

theorem FailsAt.bind_count {name : String} {limit : Nat} {rest : Option Nat → Except ConfigError β}
    (hrest : ∀ n, FailsAt source cs (rest n)) :
    FailsAt source (.count name limit :: cs) (source.count? name limit >>= rest) := by
  have haccepts : ∀ raw, (Check.count name limit).Accepts raw ↔
      ∃ n?, ∃ n, n? = some n ∧ WritesCount limit n raw := by
    intro raw
    constructor
    · rintro ⟨n, hn⟩
      exact ⟨some n, n, rfl, hn⟩
    · rintro ⟨_, n, -, hn⟩
      exact ⟨n, hn⟩
  exact FailsAt.bind (c := .count name limit) (reads_count source name limit) haccepts hrest

theorem FailsAt.bind_flag {name : String} {rest : Bool → Except ConfigError β}
    (hrest : ∀ b, FailsAt source cs (rest b)) :
    FailsAt source (.flag name :: cs) (source.flag name >>= rest) :=
  FailsAt.bind (c := .flag name) (reads_flag source name) (fun _ => Iff.rfl) hrest

theorem FailsAt.bind_encoding {rest : SignatureEncoding → Except ConfigError β}
    (hrest : ∀ e, FailsAt source cs (rest e)) :
    FailsAt source (.encoding :: cs) (encoding source >>= rest) :=
  FailsAt.bind (c := .encoding) (reads_encoding source) (fun _ => Iff.rfl) hrest

/-- With a secret, reading fails at the first of the checked variables that is not sound. -/
theorem failsAt_read {secret : String} (h : source.Holds "SWISH_WEBHOOK_SECRET" secret) :
    FailsAt source checked (read source) := by
  unfold read
  rw [Source.value?_eq_some_iff.mpr h]
  refine FailsAt.bind_count fun skew => ?_
  refine FailsAt.bind_count fun age => ?_
  refine FailsAt.bind_count fun timeout => ?_
  refine FailsAt.bind_flag fun strict => ?_
  refine FailsAt.bind_encoding fun encoding => ?_
  refine FailsAt.bind_count fun sweep => ?_
  refine FailsAt.bind_flag fun publicMetrics => ?_
  refine FailsAt.bind_count fun tcpPort => ?_
  exact failsAt_ok _

theorem read_of_isUnset (h : source.IsUnset "SWISH_WEBHOOK_SECRET") :
    read source = .error .missingSecret := by
  unfold read
  rw [Source.value?_eq_none_iff.mpr h]

end Fault

end WebhookGuard.Settings
