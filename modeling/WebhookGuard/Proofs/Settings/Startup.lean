import WebhookGuard.Proofs.Settings.Reading
import WebhookGuard.Verifier

/-
  From settings to a running server. The options of a verifier are checked again when it is built, and
  the backend when it is opened. The secret cannot fail the second check once it has passed the first:
  a text that is not blank has a character that is not white space, and in UTF-8 such a character has a
  byte that is not white space of ASCII (`isBlank_of_utf8`). The durations that variables give are
  counts of seconds, of which those of up to 9223372036854775 can be compared with clock readings;
  the first that cannot, or that is no time at all, is reported (`startup_checks`).
-/
namespace WebhookGuard

open WebhookGuard.Text

/-! ## Blank texts and blank bytes -/

theorem isBlankByte_of_le {n : Nat} (h : 128 ≤ n) (h' : n < 256) :
    isBlankByte (UInt8.ofNat n) = false := by
  have hall : ∀ n < 256, 128 ≤ n → isBlankByte (UInt8.ofNat n) = false := by decide +kernel
  exact hall n h' h

/-- Within ASCII a character is its byte; beyond it the first byte is no ASCII byte at all. -/
theorem exists_byte_of_not_isBlankChar {c : Char} (h : isBlankChar c = false) :
    ∃ b ∈ String.utf8EncodeChar c, isBlankByte b = false := by
  by_cases hascii : c.toNat < 128
  · have hall : ∀ k < 128, isBlankChar (Char.ofNat k) = false →
        ∃ b ∈ String.utf8EncodeChar (Char.ofNat k), isBlankByte b = false := by decide +kernel
    exact of_ascii (p := fun c => isBlankChar c = false →
      ∃ b ∈ String.utf8EncodeChar c, isBlankByte b = false) hall hascii h
  · have hlarge : ¬ c.val.toNat ≤ 127 := by
      intro hle
      exact hascii (Nat.lt_succ_of_le hle)
    unfold String.utf8EncodeChar
    dsimp only
    rw [if_neg hlarge]
    split
    · exact ⟨_, List.mem_cons_self, isBlankByte_of_le (by omega) (by omega)⟩
    · split
      · exact ⟨_, List.mem_cons_self, isBlankByte_of_le (by omega) (by omega)⟩
      · exact ⟨_, List.mem_cons_self, isBlankByte_of_le (by omega) (by omega)⟩

/-- A text whose bytes are all white space of ASCII is blank. -/
theorem isBlank_of_utf8 {s : String} (h : (utf8 s).all isBlankByte = true) : isBlank s = true := by
  rw [← Bool.not_eq_false]
  intro hnot
  obtain ⟨c, hc, hchar⟩ := List.all_eq_false.mp hnot
  obtain ⟨b, hb, hbyte⟩ := exists_byte_of_not_isBlankChar (Bool.not_eq_true _ ▸ hchar)
  have hblank := List.all_eq_true.mp h b (List.mem_flatMap.mpr ⟨c, hc, hb⟩)
  rw [hbyte] at hblank
  cases hblank

/-! ## Options -/

theorem Verifier.ofOptions_eq_error_iff {o : Options} {e : ConfigError} :
    Verifier.ofOptions o = .error e ↔ o.fault? = some e := by
  unfold ofOptions
  split
  · next e' h => rw [h, Except.error.injEq, Option.some.injEq]
  · next h => simp [h]

theorem Verifier.exists_ofOptions_iff {o : Options} :
    (∃ v, Verifier.ofOptions o = .ok v) ↔ o.fault? = none := by
  unfold ofOptions
  split
  · next e h => simp [h]
  · next h => simp [h]

namespace DurationSetting

variable {setting : DurationSetting} {d : Duration} {e : ConfigError}

theorem zeroFault?_eq_some_iff :
    setting.zeroFault? d = some e ↔ d = .zero ∧ e = .invalidDuration setting .zero := by
  unfold zeroFault?
  rw [Option.ite_none_right_eq_some, Option.some.injEq, eq_comm (a := e)]

theorem zeroFault?_eq_none_iff : setting.zeroFault? d = none ↔ d ≠ .zero := by
  unfold zeroFault?
  simp

/-- What is wrong with a duration that clock readings are compared with. -/
inductive Misfits (d : Duration) : DurationFault → Prop where
  | zero : d = .zero → Misfits d .zero
  | tooLong : longestDuration < d → Misfits d .tooLong

theorem not_longest_lt_zero : ¬ longestDuration < Duration.zero := by decide

theorem spanFault?_eq_some_iff : setting.spanFault? d = some e ↔
    ∃ fault, Misfits d fault ∧ e = .invalidDuration setting fault := by
  unfold spanFault?
  rw [Option.or_eq_some_iff, zeroFault?_eq_some_iff, zeroFault?_eq_none_iff,
    Option.ite_none_right_eq_some, Option.some.injEq]
  constructor
  · rintro (⟨hzero, rfl⟩ | ⟨-, hlong, rfl⟩)
    · exact ⟨_, .zero hzero, rfl⟩
    · exact ⟨_, .tooLong hlong, rfl⟩
  · rintro ⟨_, ⟨hzero⟩ | ⟨hlong⟩, rfl⟩
    · exact Or.inl ⟨hzero, rfl⟩
    · exact Or.inr ⟨fun hzero => not_longest_lt_zero (hzero ▸ hlong), hlong, rfl⟩

theorem spanFault?_eq_none_iff : setting.spanFault? d = none ↔ ∀ fault, ¬ Misfits d fault := by
  rw [Option.eq_none_iff_forall_ne_some]
  simp only [ne_eq, spanFault?_eq_some_iff, not_exists, not_and]
  exact ⟨fun h fault hfault => h _ fault hfault rfl, fun h _ fault hfault => absurd hfault (h fault)⟩

end DurationSetting

open DurationSetting (Misfits)

/-- The first duration of some options that is wrong, and what is wrong with it. -/
inductive Options.FirstMisfit (o : Options) : DurationSetting → DurationFault → Prop where
  | skew {fault : DurationFault} :
    Misfits o.allowedClockSkew fault → FirstMisfit o .allowedClockSkew fault
  | age {fault : DurationFault} : (∀ fault, ¬ Misfits o.allowedClockSkew fault) →
    Misfits o.maxMessageAge fault → FirstMisfit o .maxMessageAge fault
  | timeout : (∀ fault, ¬ Misfits o.allowedClockSkew fault) →
    (∀ fault, ¬ Misfits o.maxMessageAge fault) → o.storeTimeout = .zero →
    FirstMisfit o .storeTimeout .zero

/-- With a secret, it is the first wrong duration that is reported. -/
theorem Options.fault?_eq_some_iff {o : Options} {e : ConfigError}
    (h : o.secret.all isBlankByte = false) :
    o.fault? = some e ↔ ∃ setting fault, o.FirstMisfit setting fault ∧
      e = .invalidDuration setting fault := by
  unfold fault?
  rw [h, if_neg Bool.false_ne_true, Option.or_eq_some_iff, Option.or_eq_some_iff,
    DurationSetting.spanFault?_eq_some_iff, DurationSetting.spanFault?_eq_some_iff,
    DurationSetting.spanFault?_eq_none_iff, DurationSetting.spanFault?_eq_none_iff,
    DurationSetting.zeroFault?_eq_some_iff]
  constructor
  · rintro (⟨fault, hskew, rfl⟩ | ⟨hskew, ⟨fault, hage, rfl⟩ | ⟨hage, hzero, rfl⟩⟩)
    · exact ⟨_, _, .skew hskew, rfl⟩
    · exact ⟨_, _, .age hskew hage, rfl⟩
    · exact ⟨_, _, .timeout hskew hage hzero, rfl⟩
  · rintro ⟨setting, fault, hfirst, rfl⟩
    cases hfirst with
    | skew hskew => exact Or.inl ⟨_, hskew, rfl⟩
    | age hskew hage => exact Or.inr ⟨hskew, Or.inl ⟨_, hage, rfl⟩⟩
    | timeout hskew hage hzero => exact Or.inr ⟨hskew, Or.inr ⟨hage, hzero, rfl⟩⟩

theorem Options.fault?_eq_none_iff {o : Options} (h : o.secret.all isBlankByte = false) :
    o.fault? = none ↔ (∀ fault, ¬ Misfits o.allowedClockSkew fault) ∧
      (∀ fault, ¬ Misfits o.maxMessageAge fault) ∧ o.storeTimeout ≠ .zero := by
  unfold fault?
  rw [h, if_neg Bool.false_ne_true, Option.or_eq_none_iff, Option.or_eq_none_iff,
    DurationSetting.spanFault?_eq_none_iff, DurationSetting.spanFault?_eq_none_iff,
    DurationSetting.zeroFault?_eq_none_iff]

/-! ## Backends -/

/-- The store of a process needs nothing but an interval between sweeps. -/
theorem Backend.build_memory_eq_error_iff {interval : Duration} {place : Surroundings}
    {e : ConfigError} : (Backend.memory interval).build place = .error e ↔
      interval = .zero ∧ e = .invalidDuration .sweepInterval .zero := by
  rw [← DurationSetting.zeroFault?_eq_some_iff]
  unfold build
  simp only [sweepInterval?, Option.bind_some]
  cases DurationSetting.sweepInterval.zeroFault? interval with
  | none => simp
  | some e' => rw [Except.error.injEq, Option.some.injEq]

/-! ## Settings -/

namespace Settings

variable {source : Source} {s : Settings}

/-- Seconds that clock readings can be compared with, and at least one of them. -/
def IsSpanOfSecs (d : Duration) : Prop := ∃ n, d = .ofSecs n ∧ 1 ≤ n ∧ n ≤ 9223372036854775

theorem ofSecs_inj {m n : Nat} : Duration.ofSecs m = .ofSecs n ↔ m = n := by
  simp only [Duration.ofSecs, Duration.mk.injEq]
  omega

/-- The longest duration is not quite a second longer than the longest number of seconds within
it. -/
theorem not_misfits_ofSecs_iff (n : Nat) :
    (∀ fault, ¬ Misfits (.ofSecs n) fault) ↔ 1 ≤ n ∧ n ≤ 9223372036854775 := by
  have hzero : Duration.ofSecs n = .zero ↔ n = 0 := ofSecs_inj (n := 0)
  have hlong : longestDuration < .ofSecs n ↔ 9223372036854775 < n := by
    show 9223372036854775807 * 1000000 < n * 1000000000 ↔ _
    omega
  constructor
  · intro h
    have hpos : ¬ n = 0 := fun hn => h _ (.zero (hzero.mpr hn))
    have hle : ¬ 9223372036854775 < n := fun hn => h _ (.tooLong (hlong.mpr hn))
    omega
  · rintro ⟨hpos, hle⟩ _ (hn | hn)
    · have := hzero.mp hn
      omega
    · have := hlong.mp hn
      omega

theorem not_misfits_iff {d : Duration} (h : ∃ n, d = .ofSecs n) :
    (∀ fault, ¬ Misfits d fault) ↔ IsSpanOfSecs d := by
  obtain ⟨n, rfl⟩ := h
  rw [not_misfits_ofSecs_iff]
  constructor
  · intro hn
    exact ⟨n, rfl, hn⟩
  · rintro ⟨m, hm, hbounds⟩
    rw [ofSecs_inj.mp hm]
    exact hbounds

/-- Variables give durations in whole seconds. -/
theorem exists_ofSecs_of_given {name : String} {n : Nat} {d : Duration}
    (h : source.Given name (.ofSecs n) (WritesAs Duration.ofSecs longestCount) d) :
    ∃ n, d = .ofSecs n := by
  rcases h with ⟨-, rfl⟩ | ⟨-, -, m, -, rfl⟩
  · exact ⟨n, rfl⟩
  · exact ⟨m, rfl⟩

/-- The secret that was read is not blank as a string of bytes either. -/
theorem all_isBlankByte_secret (h : read source = .ok s) :
    s.options.secret.all isBlankByte = false := by
  obtain ⟨raw, ⟨-, hraw⟩, hsecret⟩ := gives_of_read h .secret
  have hsecret' : s.options.secret = utf8 raw := hsecret
  rw [hsecret', Bool.eq_false_iff]
  intro hall
  rw [isBlank_of_utf8 hall] at hraw
  cases hraw

/-- The options of settings that were read make a verifier if the skew and the age are spans of seconds
and the timeout is some time. Otherwise the first of them that is not is reported, and never the
secret. The store of a process can be set up unless the interval between sweeps is no time at all. -/
theorem startup_checks {source : Source} {s : Settings} (h : read source = .ok s) :
    Verifier.ofOptions s.options ≠ .error .missingSecret ∧
    ((∃ v, Verifier.ofOptions s.options = .ok v) ↔ IsSpanOfSecs s.options.allowedClockSkew ∧
      IsSpanOfSecs s.options.maxMessageAge ∧ s.options.storeTimeout ≠ .zero) ∧
    (∀ e, Verifier.ofOptions s.options = .error e ↔ ∃ setting fault,
      s.options.FirstMisfit setting fault ∧ e = .invalidDuration setting fault) ∧
    ∀ interval, s.backend = .memory interval → ∀ place e,
      s.backend.build place = .error e ↔
        interval = .zero ∧ e = .invalidDuration .sweepInterval .zero := by
  have hsecret := all_isBlankByte_secret h
  have hskew : ∃ n, s.options.allowedClockSkew = .ofSecs n :=
    exists_ofSecs_of_given (gives_of_read h .allowedClockSkew)
  have hage : ∃ n, s.options.maxMessageAge = .ofSecs n :=
    exists_ofSecs_of_given (gives_of_read h .maxMessageAge)
  have herror : ∀ e, Verifier.ofOptions s.options = .error e ↔ ∃ setting fault,
      s.options.FirstMisfit setting fault ∧ e = .invalidDuration setting fault :=
    fun _ => Verifier.ofOptions_eq_error_iff.trans (Options.fault?_eq_some_iff hsecret)
  refine ⟨fun hmissing => ?_, ?_, herror, ?_⟩
  · obtain ⟨_, _, -, hcause⟩ := (herror _).mp hmissing
    cases hcause
  · rw [Verifier.exists_ofOptions_iff, Options.fault?_eq_none_iff hsecret, not_misfits_iff hskew,
      not_misfits_iff hage]
  · intro interval hbackend place e
    rw [hbackend]
    exact Backend.build_memory_eq_error_iff

/-- Variables that can be read and with which nothing starts: a secret of a vertical tab and a letter
beyond ASCII, the longest skew, an age that is a second too long, and no time between sweeps. -/
def uselessVariables : Source := fun name =>
  [ ("SWISH_WEBHOOK_SECRET", "\x0b\u00e9"), ("SWISH_ALLOWED_SKEW_SECS", "9223372036854775"),
    ("SWISH_MAX_MESSAGE_AGE_SECS", "9223372036854776"), ("SWISH_STORE_TIMEOUT_MS", "0"),
    ("SWISH_NONCE_SWEEP_SECS", "0") ].lookup name

/-- The settings that these variables give. -/
def uselessSettings : Settings where
  options :=
    { secret := [0x0B, 0xC3, 0xA9]
      allowedClockSkew := .ofSecs 9223372036854775
      maxMessageAge := .ofSecs 9223372036854776
      storeTimeout := .zero }
  backend := .memory .zero
  metricsToken := none
  publicMetrics := false
  tcpPort := 8080

/-- The age is reported, although the timeout is wrong as well. -/
theorem startup_checks_of_uselessVariables :
    read uselessVariables = .ok uselessSettings ∧
    IsSpanOfSecs uselessSettings.options.allowedClockSkew ∧
    Verifier.ofOptions uselessSettings.options =
      .error (.invalidDuration .maxMessageAge .tooLong) ∧
    (Backend.memory .zero).build {} = .error (.invalidDuration .sweepInterval .zero) := by
  have hread : read uselessVariables = .ok uselessSettings := by rfl
  obtain ⟨-, -, herror, hmemory⟩ := startup_checks hread
  have hskew : IsSpanOfSecs uselessSettings.options.allowedClockSkew :=
    ⟨9223372036854775, rfl, by decide, by decide⟩
  refine ⟨hread, hskew, (herror _).mpr ⟨.maxMessageAge, .tooLong, .age ?_ (.tooLong ?_), rfl⟩, ?_⟩
  · exact (not_misfits_iff ⟨_, rfl⟩).mpr hskew
  · decide
  · exact (hmemory .zero rfl {} _).mpr ⟨rfl, rfl⟩

end Settings

end WebhookGuard
