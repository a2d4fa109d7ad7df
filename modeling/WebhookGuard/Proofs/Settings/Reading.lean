import Mathlib.Data.List.Nodup
import Mathlib.Data.List.Pairwise
import Mathlib.Logic.Function.Basic
import WebhookGuard.Proofs.Settings.Checked

/-
  Settings as a whole. Where reading succeeds, every field has the value that its own variables give
  (`Field.Gives`), and this tells the settings, since no field is given two values
  (`Field.Gives.unique`). No variable belongs to two fields, and only what a variable holds matters,
  so that a blank variable is as good as none. Together with the complaints this accounts for
  everything that reading does (`read_accounts_for_variables`).
-/
namespace WebhookGuard.Settings

open WebhookGuard.Text

/-! ## Fields -/

/-- What is set up. -/
inductive Field where
  | secret
  | allowedClockSkew
  | maxMessageAge
  | storeTimeout
  | signatureHeader
  | timestampHeader
  | nonceHeader
  | timestampPolicy
  | signatureEncoding
  | backend
  | metricsToken
  | publicMetrics
  | tcpPort
deriving DecidableEq, Repr

namespace Field

/-- All fields. -/
def all : List Field :=
  [ secret, allowedClockSkew, maxMessageAge, storeTimeout, signatureHeader, timestampHeader,
    nonceHeader, timestampPolicy, signatureEncoding, backend, metricsToken, publicMetrics, tcpPort ]

theorem mem_all (f : Field) : f ∈ all := by cases f <;> decide

/-- The names of the variables of a field. -/
def names : Field → List String
  | secret => ["SWISH_WEBHOOK_SECRET"]
  | allowedClockSkew => ["SWISH_ALLOWED_SKEW_SECS"]
  | maxMessageAge => ["SWISH_MAX_MESSAGE_AGE_SECS"]
  | storeTimeout => ["SWISH_STORE_TIMEOUT_MS"]
  | signatureHeader => ["SWISH_SIGNATURE_HEADER"]
  | timestampHeader => ["SWISH_TIMESTAMP_HEADER"]
  | nonceHeader => ["SWISH_NONCE_HEADER"]
  | timestampPolicy => ["SWISH_STRICT_TIMESTAMPS"]
  | signatureEncoding => ["SWISH_SIGNATURE_ENCODING"]
  | backend =>
    addressVariables ++ ["SWISH_REDIS_PREFIX", "SWISH_NONCE_DB_PATH", "SWISH_NONCE_SWEEP_SECS"]
  | metricsToken => ["METRICS_TOKEN"]
  | publicMetrics => ["SWISH_PUBLIC_METRICS"]
  | tcpPort => ["PORT"]

theorem nodup_names : (all.flatMap names).Nodup := by decide

/-- No variable belongs to two fields. -/
theorem eq_of_mem_names {f g : Field} {name : String} (hf : name ∈ f.names)
    (hg : name ∈ g.names) : f = g := by
  obtain ⟨-, hdisjoint⟩ := List.nodup_flatMap.mp nodup_names
  have : Std.Symm (Function.onFun List.Disjoint names) := ⟨fun _ _ h _ hb ha => h ha hb⟩
  apply Classical.byContradiction
  intro hne
  exact hdisjoint.forall (mem_all f) (mem_all g) hne hf hg

/-- The values that a field can have. -/
def Value : Field → Type
  | secret => Bytes
  | allowedClockSkew | maxMessageAge | storeTimeout => Duration
  | signatureHeader | timestampHeader | nonceHeader => String
  | timestampPolicy => TimestampPolicy
  | signatureEncoding => SignatureEncoding
  | backend => Backend
  | metricsToken => Option String
  | publicMetrics => Bool
  | tcpPort => Nat

/-- The value of a field. -/
def get (s : Settings) : (f : Field) → f.Value
  | secret => s.options.secret
  | allowedClockSkew => s.options.allowedClockSkew
  | maxMessageAge => s.options.maxMessageAge
  | storeTimeout => s.options.storeTimeout
  | signatureHeader => s.options.signatureHeader
  | timestampHeader => s.options.timestampHeader
  | nonceHeader => s.options.nonceHeader
  | timestampPolicy => s.options.timestampPolicy
  | signatureEncoding => s.options.signatureEncoding
  | backend => s.backend
  | metricsToken => s.metricsToken
  | publicMetrics => s.publicMetrics
  | tcpPort => s.tcpPort

/-- Settings are their fields. -/
theorem ext_get {s s' : Settings} (h : ∀ f : Field, f.get s = f.get s') : s = s' := by
  obtain ⟨⟨_, _, _, _, _, _, _, _, _⟩, _, _, _, _⟩ := s
  obtain ⟨⟨_, _, _, _, _, _, _, _, _⟩, _, _, _, _⟩ := s'
  simp only [Settings.mk.injEq, Options.mk.injEq]
  exact ⟨⟨h secret, h allowedClockSkew, h maxMessageAge, h signatureHeader, h timestampHeader,
    h nonceHeader, h timestampPolicy, h signatureEncoding, h storeTimeout⟩, h backend,
    h metricsToken, h publicMetrics, h tcpPort⟩

end Field

/-- The policy that a flag chooses. -/
def policyOf (strict : Bool) : TimestampPolicy := if strict then .unixSecondsStrict else .flexible

/-- The interval between sweeps that the variables give. -/
def GivesSweep (source : Source) (interval : Duration) : Prop :=
  source.Given "SWISH_NONCE_SWEEP_SECS" Backend.defaultSweepInterval
    (WritesAs Duration.ofSecs longestCount) interval

/-- The backend that the variables ask for. -/
inductive AsksFor (source : Source) : Backend → Prop where
  /-- A remote store, if any variable holds an address. -/
  | remote {address keyStart : String} :
    source.FirstHeld addressVariables address →
    source.Given "SWISH_REDIS_PREFIX" RemoteStore.defaultKeyStart (fun start raw => start = raw)
      keyStart →
    AsksFor source (.remote address keyStart)
  /-- Else a table, if there is a path. -/
  | table {path : String} {interval : Duration} :
    (∀ name ∈ addressVariables, source.IsUnset name) → source.Holds "SWISH_NONCE_DB_PATH" path →
    GivesSweep source interval → AsksFor source (.table path interval)
  /-- Else the store of this process. -/
  | memory {interval : Duration} :
    (∀ name ∈ addressVariables, source.IsUnset name) → source.IsUnset "SWISH_NONCE_DB_PATH" →
    GivesSweep source interval → AsksFor source (.memory interval)

/-- The value that the variables of a field give. -/
def Field.Gives (source : Source) : (f : Field) → f.Value → Prop
  | .secret, bytes => ∃ raw, source.Holds "SWISH_WEBHOOK_SECRET" raw ∧ bytes = utf8 raw
  | .allowedClockSkew, d =>
    source.Given "SWISH_ALLOWED_SKEW_SECS" (.ofSecs 300) (WritesAs Duration.ofSecs longestCount) d
  | .maxMessageAge, d =>
    source.Given "SWISH_MAX_MESSAGE_AGE_SECS" (.ofSecs 600) (WritesAs Duration.ofSecs longestCount) d
  | .storeTimeout, d =>
    source.Given "SWISH_STORE_TIMEOUT_MS" (.ofSecs 2) (WritesAs Duration.ofMillis longestCount) d
  | .signatureHeader, name =>
    source.Given "SWISH_SIGNATURE_HEADER" HeaderRole.signature.defaultName
      (fun name raw => name = raw) name
  | .timestampHeader, name =>
    source.Given "SWISH_TIMESTAMP_HEADER" HeaderRole.timestamp.defaultName
      (fun name raw => name = raw) name
  | .nonceHeader, name =>
    source.Given "SWISH_NONCE_HEADER" HeaderRole.nonce.defaultName (fun name raw => name = raw) name
  | .timestampPolicy, policy =>
    source.Given "SWISH_STRICT_TIMESTAMPS" (policyOf false)
      (fun policy raw => ∃ strict, WritesFlag strict raw ∧ policy = policyOf strict) policy
  | .signatureEncoding, e => source.Given "SWISH_SIGNATURE_ENCODING" .auto WritesEncoding e
  | .backend, b => AsksFor source b
  | .metricsToken, token =>
    source.Given "METRICS_TOKEN" none (fun token raw => token = some raw) token
  | .publicMetrics, b => source.Given "SWISH_PUBLIC_METRICS" false WritesFlag b
  | .tcpPort, port =>
    source.Given "PORT" defaultTcpPort (WritesAs id greatestTcpPort) port

section Gives

variable {source source' : Source} {s s' : Settings}

/-! ## One value for each field -/

theorem FirstHeld.unique {names : List String} {raw other : String}
    (h : source.FirstHeld names raw) (h' : source.FirstHeld names other) : raw = other := by
  rw [← Source.firstValue?_eq_some_iff] at h h'
  exact Option.some.inj (h.symm.trans h')

theorem FirstHeld.not_isUnset {names : List String} {raw : String}
    (h : source.FirstHeld names raw) : ¬ ∀ name ∈ names, source.IsUnset name := by
  rw [← Source.firstValue?_eq_some_iff] at h
  rw [← Source.firstValue?_eq_none_iff, h]
  exact nofun

theorem GivesSweep.unique {interval interval' : Duration} (h : GivesSweep source interval)
    (h' : GivesSweep source interval') : interval = interval' :=
  Source.Given.unique h h' fun _ _ _ => WritesAs.unique

theorem AsksFor.unique {b b' : Backend} (h : AsksFor source b) (h' : AsksFor source b') :
    b = b' := by
  cases h with
  | remote haddress hstart =>
    cases h' with
    | remote haddress' hstart' =>
      obtain rfl := FirstHeld.unique haddress haddress'
      obtain rfl := hstart.unique hstart' fun _ _ _ h h' => h.trans h'.symm
      rfl
    | table hnone => exact absurd hnone (FirstHeld.not_isUnset haddress)
    | memory hnone => exact absurd hnone (FirstHeld.not_isUnset haddress)
  | table hnone hpath hsweep =>
    cases h' with
    | remote haddress => exact absurd hnone (FirstHeld.not_isUnset haddress)
    | table _ hpath' hsweep' =>
      obtain rfl := hpath.unique hpath'
      obtain rfl := hsweep.unique hsweep'
      rfl
    | memory _ hpath' => exact absurd hpath (Source.isUnset_iff.mp hpath' _)
  | memory hnone hpath hsweep =>
    cases h' with
    | remote haddress => exact absurd hnone (FirstHeld.not_isUnset haddress)
    | table _ hpath' => exact absurd hpath' (Source.isUnset_iff.mp hpath _)
    | memory _ _ hsweep' =>
      obtain rfl := hsweep.unique hsweep'
      rfl

/-- No field is given two values. -/
theorem Field.Gives.unique {f : Field} {v v' : f.Value} (h : f.Gives source v)
    (h' : f.Gives source v') : v = v' := by
  cases f with
  | secret =>
    obtain ⟨raw, hraw, rfl⟩ := h
    obtain ⟨raw', hraw', rfl⟩ := h'
    rw [hraw.unique hraw']
  | allowedClockSkew | maxMessageAge | storeTimeout | tcpPort =>
    exact Source.Given.unique h h' fun _ _ _ => WritesAs.unique
  | signatureHeader | timestampHeader | nonceHeader =>
    exact Source.Given.unique h h' fun _ _ _ h h' => h.trans h'.symm
  | metricsToken =>
    dsimp only [Gives] at h h'
    exact h.unique h' fun _ _ _ h h' => h.trans h'.symm
  | timestampPolicy =>
    dsimp only [Gives] at h h'
    refine h.unique h' ?_
    rintro raw _ _ ⟨strict, hstrict, rfl⟩ ⟨strict', hstrict', rfl⟩
    rw [hstrict.unique hstrict']
  | signatureEncoding => exact Source.Given.unique h h' fun _ _ _ => WritesEncoding.unique
  | backend => exact AsksFor.unique h h'
  | publicMetrics => exact Source.Given.unique h h' fun _ _ _ => WritesFlag.unique

/-! ## Only the own variables -/

theorem AsksFor.of_alike (h : ∀ name ∈ Field.backend.names, source.Alike source' name)
    {b : Backend} (hb : AsksFor source b) : AsksFor source' b := by
  have haddress : ∀ name ∈ addressVariables, source.Alike source' name :=
    fun name hname => h name (List.mem_append_left _ hname)
  have hnone : (∀ name ∈ addressVariables, source.IsUnset name) →
      ∀ name ∈ addressVariables, source'.IsUnset name :=
    fun hunset name hname => (haddress name hname).isUnset.mp (hunset name hname)
  have hstart : source.Alike source' "SWISH_REDIS_PREFIX" := h _ (by decide)
  have hpath : source.Alike source' "SWISH_NONCE_DB_PATH" := h _ (by decide)
  have hsweep : source.Alike source' "SWISH_NONCE_SWEEP_SECS" := h _ (by decide)
  cases hb with
  | remote hfirst hgiven =>
    exact .remote ((Source.Alike.firstHeld haddress _).mp hfirst) ((hstart.given _ _ _).mp hgiven)
  | table hunset hheld hgiven =>
    exact .table (hnone hunset) ((hpath _).mp hheld) ((hsweep.given _ _ _).mp hgiven)
  | memory hunset hpath' hgiven =>
    exact .memory (hnone hunset) (hpath.isUnset.mp hpath') ((hsweep.given _ _ _).mp hgiven)

/-- Only the variables of a field have a say in its value. -/
theorem Field.Gives.of_alike {f : Field} {v : f.Value}
    (h : ∀ name ∈ f.names, source.Alike source' name) (hv : f.Gives source v) :
    f.Gives source' v := by
  cases f with
  | secret =>
    obtain ⟨raw, hraw, rfl⟩ := hv
    exact ⟨raw, (h _ (List.mem_singleton_self _) raw).mp hraw, rfl⟩
  | backend => exact AsksFor.of_alike h hv
  | _ =>
    dsimp only [Gives] at hv ⊢
    exact ((h _ (List.mem_singleton_self _)).given _ _ _).mp hv

/-! ## What is read -/

theorem exists_of_bind_eq_ok {ε α β : Type} {x : Except ε α} {f : α → Except ε β} {b : β}
    (h : x >>= f = .ok b) : ∃ a, x = .ok a ∧ f a = .ok b := by
  cases x with
  | error e => cases h
  | ok a => exact ⟨a, rfl, h⟩

theorem asksFor_backendOf {interval : Duration} (h : GivesSweep source interval) :
    AsksFor source (backendOf source interval) := by
  unfold backendOf
  cases haddress : source.firstValue? addressVariables with
  | some address =>
    exact .remote (Source.firstValue?_eq_some_iff.mp haddress) (Source.given_text _ _)
  | none =>
    have hnone := Source.firstValue?_eq_none_iff.mp haddress
    dsimp only
    cases hpath : source.value? "SWISH_NONCE_DB_PATH" with
    | some path => exact .table hnone (Source.value?_eq_some_iff.mp hpath) h
    | none => exact .memory hnone (Source.value?_eq_none_iff.mp hpath) h

/-- Whatever is read is what the variables give. -/
theorem gives_of_read (h : read source = .ok s) (f : Field) : f.Gives source (f.get s) := by
  unfold read at h
  cases hsecret : source.value? "SWISH_WEBHOOK_SECRET" with
  | none =>
    rw [hsecret] at h
    cases h
  | some secret =>
    rw [hsecret] at h
    obtain ⟨skew, hskew, h₁⟩ := exists_of_bind_eq_ok h
    obtain ⟨age, hage, h₂⟩ := exists_of_bind_eq_ok h₁
    obtain ⟨timeout, htimeout, h₃⟩ := exists_of_bind_eq_ok h₂
    obtain ⟨strict, hstrict, h₄⟩ := exists_of_bind_eq_ok h₃
    obtain ⟨encoding, hencoding, h₅⟩ := exists_of_bind_eq_ok h₄
    obtain ⟨sweep, hsweep, h₆⟩ := exists_of_bind_eq_ok h₅
    obtain ⟨publicMetrics, hpublic, h₇⟩ := exists_of_bind_eq_ok h₆
    obtain ⟨tcpPort, hport, h₈⟩ := exists_of_bind_eq_ok h₇
    obtain rfl := Except.ok.inj h₈
    cases f with
    | secret => exact ⟨secret, Source.value?_eq_some_iff.mp hsecret, rfl⟩
    | allowedClockSkew => exact given_of_count? hskew _ _
    | maxMessageAge => exact given_of_count? hage _ _
    | storeTimeout => exact given_of_count? htimeout _ _
    | signatureHeader => exact Source.given_text _ _
    | timestampHeader => exact Source.given_text _ _
    | nonceHeader => exact Source.given_text _ _
    | timestampPolicy => exact (((reads_flag source _).ok_iff _).mp hstrict).map policyOf
    | signatureEncoding => exact ((reads_encoding source).ok_iff _).mp hencoding
    | backend => exact asksFor_backendOf (given_of_count? hsweep _ _)
    | metricsToken => exact Source.given_value? _
    | publicMetrics => exact ((reads_flag source _).ok_iff _).mp hpublic
    | tcpPort =>
      have hgiven := given_of_count? hport id defaultTcpPort
      rwa [Option.map_id] at hgiven

/-- The secret is there, and all checked variables are sound. -/
def Readable (source : Source) : Prop :=
  ¬ source.IsUnset "SWISH_WEBHOOK_SECRET" ∧ ∀ c ∈ checked, c.Sound source

theorem read_eq_error_iff (source : Source) (e : ConfigError) :
    read source = .error e ↔ (source.IsUnset "SWISH_WEBHOOK_SECRET" ∧ e = .missingSecret) ∨
      (¬ source.IsUnset "SWISH_WEBHOOK_SECRET" ∧ FirstFault source checked e) := by
  by_cases hunset : source.IsUnset "SWISH_WEBHOOK_SECRET"
  · simp [read_of_isUnset hunset, hunset, eq_comm]
  · obtain ⟨secret, hsecret⟩ := Option.ne_none_iff_exists'.mp (mt Source.value?_eq_none_iff.mp hunset)
    rw [failsAt_read (Source.value?_eq_some_iff.mp hsecret) e]
    simp [hunset]

theorem exists_read_iff (source : Source) : (∃ s, read source = .ok s) ↔ Readable source := by
  have hok : (∃ s, read source = .ok s) ↔ ∀ e, read source ≠ .error e := by
    cases read source with
    | ok s => simp
    | error e => simp
  unfold Readable
  rw [hok, ← forall_not_firstFault_iff]
  simp only [ne_eq, read_eq_error_iff, not_or, not_and, forall_and, forall_eq_apply_imp_iff]
  constructor
  · rintro ⟨hset, hfault⟩
    exact ⟨hset, fun e => hfault e hset⟩
  · rintro ⟨hset, hfault⟩
    exact ⟨hset, fun e _ => hfault e⟩

/-- Only the texts that variables hold matter. -/
theorem read_eq_of_value? (h : source.value? = source'.value?) : read source = read source' := by
  unfold read encoding backendOf Source.count? Source.flag Source.firstValue?
  simp only [h]

/-- A variable that is set to a blank text holds as much as one that is not set. -/
theorem value?_update_of_isBlank {name raw : String} (h : isBlank raw = true) :
    Source.value? (Function.update source name (some raw)) =
      Source.value? (Function.update source name none) := by
  funext other
  unfold Source.value?
  by_cases hother : other = name
  · rw [hother, Function.update_self, Function.update_self, Option.filter_some, h]
    rfl
  · rw [Function.update_of_ne hother, Function.update_of_ne hother]

end Gives

/-- Reading succeeds if there is a secret and every checked variable is unset or holds what it may;
then every field has the value that its own variables give, and that is all there is to the settings.
Otherwise the missing secret is reported, or the first variable that holds what it may not. No variable
belongs to two fields: settings that are read from sources which are alike in the variables of a field
agree in that field. A blank variable is as good as none. -/
theorem read_accounts_for_variables (source : Source) :
    ((∃ s, read source = .ok s) ↔ Readable source) ∧
    (∀ e, read source = .error e ↔ (source.IsUnset "SWISH_WEBHOOK_SECRET" ∧ e = .missingSecret) ∨
      (¬ source.IsUnset "SWISH_WEBHOOK_SECRET" ∧ FirstFault source checked e)) ∧
    (∀ s, read source = .ok s ↔ Readable source ∧ ∀ f : Field, f.Gives source (f.get s)) ∧
    (∀ f g : Field, ∀ name ∈ f.names, name ∈ g.names → f = g) ∧
    (∀ source' s s', read source = .ok s → read source' = .ok s' → ∀ f : Field,
      (∀ name ∈ f.names, source.Alike source' name) → f.get s = f.get s') ∧
    ∀ name raw, isBlank raw = true →
      read (Function.update source name (some raw)) = read (Function.update source name none) := by
  refine ⟨exists_read_iff source, read_eq_error_iff source, fun s => ?_,
    fun f g name => Field.eq_of_mem_names, ?_,
    fun name raw hblank => read_eq_of_value? (value?_update_of_isBlank hblank)⟩
  · constructor
    · intro h
      exact ⟨(exists_read_iff source).mp ⟨s, h⟩, gives_of_read h⟩
    · rintro ⟨hreadable, hgives⟩
      obtain ⟨s', hs'⟩ := (exists_read_iff source).mpr hreadable
      have hsame : s = s' := Field.ext_get fun f => (hgives f).unique (gives_of_read hs' f)
      rw [hsame, hs']
  · intro source' s s' hs hs' f halike
    exact ((gives_of_read hs f).of_alike halike).unique (gives_of_read hs' f)

/-- Variables of a server that shares its store: a number with a plus sign and zeros in front, an
encoding in capital letters, the second of the addresses, and blank texts. -/
def sampleVariables : Source := fun name =>
  [ ("SWISH_WEBHOOK_SECRET", " k"), ("SWISH_ALLOWED_SKEW_SECS", "\t+0060 "),
    ("SWISH_STORE_TIMEOUT_MS", " "), ("SWISH_SIGNATURE_ENCODING", "HeX\n"),
    ("SWISH_REDIS", ""), ("SWISH_REDIS_CONN", "redis://a"), ("REDIS_URL", "redis://b"),
    ("SWISH_NONCE_DB_PATH", "n.db"), ("SWISH_STRICT_TIMESTAMPS", "yes ") ].lookup name

/-- The settings that these variables give. -/
def sampleSettings : Settings where
  options :=
    { secret := [32, 107]
      allowedClockSkew := .ofSecs 60
      timestampPolicy := .unixSecondsStrict
      signatureEncoding := .hex }
  backend := .remote "redis://a" "swish:nonce:"
  metricsToken := none
  publicMetrics := false
  tcpPort := 8080

/-- These variables can be read. With a number of seconds that no word holds and a port that is no
number, the former is reported; with another port, the skew stays as it is. -/
theorem read_accounts_for_sampleVariables :
    Readable sampleVariables ∧
    (∀ f : Field, f.Gives sampleVariables (f.get sampleSettings)) ∧
    FirstFault
      (Function.update (Function.update sampleVariables "PORT" (some "http"))
        "SWISH_MAX_MESSAGE_AGE_SECS" (some "18446744073709551616"))
      checked (.invalidValue "SWISH_MAX_MESSAGE_AGE_SECS" "18446744073709551616") ∧
    ∀ s, read (Function.update sampleVariables "PORT" (some "9")) = .ok s →
      s.options.allowedClockSkew = .ofSecs 60 := by
  have hread : read sampleVariables = .ok sampleSettings := by rfl
  obtain ⟨hreadable, -, hgives, -, hown, -⟩ := read_accounts_for_variables sampleVariables
  refine ⟨hreadable.mp ⟨_, hread⟩, ((hgives _).mp hread).2, ?_, ?_⟩
  · obtain ⟨-, herror, -⟩ := read_accounts_for_variables
      (Function.update (Function.update sampleVariables "PORT" (some "http"))
        "SWISH_MAX_MESSAGE_AGE_SECS" (some "18446744073709551616"))
    rcases (herror (.invalidValue "SWISH_MAX_MESSAGE_AGE_SECS" "18446744073709551616")).mp
      (by rfl) with ⟨-, h⟩ | ⟨-, h⟩
    · cases h
    · exact h
  · intro s hs
    refine (hown _ _ _ hread hs .allowedClockSkew fun name hname raw => ?_).symm
    obtain rfl := List.mem_singleton.mp hname
    unfold Source.Holds
    rw [Function.update_of_ne (by decide)]

end WebhookGuard.Settings
