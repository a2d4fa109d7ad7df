import WebhookGuard.Proofs.Encoding.Hex
import WebhookGuard.Proofs.Text.Trimmed
import WebhookGuard.Settings.Basic

/-
  What single variables give. A variable holds a text, or it is unset, where blank texts count as
  unset. Every variable that is checked is read in one way (`Source.readWith`): an unset one gives a
  default, any other the value that its text writes, and a text that writes no value is shown in the
  complaint. What a text writes is told by its form, whatever white space is around it (`WritesCount`,
  `WritesFlag`, `WritesEncoding`), and the readings of numbers, flags and encodings are of this kind
  (`reads_count`, `reads_flag`, `reads_encoding`).
-/
namespace WebhookGuard

open WebhookGuard.Text

namespace Source

variable {source : Source} {name raw : String} {α β : Type}

/-! ## Set and unset -/

/-- The variable is set to a text that is not blank. -/
def Holds (source : Source) (name raw : String) : Prop :=
  source name = some raw ∧ isBlank raw = false

/-- The variable is not set, or it is blank. -/
def IsUnset (source : Source) (name : String) : Prop :=
  ∀ raw, source name = some raw → isBlank raw = true

theorem value?_eq_some_iff : source.value? name = some raw ↔ source.Holds name raw := by
  unfold value? Holds
  rw [Option.filter_eq_some_iff, Bool.not_eq_true']

theorem value?_eq_none_iff : source.value? name = none ↔ source.IsUnset name := by
  unfold value? IsUnset
  rw [Option.filter_eq_none_iff]
  simp

theorem isUnset_iff : source.IsUnset name ↔ ∀ raw, ¬ source.Holds name raw := by
  rw [← value?_eq_none_iff, Option.eq_none_iff_forall_ne_some]
  simp only [ne_eq, value?_eq_some_iff]

theorem Holds.unique {other : String} (h : source.Holds name raw) (h' : source.Holds name other) :
    raw = other :=
  Option.some.inj (h.1.symm.trans h'.1)

/-- The value that a variable gives: a default if it is unset, else what it writes. -/
def Given (source : Source) (name : String) (default : α) (writes : α → String → Prop) (a : α) :
    Prop :=
  (source.IsUnset name ∧ a = default) ∨ ∃ raw, source.Holds name raw ∧ writes a raw

theorem given_of_value? {default a : α} {f : String → α}
    (hnone : source.value? name = none → a = default)
    (hsome : ∀ raw, source.value? name = some raw → a = f raw) :
    source.Given name default (fun a raw => a = f raw) a := by
  cases hvalue : source.value? name with
  | none => exact Or.inl ⟨value?_eq_none_iff.mp hvalue, hnone hvalue⟩
  | some raw => exact Or.inr ⟨raw, value?_eq_some_iff.mp hvalue, hsome raw hvalue⟩

/-- A text that a variable gives as it stands, in place of another. -/
theorem given_text (name default : String) :
    source.Given name default (fun text raw => text = raw) ((source.value? name).getD default) :=
  given_of_value? (f := id) (fun h => by rw [h]; rfl) (fun raw h => by rw [h]; rfl)

/-- A text that a variable gives as it stands, if it gives any. -/
theorem given_value? (name : String) :
    source.Given name none (fun text raw => text = some raw) (source.value? name) :=
  given_of_value? id fun _ => id

/-- What is made of a value that is given is given. -/
theorem Given.map {default a : α} {writes : α → String → Prop}
    (h : source.Given name default writes a) (f : α → β) :
    source.Given name (f default) (fun b raw => ∃ a, writes a raw ∧ b = f a) (f a) := by
  rcases h with ⟨hunset, rfl⟩ | ⟨raw, hraw, hwrites⟩
  · exact Or.inl ⟨hunset, rfl⟩
  · exact Or.inr ⟨raw, hraw, a, hwrites, rfl⟩

/-- A variable gives one value, if every text writes no more than one. -/
theorem Given.unique {default a b : α} {writes : α → String → Prop}
    (h : source.Given name default writes a) (h' : source.Given name default writes b)
    (hwrites : ∀ raw a b, writes a raw → writes b raw → a = b) : a = b := by
  rcases h with ⟨hunset, rfl⟩ | ⟨raw, hraw, ha⟩
  · rcases h' with ⟨-, rfl⟩ | ⟨raw, hraw, -⟩
    · rfl
    · exact absurd hraw (isUnset_iff.mp hunset raw)
  · rcases h' with ⟨hunset, -⟩ | ⟨other, hother, hb⟩
    · exact absurd hraw (isUnset_iff.mp hunset raw)
    · obtain rfl := hraw.unique hother
      exact hwrites raw a b ha hb

/-- The first of some variables that holds anything holds this text. -/
def FirstHeld (source : Source) (names : List String) (raw : String) : Prop :=
  ∃ front name back, names = front ++ name :: back ∧ source.Holds name raw ∧
    ∀ other ∈ front, source.IsUnset other

theorem firstValue?_eq_some_iff {names : List String} :
    source.firstValue? names = some raw ↔ source.FirstHeld names raw := by
  unfold firstValue? FirstHeld
  rw [List.findSome?_eq_some_iff]
  simp only [value?_eq_some_iff, value?_eq_none_iff]

theorem firstValue?_eq_none_iff {names : List String} :
    source.firstValue? names = none ↔ ∀ name ∈ names, source.IsUnset name := by
  unfold firstValue?
  rw [List.findSome?_eq_none_iff]
  simp only [value?_eq_none_iff]

/-! ## Sources that are alike -/

/-- Two sources hold the same text in a variable, or it is unset in both. -/
def Alike (source source' : Source) (name : String) : Prop :=
  ∀ raw, source.Holds name raw ↔ source'.Holds name raw

section Alike

variable {source' : Source}

theorem Alike.isUnset (h : source.Alike source' name) :
    source.IsUnset name ↔ source'.IsUnset name := by
  rw [isUnset_iff, isUnset_iff]
  exact forall_congr' fun raw => not_congr (h raw)

theorem Alike.given (h : source.Alike source' name) (default : α) (writes : α → String → Prop)
    (a : α) : source.Given name default writes a ↔ source'.Given name default writes a :=
  or_congr (and_congr_left' h.isUnset) (exists_congr fun raw => and_congr_left' (h raw))

theorem Alike.firstHeld {names : List String} (h : ∀ name ∈ names, source.Alike source' name)
    (raw : String) : source.FirstHeld names raw ↔ source'.FirstHeld names raw := by
  refine exists_congr fun front => exists_congr fun name => exists_congr fun back => ?_
  refine and_congr_right fun hsplit => and_congr ?_ (forall₂_congr fun other hother => ?_)
  · exact h name (by simp [hsplit]) raw
  · exact (h other (by simp [hsplit, hother])).isUnset

end Alike

/-! ## Reading -/

/-- The value that a variable gives when its text is read by `parse`, or a complaint that shows the
text. -/
def readWith (source : Source) (name : String) (default : α) (parse : String → Option α)
    (shown : String → String) : Except ConfigError α :=
  match source.value? name with
  | none => .ok default
  | some raw =>
    match parse raw with
    | some a => .ok a
    | none => .error (.invalidValue name (shown raw))

/-- A reading gives what the variable gives, and complains about a text that writes nothing. -/
structure Reads (source : Source) (name : String) (default : α) (writes : α → String → Prop)
    (shown : String → String) (result : Except ConfigError α) : Prop where
  ok_iff : ∀ a, result = .ok a ↔ source.Given name default writes a
  error_iff : ∀ e, result = .error e ↔ ∃ raw, source.Holds name raw ∧ (∀ a, ¬ writes a raw) ∧
    e = .invalidValue name (shown raw)

section Reads

variable {default : α} {parse : String → Option α} {writes : α → String → Prop}
variable {shown : String → String}

theorem IsUnset.reads (h : source.IsUnset name) :
    source.Reads name default writes shown (.ok default) := by
  have hnone := isUnset_iff.mp h
  constructor
  · intro a
    simp [Given, h, hnone, eq_comm]
  · intro e
    simp [hnone]

theorem Holds.reads (h : source.Holds name raw) (hparse : ∀ a, parse raw = some a ↔ writes a raw) :
    source.Reads name default writes shown
      (match parse raw with
        | some a => .ok a
        | none => .error (.invalidValue name (shown raw))) := by
  have hset : ¬ source.IsUnset name := fun hunset => isUnset_iff.mp hunset raw h
  -- The text that the variable holds is the only one.
  have honly : ∀ {p : String → Prop}, (∃ other, source.Holds name other ∧ p other) ↔ p raw :=
    ⟨fun ⟨_, hother, hp⟩ => h.unique hother ▸ hp, fun hp => ⟨raw, h, hp⟩⟩
  constructor
  · intro a
    unfold Given
    rw [honly, ← hparse]
    cases parse raw <;> simp [hset]
  · intro e
    rw [honly]
    simp only [← hparse]
    cases parse raw <;> simp [eq_comm]

theorem reads_readWith (hparse : ∀ raw a, parse raw = some a ↔ writes a raw) :
    source.Reads name default writes shown (source.readWith name default parse shown) := by
  unfold readWith
  cases hvalue : source.value? name with
  | none => exact (value?_eq_none_iff.mp hvalue).reads
  | some raw => exact (value?_eq_some_iff.mp hvalue).reads (hparse raw)

end Reads

end Source

/-! ## Numbers -/

/-- A text that writes a number up to a limit. -/
def WritesCount (limit n : Nat) (raw : String) : Prop := Padded (IsCount limit n) raw

theorem count?_trim_eq_some_iff {limit n : Nat} {raw : String} :
    Text.count? limit (trim raw).toList = some n ↔ WritesCount limit n raw := by
  rw [count?_eq_some_iff]
  exact (padded_iff (fun _ => IsCount.isTrimmed) raw).symm

theorem WritesCount.unique {limit m n : Nat} {raw : String} (h : WritesCount limit m raw)
    (h' : WritesCount limit n raw) : m = n := by
  rw [← count?_trim_eq_some_iff] at h h'
  exact Option.some.inj (h.symm.trans h')

theorem reads_count (source : Source) (name : String) (limit : Nat) :
    source.Reads name none (fun n? raw => ∃ n, n? = some n ∧ WritesCount limit n raw) id
      (source.count? name limit) := by
  have hread : source.count? name limit =
      source.readWith name none (fun raw => (Text.count? limit (trim raw).toList).map some) id := by
    unfold Source.count? Source.readWith
    cases source.value? name with
    | none => rfl
    | some raw =>
      dsimp only
      cases Text.count? limit (trim raw).toList <;> rfl
  rw [hread]
  refine Source.reads_readWith fun raw n? => ?_
  simp only [Option.map_eq_some_iff, count?_trim_eq_some_iff]
  exact exists_congr fun n => by rw [and_comm, eq_comm]

/-- A text that writes a number of something. -/
def WritesAs {α : Type} (f : Nat → α) (limit : Nat) (a : α) (raw : String) : Prop :=
  ∃ n, WritesCount limit n raw ∧ a = f n

theorem WritesAs.unique {α : Type} {f : Nat → α} {limit : Nat} {a b : α} {raw : String}
    (h : WritesAs f limit a raw) (h' : WritesAs f limit b raw) : a = b := by
  obtain ⟨m, hm, rfl⟩ := h
  obtain ⟨n, hn, rfl⟩ := h'
  rw [hm.unique hn]

theorem given_of_count? {α : Type} {source : Source} {name : String} {limit : Nat}
    {n? : Option Nat} (h : source.count? name limit = .ok n?) (f : Nat → α) (default : α) :
    source.Given name default (WritesAs f limit) ((n?.map f).getD default) := by
  rcases ((reads_count source name limit).ok_iff n?).mp h with
    ⟨hunset, rfl⟩ | ⟨raw, hraw, n, rfl, hn⟩
  · exact Or.inl ⟨hunset, rfl⟩
  · exact Or.inr ⟨raw, hraw, n, hn, rfl⟩

/-! ## Flags -/

/-- The spellings of a flag. -/
def spellings : Bool → List String
  | true => Source.spellingsOn
  | false => Source.spellingsOff

/-- A text that spells a flag. -/
def WritesFlag (b : Bool) (raw : String) : Prop :=
  Padded (fun cs => String.ofList cs ∈ spellings b) raw

theorem isSolid_of_mem_spellings {b : Bool} {s : String} (h : s ∈ spellings b) :
    Timestamp.IsSolid s.toList := by
  have hall : ∀ b, ∀ s ∈ spellings b, s.toList.all (fun c => !isBlankChar c) = true := by
    decide
  intro c hc
  simpa using List.all_eq_true.mp (hall b s h) c hc

theorem writesFlag_iff {b : Bool} {raw : String} : WritesFlag b raw ↔ trim raw ∈ spellings b := by
  unfold WritesFlag
  rw [padded_iff, String.ofList_toList]
  intro core hcore
  have hsolid := isSolid_of_mem_spellings hcore
  rw [String.toList_ofList] at hsolid
  exact isTrimmed_of_isSolid hsolid

/-- No spelling is one of both. -/
theorem spellings_disjoint : ∀ s ∈ spellings true, s ∉ spellings false := by decide

theorem WritesFlag.unique {b c : Bool} {raw : String} (h : WritesFlag b raw)
    (h' : WritesFlag c raw) : b = c := by
  rw [writesFlag_iff] at h h'
  cases b <;> cases c
  · rfl
  · exact absurd h (spellings_disjoint _ h')
  · exact absurd h' (spellings_disjoint _ h)
  · rfl

theorem reads_flag (source : Source) (name : String) :
    source.Reads name false WritesFlag trim (source.flag name) := by
  have hread : source.flag name =
      source.readWith name false (fun raw =>
        if trim raw ∈ spellings true then some true
        else if trim raw ∈ spellings false then some false else none) trim := by
    unfold Source.flag Source.readWith
    cases source.value? name with
    | none => rfl
    | some raw =>
      by_cases hon : trim raw ∈ Source.spellingsOn
      · simp [spellings, hon]
      · by_cases hoff : trim raw ∈ Source.spellingsOff <;> simp [spellings, hon, hoff]
  rw [hread]
  refine Source.reads_readWith fun raw b => ?_
  rw [writesFlag_iff]
  split
  · next hon =>
    have hoff := spellings_disjoint _ hon
    cases b <;> simp [hon, hoff]
  · next hon =>
    cases b <;> simp [hon]

/-! ## Encodings -/

/-- A text that spells an encoding of signatures, in letters of either case. -/
def WritesEncoding (e : SignatureEncoding) (raw : String) : Prop :=
  Padded (fun cs => cs.map Char.toLower = e.name.toList) raw

theorem toLower_of_isBlankChar {c : Char} (h : isBlankChar c = true) : c.toLower = c := by
  by_cases hascii : c.toNat < 128
  · have hall : ∀ k < 128, isBlankChar (Char.ofNat k) = true →
        (Char.ofNat k).toLower = Char.ofNat k := by decide +kernel
    exact of_ascii (p := fun c => isBlankChar c = true → c.toLower = c) hall hascii h
  · exact Encoding.Hex.toLower_eq_self (Nat.le_of_not_lt hascii)

theorem ofName?_eq_some_iff {s : String} {e : SignatureEncoding} :
    (Named.ofName? s : Option SignatureEncoding) = some e ↔ e.name = s := by
  constructor
  · intro h
    have hname := List.find?_some (show List.find? (fun e' => Named.name e' == s) _ = some e from h)
    exact beq_iff_eq.mp hname
  · rintro rfl
    cases e <;> rfl

theorem isTrimmed_of_map_toLower {e : SignatureEncoding} {cs : List Char}
    (h : cs.map Char.toLower = e.name.toList) : IsTrimmed cs := by
  have hname : ∀ e : SignatureEncoding, e.name.toList.all (fun c => !isBlankChar c) = true := by
    intro e
    cases e <;> decide
  refine isTrimmed_of_isSolid fun c hc => Bool.eq_false_iff.mpr fun hblank => ?_
  have hmem : c.toLower ∈ e.name.toList := h ▸ List.mem_map_of_mem hc
  rw [toLower_of_isBlankChar hblank] at hmem
  have hsolid := List.all_eq_true.mp (hname e) c hmem
  rw [hblank] at hsolid
  cases hsolid

theorem ofName?_spelling_eq_some_iff {raw : String} {e : SignatureEncoding} :
    Named.ofName? (SignatureEncoding.spelling raw) = some e ↔ WritesEncoding e raw := by
  unfold WritesEncoding SignatureEncoding.spelling lower
  rw [ofName?_eq_some_iff, padded_iff (fun _ => isTrimmed_of_map_toLower), ← String.toList_inj,
    String.toList_ofList, eq_comm]

theorem WritesEncoding.unique {e e' : SignatureEncoding} {raw : String} (h : WritesEncoding e raw)
    (h' : WritesEncoding e' raw) : e = e' := by
  rw [← ofName?_spelling_eq_some_iff] at h h'
  exact Option.some.inj (h.symm.trans h')

theorem reads_encoding (source : Source) :
    source.Reads "SWISH_SIGNATURE_ENCODING" .auto WritesEncoding id (Settings.encoding source) := by
  have hread : Settings.encoding source =
      source.readWith "SWISH_SIGNATURE_ENCODING" .auto
        (fun raw => Named.ofName? (SignatureEncoding.spelling raw)) id := by
    unfold Settings.encoding Source.readWith SignatureEncoding.ofSetting
    dsimp only
    cases source.value? "SWISH_SIGNATURE_ENCODING" with
    | none => rfl
    | some raw =>
      dsimp only
      cases (Named.ofName? (SignatureEncoding.spelling raw) : Option SignatureEncoding) <;> rfl
  rw [hread]
  exact Source.reads_readWith fun raw e => ofName?_spelling_eq_some_iff

end WebhookGuard
