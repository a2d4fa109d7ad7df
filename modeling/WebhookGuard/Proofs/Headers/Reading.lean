import WebhookGuard.Proofs.Headers.Lookup
import WebhookGuard.Receiver
import Mathlib.Data.List.Basic
import Mathlib.Logic.Relation

/-
  What is read of a list of headers. A list gives each name its first value (`get?_ofList`), and a
  role is read from the values along its names (`reading?`). Verification sees nothing else of the
  list: two lists with the same three readings lead to the same outcome over every store
  (`verify_eq_of_readings`). So an attacker or a proxy that rearranges, repeats, recases or adds
  headers changes nothing as long as the readings stay (`Unseen`, `reading?_of_unseen`).
-/
namespace WebhookGuard

open WebhookGuard.Text

/-- Names with values, in the order in which they came. -/
abbrev Pairs := List (String × String)

namespace Pairs

variable {pairs : Pairs} {name value : String} {names : List String}

/-- The value of the first pair with a name that is the same up to case. -/
def value? (pairs : Pairs) (name : String) : Option String :=
  (pairs.find? fun pair => sameUpToCase pair.1 name).map Prod.snd

/-- The first value along some names that is not blank. Blank names are passed over. -/
def firstNonBlank? (pairs : Pairs) (names : List String) : Option String :=
  names.findSome? fun name =>
    if isBlank name then none else (pairs.value? name).filter fun value => !isBlank value

/-- The first value along some names, blank or not. Blank names are passed over. -/
def firstPresent? (pairs : Pairs) (names : List String) : Option String :=
  names.findSome? fun name => if isBlank name then none else pairs.value? name

/-! ## Values of a list -/

theorem value?_cons (pair : String × String) (pairs : Pairs) (name : String) :
    value? (pair :: pairs) name =
      if sameUpToCase pair.1 name then some pair.2 else pairs.value? name := by
  unfold value?
  rw [List.find?_cons]
  cases sameUpToCase pair.1 name <;> rfl

theorem value?_append (before after : Pairs) (name : String) :
    value? (before ++ after) name = (before.value? name).or (after.value? name) := by
  unfold value?
  rw [List.find?_append, Option.map_or]

/-- A pair counts for its own name only. -/
theorem value?_append_cons_of_ne {before after : Pairs} {pair : String × String}
    (h : sameUpToCase pair.1 name = false) :
    value? (before ++ pair :: after) name = value? (before ++ after) name := by
  rw [value?_append, value?_append, value?_cons, h]
  rfl

theorem value?_isSome_of_mem {pair : String × String} (hmem : pair ∈ pairs)
    (h : sameUpToCase pair.1 name = true) : (pairs.value? name).isSome := by
  unfold value?
  rw [Option.isSome_map, List.find?_isSome]
  exact ⟨pair, hmem, h⟩

end Pairs

namespace Headers

variable {names : List String}

/-- Inserting a list keeps what is there, and gives each other name its first value. -/
theorem get?_foldl_insert (pairs : Pairs) (h : Headers) (name : String) :
    (pairs.foldl (fun h pair => h.insert pair.1 pair.2) h).get? name =
      (h.get? name).or (pairs.value? name) := by
  induction pairs generalizing h with
  | nil => simp [Pairs.value?]
  | cons pair pairs ih =>
    have hsame : (lower name = lower pair.1) ↔ sameUpToCase pair.1 name = true := by
      rw [sameUpToCase_iff, eq_comm]
    rw [List.foldl_cons, ih, get?_insert, Pairs.value?_cons, Option.or_assoc]
    simp only [hsame]
    cases sameUpToCase pair.1 name <;> rfl

/-- The value for a name is that of the first pair with this name. -/
theorem get?_ofList (pairs : Pairs) (name : String) :
    (ofList pairs).get? name = pairs.value? name := by
  unfold ofList
  rw [get?_foldl_insert, get?_empty, Option.none_or]

theorem firstNonBlank?_ofList (pairs : Pairs) (names : List String) :
    (ofList pairs).firstNonBlank? names = pairs.firstNonBlank? names := by
  unfold Pairs.firstNonBlank? firstNonBlank? present
  induction names with
  | nil => rfl
  | cons name names ih =>
    rw [List.findSome?_cons, ← ih, ← get?_ofList]
    cases hname : isBlank name with
    | true => simp [hname]
    | false =>
      cases hget : (ofList pairs).get? name with
      | none => simp [hname, hget]
      | some value => cases hvalue : isBlank value <;> simp [hname, hget, hvalue, Option.filter]

theorem firstPresent?_ofList (pairs : Pairs) (names : List String) :
    (ofList pairs).firstPresent? names = pairs.firstPresent? names := by
  unfold Pairs.firstPresent? firstPresent? present
  induction names with
  | nil => rfl
  | cons name names ih =>
    rw [List.findSome?_cons, ← ih, ← get?_ofList]
    cases hname : isBlank name with
    | true => simp [hname]
    | false => cases hget : (ofList pairs).get? name <;> simp [hname, hget]

end Headers

/-! ## Readings -/

/-- What a role is read as from a list: the first value along its names that is not blank, and for
a timestamp, failing that, the first value of all. -/
def Options.reading? (o : Options) (role : HeaderRole) (pairs : Pairs) : Option String :=
  match role with
  | .signature => pairs.firstNonBlank? (o.names .signature)
  | .timestamp =>
    (pairs.firstNonBlank? (o.names .timestamp)).or (pairs.firstPresent? (o.names .timestamp))
  | .nonce => pairs.firstNonBlank? (o.names .nonce)

namespace Verifier

theorem signature?_ofList (v : Verifier) (pairs : Pairs) :
    v.signature? (.ofList pairs) = v.options.reading? .signature pairs :=
  Headers.firstNonBlank?_ofList pairs _

theorem timestamp?_ofList (v : Verifier) (pairs : Pairs) :
    v.timestamp? (.ofList pairs) = v.options.reading? .timestamp pairs := by
  unfold timestamp? Options.reading?
  rw [Headers.firstNonBlank?_ofList, Headers.firstPresent?_ofList]

theorem nonce?_ofList (v : Verifier) (pairs : Pairs) :
    v.nonce? (.ofList pairs) = v.options.reading? .nonce pairs :=
  Headers.firstNonBlank?_ofList pairs _

/-- The checks see nothing but the readings. -/
theorem check_eq_of_readings {v : Verifier} {pairs pairs' : Pairs}
    (h : ∀ role, v.options.reading? role pairs = v.options.reading? role pairs')
    (body : Bytes) (now : Instant) :
    v.check ⟨body, .ofList pairs, now⟩ = v.check ⟨body, .ofList pairs', now⟩ := by
  unfold check
  simp only [signature?_ofList, timestamp?_ofList, nonce?_ofList, h]
  rfl

/-- Lists with the same readings lead to the same outcome: verdict, store and all. -/
theorem verify_eq_of_readings {σ : Type} [NonceStore σ] (s : σ) {v : Verifier}
    {pairs pairs' : Pairs}
    (h : ∀ role, v.options.reading? role pairs = v.options.reading? role pairs')
    (body : Bytes) (now : Instant) :
    v.verify s ⟨body, .ofList pairs, now⟩ = v.verify s ⟨body, .ofList pairs', now⟩ := by
  unfold verify
  rw [check_eq_of_readings h]

end Verifier

/-! ## Changes that are not seen -/

namespace Options

variable {o : Options}

/-- A name is passed over for a role beside a list: it is none of the names that the role is read
under, or a lower one while the configured name has a value that is not blank. -/
def PassesOver (o : Options) (role : HeaderRole) (name : String) (pairs : Pairs) : Prop :=
  (∀ other ∈ o.names role, isBlank other = false → sameUpToCase name other = false) ∨
    (isBlank (o.header role) = false ∧ sameUpToCase name (o.header role) = false ∧
      ∃ value, pairs.value? (o.header role) = some value ∧ isBlank value = false)

/-- A change to a list of headers that is not seen: two neighbours with different names change
places, a name is written in another case, or a pair is left out, because its name has a value
already or is passed over for every role. -/
inductive Unseen (o : Options) : Pairs → Pairs → Prop where
  | swap (before after : Pairs) (pair pair' : String × String)
      (h : sameUpToCase pair.1 pair'.1 = false) :
      Unseen o (before ++ pair :: pair' :: after) (before ++ pair' :: pair :: after)
  | recase (before after : Pairs) {name name' : String} (h : sameUpToCase name name' = true)
      (value : String) :
      Unseen o (before ++ (name, value) :: after) (before ++ (name', value) :: after)
  | repeated (before after : Pairs) (pair : String × String)
      (h : ∃ earlier ∈ before, sameUpToCase earlier.1 pair.1 = true) :
      Unseen o (before ++ pair :: after) (before ++ after)
  | passedOver (before after : Pairs) (pair : String × String)
      (h : ∀ role, o.PassesOver role pair.1 (before ++ after)) :
      Unseen o (before ++ pair :: after) (before ++ after)

/-- The readings are made of the values of names that are not blank. -/
theorem reading?_congr {role : HeaderRole} {pairs pairs' : Pairs}
    (h : ∀ name ∈ o.names role, isBlank name = false → pairs.value? name = pairs'.value? name) :
    o.reading? role pairs = o.reading? role pairs' := by
  have hsearch : ∀ f : Option String → Option String,
      ((o.names role).findSome? fun name =>
        if isBlank name then none else f (pairs.value? name)) =
      (o.names role).findSome? fun name =>
        if isBlank name then none else f (pairs'.value? name) := by
    intro f
    rw [← List.head?_filterMap, ← List.head?_filterMap]
    refine congrArg List.head? (List.filterMap_congr fun name hname => ?_)
    cases hblank : isBlank name with
    | true => rfl
    | false => rw [h name hname hblank]
  have hnonBlank : pairs.firstNonBlank? (o.names role) = pairs'.firstNonBlank? (o.names role) :=
    hsearch (Option.filter fun value => !isBlank value)
  cases role with
  | signature => exact hnonBlank
  | timestamp => exact congrArg₂ Option.or hnonBlank (hsearch id)
  | nonce => exact hnonBlank

/-- A configured name with a value that is not blank decides. -/
theorem reading?_of_header {role : HeaderRole} {pairs : Pairs} {value : String}
    (hname : isBlank (o.header role) = false) (h : pairs.value? (o.header role) = some value)
    (hvalue : isBlank value = false) : o.reading? role pairs = some value := by
  have hfirst : pairs.firstNonBlank? (o.names role) = some value := by
    unfold Pairs.firstNonBlank? names
    rw [List.findSome?_cons, hname, h]
    simp [Option.filter, hvalue]
  cases role with
  | signature => exact hfirst
  | timestamp => exact (congrArg (Option.or · _) hfirst).trans (Option.some_or ..)
  | nonce => exact hfirst

/-- One change that is not seen leaves every reading as it was. -/
theorem reading?_of_unseen {pairs pairs' : Pairs} (h : o.Unseen pairs pairs') (role : HeaderRole) :
    o.reading? role pairs = o.reading? role pairs' := by
  cases h with
  | swap before after pair pair' h =>
    refine reading?_congr fun name _ _ => ?_
    cases hpair : sameUpToCase pair.1 name with
    | false =>
      simp only [Pairs.value?_append, Pairs.value?_cons, hpair, Bool.false_eq_true, if_false]
    | true =>
      have hpair' : sameUpToCase pair'.1 name = false := by
        rw [← h, sameUpToCase_comm, ← sameUpToCase_congr hpair]
      simp only [Pairs.value?_append, Pairs.value?_cons, hpair', Bool.false_eq_true, if_false]
  | recase before after h value =>
    refine reading?_congr fun name _ _ => ?_
    rw [Pairs.value?_append, Pairs.value?_append, Pairs.value?_cons, Pairs.value?_cons,
      sameUpToCase_congr h]
  | repeated before after pair h =>
    obtain ⟨earlier, hearlier, hsame⟩ := h
    refine reading?_congr fun name _ _ => ?_
    cases hpair : sameUpToCase pair.1 name with
    | false => exact Pairs.value?_append_cons_of_ne hpair
    | true =>
      rw [← sameUpToCase_congr hsame] at hpair
      obtain ⟨value, hvalue⟩ :=
        Option.isSome_iff_exists.mp (Pairs.value?_isSome_of_mem hearlier hpair)
      rw [Pairs.value?_append, Pairs.value?_append, hvalue, Option.some_or, Option.some_or]
  | passedOver before after pair h =>
    rcases h role with hother | ⟨hname, hne, value, hvalue, hblank⟩
    · exact reading?_congr fun name hname hblank =>
        Pairs.value?_append_cons_of_ne (hother name hname hblank)
    · rw [reading?_of_header hname hvalue hblank]
      rw [← Pairs.value?_append_cons_of_ne hne] at hvalue
      exact reading?_of_header hname hvalue hblank

/-- So does any number of such changes, made or undone. -/
theorem reading?_of_eqvGen {pairs pairs' : Pairs} (h : Relation.EqvGen o.Unseen pairs pairs')
    (role : HeaderRole) : o.reading? role pairs = o.reading? role pairs' := by
  induction h with
  | rel _ _ h => exact reading?_of_unseen h role
  | refl _ => rfl
  | symm _ _ _ ih => exact ih.symm
  | trans _ _ _ _ _ ih ih' => exact ih.trans ih'

end Options

end WebhookGuard
