import WebhookGuard.Proofs.Headers.Reading
import WebhookGuard.Proofs.Http.Request
import WebhookGuard.Proofs.Traffic.Rejected
import WebhookGuard.Proofs.Verifier.Expiry

/-
  Headers of a request as they are collected. Fields with visible values are collected name by name,
  in an order of the names that nobody promises (`Request.inOrder`). Whatever the order, each name
  gets its first visible value (`Request.headers_inOrder`), which is what a role is read from.

  The main result says how much of the headers a verdict depends on: the three readings and nothing
  else (`readings_decide`).
-/
namespace WebhookGuard

open WebhookGuard.Text

/-! ## Inserting name by name -/

namespace Headers

variable {h : Headers} {name name' : String} {pairs : Pairs}

theorem get?_congr (h : Headers) (hsame : sameUpToCase name name' = true) :
    h.get? name = h.get? name' := by
  unfold get?
  rw [sameUpToCase_iff.mp hsame]

/-- Further values of a name that has one are left out. -/
theorem foldl_insert_of_isSome (hsome : (h.get? name).isSome)
    (hsame : ∀ pair ∈ pairs, sameUpToCase pair.1 name = true) :
    pairs.foldl (fun h pair => h.insert pair.1 pair.2) h = h := by
  induction pairs with
  | nil => rfl
  | cons pair pairs ih =>
    obtain ⟨hpair, hpairs⟩ := List.forall_mem_cons.mp hsame
    obtain ⟨value, hvalue⟩ := Option.isSome_iff_exists.mp hsome
    rw [← get?_congr h hpair] at hvalue
    have hinsert : h.insert pair.1 pair.2 = h := by
      unfold insert
      rw [hvalue]
    rw [List.foldl_cons, hinsert]
    exact ih hpairs

/-- Of several values for a new name the first is added. -/
theorem foldl_insert_of_none (hnone : h.get? name = none)
    (hsame : ∀ pair ∈ pairs, sameUpToCase pair.1 name = true) :
    pairs.foldl (fun h pair => h.insert pair.1 pair.2) h =
      ⟨h.entries ++ ((pairs.value? name).map fun value => (lower name, value)).toList⟩ := by
  cases pairs with
  | nil => simp [Pairs.value?]
  | cons pair pairs =>
    obtain ⟨hpair, hpairs⟩ := List.forall_mem_cons.mp hsame
    rw [← get?_congr h hpair] at hnone
    have hinsert : h.insert pair.1 pair.2 = ⟨h.entries ++ [(lower name, pair.2)]⟩ := by
      unfold insert
      rw [hnone, sameUpToCase_iff.mp hpair]
    have hsome : ((h.insert pair.1 pair.2).get? name).isSome := by
      rw [get?_insert, if_pos (sameUpToCase_iff.mp hpair).symm]
      cases h.get? name <;> rfl
    rw [List.foldl_cons, foldl_insert_of_isSome hsome hpairs, Pairs.value?_cons, if_pos hpair,
      hinsert]
    rfl

end Headers

/-! ## Fields by name -/

/-- Names with the visible values of fields. -/
def visiblePairs (fields : List Field) : Pairs :=
  fields.filterMap fun field => (visibleText? field.value).map fun s => (field.name, s)

namespace Request

variable {r : Request} {name : String} {names : List String}

/-- The fields with a name. -/
def fieldsOf (r : Request) (name : String) : List Field :=
  r.fields.filter fun field => sameUpToCase field.name name

/-- The first value of a name that is visible ASCII. -/
def firstVisible? (r : Request) (name : String) : Option String :=
  (r.fieldsOf name).findSome? fun field => visibleText? field.value

/-- A request whose fields are gone through name by name. -/
def inOrder (r : Request) (names : List String) : Request :=
  { r with fields := names.flatMap r.fieldsOf }

/-- The names of a request, each once, in any order. -/
structure Lists (names : List String) (r : Request) : Prop where
  distinct : names.Pairwise fun a b => sameUpToCase a b = false
  complete : ∀ field ∈ r.fields, ∃ name ∈ names, sameUpToCase field.name name = true

theorem headers_eq (r : Request) : r.headers = .ofList (visiblePairs r.fields) := rfl

/-- A name has the first visible value of its fields. -/
theorem value?_visiblePairs (r : Request) (name : String) :
    (visiblePairs r.fields).value? name = r.firstVisible? name := by
  unfold firstVisible? fieldsOf visiblePairs
  induction r.fields with
  | nil => rfl
  | cons field fields ih =>
    cases hname : sameUpToCase field.name name with
    | false =>
      rw [List.filter_cons_of_neg (by simp [hname]), ← ih]
      cases hvalue : visibleText? field.value with
      | none => rw [List.filterMap_cons_none (by rw [hvalue]; rfl)]
      | some value =>
        rw [List.filterMap_cons_some (by rw [hvalue]; rfl), Pairs.value?_cons, hname]
        rfl
    | true =>
      rw [List.filter_cons_of_pos (by simp [hname]), List.findSome?_cons, ← ih]
      cases hvalue : visibleText? field.value with
      | none => rw [List.filterMap_cons_none (by rw [hvalue]; rfl)]
      | some value =>
        rw [List.filterMap_cons_some (by rw [hvalue]; rfl), Pairs.value?_cons, if_pos hname]

/-- Of the fields with one name, those with another are all of them or none. -/
theorem filter_fieldsOf (r : Request) (name other : String) :
    ((r.fieldsOf other).filter fun field => sameUpToCase field.name name) =
      if sameUpToCase other name then r.fieldsOf name else [] := by
  unfold fieldsOf
  rw [List.filter_filter]
  split
  · next hsame =>
    refine List.filter_congr fun field _ => ?_
    rw [sameUpToCase_comm field.name other, sameUpToCase_congr hsame, sameUpToCase_comm name,
      Bool.and_self]
  · next hsame =>
    refine List.filter_eq_nil_iff.mpr fun field _ hboth => ?_
    rw [Bool.and_eq_true, sameUpToCase_iff, sameUpToCase_iff] at hboth
    rw [sameUpToCase_iff] at hsame
    exact hsame (hboth.2.symm.trans hboth.1)

/-- Of the fields name by name, those with one name are all of them if the name is listed. -/
theorem filter_flatMap_fieldsOf (r : Request)
    (hdistinct : names.Pairwise fun a b => sameUpToCase a b = false) (name : String) :
    ((names.flatMap r.fieldsOf).filter fun field => sameUpToCase field.name name) =
      if names.any fun other => sameUpToCase other name then r.fieldsOf name else [] := by
  induction names with
  | nil => rfl
  | cons other names ih =>
    obtain ⟨hother, hdistinct⟩ := List.pairwise_cons.mp hdistinct
    rw [List.flatMap_cons, List.filter_append, filter_fieldsOf, ih hdistinct, List.any_cons]
    cases hsame : sameUpToCase other name with
    | false => rfl
    | true =>
      have hnone : (names.any fun other => sameUpToCase other name) = false := by
        rw [List.any_eq_false]
        intro later hlater
        rw [sameUpToCase_comm, ← sameUpToCase_congr hsame, hother later hlater]
        exact Bool.noConfusion
      rw [hnone]
      exact List.append_nil _

/-- Going through the fields name by name keeps those of each name in order. -/
theorem fieldsOf_inOrder (h : Lists names r) (name : String) :
    (r.inOrder names).fieldsOf name = r.fieldsOf name := by
  refine (filter_flatMap_fieldsOf r h.distinct name).trans ?_
  split
  · rfl
  · next hnone =>
    symm
    refine List.filter_eq_nil_iff.mpr fun field hfield hsame => ?_
    obtain ⟨other, hother, hname⟩ := h.complete field hfield
    rw [sameUpToCase_congr hname] at hsame
    exact hnone (List.any_eq_true.mpr ⟨other, hother, hsame⟩)

theorem firstVisible?_inOrder (h : Lists names r) (name : String) :
    (r.inOrder names).firstVisible? name = r.firstVisible? name := by
  unfold firstVisible?
  rw [fieldsOf_inOrder h]

/-! ## Collecting name by name -/

theorem value?_fieldsOf (r : Request) (name other : String) :
    (visiblePairs (r.fieldsOf name)).value? other =
      if sameUpToCase name other then r.firstVisible? other else none := by
  refine (value?_visiblePairs { r with fields := r.fieldsOf name } other).trans ?_
  show ((r.fieldsOf name).filter fun field => sameUpToCase field.name other).findSome? _ = _
  rw [filter_fieldsOf]
  split <;> rfl

theorem sameUpToCase_of_mem {pair : String × String}
    (h : pair ∈ visiblePairs (r.fieldsOf name)) : sameUpToCase pair.1 name = true := by
  obtain ⟨field, hfield, hvalue⟩ := List.mem_filterMap.mp h
  obtain ⟨value, -, rfl⟩ := Option.map_eq_some_iff.mp hvalue
  exact (List.mem_filter.mp hfield).2

/-- Each name adds its first visible value. The induction is on the names still to come, none of
which has a value yet. -/
theorem foldl_insert_flatMap (r : Request) (h : Headers)
    (hdistinct : names.Pairwise fun a b => sameUpToCase a b = false)
    (hnew : ∀ name ∈ names, h.get? name = none) :
    (names.flatMap fun name => visiblePairs (r.fieldsOf name)).foldl
        (fun h pair => h.insert pair.1 pair.2) h =
      ⟨h.entries ++ names.filterMap fun name =>
        (r.firstVisible? name).map fun value => (lower name, value)⟩ := by
  induction names generalizing h with
  | nil => simp
  | cons name names ih =>
    obtain ⟨hname, hdistinct⟩ := List.pairwise_cons.mp hdistinct
    obtain ⟨hnone, hnew⟩ := List.forall_mem_cons.mp hnew
    have hfirst : (visiblePairs (r.fieldsOf name)).value? name = r.firstVisible? name := by
      rw [value?_fieldsOf, if_pos (sameUpToCase_iff.mpr rfl)]
    have hrest : ∀ other ∈ names, ((visiblePairs (r.fieldsOf name)).foldl
        (fun h pair => h.insert pair.1 pair.2) h).get? other = none := by
      intro other hother
      rw [Headers.get?_foldl_insert, hnew other hother, value?_fieldsOf, hname other hother]
      rfl
    rw [List.flatMap_cons, List.foldl_append, ih _ hdistinct hrest,
      Headers.foldl_insert_of_none hnone fun _ => sameUpToCase_of_mem, hfirst]
    cases hvalue : r.firstVisible? name with
    | none =>
      rw [List.filterMap_cons_none (by rw [hvalue]; rfl), Option.map_none, Option.toList_none,
        List.append_nil]
    | some value =>
      rw [List.filterMap_cons_some (by rw [hvalue]; rfl), Option.map_some, Option.toList_some,
        List.append_assoc, List.singleton_append]

/-- What is collected name by name: for each name its first visible value, in the same order. -/
theorem headers_inOrder (hdistinct : names.Pairwise fun a b => sameUpToCase a b = false) :
    (r.inOrder names).headers = ⟨names.filterMap fun name =>
      (r.firstVisible? name).map fun value => (lower name, value)⟩ := by
  have hpairs : visiblePairs (names.flatMap r.fieldsOf) =
      names.flatMap fun name => visiblePairs (r.fieldsOf name) := List.filterMap_flatMap ..
  show (visiblePairs (names.flatMap r.fieldsOf)).foldl _ _ = _
  rw [hpairs, foldl_insert_flatMap r .empty hdistinct fun _ _ => rfl]
  rfl

/-- The order of the names makes no difference to a role. -/
theorem reading?_inOrder (h : Lists names r) (o : Options) (role : HeaderRole) :
    o.reading? role (visiblePairs (r.inOrder names).fields) =
      o.reading? role (visiblePairs r.fields) := by
  refine Options.reading?_congr fun name _ _ => ?_
  rw [value?_visiblePairs, value?_visiblePairs, firstVisible?_inOrder h]

end Request

/-! ## What a verdict depends on -/

/-- Two lists with the same readings lead to the same verdict and the same store, and the store is
asked the same, of whatever kind it is. So do lists that differ by changes which are not seen. Of a
request the first visible value of each name is collected, and the order of the names makes no
difference. -/
theorem readings_decide :
    (∀ (σ : Type) [NonceStore σ] (s : σ) (v : Verifier) (body : Bytes) (now : Instant)
      (pairs pairs' : Pairs),
      (∀ role, v.options.reading? role pairs = v.options.reading? role pairs') →
      v.verify s ⟨body, .ofList pairs, now⟩ = v.verify s ⟨body, .ofList pairs', now⟩ ∧
        (v.verify (⟨s, []⟩ : Traffic.Recorded σ) ⟨body, .ofList pairs, now⟩).store.asked =
          (v.verify (⟨s, []⟩ : Traffic.Recorded σ) ⟨body, .ofList pairs', now⟩).store.asked) ∧
    (∀ (σ : Type) [NonceStore σ] (s : σ) (v : Verifier) (body : Bytes) (now : Instant)
      (pairs pairs' : Pairs), Relation.EqvGen v.options.Unseen pairs pairs' →
      v.verify s ⟨body, .ofList pairs, now⟩ = v.verify s ⟨body, .ofList pairs', now⟩) ∧
    ∀ (σ : Type) [NonceStore σ] (s : σ) (v : Verifier) (body : Bytes) (now : Instant) (r : Request)
      (names : List String), Request.Lists names r →
      (r.inOrder names).headers = ⟨names.filterMap fun name =>
        (r.firstVisible? name).map fun value => (lower name, value)⟩ ∧
      v.verify s ⟨body, (r.inOrder names).headers, now⟩ = v.verify s ⟨body, r.headers, now⟩ := by
  refine ⟨?_, ?_, ?_⟩
  · intro σ _ s v body now pairs pairs' h
    refine ⟨v.verify_eq_of_readings s h body now, ?_⟩
    rw [v.verify_eq_of_readings _ h body now]
  · intro σ _ s v body now pairs pairs' h
    exact v.verify_eq_of_readings s (Options.reading?_of_eqvGen h) body now
  · intro σ _ s v body now r names h
    exact ⟨Request.headers_inOrder h.distinct,
      v.verify_eq_of_readings s (Request.reading?_inOrder h v.options) body now⟩

/-! ## A sample -/

/-- The headers of the sample message. -/
def samplePairs : Pairs :=
  [ ("X-Swish-Timestamp", "1757962690"), ("X-Swish-Nonce", "n"),
    ("X-Swish-Signature", signHex [107] "1757962690" "n" []) ]

/-- The same headers in another order, with the nonce in small letters and given once more, and a
nonce under another name in front. -/
def rearrangedPairs : Pairs :=
  [ ("X-Nonce", "other"), ("x-swish-nonce", "n"), ("X-Swish-Timestamp", "1757962690"),
    ("X-Swish-Signature", signHex [107] "1757962690" "n" []), ("X-SWISH-NONCE", "again") ]

theorem eqvGen_rearrangedPairs :
    Relation.EqvGen Verifier.sample.options.Unseen samplePairs rearrangedPairs := by
  have hsame : sameUpToCase "X-Swish-Nonce" "x-swish-nonce" = true := by decide +kernel
  have hagain : sameUpToCase "x-swish-nonce" "X-SWISH-NONCE" = true := by decide +kernel
  refine .trans _ _ _ (.rel _ _ (.swap [] _ _ _ (by decide +kernel))) ?_
  refine .trans _ _ _ (.rel _ _ (.recase [] _ hsame _)) ?_
  refine .symm _ _ (.trans _ _ _ (.rel _ _ (.passedOver [] _ _ ?_))
    (.rel _ _ (.repeated (rearrangedPairs.tail.take 3) [] ("X-SWISH-NONCE", "again")
      ⟨_, List.mem_cons_self, hagain⟩)))
  intro role
  cases role with
  | signature => exact Or.inl (by decide +kernel)
  | timestamp => exact Or.inl (by decide +kernel)
  | nonce =>
    exact Or.inr ⟨by decide +kernel, by decide +kernel, "n", by decide +kernel, by decide +kernel⟩

/-- The fields of the sample message on its way, gone through from the last to the first. -/
def lastToFirst : List String := ["X-Swish-Signature", "X-Swish-Nonce", "X-Swish-Timestamp"]

theorem lists_lastToFirst :
    Request.Lists lastToFirst (.signed [107] "1757962690" "n" []) where
  distinct := by decide +kernel
  complete := by
    intro field hfield
    have hname : field.name ∈ lastToFirst := by
      simp only [Request.signed, List.mem_cons, List.not_mem_nil, or_false] at hfield
      rcases hfield with rfl | rfl | rfl <;> decide +kernel
    exact ⟨field.name, hname, sameUpToCase_iff.mpr rfl⟩

/-- The sample message is accepted with its headers rearranged, and the store is asked the same. It
is accepted as well when its headers are collected from the last to the first. -/
theorem readings_decide_of_sample :
    (∀ role, Verifier.sample.options.reading? role rearrangedPairs =
      Verifier.sample.options.reading? role samplePairs) ∧
    Relation.EqvGen Verifier.sample.options.Unseen rearrangedPairs samplePairs ∧
    Request.Lists lastToFirst (.signed [107] "1757962690" "n" []) ∧
    (Verifier.sample.verify (⟨.empty, []⟩ : Traffic.Recorded MemoryStore)
      ⟨[], .ofList rearrangedPairs, ⟨1757962690, 0⟩⟩).store.asked =
    (Verifier.sample.verify (⟨.empty, []⟩ : Traffic.Recorded MemoryStore)
      ⟨[], .ofList samplePairs, ⟨1757962690, 0⟩⟩).store.asked ∧
    (Verifier.sample.verify MemoryStore.empty
      ⟨[], .ofList rearrangedPairs, ⟨1757962690, 0⟩⟩).verdict = .accepted ∧
    (Verifier.sample.verify MemoryStore.empty ⟨[],
      ((Request.signed [107] "1757962690" "n" []).inOrder lastToFirst).headers,
      ⟨1757962690, 0⟩⟩).verdict = .accepted := by
  obtain ⟨hreadings, hchanges, hcollected⟩ := readings_decide
  have hunseen := Relation.EqvGen.symm _ _ eqvGen_rearrangedPairs
  have hsame := Options.reading?_of_eqvGen hunseen
  have haccepted : (Verifier.sample.verify MemoryStore.empty
      (.sample ⟨1757962690, 0⟩)).verdict = .accepted :=
    (Verifier.authentic_sample _).verify_accepted (by decide) (by decide) rfl
  refine ⟨hsame, hunseen, lists_lastToFirst, ?_, ?_, ?_⟩
  · exact (hreadings _ MemoryStore.empty .sample [] ⟨1757962690, 0⟩ _ _ hsame).2
  · rw [hchanges _ MemoryStore.empty .sample [] ⟨1757962690, 0⟩ _ _ hunseen]
    exact haccepted
  · rw [(hcollected _ MemoryStore.empty .sample [] ⟨1757962690, 0⟩ _ _ lists_lastToFirst).2,
      Request.headers_signed (by decide) (by decide)]
    exact haccepted

end WebhookGuard
