import WebhookGuard.Proofs.Http.Collected

/-
  What a signature over a request binds. The signed message has no lengths and no escapes: the
  timestamp and the nonce end at a line feed, and the rest is the body. It can be taken apart in one
  way only where neither of the two contains a line feed (`canonicalMessage_inj`). Values that are
  read of a request never do, since a value with a byte that is not visible is left out
  (`IsReadable.lineFeed_not_mem`). So nobody can split a signed request anew into a fresh nonce and
  another body (`signed_message_unambiguous`).
-/
namespace WebhookGuard

open WebhookGuard.Text

/-! ## Taking a message apart -/

/-- Two lists with a mark agree when they agree before the first mark and after it. -/
theorem append_mark_inj {α : Type} {mark : α} {before before' after after' : List α}
    (h : mark ∉ before) (h' : mark ∉ before') :
    before ++ mark :: after = before' ++ mark :: after' ↔ before = before' ∧ after = after' := by
  induction before generalizing before' with
  | nil =>
    cases before' with
    | nil => simp
    | cons b before' =>
      have hne : mark ≠ b := fun hb => h' (hb ▸ List.mem_cons_self)
      simp [hne]
  | cons a before ih =>
    have hne : mark ≠ a := fun ha => h (ha ▸ List.mem_cons_self)
    cases before' with
    | nil => simp [hne.symm]
    | cons b before' =>
      have hrest := ih (fun hm => h (List.mem_cons_of_mem _ hm))
        fun hm => h' (List.mem_cons_of_mem _ hm)
      simp [hrest, and_assoc]

/-- A message whose timestamp and nonce contain no line feed is made of one timestamp, one nonce
and one body. -/
theorem canonicalMessage_inj {timestamp nonce timestamp' nonce' : String} {body body' : Bytes}
    (ht : lineFeed ∉ utf8 timestamp) (hn : lineFeed ∉ utf8 nonce) (ht' : lineFeed ∉ utf8 timestamp')
    (hn' : lineFeed ∉ utf8 nonce') :
    canonicalMessage timestamp nonce body = canonicalMessage timestamp' nonce' body' ↔
      utf8 timestamp = utf8 timestamp' ∧ utf8 nonce = utf8 nonce' ∧ body = body' := by
  unfold canonicalMessage
  rw [append_mark_inj ht ht', append_mark_inj hn hn']

/-! ## Visible values -/

theorem toNat_lt_of_isVisible {b : UInt8} (h : isVisible b = true) : b.toNat < 128 := by
  simp only [isVisible, Bool.or_eq_true, Bool.and_eq_true, decide_eq_true_eq, beq_iff_eq,
    UInt8.lt_iff_toNat_lt] at h
  rcases h with ⟨-, hb⟩ | rfl
  · exact Nat.lt_trans hb (by decide)
  · decide

/-- A visible byte is written as one character, which stands for this byte. -/
theorem toNat_ofNat_of_isVisible {b : UInt8} (h : isVisible b = true) :
    (Char.ofNat b.toNat).toNat = b.toNat :=
  (by decide : ∀ n < 128, (Char.ofNat n).toNat = n) _ (toNat_lt_of_isVisible h)

/-- A value that is read stands for the bytes that were sent, all of them visible. -/
theorem utf8_of_visibleText? {value : Bytes} {s : String} (h : visibleText? value = some s) :
    utf8 s = value ∧ value.all isVisible = true := by
  unfold visibleText? at h
  split at h
  · next hvisible =>
    obtain rfl := Option.some.inj h
    have hall := List.all_eq_true.mp hvisible
    have hplain : isPlain (String.ofList (value.map fun b => Char.ofNat b.toNat)) = true := by
      rw [isPlain_iff, String.toList_ofList]
      intro c hc
      obtain ⟨b, hb, rfl⟩ := List.mem_map.mp hc
      rw [toNat_ofNat_of_isVisible (hall b hb), UInt8.ofNat_toNat]
      exact ⟨toNat_lt_of_isVisible (hall b hb), hall b hb⟩
    refine ⟨?_, hvisible⟩
    rw [utf8_of_isPlain hplain, String.toList_ofList, List.map_map]
    refine (List.map_congr_left fun b hb => ?_).trans (List.map_id value)
    show UInt8.ofNat (Char.ofNat b.toNat).toNat = b
    rw [toNat_ofNat_of_isVisible (hall b hb), UInt8.ofNat_toNat]
  · cases h

/-- A text that can be read of a request: bytes that were sent stand for it, all visible. -/
def IsReadable (s : String) : Prop := ∃ value, visibleText? value = some s

theorem IsReadable.visibleText?_eq {s : String} (h : IsReadable s) :
    visibleText? (utf8 s) = some s := by
  obtain ⟨value, hvalue⟩ := h
  rw [(utf8_of_visibleText? hvalue).1, hvalue]

theorem IsReadable.lineFeed_not_mem {s : String} (h : IsReadable s) : lineFeed ∉ utf8 s := by
  obtain ⟨value, hvalue⟩ := h
  obtain ⟨hutf8, hvisible⟩ := utf8_of_visibleText? hvalue
  rw [hutf8]
  intro hmem
  have hlineFeed := List.all_eq_true.mp hvisible _ hmem
  exact absurd hlineFeed (by decide)

/-- Readable texts with the same bytes are the same. -/
theorem IsReadable.eq_of_utf8 {s t : String} (hs : IsReadable s) (ht : IsReadable t)
    (h : utf8 s = utf8 t) : s = t := by
  have hread := hs.visibleText?_eq
  rw [h, ht.visibleText?_eq] at hread
  exact (Option.some.inj hread).symm

/-! ## Values of a request -/

/-- A value that a search goes through stands under some name. -/
theorem Headers.exists_get?_of_mem_present {h : Headers} {names : List String} {value : String}
    (hmem : value ∈ h.present names) : ∃ name, h.get? name = some value := by
  obtain ⟨name, -, hget⟩ := List.mem_filterMap.mp hmem
  exact ⟨name, hget⟩

theorem Request.isReadable_of_get? {r : Request} {name value : String}
    (h : r.headers.get? name = some value) : IsReadable value := by
  rw [headers_eq, Headers.get?_ofList, value?_visiblePairs] at h
  obtain ⟨field, -, hvalue⟩ := List.exists_of_findSome?_eq_some h
  exact ⟨field.value, hvalue⟩

namespace Verifier

variable {v : Verifier} {r : Request} {timestamp nonce : String}

theorem isReadable_of_nonce? (h : v.nonce? r.headers = some nonce) : IsReadable nonce := by
  obtain ⟨name, hget⟩ := Headers.exists_get?_of_mem_present (List.mem_of_find?_eq_some h)
  exact Request.isReadable_of_get? hget

/-- This holds as well of a timestamp that is only found because it is there at all. -/
theorem isReadable_of_timestamp? (h : v.timestamp? r.headers = some timestamp) :
    IsReadable timestamp := by
  have hmem : timestamp ∈ r.headers.present (v.options.names .timestamp) := by
    rcases Option.or_eq_some_iff.mp h with hfirst | ⟨-, hpresent⟩
    · exact List.mem_of_find?_eq_some hfirst
    · exact List.mem_of_head? hpresent
  obtain ⟨name, hget⟩ := Headers.exists_get?_of_mem_present hmem
  exact Request.isReadable_of_get? hget

end Verifier

/-- Two requests that lead to the same signed message have the same timestamp, the same nonce and
the same body, under whatever names these are looked for. So a signature that is good for one split
of the bytes is good for this split only. -/
theorem signed_message_unambiguous (v v' : Verifier) (r r' : Request)
    (timestamp nonce timestamp' nonce' : String) (body body' : Bytes)
    (ht : v.timestamp? r.headers = some timestamp) (hn : v.nonce? r.headers = some nonce)
    (ht' : v'.timestamp? r'.headers = some timestamp') (hn' : v'.nonce? r'.headers = some nonce') :
    canonicalMessage timestamp nonce body = canonicalMessage timestamp' nonce' body' ↔
      timestamp = timestamp' ∧ nonce = nonce' ∧ body = body' := by
  have hrt := Verifier.isReadable_of_timestamp? ht
  have hrn := Verifier.isReadable_of_nonce? hn
  have hrt' := Verifier.isReadable_of_timestamp? ht'
  have hrn' := Verifier.isReadable_of_nonce? hn'
  rw [canonicalMessage_inj hrt.lineFeed_not_mem hrn.lineFeed_not_mem hrt'.lineFeed_not_mem
    hrn'.lineFeed_not_mem]
  constructor
  · rintro ⟨htimestamp, hnonce, hbody⟩
    exact ⟨hrt.eq_of_utf8 hrt' htimestamp, hrn.eq_of_utf8 hrn' hnonce, hbody⟩
  · rintro ⟨rfl, rfl, rfl⟩
    exact ⟨rfl, rfl, rfl⟩

/-- Of texts that cannot be read of a request a message can be made in two ways. -/
example : canonicalMessage "1" "n" (utf8 "m\nx") = canonicalMessage "1" "n\nm" (utf8 "x") := by
  decide +kernel

/-! ## A sample -/

/-- A request with a body of two lines. -/
def twoLines : Request where
  method := "POST"
  target := "/webhook/swish"
  fields := [⟨"X-Timestamp", utf8 "1757962690"⟩, ⟨"X-Nonce", utf8 "n"⟩]
  body := utf8 "m\nx"

/-- A request that tries to move the first line into the nonce. -/
def resplit : Request :=
  { twoLines with
    fields := ⟨"X-Swish-Nonce", utf8 "n\nm"⟩ :: twoLines.fields
    body := utf8 "x" }

/-- The longer nonce is not read, and the two messages differ. -/
theorem resplit_unambiguous :
    Verifier.sample.timestamp? twoLines.headers = some "1757962690" ∧
    Verifier.sample.nonce? twoLines.headers = some "n" ∧
    Verifier.sample.timestamp? resplit.headers = some "1757962690" ∧
    Verifier.sample.nonce? resplit.headers = some "n" ∧
    canonicalMessage "1757962690" "n" twoLines.body ≠
      canonicalMessage "1757962690" "n" resplit.body := by
  have ht : Verifier.sample.timestamp? twoLines.headers = some "1757962690" := by decide +kernel
  have hn : Verifier.sample.nonce? twoLines.headers = some "n" := by decide +kernel
  have ht' : Verifier.sample.timestamp? resplit.headers = some "1757962690" := by decide +kernel
  have hn' : Verifier.sample.nonce? resplit.headers = some "n" := by decide +kernel
  refine ⟨ht, hn, ht', hn', fun h => ?_⟩
  have hbody := ((signed_message_unambiguous .sample .sample twoLines resplit _ _ _ _ twoLines.body
    resplit.body ht hn ht' hn').mp h).2.2
  exact absurd hbody (by decide)

end WebhookGuard
