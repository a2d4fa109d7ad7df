import WebhookGuard.Proofs.Headers.Lookup
import WebhookGuard.Proofs.Signature.Accepted
import WebhookGuard.Proofs.Verifier.Check

/-
  Deliveries of honest senders. Whoever knows the secret signs the message and sends the signature
  in hexadecimal digits along with the timestamp and the nonce. A verifier with the default header
  names takes such a delivery for authentic (`authentic_signed`).
-/
namespace WebhookGuard

open WebhookGuard.Encoding

/-! ## Hexadecimal signatures -/

theorem lower_signHex (secret : Bytes) (timestamp nonce : String) (body : Bytes) :
    Text.lower (signHex secret timestamp nonce body) = signHex secret timestamp nonce body := by
  unfold Text.lower signHex
  rw [String.toList_ofList, Hex.map_toLower_of_decode (Hex.decode_encode _)]

/-- A signature in hexadecimal is good for every receiver that does not insist on Base64. -/
theorem signatureMatches_signHex (secret : Bytes) (timestamp nonce : String) (body : Bytes)
    {encoding : SignatureEncoding} (h : encoding ≠ .base64) :
    signatureMatches secret timestamp nonce body (signHex secret timestamp nonce body) encoding =
      true := by
  have hhex := signatureMatches_hex_iff.mpr (lower_signHex secret timestamp nonce body)
  cases encoding with
  | base64 => exact absurd rfl h
  | hex => exact hhex
  | auto => exact signatureMatches_auto_iff.mpr (Or.inr hhex)

theorem isBlank_signHex (secret : Bytes) (timestamp nonce : String) (body : Bytes) :
    Text.isBlank (signHex secret timestamp nonce body) = false := by
  have hlen : (Hex.encode (sign secret timestamp nonce body)).length = 64 := by
    rw [Hex.length_encode, length_sign]
    rfl
  obtain ⟨c, hc⟩ := List.exists_mem_of_length_pos (by omega :
    0 < (Hex.encode (sign secret timestamp nonce body)).length)
  obtain ⟨n, hn, hd⟩ := Hex.mem_encode hc
  have hdigit := (by decide : ∀ n < 16, Text.isBlankChar (Hex.digit n) = false) n hn
  unfold Text.isBlank signHex
  rw [String.toList_ofList, List.all_eq_false]
  exact ⟨c, hc, by rw [hd, hdigit]; exact Bool.noConfusion⟩

/-! ## Signed deliveries -/

/-- The headers of a sender that knows the secret. -/
def Headers.signed (secret : Bytes) (timestamp nonce : String) (body : Bytes) : Headers :=
  .ofList
    [ (HeaderRole.timestamp.defaultName, timestamp),
      (HeaderRole.nonce.defaultName, nonce),
      (HeaderRole.signature.defaultName, signHex secret timestamp nonce body) ]

theorem Headers.get?_signed (secret : Bytes) (timestamp nonce : String) (body : Bytes) :
    (signed secret timestamp nonce body).get? HeaderRole.timestamp.defaultName = some timestamp ∧
    (signed secret timestamp nonce body).get? HeaderRole.nonce.defaultName = some nonce ∧
    (signed secret timestamp nonce body).get? HeaderRole.signature.defaultName =
      some (signHex secret timestamp nonce body) := by
  have h1 : Text.lower HeaderRole.nonce.defaultName ≠
    Text.lower HeaderRole.timestamp.defaultName := by decide +kernel
  have h2 : Text.lower HeaderRole.signature.defaultName ≠
    Text.lower HeaderRole.timestamp.defaultName := by decide +kernel
  have h3 : Text.lower HeaderRole.signature.defaultName ≠
    Text.lower HeaderRole.nonce.defaultName := by decide +kernel
  simp [signed, ofList, get?_insert, h1, h2, h3, h1.symm, h2.symm, h3.symm]

/-- A delivery of a sender that knows the secret of the verifier. -/
def Delivery.signed (v : Verifier) (timestamp nonce : String) (body : Bytes) (now : Instant) :
    Delivery :=
  ⟨body, .signed v.options.secret timestamp nonce body, now⟩

/-- A signed delivery is authentic. -/
theorem Verifier.authentic_signed {v : Verifier} {timestamp nonce : String} {sent : Instant}
    (hnames : ∀ role, v.options.header role = role.defaultName)
    (hencoding : v.options.signatureEncoding ≠ .base64)
    (ht : Text.isBlank timestamp = false) (hn : Text.isBlank nonce = false)
    (hread : Timestamp.read? v.options.timestampPolicy timestamp = some sent) (body : Bytes)
    (now : Instant) :
    v.Authentic (Delivery.signed v timestamp nonce body now).body
      (Delivery.signed v timestamp nonce body now).headers timestamp nonce sent := by
  unfold Delivery.signed
  obtain ⟨htime, hnonce, hsig⟩ := Headers.get?_signed v.options.secret timestamp nonce body
  have hname : ∀ role : HeaderRole, Text.isBlank role.defaultName = false := by
    intro role
    cases role <;> decide +kernel
  refine ⟨?_, ?_, hread, signHex v.options.secret timestamp nonce body, ?_, ?_⟩
  · unfold timestamp? Options.names
    rw [hnames, Headers.firstNonBlank?_of_carries ⟨hname _, htime, ht⟩]
    rfl
  · unfold nonce? Options.names
    rw [hnames, Headers.firstNonBlank?_of_carries ⟨hname _, hnonce, hn⟩]
  · unfold signature? Options.names
    rw [hnames, Headers.firstNonBlank?_of_carries ⟨hname _, hsig, isBlank_signHex _ _ _ _⟩]
  · exact signatureMatches_signHex _ _ _ _ hencoding

/-! ## A sample -/

/-- A verifier that is told no more than the secret, which is one letter. -/
def Verifier.sample : Verifier where
  options := { secret := [107] }
  sound := by decide

/-- An empty message that is signed for it, sent on 15 September 2025 at 18:58:10. -/
def Delivery.sample (now : Instant) : Delivery := .signed .sample "1757962690" "n" [] now

theorem Verifier.authentic_sample (now : Instant) :
    sample.Authentic (Delivery.sample now).body (Delivery.sample now).headers "1757962690" "n"
      ⟨1757962690, 0⟩ := by
  have hread : Timestamp.read? .flexible "1757962690" = some ⟨1757962690, 0⟩ := by decide +kernel
  have ht : Text.isBlank "1757962690" = false := by decide
  have hnames : ∀ role, sample.options.header role = role.defaultName := by
    intro role
    cases role <;> rfl
  exact authentic_signed hnames (by decide) ht (by decide) hread [] now

end WebhookGuard
