import WebhookGuard.Proofs.Encoding.Base64
import WebhookGuard.Proofs.Encoding.Hex
import WebhookGuard.Signature.Sign

/-
  Which written signatures are good. A receiver accepts those that decode to the tag
  (`signatureMatches_iff`), and only the texts that a sender may write for the tag do: its padded
  Base64, the same without the padding, and its hexadecimal digits in letters of either case.

  A receiver that goes by the shape accepts just what it would if it tried both formats
  (`decode_auto_iff`). Whatever is as long as a tag in hexadecimal is too long to be one in Base64.
-/
namespace WebhookGuard

open WebhookGuard.Digest WebhookGuard.Encoding WebhookGuard.Text

/-- A written signature is good when it decodes to the tag. -/
theorem signatureMatches_iff {secret : Bytes} {timestamp nonce : String} {body : Bytes}
    {provided : String} {encoding : SignatureEncoding} :
    signatureMatches secret timestamp nonce body provided encoding = true ↔
      encoding.decode provided = some (sign secret timestamp nonce body) := by
  have htag := length_sign secret timestamp nonce body
  unfold signatureMatches tagMatches
  cases encoding.decode provided with
  | none => simp [tagLength]
  | some bytes =>
    rw [Option.getD_some, Bool.and_eq_true, beq_iff_eq, beq_iff_eq, Option.some.injEq]
    constructor
    · rintro ⟨-, h⟩
      exact h.symm
    · rintro rfl
      exact ⟨htag, rfl⟩

namespace SignatureEncoding

theorem decode_base64_iff {written : String} {bytes : Bytes} :
    SignatureEncoding.base64.decode written = some bytes ↔
      written = String.ofList (Base64.encode bytes) ∨
        written = String.ofList (Base64.unpadded (Base64.encode bytes)) := by
  show Base64.decode written.toList = some bytes ↔ _
  rw [Base64.decode_eq_some_iff, ← String.toList_inj, ← String.toList_inj, String.toList_ofList,
    String.toList_ofList]

theorem decode_hex_iff {written : String} {bytes : Bytes} :
    SignatureEncoding.hex.decode written = some bytes ↔
      lower written = String.ofList (Hex.encode bytes) := by
  show Hex.decode written.toList = some bytes ↔ _
  unfold lower
  rw [Hex.decode_eq_some_iff, String.ofList_inj]

/-- What decodes to a tag in hexadecimal has the shape of one. -/
theorem hasHexShape_of_decode {written : String} {tag : Bytes} (htag : tag.length = tagLength)
    (h : SignatureEncoding.hex.decode written = some tag) :
    hasHexShape written.toList = true := by
  have hdigits := Hex.map_toLower_of_decode h
  have hlen := congrArg List.length hdigits
  rw [List.length_map, Hex.length_encode, htag] at hlen
  unfold hasHexShape
  rw [hlen, Bool.and_eq_true, beq_self_eq_true, List.all_eq_true]
  refine ⟨rfl, fun c hc => ?_⟩
  have hmem : c.toLower ∈ written.toList.map Char.toLower := List.mem_map_of_mem hc
  rw [hdigits] at hmem
  obtain ⟨n, hn, heq⟩ := Hex.mem_encode hmem
  rw [Hex.value?_eq_some_iff.mpr ⟨hn, heq⟩]
  rfl

/-- Nothing of that shape decodes to a tag in Base64: it would be forty-eight bytes. -/
theorem not_hasHexShape_of_decode {written : String} {tag : Bytes}
    (htag : tag.length = tagLength) (h : SignatureEncoding.base64.decode written = some tag) :
    hasHexShape written.toList = false := by
  have hlen : written.toList.length = 43 ∨ written.toList.length = 44 := by
    rcases Base64.decode_eq_some_iff.mp h with heq | heq
    · rw [heq, Base64.length_encode, htag]
      exact Or.inr rfl
    · rw [heq, Base64.unpadded_encode, Base64.length_encodeBare, htag]
      exact Or.inl rfl
  unfold hasHexShape
  rw [Bool.and_eq_false_iff, beq_eq_false_iff_ne]
  left
  unfold tagLength
  omega

/-- Going by the shape neither misses a tag nor takes anything else for it. -/
theorem decode_auto_iff {written : String} {tag : Bytes} (htag : tag.length = tagLength) :
    SignatureEncoding.auto.decode written = some tag ↔
      SignatureEncoding.base64.decode written = some tag ∨
        SignatureEncoding.hex.decode written = some tag := by
  have hauto : SignatureEncoding.auto.decode written =
      if hasHexShape written.toList then SignatureEncoding.hex.decode written
      else SignatureEncoding.base64.decode written := rfl
  rw [hauto]
  split
  · next hshape =>
    constructor
    · exact Or.inr
    · rintro (h | h)
      · rw [not_hasHexShape_of_decode htag h] at hshape
        cases hshape
      · exact h
  · next hshape =>
    constructor
    · exact Or.inl
    · rintro (h | h)
      · exact h
      · exact absurd (hasHexShape_of_decode htag h) hshape

end SignatureEncoding

theorem signatureMatches_base64_iff {secret : Bytes} {timestamp nonce : String} {body : Bytes}
    {provided : String} :
    signatureMatches secret timestamp nonce body provided .base64 = true ↔
      provided = String.ofList (Base64.encode (sign secret timestamp nonce body)) ∨
        provided =
          String.ofList (Base64.unpadded (Base64.encode (sign secret timestamp nonce body))) := by
  rw [signatureMatches_iff, SignatureEncoding.decode_base64_iff]

theorem signatureMatches_hex_iff {secret : Bytes} {timestamp nonce : String} {body : Bytes}
    {provided : String} :
    signatureMatches secret timestamp nonce body provided .hex = true ↔
      lower provided = String.ofList (Hex.encode (sign secret timestamp nonce body)) := by
  rw [signatureMatches_iff, SignatureEncoding.decode_hex_iff]

theorem signatureMatches_auto_iff {secret : Bytes} {timestamp nonce : String} {body : Bytes}
    {provided : String} :
    signatureMatches secret timestamp nonce body provided .auto = true ↔
      signatureMatches secret timestamp nonce body provided .base64 = true ∨
        signatureMatches secret timestamp nonce body provided .hex = true := by
  rw [signatureMatches_iff, signatureMatches_iff, signatureMatches_iff,
    SignatureEncoding.decode_auto_iff (length_sign secret timestamp nonce body)]

/-- The good signatures of a message. Its tag is the keyed hash of the timestamp, the nonce and the
body, a line each; a sender writes it in padded Base64 or in small hexadecimal digits. In Base64 the
padded form of the tag and the same without its padding are good, in hexadecimal the digits of the
tag in letters of either case, and for a receiver that goes by the shape all of these and nothing
more. -/
theorem good_signatures (secret : Bytes) (timestamp nonce : String) (body : Bytes)
    (provided : String) :
    let tag := hmac secret (canonicalMessage timestamp nonce body)
    (signBase64 secret timestamp nonce body = String.ofList (Base64.encode tag) ∧
      signHex secret timestamp nonce body = String.ofList (Hex.encode tag)) ∧
    (signatureMatches secret timestamp nonce body provided .base64 = true ↔
      provided = String.ofList (Base64.encode tag) ∨
        provided = String.ofList (Base64.unpadded (Base64.encode tag))) ∧
    (signatureMatches secret timestamp nonce body provided .hex = true ↔
      lower provided = String.ofList (Hex.encode tag)) ∧
    (signatureMatches secret timestamp nonce body provided .auto = true ↔
      signatureMatches secret timestamp nonce body provided .base64 = true ∨
        signatureMatches secret timestamp nonce body provided .hex = true) ∧
    (signatureMatches secret timestamp nonce body provided .auto = true ↔
      provided = String.ofList (Base64.encode tag) ∨
        provided = String.ofList (Base64.unpadded (Base64.encode tag)) ∨
        lower provided = String.ofList (Hex.encode tag)) := by
  intro tag
  have hbase64 : signatureMatches secret timestamp nonce body provided .base64 = true ↔
      provided = String.ofList (Base64.encode tag) ∨
        provided = String.ofList (Base64.unpadded (Base64.encode tag)) :=
    signatureMatches_base64_iff
  have hhex : signatureMatches secret timestamp nonce body provided .hex = true ↔
      lower provided = String.ofList (Hex.encode tag) := signatureMatches_hex_iff
  refine ⟨⟨rfl, rfl⟩, hbase64, hhex, signatureMatches_auto_iff, ?_⟩
  rw [signatureMatches_auto_iff, hbase64, hhex, or_assoc]

end WebhookGuard
