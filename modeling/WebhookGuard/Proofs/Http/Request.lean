import WebhookGuard.Http.Request
import WebhookGuard.Proofs.Verifier.Signed

/-
  Requests as they are read. A body that is not compressed and keeps the limit is read as it was sent.
  The values of headers go over the wire as bytes, which are read as they were written if they stand
  for visible ASCII (`visibleText?_utf8`). So the request of a sender that knows the secret brings
  the delivery that was signed (`headers_signed`, `content_signed`).
-/
namespace WebhookGuard

/-! ## Bodies -/

/-- Where no compression is named and the limit is kept, what was sent is read. -/
theorem Request.content_of_uncompressed {r : Request} {declared : Option Nat}
    (hcoding : r.coding? = none) (hdeclared : r.declaredLength = .ok declared)
    (hlimit : declared.getD 0 ≤ bodyLimit) (hbody : r.body.length ≤ bodyLimit) :
    r.content = .ok r.body := by
  unfold content unpackedBody
  rw [hdeclared, hcoding]
  show (if _ then _ else _) = _
  rw [if_neg (by omega), if_neg (by omega)]

/-! ## Headers -/

/-- A text that is written in visible ASCII. -/
def isPlain (s : String) : Bool :=
  s.toList.all fun c => decide (c.toNat < 128) && isVisible (UInt8.ofNat c.toNat)

theorem isPlain_iff {s : String} : isPlain s = true ↔
    ∀ c ∈ s.toList, c.toNat < 128 ∧ isVisible (UInt8.ofNat c.toNat) = true := by
  simp [isPlain]

/-- In ASCII every character is one byte. -/
theorem utf8_of_isPlain {s : String} (h : isPlain s = true) :
    utf8 s = s.toList.map fun c => UInt8.ofNat c.toNat := by
  rw [utf8, List.map_eq_flatMap]
  refine List.flatMap_congr fun c hc => ?_
  have hshort : c.val.toNat ≤ 127 := Nat.le_of_lt_succ (isPlain_iff.mp h c hc).1
  exact if_pos hshort

/-- A value of visible characters is read as it was written. -/
theorem visibleText?_utf8 {s : String} (h : isPlain s = true) :
    visibleText? (utf8 s) = some s := by
  have hread : ∀ c ∈ s.toList, Char.ofNat (UInt8.ofNat c.toNat).toNat = c := by
    intro c hc
    have hbyte : (UInt8.ofNat c.toNat).toNat = c.toNat :=
      Nat.mod_eq_of_lt (Nat.lt_of_lt_of_le (isPlain_iff.mp h c hc).1 (by decide))
    rw [hbyte, Char.ofNat_toNat]
  have hvisible : (utf8 s).all isVisible = true := by
    rw [utf8_of_isPlain h, List.all_map, List.all_eq_true]
    exact fun c hc => (isPlain_iff.mp h c hc).2
  unfold visibleText?
  rw [if_pos hvisible, utf8_of_isPlain h, List.map_map]
  refine congrArg some ?_
  calc String.ofList (s.toList.map _) = String.ofList (s.toList.map id) :=
        congrArg String.ofList (List.map_congr_left hread)
    _ = s := by rw [List.map_id, String.ofList_toList]

theorem isPlain_signHex (secret : Bytes) (timestamp nonce : String) (body : Bytes) :
    isPlain (signHex secret timestamp nonce body) = true := by
  rw [isPlain_iff, signHex, String.toList_ofList]
  intro c hc
  obtain ⟨n, hn, rfl⟩ := Encoding.Hex.mem_encode hc
  exact (by decide : ∀ n < 16, (Encoding.Hex.digit n).toNat < 128 ∧
    isVisible (UInt8.ofNat (Encoding.Hex.digit n).toNat) = true) n hn

/-! ## Signed requests -/

namespace Request

/-- The request of a sender that knows the secret. -/
def signed (secret : Bytes) (timestamp nonce : String) (body : Bytes) : Request where
  method := "POST"
  target := "/webhook/swish"
  fields :=
    [ ⟨HeaderRole.timestamp.defaultName, utf8 timestamp⟩,
      ⟨HeaderRole.nonce.defaultName, utf8 nonce⟩,
      ⟨HeaderRole.signature.defaultName, utf8 (signHex secret timestamp nonce body)⟩ ]
  body

variable {secret : Bytes} {timestamp nonce : String} {body : Bytes}

theorem headers_signed (ht : isPlain timestamp = true) (hn : isPlain nonce = true) :
    (signed secret timestamp nonce body).headers = .signed secret timestamp nonce body := by
  unfold headers signed Headers.signed
  simp only [List.filterMap_cons, List.filterMap_nil, visibleText?_utf8 ht, visibleText?_utf8 hn,
    visibleText?_utf8 (isPlain_signHex secret timestamp nonce body), Option.map_some]

theorem value?_signed {name : String}
    (h : ∀ role : HeaderRole, Text.sameUpToCase role.defaultName name = false) :
    (signed secret timestamp nonce body).value? name = none := by
  simp [value?, signed, h]

theorem content_signed (h : body.length ≤ bodyLimit) :
    (signed secret timestamp nonce body).content = .ok body := by
  have hcoding : (signed secret timestamp nonce body).coding? = none := by
    unfold coding?
    rw [value?_signed fun role => by cases role <;> decide +kernel]
    rfl
  have hdeclared : (signed secret timestamp nonce body).declaredLength = .ok none := by
    unfold declaredLength
    rw [value?_signed fun role => by cases role <;> decide +kernel]
  exact content_of_uncompressed hcoding hdeclared (Nat.zero_le _) h

end Request

end WebhookGuard
