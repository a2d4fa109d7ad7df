import WebhookGuard.Encoding.Base64
import WebhookGuard.Encoding.Hex
import WebhookGuard.Text.Ascii
import WebhookGuard.Text.Blank
import WebhookGuard.Text.Named

/-
  Written signatures. A sender writes a tag in Base64 or in hexadecimal. A receiver expects one of
  the two, or decides by the shape: sixty-four hexadecimal digits are hexadecimal, since Base64 of
  a tag has forty-three or forty-four symbols.
-/
namespace WebhookGuard

open WebhookGuard.Encoding

/-- How a signature is written. -/
inductive SignatureEncoding where
  /-- Base64, padded or bare. -/
  | base64
  /-- Hexadecimal digits of either case. -/
  | hex
  /-- Whichever of the two the shape shows. -/
  | auto
deriving DecidableEq, Repr

namespace SignatureEncoding

/-- The name in settings and messages. -/
def name : SignatureEncoding → String
  | base64 => "base64"
  | hex => "hex"
  | auto => "auto"

/-- The name in descriptions of options. -/
def label : SignatureEncoding → String
  | base64 => "Base64"
  | hex => "Hex"
  | auto => "Auto"

instance : Text.Named SignatureEncoding where
  all := [base64, hex, auto]
  name := name

/-- A spelling in settings: letter case and surrounding blanks do not count. -/
def spelling (s : String) : String :=
  Text.lower (Text.trim s)

/-- The encoding that a setting spells, or the spelling that means none. -/
def ofSetting (s : String) : Except String SignatureEncoding :=
  match (Text.Named.ofName? (spelling s) : Option SignatureEncoding) with
  | some e => .ok e
  | none => .error (spelling s)

/-- The complaint about a spelling that means no encoding. -/
def unknownMessage (spelled : String) : String :=
  "unknown signature encoding '" ++ spelled ++ "'"

end SignatureEncoding

/-- The number of bytes of a tag. -/
def tagLength : Nat := 32

/-- A written signature that has the shape of a tag in hexadecimal. -/
def hasHexShape (cs : List Char) : Bool :=
  cs.length == 2 * tagLength && cs.all fun c => (Hex.value? c).isSome

/-- The bytes that a written signature stands for. Their number is not checked here. -/
def SignatureEncoding.decode (encoding : SignatureEncoding) (written : String) : Option Bytes :=
  let cs := written.toList
  match encoding with
  | .base64 => Base64.decode cs
  | .hex => Hex.decode cs
  | .auto => if hasHexShape cs then Hex.decode cs else Base64.decode cs

end WebhookGuard
