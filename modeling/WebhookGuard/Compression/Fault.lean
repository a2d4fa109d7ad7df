import WebhookGuard.Bytes
import WebhookGuard.Compression.Zstd.Fault

/-
  What can be wrong with compressed data, and what it unpacks to.
-/
namespace WebhookGuard.Compression

/-- What is wrong with compressed data. -/
inductive Fault where
  | gzipHeader
  /-- A name or comment in the header is too long. -/
  | gzipField
  /-- The checksum at the end is missing or another one. -/
  | gzipChecksum
  | deflate
  | brotli
  | zstd (fault : Zstd.FrameFault)
  /-- Something follows the end of the data. -/
  | trailing
deriving DecidableEq, Repr

/-- The kind of error that a fault is reported as. -/
def Fault.kind : Fault → String
  | gzipHeader | gzipField | gzipChecksum | deflate => "InvalidInput"
  | brotli => "InvalidData"
  | zstd _ => "Other"
  | trailing => "WriteZero"

/-- The text of a fault. -/
def Fault.cause : Fault → String
  | gzipHeader => "invalid gzip header"
  | gzipField => "gzip header field too long"
  | gzipChecksum => "corrupt gzip stream does not have a matching checksum"
  | deflate => "corrupt deflate stream"
  | brotli => "Invalid Data"
  | zstd fault => fault.cause
  | trailing => "failed to write whole buffer"

/-- What compressed data unpacks to. -/
structure Unpacked where
  out : ByteArray
  /-- What turns out to be wrong at the end, once everything is there. -/
  atEnd : Option Fault := none

end WebhookGuard.Compression
