import WebhookGuard.Compression.Brotli.Stream
import WebhookGuard.Compression.Gzip
import WebhookGuard.Compression.Zstd.Stream
import WebhookGuard.Text.Ascii
import WebhookGuard.Text.Blank

/-
  Codings: the ways of compressing a body, by the names that senders give them.
-/
namespace WebhookGuard.Compression

/-- A way of compressing a body. -/
inductive Coding where
  | gzip
  | zlib
  | brotli
  | zstd
deriving DecidableEq, Repr

namespace Coding

/-- The coding that a name stands for, in letters of either case. -/
def ofName? (name : String) : Option Coding :=
  [("gzip", gzip), ("deflate", zlib), ("br", brotli),
      ("zstd", zstd)].lookup (Text.lower (Text.trim name))

/-- Unpacks a body. -/
def unpack : Coding → Bytes → Except Fault Unpacked
  | gzip => Gzip.unpack
  | zlib => Zlib.unpack
  | brotli => Brotli.unpack
  | zstd => Zstd.unpack

end Coding

end WebhookGuard.Compression
