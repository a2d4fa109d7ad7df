/-
  What can be wrong with data of Zstandard.
-/
namespace WebhookGuard.Compression.Zstd

/-- What is wrong with data of Zstandard. -/
inductive FrameFault where
  /-- The data begins with nothing known. -/
  | unknown
  /-- A flag is set that has no meaning. -/
  | unsupported
  /-- The window is larger than there is room for. -/
  | window
  /-- A dictionary is asked for. -/
  | dictionary
  /-- A code is asked for that only a dictionary could have given. -/
  | noCode
  /-- There are too few bytes for the form that they are written in. -/
  | literals
  /-- A part is larger or smaller than it can be. -/
  | size
  /-- There is more than the size that has been declared. -/
  | room
  /-- The checksum is another one. -/
  | checksum
  /-- The data cannot go on this way. -/
  | corrupted
deriving DecidableEq, Repr

/-- The text of a fault. -/
def FrameFault.cause : FrameFault → String
  | unknown => "Unknown frame descriptor"
  | unsupported => "Unsupported frame parameter"
  | window => "Frame requires too much memory for decoding"
  | dictionary => "Dictionary mismatch"
  | noCode => "Dictionary is corrupted"
  | literals => "Header of Literals' block doesn't respect format specification"
  | size => "Src size is incorrect"
  | room => "Destination buffer is too small"
  | checksum => "Restored data doesn't match checksum"
  | corrupted => "Data corruption detected"

end WebhookGuard.Compression.Zstd
