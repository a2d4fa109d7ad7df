import WebhookGuard.Compression.Buffer

/-
  Pieces: what compressed data adds, step by step, to what it unpacks to.
-/
namespace WebhookGuard.Compression

/-- What is added at the end of a buffer. -/
inductive Piece where
  | nothing
  | byte (byte : UInt8)
  | bytes (bytes : Bytes)
  /-- So many bytes, each as the one that stands so far before it. -/
  | copy (distance length : Nat)
deriving DecidableEq, Repr

namespace Piece

/-- How many bytes a piece has. -/
def size : Piece → Nat
  | nothing => 0
  | byte _ => 1
  | bytes bs => bs.length
  | copy _ length => length

/-- Adds a piece. -/
def addTo (piece : Piece) (out : ByteArray) : ByteArray :=
  match piece with
  | nothing => out
  | byte b => out.push b
  | bytes bs => bs.foldl ByteArray.push out
  | copy distance length => copyBack out distance length

theorem size_foldl_push (bs : Bytes) (out : ByteArray) :
    (bs.foldl ByteArray.push out).size = out.size + bs.length := by
  induction bs generalizing out with
  | nil => rfl
  | cons b bs ih => rw [List.foldl_cons, ih, ByteArray.size_push, List.length_cons]; omega

/-- A piece makes the buffer larger by its size. -/
theorem size_addTo (piece : Piece) (out : ByteArray) :
    (piece.addTo out).size = out.size + piece.size := by
  cases piece with
  | nothing => rfl
  | byte b => exact ByteArray.size_push
  | bytes bs => exact size_foldl_push bs out
  | copy distance length => exact size_copyBack out distance length

end Piece

end WebhookGuard.Compression
