import WebhookGuard.Text.Blank

/-
  Lines of an environment file. A line goes on past its end while a quote is open or a blank or a
  backslash is the last thing on it. A comment begins with a number sign after a blank, or as the
  first character that is not blank.
-/
namespace WebhookGuard.EnvFile

open WebhookGuard.Text

/-- Where in a line the reader is. -/
inductive Place where
  /-- After a character with no special meaning. -/
  | plain
  /-- After a blank. -/
  | blank
  /-- After a backslash outside quotes. -/
  | escape
  /-- Inside single quotes. -/
  | single
  /-- After a backslash inside single quotes. -/
  | singleEscape
  /-- Inside double quotes. -/
  | double
  /-- After a backslash inside double quotes. -/
  | doubleEscape
  /-- At the start of a comment. -/
  | comment
deriving DecidableEq, Repr

namespace Place

/-- What a character outside quotes leads to. -/
def afterPlain (c : Char) : Place :=
  if c = '\\' then escape
  else if c = '"' then double
  else if c = '\'' then single
  else plain

/-- What the next character leads to. -/
def next (p : Place) (c : Char) : Place :=
  match p with
  | plain => if isBlankChar c ∧ c ≠ '\n' ∧ c ≠ '\r' then blank else afterPlain c
  | blank => if c = '#' then comment else afterPlain c
  | escape => plain
  | single => if c = '\\' then singleEscape else if c = '\'' then plain else single
  | singleEscape => single
  | double => if c = '\\' then doubleEscape else if c = '"' then plain else double
  | doubleEscape => double
  | comment => comment

end Place

/-- Reads a piece of a line up to a comment: what stands before the comment, and the place. -/
def readPiece (p : Place) : List Char → List Char × Place
  | [] => ([], p)
  | c :: cs =>
    match p.next c with
    | .comment => ([], .comment)
    | q =>
      let (kept, last) := readPiece q cs
      (c :: kept, last)

/-- The pieces of a text, each up to and with a line feed. -/
def pieces : List Char → List (List Char)
  | [] => []
  | c :: cs =>
    if c = '\n' then [c] :: pieces cs
    else
      match pieces cs with
      | [] => [[c]]
      | piece :: rest => (c :: piece) :: rest

/-- A piece without the line end that closes it. -/
def dropLineEnd (cs : List Char) : List Char :=
  match cs.reverse with
  | '\n' :: '\r' :: rest => rest.reverse
  | '\n' :: rest => rest.reverse
  | _ => cs

/-- The lines made of the remaining pieces, after what has begun as a line. Nothing stands for
a line that the file ends in the middle of. -/
def linesFrom (begun : List Char) (p : Place) : List (List Char) → List (Option (List Char))
  | [] => if p = .plain then [] else [none]
  | piece :: rest =>
    let whole := begun ++ piece
    if (skipBlanks whole).head? = some '#' then some [] :: linesFrom [] .plain rest
    else
      match readPiece p piece with
      | (kept, .comment) => some (begun ++ kept) :: linesFrom [] .plain rest
      | (_, .plain) => some (dropLineEnd whole) :: linesFrom [] .plain rest
      | (_, q) => linesFrom whole q rest

/-- The lines of a file. A byte order mark at its start is passed over. -/
def lines (text : String) : List (Option (List Char)) :=
  match text.toList with
  | '\ufeff' :: cs => linesFrom [] .plain (pieces cs)
  | cs => linesFrom [] .plain (pieces cs)

end WebhookGuard.EnvFile
