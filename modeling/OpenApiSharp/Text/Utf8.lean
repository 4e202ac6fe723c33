import OpenApiSharp.Text.CodePoint

/-!
# UTF-8

The characters that a sequence of bytes encodes.  A character takes one to
four bytes; the first one tells how many follow and, since no character has
two encodings, in which range the second one lies.  Halves of surrogate pairs
have no encoding.
-/

namespace OpenApiSharp.Text

inductive Utf8Reason where
  | invalidStart
  | invalidContinuation
  | unexpectedEnd
  deriving DecidableEq, Repr

def Utf8Reason.text : Utf8Reason → String
  | invalidStart => "invalid start byte"
  | invalidContinuation => "invalid continuation byte"
  | unexpectedEnd => "unexpected end of data"

/-- The bytes at a position that encode no character. -/
structure Utf8Fault where
  position : Nat
  first : UInt8
  length : Nat
  reason : Utf8Reason
  deriving DecidableEq, Repr

/-- Halves of surrogate pairs in a row at a position, which cannot be encoded. -/
structure LoneSurrogates where
  position : Nat
  first : Nat
  length : Nat
  deriving DecidableEq, Repr

def LoneSurrogates.message (fault : LoneSurrogates) : String :=
  let place :=
    if fault.length = 1 then
      "character '\\u" ++ String.ofList (hexDigits 4 fault.first) ++ "' in position " ++
        toString fault.position
    else
      "characters in position " ++ toString fault.position ++ "-" ++
        toString (fault.position + fault.length - 1)
  "'utf-8' codec can't encode " ++ place ++ ": surrogates not allowed"

namespace Utf8

/-- What the bytes behind a first byte have to be: their number, and the range
of the next one. -/
structure Owed where
  count : Nat
  least : UInt8 := 0x80
  greatest : UInt8 := 0xbf
  deriving DecidableEq, Repr

/-- What a first byte says: the bits of the character that it holds, and the
bytes that are owed. -/
def opening? (byte : UInt8) : Option (Nat × Owed) :=
  let code := byte.toNat
  if code < 0x80 then some (code, { count := 0 })
  else if code < 0xc2 then none
  else if code < 0xe0 then some (code - 0xc0, { count := 1 })
  else if code = 0xe0 then some (0, { count := 2, least := 0xa0 })
  else if code = 0xed then some (0xd, { count := 2, greatest := 0x9f })
  else if code < 0xf0 then some (code - 0xe0, { count := 2 })
  else if code = 0xf0 then some (0, { count := 3, least := 0x90 })
  else if code < 0xf4 then some (code - 0xf0, { count := 3 })
  else if code = 0xf4 then some (4, { count := 3, greatest := 0x8f })
  else none

/-- A character whose bytes have been read in part. -/
structure Partial where
  start : Nat
  first : UInt8
  bits : Nat
  taken : Nat
  owed : Owed

/-- The fault of a character whose bytes do not go on. -/
def Partial.fault (part : Partial) (reason : Utf8Reason) : Utf8Fault :=
  ⟨part.start, part.first, part.taken, reason⟩

/-- Decode bytes from a position on, where a character may have begun. -/
def decodeFrom (position : Nat) :
    Option Partial → List UInt8 → Except Utf8Fault (List Char)
  | none, [] => .ok []
  | some part, [] => .error (part.fault .unexpectedEnd)
  | none, byte :: rest =>
      match opening? byte with
      | none => .error ⟨position, byte, 1, .invalidStart⟩
      | some (bits, owed) =>
          if owed.count = 0 then
            (decodeFrom (position + 1) none rest).map (Char.ofNat bits :: ·)
          else
            decodeFrom (position + 1) (some ⟨position, byte, bits, 1, owed⟩) rest
  | some part, byte :: rest =>
      let bits := part.bits * 64 + (byte.toNat - 0x80)
      if byte < part.owed.least ∨ part.owed.greatest < byte then
        .error (part.fault .invalidContinuation)
      else if part.owed.count = 1 then
        (decodeFrom (position + 1) none rest).map (Char.ofNat bits :: ·)
      else
        decodeFrom (position + 1)
          (some { part with
            bits, taken := part.taken + 1, owed := { count := part.owed.count - 1 } }) rest

def decode (bytes : List UInt8) : Except Utf8Fault (List Char) :=
  decodeFrom 0 none bytes

/-- The bytes that may stand in front of a text to mark it as UTF-8. -/
def signature : List UInt8 := [0xef, 0xbb, 0xbf]

/-- The characters of bytes that may be marked as UTF-8.  Positions count from
behind the mark, and a part of the mark alone is an empty text. -/
def decodeMarked (bytes : List UInt8) : Except Utf8Fault (List Char) :=
  if bytes.isPrefixOf signature then .ok []
  else if signature.isPrefixOf bytes then decode (bytes.drop signature.length)
  else decode bytes

/-- The bytes of a text whose code points are all characters. -/
def bytesOf (text : String) : List UInt8 :=
  (String.ofList ((codesOf text.toList).map Char.ofNat)).toUTF8.data.toList

/-- The first halves of surrogate pairs in a row, if there are any. -/
def loneSurrogates? (codes : List Nat) : Option LoneSurrogates :=
  match codes.dropWhile fun code => !isSurrogate code with
  | [] => none
  | first :: more =>
      some
        { position := codes.length - (more.length + 1)
          first
          length := (more.takeWhile isSurrogate).length + 1 }

def encode (text : String) : Except LoneSurrogates (List UInt8) :=
  match loneSurrogates? (codesOf text.toList) with
  | some fault => .error fault
  | none => .ok (bytesOf text)

end Utf8

/-- The text with a line feed at the end of every line, where there may have been
a carriage return before it or instead of it. -/
def normalizeLineEnds : List Char → List Char
  | [] => []
  | '\r' :: '\n' :: rest => '\n' :: normalizeLineEnds rest
  | '\r' :: rest => '\n' :: normalizeLineEnds rest
  | c :: rest => c :: normalizeLineEnds rest

end OpenApiSharp.Text
