import CatalogTypes.Text.Half
import CatalogTypes.Text.Numeral

/-!
# UTF-8

`decodeUtf8` reads bytes as text or names the first fault: where it begins, which bytes it spans
and what is wrong with them.  A truncated character at the end of the bytes is told apart from one
that is broken off by a byte that cannot continue it.

`encodeUtf8` writes a text as bytes, which fails where the text holds half of a pair.  In a name that
is handed to the system, a half may stand for a byte that is no part of a character; any other half
is at fault there too.
-/

namespace CatalogTypes.Text

/-! ## Reading -/

/-- What is wrong with a run of bytes. -/
inductive Utf8Fault where
  | invalidStart
  | invalidContinuation
  | unexpectedEnd
deriving DecidableEq, Repr

/-- The first fault of a byte sequence: its kind, its first byte, and the offset and the number of
bytes it spans. -/
structure Utf8Error where
  fault : Utf8Fault
  byte : UInt8
  offset : Nat
  width : Nat
deriving DecidableEq, Repr

/-- The wording of a fault. -/
def Utf8Fault.message : Utf8Fault → String
  | .invalidStart => "invalid start byte"
  | .invalidContinuation => "invalid continuation byte"
  | .unexpectedEnd => "unexpected end of data"

/-- The wording of a first fault: one byte is shown, several are numbered. -/
def Utf8Error.message (e : Utf8Error) : String :=
  let place :=
    if e.width = 1 then
      "byte 0x" ++ String.ofList (hexDigits 2 e.byte.toNat) ++ " in position " ++ toString e.offset
    else
      "bytes in position " ++ toString e.offset ++ "-" ++ toString (e.offset + e.width - 1)
  "'utf-8' codec can't decode " ++ place ++ ": " ++ e.fault.message

/-- Whether a byte may continue a character. -/
def isContinuation (b : UInt8) : Bool := 0x80 ≤ b && b < 0xC0

/-- Whether `second` may follow the leading byte: the shortest form of a code point is required
and surrogates are excluded. -/
def admitsSecond (lead second : UInt8) : Bool :=
  isContinuation second &&
    (lead ≠ 0xE0 || 0xA0 ≤ second) && (lead ≠ 0xED || second < 0xA0) &&
    (lead ≠ 0xF0 || 0x90 ≤ second) && (lead ≠ 0xF4 || second < 0x90)

/-- The character whose leading bits and following six-bit groups are given. -/
def assemble (head : Nat) (tail : List UInt8) : Char :=
  Char.ofNat (tail.foldl (fun n b => n * 64 + (b.toNat - 0x80)) head)

/-- The text that the bytes spell, or their first fault; `offset` counts the bytes before them. -/
def decodeUtf8From (offset : Nat) : List UInt8 → Except Utf8Error (List Char)
  | [] => .ok []
  | a :: rest =>
    if a < 0x80 then (decodeUtf8From (offset + 1) rest).map (Char.ofNat a.toNat :: ·)
    else if a < 0xC2 || 0xF5 ≤ a then .error ⟨.invalidStart, a, offset, 1⟩
    else
      match rest with
      | [] => .error ⟨.unexpectedEnd, a, offset, 1⟩
      | b :: rest₁ =>
        if !admitsSecond a b then .error ⟨.invalidContinuation, a, offset, 1⟩
        else if a < 0xE0 then
          (decodeUtf8From (offset + 2) rest₁).map (assemble (a.toNat - 0xC0) [b] :: ·)
        else
          match rest₁ with
          | [] => .error ⟨.unexpectedEnd, a, offset, 2⟩
          | c :: rest₂ =>
            if !isContinuation c then .error ⟨.invalidContinuation, a, offset, 2⟩
            else if a < 0xF0 then
              (decodeUtf8From (offset + 3) rest₂).map (assemble (a.toNat - 0xE0) [b, c] :: ·)
            else
              match rest₂ with
              | [] => .error ⟨.unexpectedEnd, a, offset, 3⟩
              | d :: rest₃ =>
                if !isContinuation d then .error ⟨.invalidContinuation, a, offset, 3⟩
                else
                  (decodeUtf8From (offset + 4) rest₃).map (assemble (a.toNat - 0xF0) [b, c, d] :: ·)

/-- The text that the bytes spell, or their first fault. -/
def decodeUtf8 (bytes : List UInt8) : Except Utf8Error (List Char) := decodeUtf8From 0 bytes

/-! ## Writing -/

/-- The first halves in a text that cannot be written: the first of them, and the offset and the
number of characters they span. -/
structure EncodeError where
  half : Nat
  offset : Nat
  width : Nat
deriving DecidableEq, Repr

/-- The wording of the fault of a text: one half is shown, several are numbered. -/
def EncodeError.message (e : EncodeError) : String :=
  let place :=
    if e.width = 1 then
      "character '\\u" ++ String.ofList (hexDigits 4 e.half) ++ "' in position " ++
        toString e.offset
    else
      "characters in position " ++ toString e.offset ++ "-" ++ toString (e.offset + e.width - 1)
  "'utf-8' codec can't encode " ++ place ++ ": surrogates not allowed"

/-- The first halves in a text that are not spared, up to the next character; `offset` counts the
characters before it. -/
def encodeErrorFrom (spared : Nat → Bool) (offset : Nat) : List Char → Option EncodeError
  | [] => none
  | c :: rest =>
    match half? c with
    | none => encodeErrorFrom spared (offset + 1) rest
    | some half =>
      if spared half then encodeErrorFrom spared (offset + 1) rest
      else some ⟨half, offset, (rest.takeWhile fun c => (half? c).isSome).length + 1⟩

/-- The bytes of a text, or its first fault. -/
def encodeUtf8 (text : String) : Except EncodeError (List UInt8) :=
  match encodeErrorFrom (fun _ => false) 0 text.toList with
  | some e => .error e
  | none => .ok (text.toList.flatMap String.utf8EncodeChar)

/-! ## Names -/

/-- Whether a half stands for a byte that is no part of a character. -/
def isByteHalf (half : Nat) : Bool := 0xDC80 ≤ half && half < 0xDD00

/-- Why a text cannot be handed to the system as a name. -/
inductive NameFault where
  | unencodable (error : EncodeError)
  | holdsNull
deriving DecidableEq, Repr

/-- The wording of a fault. -/
def NameFault.message : NameFault → String
  | unencodable e => e.message
  | holdsNull => "embedded null byte"

/-- The halves in a text for which the system has no bytes. -/
def systemError? (text : String) : Option EncodeError :=
  encodeErrorFrom isByteHalf 0 text.toList

/-- Why a text is no name for the system, if it is none. -/
def nameFault? (text : String) : Option NameFault :=
  match systemError? text with
  | some e => some (.unencodable e)
  | none => if text.toList.contains '\x00' then some .holdsNull else none

/-- The number of bytes of a name. -/
def systemSize (text : String) : Nat :=
  text.toList.foldl (fun size c => size + if (half? c).any isByteHalf then 1 else c.utf8Size) 0

end CatalogTypes.Text
