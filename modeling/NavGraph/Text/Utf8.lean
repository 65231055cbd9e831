/-!
# Reading encoded texts

Bytes as characters in the encodings that a body can have.  A reader yields a character for each
sequence of bytes that is one, and nothing for each longest run of bytes that starts a character
but cannot be completed.

## Main definitions

* `utf8Chars`, `utf16Chars`, `utf32Chars` - the characters of a list of bytes, with gaps
* `decodeLossy` - UTF-8 with a replacement character in each gap
* `utf8Bytes` - the bytes of a text

## Design notes

An octet that cannot continue a character is read again as the start of one.  A surrogate has no
character; where an encoding may hold one, the replacement character stands for it.
-/

namespace NavGraph.Text

/-- What stands for something that is no character. -/
def replacementChar : Char := Char.ofNat 0xfffd

/-- The character with a code point; a surrogate becomes the replacement character. -/
def charOfCode (n : Nat) : Char :=
  if 0xd800 ≤ n ∧ n ≤ 0xdfff then replacementChar else Char.ofNat n

/-- A character that has begun: how many octets are owed, the bits so far, and the bounds of the
next octet. -/
structure Utf8Pending where
  owed : Nat
  bits : Nat
  low : Nat
  high : Nat
  deriving DecidableEq, Repr

/-- What an octet between characters is. -/
inductive Utf8Start where
  | char (c : Char)
  | pending (p : Utf8Pending)
  | invalid

/-- Read an octet between characters; `surrogates` allows the octets of a surrogate. -/
def utf8Start (surrogates : Bool) (b : Nat) : Utf8Start :=
  if b < 0x80 then .char (Char.ofNat b)
  else if b < 0xc2 then .invalid
  else if b < 0xe0 then .pending ⟨1, b - 0xc0, 0x80, 0xbf⟩
  else if b = 0xe0 then .pending ⟨2, 0, 0xa0, 0xbf⟩
  else if b = 0xed then .pending ⟨2, 0xd, 0x80, if surrogates then 0xbf else 0x9f⟩
  else if b < 0xf0 then .pending ⟨2, b - 0xe0, 0x80, 0xbf⟩
  else if b = 0xf0 then .pending ⟨3, 0, 0x90, 0xbf⟩
  else if b < 0xf4 then .pending ⟨3, b - 0xf0, 0x80, 0xbf⟩
  else if b = 0xf4 then .pending ⟨3, 4, 0x80, 0x8f⟩
  else .invalid

/-- Read an octet: the character or gap that it completes, and what is pending then. -/
def utf8Step (surrogates : Bool) (state : Option Utf8Pending) (b : Nat) :
    List (Option Char) × Option Utf8Pending :=
  let fresh : List (Option Char) × Option Utf8Pending :=
    match utf8Start surrogates b with
    | .char c => ([some c], none)
    | .pending p => ([], some p)
    | .invalid => ([none], none)
  match state with
  | none => fresh
  | some p =>
      if p.low ≤ b ∧ b ≤ p.high then
        let bits := p.bits * 64 + (b - 0x80)
        if p.owed ≤ 1 then ([some (charOfCode bits)], none)
        else ([], some ⟨p.owed - 1, bits, 0x80, 0xbf⟩)
      else (none :: fresh.1, fresh.2)

/-- Characters and gaps of the rest of a list of octets. -/
def utf8CharsFrom (surrogates : Bool) (state : Option Utf8Pending) :
    List UInt8 → List (Option Char)
  | [] => if state.isSome then [none] else []
  | b :: rest =>
      let (done, next) := utf8Step surrogates state b.toNat
      done ++ utf8CharsFrom surrogates next rest

/-- Characters and gaps of a list of octets. -/
def utf8Chars (surrogates : Bool) (bytes : List UInt8) : List (Option Char) :=
  utf8CharsFrom surrogates none bytes

/-- The text of a list of octets, with the replacement character in each gap. -/
def decodeLossy (bytes : List UInt8) : String :=
  String.ofList ((utf8Chars false bytes).map (·.getD replacementChar))

/-- Pairs of bytes as numbers, the more significant byte first or last; nothing for a single
byte at the end. -/
def pairs? (bigEndian : Bool) : List UInt8 → Option (List Nat)
  | [] => some []
  | [_] => none
  | a :: b :: rest =>
      let n := if bigEndian then a.toNat * 256 + b.toNat else b.toNat * 256 + a.toNat
      (pairs? bigEndian rest).map (n :: ·)

/-- Characters of a list of 16-bit units. -/
def unitChars : List Nat → List Char
  | [] => []
  | [n] => [charOfCode n]
  | n :: m :: rest =>
      if 0xd800 ≤ n ∧ n ≤ 0xdbff ∧ 0xdc00 ≤ m ∧ m ≤ 0xdfff then
        Char.ofNat (0x10000 + (n - 0xd800) * 0x400 + (m - 0xdc00)) :: unitChars rest
      else charOfCode n :: unitChars (m :: rest)

/-- The text of a list of bytes in UTF-16. -/
def utf16Chars (bigEndian : Bool) (bytes : List UInt8) : Option (List Char) :=
  (pairs? bigEndian bytes).map unitChars

/-- Pairs of 16-bit units as numbers. -/
def quads? (bigEndian : Bool) : List Nat → Option (List Nat)
  | [] => some []
  | [_] => none
  | a :: b :: rest =>
      let n := if bigEndian then a * 65536 + b else b * 65536 + a
      (quads? bigEndian rest).map (n :: ·)

/-- The text of a list of bytes in UTF-32. -/
def utf32Chars (bigEndian : Bool) (bytes : List UInt8) : Option (List Char) :=
  ((pairs? bigEndian bytes).bind (quads? bigEndian)).bind fun codes =>
    if codes.all (· < 0x110000) then some (codes.map charOfCode) else none

/-- The bytes of a text in UTF-8. -/
def utf8Bytes (text : String) : List UInt8 := text.toUTF8.toList

end NavGraph.Text
