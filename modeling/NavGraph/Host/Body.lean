import NavGraph.Host.Message
import NavGraph.Json.Reader
import NavGraph.Text.Utf8

/-!
# Bodies

The body of a response as a JSON value.

## Main definitions

* `Encoding`, `detectEncoding` - the encoding of a JSON body, judged by its first bytes
* `isNestedTooDeeply` - whether a body is more than the machine that reads it can follow
* `bodyJson?` - the JSON value of a body
-/

namespace NavGraph

/-- Encodings of a JSON body. -/
inductive Encoding where
  | utf8
  | utf16 (bigEndian : Bool)
  | utf32 (bigEndian : Bool)
  deriving DecidableEq, Repr

/-- The encoding of a JSON body without a byte order mark: JSON starts with ASCII characters, so
zero bytes at the start tell the width of a character and the order of its bytes. -/
def encodingByZeros : List UInt8 → Encoding
  | [a, b] => if a = 0 then .utf16 true else if b = 0 then .utf16 false else .utf8
  | a :: b :: c :: d :: _ =>
      if a = 0 then if b = 0 then .utf32 true else .utf16 true
      else if b = 0 then if c = 0 ∧ d = 0 then .utf32 false else .utf16 false
      else .utf8
  | _ => .utf8

/-- The encoding of a JSON body and the bytes behind its byte order mark. -/
def detectEncoding : List UInt8 → Encoding × List UInt8
  | 0 :: 0 :: 0xfe :: 0xff :: rest => (.utf32 true, rest)
  | 0xff :: 0xfe :: 0 :: 0 :: rest => (.utf32 false, rest)
  | 0xfe :: 0xff :: rest => (.utf16 true, rest)
  | 0xff :: 0xfe :: rest => (.utf16 false, rest)
  | 0xef :: 0xbb :: 0xbf :: rest => (.utf8, rest)
  | bytes => (encodingByZeros bytes, bytes)

/-- Bytes in an encoding as characters, if all of them are characters. -/
def decode? (encoding : Encoding) (bytes : List UInt8) : Option (List Char) :=
  match encoding with
  | .utf8 => (Text.utf8Chars true bytes).mapM id
  | .utf16 bigEndian => Text.utf16Chars bigEndian bytes
  | .utf32 bigEndian => Text.utf32Chars bigEndian bytes

/-- The characters of a JSON body, if all of it is characters. -/
def jsonChars? (r : Response) : Option (List Char) :=
  let (encoding, bytes) := detectEncoding r.body
  decode? encoding bytes

/-- Whether arrays and objects are nested in a body more deeply than the machine follows them. -/
def isNestedTooDeeply (r : Response) : Bool := (jsonChars? r).any (Json.nestsBeyond r.nesting)

/-- The JSON value of a body, if the machine can follow it. -/
def bodyJson? (r : Response) : Option Json :=
  if isNestedTooDeeply r then none else (jsonChars? r).bind Json.parse?

end NavGraph
