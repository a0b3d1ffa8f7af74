import TemplateLint.Text.Basic

/-!
# UTF-8

Reading and writing texts as bytes. Reading stops at the first ill-formed
sequence and says where it lies and what is wrong with it: a byte that starts no
sequence, a byte that cannot continue one, or an end inside one.
-/

namespace TemplateLint.Text

/-- What is wrong with an ill-formed byte sequence. -/
inductive Utf8Fault
  /-- No sequence starts with this byte. -/
  | start
  /-- The sequence cannot go on with the next byte. -/
  | continuation
  /-- The bytes end inside the sequence. -/
  | truncated
  deriving DecidableEq

/-- An ill-formed byte sequence. -/
structure Utf8Error where
  /-- What is wrong. -/
  fault : Utf8Fault
  /-- First byte of the sequence. -/
  byte : UInt8
  /-- Offset of the first byte. -/
  position : Nat
  /-- Number of bytes that the sequence covers. -/
  width : Nat
  deriving DecidableEq

/-- Wording of the fault. -/
def Utf8Fault.message : Utf8Fault → Text
  | .start => "invalid start byte"
  | .continuation => "invalid continuation byte"
  | .truncated => "unexpected end of data"

/-- Wording of the error. -/
def Utf8Error.message (e : Utf8Error) : Text :=
  if e.width = 1 then
    "'utf-8' codec can't decode byte 0x" ++ hex e.byte.toNat ++ " in position " ++
      ofNat e.position ++ ": " ++ e.fault.message
  else
    "'utf-8' codec can't decode bytes in position " ++ ofNat e.position ++ "-" ++
      ofNat (e.position + e.width - 1) ++ ": " ++ e.fault.message
where
  /-- Two hexadecimal digits. -/
  hex (n : Nat) : Text :=
    [CodePoint.ofChar (Nat.digitChar (n / 16)), CodePoint.ofChar (Nat.digitChar (n % 16))]

/-- Bytes that continue a sequence. -/
def isContinuation (b : UInt8) : Bool :=
  0x80 ≤ b && b ≤ 0xBF

/-- Number of bytes that follow a first byte; none if no sequence starts with it. -/
def followers (b : UInt8) : Option Nat :=
  if b < 0x80 then some 0
  else if b < 0xC2 then none
  else if b < 0xE0 then some 1
  else if b < 0xF0 then some 2
  else if b < 0xF5 then some 3
  else none

/-- Whether a second byte may follow a first one. Overlong forms, surrogates and
numbers past the last code point are excluded here. -/
def mayFollow (first second : UInt8) : Bool :=
  isContinuation second &&
    !(first == 0xE0 && second < 0xA0) && !(first == 0xED && 0xA0 ≤ second) &&
    !(first == 0xF0 && second < 0x90) && !(first == 0xF4 && 0x90 ≤ second)

/-- Number of bytes right after `first` that continue its sequence, at most `need`. -/
def followed (first : UInt8) (need : Nat) (rest : List UInt8) : Nat :=
  match rest with
  | [] => 0
  | second :: more =>
    if mayFollow first second then 1 + ((more.take (need - 1)).takeWhile isContinuation).length
    else 0

/-- The number written by a first byte and the bytes that follow it. -/
def sequenceValue (first : UInt8) (rest : List UInt8) : Nat :=
  let lead :=
    match rest.length with
    | 0 => first.toNat
    | 1 => first.toNat - 0xC0
    | 2 => first.toNat - 0xE0
    | _ => first.toNat - 0xF0
  rest.foldl (fun value b => 64 * value + (b.toNat - 0x80)) lead

/-- Read the bytes from `position` on; `skip` bytes belong to a sequence already read. -/
def decodeUtf8From (position skip : Nat) : List UInt8 → Except Utf8Error Text
  | [] => .ok []
  | first :: rest =>
    match skip with
    | skip + 1 => decodeUtf8From (position + 1) skip rest
    | 0 =>
      match followers first with
      | none => .error ⟨.start, first, position, 1⟩
      | some 0 => do
        let tail ← decodeUtf8From (position + 1) 0 rest
        return (CodePoint.ofNat? first.toNat).toList ++ tail
      | some need =>
        let found := followed first need rest
        if found = need then do
          let tail ← decodeUtf8From (position + 1) need rest
          return (CodePoint.ofNat? (sequenceValue first (rest.take need))).toList ++ tail
        else if rest.length = found then .error ⟨.truncated, first, position, found + 1⟩
        else .error ⟨.continuation, first, position, found + 1⟩

/-- The text that a sequence of bytes writes. -/
def decodeUtf8 (bytes : List UInt8) : Except Utf8Error Text :=
  decodeUtf8From 0 0 bytes

/-- The bytes of one code point. -/
def encodePoint (c : CodePoint) : List UInt8 :=
  let n := c.val
  let tail (part : Nat) : UInt8 := UInt8.ofNat (0x80 + part % 64)
  if n < 0x80 then [UInt8.ofNat n]
  else if n < 0x800 then [UInt8.ofNat (0xC0 + n / 64), tail n]
  else if n < 0x10000 then [UInt8.ofNat (0xE0 + n / 4096), tail (n / 64), tail n]
  else [UInt8.ofNat (0xF0 + n / 262144), tail (n / 4096), tail (n / 64), tail n]

/-- The bytes of a text. -/
def encodeUtf8 (t : Text) : List UInt8 :=
  t.flatMap encodePoint

end TemplateLint.Text
