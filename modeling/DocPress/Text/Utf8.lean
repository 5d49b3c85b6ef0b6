import DocPress.Text.Basic

/-!
# UTF-8

Files hold bytes; a text is written as UTF-8 and read back from it. Reading fails at the first
place where no character can be read, and says which bytes are at fault: a byte that begins
nothing, a sequence broken off by a byte that does not continue it, or one that the end of the
data cuts short. Overlong forms, surrogates and numbers above U+10FFFF are broken off at their
second byte.
-/

namespace DocPress.Utf8

/-- Why bytes are no text. -/
inductive Fault where
  | invalidStart
  | invalidContinuation
  | unexpectedEnd
deriving Repr, DecidableEq

/-- A fault, the offset of its first byte, and the bytes at fault. -/
structure Error where
  fault : Fault
  position : Nat
  bytes : List UInt8
deriving Repr, DecidableEq

/-- The bytes of a character. -/
def encodeChar (c : Char) : List UInt8 :=
  let n := c.toNat
  if n < 0x80 then [n.toUInt8]
  else if n < 0x800 then [(0xC0 + n / 0x40).toUInt8, (0x80 + n % 0x40).toUInt8]
  else if n < 0x10000 then
    [(0xE0 + n / 0x1000).toUInt8, (0x80 + n / 0x40 % 0x40).toUInt8, (0x80 + n % 0x40).toUInt8]
  else
    [(0xF0 + n / 0x40000).toUInt8, (0x80 + n / 0x1000 % 0x40).toUInt8,
     (0x80 + n / 0x40 % 0x40).toUInt8, (0x80 + n % 0x40).toUInt8]

/-- The bytes of a text. -/
def encode (t : Text) : List UInt8 := t.flatMap encodeChar

/-- The least and the greatest byte that may follow the first byte `a` of a longer sequence. -/
def secondRange (a : Nat) : Nat × Nat :=
  if a = 0xE0 then (0xA0, 0xBF)
  else if a = 0xED then (0x80, 0x9F)
  else if a = 0xF0 then (0x90, 0xBF)
  else if a = 0xF4 then (0x80, 0x8F)
  else (0x80, 0xBF)

/-- The number of bytes that follow the first byte `a`, or `none` if it begins nothing. -/
def owed? (a : Nat) : Option Nat :=
  if a < 0x80 then some 0
  else if a < 0xC2 then none
  else if a < 0xE0 then some 1
  else if a < 0xF0 then some 2
  else if a < 0xF5 then some 3
  else none

/-- Reads `owed` continuation bytes onto `acc`, the next one within `range`. Returns the number
read, or the fault with the bytes that were good. -/
def continuation : (owed acc : Nat) → (range : Nat × Nat) → List UInt8 →
    Except (Fault × Nat) Nat
  | 0, acc, _, _ => .ok acc
  | _ + 1, _, _, [] => .error (.unexpectedEnd, 0)
  | k + 1, acc, range, b :: bs =>
    if range.1 ≤ b.toNat && b.toNat ≤ range.2 then
      match continuation k (acc * 0x40 + (b.toNat - 0x80)) (0x80, 0xBF) bs with
      | .ok n => .ok n
      | .error (f, good) => .error (f, good + 1)
    else .error (.invalidContinuation, 0)

/-- The payload of a first byte that `owed` bytes follow. -/
def payload (a owed : Nat) : Nat :=
  match owed with
  | 0 => a
  | 1 => a - 0xC0
  | 2 => a - 0xE0
  | _ => a - 0xF0

/-- Decodes the bytes from `position` on; the first `skip` of them belong to the character read
last. Yields the text read before the first fault, and the fault if there is one. -/
def decodeFrom (position skip : Nat) : List UInt8 → Text × Option Error
  | [] => ([], none)
  | a :: bs =>
    match skip with
    | k + 1 => decodeFrom (position + 1) k bs
    | 0 =>
      match owed? a.toNat with
      | none => ([], some ⟨.invalidStart, position, [a]⟩)
      | some owed =>
        match continuation owed (payload a.toNat owed) (secondRange a.toNat) bs with
        | .error (f, good) => ([], some ⟨f, position, a :: bs.take good⟩)
        | .ok n =>
          let (t, e) := decodeFrom (position + 1) owed bs
          (Char.ofNat n :: t, e)

/-- The text of the bytes. -/
def decode (bytes : List UInt8) : Except Error Text :=
  match decodeFrom 0 0 bytes with
  | (t, none) => .ok t
  | (_, some e) => .error e

/-! ## Streams -/

/-- The number of bytes that are read from a file at once. -/
def blockSize : Nat := 8192

/-- The bytes at the end of a block that a later block may go on with: those of a character that
is cut short, and the first two of a surrogate, which is a fault only when more is there. -/
def pending? (block : List UInt8) (e : Error) : Option (List UInt8) :=
  match e.fault, block.drop e.position with
  | .unexpectedEnd, rest => some rest
  | .invalidContinuation, [0xED, b] => if 0xA0 ≤ b && b ≤ 0xBF then some [0xED, b] else none
  | _, _ => none

/-- The text of bytes that come in blocks. What a block leaves pending is put before the next one,
and the place of a fault counts from the bytes that are decoded together. -/
def decodeBlocks (pending : List UInt8) (bytes : List UInt8) : Except Error Text :=
  match bytes with
  | [] => decode pending
  | b :: bs =>
    let block := pending ++ b :: bs.take (blockSize - 1)
    match decodeFrom 0 0 block with
    | (t, none) => (decodeBlocks [] (bs.drop (blockSize - 1))).map (t ++ ·)
    | (t, some e) => match pending? block e with
      | some rest => (decodeBlocks rest (bs.drop (blockSize - 1))).map (t ++ ·)
      | none => .error e
termination_by bytes.length
decreasing_by all_goals simp only [List.length_drop, List.length_cons]; omega

/-- The text of a file that is read as a stream. -/
def decodeStream (bytes : List UInt8) : Except Error Text := decodeBlocks [] bytes

/-- Each byte read as the character of its number. -/
def latin1 (bytes : List UInt8) : Text := bytes.map fun b => Char.ofNat b.toNat

/-- What is wrong, in words. -/
def Fault.message : Fault → String
  | .invalidStart => "invalid start byte"
  | .invalidContinuation => "invalid continuation byte"
  | .unexpectedEnd => "unexpected end of data"

/-- The fault, with the bytes and the place it concerns. -/
def Error.message (e : Error) : String :=
  match e.bytes with
  | [b] =>
    let digits := Nat.toDigits 16 b.toNat
    let byte := String.ofList (List.replicate (2 - digits.length) '0' ++ digits)
    s!"'utf-8' codec can't decode byte 0x{byte} in position {e.position}: {e.fault.message}"
  | bs =>
    let last := e.position + bs.length - 1
    s!"'utf-8' codec can't decode bytes in position {e.position}-{last}: {e.fault.message}"

end DocPress.Utf8
