/-!
# Bytes and characters

`Utf8.decodeLossy` reads bytes as UTF-8; where they are not well formed, each longest piece
that could have begun a character becomes one replacement character.  `Utf8.decode?` reads
only well-formed bytes.
-/

namespace Greenhouse.Utf8

/-- The character that stands for bytes that cannot be read. -/
def replacement : Char := Char.ofNat 0xFFFD

/-- Whether a byte continues a character. -/
def isContinuation (b : UInt8) : Bool := 0x80 ≤ b && b ≤ 0xBF

/-- The number of continuation bytes after a first byte, the bits that the first byte
gives, and the bounds on the second byte; `none` when no character starts so. -/
def lead? (b : UInt8) : Option (Nat × Nat × UInt8 × UInt8) :=
  if 0xC2 ≤ b && b ≤ 0xDF then some (1, b.toNat - 0xC0, 0x80, 0xBF)
  else if b == 0xE0 then some (2, 0, 0xA0, 0xBF)
  else if b == 0xED then some (2, 0xD, 0x80, 0x9F)
  else if 0xE1 ≤ b && b ≤ 0xEF then some (2, b.toNat - 0xE0, 0x80, 0xBF)
  else if b == 0xF0 then some (3, 0, 0x90, 0xBF)
  else if 0xF1 ≤ b && b ≤ 0xF3 then some (3, b.toNat - 0xF0, 0x80, 0xBF)
  else if b == 0xF4 then some (3, 4, 0x80, 0x8F)
  else none

/-- What is known while bytes are read one by one. -/
inductive State where
  /-- Between two characters. -/
  | ready
  /-- Inside a character: bytes still to come, bits so far, bounds on the next byte. -/
  | inside (left bits : Nat) (low high : UInt8)

/-- Reads one byte between two characters. -/
def start (b : UInt8) : Option Char × State :=
  if b < 0x80 then (some (Char.ofNat b.toNat), .ready)
  else
    match lead? b with
    | some (left, bits, low, high) => (none, .inside left bits low high)
    | none => (some replacement, .ready)

/-- Reads one byte; the characters that are finished by it are put in front, last one
first. -/
def State.step (acc : List Char) (s : State) (b : UInt8) : List Char × State :=
  match s with
  | .ready =>
    match start b with
    | (some c, s) => (c :: acc, s)
    | (none, s) => (acc, s)
  | .inside left bits low high =>
    if low ≤ b && b ≤ high then
      let bits := bits * 64 + (b.toNat - 0x80)
      if left = 1 then (Char.ofNat bits :: acc, .ready)
      else (acc, .inside (left - 1) bits 0x80 0xBF)
    else
      match start b with
      | (some c, s) => (c :: replacement :: acc, s)
      | (none, s) => (replacement :: acc, s)

/-- Reads bytes, given the characters before them, last one first. -/
def decodeFrom (acc : List Char) (s : State) : List UInt8 → List Char
  | [] =>
    match s with
    | .ready => acc.reverse
    | .inside .. => (replacement :: acc).reverse
  | b :: rest =>
    let (acc, s) := s.step acc b
    decodeFrom acc s rest

/-- The characters of bytes, with replacements where these are not well formed. -/
def decodeLossy (bytes : List UInt8) : List Char := decodeFrom [] .ready bytes

/-- Reads a character from the front of bytes: it, and the bytes after it. -/
def takeChar? : List UInt8 → Option (Char × List UInt8)
  | [] => none
  | b :: rest =>
    match start b with
    | (some c, _) => if b < 0x80 then some (c, rest) else none
    | (none, .ready) => none
    | (none, .inside left bits low high) =>
      match left, rest with
      | 1, c :: rest =>
        if low ≤ c && c ≤ high then some (Char.ofNat (bits * 64 + (c.toNat - 0x80)), rest)
        else none
      | 2, c :: d :: rest =>
        if low ≤ c && c ≤ high && isContinuation d then
          some (Char.ofNat ((bits * 64 + (c.toNat - 0x80)) * 64 + (d.toNat - 0x80)), rest)
        else none
      | 3, c :: d :: e :: rest =>
        if low ≤ c && c ≤ high && isContinuation d && isContinuation e then
          some (Char.ofNat (((bits * 64 + (c.toNat - 0x80)) * 64 + (d.toNat - 0x80)) * 64
            + (e.toNat - 0x80)), rest)
        else none
      | _, _ => none

/-- The characters of bytes, with a mark for each byte that belongs to none; the first number
bounds the steps. -/
def decodeMarkedFrom (mark : Char) : Nat → List UInt8 → List Char
  | 0, _ => []
  | _ + 1, [] => []
  | fuel + 1, b :: rest =>
    match takeChar? (b :: rest) with
    | some (c, rest) => c :: decodeMarkedFrom mark fuel rest
    | none => mark :: decodeMarkedFrom mark fuel rest

/-- The characters of bytes, with a mark for each byte that belongs to none. -/
def decodeMarked (mark : Char) (bytes : List UInt8) : List Char :=
  decodeMarkedFrom mark (bytes.length + 1) bytes

/-- The bytes of a character. -/
def encodeChar (c : Char) : List UInt8 :=
  let n := c.toNat
  if n < 0x80 then [n.toUInt8]
  else if n < 0x800 then [(0xC0 + n / 64).toUInt8, (0x80 + n % 64).toUInt8]
  else if n < 0x10000 then
    [(0xE0 + n / 4096).toUInt8, (0x80 + n / 64 % 64).toUInt8, (0x80 + n % 64).toUInt8]
  else
    [(0xF0 + n / 262144).toUInt8, (0x80 + n / 4096 % 64).toUInt8,
      (0x80 + n / 64 % 64).toUInt8, (0x80 + n % 64).toUInt8]

/-- The bytes of a text. -/
def encode (cs : List Char) : List UInt8 := cs.flatMap encodeChar

/-- The characters of well-formed bytes. -/
def decode? (bytes : List UInt8) : Option (List Char) :=
  let cs := decodeLossy bytes
  if encode cs = bytes then some cs else none

end Greenhouse.Utf8
