/-!
# UTF-8

Characters as bytes and back. Decoding reads one character at a time and accepts only its shortest
encoding; what it refuses it reports with the index of the first byte that cannot be used and, where
the text did not just end too early, the number of bytes that belong to the fault.
-/

namespace SqlProbe.Text.Utf8

/-- The bytes of a text. -/
def encode (cs : List Char) : List UInt8 := cs.flatMap String.utf8EncodeChar

/-- Where decoding stopped: the index of the faulty byte, and the length of the faulty sequence
unless the bytes ended inside a sequence that could have gone on. -/
structure Fault where
  index : Nat
  length : Option Nat
  deriving DecidableEq, Repr

/-- The description of a fault. -/
def Fault.message (fault : Fault) : String :=
  match fault.length with
  | some n => s!"invalid utf-8 sequence of {n} bytes from index {fault.index}"
  | none => s!"incomplete utf-8 byte sequence from index {fault.index}"

/-- A byte that continues a sequence. -/
def isTail (b : UInt8) : Bool := 0x80 ≤ b && b ≤ 0xBF

/-- The six bits that a continuing byte carries. -/
def tailBits (b : UInt8) : Nat := b.toNat % 64

/-- What the first bytes of a text are: a character and the number of its bytes, or a fault
with the number of its bytes. -/
inductive Head where
  | char (c : Char) (size : Nat)
  | fault (length : Option Nat)
  deriving DecidableEq, Repr

/-- A two-byte sequence behind its first byte. -/
def head2 (b0 : UInt8) : List UInt8 → Head
  | [] => .fault none
  | b1 :: _ =>
    if isTail b1 then .char (Char.ofNat (b0.toNat % 32 * 64 + tailBits b1)) 2 else .fault (some 1)

/-- A three-byte sequence behind its first byte; the second byte keeps to a range that leaves out
longer encodings and surrogates. -/
def head3 (b0 low high : UInt8) : List UInt8 → Head
  | [] => .fault none
  | b1 :: rest =>
    if low ≤ b1 && b1 ≤ high then
      match rest with
      | [] => .fault none
      | b2 :: _ =>
        if isTail b2 then
          .char (Char.ofNat (b0.toNat % 16 * 4096 + tailBits b1 * 64 + tailBits b2)) 3
        else .fault (some 2)
    else .fault (some 1)

/-- A four-byte sequence behind its first byte; the second byte keeps to a range that leaves out
longer encodings and numbers past the last code point. -/
def head4 (b0 low high : UInt8) : List UInt8 → Head
  | [] => .fault none
  | b1 :: rest =>
    if low ≤ b1 && b1 ≤ high then
      match rest with
      | [] => .fault none
      | b2 :: rest =>
        if isTail b2 then
          match rest with
          | [] => .fault none
          | b3 :: _ =>
            if isTail b3 then
              .char (Char.ofNat (b0.toNat % 8 * 262144 + tailBits b1 * 4096 + tailBits b2 * 64
                + tailBits b3)) 4
            else .fault (some 3)
        else .fault (some 2)
    else .fault (some 1)

/-- The character at the head of the bytes `b0 :: rest`. -/
def head (b0 : UInt8) (rest : List UInt8) : Head :=
  if b0 < 0x80 then .char (Char.ofNat b0.toNat) 1
  else if b0 < 0xC2 then .fault (some 1)
  else if b0 ≤ 0xDF then head2 b0 rest
  else if b0 = 0xE0 then head3 b0 0xA0 0xBF rest
  else if b0 = 0xED then head3 b0 0x80 0x9F rest
  else if b0 ≤ 0xEF then head3 b0 0x80 0xBF rest
  else if b0 = 0xF0 then head4 b0 0x90 0xBF rest
  else if b0 ≤ 0xF3 then head4 b0 0x80 0xBF rest
  else if b0 = 0xF4 then head4 b0 0x80 0x8F rest
  else .fault (some 1)

/-- Decodes the bytes from the given index on. -/
def decodeFrom (index : Nat) (bytes : List UInt8) : Except Fault (List Char) :=
  match bytes with
  | [] => .ok []
  | b0 :: rest =>
    match head b0 rest with
    | .char c size => (decodeFrom (index + size) (rest.drop (size - 1))).map (c :: ·)
    | .fault length => .error ⟨index, length⟩
  termination_by bytes.length
  decreasing_by simp only [List.length_drop, List.length_cons]; omega

/-- The text that the bytes encode. -/
def decode (bytes : List UInt8) : Except Fault (List Char) := decodeFrom 0 bytes

/-- The text that the bytes encode, if they encode one. -/
def decode? (bytes : List UInt8) : Option (List Char) := (decode bytes).toOption

/-- Decodes the bytes and puts the replacement character in the place of every faulty sequence. -/
def decodeLossy (bytes : List UInt8) : List Char :=
  match bytes with
  | [] => []
  | b0 :: rest =>
    match head b0 rest with
    | .char c size => c :: decodeLossy (rest.drop (size - 1))
    | .fault (some n) => '\uFFFD' :: decodeLossy (rest.drop (n - 1))
    | .fault none => ['\uFFFD']
  termination_by bytes.length
  decreasing_by all_goals simp only [List.length_drop, List.length_cons]; omega

end SqlProbe.Text.Utf8
