import SqlProbe.Text.Numeral
import SqlProbe.Text.Utf8

/-!
# Percent encoding

Bytes written as a percent sign and two hexadecimal digits. Encoding goes over the UTF-8 bytes of a
text; decoding leaves a percent sign that no two digits follow as it stands.
-/

namespace SqlProbe.Text.Percent

/-- The byte that the two hexadecimal digits at the head of the bytes write. -/
def encoded? : List UInt8 → Option UInt8
  | high :: low :: _ => do
    let h ← hexDigit? (Char.ofNat high.toNat)
    let l ← hexDigit? (Char.ofNat low.toNat)
    pure (UInt8.ofNat (16 * h + l))
  | _ => none

/-- Replaces each encoded byte by the byte itself. -/
def decodeBytes (bytes : List UInt8) : List UInt8 :=
  match bytes with
  | [] => []
  | b :: rest =>
    if b = 0x25 then
      match encoded? rest with
      | some byte => byte :: decodeBytes (rest.drop 2)
      | none => b :: decodeBytes rest
    else b :: decodeBytes rest
  termination_by bytes.length
  decreasing_by all_goals simp only [List.length_drop, List.length_cons]; omega

/-- The text that an encoded text stands for. -/
def decode (cs : List Char) : Except Utf8.Fault (List Char) :=
  Utf8.decode (decodeBytes (Utf8.encode cs))

/-- A hexadecimal digit in upper case. -/
def hexDigit (n : Nat) : Char := (Nat.digitChar n).toUpper

/-- A percent sign and the two digits of a byte. -/
def encodeByte (b : UInt8) : List Char := ['%', hexDigit (b.toNat / 16), hexDigit (b.toNat % 16)]

/-- The text with every byte encoded that is no ASCII character the test keeps. -/
def encode (keep : Char → Bool) (cs : List Char) : List Char :=
  (Utf8.encode cs).flatMap fun b =>
    if b < 0x80 ∧ keep (Char.ofNat b.toNat) then [Char.ofNat b.toNat] else encodeByte b

end SqlProbe.Text.Percent
