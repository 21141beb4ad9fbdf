import SqlProbe.Proofs.Sql.Numerals

/-!
# Literals read back

A reader of the default syntax of literals gets back the text or the bytes that a literal was
written for, and stops where the literal ends. An escape begins with a backslash, and a backslash of
the text is itself escaped, so no run of backslashes and quotes is cut in the wrong place.
-/

namespace SqlProbe.Sql

/-! ### The reader -/

/-- What a literal stands for. -/
inductive Written where
  | text (s : String)
  | bytes (bs : List UInt8)
  deriving DecidableEq

section

/- What a backslash with any other character behind it stands for, if it may stand there. -/
variable (other : Char → Option (List Char))

/-- What a backslash with a character behind it stands for. -/
def unescape (c : Char) : Option (List Char) :=
  if c = '\\' ∨ c = '\'' then some [c]
  else if c = '0' then some ['\x00']
  else other c

/-- The text up to the quote that closes it, and what follows. Two quotes are one of the text. -/
def readText : List Char → Option (List Char × List Char)
  | [] => none
  | '\'' :: '\'' :: cs => (readText cs).map fun (text, rest) => ('\'' :: text, rest)
  | '\'' :: cs => some ([], cs)
  | '\\' :: c :: cs => do
    let first ← unescape other c
    let (text, rest) ← readText cs
    pure (first ++ text, rest)
  | c :: cs => (readText cs).map fun (text, rest) => (c :: text, rest)

/-- The bytes up to the quote behind their hexadecimal digits, and what follows. -/
def readBytes : List Char → Option (List UInt8 × List Char)
  | '\'' :: cs => some ([], cs)
  | high :: low :: cs => do
    let high ← Text.hexDigit? high
    let low ← Text.hexDigit? low
    let (bytes, rest) ← readBytes cs
    pure (UInt8.ofNat (16 * high + low) :: bytes, rest)
  | _ => none

/-- What the literal at the beginning of a text stands for, and what follows the literal. -/
def readLiteral (sql : String) : Option (Written × String) :=
  match sql.toList with
  | '\'' :: cs => (readText other cs).map fun (text, rest) =>
    (.text (String.ofList text), String.ofList rest)
  | 'X' :: '\'' :: cs | 'x' :: '\'' :: cs => (readBytes cs).map fun (bytes, rest) =>
    (.bytes bytes, String.ofList rest)
  | _ => none

/-! ### Text -/

theorem readText_escape {c d : Char} (stands : unescape other d = some [c]) (cs : List Char) :
    readText other ('\\' :: d :: cs) =
      (readText other cs).map fun (text, rest) => (c :: text, rest) := by
  rw [readText, stands]
  cases readText other cs <;> rfl

/-- An escaped character is read as the character, whatever follows. -/
theorem readText_escapeChar (c : Char) (cs : List Char) :
    readText other (escapeChar c ++ cs) =
      (readText other cs).map fun (text, rest) => (c :: text, rest) := by
  unfold escapeChar
  split_ifs with backslash mark nul
  · subst backslash
    exact readText_escape other rfl cs
  · subst mark
    exact readText_escape other rfl cs
  · subst nul
    exact readText_escape other rfl cs
  · rw [List.singleton_append, readText]
    · exact fun _ same _ => mark same
    · exact mark
    · exact fun _ _ same _ => backslash same

/-- A quote without a second one behind it closes the text. -/
theorem readText_quote {rest : List Char} (apart : rest.head? ≠ some '\'') :
    readText other ('\'' :: rest) = some ([], rest) := by
  rw [readText]
  rintro cs rfl
  exact apart rfl

theorem readText_escaped (cs : List Char) {rest : List Char} (apart : rest.head? ≠ some '\'') :
    readText other (escape cs ++ '\'' :: rest) = some (cs, rest) := by
  induction cs with
  | nil => exact readText_quote other apart
  | cons c cs ih =>
    rw [escape_cons, List.append_assoc, readText_escapeChar, ih]
    rfl

/-! ### Bytes -/

theorem hexDigit?_digitChar {n : Nat} (small : n < 16) :
    Text.hexDigit? (Nat.digitChar n) = some n ∧ Nat.digitChar n ≠ '\'' := by
  have all : ∀ n < 16, Text.hexDigit? (Nat.digitChar n) = some n ∧ Nat.digitChar n ≠ '\'' := by
    decide
  exact all n small

theorem readBytes_hexByte (b : UInt8) (cs : List Char) :
    readBytes (Text.hexByte b ++ cs) =
      (readBytes cs).map fun (bytes, rest) => (b :: bytes, rest) := by
  obtain ⟨high, noQuote⟩ := hexDigit?_digitChar (n := b.toNat / 16) (by have := b.toNat_lt; omega)
  obtain ⟨low, -⟩ := hexDigit?_digitChar (n := b.toNat % 16) (by omega)
  have whole : UInt8.ofNat (16 * (b.toNat / 16) + b.toNat % 16) = b := by
    rw [Nat.div_add_mod, UInt8.ofNat_toNat]
  rw [Text.hexByte, List.cons_append, List.singleton_append, readBytes]
  · simp only [high, low, whole, Option.bind_eq_bind, Option.bind_some, Option.pure_def]
    cases readBytes cs <;> rfl
  · exact noQuote

theorem readBytes_hexBytes (bytes : List UInt8) (rest : List Char) :
    readBytes (bytes.flatMap Text.hexByte ++ '\'' :: rest) = some (bytes, rest) := by
  induction bytes with
  | nil => rfl
  | cons b bytes ih =>
    rw [List.flatMap_cons, List.append_assoc, readBytes_hexByte, ih]
    rfl

/-! ### Literals -/

theorem readLiteral_quote (s : String) {behind : String} (apart : behind.toList.head? ≠ some '\'') :
    readLiteral other (String.ofList (quote s.toList) ++ behind) = some (.text s, behind) := by
  have read := readText_escaped other s.toList apart
  simp [readLiteral, quote, read]

theorem readLiteral_bytes (bytes : List UInt8) (behind : String) :
    readLiteral other (literal (.bytes bytes) ++ behind) = some (.bytes bytes, behind) := by
  have read := readBytes_hexBytes bytes behind.toList
  simp [readLiteral, literal, literalChars, read]

end

/-- The literals of strings and of bytes are read as the strings and the bytes, and nothing of what
follows is read along. So is the literal of a decimal whose text is no number, blanks at its ends
aside. -/
theorem readLiteral_literal (other : Char → Option (List Char)) (behind : String)
    (apart : behind.toList.head? ≠ some '\'') :
    (∀ s, readLiteral other (literal (.string s) ++ behind) = some (.text s, behind)) ∧
      (∀ bytes, readLiteral other (literal (.bytes bytes) ++ behind) =
        some (.bytes bytes, behind)) ∧
      ∀ s : String, ¬ Numeral (Text.trim s.toList) →
        readLiteral other (literal (.decimal s) ++ behind) = some (.text s, behind) := by
  refine ⟨fun s => readLiteral_quote other s apart,
    fun bytes => readLiteral_bytes other bytes behind, fun s noNumber => ?_⟩
  have quoted : literalChars (.decimal s) = quote s.toList := by
    simp only [literalChars, isNumeral_iff, noNumber, ↓reduceIte]
  rw [literal, quoted]
  exact readLiteral_quote other s apart

/-- A text that ends in a backslash, the byte of a quote, and an exponent without digits, for a
reader that knows line feeds. More escapes stand behind each literal. -/
theorem readLiteral_literal_hidden_quotes :
    let other (c : Char) : Option (List Char) := if c = 'n' then some ['\n'] else none
    " '\\n\\''".toList.head? ≠ some '\'' ∧ ¬ Numeral (Text.trim "1e".toList) ∧
      readLiteral other (literal (.string "\\''\x00\\") ++ " '\\n\\''") =
        some (.text "\\''\x00\\", " '\\n\\''") ∧
      readLiteral other (literal (.bytes [0x27, 0xc3]) ++ " '\\n\\''") =
        some (.bytes [0x27, 0xc3], " '\\n\\''") ∧
      readLiteral other (literal (.decimal "1e") ++ " '\\n\\''") =
        some (.text "1e", " '\\n\\''") := by
  intro other
  have apart : " '\\n\\''".toList.head? ≠ some '\'' := by decide
  have noNumber : ¬ Numeral (Text.trim "1e".toList) := by decide
  obtain ⟨string, bytes, decimal⟩ := readLiteral_literal other " '\\n\\''" apart
  exact ⟨apart, noNumber, string _, bytes _, decimal _ noNumber⟩

end SqlProbe.Sql
