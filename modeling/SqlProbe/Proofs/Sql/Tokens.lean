import SqlProbe.Text.Blank
import Mathlib.Data.List.Infix

/-!
# SQL text as tokens

How a server reads quotes and comments, as a grammar. A text is read from left to right, one token
at a time, and what a token is depends on nothing but the characters from its first one on. A quoted
text ends with the next mark of its own kind, a comment with the first end of its kind, and either
goes on to the end of the text where there is none. Any other character is a token by itself. Every
text has one reading only.
-/

namespace SqlProbe.Sql

/-- A token, as far as it decides where a parameter can stand. -/
inductive Token where
  /-- Quoted text with its marks. -/
  | quoted (text : List Char)
  | comment (opening body : List Char)
  /-- A character outside quotes and comments. -/
  | single (c : Char)
  deriving DecidableEq, Repr

namespace Token

/-- The characters of a token. -/
def text : Token → List Char
  | quoted text => text
  | comment opening body => opening ++ body
  | single c => [c]

/-- The characters that open and close quoted text. -/
def marks : List Char := ['\'', '"', '`']

/-- Quoted text behind its opening mark, and what follows it. A backslash hides the next character,
but not in backticks. -/
inductive Closes (mark : Char) : List Char → List Char → Prop
  | unclosed : Closes mark [] []
  | closed (rest : List Char) : Closes mark [mark] rest
  | hidden {c : Char} {body rest : List Char} (escapes : mark ≠ '`') (tail : Closes mark body rest) :
      Closes mark ('\\' :: c :: body) rest
  | brokenOff (escapes : mark ≠ '`') : Closes mark ['\\'] []
  | char {c : Char} {body rest : List Char} (other : c ≠ mark) (plain : c = '\\' → mark = '`')
      (tail : Closes mark body rest) : Closes mark (c :: body) rest

/-- The body of a comment, which ends with the first `stop`, or with the text where none follows. -/
def RunsTo (stop body rest : List Char) : Prop :=
  stop <:+ body ∧ ¬ stop <:+: body.dropLast ∨ rest = [] ∧ ¬ stop <:+: body

instance (stop body rest : List Char) : Decidable (RunsTo stop body rest) :=
  inferInstanceAs (Decidable (_ ∧ ¬ _ ∨ _ ∧ ¬ _))

/-- White space stands in front, or nothing. -/
def StartsBlank (cs : List Char) : Prop := ∀ c ∈ cs.head?, Text.isBlank c = true

instance : (cs : List Char) → Decidable (StartsBlank cs)
  | [] => .isTrue nofun
  | c :: _ => decidable_of_iff (Text.isBlank c = true) (by simp [StartsBlank])

/-- What opens a comment in front of a text, and what closes it. Two dashes open one in front of
white space only, or at the end of the text. -/
inductive Delimits : List Char → List Char → List Char → Prop
  | hash (behind : List Char) : Delimits ['#'] ['\n'] behind
  | dashes {behind : List Char} (blank : StartsBlank behind) : Delimits ['-', '-'] ['\n'] behind
  | block (behind : List Char) : Delimits ['/', '*'] ['*', '/'] behind

/-- Quoted text or a comment begins. -/
inductive Opens : List Char → Prop
  | mark {c : Char} (isMark : c ∈ marks) (behind : List Char) : Opens (c :: behind)
  | comment {opening stop behind : List Char} (delimits : Delimits opening stop behind) :
      Opens (opening ++ behind)

/-- A token stands in front of a text. -/
inductive Leads : Token → List Char → Prop
  | quoted {mark : Char} {body rest : List Char} (isMark : mark ∈ marks)
      (closes : Closes mark body rest) : Leads (quoted (mark :: body)) rest
  | comment {opening stop body rest : List Char} (delimits : Delimits opening stop (body ++ rest))
      (runs : RunsTo stop body rest) : Leads (comment opening body) rest
  | single {c : Char} {rest : List Char} (bare : ¬ Opens (c :: rest)) : Leads (single c) rest

end Token

open Token

/-- A text is read as a list of tokens. -/
inductive Reads : List Char → List Token → Prop
  | nil : Reads [] []
  | cons {token : Token} {rest : List Char} {tokens : List Token} (leads : Leads token rest)
      (tail : Reads rest tokens) : Reads (token.text ++ rest) (token :: tokens)

/-- No character is left out, added or moved. -/
theorem Reads.flatMap_text {cs : List Char} {tokens : List Token} (reads : Reads cs tokens) :
    tokens.flatMap Token.text = cs := by
  induction reads with
  | nil => rfl
  | cons _ _ ih => rw [List.flatMap_cons, ih]

/-! ### Where tokens end -/

namespace Token

theorem Closes.exists (mark : Char) : (cs : List Char) →
    ∃ body rest, cs = body ++ rest ∧ Closes mark body rest
  | [] => ⟨[], [], rfl, .unclosed⟩
  | [c] => by
    by_cases same : c = mark
    · subst same
      exact ⟨[c], [], rfl, .closed []⟩
    by_cases hides : c = '\\' ∧ mark ≠ '`'
    · obtain ⟨rfl, escapes⟩ := hides
      exact ⟨['\\'], [], rfl, .brokenOff escapes⟩
    · refine ⟨[c], [], rfl, .char same ?_ .unclosed⟩
      intro backslash
      by_contra escapes
      exact hides ⟨backslash, escapes⟩
  | c :: d :: cs => by
    by_cases same : c = mark
    · subst same
      exact ⟨[c], d :: cs, rfl, .closed _⟩
    by_cases hides : c = '\\' ∧ mark ≠ '`'
    · obtain ⟨rfl, escapes⟩ := hides
      obtain ⟨body, rest, rfl, closes⟩ := Closes.exists mark cs
      exact ⟨'\\' :: d :: body, rest, rfl, .hidden escapes closes⟩
    · obtain ⟨body, rest, eq, closes⟩ := Closes.exists mark (d :: cs)
      refine ⟨c :: body, rest, congrArg (c :: ·) eq, .char same ?_ closes⟩
      intro backslash
      by_contra escapes
      exact hides ⟨backslash, escapes⟩

/-- The front of what is left to read decides whether and how quoted text goes on. -/
theorem Closes.unique {mark : Char} {body rest body' rest' : List Char} (escape : mark ≠ '\\')
    (closes : Closes mark body rest) (closes' : Closes mark body' rest')
    (same : body ++ rest = body' ++ rest') : body = body' := by
  induction closes generalizing body' with
  | unclosed => exact (List.append_eq_nil_iff.mp same.symm).1.symm
  | closed rest =>
    cases closes' with
    | unclosed => contradiction
    | closed => rfl
    | hidden => exact absurd (List.cons.inj same).1 escape
    | brokenOff => exact absurd (List.cons.inj same).1 escape
    | char other => exact absurd (List.cons.inj same).1.symm other
  | hidden escapes _ ih =>
    cases closes' with
    | unclosed => contradiction
    | closed => exact absurd (List.cons.inj same).1.symm escape
    | hidden _ tail' =>
      obtain ⟨rfl, behind⟩ := List.cons.inj (List.cons.inj same).2
      rw [ih tail' behind]
    | brokenOff => exact nomatch (List.cons.inj same).2
    | char _ plain => exact absurd (plain (List.cons.inj same).1.symm) escapes
  | brokenOff escapes =>
    cases closes' with
    | unclosed => contradiction
    | closed => exact absurd (List.cons.inj same).1.symm escape
    | hidden => exact nomatch (List.cons.inj same).2
    | brokenOff => rfl
    | char _ plain => exact absurd (plain (List.cons.inj same).1.symm) escapes
  | char other plain _ ih =>
    cases closes' with
    | unclosed => contradiction
    | closed => exact absurd (List.cons.inj same).1 other
    | hidden escapes => exact absurd (plain (List.cons.inj same).1) escapes
    | brokenOff escapes => exact absurd (plain (List.cons.inj same).1) escapes
    | char _ _ tail' =>
      obtain ⟨rfl, behind⟩ := List.cons.inj same
      rw [ih tail' behind]

theorem RunsTo.exists {stop : List Char} (some : stop ≠ []) (cs : List Char) :
    ∃ body rest, cs = body ++ rest ∧ RunsTo stop body rest := by
  induction cs using List.reverseRecOn with
  | nil => exact ⟨[], [], rfl, .inr ⟨rfl, fun stops => some (List.infix_nil.mp stops)⟩⟩
  | append_singleton cs c ih =>
    obtain ⟨body, rest, rfl, ends | ⟨rfl, never⟩⟩ := ih
    · exact ⟨body, rest ++ [c], List.append_assoc .., .inl ends⟩
    · rw [List.append_nil]
      refine ⟨body ++ [c], [], (List.append_nil _).symm, ?_⟩
      by_cases now : stop <:+: body ++ [c]
      · exact .inl ⟨(List.infix_concat_iff.mp now).resolve_right never, by rwa [List.dropLast_concat]⟩
      · exact .inr ⟨rfl, now⟩

/-- An end of the comment stands in any longer one before its last character. -/
theorem RunsTo.length_le {stop body rest body' rest' : List Char} (runs : RunsTo stop body rest)
    (runs' : RunsTo stop body' rest') (same : body ++ rest = body' ++ rest') :
    body'.length ≤ body.length := by
  by_contra longer
  have within : body <+: body'.dropLast := by
    have short : body <+: body' ++ rest' := same ▸ List.prefix_append body rest
    have long := (List.dropLast_prefix body').trans (List.prefix_append body' rest')
    refine List.prefix_of_prefix_length_le short long ?_
    rw [List.length_dropLast]
    omega
  rcases runs with ⟨ends, _⟩ | ⟨rfl, _⟩
  · have early := ends.isInfix.trans within.isInfix
    rcases runs' with ⟨_, first⟩ | ⟨_, never⟩
    · exact first early
    · exact never (early.trans (List.dropLast_prefix body').isInfix)
  · have whole := congrArg List.length same
    simp only [List.length_append, List.length_nil] at whole
    omega

theorem RunsTo.unique {stop body rest body' rest' : List Char} (runs : RunsTo stop body rest)
    (runs' : RunsTo stop body' rest') (same : body ++ rest = body' ++ rest') : body = body' :=
  List.append_inj_left same
    (Nat.le_antisymm (runs'.length_le runs same.symm) (runs.length_le runs' same))

theorem opens_cons_iff {c : Char} {rest : List Char} : Opens (c :: rest) ↔ c ∈ marks ∨ c = '#' ∨
    (c = '-' ∧ rest.head? = some '-' ∧ StartsBlank rest.tail) ∨ c = '/' ∧ rest.head? = some '*' := by
  constructor
  · generalize eq : c :: rest = cs
    rintro (isMark | delimits)
    · cases eq
      exact .inl isMark
    · cases delimits with
      | hash => exact .inr (.inl (List.cons.inj eq).1)
      | dashes blank =>
        obtain ⟨rfl, rfl⟩ := List.cons.inj eq
        exact .inr (.inr (.inl ⟨rfl, rfl, blank⟩))
      | block =>
        obtain ⟨rfl, rfl⟩ := List.cons.inj eq
        exact .inr (.inr (.inr ⟨rfl, rfl⟩))
  · rintro (isMark | rfl | ⟨rfl, dash, blank⟩ | ⟨rfl, star⟩)
    · exact .mark isMark rest
    · exact .comment (.hash rest)
    · obtain ⟨behind, rfl⟩ := List.head?_eq_some_iff.mp dash
      exact .comment (.dashes blank)
    · obtain ⟨behind, rfl⟩ := List.head?_eq_some_iff.mp star
      exact .comment (.block behind)

instance (c : Char) (rest : List Char) : Decidable (Opens (c :: rest)) :=
  decidable_of_iff _ opens_cons_iff.symm

theorem Delimits.unique {opening stop behind opening' stop' behind' : List Char}
    (delimits : Delimits opening stop behind) (delimits' : Delimits opening' stop' behind')
    (same : opening ++ behind = opening' ++ behind') : opening = opening' ∧ stop = stop' := by
  cases delimits <;> cases delimits' <;>
    first | exact ⟨rfl, rfl⟩ | exact absurd (List.cons.inj same).1 (by decide)

/-- No comment begins with a mark. -/
theorem Delimits.ne_mark {opening stop behind rest : List Char} {c : Char}
    (delimits : Delimits opening stop behind) (isMark : c ∈ marks) :
    c :: rest ≠ opening ++ behind := by
  rintro same
  cases delimits <;>
  · cases (List.cons.inj same).1
    revert isMark
    decide

theorem ne_backslash_of_mem_marks {c : Char} (isMark : c ∈ marks) : c ≠ '\\' := by
  rintro rfl
  revert isMark
  decide

/-- What is in front of a text tells its first token. -/
theorem Leads.unique {token token' : Token} {rest rest' : List Char} (leads : Leads token rest)
    (leads' : Leads token' rest') (same : token.text ++ rest = token'.text ++ rest') :
    token = token' := by
  cases leads with
  | quoted isMark closes =>
    cases leads' with
    | quoted _ closes' =>
      obtain ⟨rfl, behind⟩ := List.cons.inj same
      rw [closes.unique (ne_backslash_of_mem_marks isMark) closes' behind]
    | comment delimits' =>
      rw [text, text, List.append_assoc] at same
      exact absurd same (delimits'.ne_mark isMark)
    | single bare => exact absurd (Eq.mp (congrArg Opens same) (.mark isMark _)) bare
  | comment delimits runs =>
    rw [text, List.append_assoc] at same
    cases leads' with
    | quoted isMark' => exact absurd same.symm (delimits.ne_mark isMark')
    | comment delimits' runs' =>
      rw [text, List.append_assoc] at same
      obtain ⟨rfl, rfl⟩ := delimits.unique delimits' same
      rw [runs.unique runs' (List.append_cancel_left same)]
    | single bare => exact absurd (Eq.mp (congrArg Opens same) (.comment delimits)) bare
  | single bare =>
    cases leads' with
    | quoted isMark' => exact absurd (Eq.mpr (congrArg Opens same) (.mark isMark' _)) bare
    | comment delimits' =>
      rw [text, text, List.append_assoc] at same
      exact absurd (Eq.mpr (congrArg Opens same) (.comment delimits')) bare
    | single => rw [(List.cons.inj same).1]

theorem exists_leads (c : Char) (cs : List Char) :
    ∃ token rest, c :: cs = token.text ++ rest ∧ Leads token rest := by
  by_cases opens : Opens (c :: cs)
  · generalize eq : c :: cs = all at opens
    cases opens with
    | mark isMark behind =>
      cases eq
      obtain ⟨body, rest, rfl, closes⟩ := Closes.exists c cs
      exact ⟨_, rest, rfl, .quoted isMark closes⟩
    | @comment opening stop behind delimits =>
      have some : stop ≠ [] := by cases delimits <;> decide
      obtain ⟨body, rest, rfl, runs⟩ := RunsTo.exists some behind
      exact ⟨.comment opening body, rest, (List.append_assoc ..).symm, .comment delimits runs⟩
  · exact ⟨.single c, cs, rfl, .single opens⟩

theorem Leads.text_ne_nil {token : Token} {rest : List Char} (leads : Leads token rest) :
    token.text ≠ [] := by
  cases leads with
  | quoted => exact List.cons_ne_nil _ _
  | comment delimits => cases delimits <;> exact List.cons_ne_nil _ _
  | single => exact List.cons_ne_nil _ _

end Token

theorem exists_reads : (cs : List Char) → ∃ tokens, Reads cs tokens
  | [] => ⟨[], .nil⟩
  | c :: cs => by
    obtain ⟨token, rest, eq, leads⟩ := exists_leads c cs
    have shorter : rest.length < (c :: cs).length := by
      have some := List.length_pos_iff.mpr leads.text_ne_nil
      rw [eq, List.length_append]
      omega
    obtain ⟨tokens, tail⟩ := exists_reads rest
    rw [eq]
    exact ⟨token :: tokens, .cons leads tail⟩
  termination_by cs => cs.length
  decreasing_by exact shorter

theorem Reads.unique {cs : List Char} {tokens tokens' : List Token} (reads : Reads cs tokens)
    (reads' : Reads cs tokens') : tokens = tokens' := by
  induction reads generalizing tokens' with
  | nil =>
    generalize eq : ([] : List Char) = all at reads'
    cases reads' with
    | nil => rfl
    | cons leads' => exact absurd (List.append_eq_nil_iff.mp eq.symm).1 leads'.text_ne_nil
  | @cons token rest tokens leads _ ih =>
    generalize eq : token.text ++ rest = all at reads'
    cases reads' with
    | nil => exact absurd (List.append_eq_nil_iff.mp eq).1 leads.text_ne_nil
    | cons leads' tail' =>
      obtain rfl := leads.unique leads' eq
      obtain rfl := List.append_cancel_left eq
      rw [ih tail']

/-- Every text has one reading. -/
theorem existsUnique_reads (cs : List Char) : ∃! tokens, Reads cs tokens := by
  obtain ⟨tokens, reads⟩ := exists_reads cs
  exact ⟨tokens, reads, fun _ reads' => reads'.unique reads⟩

end SqlProbe.Sql
