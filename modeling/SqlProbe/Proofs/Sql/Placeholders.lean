import SqlProbe.Proofs.Sql.Scan
import SqlProbe.Proofs.Sql.Tokens

/-!
# Where the placeholders are

The scanner's placeholders are the question marks that the grammar of tokens leaves outside quotes
and comments, as long as the dashes work out. The scanner takes two dashes away together even if
they open no comment, and so looks for a comment at every other dash of a row only. It misses one
where an odd number of dashes stands before the two that open it.
-/

namespace SqlProbe.Sql

open Scan Token

namespace Template

/-- Cuts a text that is read as tokens at the question marks that are tokens by themselves. -/
def cutTokens : List Token → List Char × List (List Char)
  | [] => ([], [])
  | token :: tokens =>
    let (first, rest) := cutTokens tokens
    if token = .single '?' then ([], first :: rest) else (token.text ++ first, rest)

/-- The template of a text that is read as tokens. -/
def ofTokens (tokens : List Token) : Template :=
  let (first, rest) := cutTokens tokens
  ⟨String.ofList (tokens.flatMap Token.text), (first :: rest).map String.ofList⟩

end Template

/-- Before every comment that two dashes open stands an even number of dashes that are tokens by
themselves. Whether an odd number of them stands before the tokens is given. -/
def DashesPaired (odd : Bool) : List Token → Prop
  | [] => True
  | .quoted _ :: tokens => DashesPaired false tokens
  | .comment opening _ :: tokens =>
    (opening = ['-', '-'] → odd = false) ∧ DashesPaired false tokens
  | .single c :: tokens => DashesPaired (c = '-' && !odd) tokens

instance : (odd : Bool) → (tokens : List Token) → Decidable (DashesPaired odd tokens)
  | _, [] => .isTrue trivial
  | _, .quoted _ :: tokens => instDecidableDashesPaired false tokens
  | odd, .comment opening _ :: tokens =>
    have := instDecidableDashesPaired false tokens
    inferInstanceAs (Decidable ((opening = ['-', '-'] → odd = false) ∧ _))
  | odd, .single c :: tokens => instDecidableDashesPaired (c = '-' && !odd) tokens

namespace Scan

/-- From a state the scanner reads a text, which stands before `rest`, and meets no placeholder.
Behind it the scanner is in code, unless there is nothing left to read. -/
def Spans (rest : List Char) (state : Scan) (cs : List Char) : Prop :=
  ∃ final, Passes rest state cs final ∧ (final = code ∨ rest = [])

theorem Spans.cut_eq {rest cs : List Char} {state : Scan} (spans : Spans rest state cs) :
    Template.cut state (cs ++ rest) =
      (cs ++ (Template.cut code rest).1, (Template.cut code rest).2) := by
  obtain ⟨final, passes, rfl | rfl⟩ := spans
  · exact passes.cut_eq
  · exact passes.cut_eq

theorem Spans.cons {rest cs : List Char} {state : Scan} {c : Char}
    (silent : state.isPlaceholder c = false) (tail : Spans rest (state.next c (cs ++ rest)) cs) :
    Spans rest state (c :: cs) := by
  obtain ⟨final, passes, stands⟩ := tail
  exact ⟨final, .cons silent passes, stands⟩

theorem Spans.of_append {rest cs ds : List Char} {state middle : Scan}
    (passes : Passes (ds ++ rest) state cs middle) (tail : Spans rest middle ds) :
    Spans rest state (cs ++ ds) := by
  obtain ⟨final, passes', stands⟩ := tail
  exact ⟨final, passes.append passes', stands⟩

theorem isPlaceholder_of_ne_code {state : Scan} (inside : state ≠ code) (c : Char) :
    state.isPlaceholder c = false := by
  simp [isPlaceholder, inside]

theorem endsDashes_iff (cs : List Char) : endsDashes cs = true ↔ StartsBlank cs := by
  cases cs <;> simp [endsDashes, StartsBlank]

/-! ### Quoted text -/

theorem exists_quote {c : Char} (isMark : c ∈ marks) : ∃ mark, Quote.ofChar? c = some mark ∧
    mark.char = c ∧ (mark.hasEscapes = true ↔ c ≠ '`') := by
  simp only [marks, List.mem_cons, List.not_mem_nil, or_false] at isMark
  rcases isMark with rfl | rfl | rfl
  · exact ⟨.single, by decide⟩
  · exact ⟨.double, by decide⟩
  · exact ⟨.backtick, by decide⟩

theorem spans_of_closes {mark : Quote} {body rest : List Char}
    (escapes : mark.hasEscapes = true ↔ mark.char ≠ '`') (closes : Closes mark.char body rest) :
    Spans rest (quoted mark) body := by
  have inside (c : Char) : (quoted mark).isPlaceholder c = false :=
    isPlaceholder_of_ne_code (by nofun) c
  have masked (c : Char) : (hidden mark).isPlaceholder c = false :=
    isPlaceholder_of_ne_code (by nofun) c
  have backslash : mark.char ≠ '\\' := by cases mark <;> decide
  induction closes with
  | unclosed => exact ⟨_, .nil _, .inr rfl⟩
  | closed rest =>
    refine .cons (inside _) ⟨_, .nil _, .inl ?_⟩
    simp [next, backslash]
  | @hidden c body rest escaped _ ih =>
    refine .cons (inside _) ?_
    rw [next, if_pos ⟨rfl, escapes.mpr escaped⟩]
    exact .cons (masked c) ih
  | brokenOff escaped => exact ⟨_, .cons (inside _) (.nil _), .inr rfl⟩
  | @char c body rest other plain _ ih =>
    refine .cons (inside c) ?_
    have unhidden : ¬ (c = '\\' ∧ mark.hasEscapes = true) := by
      rintro ⟨same, escaped⟩
      exact escapes.mp escaped (plain same)
    rw [next, if_neg unhidden, if_neg other]
    exact ih

/-! ### Comments -/

theorem spans_lineComment {body rest : List Char} (runs : RunsTo ['\n'] body rest) :
    Spans rest lineComment body := by
  have stay {cs : List Char} (never : ¬ ['\n'] <:+: cs) (behind : List Char) :
      Passes behind lineComment cs lineComment := by
    refine passes_of_stay behind fun c member => ⟨rfl, fun _ => if_neg ?_⟩
    rintro rfl
    obtain ⟨before, after, rfl⟩ := List.append_of_mem member
    exact never ⟨before, after, by simp⟩
  rcases runs with ⟨⟨inside, rfl⟩, never⟩ | ⟨rfl, never⟩
  · rw [List.dropLast_concat] at never
    exact .of_append (stay never _) ⟨_, .cons rfl (.nil _), .inl rfl⟩
  · exact ⟨_, stay never [], .inr rfl⟩

/-- The scanner looks one character ahead for the end of a block comment. -/
theorem passes_blockComment {rest cs : List Char}
    (never : ¬ ['*', '/'] <:+: cs ++ rest.head?.toList) :
    Passes rest blockComment cs blockComment := by
  induction cs with
  | nil => exact .nil _
  | cons c cs ih =>
    have open' : ¬ (c = '*' ∧ (cs ++ rest).head? = some '/') := by
      rintro ⟨rfl, slash⟩
      cases cs with
      | nil =>
        rw [List.nil_append] at slash
        rw [slash] at never
        exact never List.infix_rfl
      | cons d cs =>
        cases Option.some.inj slash
        exact never ⟨[], cs ++ rest.head?.toList, rfl⟩
    refine .cons rfl ?_
    rw [next, if_neg open']
    exact ih fun later => never (later.trans (List.suffix_cons _ _).isInfix)

theorem spans_blockComment {body rest : List Char} (runs : RunsTo ['*', '/'] body rest) :
    Spans rest blockComment body := by
  rcases runs with ⟨⟨inside, rfl⟩, never⟩ | ⟨rfl, never⟩
  · refine .of_append (passes_blockComment ?_) ⟨_, .cons rfl (.cons rfl (.nil _)), .inl rfl⟩
    simpa using never
  · refine ⟨_, passes_blockComment ?_, .inr rfl⟩
    simpa using never

end Scan

/-! ### Tokens -/

/-- What is quoted or a comment takes the scanner from code to code. -/
theorem Token.Leads.spans {token : Token} {rest : List Char} (leads : Leads token rest)
    (whole : ∀ c, token ≠ .single c) : Spans rest code token.text := by
  cases leads with
  | quoted isMark closes =>
    obtain ⟨mark, isQuote, rfl, escapes⟩ := exists_quote isMark
    have silent : code.isPlaceholder mark.char = false := by cases mark <;> rfl
    refine .cons silent ?_
    rw [next, isQuote]
    exact spans_of_closes escapes closes
  | @comment _ _ body _ delimits runs =>
    cases delimits with
    | hash => exact .cons rfl (spans_lineComment runs)
    | dashes blank =>
      refine .cons rfl (.cons rfl ?_)
      change Spans rest (if endsDashes (body ++ rest) then lineComment else code) body
      rw [if_pos ((endsDashes_iff _).mpr blank)]
      exact spans_lineComment runs
    | block => exact .cons rfl (.cons rfl (spans_blockComment runs))
  | single => exact absurd rfl (whole _)

theorem ofChar?_eq_none {c : Char} (other : c ∉ marks) : Quote.ofChar? c = none := by
  simp only [marks, List.mem_cons, List.not_mem_nil, or_false, not_or] at other
  simp only [Quote.ofChar?, other, ↓reduceIte]

/-- Where nothing opens, a dash may at most be taken for the first of a pair. -/
theorem next_code_of_not_opens {c : Char} {rest : List Char} (bare : ¬ Opens (c :: rest)) :
    code.next c rest = if c = '-' ∧ rest.head? = some '-' then secondDash else code := by
  rw [opens_cons_iff, not_or, not_or, not_or] at bare
  obtain ⟨noMark, noHash, -, noBlock⟩ := bare
  rw [next, ofChar?_eq_none noMark]
  dsimp only
  rw [if_neg noHash, if_neg noBlock]

/-- Where the scanner stands before a token; the number of single dashes before it may be odd. -/
def standing (odd : Bool) (cs : List Char) : Scan :=
  if odd = true ∧ cs.head? = some '-' then secondDash else code

@[simp] theorem standing_false (cs : List Char) : standing false cs = code := rfl

theorem standing_cons_of_ne {c : Char} (other : c ≠ '-') (odd : Bool) (cs : List Char) :
    standing odd (c :: cs) = code := by
  simp [standing, other]

theorem standing_of_leads {token : Token} {rest : List Char} {tokens : List Token} {odd : Bool}
    (leads : Leads token rest) (whole : ∀ c, token ≠ .single c)
    (paired : DashesPaired odd (token :: tokens)) :
    standing odd (token.text ++ rest) = code ∧ DashesPaired false tokens := by
  cases leads with
  | @quoted mark _ _ isMark =>
    have other : mark ≠ '-' := by
      rintro rfl
      revert isMark
      decide
    exact ⟨standing_cons_of_ne other odd _, paired⟩
  | comment delimits =>
    refine ⟨?_, paired.2⟩
    cases delimits with
    | hash => exact standing_cons_of_ne (by decide) odd _
    | dashes => rw [paired.1 rfl, standing_false]
    | block => exact standing_cons_of_ne (by decide) odd _
  | single => exact absurd rfl (whole _)

/-- A single character takes the scanner from where it stands to where it stands behind it. -/
theorem next_standing {c : Char} {rest : List Char} (single : ¬ Opens (c :: rest)) {odd : Bool}
    (bare : odd = true → ∀ behind, c :: rest = '-' :: behind → ¬ StartsBlank behind) :
    (standing odd (c :: rest)).next c rest = standing (c = '-' && !odd) rest := by
  by_cases dash : c = '-'
  · subst dash
    cases odd with
    | true =>
      have open' : ¬ endsDashes rest = true :=
        fun blank => bare rfl rest rfl ((endsDashes_iff rest).mp blank)
      change (if endsDashes rest then lineComment else code) = code
      rw [if_neg open']
    | false =>
      rw [standing_false, next_code_of_not_opens single]
      simp [standing]
  · rw [standing_cons_of_ne dash, next_code_of_not_opens single]
    simp [dash]

/-- Two dashes that are no comment have no blank behind them. -/
theorem bare_behind {c : Char} {rest : List Char} (single : ¬ Opens (c :: rest)) {odd : Bool}
    (first : (c = '-' && !odd) = true) (behind : List Char) (same : rest = '-' :: behind) :
    ¬ StartsBlank behind := by
  rintro blank
  simp only [Bool.and_eq_true, decide_eq_true_eq] at first
  obtain ⟨rfl, -⟩ := first
  subst same
  exact single (.comment (.dashes blank))

theorem isPlaceholder_standing (odd : Bool) (c : Char) (rest : List Char) :
    (standing odd (c :: rest)).isPlaceholder c = decide (c = '?') := by
  by_cases mark : c = '?'
  · subst mark
    rw [standing_cons_of_ne (by decide)]
    rfl
  · simp [isPlaceholder, mark]

/-- The scanner cuts a text where the grammar does. Before the text there may be an odd number of
single dashes, the last of which has not opened a comment with the first of the text. -/
theorem cut_of_reads {cs : List Char} {tokens : List Token} (reads : Reads cs tokens) {odd : Bool}
    (paired : DashesPaired odd tokens)
    (bare : odd = true → ∀ behind, cs = '-' :: behind → ¬ StartsBlank behind) :
    Template.cut (standing odd cs) cs = Template.cutTokens tokens := by
  induction reads generalizing odd with
  | nil => rfl
  | @cons token rest tokens leads _ ih =>
    -- Quoted text and comments begin and end in code; only single dashes leave a trace.
    by_cases whole : ∀ c, token ≠ .single c
    · obtain ⟨stands, paired⟩ := standing_of_leads leads whole paired
      have tail := ih paired (by nofun)
      rw [standing_false] at tail
      rw [stands, (leads.spans whole).cut_eq, tail, Template.cutTokens]
      simp only [whole, ↓reduceIte]
    · push Not at whole
      obtain ⟨c, rfl⟩ := whole
      cases leads with
      | single single =>
        have tail := ih paired fun first behind same => bare_behind single first behind same
        simp only [Token.text, List.singleton_append, Template.cut, isPlaceholder_standing,
          next_standing single bare, tail, Template.cutTokens, Token.single.injEq,
          decide_eq_true_eq]

/-- The placeholders that the scanner finds are the question marks outside quotes and comments: the
scanner cuts a text where its tokens say, if no odd number of dashes stands before a comment that
two more dashes open. -/
theorem parse_eq_ofTokens {sql : String} {tokens : List Token} (reads : Reads sql.toList tokens)
    (paired : DashesPaired false tokens) : Template.parse sql = Template.ofTokens tokens := by
  have fragments := Template.fragments_parse sql
  rw [← standing_false sql.toList, cut_of_reads reads paired (by nofun)] at fragments
  rw [Template.ofTokens, reads.flatMap_text, String.ofList_toList]
  exact congrArg (Template.mk sql) fragments

/-- Four dashes in a row: two single ones and a comment, behind which stands the one placeholder. -/
theorem parse_eq_ofTokens_four_dashes :
    let sql := "'?'---- ?\n?"
    let tokens : List Token := [.quoted ['\'', '?', '\''], .single '-', .single '-',
      .comment ['-', '-'] [' ', '?', '\n'], .single '?']
    Reads sql.toList tokens ∧ DashesPaired false tokens ∧
      Template.parse sql = Template.ofTokens tokens :=
  have quoted : Closes '\'' ['?', '\''] ['-', '-', '-', '-', ' ', '?', '\n', '?'] :=
    .char (by decide) (by decide) (.closed _)
  have comment : Leads (.comment ['-', '-'] [' ', '?', '\n']) ['?'] :=
    .comment (.dashes (by decide)) (by decide)
  have reads : Reads "'?'---- ?\n?".toList [.quoted ['\'', '?', '\''], .single '-', .single '-',
      .comment ['-', '-'] [' ', '?', '\n'], .single '?'] :=
    .cons (.quoted (by decide) quoted) (.cons (.single (by decide)) (.cons (.single (by decide))
      (.cons comment (.cons (.single (by decide)) .nil))))
  ⟨reads, by decide, parse_eq_ofTokens reads (by decide)⟩

/-- Three dashes in a row: a single one and a comment, in which the scanner finds a placeholder. -/
theorem placeholder_in_comment : ¬ ∀ (sql : String) (tokens : List Token),
    Reads sql.toList tokens → Template.parse sql = Template.ofTokens tokens := by
  intro agrees
  have comment : Leads (.comment ['-', '-'] [' ', '?']) [] :=
    .comment (.dashes (by decide)) (by decide)
  have reads : Reads "--- ?".toList [.single '-', .comment ['-', '-'] [' ', '?']] :=
    .cons (.single (by decide)) (.cons comment .nil)
  have same := congrArg Template.placeholderCount (agrees "--- ?" _ reads)
  revert same
  decide

end SqlProbe.Sql
