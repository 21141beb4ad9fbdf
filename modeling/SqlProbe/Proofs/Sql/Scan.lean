import SqlProbe.Sql.Template

/-!
# Scanning a text in parts

A scanner that reads SQL text one character at a time and looks at no more than the character behind
it. A pair of characters that belong together is two steps of it, and both characters count to the
context in which the pair begins. It cuts a text where a template is cut.

What the scanner does with a text it does with its parts one after the other, as long as each part
is read with what follows it in view. A part that meets no placeholder is a passage from one state
to another: passages compose, and they are invisible to the count of placeholders. Outside quotes
and comments most characters mean nothing, and neither does a dash that stands before one of them.
-/

namespace SqlProbe.Sql

/-- Where the scanner stands before a character. -/
inductive Scan where
  | code
  /-- Before the second dash of a pair. -/
  | secondDash
  /-- Before the star that opens a block comment. -/
  | openingStar
  | quoted (mark : Quote)
  /-- Before a character that a backslash hides. -/
  | hidden (mark : Quote)
  | lineComment
  | blockComment
  /-- Before the slash that closes a block comment. -/
  | closingSlash
  deriving DecidableEq, Repr

namespace Scan

/-- The context of the character before which the scanner stands. -/
def context : Scan → Context
  | code | secondDash | openingStar => .code
  | quoted mark | hidden mark => .quoted mark
  | lineComment => .lineComment
  | blockComment | closingSlash => .blockComment

/-- Where the scanner stands after the character `c` with `rest` behind it. -/
def next (state : Scan) (c : Char) (rest : List Char) : Scan :=
  match state with
  | code =>
    match Quote.ofChar? c with
    | some mark => quoted mark
    | none =>
      if c = '#' then lineComment
      else if c = '-' ∧ rest.head? = some '-' then secondDash
      else if c = '/' ∧ rest.head? = some '*' then openingStar
      else code
  | secondDash => if endsDashes rest then lineComment else code
  | openingStar => blockComment
  | quoted mark =>
    if c = '\\' ∧ mark.hasEscapes then hidden mark
    else if c = mark.char then code
    else quoted mark
  | hidden mark => quoted mark
  | lineComment => if c = '\n' then code else lineComment
  | blockComment => if c = '*' ∧ rest.head? = some '/' then closingSlash else blockComment
  | closingSlash => code

/-- A question mark in code stands for a parameter. -/
def isPlaceholder (state : Scan) (c : Char) : Bool := state == code && c == '?'

/-- The states before each character of a text. -/
def trace (state : Scan) : List Char → List Scan
  | [] => []
  | c :: cs => state :: trace (state.next c cs) cs

/-- Where the scanner stands after a text with `rest` behind it. -/
def after (state : Scan) (rest : List Char) : List Char → Scan
  | [] => state
  | c :: cs => after (state.next c (cs ++ rest)) rest cs

end Scan

/-- Cuts a text at its placeholders, with the scanner in the given state before it. -/
def Template.cut (state : Scan) : List Char → List Char × List (List Char)
  | [] => ([], [])
  | c :: cs =>
    let (first, rest) := cut (state.next c cs) cs
    if state.isPlaceholder c then ([], first :: rest) else (c :: first, rest)

namespace Scan

/-- The state before a position of a text; at its end, the state in which the text leaves the
scanner. -/
def stateAt (state : Scan) (cs : List Char) (i : Nat) : Scan := state.after (cs.drop i) (cs.take i)

/-- The context of what stands at a position of a text. -/
def contextAt (cs : List Char) (i : Nat) : Context := (stateAt .code cs i).context

theorem after_append (state : Scan) (rest as bs : List Char) :
    state.after rest (as ++ bs) = (state.after (bs ++ rest) as).after rest bs := by
  induction as generalizing state with
  | nil => rfl
  | cons a as ih => simp only [List.cons_append, after, ih, List.append_assoc]

@[simp] theorem stateAt_zero (state : Scan) (cs : List Char) : state.stateAt cs 0 = state := rfl

@[simp] theorem stateAt_cons_succ (state : Scan) (c : Char) (cs : List Char) (i : Nat) :
    state.stateAt (c :: cs) (i + 1) = (state.next c cs).stateAt cs i := by
  simp only [stateAt, List.drop_succ_cons, List.take_succ_cons, after, List.take_append_drop]

theorem stateAt_append_add (state : Scan) (as cs : List Char) (i : Nat) :
    state.stateAt (as ++ cs) (as.length + i) = (state.after cs as).stateAt cs i := by
  simp only [stateAt, List.drop_append, List.drop_of_length_le (Nat.le_add_right _ _),
    List.take_append, List.take_of_length_le (Nat.le_add_right _ _), Nat.add_sub_cancel_left,
    List.nil_append, after_append, List.take_append_drop]

/-- The scanner sees no more of what follows a character than the next one. -/
theorem next_congr (state : Scan) (c : Char) {rest rest' : List Char}
    (same : rest.head? = rest'.head?) : state.next c rest = state.next c rest' := by
  have ends : endsDashes rest = endsDashes rest' := by
    cases rest <;> cases rest' <;> simp_all [endsDashes]
  cases state <;> simp only [next, same, ends]

/-- From one state to another the scanner reads a text, which stands before `rest`, and meets no
placeholder. -/
inductive Passes (rest : List Char) : Scan → List Char → Scan → Prop
  | nil (state : Scan) : Passes rest state [] state
  | cons {state final : Scan} {c : Char} {cs : List Char} (silent : state.isPlaceholder c = false)
      (tail : Passes rest (state.next c (cs ++ rest)) cs final) : Passes rest state (c :: cs) final

theorem Passes.after_eq {rest cs : List Char} {state final : Scan}
    (passes : Passes rest state cs final) : state.after rest cs = final := by
  induction passes with
  | nil => rfl
  | cons _ _ ih => exact ih

theorem Passes.append {rest as bs : List Char} {first middle last : Scan}
    (left : Passes (bs ++ rest) first as middle) (right : Passes rest middle bs last) :
    Passes rest first (as ++ bs) last := by
  induction left with
  | nil => exact right
  | cons silent _ ih =>
    refine .cons silent ?_
    simpa only [List.append_eq, List.append_assoc] using ih right

/-- A passage is copied whole into the fragment that it begins in. -/
theorem Passes.cut_eq {rest cs : List Char} {state final : Scan}
    (passes : Passes rest state cs final) : Template.cut state (cs ++ rest) =
      (cs ++ (Template.cut final rest).1, (Template.cut final rest).2) := by
  induction passes with
  | nil => rfl
  | @cons state final c cs silent _ ih =>
    simp only [List.cons_append, Template.cut, silent, Bool.false_eq_true, ↓reduceIte]
    rw [ih]

/-- Placeholders stand behind a passage or nowhere. -/
theorem Passes.cut_append {rest cs : List Char} {state final : Scan}
    (passes : Passes rest state cs final) :
    (Template.cut state (cs ++ rest)).2 = (Template.cut final rest).2 := by
  rw [passes.cut_eq]

/-- A text whose characters leave the scanner where it is, whatever follows them, is a passage. -/
theorem passes_of_stay {state : Scan} (rest : List Char) {cs : List Char}
    (stay : ∀ c ∈ cs, state.isPlaceholder c = false ∧ ∀ behind, state.next c behind = state) :
    Passes rest state cs state := by
  induction cs with
  | nil => exact .nil state
  | cons c cs ih =>
    obtain ⟨silent, next⟩ := stay c (List.mem_cons_self ..)
    refine .cons silent ?_
    rw [next]
    exact ih (fun other member => stay other (List.mem_cons_of_mem _ member))

end Scan

/-! ### Templates -/

/-- Where the scanner stands in a context in which nothing has begun. -/
def Context.start : Context → Scan
  | code => .code
  | quoted mark => .quoted mark
  | lineComment => .lineComment
  | blockComment => .blockComment

namespace Template

open Scan

variable {fragments done : List String} {current current' : String} {state final : Scan}
  {taken cs : List Char}

/-- The fragments are those that have ended, the one that is being read, and what the scanner makes
of the rest of the text. -/
def CutAs (fragments done : List String) (current : String) (state : Scan) (cs : List Char) :
    Prop :=
  fragments.map String.toList =
    done.map String.toList ++ (current.toList ++ (cut state cs).1) :: (cut state cs).2

/-- A passage is copied to the fragment that is being read. -/
theorem CutAs.of_passes (tail : CutAs fragments done current' final cs)
    (passes : Passes cs state taken final) (copied : current'.toList = current.toList ++ taken) :
    CutAs fragments done current state (taken ++ cs) := by
  rw [CutAs] at tail
  rw [CutAs, tail, passes.cut_eq, copied, List.append_assoc]

theorem CutAs.of_next {c : Char} (tail : CutAs fragments done (current.push c) final cs)
    (silent : state.isPlaceholder c = false) (next : state.next c cs = final) :
    CutAs fragments done current state (c :: cs) :=
  have passes : Passes cs state [c] final := .cons silent (next ▸ .nil _)
  tail.of_passes passes (String.toList_push ..)

theorem CutAs.of_next_next {c d : Char} {middle : Scan}
    (tail : CutAs fragments done ((current.push c).push d) final cs)
    (silent : state.isPlaceholder c = false) (next : state.next c (d :: cs) = middle)
    (silent' : middle.isPlaceholder d = false) (next' : middle.next d cs = final) :
    CutAs fragments done current state (c :: d :: cs) :=
  (tail.of_next silent' next').of_next silent next

theorem not_pair {c first second : Char} {cs : List Char}
    (apart : ∀ tail, c = first → cs = second :: tail → False) :
    ¬ (c = first ∧ cs.head? = some second) := by
  rintro ⟨same, behind⟩
  obtain ⟨tail, rfl⟩ := List.head?_eq_some_iff.mp behind
  exact apart tail same rfl

/-- The pass of the template and the scanner cut alike: each branch of the pass takes what the scanner
reads in one step or in two. -/
theorem scan_cutAs (context : Context) (done : List String) (current : String) (cs : List Char) :
    CutAs (scan context done current cs) done current context.start cs := by
  fun_induction scan context done current cs with
  | case1 context => simp [CutAs, cut]
  | case2 done current cs placeholder =>
    simpa [CutAs, cut, Context.start, Scan.isPlaceholder, next, Quote.ofChar?] using placeholder
  | case3 done current c cs other mark opens quoted =>
    exact quoted.of_next (by simp [Scan.isPlaceholder, other]) (by simp [Context.start, next, opens])
  | case4 done current cs _ _ comment => exact comment.of_next rfl rfl
  | case5 done current cs _ _ _ behind =>
    refine behind.of_next_next rfl rfl rfl ?_
    change (if endsDashes cs then lineComment else code) = _
    split <;> rfl
  | case6 done current cs _ _ _ comment => exact comment.of_next_next rfl rfl rfl rfl
  | case7 done current c cs noDashes noStar other noMark noHash code =>
    refine code.of_next (by simp [Scan.isPlaceholder, other]) ?_
    simp [Context.start, next, noMark, noHash, not_pair noDashes, not_pair noStar]
  | case8 done current c mark hides whole =>
    -- A backslash at the end hides nothing, so it does not matter where it leaves the scanner.
    have whole : CutAs _ done (current.push c) (hidden mark) [] := whole
    exact whole.of_next rfl (if_pos hides)
  | case9 done current c mark hides d cs quoted =>
    exact quoted.of_next_next rfl (if_pos hides) rfl rfl
  | case10 done current c cs mark bare quoted =>
    refine quoted.of_next rfl ?_
    rw [Context.start, next, if_neg bare]
    split <;> rfl
  | case11 done current c cs comment =>
    refine comment.of_next rfl ?_
    rw [Context.start, next]
    split <;> rfl
  | case12 done current cs code => exact code.of_next_next rfl rfl rfl rfl
  | case13 done current c cs noSlash comment =>
    exact comment.of_next rfl (if_neg (not_pair noSlash))

theorem map_toList_fragments (sql : String) :
    (parse sql).fragments.map String.toList = (cut code sql.toList).1 :: (cut code sql.toList).2 :=
  scan_cutAs .code [] "" sql.toList

theorem fragments_parse (sql : String) : (parse sql).fragments =
    ((cut code sql.toList).1 :: (cut code sql.toList).2).map String.ofList := by
  simp [← map_toList_fragments, Function.comp_def]

theorem placeholderCount_parse (sql : String) :
    (parse sql).placeholderCount = (cut code sql.toList).2.length := by
  simp [placeholderCount, fragments_parse]

end Template

/-! ### Characters without meaning -/

/-- A letter or digit, a point or a plus sign: nothing of these opens or ends anything in code. -/
def isBare (c : Char) : Bool := c.isAlphanum || c == '.' || c == '+'

theorem ne_of_isBare {c d : Char} (bare : isBare c = true) (special : isBare d = false) : c ≠ d := by
  rintro rfl
  rw [bare] at special
  contradiction

theorem isBare_of_isDigit {c : Char} (digit : c.isDigit = true) : isBare c = true := by
  simp [isBare, Char.isAlphanum, digit]

theorem isBlank_of_isBare {c : Char} (bare : isBare c = true) : Text.isBlank c = false := by
  have range : c.toNat = 43 ∨ c.toNat = 46 ∨ 48 ≤ c.toNat ∧ c.toNat ≤ 57 ∨
      65 ≤ c.toNat ∧ c.toNat ≤ 90 ∨ 97 ≤ c.toNat ∧ c.toNat ≤ 122 := by
    have upper (h : c.isUpper = true) : 65 ≤ c.toNat ∧ c.toNat ≤ 90 := of_decide_eq_true h
    have between {low high : Nat} (h : (decide (low ≤ c.toNat) && decide (c.toNat ≤ high)) = true) :
        low ≤ c.toNat ∧ c.toNat ≤ high := by
      simpa only [Bool.and_eq_true, decide_eq_true_eq] using h
    have lower (h : c.isLower = true) : 97 ≤ c.toNat ∧ c.toNat ≤ 122 := between h
    have digit (h : c.isDigit = true) : 48 ≤ c.toNat ∧ c.toNat ≤ 57 := between h
    change (((c.isUpper || c.isLower) || c.isDigit) || c == '.' || c == '+') = true at bare
    simp only [Bool.or_eq_true, beq_iff_eq] at bare
    rcases bare with ((((h | h) | h) | rfl) | rfl)
    · have range := upper h
      omega
    · have range := lower h
      omega
    · have range := digit h
      omega
    · exact .inr (.inl rfl)
    · exact .inl rfl
  simp only [Text.isBlank, Text.blankRanges, List.any_cons, List.any_nil, Bool.or_false,
    Bool.or_eq_false_iff, Bool.and_eq_false_iff, decide_eq_false_iff_not]
  omega

namespace Scan

theorem next_code_of_isBare {c : Char} (bare : isBare c = true) (rest : List Char) :
    code.next c rest = code := by
  have single := ne_of_isBare bare (d := '\'') (by decide)
  have double := ne_of_isBare bare (d := '"') (by decide)
  have backtick := ne_of_isBare bare (d := '`') (by decide)
  have hash := ne_of_isBare bare (d := '#') (by decide)
  have dash := ne_of_isBare bare (d := '-') (by decide)
  have slash := ne_of_isBare bare (d := '/') (by decide)
  simp only [next, Quote.ofChar?, single, double, backtick, hash, dash, slash, ↓reduceIte, false_and]

theorem isPlaceholder_of_isBare {c : Char} (bare : isBare c = true) (state : Scan) :
    state.isPlaceholder c = false := by
  have mark := ne_of_isBare bare (d := '?') (by decide)
  simp [isPlaceholder, mark]

/-- A dash before a bare character opens no comment, also where it is the second of its pair. -/
theorem next_dash_of_isBare {state : Scan} (outside : state = code ∨ state = secondDash) {c : Char}
    (bare : isBare c = true) (rest : List Char) : state.next '-' (c :: rest) = code := by
  have dash := ne_of_isBare bare (d := '-') (by decide)
  rcases outside with rfl | rfl
  · simp [next, Quote.ofChar?, dash]
  · simp [next, endsDashes, isBlank_of_isBare bare]

end Scan

/-! ### Plain texts -/

/-- Bare characters, and dashes in front of them. -/
inductive Plain : List Char → Prop
  | nil : Plain []
  | bare {c : Char} {cs : List Char} (bare : isBare c = true) (tail : Plain cs) : Plain (c :: cs)
  | dash {c : Char} {cs : List Char} (bare : isBare c = true) (tail : Plain (c :: cs)) :
      Plain ('-' :: c :: cs)

theorem plain_of_isBare {cs : List Char} (bare : ∀ c ∈ cs, isBare c = true) : Plain cs := by
  induction cs with
  | nil => exact .nil
  | cons c cs ih =>
    exact .bare (bare c (List.mem_cons_self ..)) (ih fun d member => bare d (List.mem_cons_of_mem _ member))

theorem Plain.append {as bs : List Char} (left : Plain as) (right : Plain bs) :
    Plain (as ++ bs) := by
  induction left with
  | nil => exact right
  | bare bare _ ih => exact .bare bare ih
  | dash bare _ ih => exact .dash bare ih

theorem Plain.isBare_or_dash {cs : List Char} (plain : Plain cs) :
    ∀ c ∈ cs, isBare c = true ∨ c = '-' := by
  induction plain with
  | nil => simp
  | bare bare _ ih => exact List.forall_mem_cons.mpr ⟨.inl bare, ih⟩
  | dash _ _ ih => exact List.forall_mem_cons.mpr ⟨.inr rfl, ih⟩

open Scan

/-- Plain text leads from code to code. -/
theorem Plain.passes {cs : List Char} (plain : Plain cs) (rest : List Char) :
    Passes rest code cs code := by
  induction plain with
  | nil => exact .nil code
  | bare bare _ ih =>
    refine .cons (isPlaceholder_of_isBare bare code) ?_
    rwa [next_code_of_isBare bare]
  | dash bare _ ih =>
    refine .cons rfl ?_
    rwa [List.cons_append, next_dash_of_isBare (.inl rfl) bare]

/-- A dash in front of plain text may be the second of a pair. -/
theorem Plain.passes_secondDash {cs : List Char} (plain : Plain cs) (dash : cs.head? = some '-')
    (rest : List Char) : Passes rest secondDash cs code := by
  cases plain with
  | nil => contradiction
  | bare bare => exact absurd (Option.some.inj dash) (ne_of_isBare bare (by decide))
  | dash bare tail =>
    refine .cons rfl ?_
    rw [List.cons_append, next_dash_of_isBare (.inr rfl) bare]
    exact tail.passes rest

end SqlProbe.Sql
