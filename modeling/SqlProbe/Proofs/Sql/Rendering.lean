import SqlProbe.Proofs.Sql.LiteralText

/-!
# Rendering keeps every context

A template rendered with literals is scanned like the text that it was cut from. The two scans go
side by side: over copied characters both stand alike, and where a placeholder stood the second one
passes over the literal. Only a dash looks ahead across such a join, and what it sees there opens no
comment. So the rendered text has no placeholder, each literal begins and ends in code, and no
character of the original changes its context.
-/

namespace SqlProbe.Sql

open Scan

namespace Template

/-- A first fragment, and each of the given texts with a fragment behind it. -/
def weave (first : List Char) (texts rest : List (List Char)) : List Char :=
  first ++ (List.zipWith (· ++ ·) texts rest).flatten

/-- Where a fragment begins when the given texts stand between the fragments. -/
def offset (fragments texts : List (List Char)) (i : Nat) : Nat :=
  (fragments.take i).flatten.length + (texts.take i).flatten.length

@[simp] theorem offset_zero (fragments texts : List (List Char)) : offset fragments texts 0 = 0 := rfl

theorem offset_cons_succ (first text : List Char) (rest texts : List (List Char)) (i : Nat) :
    offset (first :: rest) (text :: texts) (i + 1) =
      first.length + text.length + offset rest texts i := by
  simp only [offset, List.take_succ_cons, List.flatten_cons, List.length_append]
  omega

theorem offset_copy (c : Char) (first : List Char) (rest texts : List (List Char)) (i : Nat) :
    offset ((c :: first) :: rest) texts (i + 1) = offset (first :: rest) texts (i + 1) + 1 := by
  simp only [offset, List.take_succ_cons, List.flatten_cons, List.length_append, List.length_cons]
  omega

/-- Behind a fragment stands its text, and behind that the next fragment. -/
theorem offset_succ {fragments texts : List (List Char)} {i : Nat} {fragment text : List Char}
    (atFragment : fragments[i]? = some fragment) (atText : texts[i]? = some text) :
    offset fragments texts (i + 1) = offset fragments texts i + fragment.length + text.length := by
  simp only [offset, List.take_add_one, atFragment, atText, Option.toList_some,
    List.flatten_append, List.flatten_singleton, List.length_append]
  omega

theorem length_weave {first : List Char} {texts rest : List (List Char)}
    (counted : texts.length = rest.length) :
    (weave first texts rest).length = offset (first :: rest) texts (rest.length + 1) := by
  have flattened : (List.zipWith (· ++ ·) texts rest).flatten.length =
      texts.flatten.length + rest.flatten.length := by
    induction texts generalizing rest with
    | nil =>
      obtain rfl := List.eq_nil_of_length_eq_zero counted.symm
      rfl
    | cons text texts ih =>
      obtain ⟨next, rest, rfl⟩ := List.exists_cons_of_length_eq_add_one counted.symm
      simp only [List.zipWith_cons_cons, List.flatten_cons, List.length_append,
        ih (Nat.succ.inj counted)]
      omega
  rw [weave, List.length_append, flattened, offset, List.take_succ_cons,
    List.take_of_length_le (Nat.le_refl _), List.take_of_length_le (by omega), List.flatten_cons,
    List.length_append]
  omega

/-- From the beginning of a fragment on, what is left is woven from what is left of the parts. -/
theorem drop_offset {first : List Char} {texts rest : List (List Char)} {i : Nat}
    {fragment : List Char} (counted : texts.length = rest.length)
    (atFragment : (first :: rest)[i]? = some fragment) :
    (weave first texts rest).drop (offset (first :: rest) texts i) =
      weave fragment (texts.drop i) (rest.drop i) := by
  induction i generalizing first texts rest with
  | zero =>
    obtain rfl := Option.some.inj atFragment
    rfl
  | succ i ih =>
    cases rest with
    | nil => simp at atFragment
    | cons next rest =>
      cases texts with
      | nil => contradiction
      | cons text texts =>
        rw [offset_cons_succ, Nat.add_assoc, ← List.drop_drop, ← List.drop_drop]
        have woven : weave first (text :: texts) (next :: rest) =
            first ++ (text ++ weave next texts rest) := by
          simp only [weave, List.zipWith_cons_cons, List.flatten_cons, List.append_assoc]
        rw [woven, List.drop_left, List.drop_left]
        exact ih (Nat.succ.inj counted) atFragment

theorem fragment_prefix {first : List Char} {texts rest : List (List Char)} {i : Nat}
    {fragment : List Char} (counted : texts.length = rest.length)
    (atFragment : (first :: rest)[i]? = some fragment) :
    fragment <+: (weave first texts rest).drop (offset (first :: rest) texts i) := by
  rw [drop_offset counted atFragment]
  exact List.prefix_append _ _

theorem text_prefix {first : List Char} {texts rest : List (List Char)} {i : Nat}
    {fragment text : List Char} (counted : texts.length = rest.length)
    (atFragment : (first :: rest)[i]? = some fragment) (atText : texts[i]? = some text) :
    text <+: (weave first texts rest).drop (offset (first :: rest) texts i + fragment.length) := by
  obtain ⟨bound, rfl⟩ := List.getElem?_eq_some_iff.mp atText
  rw [← List.drop_drop, drop_offset counted atFragment, weave, List.drop_left,
    List.drop_eq_getElem_cons bound, List.drop_eq_getElem_cons (show i < rest.length by omega),
    List.zipWith_cons_cons, List.flatten_cons, List.append_assoc]
  exact List.prefix_append _ _

/-- Two scans side by side: of a text, from one state, and of what becomes of it when the given
texts take the places of its placeholders, from another. Both texts are given with the parts that
they are made of. -/
inductive SideBySide : Scan → Scan → List Char → List Char →
    List Char → List (List Char) → List (List Char) → Prop
  | nil (state : Scan) : SideBySide state state [] [] [] [] []
  | copy {state : Scan} {c : Char} {cs out first : List Char} {texts rest : List (List Char)}
      (silent : state.isPlaceholder c = false)
      (tail : SideBySide (state.next c cs) (state.next c out) cs out first texts rest) :
      SideBySide state state (c :: cs) (c :: out) (c :: first) texts rest
  | put {state : Scan} {cs out text first : List Char} {texts rest : List (List Char)}
      (outside : state.context = .code) (passes : Passes out state text code)
      (tail : SideBySide code code cs out first texts rest) :
      SideBySide code state ('?' :: cs) (text ++ out) [] (text :: texts) (first :: rest)

theorem stateAt_copy (state : Scan) (c : Char) (out first : List Char)
    (rest texts : List (List Char)) (i k : Nat) :
    state.stateAt (c :: out) (offset ((c :: first) :: rest) texts (i + 1) + k) =
      (state.next c out).stateAt out (offset (first :: rest) texts (i + 1) + k) := by
  rw [offset_copy, Nat.add_right_comm, stateAt_cons_succ]

theorem stateAt_put (state : Scan) (text out : List Char) (fragments texts : List (List Char))
    (i k : Nat) :
    state.stateAt (text ++ out) (offset ([] :: fragments) (text :: texts) (i + 1) + k) =
      (state.after out text).stateAt out (offset fragments texts i + k) := by
  rw [offset_cons_succ, List.length_nil, Nat.zero_add, Nat.add_assoc, stateAt_append_add]

namespace SideBySide

variable {state state' : Scan} {cs out first : List Char} {texts rest : List (List Char)}

/-- No placeholder is left. -/
theorem cut_eq_nil (scans : SideBySide state state' cs out first texts rest) :
    (cut state' out).2 = [] := by
  induction scans with
  | nil => rfl
  | copy silent _ ih =>
    simp only [cut, silent, Bool.false_eq_true, ↓reduceIte]
    exact ih
  | put _ passes _ ih =>
    rw [passes.cut_append]
    exact ih

/-- What is copied keeps its context, and so does the place behind it. -/
theorem context_eq (scans : SideBySide state state' cs out first texts rest) {i k : Nat}
    {fragment : List Char} (atFragment : (first :: rest)[i]? = some fragment)
    (within : k ≤ fragment.length) :
    (state'.stateAt out (offset (first :: rest) texts i + k)).context =
      (state.stateAt cs (offset (first :: rest) (texts.map fun _ => ['?']) i + k)).context := by
  induction scans generalizing i k fragment with
  | nil =>
    cases i with
    | zero =>
      obtain rfl := Option.some.inj atFragment
      obtain rfl := Nat.le_zero.mp within
      rfl
    | succ i => simp at atFragment
  | @copy state c cs out first texts rest _ _ ih =>
    cases i with
    | zero =>
      obtain rfl := Option.some.inj atFragment
      cases k with
      | zero => rfl
      | succ k =>
        have rest := ih (i := 0) (k := k) rfl (Nat.le_of_succ_le_succ within)
        simpa only [offset_zero, Nat.zero_add, stateAt_cons_succ] using rest
    | succ i =>
      rw [stateAt_copy, stateAt_copy]
      exact ih atFragment within
  | @put _ cs _ _ first texts rest outside passes _ ih =>
    cases i with
    | zero =>
      obtain rfl := Option.some.inj atFragment
      obtain rfl := Nat.le_zero.mp within
      exact outside
    | succ i =>
      have source := stateAt_put code ['?'] cs (first :: rest) (texts.map fun _ => ['?']) i k
      rw [stateAt_put, passes.after_eq]
      exact (ih atFragment within).trans (congrArg context source.symm)

/-- Each text begins in code. -/
theorem context_start (scans : SideBySide state state' cs out first texts rest) {i : Nat}
    {fragment text : List Char} (atFragment : (first :: rest)[i]? = some fragment)
    (atText : texts[i]? = some text) :
    (state'.stateAt out (offset (first :: rest) texts i + fragment.length)).context = .code := by
  induction scans generalizing i fragment with
  | nil => simp at atText
  | @copy state c cs out first texts rest _ _ ih =>
    cases i with
    | zero =>
      obtain rfl := Option.some.inj atFragment
      have tail := ih (i := 0) rfl atText
      simpa only [offset_zero, Nat.zero_add, List.length_cons, stateAt_cons_succ] using tail
    | succ i =>
      rw [stateAt_copy]
      exact ih atFragment atText
  | put outside passes _ ih =>
    cases i with
    | zero =>
      obtain rfl := Option.some.inj atFragment
      exact outside
    | succ i =>
      rw [stateAt_put, passes.after_eq]
      exact ih atFragment atText

/-- Each text ends in code. -/
theorem stateAt_end (scans : SideBySide state state' cs out first texts rest) {i : Nat}
    {text : List Char} (atText : texts[i]? = some text) :
    state'.stateAt out (offset (first :: rest) texts (i + 1)) = code := by
  induction scans generalizing i with
  | nil => simp at atText
  | @copy state c _ out first texts rest _ _ ih =>
    have shifted := stateAt_copy state c out first rest texts i 0
    exact shifted.trans (ih atText)
  | @put state _ out text first texts rest _ passes tail ih =>
    have shifted := stateAt_put state text out (first :: rest) texts i 0
    rw [passes.after_eq] at shifted
    refine shifted.trans ?_
    cases i with
    | zero => rfl
    | succ i => exact ih atText

end SideBySide

/-! ### Both scans of a template -/

/-- What becomes of a text when the given texts take the places of its placeholders. -/
def filled (state : Scan) (cs : List Char) (texts : List (List Char)) : List Char :=
  weave (cut state cs).1 texts (cut state cs).2

theorem filled_copy {state : Scan} {c : Char} (silent : state.isPlaceholder c = false)
    (cs : List Char) (texts : List (List Char)) :
    filled state (c :: cs) texts = c :: filled (state.next c cs) cs texts := by
  simp only [filled, weave, cut, silent, Bool.false_eq_true, ↓reduceIte, List.cons_append]

theorem filled_put (cs text : List Char) (texts : List (List Char)) :
    filled code ('?' :: cs) (text :: texts) = text ++ filled code cs texts := by
  change [] ++ ((text ++ (cut code cs).1) ++ _) = text ++ ((cut code cs).1 ++ _)
  rw [List.nil_append, List.append_assoc]
  rfl

theorem filled_marks (state : Scan) (cs : List Char) :
    filled state cs ((cut state cs).2.map fun _ => ['?']) = cs := by
  induction cs generalizing state with
  | nil => rfl
  | cons c cs ih =>
    by_cases placeholder : state.isPlaceholder c = true
    · obtain ⟨rfl, rfl⟩ : state = code ∧ c = '?' := by simpa [isPlaceholder] using placeholder
      exact (filled_put cs ['?'] _).trans (congrArg ('?' :: ·) (ih code))
    · rw [Bool.not_eq_true] at placeholder
      rw [filled_copy placeholder]
      simp only [cut, placeholder, Bool.false_eq_true, ↓reduceIte]
      rw [ih]

/-- A scanner that stands in code before a placeholder stands in code before the literal as well,
or has just read a dash and expects a second one that is there. -/
theorem next_before_text {state : Scan} {c d : Char} {cs tail : List Char}
    (before : state.next c ('?' :: cs) = code) (star : d ≠ '*') (blank : Text.isBlank d = false) :
    state.next c (d :: tail) = code ∨ state.next c (d :: tail) = secondDash ∧ d = '-' := by
  cases state with
  | code =>
    simp only [next, List.head?_cons, Option.some.injEq, star, and_false, ↓reduceIte] at before ⊢
    split
    · next mark quoted => simp [quoted] at before
    · next quoted =>
      simp only [quoted] at before
      split_ifs at before ⊢ with hash dash
      · exact .inr ⟨rfl, dash.2⟩
      · exact .inl rfl
  | secondDash => simp [next, endsDashes, blank]
  | openingStar => contradiction
  | quoted mark =>
    left
    simpa only [next] using before
  | hidden mark => contradiction
  | lineComment =>
    left
    simpa only [next] using before
  | blockComment =>
    simp only [next] at before
    split at before <;> contradiction
  | closingSlash => exact .inl rfl

/-- What becomes of a text begins like the text, except where a placeholder stands in front. -/
theorem head?_filled {state : Scan} {cs : List Char} (texts : List (List Char))
    (silent : ∀ c ∈ cs.head?, state.isPlaceholder c = false) :
    (filled state cs texts).head? = cs.head? := by
  cases cs with
  | nil => cases texts <;> rfl
  | cons c cs => rw [filled_copy (silent c rfl), List.head?_cons, List.head?_cons]

/-- Two scans stand alike before what is left of a text and before what becomes of it: in the same
state, except that the second one may have a dash behind it and the dash of a literal before it. -/
def Alike (state state' : Scan) (cs out : List Char) : Prop :=
  state' = state ∨ state = code ∧ state' = secondDash ∧ cs.head? = some '?' ∧ out.head? = some '-'

/-- Reading one more character of both texts keeps the scans alike. -/
theorem alike_next (state : Scan) (c : Char) {cs : List Char} {texts : List (List Char)}
    (counted : texts.length = (cut (state.next c cs) cs).2.length)
    (insertable : ∀ text ∈ texts, Insertable text) :
    Alike (state.next c cs) (state.next c (filled (state.next c cs) cs texts)) cs
      (filled (state.next c cs) cs texts) := by
  by_cases silent : ∀ d ∈ cs.head?, (state.next c cs).isPlaceholder d = false
  · exact .inl (next_congr state c (head?_filled texts silent))
  · simp only [not_forall, Bool.not_eq_false] at silent
    obtain ⟨d, member, placeholder⟩ := silent
    obtain ⟨before, rfl⟩ : state.next c cs = code ∧ d = '?' := by
      simpa [isPlaceholder] using placeholder
    obtain ⟨ds, rfl⟩ : ∃ ds, cs = '?' :: ds := by
      cases cs with
      | nil => contradiction
      | cons _ ds => exact ⟨ds, by rw [Option.some.inj member]⟩
    rw [before] at counted ⊢
    obtain ⟨text, texts, rfl⟩ := List.exists_cons_of_length_eq_add_one counted
    obtain ⟨d, tail, rfl, star, blank⟩ := (insertable text (List.mem_cons_self ..)).head
    rw [filled_put, List.cons_append]
    rcases next_before_text before star blank with same | ⟨dash, rfl⟩
    · exact .inl same
    · exact .inr ⟨rfl, dash, rfl, rfl⟩

/-- Texts that may be inserted keep the two scans side by side. -/
theorem sideBySide_filled {state state' : Scan} {cs : List Char} {texts : List (List Char)}
    (counted : texts.length = (cut state cs).2.length)
    (insertable : ∀ text ∈ texts, Insertable text)
    (alike : Alike state state' cs (filled state cs texts)) :
    SideBySide state state' cs (filled state cs texts) (cut state cs).1 texts (cut state cs).2 := by
  induction cs generalizing state state' texts with
  | nil =>
    obtain rfl := List.eq_nil_of_length_eq_zero counted
    obtain rfl : state' = state := by simpa [Alike] using alike
    exact .nil state'
  | cons c cs ih =>
    by_cases placeholder : state.isPlaceholder c = true
    · obtain ⟨rfl, rfl⟩ : state = code ∧ c = '?' := by simpa [isPlaceholder] using placeholder
      obtain ⟨text, texts, rfl⟩ := List.exists_cons_of_length_eq_add_one counted
      have insertion := insertable text (List.mem_cons_self ..)
      have tail : SideBySide code code cs (filled code cs texts) (cut code cs).1 texts (cut code cs).2 :=
        ih (Nat.succ.inj counted)
          (fun other member => insertable other (List.mem_cons_of_mem _ member)) (.inl rfl)
      rw [filled_put] at alike ⊢
      rcases alike with rfl | ⟨_, rfl, _, dash⟩
      · exact .put rfl (insertion.passes _) tail
      · obtain ⟨d, ds, rfl, _⟩ := insertion.head
        exact .put rfl (insertion.passes_dash dash _) tail
    · rw [Bool.not_eq_true] at placeholder
      have same : state' = state := by
        rcases alike with same | ⟨rfl, _, mark, _⟩
        · exact same
        · obtain rfl := Option.some.inj mark
          contradiction
      subst same
      have cut_copy : cut state' (c :: cs) =
          (c :: (cut (state'.next c cs) cs).1, (cut (state'.next c cs) cs).2) := by
        simp only [cut, placeholder, Bool.false_eq_true, ↓reduceIte]
      rw [cut_copy] at counted ⊢
      rw [filled_copy placeholder]
      exact .copy placeholder (ih counted insertable (alike_next state' c counted insertable))

/-! ### The rendered text -/

theorem fill_cons_cons (sql first next : String) (rest : List String) (text : String)
    (texts : List String) : fill ⟨sql, first :: next :: rest⟩ (text :: texts) =
      first ++ (text ++ fill ⟨sql, next :: rest⟩ texts) := by
  simp only [fill, List.zipWith_cons_cons, String.join_cons, List.getLast?_cons_cons,
    String.append_assoc]

theorem toList_fill (sql first : String) {rest texts : List String}
    (counted : texts.length = rest.length) : (fill ⟨sql, first :: rest⟩ texts).toList =
      weave first.toList (texts.map String.toList) (rest.map String.toList) := by
  induction texts generalizing first rest with
  | nil =>
    obtain rfl := List.eq_nil_of_length_eq_zero counted.symm
    simp [fill, weave]
  | cons text texts ih =>
    obtain ⟨next, rest, rfl⟩ := List.exists_cons_of_length_eq_add_one counted.symm
    have tail := ih next (Nat.succ.inj counted)
    simp only [fill_cons_cons, String.toList_append, tail, weave, List.map_cons,
      List.zipWith_cons_cons, List.flatten_cons, List.append_assoc]

/-- Filling the template of a text with texts is filling the text. -/
theorem toList_fill_parse {sql : String} {texts : List String}
    (counted : texts.length = (parse sql).placeholderCount) :
    ((parse sql).fill texts).toList = filled code sql.toList (texts.map String.toList) := by
  have count : texts.length = ((cut code sql.toList).2.map String.ofList).length := by
    rw [counted, placeholderCount_parse, List.length_map]
  have fragments : parse sql = ⟨sql, String.ofList (cut code sql.toList).1 ::
      (cut code sql.toList).2.map String.ofList⟩ :=
    congrArg (Template.mk sql) (fragments_parse sql)
  rw [fragments, toList_fill sql _ count]
  simp [filled, Function.comp_def]

/-- The template of a text without placeholders is the text. -/
theorem fill_nil {sql : String} (bare : (parse sql).placeholderCount = 0) :
    (parse sql).fill [] = sql := by
  have none : (cut code sql.toList).2 = [] :=
    List.eq_nil_of_length_eq_zero ((placeholderCount_parse sql).symm.trans bare)
  have whole := filled_marks code sql.toList
  rw [none] at whole
  have counted : ([] : List String).length = (parse sql).placeholderCount := bare.symm
  rw [← String.toList_inj, toList_fill_parse counted]
  exact whole

/-- The rendered text is made of the fragments of the source and of the literals between them, and
is read accordingly. -/
structure LexicallySafe (fragments literals : List (List Char)) (source rendered : List Char) :
    Prop where
  /-- There is nothing else in the rendered text. -/
  complete : rendered.length = offset fragments literals fragments.length
  /-- Each fragment stands in the source, where every literal is still a question mark. -/
  taken : ∀ i fragment, fragments[i]? = some fragment →
    fragment <+: source.drop (offset fragments (literals.map fun _ => ['?']) i)
  /-- Each fragment stands in the rendered text. -/
  copied : ∀ i fragment, fragments[i]? = some fragment →
    fragment <+: rendered.drop (offset fragments literals i)
  /-- Each character of a fragment is read in the same context in both texts, and so is what comes
  behind the fragment. -/
  same_context : ∀ i fragment, fragments[i]? = some fragment → ∀ k ≤ fragment.length,
    contextAt rendered (offset fragments literals i + k) =
      contextAt source (offset fragments (literals.map fun _ => ['?']) i + k)
  /-- Behind each fragment but the last stands its literal. -/
  inserted : ∀ i fragment text, fragments[i]? = some fragment → literals[i]? = some text →
    text <+: rendered.drop (offset fragments literals i + fragment.length)
  /-- Each literal begins in code. -/
  begins_in_code : ∀ i fragment text, fragments[i]? = some fragment → literals[i]? = some text →
    contextAt rendered (offset fragments literals i + fragment.length) = .code
  /-- Each literal ends in code, with nothing left open that its last character has begun. -/
  ends_in_code : ∀ i fragment text, fragments[i]? = some fragment → literals[i]? = some text →
    stateAt code rendered (offset fragments literals i + fragment.length + text.length) = code

/-- Texts that may be inserted can be, whatever the source. -/
theorem lexicallySafe_filled {source : List Char} {texts : List (List Char)}
    (counted : texts.length = (cut code source).2.length)
    (insertable : ∀ text ∈ texts, Insertable text) :
    LexicallySafe ((cut code source).1 :: (cut code source).2) texts source
      (filled code source texts) := by
  have scans := sideBySide_filled counted insertable (.inl rfl)
  have counted' : (texts.map fun _ => ['?']).length = (cut code source).2.length := by
    rw [List.length_map, counted]
  have woven : weave (cut code source).1 (texts.map fun _ => ['?']) (cut code source).2 = source := by
    have marks := filled_marks code source
    rwa [List.map_const', ← counted, ← List.map_const'] at marks
  constructor
  · rw [filled, length_weave counted]
    rfl
  · intro i fragment atFragment
    have taken := fragment_prefix counted' atFragment
    rwa [woven] at taken
  · intro i fragment atFragment
    exact fragment_prefix counted atFragment
  · intro i fragment atFragment k within
    exact scans.context_eq atFragment within
  · intro i fragment text atFragment atText
    exact text_prefix counted atFragment atText
  · intro i fragment text atFragment atText
    exact scans.context_start atFragment atText
  · intro i fragment text atFragment atText
    rw [← offset_succ atFragment atText]
    exact scans.stateAt_end atText

/-- Rendering a template with one value for each placeholder succeeds and gives a text without
placeholders, in which the literals neither open nor close a quote or a comment of the source. -/
theorem render_lexically_safe (sql : String) (values : List Value)
    (counted : values.length = (parse sql).placeholderCount) :
    ∃ rendered, (parse sql).render values literal = .ok rendered ∧
      (parse rendered).placeholderCount = 0 ∧
      LexicallySafe ((parse sql).fragments.map String.toList) (values.map literalChars)
        sql.toList rendered.toList := by
  refine ⟨(parse sql).fill (values.map literal), by rw [render, if_pos counted], ?_⟩
  have counted' : (values.map literalChars).length = (cut code sql.toList).2.length := by
    rw [List.length_map, counted, placeholderCount_parse]
  have insertable : ∀ text ∈ values.map literalChars, Insertable text := by
    intro text member
    obtain ⟨v, _, rfl⟩ := List.mem_map.mp member
    exact insertable_literalChars v
  have rendered : ((parse sql).fill (values.map literal)).toList =
      filled code sql.toList (values.map literalChars) := by
    rw [toList_fill_parse (by rw [List.length_map, counted]), List.map_map]
    simp [literal, Function.comp_def]
  have scans := sideBySide_filled counted' insertable (.inl rfl)
  rw [placeholderCount_parse, rendered, map_toList_fragments]
  exact ⟨List.length_eq_zero_iff.mpr scans.cut_eq_nil, lexicallySafe_filled counted' insertable⟩

/-- A negative number behind a dash, and a text that ends in a backslash and holds marks. -/
theorem render_lexically_safe_dash :
    [Value.int32 (-5), .string "'?-- \\"].length = (parse "1-? -- ?\n, '?', ?").placeholderCount ∧
      ∃ rendered, (parse "1-? -- ?\n, '?', ?").render [Value.int32 (-5), .string "'?-- \\"] literal =
          .ok rendered ∧
        (parse rendered).placeholderCount = 0 ∧
        LexicallySafe ((parse "1-? -- ?\n, '?', ?").fragments.map String.toList)
          ([Value.int32 (-5), .string "'?-- \\"].map literalChars) "1-? -- ?\n, '?', ?".toList
          rendered.toList := by
  have counted : [Value.int32 (-5), .string "'?-- \\"].length =
      (parse "1-? -- ?\n, '?', ?").placeholderCount := by decide +kernel
  exact ⟨counted, render_lexically_safe _ _ counted⟩

end Template

end SqlProbe.Sql
