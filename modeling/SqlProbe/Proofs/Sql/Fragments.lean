import SqlProbe.Proofs.Sql.Rendering

/-!
# Templates lose nothing

Every character of a text ends up in one fragment of its template, except the placeholders, and each
of these ends one fragment and begins another: every branch of the pass over the text keeps the
characters that it takes. What is rendered is made of the fragments and of the literals in turn, so
a question mark that a literal brings along is text like any other.
-/

namespace SqlProbe.Sql.Template

/-- The question marks of a text that the scanner meets in code. -/
def marks (sql : String) : Nat := ((Scan.code.trace sql.toList).zip sql.toList).count (.code, '?')

/-- The items of two lists in turn, beginning with the first. What one list has more stands at the
end. -/
def interleave : List String → List String → List String
  | fragment :: fragments, text :: texts => fragment :: text :: interleave fragments texts
  | fragments, [] => fragments
  | [], texts => texts

theorem length_cut (state : Scan) (cs : List Char) :
    (cut state cs).2.length = ((state.trace cs).zip cs).count (.code, '?') := by
  induction cs generalizing state with
  | nil => rfl
  | cons c cs ih =>
    have placeholder : state.isPlaceholder c = ((state, c) == (Scan.code, '?')) := rfl
    rw [Scan.trace, List.zip_cons_cons, List.count_cons, ← ih, ← placeholder]
    cases found : state.isPlaceholder c <;> simp [cut, found]

theorem placeholderCount_eq_marks (sql : String) : (parse sql).placeholderCount = marks sql := by
  rw [placeholderCount_parse, length_cut, marks]

/-! ### The pass over a text -/

/-- What is copied from the text to the fragment that is being read is not lost. -/
theorem intercalate_push (done : List String) (current : String) (c : Char) (cs : List Char) :
    "?".intercalate (done ++ [current.push c]) ++ String.ofList cs =
      "?".intercalate (done ++ [current]) ++ String.ofList (c :: cs) := by
  rw [← String.toList_inj]
  cases done with
  | nil => simp
  | cons first rest =>
    rw [String.intercalate_append_of_ne_nil (by simp) (by simp),
      String.intercalate_append_of_ne_nil (by simp) (by simp)]
    simp

/-- The mark that ends a fragment stands between this one and the next. -/
theorem intercalate_end (done : List String) (current : String) (cs : List Char) :
    "?".intercalate (done ++ [current] ++ [""]) ++ String.ofList cs =
      "?".intercalate (done ++ [current]) ++ String.ofList ('?' :: cs) := by
  rw [String.intercalate_append_of_ne_nil (by simp) (by simp), String.intercalate_singleton,
    ← String.toList_inj]
  simp

/-- Every branch of the pass keeps what it takes from the text, one character or two. -/
theorem intercalate_scan (context : Context) (done : List String) (current : String)
    (cs : List Char) : "?".intercalate (scan context done current cs) =
      "?".intercalate (done ++ [current]) ++ String.ofList cs := by
  have both (done : List String) (current : String) (c d : Char) (cs : List Char) :
      "?".intercalate (done ++ [(current.push c).push d]) ++ String.ofList cs =
        "?".intercalate (done ++ [current]) ++ String.ofList (c :: d :: cs) :=
    (intercalate_push ..).trans (intercalate_push ..)
  fun_induction scan context done current cs with
  | case1 => simp
  | case2 done current cs ended => exact ended.trans (intercalate_end ..)
  | case3 _ _ _ _ _ _ _ quoted => exact quoted.trans (intercalate_push ..)
  | case4 _ _ _ _ _ comment => exact comment.trans (intercalate_push ..)
  | case5 _ _ _ _ _ _ dashes => exact dashes.trans (both ..)
  | case6 _ _ _ _ _ _ comment => exact comment.trans (both ..)
  | case7 _ _ _ _ _ _ _ _ _ code => exact code.trans (intercalate_push ..)
  | case8 _ _ _ _ _ backslash => exact backslash.trans (intercalate_push ..)
  | case9 _ _ _ _ _ _ _ hidden => exact hidden.trans (both ..)
  | case10 _ _ _ _ _ _ quoted => exact quoted.trans (intercalate_push ..)
  | case11 _ _ _ _ comment => exact comment.trans (intercalate_push ..)
  | case12 _ _ _ code => exact code.trans (both ..)
  | case13 _ _ _ _ _ comment => exact comment.trans (intercalate_push ..)

theorem intercalate_parse (sql : String) : "?".intercalate (parse sql).fragments = sql := by
  have pass := intercalate_scan .code [] "" sql.toList
  simpa [parse] using pass

theorem exists_fragments (sql : String) : ∃ first rest, parse sql = ⟨sql, first :: rest⟩ ∧
    rest.length = (parse sql).placeholderCount := by
  refine ⟨_, _, congrArg (Template.mk sql) (fragments_parse sql), ?_⟩
  rw [List.length_map, placeholderCount_parse]

/-! ### What is rendered -/

/-- Filling puts the texts between the fragments. -/
theorem join_interleave (sql first : String) {texts rest : List String}
    (counted : texts.length = rest.length) :
    String.join (interleave (first :: rest) texts) = fill ⟨sql, first :: rest⟩ texts := by
  induction texts generalizing first rest with
  | nil =>
    obtain rfl := List.eq_nil_of_length_eq_zero counted.symm
    simp [interleave, fill]
  | cons text texts ih =>
    obtain ⟨next, rest, rfl⟩ := List.exists_cons_of_length_eq_add_one counted.symm
    have tail := ih next (Nat.succ.inj counted)
    rw [interleave, String.join_cons, String.join_cons, tail, fill_cons_cons]

/-- Joining the fragments is filling the template with the text that joins them. -/
theorem intercalate_fragments (between sql first : String) (rest : List String) :
    between.intercalate (first :: rest) =
      fill ⟨sql, first :: rest⟩ (List.replicate rest.length between) := by
  induction rest generalizing first with
  | nil => simp [fill]
  | cons next rest ih =>
    rw [String.intercalate_cons_cons, ih, List.length_cons, List.replicate_succ, fill_cons_cons,
      String.append_assoc]

/-- A template that all of a text is in. -/
structure Lossless (template : Template) (sql : String) : Prop where
  /-- The placeholders are the question marks in code, and there is one fragment more. -/
  counted : template.placeholderCount = marks sql ∧ template.fragments.length = marks sql + 1
  /-- Question marks between the fragments make up the text. -/
  joined : "?".intercalate template.fragments = sql
  kept : template.sql = sql
  /-- The literals stand between the fragments as they are, whatever they are made of. -/
  rendered : ∀ {α : Type} (params : List α) (literal : α → String),
    template.render params literal =
      if params.length = template.placeholderCount then
        .ok (String.join (interleave template.fragments (params.map literal)))
      else .error (countMismatch template.placeholderCount params.length)
  /-- Nothing but the number of parameters can be wrong. -/
  renders_iff : ∀ {α : Type} (params : List α) (literal : α → String),
    (∃ text, template.render params literal = .ok text) ↔
      params.length = template.placeholderCount
  /-- Question marks for parameters give the text back. -/
  restored : ∀ {α : Type} (params : List α), template.render params (fun _ => "?") =
    if params.length = template.placeholderCount then .ok sql
    else .error (countMismatch template.placeholderCount params.length)

/-- The template of a text loses nothing of it, and rendering puts in nothing but the literals. -/
theorem parse_lossless (sql : String) : Lossless (parse sql) sql where
  counted := by
    have count := placeholderCount_eq_marks sql
    obtain ⟨first, rest, parsed, length⟩ := exists_fragments sql
    refine ⟨count, ?_⟩
    rw [← count, ← length, parsed]
    rfl
  joined := intercalate_parse sql
  kept := rfl
  rendered params literal := by
    unfold render
    split
    · next counted =>
      obtain ⟨first, rest, parsed, length⟩ := exists_fragments sql
      have counted : (params.map literal).length = rest.length := by
        rw [List.length_map, counted, length]
      rw [parsed]
      exact congrArg Except.ok (join_interleave sql first counted).symm
    · rfl
  renders_iff params literal := by
    unfold render
    split
    · next counted => exact ⟨fun _ => counted, fun _ => ⟨_, rfl⟩⟩
    · next other => exact ⟨by rintro ⟨_, ⟨⟩⟩, fun counted => absurd counted other⟩
  restored params := by
    unfold render
    split
    · next counted =>
      obtain ⟨first, rest, parsed, length⟩ := exists_fragments sql
      have joined := intercalate_parse sql
      rw [List.map_const', counted, ← length]
      rw [parsed] at joined ⊢
      exact congrArg Except.ok ((intercalate_fragments "?" sql first rest).symm.trans joined)
    · rfl

/-- A comment that ends where a placeholder begins, and a quote that a backslash leaves open. -/
example : (parse "?/*?*/?'\\").render ["'?'", "--?"] id = .ok "'?'/*?*/--?'\\" := by
  decide +kernel

end SqlProbe.Sql.Template
