import SqlProbe.Proofs.Sql.LiteralText
import SqlProbe.Proofs.Sql.Tokens

/-!
# Decimals in a statement

A decimal goes into a statement without quotes if and only if its text is a number. A number begins
no quoted text and no comment, whatever stands behind it, so a server reads it one character at a
time. Any other text is put between quotes and read as one quoted text.
-/

namespace SqlProbe.Sql

open Token

/-! ### Plain text -/

theorem not_opens_of_isBare {c : Char} (bare : isBare c = true) (behind : List Char) :
    ¬ Opens (c :: behind) := by
  rw [opens_cons_iff]
  rintro (isMark | same | ⟨same, -⟩ | ⟨same, -⟩)
  · have unmarked : marks.any isBare = false := by decide
    exact List.any_eq_false.mp unmarked c isMark bare
  · exact ne_of_isBare bare (by decide) same
  · exact ne_of_isBare bare (by decide) same
  · exact ne_of_isBare bare (by decide) same

theorem not_opens_dash {c : Char} (bare : isBare c = true) (behind : List Char) :
    ¬ Opens ('-' :: c :: behind) := by
  rw [opens_cons_iff]
  rintro (isMark | same | ⟨-, dash, -⟩ | ⟨same, -⟩)
  · exact absurd isMark (by decide)
  · exact absurd same (by decide)
  · exact ne_of_isBare bare (by decide) (Option.some.inj dash)
  · exact absurd same (by decide)

/-- Each character of a plain text is a token. -/
theorem Plain.reads {cs rest : List Char} {tokens : List Token} (plain : Plain cs)
    (reads : Reads rest tokens) : Reads (cs ++ rest) (cs.map .single ++ tokens) := by
  induction plain with
  | nil => exact reads
  | bare bare _ ih => exact .cons (.single (not_opens_of_isBare bare _)) ih
  | dash bare _ ih => exact .cons (.single (not_opens_dash bare _)) ih

theorem Plain.not_mem {cs listed : List Char} (plain : Plain cs)
    (special : listed.all (fun c => !isBare c && c != '-') = true) : ∀ c ∈ listed, c ∉ cs := by
  intro c isListed member
  have apart := List.all_eq_true.mp special c isListed
  rcases plain.isBare_or_dash c member with bare | rfl
  · simp [bare] at apart
  · simp at apart

theorem Plain.isBlank_eq_false {cs : List Char} (plain : Plain cs) :
    ∀ c ∈ cs, Text.isBlank c = false := by
  intro c member
  rcases plain.isBare_or_dash c member with bare | rfl
  · exact isBlank_of_isBare bare
  · decide

theorem Plain.no_dashes {cs : List Char} (plain : Plain cs) : ¬ ['-', '-'] <:+: cs := by
  induction plain with
  | nil => simp
  | bare bare _ ih =>
    rw [List.infix_cons_iff, List.cons_prefix_cons]
    rintro (⟨same, -⟩ | within)
    · exact ne_of_isBare bare (by decide) same.symm
    · exact ih within
  | dash bare _ ih =>
    rw [List.infix_cons_iff, List.cons_prefix_cons, List.cons_prefix_cons]
    rintro (⟨-, same, -⟩ | within)
    · exact ne_of_isBare bare (by decide) same.symm
    · exact ih within

/-- A text that a statement may hold without quotes. It has no blank, no mark of quoted text and no
placeholder, and nothing of what comments begin and end with, except for dashes, of which no two
stand together. In front of any other text it is read one character at a time. -/
structure Harmless (cs : List Char) : Prop where
  visible : ∀ c ∈ cs, Text.isBlank c = false
  unmarked : ∀ mark ∈ marks, mark ∉ cs
  uncommented : ∀ c ∈ ['#', '/', '*'], c ∉ cs
  no_dashes : ¬ ['-', '-'] <:+: cs
  no_placeholder : '?' ∉ cs
  reads : ∀ rest tokens, Reads rest tokens → Reads (cs ++ rest) (cs.map .single ++ tokens)

theorem Plain.harmless {cs : List Char} (plain : Plain cs) : Harmless cs where
  visible := plain.isBlank_eq_false
  unmarked := plain.not_mem (by decide)
  uncommented := plain.not_mem (by decide)
  no_dashes := plain.no_dashes
  no_placeholder := by
    have free := plain.not_mem (show ['?'].all (fun c => !isBare c && c != '-') = true by decide)
    exact free '?' (List.mem_singleton_self _)
  reads _ _ := plain.reads

/-! ### Quoted text -/

theorem Token.Closes.escapeChar {body rest : List Char} (closes : Closes '\'' body rest) (c : Char) :
    Closes '\'' (escapeChar c ++ body) rest := by
  unfold Sql.escapeChar
  split_ifs with backslash mark nul
  · exact .hidden (by decide) closes
  · exact .hidden (by decide) closes
  · exact .hidden (by decide) closes
  · exact .char mark (fun same => absurd same backslash) closes

/-- Text between quotes is one token: none of its own characters closes it, and the last quote
does. -/
theorem leads_quote (cs rest : List Char) : Leads (.quoted (quote cs)) rest := by
  refine .quoted (by decide) ?_
  induction cs with
  | nil => exact .closed rest
  | cons c cs ih =>
    rw [escape_cons, List.append_assoc]
    exact ih.escapeChar c

/-! ### Decimals -/

/-- The check of numerals accepts what the grammar derives, and all of that is harmless. A decimal
is sent without quotes if and only if its text is a numeral, blanks at its ends aside, and these are
left out. Otherwise its text is sent as one quoted text. -/
theorem decimal_unquoted_iff :
    (∀ cs, isNumeral cs = true ↔ Numeral cs) ∧ (∀ cs, Numeral cs → Harmless cs) ∧
      ∀ s : String,
        let trimmed := Text.trim s.toList
        let sent := (literal (.decimal s)).toList
        Numeral trimmed ∧ sent = trimmed ∨
          ¬ Numeral trimmed ∧ sent = quote s.toList ∧ ∀ rest, Leads (.quoted sent) rest := by
  refine ⟨fun _ => isNumeral_iff, fun _ numeral => numeral.plain.harmless, fun s => ?_⟩
  dsimp only
  rw [literal, String.toList_ofList, literalChars]
  simp only [isNumeral_iff]
  by_cases numeral : Numeral (Text.trim s.toList)
  · rw [if_pos numeral]
    exact .inl ⟨numeral, rfl⟩
  · rw [if_neg numeral]
    exact .inr ⟨numeral, rfl, leads_quote s.toList⟩

/-- A number with all of its parts between blanks, and one with digits that are not those of ASCII
and with a comment behind it. -/
theorem decimal_unquoted_iff_exponent :
    Numeral "-.5e-07".toList ∧ Harmless "-.5e-07".toList ∧
      literal (.decimal " -.5e-07\n") = "-.5e-07" ∧
      ¬ Numeral "1e３ -- ?".toList ∧ literal (.decimal "1e３ -- ?") = "'1e３ -- ?'" := by
  obtain ⟨accepts, harmless, sends⟩ := decimal_unquoted_iff
  have numeral : Numeral "-.5e-07".toList := (accepts _).mp (by decide)
  have other : ¬ Numeral "1e３ -- ?".toList := mt (accepts _).mpr (by decide)
  refine ⟨numeral, harmless _ numeral, ?_, other, ?_⟩
  · rcases sends " -.5e-07\n" with ⟨-, sent⟩ | ⟨quoted, -⟩
    · exact String.toList_injective sent
    · exact absurd numeral quoted
  · rcases sends "1e３ -- ?" with ⟨unquoted, -⟩ | ⟨-, sent, -⟩
    · exact absurd unquoted other
    · exact String.toList_injective sent

end SqlProbe.Sql
