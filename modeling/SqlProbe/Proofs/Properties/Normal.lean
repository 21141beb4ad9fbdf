import SqlProbe.Proofs.Properties.Spelling
import SqlProbe.Proofs.Text.Cut
import SqlProbe.Proofs.Text.Visible

/-!
# Normal forms of session properties

Time zones, character encodings and the read-only flag are stored in one form. The forms of time
zones are told apart by how they begin: a sign begins an offset, and what has no sign is the name of
Coordinated Universal Time or of a region. Each form is read by the branch that writes it, and is
written as it stands, so a stored text that is given back is stored as the same text.
-/

namespace SqlProbe.Properties

/-! ### Time zones -/

/-- A number below 100 in two decimal digits. -/
def twoDigits (n : Nat) : List Char := [Nat.digitChar (n / 10), Nat.digitChar (n % 10)]

/-- The text is a name of Coordinated Universal Time. -/
def NamesUtc (zone : List Char) : Prop :=
  Text.lower zone = ['u', 't', 'c'] ∨ Text.lower zone = ['g', 'm', 't'] ∨ zone = ['Z']

instance (zone : List Char) : Decidable (NamesUtc zone) :=
  inferInstanceAs (Decidable (_ ∨ _ ∨ _))

/-- The forms in which time zones are stored. -/
inductive ZoneForm : List Char → Prop
  | utc : ZoneForm ['U', 'T', 'C']
  | offset {sign : Char} (signed : sign = '+' ∨ sign = '-') {hours minutes : Nat}
    (few : hours ≤ 14) (within : minutes ≤ 59) :
    ZoneForm (sign :: (twoDigits hours ++ ':' :: twoDigits minutes))
  /-- Names of Coordinated Universal Time are no names of regions. -/
  | region {name : List Char} (nonempty : name ≠ [])
    (characters : ∀ c ∈ name, c.isAlphanum = true ∨ c ∈ ['/', '_', '-', '+'])
    (unsigned : name.head? ≠ some '+' ∧ name.head? ≠ some '-') (other : ¬ NamesUtc name) :
    ZoneForm name

theorem padded_eq_twoDigits {n : Nat} (small : n < 60) : Text.padded 2 n = twoDigits n := by
  revert n
  decide

theorem natural?_twoDigits {n : Nat} (small : n < 60) : Text.natural? 255 (twoDigits n) = some n := by
  revert n
  decide

theorem colon_not_mem_twoDigits {n : Nat} (small : n < 60) : ':' ∉ twoDigits n := by
  revert n
  decide

theorem all_isVisible_twoDigits {n : Nat} (small : n < 60) :
    (twoDigits n).all Text.isVisible = true := by
  revert n
  decide

theorem zoneOffset?_eq_some {sign : Char} {rest form : List Char}
    (read : zoneOffset? sign rest = some form) : ∃ hours ≤ 14, ∃ minutes ≤ 59,
      form = sign :: (twoDigits hours ++ ':' :: twoDigits minutes) := by
  simp only [zoneOffset?, Option.bind_eq_bind, Option.bind_eq_some_iff] at read
  obtain ⟨hours, -, minutes, -, read⟩ := read
  split at read
  · contradiction
  · next bounded =>
    obtain ⟨few, within⟩ := not_or.mp bounded
    rw [Nat.not_lt] at few within
    rw [padded_eq_twoDigits (by omega), padded_eq_twoDigits (by omega)] at read
    exact ⟨hours, few, minutes, within, (Option.some.inj read).symm⟩

theorem zoneOffset?_twoDigits (sign : Char) {hours minutes : Nat} (few : hours ≤ 14)
    (within : minutes ≤ 59) : zoneOffset? sign (twoDigits hours ++ ':' :: twoDigits minutes) =
      some (sign :: (twoDigits hours ++ ':' :: twoDigits minutes)) := by
  have cut := Text.cutAt?_append_cons (colon_not_mem_twoDigits (show hours < 60 by omega))
    (twoDigits minutes)
  have bounded : ¬ (14 < hours ∨ 59 < minutes) := by omega
  simp [zoneOffset?, cut, natural?_twoDigits (show hours < 60 by omega),
    natural?_twoDigits (show minutes < 60 by omega), bounded,
    padded_eq_twoDigits (show hours < 60 by omega), padded_eq_twoDigits (show minutes < 60 by omega)]

theorem isRegionChar_iff {c : Char} :
    isRegionChar c = true ↔ c.isAlphanum = true ∨ c ∈ ['/', '_', '-', '+'] := by
  simp [isRegionChar, or_assoc]

theorem zoneForm?_of_namesUtc {zone : List Char} (utc : NamesUtc zone) :
    zoneForm? zone = some ['U', 'T', 'C'] := if_pos utc

theorem zoneForm?_signed {sign : Char} (signed : sign = '+' ∨ sign = '-') (rest : List Char) :
    zoneForm? (sign :: rest) = zoneOffset? sign rest := by
  have other : ¬ NamesUtc (sign :: rest) := by
    rcases signed with rfl | rfl <;> simp [NamesUtc, Text.lower]
  unfold zoneForm?
  rw [if_neg (show ¬ (_ ∨ _ ∨ _) from other)]
  rcases signed with rfl | rfl <;> rfl

theorem zoneForm?_unsigned {zone : List Char} (other : ¬ NamesUtc zone)
    (unsigned : zone.head? ≠ some '+' ∧ zone.head? ≠ some '-') :
    zoneForm? zone = if zone.all isRegionChar then some zone else none := by
  unfold zoneForm?
  rw [if_neg (show ¬ (_ ∨ _ ∨ _) from other)]
  split
  · exact absurd rfl unsigned.1
  · exact absurd rfl unsigned.2
  · rfl

/-- What is written for a time zone is one of the forms. -/
theorem zoneForm_of_zoneForm? {zone form : List Char} (nonempty : zone ≠ [])
    (read : zoneForm? zone = some form) : ZoneForm form := by
  by_cases utc : NamesUtc zone
  · rw [zoneForm?_of_namesUtc utc] at read
    cases read
    exact .utc
  obtain ⟨first, rest, rfl⟩ := List.exists_cons_of_ne_nil nonempty
  by_cases signed : first = '+' ∨ first = '-'
  · rw [zoneForm?_signed signed] at read
    obtain ⟨hours, few, minutes, within, rfl⟩ := zoneOffset?_eq_some read
    exact .offset signed few within
  · have unsigned : (first :: rest).head? ≠ some '+' ∧ (first :: rest).head? ≠ some '-' := by
      simpa using signed
    rw [zoneForm?_unsigned utc unsigned] at read
    split at read
    · next characters =>
      cases read
      refine .region nonempty ?_ unsigned utc
      intro c member
      exact isRegionChar_iff.mp (List.all_eq_true.mp characters c member)
    · contradiction

namespace ZoneForm

variable {form : List Char} (stored : ZoneForm form)
include stored

/-- Each form is written as it stands. -/
theorem zoneForm?_eq : zoneForm? form = some form := by
  cases stored with
  | utc => rfl
  | offset signed few within => rw [zoneForm?_signed signed, zoneOffset?_twoDigits _ few within]
  | region nonempty characters unsigned other =>
    have all : form.all isRegionChar = true :=
      List.all_eq_true.mpr fun c member => isRegionChar_iff.mpr (characters c member)
    rw [zoneForm?_unsigned other unsigned, if_pos all]

theorem all_isVisible : form.all Text.isVisible = true := by
  cases stored with
  | utc => rfl
  | offset signed few within =>
    rw [List.all_cons, List.all_append, List.all_cons, all_isVisible_twoDigits (by omega),
      all_isVisible_twoDigits (by omega)]
    rcases signed with rfl | rfl <;> rfl
  | region nonempty characters =>
    have marks : ['/', '_', '-', '+'].all Text.isVisible = true := rfl
    apply List.all_eq_true.mpr
    intro c member
    rcases characters c member with alphanum | mark
    · exact Text.isVisible_of_isAlphanum alphanum
    · exact List.all_eq_true.mp marks c mark

theorem ne_nil : form ≠ [] := by
  cases stored with
  | utc | offset => apply List.cons_ne_nil
  | region nonempty => exact nonempty

end ZoneForm

theorem timeZone_eq_ok_iff {value stored : String} : timeZone value = .ok stored ↔
    Text.trim value.toList ≠ [] ∧ zoneForm? (Text.trim value.toList) = some stored.toList := by
  rw [timeZone]
  split
  · next empty => simp [empty]
  · next given =>
    cases zoneForm? (Text.trim value.toList) with
    | none => simp
    | some form => simp [given, ← String.toList_inj]

theorem timeZone_stored {value stored : String} (read : timeZone value = .ok stored) :
    ZoneForm stored.toList ∧ timeZone stored = .ok stored := by
  obtain ⟨nonempty, written⟩ := timeZone_eq_ok_iff.mp read
  have form := zoneForm_of_zoneForm? nonempty written
  refine ⟨form, timeZone_eq_ok_iff.mpr ?_⟩
  rw [Text.trim_of_visible (List.all_eq_true.mp form.all_isVisible)]
  exact ⟨form.ne_nil, form.zoneForm?_eq⟩

/-! ### Character encodings and flags -/

/-- The names that character encodings are stored under. -/
def encodingNames : List String := ["utf8", "utf8mb4", "latin1", "ascii", "binary"]

theorem mem_encodingNames {value stored : String} (read : characterEncoding value = .ok stored) :
    stored ∈ encodingNames := by
  unfold characterEncoding at read
  split at read <;> cases read <;> decide

theorem characterEncoding_of_mem : ∀ name ∈ encodingNames, characterEncoding name = .ok name := by
  simp only [encodingNames, List.forall_mem_cons]
  refine ⟨rfl, rfl, rfl, rfl, rfl, ?_⟩
  intro name member
  cases member

theorem flag_stored (key : String) (on : Bool) :
    flag key (if on then "true" else "false") = .ok on := by
  cases on <;> rfl

/-! ### Stored properties -/

/-- A stored text that is given back is stored again, and as a time zone it is one of the forms. -/
theorem changeOf_stored {meaning : Meaning} {name key value : String} {made : Change}
    (session : meaning.slot? = some (.param name)) (stands : changeOf meaning key value = .ok made) :
    ∃ stored, made = .param name stored ∧ (meaning = .serverTimeZone → ZoneForm stored.toList) ∧
      ∀ spelling, changeOf meaning spelling stored = .ok (.param name stored) := by
  cases meaning with
  | serverTimeZone =>
    cases session
    obtain ⟨stored, read, rfl⟩ := exists_of_map stands
    obtain ⟨form, again⟩ := timeZone_stored read
    refine ⟨stored, rfl, fun _ => form, fun spelling => ?_⟩
    rw [changeOf, again]
    rfl
  | characterEncoding =>
    cases session
    obtain ⟨stored, read, rfl⟩ := exists_of_map stands
    refine ⟨stored, rfl, ?_, fun spelling => ?_⟩
    · intro zone
      cases zone
    · rw [changeOf, characterEncoding_of_mem stored (mem_encodingNames read)]
      rfl
  | readOnly =>
    cases session
    obtain ⟨on, -, rfl⟩ := exists_of_map stands
    refine ⟨_, rfl, ?_, fun spelling => ?_⟩
    · intro zone
      cases zone
    · rw [changeOf, flag_stored]
      rfl
  | _ => cases session

theorem applyTo_singleton (entry : String × String) (config : Config) :
    (ofList [entry]).applyTo config = (change entry).map (Change.apply config) := by
  have order : (ofList [entry]).ordered = [entry] := List.mergeSort_singleton ..
  rw [applyTo, order, List.foldlM_cons, applyOne_eq]
  cases change entry <;> rfl

/-- A session property stores one text and changes nothing else. For a time zone the text is one of
its forms. Giving it back as the same property, in whatever spelling and on top of whatever
configuration, is accepted and stores the same text. -/
theorem stored_again {meaning : Meaning} {name : String}
    (session : meaning.slot? = some (.param name)) {key value : String}
    (means : Meaning.ofName? (normalize key) = some meaning) {config result : Config}
    (applied : (ofList [(key, value)]).applyTo config = .ok result) :
    ∃ stored, result = { config with params := config.params.insert name stored } ∧
      (meaning = .serverTimeZone → ZoneForm stored.toList) ∧
      ∀ (spelling : String) (other : Config), normalize spelling = normalize key →
        (ofList [(spelling, stored)]).applyTo other =
          .ok { other with params := other.params.insert name stored } := by
  rw [applyTo_singleton, change_of_meaning means] at applied
  obtain ⟨made, stands, rfl⟩ := exists_of_map applied
  obtain ⟨stored, rfl, form, again⟩ := changeOf_stored session stands
  refine ⟨stored, rfl, form, fun spelling other same => ?_⟩
  rw [applyTo_singleton, change_of_meaning (same ▸ means), again]
  rfl

/-- A second plus sign and a missing zero are read, and not stored. -/
theorem stored_again_offset :
    let result :=
      { Config.mysqlDefault with params := SortedMap.ofList [(timeZoneParam, "+08:05")] }
    (Meaning.slot? .serverTimeZone = some (.param timeZoneParam) ∧
      Meaning.ofName? (normalize "SERVER-TIME_ZONE") = some .serverTimeZone ∧
      (ofList [("SERVER-TIME_ZONE", " ++8:5 ")]).applyTo .mysqlDefault = .ok result) ∧
    ZoneForm "+08:05".toList ∧
      (ofList [(timeZoneParam, "+08:05")]).applyTo result = .ok result := by
  intro result
  have means : Meaning.ofName? (normalize "SERVER-TIME_ZONE") = some .serverTimeZone := by decide
  have applied : (ofList [("SERVER-TIME_ZONE", " ++8:5 ")]).applyTo .mysqlDefault = .ok result := by
    rw [applyTo_singleton]
    decide
  refine ⟨⟨rfl, means, applied⟩, ?_⟩
  obtain ⟨stored, same, form, again⟩ := stored_again rfl means applied
  have held : result.params.get? timeZoneParam = some stored :=
    (congrArg (fun config => config.params.get? timeZoneParam) same).trans
      ((SortedMap.get?_insert ..).trans (if_pos rfl))
  have text : result.params.get? timeZoneParam = some "+08:05" := by decide
  obtain rfl : "+08:05" = stored := Option.some.inj (text.symm.trans held)
  exact ⟨form rfl, again timeZoneParam result (by decide)⟩

end SqlProbe.Properties
