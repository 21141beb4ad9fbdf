import SqlProbe.Proofs.Properties.Applying

/-!
# Respelled properties

A recognized name means the same however it is spelled: its spelling is seen in the text of an error
and nowhere else. So two bags that differ in spellings alone are applied in the same order and make
the same changes, or are both refused. All refusals are errors of configuration.
-/

namespace SqlProbe.Properties

/-! ### Refusals -/

/-- Whatever is wrong is wrong with the configuration. -/
def Misconfigured {α : Type} (result : Except Error α) : Prop :=
  ∀ cause, result = .error cause → cause.kind = .configuration

namespace Misconfigured

variable {α β : Type} {result : Except Error α}

theorem ok (value : α) : Misconfigured (.ok value) := nofun

theorem error (detail : String) :
    Misconfigured (.error ⟨.configuration, detail⟩ : Except Error α) := by
  rintro _ ⟨⟩
  rfl

theorem map (wrong : Misconfigured result) (make : α → β) : Misconfigured (result.map make) := by
  cases result with
  | ok value => exact ok _
  | error cause =>
    rintro _ ⟨⟩
    exact wrong cause rfl

/-- Results that say as much when they are refused are the same up to the text of the refusal. -/
theorem mapError_kind_eq {other : Except Error α} (wrong : Misconfigured result)
    (otherWrong : Misconfigured other) (same : result.toOption = other.toOption) :
    result.mapError Error.kind = other.mapError Error.kind := by
  cases result with
  | ok value =>
    cases other with
    | ok => exact congrArg Except.ok (Option.some.inj same)
    | error => cases same
  | error cause =>
    cases other with
    | ok => cases same
    | error => exact congrArg Except.error ((wrong _ rfl).trans (otherWrong _ rfl).symm)

theorem flag (key value : String) : Misconfigured (Properties.flag key value) := by
  unfold Properties.flag
  split
  case h_9 => exact error _
  all_goals exact ok _

theorem timeZone (value : String) : Misconfigured (Properties.timeZone value) := by
  unfold Properties.timeZone
  dsimp only
  split
  · exact error _
  split
  · exact ok _
  · exact error _

theorem characterEncoding (value : String) :
    Misconfigured (Properties.characterEncoding value) := by
  unfold Properties.characterEncoding
  split
  case h_12 => exact error _
  all_goals exact ok _

theorem milliseconds (key value : String) : Misconfigured (Properties.milliseconds key value) := by
  unfold Properties.milliseconds
  split
  · exact error _
  · exact error _
  · exact ok _

theorem tlsMode (value : String) : Misconfigured (Tls.Mode.parse value) := by
  unfold Tls.Mode.parse
  split
  · exact ok _
  · exact error _

theorem changeOf (meaning : Meaning) (key value : String) :
    Misconfigured (Properties.changeOf meaning key value) := by
  cases meaning with
  | user | password | database | sslCa | sslCert | sslKey => exact ok _
  | useSsl | requireSsl | readOnly =>
    rw [Properties.changeOf]
    exact (flag key value).map _
  | sslMode =>
    rw [Properties.changeOf]
    exact (tlsMode value).map _
  | serverTimeZone =>
    rw [Properties.changeOf]
    exact (timeZone value).map _
  | characterEncoding =>
    rw [Properties.changeOf]
    exact (characterEncoding value).map _
  | connectTimeout =>
    rw [Properties.changeOf]
    exact (milliseconds key value).map _

theorem change (entry : String × String) : Misconfigured (Properties.change entry) := by
  unfold Properties.change
  split
  · exact changeOf _ _ _
  · exact ok _

theorem applyTo (bag : Properties) (config : Config) : Misconfigured (bag.applyTo config) := by
  rw [Properties.applyTo]
  generalize bag.ordered = entries
  induction entries generalizing config with
  | nil => exact ok config
  | cons entry entries ih =>
    have wrong := (change entry).map (Change.apply config)
    rw [List.foldlM_cons, applyOne_eq]
    cases stands : (Properties.change entry).map (Change.apply config) with
    | ok next => exact ih next
    | error cause =>
      rintro _ ⟨⟩
      exact wrong cause stands

end Misconfigured

/-! ### Spellings -/

/-- The same property, spelled differently perhaps if its name is recognized. -/
structure Respelled (a b : String × String) : Prop where
  value : a.2 = b.2
  name : normalize a.1 = normalize b.1
  recognized : a.1 ≠ b.1 → (Meaning.ofName? (normalize a.1)).isSome

instance (a b : String × String) : Decidable (Respelled a b) :=
  decidable_of_iff (a.2 = b.2 ∧ normalize a.1 = normalize b.1 ∧
      (a.1 ≠ b.1 → (Meaning.ofName? (normalize a.1)).isSome))
    ⟨fun ⟨value, name, recognized⟩ => ⟨value, name, recognized⟩,
      fun ⟨value, name, recognized⟩ => ⟨value, name, recognized⟩⟩

/-- The properties of two bags correspond one to one, in whatever order they are named. -/
def Corresponding (as bs : List (String × String)) : Prop :=
  ∃ cs, cs.Perm bs ∧ List.Forall₂ Respelled as cs

/-- Each of the properties has a name of its own, whatever the spelling. -/
def NamesApart (entries : List (String × String)) : Prop :=
  entries.Pairwise fun a b => normalize a.1 ≠ normalize b.1

instance (entries : List (String × String)) : Decidable (NamesApart entries) :=
  inferInstanceAs (Decidable (List.Pairwise _ entries))

theorem toOption_flag (key other value : String) :
    (flag key value).toOption = (flag other value).toOption := by
  unfold flag
  split <;> rfl

theorem toOption_milliseconds (key other value : String) :
    (milliseconds key value).toOption = (milliseconds other value).toOption := by
  unfold milliseconds
  split <;> rfl

theorem toOption_map {ε α β : Type} (result : Except ε α) (make : α → β) :
    (result.map make).toOption = result.toOption.map make := by
  cases result <;> rfl

/-- What a property with a meaning changes does not depend on how it is spelled. -/
theorem toOption_changeOf (meaning : Meaning) (key other value : String) :
    (changeOf meaning key value).toOption = (changeOf meaning other value).toOption := by
  cases meaning with
  | useSsl | requireSsl | readOnly =>
    simp only [changeOf, toOption_map, toOption_flag key other]
  | connectTimeout => simp only [changeOf, toOption_map, toOption_milliseconds key other]
  | _ => rfl

theorem Respelled.change {a b : String × String} (respelled : Respelled a b) :
    (Properties.change a).toOption = (Properties.change b).toOption := by
  obtain ⟨key, value⟩ := a
  obtain ⟨other, _⟩ := b
  obtain ⟨rfl, name, recognized⟩ := respelled
  by_cases same : key = other
  · rw [same]
  · obtain ⟨meaning, means⟩ := Option.isSome_iff_exists.mp (recognized same)
    rw [change_of_meaning means, change_of_meaning (name ▸ means)]
    exact toOption_changeOf ..

section
variable {as bs : List (String × String)} (each : List.Forall₂ Respelled as bs)
include each

theorem changes_eq_of_respelled : changes as = changes bs := by
  induction each with
  | nil => rfl
  | cons respelled _ ih => rw [changes, List.filterMap_cons, respelled.change, ← changes, ih]; rfl

theorem accepted_of_respelled : Accepted as ↔ Accepted bs := by
  induction each with
  | nil => exact Iff.rfl
  | cons respelled _ ih =>
    simp only [Accepted, List.forall_mem_cons, respelled.change] at ih ⊢
    exact and_congr_right' ih

/-- A property has the same place beside others under another spelling, as long as no two of them
have the same name. -/
theorem pairwise_place_of_respelled (apart : NamesApart as)
    (placed : as.Pairwise fun a b => place a ≤ place b) :
    bs.Pairwise fun a b => place a ≤ place b := by
  rw [List.pairwise_iff_getElem]
  intro i j iBound jBound before
  have length := each.length_eq
  have iName := (each.get (length ▸ iBound) iBound).name
  have jName := (each.get (length ▸ jBound) jBound).name
  have here := List.pairwise_iff_getElem.mp placed i j (length ▸ iBound) (length ▸ jBound) before
  have other := List.pairwise_iff_getElem.mp apart i j (length ▸ iBound) (length ▸ jBound) before
  simp only [List.get_eq_getElem] at iName jName
  simp only [place_le_iff, iName, jName] at here other ⊢
  rcases here with rank | ⟨rank, name | ⟨name, -⟩⟩
  · exact .inl rank
  · exact .inr ⟨rank, .inl name⟩
  · exact absurd name other

end

/-- Bags that correspond are applied in corresponding order. -/
theorem forall₂_ordered {a b : Properties} (corresponding : Corresponding a.entries b.entries)
    (apart : NamesApart a.entries) : List.Forall₂ Respelled a.ordered b.ordered := by
  obtain ⟨cs, perm, each⟩ := corresponding
  obtain ⟨ds, each, same⟩ := List.perm_comp_forall₂ a.ordered_perm each
  have apart : NamesApart a.ordered := a.ordered_perm.symm.pairwise apart Ne.symm
  rw [ordered_eq (same.trans perm) (pairwise_place_of_respelled each apart a.ordered_pairwise)]
  exact each

/-- Two bags that hold the same properties, however these are spelled and in whatever order they
were set, make the same of every configuration, or are both refused with the same kind of error. -/
theorem applyTo_of_corresponding (config : Config) {a b : Properties}
    (corresponding : Corresponding a.entries b.entries) (apart : NamesApart a.entries) :
    (a.applyTo config).mapError Error.kind = (b.applyTo config).mapError Error.kind := by
  have each := forall₂_ordered corresponding apart
  refine Misconfigured.mapError_kind_eq (.applyTo a config) (.applyTo b config) ?_
  simp only [applyTo_toOption, ← Accepted.perm a.ordered_perm, ← Accepted.perm b.ordered_perm,
    accepted_of_respelled each, changes_eq_of_respelled each]

/-- Three names that choose the security are respelled and set the other way round, beside one that
has no meaning. -/
theorem applyTo_of_corresponding_security :
    let a := ofList
      [("sslMode", "VERIFY_CA"), ("useSSL", "off"), ("sslCa", "/ca"), ("app", "probe")]
    let b := ofList
      [("app", "probe"), ("SSL_CA", "/ca"), ("use-ssl", "off"), ("SslMode", "VERIFY_CA")]
    (Corresponding a.entries b.entries ∧ NamesApart a.entries) ∧
      (a.applyTo .mysqlDefault).mapError Error.kind =
        (b.applyTo .mysqlDefault).mapError Error.kind := by
  intro a b
  have corresponding : Corresponding a.entries b.entries :=
    ⟨[("app", "probe"), ("SSL_CA", "/ca"), ("SslMode", "VERIFY_CA"), ("use-ssl", "off")],
      by decide, by decide⟩
  have apart : NamesApart a.entries := by decide
  exact ⟨⟨corresponding, apart⟩, applyTo_of_corresponding .mysqlDefault corresponding apart⟩

end SqlProbe.Properties
