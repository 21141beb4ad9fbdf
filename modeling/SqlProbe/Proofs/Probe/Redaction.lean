import SqlProbe.Proofs.Probe.Steps

/-!
# What is shown of passwords

Showing a bag and applying it each decide for themselves which property is the password: applying
passes over case, hyphens and underscores, showing passes over case alone. So two bags that differ in
nothing but passwords, whose masks are equally long, can be told apart exactly by a password under a
name that is not written in the letters of its own name.
-/

namespace SqlProbe.Properties

/-- Under this name a property is applied as the password. -/
def NamesPassword (key : String) : Prop := Meaning.ofName? (normalize key) = some .password

instance (key : String) : Decidable (NamesPassword key) := inferInstanceAs (Decidable (_ = _))

/-- Two texts are equally long, or both as long as a mask can tell. -/
def AsLong (v w : String) : Prop :=
  v.utf8ByteSize = w.utf8ByteSize ∨ 8 ≤ v.utf8ByteSize ∧ 8 ≤ w.utf8ByteSize

instance (v w : String) : Decidable (AsLong v w) := inferInstanceAs (Decidable (_ ∨ _))

/-- Two bags differ at most in passwords, and there only by what a mask does not tell. -/
structure DifferInPasswords (a b : Properties) : Prop where
  names : a.entries.map Prod.fst = b.entries.map Prod.fst
  values : ∀ x ∈ a.entries, ∀ y ∈ b.entries, x.1 = y.1 →
    x.2 = y.2 ∨ NamesPassword x.1 ∧ AsLong x.2 y.2

theorem mask_eq_of_asLong {v w : String} (alike : AsLong v w) : mask v = mask w := by
  rw [mask, mask, show min v.utf8ByteSize 8 = min w.utf8ByteSize 8 by unfold AsLong at alike; omega]

/-- The value of a property as it is shown. -/
def shown (key value : String) : String :=
  if Text.SameLetters key "password" then mask value else value

theorem map_eq_of_names {α : Type} {f : String × String → α} {l m : List (String × String)}
    (names : l.map Prod.fst = m.map Prod.fst)
    (same : ∀ x ∈ l, ∀ y ∈ m, x.1 = y.1 → f x = f y) : l.map f = m.map f := by
  induction l generalizing m with
  | nil => rw [List.map_eq_nil_iff.mp names.symm]
  | cons x l ih =>
    obtain ⟨y, m, rfl, name, rest⟩ := List.map_eq_cons_iff.mp names.symm
    rw [List.map_cons, List.map_cons, same x List.mem_cons_self y List.mem_cons_self name.symm,
      ih rest.symm fun x one y other =>
        same x (List.mem_cons_of_mem _ one) y (List.mem_cons_of_mem _ other)]

namespace DifferInPasswords

variable {a b : Properties}

theorem symm (differ : DifferInPasswords a b) : DifferInPasswords b a where
  names := differ.names.symm
  values x one y other name := by
    rw [name]
    exact (differ.values y other x one name.symm).imp Eq.symm
      (And.imp_right (Or.imp Eq.symm And.symm))

theorem accepted (differ : DifferInPasswords a b) (accepted : Accepted a.entries) :
    Accepted b.entries := by
  intro y other
  have name : y.1 ∈ a.entries.map Prod.fst := differ.names ▸ List.mem_map_of_mem other
  obtain ⟨x, one, name⟩ := List.mem_map.mp name
  rcases differ.values x one y other name with value | ⟨password, -⟩
  · exact Prod.ext name value ▸ accepted x one
  · rw [name] at password
    rw [change_of_meaning password]
    rfl

/-- The bags look the same exactly if what they show of each property is the same. -/
theorem redacted_eq_iff (differ : DifferInPasswords a b) : a.redacted = b.redacted ↔
    ∀ x ∈ a.entries, ∀ y ∈ b.entries, x.1 = y.1 → shown x.1 x.2 = shown y.1 y.2 := by
  constructor
  · intro same x one y other name
    have seen : (x.1, shown x.1 x.2) ∈ b.redacted := same ▸ List.mem_map_of_mem one
    obtain ⟨z, inside, seen⟩ := List.mem_map.mp seen
    obtain ⟨zName, seen⟩ := Prod.mk.inj seen
    have same : z = y := eq_of_sameLetters inside other (by rw [zName, name, Text.SameLetters])
    rw [← same]
    exact seen.symm
  · exact fun same => map_eq_of_names differ.names fun x one y other name =>
      Prod.ext name (same x one y other name)

end DifferInPasswords

/-- Bags that differ in passwords alone look the same, as entries, as text and as a step of the
probe, exactly if the passwords that differ stand under the letters of that name. -/
theorem look_same_iff {a b : Properties} (differ : DifferInPasswords a b) :
    (a.redacted = b.redacted ∧ a.text = b.text ∧
      ∀ (σ : Type) (driver : Driver σ) (c d : Probe.Context) (s t : σ),
        Probe.standardProperties c = a → Probe.standardProperties d = b →
          (Probe.run driver c .properties s).1.step? "Properties" =
            (Probe.run driver d .properties t).1.step? "Properties") ↔
    ∀ x ∈ a.entries, ∀ y ∈ b.entries, x.1 = y.1 → NamesPassword x.1 →
      ¬ Text.SameLetters x.1 "password" → x.2 = y.2 := by
  constructor
  · rintro ⟨same, -⟩ x one y other name - letters
    have seen := differ.redacted_eq_iff.mp same x one y other name
    rwa [← name, shown, shown, if_neg letters, if_neg letters] at seen
  · intro alike
    have same : a.redacted = b.redacted := by
      refine differ.redacted_eq_iff.mpr fun x one y other name => ?_
      rw [← name]
      rcases differ.values x one y other name with value | ⟨password, long⟩
      · rw [value]
      · by_cases letters : Text.SameLetters x.1 "password"
        · rw [shown, shown, if_pos letters, if_pos letters, mask_eq_of_asLong long]
        · rw [alike x one y other name password letters]
    refine ⟨same, by rw [text, text, same], ?_⟩
    rintro σ driver c d s t rfl rfl
    have accepted : Accepted (Probe.standardProperties c).entries ↔
        Accepted (Probe.standardProperties d).entries := ⟨differ.accepted, differ.symm.accepted⟩
    rw [Probe.step?_properties, Probe.step?_properties]
    simp only [accepted, Probe.propertiesText, same]

/-- Two runs of the probe with other passwords, in which an extra property changes nothing. -/
theorem look_same_iff_credentials :
    let context (password : String) : Probe.Context :=
      { base := (Config.mysql "localhost" 3307 "test" "root").withCredentials "root" password
        users := [], extra := ofList [("read-only", "yes")], pool := {}, health := {} }
    let a := Probe.standardProperties (context "hunter22")
    let b := Probe.standardProperties (context "swordfish")
    DifferInPasswords a b ∧ a.redacted = b.redacted ∧ a.text = b.text ∧
      ∀ (σ : Type) (driver : Driver σ) (s t : σ),
        (Probe.run driver (context "hunter22") .properties s).1.step? "Properties" =
          (Probe.run driver (context "swordfish") .properties t).1.step? "Properties" := by
  intro context a b
  have differ : DifferInPasswords a b := ⟨by decide +zetaReduce, by decide +zetaReduce⟩
  obtain ⟨entries, text, step⟩ := (look_same_iff differ).mpr (by decide +zetaReduce)
  exact ⟨differ, entries, text, fun σ driver s t => step σ driver _ _ s t rfl rfl⟩

/-- A password under a name with an underscore is shown as it is. -/
theorem underscored_password_is_shown :
    let a := ofList [("pass_word", "hunter22")]
    let b := ofList [("pass_word", "swordfish")]
    DifferInPasswords a b ∧ a.redacted ≠ b.redacted :=
  ⟨⟨by decide, by decide⟩, by decide⟩

end SqlProbe.Properties
