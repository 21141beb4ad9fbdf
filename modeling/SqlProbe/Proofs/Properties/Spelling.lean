import SqlProbe.Proofs.Properties.Applying

/-!
# Several spellings of one property

A bag may hold one property in several spellings. They are applied next to each other in the order of
their keys, so the greatest key settles what the property means, and properties that leave a part of
the configuration alone can be left out without changing it.
-/

namespace SqlProbe.Properties

/-! ### Meanings and slots -/

/-- The slot that a property with a meaning settles. -/
def Meaning.slot? : Meaning → Option Slot
  | user => some .username
  | password => some .password
  | serverTimeZone => some (.param timeZoneParam)
  | characterEncoding => some (.param encodingParam)
  | readOnly => some (.param readOnlyParam)
  | _ => none

/-- The meaning of the properties that settle a slot, if they have one. -/
def Slot.meaning? : Slot → Option Meaning
  | username => some .user
  | password => some .password
  | param key => Meaning.ofName? (normalize key)

theorem Meaning.meaning?_of_slot? {meaning : Meaning} {slot : Slot}
    (settles : meaning.slot? = some slot) : slot.meaning? = some meaning := by
  cases meaning <;> cases settles <;> decide

/-- Except for a database a meaning has one name. -/
theorem Meaning.eq_of_ofName? {a b : String} {meaning : Meaning} (one : ofName? a = some meaning)
    (other : ofName? b = some meaning) (single : meaning ≠ .database) : a = b := by
  unfold ofName? at one other
  split at one <;> cases one
  all_goals first | contradiction | skip
  all_goals
    split at other <;> first | rfl | cases other

/-- A property puts something into the slot that its meaning settles, and into no other. -/
theorem put?_isSome_iff_slot? {meaning : Meaning} {key value : String} {made : Change} {slot : Slot}
    (stands : changeOf meaning key value = .ok made) :
    (slot.put? made).isSome ↔ meaning.slot? = some slot := by
  cases meaning with
  | user | password | database | sslCa | sslCert | sslKey =>
    cases stands
    cases slot <;> simp [Slot.put?, Change.username?, Change.password?, Change.param?, Meaning.slot?]
  | _ =>
    rw [changeOf] at stands
    obtain ⟨form, -, rfl⟩ := exists_of_map stands
    cases slot <;> simp [Slot.put?, Change.username?, Change.password?, Change.param?, Meaning.slot?]

/-- A property that puts something into a slot has the meaning that settles it. -/
theorem meaning?_of_put? {entry : String × String} {made : Change} {slot : Slot}
    (stands : change entry = .ok made) (puts : (slot.put? made).isSome) :
    slot.meaning? = Meaning.ofName? (normalize entry.1) := by
  unfold change at stands
  split at stands
  · next meaning means =>
    rw [means]
    exact Meaning.meaning?_of_slot? ((put?_isSome_iff_slot? stands).mp puts)
  · next means =>
    cases stands
    cases slot with
    | param key =>
      obtain rfl : entry.1 = key := by simpa [Slot.put?, Change.param?] using puts
      rfl
    | _ => cases puts

section
variable {meaning : Meaning} {slot : Slot} (settles : meaning.slot? = some slot)
include settles

theorem put?_isSome_iff {name : String} (means : Meaning.ofName? name = some meaning)
    {entry : String × String} {made : Change} (stands : change entry = .ok made) :
    (slot.put? made).isSome ↔ normalize entry.1 = name := by
  constructor
  · intro puts
    have own := (meaning?_of_put? stands puts).symm.trans (Meaning.meaning?_of_slot? settles)
    refine Meaning.eq_of_ofName? own means ?_
    rintro rfl
    cases settles
  · rintro rfl
    rw [change_of_meaning means] at stands
    exact (put?_isSome_iff_slot? stands).mpr settles

/-- Properties of one meaning that put the same into their slot are the same change. -/
theorem eq_of_put?_eq {key value key' value' : String} {one other : Change}
    (first : changeOf meaning key value = .ok one) (second : changeOf meaning key' value' = .ok other)
    (same : slot.put? one = slot.put? other) : one = other := by
  cases meaning with
  | user | password =>
    cases settles; cases first; cases second
    exact congrArg _ (Option.some.inj same)
  | serverTimeZone | characterEncoding | readOnly =>
    cases settles
    rw [changeOf] at first second
    obtain ⟨form, -, rfl⟩ := exists_of_map first
    obtain ⟨form', -, rfl⟩ := exists_of_map second
    rw [Slot.put?_param, Slot.put?_param] at same
    exact congrArg _ (Option.some.inj same)
  | _ => cases settles

/-- A property that settles a slot leaves the other parts of the configuration as they are. -/
theorem parts_of_slot? {key value : String} {made : Change}
    (stands : changeOf meaning key value = .ok made) :
    made.database? = none ∧ made.timeout? = none ∧ ∀ tls, made.secure tls = tls := by
  cases meaning with
  | user | password =>
    cases stands
    exact ⟨rfl, rfl, fun _ => rfl⟩
  | serverTimeZone | characterEncoding | readOnly =>
    rw [changeOf] at stands
    obtain ⟨form, -, rfl⟩ := exists_of_map stands
    exact ⟨rfl, rfl, fun _ => rfl⟩
  | _ => cases settles

end

/-! ### The last spelling -/

theorem nodup_ordered (bag : Properties) : bag.ordered.Nodup :=
  bag.ordered_perm.nodup_iff.mpr bag.map.nodup

theorem place_le_of_name {a b : String × String} (name : normalize a.1 = normalize b.1) :
    place a ≤ place b ↔ a.1 ≤ b.1 := by
  simp [place_le_iff, name]

/-- Of the properties that settle a slot the one with the greatest key does. -/
theorem get?_of_greatest {bag : Properties} {meaning : Meaning} {slot : Slot}
    (settles : meaning.slot? = some slot) {entry : String × String} (member : entry ∈ bag.entries)
    (means : Meaning.ofName? (normalize entry.1) = some meaning) {made : Change}
    (stands : change entry = .ok made) (greatest : ∀ other ∈ bag.entries,
      normalize other.1 = normalize entry.1 → other.1 ≤ entry.1) (config : Config) :
    slot.get? ((changes bag.ordered).foldl Change.apply config) = slot.put? made := by
  obtain ⟨before, behind, order⟩ := List.append_of_mem (bag.ordered_perm.mem_iff.mpr member)
  have none : (changes behind).filterMap slot.put? = [] := by
    refine List.filterMap_eq_nil_iff.mpr fun later put => ?_
    obtain ⟨other, inside, laterStands⟩ := mem_changes_iff.mp put
    by_contra puts
    have name := (put?_isSome_iff settles means laterStands).mp (Option.isSome_iff_ne_none.mpr puts)
    have sorted := bag.ordered_pairwise
    have once := bag.nodup_ordered
    rw [order] at sorted once
    have after := (List.pairwise_cons.mp (List.pairwise_append.mp sorted).2.1).1 other inside
    have held : other ∈ bag.entries := bag.ordered_perm.mem_iff.mp (by simp [order, inside])
    have key := le_antisymm (greatest other held name) ((place_le_of_name name.symm).mp after)
    obtain rfl := eq_of_sameLetters held member (by rw [key, Text.SameLetters])
    exact (List.nodup_cons.mp (List.nodup_append.mp once).2.1).1 inside
  obtain ⟨value, puts⟩ := Option.isSome_iff_exists.mp ((put?_isSome_iff settles means stands).mpr rfl)
  rw [order, changes_append, changes_cons stands, Slot.get?_foldl_apply, List.filterMap_append,
    List.filterMap_cons, puts, none]
  simp

/-! ### Leaving properties out -/

/-- Properties that leave a part of the configuration as it is can be left out. -/
theorem foldl_changes_filter {β : Type} {make : β → Change → β} {keep : String × String → Bool}
    {entries : List (String × String)} (still : ∀ entry ∈ entries, keep entry = false →
      ∀ made, change entry = .ok made → ∀ part, make part made = part) (part : β) :
    (changes (entries.filter keep)).foldl make part = (changes entries).foldl make part := by
  induction entries generalizing part with
  | nil => rfl
  | cons entry entries ih =>
    have rest := ih fun other member => still other (List.mem_cons_of_mem _ member)
    have step (part : β) : (changes (entry :: entries)).foldl make part =
        (changes entries).foldl make (((change entry).toOption.map (make part)).getD part) := by
      rw [changes, List.filterMap_cons]
      cases change entry <;> rfl
    by_cases kept : keep entry = true
    · rw [List.filter_cons_of_pos kept, step, ← rest]
      rw [changes, List.filterMap_cons]
      cases change entry <;> rfl
    · rw [List.filter_cons_of_neg kept, rest, step]
      cases stands : change entry with
      | error cause => rfl
      | ok made =>
        have same := still entry List.mem_cons_self (by simpa using kept) made stands part
        exact congrArg (fun part => (changes entries).foldl make part) same.symm

end SqlProbe.Properties
