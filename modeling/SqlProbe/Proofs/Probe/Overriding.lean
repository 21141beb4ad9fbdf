import Mathlib.Data.Set.Finite.Lemmas
import SqlProbe.Probe.Properties
import SqlProbe.Proofs.Properties.Spelling

/-!
# Extra properties over standard ones

The extra properties replace the standard ones of the same letters when they are set, and names are
recognized up to hyphens and underscores only when they are applied. So a standard property stays
in the bag next to an extra one that spells its name with them, and which of the two counts is left
to the order in which the spellings are applied. The standard `useSSL` moreover takes back what
security the base has, whatever extra property of its name stands behind it.
-/

namespace SqlProbe.Probe

open Properties (Accepted Change Meaning Slot change changes)

variable (context : Context)

/-- The standard property that turns transport security off. -/
def noTls : String × String := ("useSSL", "false")

/-- The properties that the probe sets of its own accord. -/
def standardEntries : List (String × String) :=
  [("user", context.base.username.getD ""), ("password", context.base.password.getD ""), noTls,
    (Properties.timeZoneParam, "UTC"), (Properties.encodingParam, "utf8")]

/-- An extra property has this name, in some spelling. -/
def Overridden (entry : String × String) : Prop :=
  ∃ extra ∈ context.extra.entries, Properties.normalize extra.1 = Properties.normalize entry.1

instance (entry : String × String) : Decidable (Overridden context entry) :=
  inferInstanceAs (Decidable (∃ extra ∈ context.extra.entries, _))

/-- The bag in which every standard property gives way to the extra properties of its name. -/
def overridingProperties : Properties :=
  .ofList ((standardEntries context).filter (fun entry => !decide (Overridden context entry)) ++
    context.extra.entries)

/-- A standard property has the name of an extra one, but none has its letters: both are in the
bag. -/
def Contested (entry : String × String) : Prop :=
  Overridden context entry ∧ ∀ extra ∈ context.extra.entries, ¬ Text.SameLetters extra.1 entry.1

instance (entry : String × String) : Decidable (Contested context entry) :=
  inferInstanceAs (Decidable (_ ∧ _))

/-! ### What is in the two bags -/

variable {context}

theorem normalize_eq_of_sameLetters {a b : String} (same : Text.SameLetters a b) :
    Properties.normalize a = Properties.normalize b := by
  rw [Properties.normalize, Properties.normalize, show Text.lower a.toList = _ from same]

theorem eq_of_normalize_eq {one other : String × String} (first : one ∈ standardEntries context)
    (second : other ∈ standardEntries context)
    (same : Properties.normalize one.1 = Properties.normalize other.1) :
    one = other := by
  have apart : ((standardEntries context).map fun entry => Properties.normalize entry.1).Nodup := by
    change (["user", "password", "useSSL", Properties.timeZoneParam, Properties.encodingParam].map
      Properties.normalize).Nodup
    decide
  exact List.inj_on_of_nodup_map apart first second same

theorem distinct_standardEntries :
    (standardEntries context).Pairwise fun a b => ¬ Text.SameLetters a.1 b.1 := by
  have distinct : ((standardEntries context).map Prod.fst).Pairwise
      fun a b => ¬ Text.SameLetters a b := by
    change ["user", "password", "useSSL", Properties.timeZoneParam,
      Properties.encodingParam].Pairwise _
    decide
  exact List.pairwise_map.mp distinct

theorem entries_standardProperties_perm (context : Context) : (standardProperties context).entries.Perm
    (Properties.besides context.extra.entries (standardEntries context) ++ context.extra.entries) := by
  have laid : standardProperties context = context.extra.entries.foldl
      (fun bag entry => bag.set entry.1 entry.2) (.ofList (standardEntries context)) := by
    rw [Properties.ofList, ← List.foldl_append]
    rfl
  rw [laid]
  exact (Properties.entries_foldl_set_perm context.extra.distinct _).trans
    (((Properties.entries_ofList_perm distinct_standardEntries).filter _).append_right _)

theorem entries_overridingProperties_perm (context : Context) :
    (overridingProperties context).entries.Perm
    ((standardEntries context).filter (fun entry => !decide (Overridden context entry)) ++
      context.extra.entries) := by
  refine Properties.entries_ofList_perm (List.pairwise_append.mpr
    ⟨distinct_standardEntries.filter _, context.extra.distinct, ?_⟩)
  intro entry kept extra member same
  have free : ¬ Overridden context entry := by simpa using (List.mem_filter.mp kept).2
  exact free ⟨extra, member, (normalize_eq_of_sameLetters same).symm⟩

/-- The properties of the probe that stay where extra ones override. -/
def stays (context : Context) (entry : String × String) : Bool :=
  decide (entry ∈ context.extra.entries) || !decide (Overridden context entry)

theorem contested_of_not_stays {entry : String × String}
    (member : entry ∈ (standardProperties context).entries) (leaves : stays context entry = false) :
    entry ∈ standardEntries context ∧ Contested context entry := by
  obtain ⟨extra, overridden⟩ := Bool.or_eq_false_iff.mp leaves
  have overridden : Overridden context entry := by simpa using overridden
  rcases List.mem_append.mp ((entries_standardProperties_perm context).mem_iff.mp member) with
    own | inside
  · obtain ⟨own, apart⟩ := List.mem_filter.mp own
    refine ⟨own, overridden, fun other inside same => ?_⟩
    have apart := List.all_eq_true.mp apart other inside
    simp only [Bool.not_eq_true', decide_eq_false_iff_not] at apart
    exact apart same.symm
  · exact absurd inside (of_decide_eq_false extra)

theorem not_stays_of_contested {entry : String × String} (contested : Contested context entry) :
    stays context entry = false := by
  have apart : entry ∉ context.extra.entries := fun inside => contested.2 entry inside rfl
  simp [stays, apart, contested.1]

/-- Overriding leaves out the contested standard properties, and the others keep their order. -/
theorem ordered_overridingProperties : (overridingProperties context).ordered =
    (standardProperties context).ordered.filter (stays context) := by
  have extra : context.extra.entries.filter (stays context) = context.extra.entries :=
    List.filter_eq_self.mpr fun entry inside => by simp [stays, inside]
  have own : (Properties.besides context.extra.entries (standardEntries context)).filter
      (stays context) =
      (standardEntries context).filter fun entry => !decide (Overridden context entry) := by
    rw [Properties.besides, List.filter_filter]
    refine List.filter_congr fun entry _ => ?_
    by_cases overridden : Overridden context entry
    · by_cases inside : entry ∈ context.extra.entries
      · have same : ¬ (context.extra.entries.all fun other =>
            !decide (Text.SameLetters entry.1 other.1)) = true :=
          fun all => by simpa [Text.SameLetters] using List.all_eq_true.mp all entry inside
        simp [overridden, same]
      · simp [stays, inside, overridden]
    · have apart : (context.extra.entries.all fun other =>
          !decide (Text.SameLetters entry.1 other.1)) = true := by
        refine List.all_eq_true.mpr fun other inside => ?_
        have : ¬ Text.SameLetters entry.1 other.1 := fun same =>
          overridden ⟨other, inside, (normalize_eq_of_sameLetters same).symm⟩
        simpa using this
      simp [stays, overridden, apart]
  refine Properties.ordered_of_filter ((entries_overridingProperties_perm context).trans ?_)
  have kept := (entries_standardProperties_perm context).filter (stays context)
  rw [List.filter_append, extra, own] at kept
  exact kept.symm

/-! ### What the standard properties do -/

theorem change_user (name : String) : change ("user", name) = .ok (.username name) :=
  Properties.change_of_meaning
    (by decide : Meaning.ofName? (Properties.normalize "user") = some .user) name

theorem change_password (word : String) : change ("password", word) = .ok (.password word) :=
  Properties.change_of_meaning
    (by decide : Meaning.ofName? (Properties.normalize "password") = some .password) word

theorem change_noTls : change noTls = .ok (.useTls false) := by
  have means : Meaning.ofName? (Properties.normalize "useSSL") = some .useSsl := by decide
  rw [noTls, Properties.change_of_meaning means, Properties.changeOf,
    show Properties.flag "useSSL" "false" = .ok false from rfl]
  rfl

/-- A standard property other than `useSSL` settles a slot. -/
theorem settles_of_mem {entry : String × String} (member : entry ∈ standardEntries context)
    (other : entry ≠ noTls) : ∃ meaning slot,
      Meaning.ofName? (Properties.normalize entry.1) = some meaning ∧
      meaning.slot? = some slot := by
  simp only [standardEntries, List.mem_cons, List.not_mem_nil, or_false] at member
  rcases member with rfl | rfl | rfl | rfl | rfl
  · exact ⟨.user, .username, (by decide : Meaning.ofName? (Properties.normalize "user") = _), rfl⟩
  · exact ⟨.password, .password,
      (by decide : Meaning.ofName? (Properties.normalize "password") = _), rfl⟩
  · contradiction
  · exact ⟨.serverTimeZone, _, by decide, rfl⟩
  · exact ⟨.characterEncoding, _, by decide, rfl⟩

theorem accepted_standardEntries : Accepted (standardEntries context) := by
  intro entry member
  simp only [standardEntries, List.mem_cons, List.not_mem_nil, or_false] at member
  rcases member with rfl | rfl | rfl | rfl | rfl
  · rw [change_user]
    rfl
  · rw [change_password]
    rfl
  · rw [change_noTls]
    rfl
  · decide
  · decide

theorem accepted_append_iff {own : List (String × String)} (part : own ⊆ standardEntries context) :
    Accepted (own ++ context.extra.entries) ↔ Accepted context.extra.entries := by
  refine List.forall_mem_append.trans (and_iff_right fun entry member => ?_)
  exact accepted_standardEntries entry (part member)

/-- Both bags are accepted exactly if the extra properties are. -/
theorem accepted_iff : (Accepted (standardProperties context).entries ↔
    Accepted context.extra.entries) ∧ (Accepted (overridingProperties context).entries ↔
      Accepted context.extra.entries) := by
  rw [Accepted.perm (entries_standardProperties_perm context),
    Accepted.perm (entries_overridingProperties_perm context)]
  exact ⟨accepted_append_iff (List.filter_subset_self _),
    accepted_append_iff (List.filter_subset_self _)⟩

/-- Leaving the contested properties out changes nothing but slots and transport security. -/
theorem parts_of_dropped {entry : String × String} (member : entry ∈ standardEntries context)
    {made : Change} (stands : change entry = .ok made) :
    made.database? = none ∧ made.timeout? = none ∧
      (entry ≠ noTls → ∀ tls, made.secure tls = tls) := by
  by_cases same : entry = noTls
  · subst same
    cases change_noTls.symm.trans stands
    exact ⟨rfl, rfl, fun other => absurd rfl other⟩
  · obtain ⟨meaning, slot, means, settles⟩ := settles_of_mem member same
    rw [change, means] at stands
    obtain ⟨database, timeout, secure⟩ := Properties.parts_of_slot? settles stands
    exact ⟨database, timeout, fun _ => secure⟩

/-! ### Which of two spellings counts -/

variable (context) in
/-- What the properties of the bag of the probe make of the base. -/
def standardResult : Config :=
  (changes (standardProperties context).ordered).foldl Change.apply context.base

variable (context) in
/-- What the properties of the overriding bag make of the base. -/
def overridingResult : Config :=
  (changes (overridingProperties context).ordered).foldl Change.apply context.base

variable (context) in
/-- The last of the extra properties with the name of a standard one stands behind it, or does the
same. -/
def Prevails (entry : String × String) : Prop :=
  ∃ extra ∈ context.extra.entries, Properties.normalize extra.1 = Properties.normalize entry.1 ∧
    (∀ other ∈ context.extra.entries,
      Properties.normalize other.1 = Properties.normalize entry.1 → other.1 ≤ extra.1) ∧
    (entry.1 < extra.1 ∨ change extra = change entry)

instance (entry : String × String) : Decidable (Prevails context entry) :=
  inferInstanceAs (Decidable (∃ extra ∈ context.extra.entries, _))

variable (context) in
/-- What stands behind the standard `useSSL` makes the same of no security as of the security that
there would be without it. -/
def SecurityRestored : Prop :=
  ∀ front behind, (standardProperties context).ordered = front ++ noTls :: behind →
    (changes behind).foldl Change.secure .disabled =
      (changes behind).foldl Change.secure ((changes front).foldl Change.secure context.base.tls)

theorem mem_standardProperties_of_mem {entry : String × String}
    (member : entry ∈ context.extra.entries) : entry ∈ (standardProperties context).entries :=
  (entries_standardProperties_perm context).mem_iff.mpr (List.mem_append_right _ member)

theorem mem_overridingProperties_of_mem {entry : String × String}
    (member : entry ∈ context.extra.entries) : entry ∈ (overridingProperties context).entries :=
  (entries_overridingProperties_perm context).mem_iff.mpr (List.mem_append_right _ member)

theorem mem_standardProperties_of_contested {entry : String × String}
    (member : entry ∈ standardEntries context) (contested : Contested context entry) :
    entry ∈ (standardProperties context).entries := by
  refine (entries_standardProperties_perm context).mem_iff.mpr (List.mem_append_left _ ?_)
  refine List.mem_filter.mpr ⟨member, List.all_eq_true.mpr fun extra inside => ?_⟩
  have apart := contested.2 extra inside
  simpa using mt Text.SameLetters.symm apart

section Slot
variable {entry : String × String} (member : entry ∈ standardEntries context)
include member

/-- Of one name the bag of the probe holds the standard property beside the extra ones. -/
theorem eq_or_mem_of_name {other : String × String}
    (inside : other ∈ (standardProperties context).entries)
    (name : Properties.normalize other.1 = Properties.normalize entry.1) :
    other = entry ∨ other ∈ context.extra.entries := by
  rcases List.mem_append.mp ((entries_standardProperties_perm context).mem_iff.mp inside) with
    own | extra
  · exact .inl (eq_of_normalize_eq (List.mem_filter.mp own).1 member name)
  · exact .inr extra

variable (contested : Contested context entry)
include contested

/-- Of one name the overriding bag holds the extra properties alone. -/
theorem mem_of_name {other : String × String}
    (inside : other ∈ (overridingProperties context).entries)
    (name : Properties.normalize other.1 = Properties.normalize entry.1) :
    other ∈ context.extra.entries := by
  rcases List.mem_append.mp ((entries_overridingProperties_perm context).mem_iff.mp inside) with
    own | extra
  · obtain ⟨own, free⟩ := List.mem_filter.mp own
    rw [eq_of_normalize_eq own member name] at free
    simp [contested.1] at free
  · exact extra

/-- The slot of a contested property ends up as it would without it exactly if an extra property
prevails. -/
theorem get?_eq_iff_prevails (accepted : Accepted context.extra.entries) {meaning : Meaning}
    {slot : Slot} (means : Meaning.ofName? (Properties.normalize entry.1) = some meaning)
    (settles : meaning.slot? = some slot) :
    slot.get? (standardResult context) = slot.get? (overridingResult context) ↔
      Prevails context entry := by
  obtain ⟨greatest, ⟨inside, name⟩, above⟩ := Set.exists_max_image
    {extra | extra ∈ context.extra.entries ∧
      Properties.normalize extra.1 = Properties.normalize entry.1} Prod.fst
    (context.extra.entries.finite_toSet.subset fun _ => And.left) contested.1
  obtain ⟨made, stands⟩ := Option.isSome_iff_exists.mp (accepted greatest inside)
  rw [Properties.toOption_eq_some_iff] at stands
  obtain ⟨own, ownStands⟩ := Option.isSome_iff_exists.mp (accepted_standardEntries entry member)
  rw [Properties.toOption_eq_some_iff] at ownStands
  have overriding := Properties.get?_of_greatest settles (mem_overridingProperties_of_mem inside)
    (name ▸ means) stands (fun other inside same =>
      above other ⟨mem_of_name member contested inside (same.trans name), same.trans name⟩)
    context.base
  rw [standardResult, overridingResult, overriding]
  rcases lt_or_ge entry.1 greatest.1 with before | before
  · have standard := Properties.get?_of_greatest settles (mem_standardProperties_of_mem inside)
      (name ▸ means) stands (fun other inside same => by
        rcases eq_or_mem_of_name member inside (same.trans name) with rfl | extra
        · exact before.le
        · exact above other ⟨extra, same.trans name⟩) context.base
    rw [standard]
    exact iff_of_true rfl ⟨greatest, inside, name, fun other inside same =>
      above other ⟨inside, same⟩, .inl before⟩
  · have standard := Properties.get?_of_greatest settles
      (mem_standardProperties_of_contested member contested) means ownStands
      (fun other inside same => by
        rcases eq_or_mem_of_name member inside same with rfl | extra
        · exact le_rfl
        · exact (above other ⟨extra, same⟩).trans before) context.base
    rw [standard]
    constructor
    · intro same
      refine ⟨greatest, inside, name, fun other inside same => above other ⟨inside, same⟩, .inr ?_⟩
      have one := (Properties.change_of_meaning means entry.2).symm.trans ownStands
      have other := (Properties.change_of_meaning (name ▸ means) greatest.2).symm.trans stands
      rw [stands, ownStands, Properties.eq_of_put?_eq settles one other same]
    · rintro ⟨extra, member, extraName, most, after⟩
      have key := le_antisymm (above extra ⟨member, extraName⟩) (most greatest inside name)
      obtain rfl : extra = greatest :=
        Properties.eq_of_sameLetters member inside (by rw [key, Text.SameLetters])
      rcases after with after | same
      · exact absurd after (not_lt.mpr before)
      · rw [Except.ok.inj (stands.symm.trans (same.trans ownStands))]

end Slot

/-- What a standard property that is left out would have done. -/
theorem parts_of_leaving {entry : String × String}
    (member : entry ∈ (standardProperties context).ordered) (leaves : stays context entry = false)
    {made : Change} (stands : change entry = .ok made) :
    made.database? = none ∧ made.timeout? = none ∧ (entry ≠ noTls → ∀ tls, made.secure tls = tls) :=
  parts_of_dropped (contested_of_not_stays
    ((standardProperties context).ordered_perm.mem_iff.mp member) leaves).1 stands

/-- The slots end up as they would in the overriding bag exactly if extra properties prevail over all
contested ones. -/
theorem slots_eq_iff (accepted : Accepted context.extra.entries) :
    (∀ slot : Slot, slot.get? (standardResult context) = slot.get? (overridingResult context)) ↔
    ∀ entry ∈ standardEntries context, entry ≠ noTls → Contested context entry →
      Prevails context entry := by
  constructor
  · intro slots entry member other contested
    obtain ⟨meaning, slot, means, settles⟩ := settles_of_mem member other
    exact (get?_eq_iff_prevails member contested accepted means settles).mp (slots slot)
  · intro prevails slot
    by_cases settled : ∃ entry ∈ standardEntries context, entry ≠ noTls ∧ Contested context entry ∧
        ∃ meaning, Meaning.ofName? (Properties.normalize entry.1) = some meaning ∧
          meaning.slot? = some slot
    · obtain ⟨entry, member, other, contested, meaning, means, settles⟩ := settled
      exact (get?_eq_iff_prevails member contested accepted means settles).mpr
        (prevails entry member other contested)
    · rw [standardResult, overridingResult, Slot.get?_foldl_apply_eq_foldl,
        Slot.get?_foldl_apply_eq_foldl,
        ordered_overridingProperties, Properties.foldl_changes_filter]
      intro entry member leaves made stands held
      obtain ⟨own, contested⟩ := contested_of_not_stays
        ((standardProperties context).ordered_perm.mem_iff.mp member) leaves
      suffices none : slot.put? made = none by rw [none, Option.none_or]
      by_contra puts
      by_cases same : entry = noTls
      · subst same
        cases change_noTls.symm.trans stands
        exact puts (by cases slot <;> rfl)
      · obtain ⟨meaning, _, means, _⟩ := settles_of_mem own same
        have stands := (Properties.change_of_meaning means entry.2).symm.trans stands
        exact settled ⟨entry, own, same, contested, meaning, means,
          (Properties.put?_isSome_iff_slot? stands).mp (Option.isSome_iff_ne_none.mpr puts)⟩

/-- A contested `useSSL` leaves the security that there would be without it exactly if what stands
behind it restores that. -/
theorem tls_eq_iff_securityRestored (contested : Contested context noTls) :
    (standardResult context).tls = (overridingResult context).tls ↔ SecurityRestored context := by
  have leaves := not_stays_of_contested contested
  have sides {front behind : List (String × String)}
      (order : (standardProperties context).ordered = front ++ noTls :: behind) :
      (standardResult context).tls = (changes behind).foldl Change.secure .disabled ∧
      (overridingResult context).tls = (changes behind).foldl Change.secure
        ((changes front).foldl Change.secure context.base.tls) := by
    have once := order ▸ (standardProperties context).nodup_ordered
    have still : ∀ entry ∈ front ++ behind, stays context entry = false →
        ∀ made, change entry = .ok made → ∀ tls, Change.secure tls made = tls := by
      intro entry member leaves made stands
      have held : entry ∈ (standardProperties context).ordered :=
        order ▸ List.perm_middle.mem_iff.mpr (List.mem_cons_of_mem _ member)
      refine (parts_of_leaving held leaves stands).2.2 ?_
      rintro rfl
      exact (List.nodup_cons.mp (List.perm_middle.nodup_iff.mp once)).1 member
    rw [standardResult, overridingResult, Properties.tls_foldl_apply, Properties.tls_foldl_apply,
      ordered_overridingProperties, order,
      List.filter_append, List.filter_cons_of_neg (by simp [leaves])]
    simp only [Properties.changes_append, Properties.changes_cons change_noTls, List.foldl_append,
      List.foldl_cons]
    refine ⟨rfl, ?_⟩
    rw [Properties.foldl_changes_filter fun entry member => still entry (List.mem_append_left _ member),
      Properties.foldl_changes_filter fun entry member => still entry (List.mem_append_right _ member)]
  have held := mem_standardProperties_of_contested (by simp [standardEntries]) contested
  obtain ⟨front, behind, order⟩ :=
    List.append_of_mem ((standardProperties context).ordered_perm.mem_iff.mpr held)
  constructor
  · intro same front behind order
    rw [← (sides order).1, ← (sides order).2]
    exact same
  · intro restored
    rw [(sides order).1, (sides order).2]
    exact restored front behind order

theorem tls_eq_iff : (standardResult context).tls = (overridingResult context).tls ↔
    (Contested context noTls → SecurityRestored context) := by
  by_cases contested : Contested context noTls
  · rw [tls_eq_iff_securityRestored contested]
    exact ⟨fun restored _ => restored, fun restored => restored contested⟩
  · refine iff_of_true ?_ fun held => absurd held contested
    rw [standardResult, overridingResult, Properties.tls_foldl_apply, Properties.tls_foldl_apply,
      ordered_overridingProperties, Properties.foldl_changes_filter]
    intro entry member leaves made stands
    refine (parts_of_leaving member leaves stands).2.2 ?_
    rintro rfl
    exact contested (contested_of_not_stays
      ((standardProperties context).ordered_perm.mem_iff.mp member) leaves).2

theorem database_eq : (standardResult context).database = (overridingResult context).database := by
  rw [standardResult, overridingResult, Properties.database_foldl_apply,
    Properties.database_foldl_apply, ordered_overridingProperties, Properties.foldl_changes_filter]
  intro entry member leaves made stands database
  rw [(parts_of_leaving member leaves stands).1, Option.getD_none]

theorem connectTimeout_eq :
    (standardResult context).connectTimeout = (overridingResult context).connectTimeout := by
  rw [standardResult, overridingResult, Properties.timeout_foldl_apply,
    Properties.timeout_foldl_apply, ordered_overridingProperties, Properties.foldl_changes_filter]
  intro entry member leaves made stands timeout
  rw [(parts_of_leaving member leaves stands).2.1, Option.getD_none]

theorem standardResult_eq_iff (accepted : Accepted context.extra.entries) :
    standardResult context = overridingResult context ↔
    (∀ entry ∈ standardEntries context, entry ≠ noTls → Contested context entry →
      Prevails context entry) ∧
    (Contested context noTls → SecurityRestored context) := by
  refine (Properties.foldl_apply_eq_iff _ _).trans ⟨?_, ?_⟩
  · rintro ⟨-, -, tls, slots⟩
    exact ⟨(slots_eq_iff accepted).mp slots, tls_eq_iff.mp tls⟩
  · rintro ⟨prevails, restored⟩
    exact ⟨database_eq, connectTimeout_eq, tls_eq_iff.mpr restored,
      (slots_eq_iff accepted).mpr prevails⟩

/-- Both bags are refused if the extra properties are. -/
theorem applyTo_toOption_eq :
    ((standardProperties context).applyTo context.base).toOption =
      (if Accepted context.extra.entries then some (standardResult context) else none) ∧
    ((overridingProperties context).applyTo context.base).toOption =
      (if Accepted context.extra.entries then some (overridingResult context) else none) := by
  rw [Properties.applyTo_toOption, Properties.applyTo_toOption]
  simp only [accepted_iff.1, accepted_iff.2]
  exact ⟨rfl, rfl⟩

/-- Laying the extra properties over the standard ones has the outcome of overriding by name exactly
if the extra properties are refused, or if an extra property prevails over each contested one and, for
the contested `useSSL`, security is restored. -/
theorem standard_outcome_eq_iff (context : Context) :
    ((standardProperties context).applyTo context.base).toOption =
      ((overridingProperties context).applyTo context.base).toOption ↔
    ¬ Accepted context.extra.entries ∨
      (∀ entry ∈ standardEntries context, entry ≠ noTls → Contested context entry →
        Prevails context entry) ∧
      (Contested context noTls → SecurityRestored context) := by
  rw [applyTo_toOption_eq.1, applyTo_toOption_eq.2]
  by_cases accepted : Accepted context.extra.entries
  · rw [if_pos accepted, if_pos accepted, Option.some.injEq, standardResult_eq_iff accepted]
    exact (or_iff_right (not_not.mpr accepted)).symm
  · rw [if_neg accepted, if_neg accepted]
    exact iff_of_true rfl (.inl accepted)

/-- A time zone whose name has a hyphen in it stands before the standard one and is not heard. -/
theorem hyphenated_time_zone_is_not_heard :
    let context : Context :=
      { base := Config.mysql "localhost" 3307 "test" "root", users := []
        extra := .ofList [("server-timezone", "+02:00")], pool := {}, health := {} }
    ((standardProperties context).applyTo context.base).toOption ≠
      ((overridingProperties context).applyTo context.base).toOption := by
  intro context same
  have accepted : Accepted context.extra.entries := by decide +zetaReduce
  rw [applyTo_toOption_eq.1, applyTo_toOption_eq.2, if_pos accepted, if_pos accepted] at same
  have zone : (Properties.timeZoneParam, "UTC") ∈ standardEntries context := by
    simp [standardEntries]
  have prevails := ((standardResult_eq_iff accepted).mp (Option.some.inj same)).1 _ zone (by decide)
    (by decide +zetaReduce)
  revert prevails
  decide +zetaReduce

end SqlProbe.Probe
