import SqlProbe.Pool.Step
import Mathlib.Data.List.Perm.Basic
import Mathlib.Data.List.Perm.Lattice

/-!
# Calls in progress

The bookkeeping of borrowers. Calls in progress have distinct numbers, so a borrower's entry can be
taken out of the list and put back changed, and whatever is counted over the entries changes by what
that one entry contributes. Three things are counted: the borrowers with a slot, those of them that
deal with a connection already, and the connections that they have taken from the idle ones.
-/

namespace SqlProbe.Pool

/-! ### Entries by call -/

section Entries

variable {α : Type} {entries : List (Nat × α)} {call : Nat} {v : α}

/-- The entries of all calls but one. -/
def others (call : Nat) (entries : List (Nat × α)) : List (Nat × α) :=
  entries.filter fun entry => entry.1 ≠ call

theorem lookup_of_mem {entry : Nat × α} (distinct : (entries.map Prod.fst).Nodup)
    (member : entry ∈ entries) : entries.lookup entry.1 = some entry.2 := by
  obtain ⟨before, after, rfl⟩ := List.append_of_mem member
  rw [List.map_append, List.map_cons, List.nodup_middle, List.nodup_cons] at distinct
  refine List.lookup_eq_some_iff.mpr ⟨before, after, rfl, ?_⟩
  intro other among
  refine bne_iff_ne.mpr fun same => distinct.1 ?_
  exact List.mem_append_left _ (List.mem_map.mpr ⟨other, among, same.symm⟩)

theorem mem_of_lookup (found : entries.lookup call = some v) : (call, v) ∈ entries := by
  obtain ⟨before, after, eq, _⟩ := List.lookup_eq_some_iff.mp found
  rw [eq]
  exact List.mem_append_right _ List.mem_cons_self

/-- A call's entry stands between entries of other calls. -/
theorem split_of_lookup (distinct : (entries.map Prod.fst).Nodup)
    (found : entries.lookup call = some v) :
    ∃ before after, entries = before ++ (call, v) :: after ∧ (∀ entry ∈ before, entry.1 ≠ call) ∧
      ∀ entry ∈ after, entry.1 ≠ call := by
  obtain ⟨before, after, rfl, _⟩ := List.lookup_eq_some_iff.mp found
  rw [List.map_append, List.map_cons, List.nodup_middle, List.nodup_cons] at distinct
  refine ⟨before, after, rfl, ?_, ?_⟩
  · intro entry member same
    exact distinct.1 (List.mem_append_left _ (List.mem_map.mpr ⟨entry, member, same⟩))
  · intro entry member same
    exact distinct.1 (List.mem_append_right _ (List.mem_map.mpr ⟨entry, member, same⟩))

theorem perm_others (distinct : (entries.map Prod.fst).Nodup)
    (found : entries.lookup call = some v) : entries.Perm ((call, v) :: others call entries) := by
  obtain ⟨before, after, rfl, left, right⟩ := split_of_lookup distinct found
  have rest : others call (before ++ (call, v) :: after) = before ++ after := by
    simp only [others, List.filter_append, List.filter_cons, ne_eq, not_true_eq_false, decide_false,
      Bool.false_eq_true, ↓reduceIte]
    rw [List.filter_eq_self.mpr (fun entry member => decide_eq_true (left entry member)),
      List.filter_eq_self.mpr (fun entry member => decide_eq_true (right entry member))]
  rw [rest]
  exact List.perm_middle

/-- Changing a call's entry is taking it out and putting the new one in. -/
theorem replace_perm (distinct : (entries.map Prod.fst).Nodup)
    (found : entries.lookup call = some v) (w : α) :
    (entries.map fun entry => if entry.1 = call then (call, w) else entry).Perm
      ((call, w) :: others call entries) := by
  obtain ⟨before, after, rfl, left, right⟩ := split_of_lookup distinct found
  have same {part : List (Nat × α)} (other : ∀ entry ∈ part, entry.1 ≠ call) :
      part.map (fun entry => if entry.1 = call then (call, w) else entry) = part ∧
        part.filter (fun entry => entry.1 ≠ call) = part := by
    refine ⟨?_, List.filter_eq_self.mpr (fun entry member => decide_eq_true (other entry member))⟩
    refine (List.map_congr_left (fun entry member => ?_)).trans (List.map_id part)
    rw [if_neg (other entry member), id]
  simp only [others, List.map_append, List.map_cons, ↓reduceIte, List.filter_append,
    List.filter_cons, ne_eq, not_true_eq_false, decide_false, Bool.false_eq_true, (same left).1,
    (same right).1]
  rw [(same left).2, (same right).2]
  exact List.perm_middle

/-- A call without an entry has none in the list. -/
theorem absent_of_lookup (absent : entries.lookup call = none) : ∀ entry ∈ entries, entry.1 ≠ call := by
  intro entry member same
  exact absurd same.symm (bne_iff_ne.mp (List.lookup_eq_none_iff.mp absent entry member))

theorem others_of_absent (absent : entries.lookup call = none) : others call entries = entries :=
  List.filter_eq_self.mpr fun entry member => decide_eq_true (absent_of_lookup absent entry member)

theorem lookup_others_self (entries : List (Nat × α)) (call : Nat) :
    (others call entries).lookup call = none := by
  rw [List.lookup_eq_none_iff]
  intro entry member
  exact bne_iff_ne.mpr (of_decide_eq_true (List.mem_filter.mp member).2).symm

theorem lookup_others_of_ne {other : Nat} (differ : other ≠ call) :
    (others call entries).lookup other = entries.lookup other := by
  induction entries with
  | nil => rfl
  | cons entry rest ih =>
    obtain ⟨first, v⟩ := entry
    unfold others at ih ⊢
    by_cases same : first = call
    · have differs : (other == first) = false := beq_false_of_ne fun eq => differ (eq.trans same)
      rw [List.filter_cons_of_neg (by simpa using same), ih, List.lookup_cons, differs]
    · rw [List.filter_cons_of_pos (by simpa using same), List.lookup_cons, List.lookup_cons, ih]

theorem lookup_replace_self (found : entries.lookup call = some v) (w : α) :
    (entries.map fun entry => if entry.1 = call then (call, w) else entry).lookup call = some w := by
  induction entries with
  | nil => contradiction
  | cons entry rest ih =>
    obtain ⟨first, u⟩ := entry
    rw [List.map_cons, List.lookup_cons]
    by_cases same : first = call
    · rw [if_pos same, beq_self_eq_true]
    · have differs : (call == first) = false := beq_false_of_ne fun eq => same eq.symm
      rw [if_neg same, differs]
      rw [List.lookup_cons, differs] at found
      exact ih found

theorem lookup_replace_of_ne {other : Nat} (differ : other ≠ call) (w : α) :
    (entries.map fun entry => if entry.1 = call then (call, w) else entry).lookup other =
      entries.lookup other := by
  induction entries with
  | nil => rfl
  | cons entry rest ih =>
    obtain ⟨first, v⟩ := entry
    rw [List.map_cons, List.lookup_cons, List.lookup_cons, ih]
    by_cases same : first = call
    · subst same
      rw [if_pos rfl, beq_false_of_ne differ]
    · rw [if_neg same]

theorem distinct_append (absent : ∀ entry ∈ entries, entry.1 ≠ call)
    (distinct : (entries.map Prod.fst).Nodup) (v : α) :
    ((entries ++ [(call, v)]).map Prod.fst).Nodup := by
  rw [List.map_append, List.map_singleton, ← List.concat_eq_append, List.nodup_concat]
  refine ⟨?_, distinct⟩
  intro member
  obtain ⟨entry, member, same⟩ := List.mem_map.mp member
  exact absent entry member same

theorem lookup_append (absent : entries.lookup call = none) (v : α) :
    (entries ++ [(call, v)]).lookup call = some v := by
  rw [List.lookup_append, absent]
  simp only [List.lookup_cons_self, Option.none_or]

end Entries

/-! ### What borrowers have -/

/-- The connection that a borrower has taken from the idle ones and may not have, or not yet. -/
def Get.connection? : Get → Option Nat
  | validating connection _ => some connection
  | discarding connection => some connection
  | _ => none

/-- The borrower has a slot and deals with a connection already, an idle one or a new one. -/
def Get.isEngaged : Get → Bool
  | queued => false
  | granted => false
  | _ => true

theorem Get.hasSlot_of_isEngaged {get : Get} (engaged : get.isEngaged = true) :
    get.hasSlot = true := by
  cases get <;> first | rfl | contradiction

/-- The number of borrowers with a slot. -/
def slotted (gets : List (Nat × Get)) : Nat := gets.countP fun entry => entry.2.hasSlot

/-- The number of borrowers that deal with a connection. -/
def engaged (gets : List (Nat × Get)) : Nat := gets.countP fun entry => entry.2.isEngaged

/-- The connections that borrowers have taken from the idle ones. -/
def examined (gets : List (Nat × Get)) : List Nat :=
  gets.flatMap fun entry => entry.2.connection?.toList

theorem engaged_le_slotted (gets : List (Nat × Get)) : engaged gets ≤ slotted gets :=
  List.countP_mono_left (fun _ _ => Get.hasSlot_of_isEngaged)

section Counts

variable {gets gets' : List (Nat × Get)} {call : Nat} {get : Get}

theorem slotted_cons : slotted ((call, get) :: gets) = slotted gets + get.hasSlot.toNat := by
  cases get <;> simp [slotted, Get.hasSlot]

theorem engaged_cons : engaged ((call, get) :: gets) = engaged gets + get.isEngaged.toNat := by
  cases get <;> simp [engaged, Get.isEngaged]

end Counts

/-- One call's entry has gone, has come or has changed, and all others are as they were. -/
def Exchange (call : Nat) (old new : Option Get) (gets gets' : List (Nat × Get)) : Prop :=
  ∃ rest, gets.Perm ((old.map (call, ·)).toList ++ rest) ∧
    gets'.Perm ((new.map (call, ·)).toList ++ rest)

namespace Exchange

variable {call : Nat} {old new : Option Get} {gets gets' : List (Nat × Get)}

theorem slotted_eq (exchange : Exchange call old new gets gets') :
    slotted gets' + (old.any Get.hasSlot).toNat = slotted gets + (new.any Get.hasSlot).toNat := by
  obtain ⟨rest, before, after⟩ := exchange
  have left : slotted gets = slotted rest + (old.any Get.hasSlot).toNat := by
    rw [slotted, before.countP_eq]
    cases old with
    | none => rfl
    | some get => exact slotted_cons
  have right : slotted gets' = slotted rest + (new.any Get.hasSlot).toNat := by
    rw [slotted, after.countP_eq]
    cases new with
    | none => rfl
    | some get => exact slotted_cons
  omega

theorem engaged_eq (exchange : Exchange call old new gets gets') :
    engaged gets' + (old.any Get.isEngaged).toNat = engaged gets + (new.any Get.isEngaged).toNat := by
  obtain ⟨rest, before, after⟩ := exchange
  have left : engaged gets = engaged rest + (old.any Get.isEngaged).toNat := by
    rw [engaged, before.countP_eq]
    cases old with
    | none => rfl
    | some get => exact engaged_cons
  have right : engaged gets' = engaged rest + (new.any Get.isEngaged).toNat := by
    rw [engaged, after.countP_eq]
    cases new with
    | none => rfl
    | some get => exact engaged_cons
  omega

theorem examined_perm (exchange : Exchange call old new gets gets') :
    ((old.bind Get.connection?).toList ++ examined gets').Perm
      ((new.bind Get.connection?).toList ++ examined gets) := by
  obtain ⟨rest, before, after⟩ := exchange
  have left : (examined gets).Perm ((old.bind Get.connection?).toList ++ examined rest) := by
    refine (before.flatMap_right _).trans (List.Perm.of_eq ?_)
    cases old <;> rfl
  have right : (examined gets').Perm ((new.bind Get.connection?).toList ++ examined rest) := by
    refine (after.flatMap_right _).trans (List.Perm.of_eq ?_)
    cases new <;> rfl
  refine (right.append_left _).trans (List.Perm.trans ?_ (left.append_left _).symm)
  rw [← List.append_assoc, ← List.append_assoc]
  exact List.perm_append_comm.append_right _

/-- A call that was there before adds no new number. -/
theorem distinct {get : Get} (exchange : Exchange call (some get) new gets gets')
    (before : (gets.map Prod.fst).Nodup) : (gets'.map Prod.fst).Nodup := by
  obtain ⟨rest, left, right⟩ := exchange
  have numbers := (left.map Prod.fst).nodup_iff.mp before
  rw [(right.map Prod.fst).nodup_iff]
  cases new with
  | none => exact (List.nodup_cons.mp numbers).2
  | some get => exact numbers

end Exchange

/-! ### How the list of borrowers changes -/

section Changes

variable {s : State} {call : Nat} {get : Get}

theorem exchange_setGet (distinct : (s.gets.map Prod.fst).Nodup) (found : s.get? call = some get)
    (new : Get) : Exchange call (some get) (some new) s.gets (s.setGet call new).gets :=
  ⟨others call s.gets, perm_others distinct found, replace_perm distinct found new⟩

theorem exchange_others (distinct : (s.gets.map Prod.fst).Nodup) (found : s.get? call = some get) :
    Exchange call (some get) none s.gets (others call s.gets) :=
  ⟨others call s.gets, perm_others distinct found, .rfl⟩

/-- The slot that is granted goes to a borrower in the queue. -/
theorem exchange_grantFirst {gets gets' : List (Nat × Get)} (granted : grantFirst gets = some gets') :
    ∃ call, Exchange call (some .queued) (some .granted) gets gets' := by
  induction gets generalizing gets' with
  | nil => contradiction
  | cons entry rest ih =>
    have skip {entry : Nat × Get} (skipped : (grantFirst rest).map (entry :: ·) = some gets') :
        ∃ call, Exchange call (some .queued) (some .granted) (entry :: rest) gets' := by
      obtain ⟨rest', later, rfl⟩ := Option.map_eq_some_iff.mp skipped
      obtain ⟨call, others, before, after⟩ := ih later
      refine ⟨call, entry :: others, ?_, ?_⟩
      · exact (before.cons entry).trans (List.Perm.swap _ _ _)
      · exact (after.cons entry).trans (List.Perm.swap _ _ _)
    obtain ⟨call, get⟩ := entry
    cases get with
    | queued =>
      obtain rfl := Option.some.inj granted
      exact ⟨call, rest, .rfl, .rfl⟩
    | granted => exact skip granted
    | validating => exact skip granted
    | discarding => exact skip granted
    | opening => exact skip granted

/-- A slot becomes free, or a borrower gets it. -/
theorem release_spec (s : State) : ∃ free gets, s.release = { s with free, gets } ∧
    free + slotted gets = s.free + slotted s.gets + 1 ∧ engaged gets = engaged s.gets ∧
    (examined gets).Perm (examined s.gets) ∧
    ((s.gets.map Prod.fst).Nodup → (gets.map Prod.fst).Nodup) := by
  unfold State.release
  split
  · next gets granted =>
    split at granted
    · contradiction
    · obtain ⟨call, exchange⟩ := exchange_grantFirst granted
      have slots := exchange.slotted_eq
      have busy := exchange.engaged_eq
      refine ⟨s.free, gets, rfl, ?_, ?_, exchange.examined_perm, exchange.distinct⟩
      · simp only [Option.any_some, Get.hasSlot, Bool.toNat_false, Bool.toNat_true] at slots
        omega
      · simpa only [Option.any_some, Get.isEngaged, Bool.toNat_false, Nat.add_zero] using busy
  · exact ⟨s.free + 1, s.gets, rfl, by omega, rfl, .rfl, id⟩

/-- A borrower leaves with nothing, and its slot is not lost. -/
theorem leave_spec (distinct : (s.gets.map Prod.fst).Nodup) (found : s.get? call = some get) :
    ∃ free gets, s.leave call = { s with free, gets } ∧
      free + slotted gets = s.free + slotted s.gets ∧
      engaged gets + get.isEngaged.toNat = engaged s.gets ∧
      (get.connection?.toList ++ examined gets).Perm (examined s.gets) ∧
      (gets.map Prod.fst).Nodup := by
  have exchange := exchange_others distinct found
  have slots := exchange.slotted_eq
  have busy := exchange.engaged_eq
  have taken := exchange.examined_perm
  simp only [Option.any_some, Option.any_none, Bool.toNat_false, Nat.add_zero] at slots busy
  unfold State.leave
  rw [found]
  dsimp only
  split
  · next slot =>
    obtain ⟨free, gets, eq, slots', busy', taken', distinct'⟩ :=
      release_spec { s with gets := others call s.gets }
    refine ⟨free, gets, eq, ?_, ?_, ?_, distinct' (exchange.distinct distinct)⟩
    · simp only [slot, Bool.toNat_true] at slots
      dsimp only at slots'
      omega
    · dsimp only at busy'
      omega
    · exact (taken'.append_left _).trans taken
  · next slot =>
    refine ⟨s.free, others call s.gets, rfl, ?_, busy, taken, exchange.distinct distinct⟩
    simp only [slot, Bool.toNat_false] at slots
    omega

theorem leave_of_absent (absent : s.get? call = none) : s.leave call = s := by
  unfold State.leave
  rw [absent]

/-- Whoever leaves, if anybody, is not in the list any more, and perhaps a slot is released. -/
theorem leave_cases (s : State) (call : Nat) :
    s.leave call = { s with gets := others call s.gets } ∨
      s.leave call = { s with gets := others call s.gets }.release := by
  cases found : s.get? call with
  | none =>
    rw [leave_of_absent found, others_of_absent found]
    exact .inl rfl
  | some get =>
    unfold State.leave
    rw [found]
    dsimp only
    split
    · exact .inr rfl
    · exact .inl rfl

/-- A borrower that is lent a connection waits no more. -/
theorem exchange_lend (distinct : (s.gets.map Prod.fst).Nodup) (found : s.get? call = some get)
    (loan : Loan) : Exchange call (some get) none s.gets (s.lend call loan).gets :=
  exchange_others distinct found

/-- A new borrower is turned away, waits for a slot, or has one and is offered a connection. -/
theorem startGet_cases (distinct : (s.gets.map Prod.fst).Nodup) (new : s.get? call = none) :
    (s.shut = true ∧ ∃ results, s.startGet call = { s with results }) ∨
      s.shut = false ∧ ∃ free get gets, free + get.hasSlot.toNat = s.free ∧ get.isEngaged = false ∧
        Exchange call none (some get) s.gets gets ∧ (gets.map Prod.fst).Nodup ∧
        gets.lookup call = some get ∧ get.connection? = none ∧
        (s.startGet call = { s with waiting := s.waiting + 1, free, gets } ∨ get.hasSlot = true ∧
          s.startGet call = { s with waiting := s.waiting + 1, free, gets }.examine call) := by
  have absent := absent_of_lookup new
  have arrived (get : Get) : Exchange call none (some get) s.gets (s.gets ++ [(call, get)]) ∧
      ((s.gets ++ [(call, get)]).map Prod.fst).Nodup ∧
      (s.gets ++ [(call, get)]).lookup call = some get :=
    ⟨⟨s.gets, .rfl, List.perm_append_singleton _ _⟩, distinct_append absent distinct get,
      lookup_append new get⟩
  unfold State.startGet
  split
  · next shut => exact .inl ⟨shut, _, rfl⟩
  · next running =>
    refine .inr ⟨by simpa using running, ?_⟩
    dsimp only
    split
    · obtain ⟨exchange, distinct', found⟩ := arrived .queued
      exact ⟨s.free, .queued, _, rfl, rfl, exchange, distinct', found, rfl, .inl rfl⟩
    · next some =>
      obtain ⟨exchange, distinct', found⟩ := arrived .granted
      refine ⟨s.free - 1, .granted, _, ?_, rfl, exchange, distinct', found, rfl, .inr ⟨rfl, ?_⟩⟩
      · simp only [Get.hasSlot, Bool.toNat_true]
        omega
      · have put : (s.gets ++ [(call, Get.queued)]).map
            (fun entry => if entry.1 = call then (call, Get.granted) else entry) =
              s.gets ++ [(call, .granted)] := by
          rw [List.map_append, List.map_congr_left (fun entry member => if_neg (absent entry member))]
          simp
        simp only [State.setGet, put]

end Changes

/-! ### What a borrower is offered -/

/-- What a borrower that has its turn is offered: what becomes of the first idle connection. -/
inductive Offer (s : State) (call : Nat) : State → Prop
  | opening (none : s.idle = []) : Offer s call (s.setGet call .opening)
  | tooOld {entry : Idle} {idle : List Idle} (first : s.idle = entry :: idle)
      (old : s.outlived entry.createdAt = true) :
      Offer s call ({ s with idle, pastLifetime := s.pastLifetime + 1 }.setGet call
        (.discarding entry.connection))
  | overdue {entry : Idle} {idle : List Idle} (first : s.idle = entry :: idle)
      (young : s.outlived entry.createdAt = false) (late : s.overdue entry.idleSince = true) :
      Offer s call ({ s with idle, pastIdleTimeout := s.pastIdleTimeout + 1 }.setGet call
        (.discarding entry.connection))
  | checked {entry : Idle} {idle : List Idle} (first : s.idle = entry :: idle)
      (young : s.outlived entry.createdAt = false) (early : s.overdue entry.idleSince = false)
      (own : s.ownCheck = true) :
      Offer s call ({ s with idle }.setGet call (.validating entry.connection entry.createdAt))
  | foundClosed {entry : Idle} {idle : List Idle} (first : s.idle = entry :: idle)
      (young : s.outlived entry.createdAt = false) (early : s.overdue entry.idleSince = false)
      (plain : s.ownCheck = false) (closed : s.isClosed entry.connection = true) :
      Offer s call ({ s with idle }.setGet call (.discarding entry.connection))
  | lent {entry : Idle} {idle : List Idle} (first : s.idle = entry :: idle)
      (young : s.outlived entry.createdAt = false) (early : s.overdue entry.idleSince = false)
      (plain : s.ownCheck = false) (live : s.isClosed entry.connection = false) :
      Offer s call ({ s with idle }.lend call ⟨entry.connection, entry.createdAt⟩)

theorem examine_offer (s : State) (call : Nat) : Offer s call (s.examine call) := by
  unfold State.examine
  split
  · next none => exact .opening none
  · next entry idle first =>
    dsimp only
    split
    · next old => exact .tooOld first old
    split
    · next young late => exact .overdue first (Bool.eq_false_iff.mpr young) late
    split
    · next young early own =>
      exact .checked first (Bool.eq_false_iff.mpr young) (Bool.eq_false_iff.mpr early) own
    split
    · next young early plain closed =>
      exact .foundClosed first (Bool.eq_false_iff.mpr young) (Bool.eq_false_iff.mpr early)
        (Bool.eq_false_iff.mpr plain) closed
    · next young early plain live =>
      exact .lent first (Bool.eq_false_iff.mpr young) (Bool.eq_false_iff.mpr early)
        (Bool.eq_false_iff.mpr plain) (Bool.eq_false_iff.mpr live)

/-- What is offered to a borrower with a slot: a new connection if none is idle, otherwise the first
idle one, which it deals with or gets. -/
theorem examine_cases (s : State) (call : Nat) :
    (s.idle = [] ∧ s.examine call = s.setGet call .opening) ∨
      ∃ entry idle pastLifetime pastIdleTimeout, s.idle = entry :: idle ∧
        ((∃ get : Get, get.isEngaged = true ∧ get.connection? = some entry.connection ∧
            s.examine call = { s with idle, pastLifetime, pastIdleTimeout }.setGet call get) ∨
          s.examine call = { s with idle }.lend call ⟨entry.connection, entry.createdAt⟩) := by
  have offer := examine_offer s call
  generalize s.examine call = t at offer ⊢
  cases offer with
  | opening none => exact .inl ⟨none, rfl⟩
  | tooOld first => exact .inr ⟨_, _, _, _, first, .inl ⟨_, rfl, rfl, rfl⟩⟩
  | overdue first => exact .inr ⟨_, _, _, _, first, .inl ⟨_, rfl, rfl, rfl⟩⟩
  | checked first => exact .inr ⟨_, _, _, _, first, .inl ⟨.validating _ _, rfl, rfl, rfl⟩⟩
  | foundClosed first => exact .inr ⟨_, _, _, _, first, .inl ⟨.discarding _, rfl, rfl, rfl⟩⟩
  | lent first => exact .inr ⟨_, _, 0, 0, first, .inr rfl⟩

/-! ### What borrowers leave as it is -/

/-- What no step of a borrower and no connection that comes back changes. -/
structure Untouched (s t : State) : Prop where
  config : t.config = s.config
  warmUps : t.warmUps = s.warmUps
  closers : t.closers = s.closers
  opened : t.opened = s.opened
  closed : t.closed = s.closed

/-- What no step of a borrower changes: beside that, the connections on their way out. -/
structure Undisturbed (s t : State) : Prop extends Untouched s t where
  retiring : t.retiring = s.retiring
  closings : t.closings = s.closings

section Untouched

variable (s : State) (call : Nat)

theorem Untouched.trans {s t u : State} (first : Untouched s t) (second : Untouched t u) :
    Untouched s u where
  config := second.config.trans first.config
  warmUps := second.warmUps.trans first.warmUps
  closers := second.closers.trans first.closers
  opened := second.opened.trans first.opened
  closed := second.closed.trans first.closed

theorem Undisturbed.trans {s t u : State} (first : Undisturbed s t) (second : Undisturbed t u) :
    Undisturbed s u where
  toUntouched := first.toUntouched.trans second.toUntouched
  retiring := second.retiring.trans first.retiring
  closings := second.closings.trans first.closings

theorem undisturbed_release : Undisturbed s s.release := by
  obtain ⟨free, gets, eq, _⟩ := release_spec s
  rw [eq]
  exact ⟨⟨rfl, rfl, rfl, rfl, rfl⟩, rfl, rfl⟩

theorem undisturbed_leave : Undisturbed s (s.leave call) := by
  have left : Undisturbed s { s with gets := others call s.gets } :=
    ⟨⟨rfl, rfl, rfl, rfl, rfl⟩, rfl, rfl⟩
  rcases leave_cases s call with eq | eq
  · rwa [eq]
  · rw [eq]
    exact left.trans (undisturbed_release _)

theorem undisturbed_fail (cause : Error) : Undisturbed s (s.fail call cause) :=
  (undisturbed_leave s call).trans ⟨⟨rfl, rfl, rfl, rfl, rfl⟩, rfl, rfl⟩

theorem undisturbed_setGet (get : Get) : Undisturbed s (s.setGet call get) :=
  ⟨⟨rfl, rfl, rfl, rfl, rfl⟩, rfl, rfl⟩

theorem undisturbed_lend (loan : Loan) : Undisturbed s (s.lend call loan) :=
  ⟨⟨rfl, rfl, rfl, rfl, rfl⟩, rfl, rfl⟩

theorem undisturbed_examine : Undisturbed s (s.examine call) := by
  rcases examine_cases s call with ⟨_, eq⟩ | ⟨_, _, _, _, _, ⟨_, _, _, eq⟩ | eq⟩ <;> rw [eq] <;>
    exact ⟨⟨rfl, rfl, rfl, rfl, rfl⟩, rfl, rfl⟩

theorem undisturbed_startGet : Undisturbed s (s.startGet call) := by
  unfold State.startGet
  dsimp only
  split
  · exact ⟨⟨rfl, rfl, rfl, rfl, rfl⟩, rfl, rfl⟩
  split
  · exact ⟨⟨rfl, rfl, rfl, rfl, rfl⟩, rfl, rfl⟩
  · refine Undisturbed.trans ?_ (undisturbed_examine _ call)
    exact ⟨⟨rfl, rfl, rfl, rfl, rfl⟩, rfl, rfl⟩

/-- A connection that comes back is closed already, is sent on its way out, or becomes idle. -/
theorem takeBack_cases (loan : Loan) (outside : Bool) :
    (loan.connection ∈ s.closed ∧ s.takeBack loan outside = s) ∨
      (∃ pastLifetime overIdleCap, s.takeBack loan outside =
        { s with pastLifetime, overIdleCap }.retire loan.connection outside) ∨
      s.idle.length < s.config.maxIdle ∧ s.takeBack loan outside =
        { s with idle := s.idle ++ [⟨loan.connection, loan.createdAt, s.now⟩] } := by
  unfold State.takeBack
  split
  · next closed => exact .inl ⟨List.contains_iff_mem.mp closed, rfl⟩
  split
  · exact .inr (.inl ⟨_, _, rfl⟩)
  split
  · exact .inr (.inl ⟨_, _, rfl⟩)
  split
  · exact .inr (.inl ⟨_, _, rfl⟩)
  · next room => exact .inr (.inr ⟨Nat.lt_of_not_le room, rfl⟩)

theorem retire_eq (connection : Nat) (outside : Bool) :
    ∃ retiring closings, s.retire connection outside = { s with retiring, closings } := by
  cases outside <;> exact ⟨_, _, rfl⟩

theorem untouched_takeBack (loan : Loan) (outside : Bool) :
    Untouched s (s.takeBack loan outside) := by
  rcases takeBack_cases s loan outside with ⟨_, eq⟩ | ⟨_, _, eq⟩ | ⟨_, eq⟩
  · rw [eq]
    exact ⟨rfl, rfl, rfl, rfl, rfl⟩
  · obtain ⟨_, _, eq'⟩ := retire_eq _ loan.connection outside
    rw [eq, eq']
    exact ⟨rfl, rfl, rfl, rfl, rfl⟩
  · rw [eq]
    exact ⟨rfl, rfl, rfl, rfl, rfl⟩

theorem untouched_giveBack (loans : List Loan) (active : Nat) (loan : Loan) (outside : Bool) :
    Untouched s ({ s with loans, active }.takeBack loan outside).release := by
  refine Untouched.trans (Untouched.trans ?_ (untouched_takeBack _ loan outside))
    (undisturbed_release _).toUntouched
  exact ⟨rfl, rfl, rfl, rfl, rfl⟩

/-- A connection that comes back is sent on its way out, or what is on its way out stays as it is. -/
theorem giveBack_cases (loans : List Loan) (active : Nat) (loan : Loan) (outside : Bool) :
    Undisturbed s ({ s with loans, active }.takeBack loan outside).release ∨
      ∃ t, Undisturbed s t ∧ Undisturbed (t.retire loan.connection outside)
        ({ s with loans, active }.takeBack loan outside).release := by
  rcases takeBack_cases { s with loans, active } loan outside with
    ⟨_, eq⟩ | ⟨pastLifetime, overIdleCap, eq⟩ | ⟨_, eq⟩
  · rw [eq]
    refine .inl (Undisturbed.trans ?_ (undisturbed_release _))
    exact ⟨⟨rfl, rfl, rfl, rfl, rfl⟩, rfl, rfl⟩
  · rw [eq]
    refine .inr ⟨{ s with loans, active, pastLifetime, overIdleCap }, ?_, undisturbed_release _⟩
    exact ⟨⟨rfl, rfl, rfl, rfl, rfl⟩, rfl, rfl⟩
  · rw [eq]
    refine .inl (Undisturbed.trans ?_ (undisturbed_release _))
    exact ⟨⟨rfl, rfl, rfl, rfl, rfl⟩, rfl, rfl⟩

end Untouched

end SqlProbe.Pool
