import Mathlib.Data.List.Induction
import SqlProbe.Mysql.Client
import SqlProbe.Mysql.ScriptedServer
import SqlProbe.Proofs.Sql.Rendering

/-!
# Statements that are bound step by step

Between its runs a prepared statement is bound one parameter at a time, in any order and as often as
one likes, and cleared. Whatever has been done to it, each parameter holds what was bound to it last
since the last clearing. So a run sends the text that is sent when these values are given in a list,
or fails for want of the first value that is missing.
-/

namespace SqlProbe.Sql

/-! ### Histories -/

/-- What is done to a prepared statement between its runs. -/
inductive Statement.Operation where
  | bind (index : Nat) (value : Value)
  | clear
  deriving DecidableEq

namespace Statement

/-- The value that an operation binds to a parameter. -/
def Operation.value? (index : Nat) : Operation → Option Value
  | bind other value => if other = index then some value else none
  | clear => none

/-- How an operation ends, and the statement afterwards, which is left alone by one that fails. -/
def perform (statement : Statement) : Operation → Except Error Unit × Statement
  | .bind index value =>
    match statement.bind index value with
    | .ok bound => (.ok (), bound)
    | .error cause => (.error cause, statement)
  | .clear => (.ok (), statement.clear)

/-- The statement after a history of operations. -/
def after (statement : Statement) (history : List Operation) : Statement :=
  history.foldl (fun statement operation => (statement.perform operation).2) statement

theorem after_concat (statement : Statement) (history : List Operation) (operation : Operation) :
    statement.after (history ++ [operation]) = ((statement.after history).perform operation).2 := by
  rw [after, List.foldl_append]
  rfl

/-- The operations behind the last clearing. -/
def sinceCleared (history : List Operation) : List Operation :=
  (history.reverse.takeWhile (· != .clear)).reverse

/-- A parameter has been bound since the last clearing. -/
def IsBound (history : List Operation) (index : Nat) : Prop :=
  ∃ value, .bind index value ∈ sinceCleared history

/-- The value that was bound to a parameter last since the last clearing. -/
def lastBound? (history : List Operation) (index : Nat) : Option Value :=
  ((sinceCleared history).filterMap (Operation.value? index)).getLast?

@[simp] theorem lastBound?_nil (index : Nat) : lastBound? [] index = none := rfl

@[simp] theorem lastBound?_concat_clear (history : List Operation) (index : Nat) :
    lastBound? (history ++ [.clear]) index = none := by
  simp [lastBound?, sinceCleared]

@[simp] theorem lastBound?_concat_bind (history : List Operation) (index other : Nat)
    (value : Value) : lastBound? (history ++ [.bind index value]) other =
      if index = other then some value else lastBound? history other := by
  by_cases same : index = other <;> simp [lastBound?, sinceCleared, Operation.value?, same]

theorem value?_eq_some_iff {index : Nat} {operation : Operation} {value : Value} :
    operation.value? index = some value ↔ operation = .bind index value := by
  cases operation <;> simp [Operation.value?]

theorem isBound_iff {history : List Operation} {index : Nat} :
    IsBound history index ↔ (lastBound? history index).isSome := by
  rw [← Option.ne_none_iff_isSome, lastBound?, Ne, List.getLast?_eq_none_iff,
    List.filterMap_eq_nil_iff]
  constructor
  · rintro ⟨value, member⟩ none
    exact Option.some_ne_none _ ((value?_eq_some_iff.mpr rfl).symm.trans (none _ member))
  · intro some
    push Not at some
    obtain ⟨operation, member, puts⟩ := some
    obtain ⟨value, puts⟩ := Option.ne_none_iff_exists'.mp puts
    exact ⟨value, value?_eq_some_iff.mp puts ▸ member⟩

end Statement

/-! ### Slots -/

namespace Bindings

/-- The parameters as a history leaves them. -/
def ofHistory (count : Nat) (history : List Statement.Operation) : Bindings :=
  ⟨(List.range' 1 count).map (Statement.lastBound? history)⟩

@[simp] theorem size_ofHistory (count : Nat) (history : List Statement.Operation) :
    (ofHistory count history).size = count := by
  simp [ofHistory, size]

theorem unbound_eq (count : Nat) : unbound count = ofHistory count [] := by
  have empty : Statement.lastBound? [] = fun _ => none := rfl
  rw [unbound, ofHistory, empty, List.map_const', List.length_range']

theorem unbound_eq_clear (count : Nat) (history : List Statement.Operation) :
    unbound count = ofHistory count (history ++ [.clear]) := by
  rw [unbound_eq]
  simp [ofHistory]

theorem set_slots_ofHistory {count index : Nat} (history : List Statement.Operation) (value : Value)
    (least : 1 ≤ index) :
    (ofHistory count history).slots.set (index - 1) (some value) =
      (ofHistory count (history ++ [.bind index value])).slots := by
  refine List.ext_getElem (by simp [ofHistory]) fun i here there => ?_
  have place : index - 1 = i ↔ index = 1 + i := by omega
  simp [ofHistory, List.getElem_set, List.getElem_range', place]

theorem ofHistory_concat_outside {count index : Nat} (history : List Statement.Operation)
    (value : Value) (outside : ¬ (1 ≤ index ∧ index ≤ count)) :
    ofHistory count (history ++ [.bind index value]) = ofHistory count history := by
  simp only [ofHistory, mk.injEq]
  refine List.map_congr_left fun other member => ?_
  rw [Statement.lastBound?_concat_bind, if_neg]
  rintro rfl
  rw [List.mem_range'_1] at member
  exact outside ⟨member.1, by omega⟩

theorem valuesFrom_eq_ok_iff {index : Nat} {slots : List (Option Value)} {values : List Value} :
    valuesFrom index slots = .ok values ↔ slots = values.map some := by
  induction slots generalizing index values with
  | nil => cases values <;> simp [valuesFrom]
  | cons slot slots ih =>
    cases slot with
    | none => cases values <;> simp [valuesFrom]
    | some value =>
      rw [valuesFrom]
      cases rest : valuesFrom (index + 1) slots with
      | error cause =>
        refine iff_of_false nofun fun same => ?_
        cases values with
        | nil => cases same
        | cons _ values => cases (ih.mpr (List.cons.inj same).2).symm.trans rest
      | ok more =>
        obtain rfl := ih.mp rest
        cases values with
        | nil => simp [Except.map]
        | cons first values =>
          simp [Except.map, List.map_inj_right]

/-- The first empty slot decides the error. -/
theorem valuesFrom_of_empty (index : Nat) (values : List Value) (slots : List (Option Value)) :
    valuesFrom index (values.map some ++ none :: slots) =
      .error (missing (index + values.length)) := by
  induction values generalizing index with
  | nil => rfl
  | cons value values ih =>
    rw [List.map_cons, List.cons_append, valuesFrom, ih, List.length_cons]
    exact congrArg (fun index => Except.error (missing index)) (by omega)

end Bindings

/-! ### Statements -/

namespace Statement

section
variable {template : Template} {count index : Nat} (history : List Operation) (value : Value)

theorem perform_inside (inside : 1 ≤ index ∧ index ≤ count) :
    perform ⟨template, .ofHistory count history⟩ (.bind index value) =
      (.ok (), ⟨template, .ofHistory count (history ++ [.bind index value])⟩) := by
  have bound : (Bindings.ofHistory count history).bind index value =
      .ok (.ofHistory count (history ++ [.bind index value])) := by
    rw [Bindings.bind, Bindings.size_ofHistory, if_pos inside,
      Bindings.set_slots_ofHistory history value inside.1]
  rw [perform, Statement.bind, bound]
  rfl

theorem perform_outside (outside : ¬ (1 ≤ index ∧ index ≤ count)) :
    perform ⟨template, .ofHistory count history⟩ (.bind index value) =
      (.error (Bindings.outOfRange index count), ⟨template, .ofHistory count history⟩) := by
  have refused : (Bindings.ofHistory count history).bind index value =
      .error (Bindings.outOfRange index count) := by
    rw [Bindings.bind, Bindings.size_ofHistory, if_neg outside]
  rw [perform, Statement.bind, refused]
  rfl

end

/-- One more operation is one more entry of the history. -/
theorem perform_ofHistory (template : Template) (count : Nat) (history : List Operation)
    (operation : Operation) : (perform ⟨template, .ofHistory count history⟩ operation).2 =
      ⟨template, .ofHistory count (history ++ [operation])⟩ := by
  cases operation with
  | bind index value =>
    by_cases inside : 1 ≤ index ∧ index ≤ count
    · rw [perform_inside history value inside]
    · rw [perform_outside history value inside,
        Bindings.ofHistory_concat_outside history value inside]
  | clear =>
    change Statement.mk template (Bindings.clear _) = _
    rw [Bindings.clear, Bindings.size_ofHistory, Bindings.unbound_eq_clear]

/-- A prepared statement holds what its history has left. -/
theorem after_prepare (sql : String) (history : List Operation) : (prepare sql).after history =
    ⟨.parse sql, .ofHistory (Template.parse sql).placeholderCount history⟩ := by
  induction history using List.reverseRecOn with
  | nil => exact congrArg (Statement.mk _) (Bindings.unbound_eq _)
  | append_singleton history operation ih =>
    rw [after_concat, ih, perform_ofHistory]

/-! ### Runs -/

/-- The values in a list are those that were bound last to as many parameters. -/
def Holds (history : List Operation) (values : List Value) : Prop :=
  (List.range' 1 values.length).map (lastBound? history) = values.map some

instance (history : List Operation) (values : List Value) : Decidable (Holds history values) :=
  inferInstanceAs (Decidable (_ = values.map some))

/-- A parameter is the first that is not bound. -/
structure FirstUnbound (history : List Operation) (index : Nat) : Prop where
  least : 1 ≤ index
  unbound : ¬ IsBound history index
  earlier : ∀ other, 1 ≤ other → other < index → IsBound history other

section
variable {sql : String} {history : List Operation} {values : List Value}

theorem Holds.isBound (held : Holds history values) {index : Nat} (least : 1 ≤ index)
    (most : index ≤ values.length) : IsBound history index := by
  have place : 1 + (index - 1) = index := by omega
  have bound : index - 1 < values.length := by omega
  have slot := congrArg (fun slots => slots[index - 1]?) held
  simp only [List.getElem?_map, List.getElem?_range' bound, Option.map_some, Nat.one_mul, place,
    List.getElem?_eq_getElem bound, Option.some.injEq] at slot
  exact isBound_iff.mpr (Option.isSome_iff_exists.mpr ⟨_, slot⟩)

/-- Either all of the parameters are bound, or there is a first one that is not. -/
theorem holds_or_firstUnbound (history : List Operation) (count : Nat) :
    (∃ values : List Value, values.length = count ∧ Holds history values) ∨
      ∃ index ≤ count, FirstUnbound history index := by
  induction count with
  | zero => exact .inl ⟨[], rfl, rfl⟩
  | succ count ih =>
    rcases ih with ⟨values, rfl, held⟩ | ⟨index, most, first⟩
    · cases slot : lastBound? history (values.length + 1) with
      | some value =>
        refine .inl ⟨values ++ [value], by simp, ?_⟩
        rw [Holds, List.length_append, List.length_singleton, List.range'_concat, List.map_append,
          held, List.map_append]
        simpa [Nat.add_comm] using slot
      | none =>
        refine .inr ⟨_, le_rfl, Nat.le_add_left .., ?_, fun other least before => ?_⟩
        · simp [isBound_iff, slot]
        · exact held.isBound least (Nat.le_of_lt_succ before)
    · exact .inr ⟨index, most.trans (Nat.le_succ _), first⟩

/-- With all its parameters bound a statement sends what is sent for the list of their values. -/
theorem render_of_holds (counted : values.length = (Template.parse sql).placeholderCount)
    (held : Holds history values) : ((prepare sql).after history).render = Sql.bind sql values := by
  have slots : (Bindings.ofHistory values.length history).values = .ok values := by
    rw [Bindings.values, Bindings.valuesFrom_eq_ok_iff]
    exact held
  rw [after_prepare, render, ← counted, slots]
  change (Template.parse sql).render values literal = _
  rw [Sql.bind]
  split
  · next none =>
    subst none
    rw [Template.render, if_pos counted, List.map_nil, Template.fill_nil counted.symm]
  · rfl

theorem exists_bind_eq_ok (counted : values.length = (Template.parse sql).placeholderCount) :
    ∃ text, Sql.bind sql values = .ok text := by
  rw [Sql.bind]
  split
  · exact ⟨_, rfl⟩
  · exact ⟨_, if_pos counted⟩

/-- A statement that lacks the value of a parameter, and of none before it, is not run for want of
it. -/
theorem render_of_firstUnbound {index : Nat} (first : FirstUnbound history index)
    (most : index ≤ (Template.parse sql).placeholderCount) :
    ((prepare sql).after history).render = .error (Bindings.missing index) := by
  have least := first.least
  rcases holds_or_firstUnbound history (index - 1) with
    ⟨values, counted, held⟩ | ⟨other, less, before⟩
  · obtain ⟨behind, count⟩ := Nat.exists_eq_add_of_le most
    have place : 1 + values.length = index := by omega
    have empty : lastBound? history index = none := by simpa [isBound_iff] using first.unbound
    have slots : (Bindings.ofHistory (Template.parse sql).placeholderCount history).slots =
        values.map some ++ none :: (List.range' (index + 1) behind).map (lastBound? history) := by
      have split : index + behind = values.length + (behind + 1) := by omega
      rw [Bindings.ofHistory, count, split, ← List.range'_append_1, List.map_append, held, place,
        List.range'_succ, List.map_cons, empty]
    rw [after_prepare, render, Bindings.values, slots, Bindings.valuesFrom_of_empty, place]
    rfl
  · exact absurd (first.earlier other before.least (by omega)) before.unbound

end

/-- What running a prepared statement of a text comes to after a history of operations. -/
structure RunsAs (sql : String) (history : List Operation) (statement : Statement) : Prop where
  parameterCount : statement.parameterCount = (Template.parse sql).placeholderCount
  /-- There is a text to send exactly if each parameter has been bound since the last clearing. -/
  renders_iff : (∃ text, statement.render = .ok text) ↔
    ∀ index, 1 ≤ index → index ≤ statement.parameterCount → IsBound history index
  /-- It is the text that is sent for the list of the values that were bound last. -/
  render_eq_bind : (∃ text, statement.render = .ok text) → ∃ values,
    values.length = statement.parameterCount ∧ Holds history values ∧
      statement.render = Sql.bind sql values
  /-- Otherwise the error names the first parameter that is not bound. -/
  render_eq_error : ∀ index ≤ statement.parameterCount, FirstUnbound history index →
    statement.render = .error (Bindings.missing index)
  /-- The parameters there are can be bound. -/
  binds : ∀ index value, 1 ≤ index ∧ index ≤ statement.parameterCount →
    (statement.perform (.bind index value)).1 = .ok ()
  /-- All others are refused, and nothing changes. -/
  refuses : ∀ index value, ¬ (1 ≤ index ∧ index ≤ statement.parameterCount) →
    statement.perform (.bind index value) =
      (.error (Bindings.outOfRange index statement.parameterCount), statement)
  /-- The template is never given more values or fewer than it has placeholders. -/
  counted : ∀ values, statement.bindings.values = .ok values →
    values.length = statement.template.placeholderCount

theorem runsAs (sql : String) (history : List Operation) :
    RunsAs sql history ((prepare sql).after history) := by
  have count : ((prepare sql).after history).parameterCount =
      (Template.parse sql).placeholderCount := by
    rw [after_prepare, Statement.parameterCount, Bindings.size_ofHistory]
  constructor
  case parameterCount => exact count
  case renders_iff =>
    rw [count]
    rcases holds_or_firstUnbound history (Template.parse sql).placeholderCount with
      ⟨values, counted, held⟩ | ⟨index, most, first⟩
    · rw [render_of_holds counted held]
      exact iff_of_true (exists_bind_eq_ok counted) fun index least most =>
        held.isBound least (counted ▸ most)
    · rw [render_of_firstUnbound first most]
      exact iff_of_false nofun fun bound => first.unbound (bound index first.least most)
  case render_eq_bind =>
    rw [count]
    rcases holds_or_firstUnbound history (Template.parse sql).placeholderCount with
      ⟨values, counted, held⟩ | ⟨index, most, first⟩
    · exact fun _ => ⟨values, counted, held, render_of_holds counted held⟩
    · rw [render_of_firstUnbound first most]
      exact nofun
  case render_eq_error =>
    rw [count]
    exact fun index most first => render_of_firstUnbound first most
  case binds =>
    rw [count, after_prepare]
    exact fun index value inside => by rw [perform_inside history value inside]
  case refuses =>
    rw [count, after_prepare]
    exact fun index value outside => perform_outside history value outside
  case counted =>
    intro values ok
    rw [after_prepare, Bindings.values, Bindings.valuesFrom_eq_ok_iff] at ok
    rw [after_prepare, ← List.length_map, ← ok]
    exact Bindings.size_ofHistory ..

end Statement

end SqlProbe.Sql

namespace SqlProbe.Mysql

open Sql.Statement (FirstUnbound Holds Operation RunsAs)

variable {σ α : Type}

/-- What takes no exchange with the server is done as it is on an open connection. -/
theorem Client.run_onOpen_instant {connection : Nat} {client : Client σ}
    (opened : client.isClosed connection = false) (outcome : Client σ → Except Error α) :
    (onOpen connection (.instant outcome)).run client = (outcome client, client) := by
  have answered : (onOpen connection (.instant outcome)).atOnce client =
      some (outcome client, client) := if_neg (Bool.eq_false_iff.mp opened)
  rw [Call.run, answered]

/-- A text that is prepared on an open connection, bound and cleared in whatever way, is sent as the
same text with the values that were bound last, and not sent while a value is missing. -/
theorem prepared_runs_as_direct (fileExists : String → Bool) (network : Network σ)
    {connection : Nat} {client : Client σ} (opened : client.isClosed connection = false)
    (sql : String) (history : List Operation) :
    let driver := driver fileExists network
    let statement := (Sql.Statement.prepare sql).after history
    (driver.prepare connection sql).run client = (.ok (.prepare sql), client) ∧
      RunsAs sql history statement ∧
      (∀ values, values.length = statement.parameterCount → Holds history values →
        driver.queryStatement connection statement = driver.query connection sql values ∧
        driver.executeStatement connection statement = driver.execute connection sql values) ∧
      ∀ index ≤ statement.parameterCount, FirstUnbound history index →
        (driver.queryStatement connection statement).run client =
          (.error (Sql.Bindings.missing index), client) ∧
        (driver.executeStatement connection statement).run client =
          (.error (Sql.Bindings.missing index), client) := by
  intro driver statement
  have runs := Sql.Statement.runsAs sql history
  refine ⟨?_, runs, fun values counted held => ?_, fun index most first => ?_⟩
  · exact Client.run_onOpen_instant opened _
  · have same := Sql.Statement.render_of_holds (counted.trans runs.parameterCount) held
    exact ⟨congrArg (Client.sendText network connection Client.resultOf) same,
      congrArg (Client.sendText network connection Client.statementResultOf) same⟩
  · have missing := runs.render_eq_error index most first
    change (Client.sendText network connection Client.resultOf statement.render).run client = _ ∧
      (Client.sendText network connection Client.statementResultOf statement.render).run client = _
    rw [missing]
    exact ⟨Client.run_onOpen_instant opened _, Client.run_onOpen_instant opened _⟩

/-- What is bound before a clearing counts for nothing, a third parameter is not there, and the
second one is bound twice. -/
theorem prepared_runs_as_direct_rebound :
    let client : Client ScriptedServer :=
      { network := { script := {}, connections := 1 }, links := [{ server := {}, session := {} }] }
    let history : List Operation := [.bind 1 .null, .clear, .bind 2 (.int32 7), .bind 3 .null,
      .bind 2 (.string "'?"), .bind 1 (.int32 (-5))]
    let driver := driver (fun _ => false) ScriptedServer.network
    let statement := (Sql.Statement.prepare "SELECT ?, ?").after history
    client.isClosed 1 = false ∧ Holds history [.int32 (-5), .string "'?"] ∧
      driver.queryStatement 1 statement =
        driver.query 1 "SELECT ?, ?" [.int32 (-5), .string "'?"] := by
  intro client history driver statement
  have opened : client.isClosed 1 = false := rfl
  have held : Holds history [.int32 (-5), .string "'?"] := by decide
  obtain ⟨-, -, same, -⟩ := prepared_runs_as_direct (fun _ => false) ScriptedServer.network opened
    "SELECT ?, ?" history
  exact ⟨opened, held, (same _ (by decide +kernel) held).1⟩

end SqlProbe.Mysql
