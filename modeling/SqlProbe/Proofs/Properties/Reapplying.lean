import SqlProbe.Proofs.Properties.Applying

/-!
# Applying properties again

A change keeps a part of a configuration or puts a value into it, whatever was there before. The one
exception is the mode of transport security, which `useSSL` raises if it secures nothing and keeps
otherwise; raising it once more does nothing. So what a bag of changes comes to is of these three
kinds too, and a bag has done with the first application all that it does.
-/

namespace SqlProbe.Properties

/-! ### Moves of one part -/

/-- What a move of a whole does to one part of it: the part is kept, raised in the one way that there
is, or put to a value. -/
inductive Settles {σ β : Type} (part : σ → β) (raise : β → β) (move : σ → σ) : Prop
  | keeps (same : ∀ whole, part (move whole) = part whole)
  | raises (same : ∀ whole, part (move whole) = raise (part whole))
  | puts (value : β) (same : ∀ whole, part (move whole) = value)

section
variable {σ β : Type} {part : σ → β} {raise : β → β} (once : ∀ held, raise (raise held) = raise held)
include once

theorem Settles.comp {first second : σ → σ} (one : Settles part raise first)
    (other : Settles part raise second) : Settles part raise fun whole => second (first whole) := by
  cases other with
  | keeps kept =>
    cases one with
    | keeps same => exact .keeps fun whole => (kept _).trans (same whole)
    | raises same => exact .raises fun whole => (kept _).trans (same whole)
    | puts value same => exact .puts value fun whole => (kept _).trans (same whole)
  | raises raised =>
    cases one with
    | keeps same =>
      apply Settles.raises
      intro whole
      rw [raised, same]
    | raises same =>
      apply Settles.raises
      intro whole
      rw [raised, same, once]
    | puts value same =>
      apply Settles.puts (raise value)
      intro whole
      rw [raised, same]
  | puts value put => exact .puts value fun whole => put _

theorem Settles.foldl {α : Type} {step : σ → α → σ}
    (each : ∀ a, Settles part raise fun whole => step whole a) (l : List α) :
    Settles part raise fun whole => l.foldl step whole := by
  induction l with
  | nil => exact .keeps fun _ => rfl
  | cons a l ih => exact Settles.comp once (each a) ih

theorem Settles.twice {move : σ → σ} (settles : Settles part raise move) (whole : σ) :
    part (move (move whole)) = part (move whole) := by
  cases settles with
  | keeps same => exact same (move whole)
  | raises same => rw [same, same, once]
  | puts value same => rw [same, same]

/-- A part that each of several moves settles is the same when all are made a second time. -/
theorem part_foldl_twice {α : Type} {step : σ → α → σ}
    (each : ∀ a, Settles part raise fun whole => step whole a) (l : List α) (whole : σ) :
    part (l.foldl step (l.foldl step whole)) = part (l.foldl step whole) :=
  (Settles.foldl once each l).twice once whole

end

/-! ### Changes of a configuration -/

/-- The mode that `useSSL` leaves. -/
def raiseMode (mode : Tls.Mode) : Tls.Mode := if mode = .disable then .prefer else mode

theorem raiseMode_raiseMode (mode : Tls.Mode) : raiseMode (raiseMode mode) = raiseMode mode := by
  cases mode <;> rfl

section
variable (change : Change)

theorem settles_slot (slot : Slot) : Settles slot.get? id fun config => change.apply config := by
  cases put : slot.put? change with
  | none =>
    apply Settles.keeps
    intro config
    rw [slot.get?_apply, put, Option.none_or]
  | some value =>
    apply Settles.puts (some value)
    intro config
    rw [slot.get?_apply, put, Option.some_or]

theorem settles_database : Settles Config.database id fun config => change.apply config := by
  cases change with
  | database name => exact .puts (Config.databaseNamed name) fun _ => rfl
  | _ => exact .keeps fun _ => rfl

theorem settles_timeout : Settles Config.connectTimeout id fun config => change.apply config := by
  cases change with
  | timeout milliseconds => exact .puts milliseconds fun _ => rfl
  | _ => exact .keeps fun _ => rfl

theorem settles_mode : Settles Tls.Settings.mode raiseMode fun tls => change.secure tls := by
  cases change with
  | useTls on =>
    cases on with
    | false => exact .puts .disable fun _ => rfl
    | true =>
      apply Settles.raises
      intro tls
      by_cases plain : tls.mode = .disable <;> simp [Change.secure, raiseMode, plain]
  | requireTls on =>
    cases on with
    | false => exact .keeps fun _ => rfl
    | true => exact .puts .require fun _ => rfl
  | tlsMode mode => exact .puts mode fun _ => rfl
  | tlsPath kind path => exact .keeps fun _ => by cases kind <;> rfl
  | _ => exact .keeps fun _ => rfl

theorem settles_verifyServer : Settles Tls.Settings.verifyServer id fun tls => change.secure tls := by
  cases change with
  | useTls on =>
    cases on with
    | false => exact .puts false fun _ => rfl
    | true =>
      apply Settles.keeps
      intro tls
      by_cases plain : tls.mode = .disable <;> simp [Change.secure, plain]
  | requireTls on => exact .keeps fun _ => by cases on <;> rfl
  | tlsMode mode => exact .puts mode.verifies fun _ => rfl
  | tlsPath kind path => exact .keeps fun _ => by cases kind <;> rfl
  | _ => exact .keeps fun _ => rfl

theorem settles_path (kind : Tls.PathKind) :
    Settles (fun tls => tls.path? kind) id fun tls => change.secure tls := by
  cases change with
  | useTls on =>
    cases on with
    | false => exact .puts none fun _ => by cases kind <;> rfl
    | true =>
      apply Settles.keeps
      intro tls
      by_cases plain : tls.mode = .disable <;> cases kind <;>
        simp [Change.secure, plain, Tls.Settings.path?]
  | requireTls on => exact .keeps fun _ => by cases on <;> cases kind <;> rfl
  | tlsMode mode => exact .keeps fun _ => by cases kind <;> rfl
  | tlsPath other path =>
    by_cases same : other = kind
    · subst same
      exact .puts (some path) fun _ => by cases other <;> rfl
    · exact .keeps fun _ => by cases other <;> cases kind <;> first | rfl | contradiction
  | _ => exact .keeps fun _ => rfl

end

theorem tls_eq_of_parts {a b : Tls.Settings} (mode : a.mode = b.mode)
    (verify : a.verifyServer = b.verifyServer) (paths : ∀ kind, a.path? kind = b.path? kind) :
    a = b := by
  obtain ⟨aMode, aCa, aCert, aKey, aVerify⟩ := a
  obtain ⟨bMode, bCa, bCert, bKey, bVerify⟩ := b
  have ca : aCa = bCa := paths .ca
  have cert : aCert = bCert := paths .clientCert
  have key : aKey = bKey := paths .clientKey
  subst mode verify ca cert key
  rfl

theorem foldl_secure_twice (made : List Change) (tls : Tls.Settings) :
    made.foldl Change.secure (made.foldl Change.secure tls) = made.foldl Change.secure tls := by
  apply tls_eq_of_parts
  · exact part_foldl_twice raiseMode_raiseMode settles_mode made tls
  · exact part_foldl_twice (fun _ => rfl) settles_verifyServer made tls
  · intro kind
    exact part_foldl_twice (fun _ => rfl) (fun change => settles_path change kind) made tls

/-- Changes that were all made already change nothing any more. -/
theorem foldl_apply_twice (made : List Change) (config : Config) :
    made.foldl Change.apply (made.foldl Change.apply config) = made.foldl Change.apply config := by
  rw [← List.foldl_append, foldl_apply_eq_iff]
  simp only [List.foldl_append]
  refine ⟨?_, ?_, ?_, ?_⟩
  · exact part_foldl_twice (fun _ => rfl) settles_database made config
  · exact part_foldl_twice (fun _ => rfl) settles_timeout made config
  · rw [tls_foldl_apply, tls_foldl_apply]
    exact foldl_secure_twice made config.tls
  · intro slot
    exact part_foldl_twice (fun _ => rfl) (fun change => settles_slot change slot) made config

/-- A bag that was applied to a configuration leaves it as it is when it is applied again. -/
theorem applyTo_idempotent {bag : Properties} {config result : Config}
    (applied : bag.applyTo config = .ok result) : bag.applyTo result = .ok result := by
  obtain ⟨accepted, rfl⟩ := applyTo_eq_ok_iff.mp applied
  exact applyTo_eq_ok_iff.mpr ⟨accepted, foldl_apply_twice (changes bag.ordered) config⟩

/-- Two spellings of one switch throw the settings of the base away and raise the mode again. -/
theorem applyTo_idempotent_switches :
    let bag := ofList [("useSSL", "true"), ("USE-SSL", "off"), ("ssl-ca", "/ca"),
      ("server_timezone", "+8"), ("app", "probe")]
    let base := { Config.mysqlDefault with tls := { mode := .verifyFull, caCert := some "/old" } }
    let result := { base with
      tls := { mode := .prefer, caCert := some "/ca" }
      params := SortedMap.ofList [("app", "probe"), ("serverTimezone", "+08:00")] }
    bag.applyTo base = .ok result ∧ bag.applyTo result = .ok result := by
  intro bag base result
  have order : bag.ordered = [("USE-SSL", "off"), ("useSSL", "true"), ("app", "probe"),
      ("server_timezone", "+8"), ("ssl-ca", "/ca")] := by
    refine ordered_eq (by decide) ?_
    simp only [← appliedBefore_iff]
    decide
  have applied : bag.applyTo base = .ok result :=
    applyTo_eq_ok_iff.mpr ⟨by decide, by rw [order]; decide⟩
  exact ⟨applied, applyTo_idempotent applied⟩

end SqlProbe.Properties
