import SqlProbe.Pool.Config

/-!
# Configurations that are made in code

A program makes a configuration from its sizes or takes the default one, and then changes single
settings. No order of such changes brings the sizes out of their order.
-/

namespace SqlProbe.Pool.Config

/-- The configurations that a program can make. -/
inductive Built : Config → Prop
  | ofSizes {minSize maxSize : Nat} {config : Config} (made : ofSizes minSize maxSize = .ok config) :
      Built config
  | default : Built {}
  | withMaxIdle {config : Config} (built : Built config) (maxIdle : Nat) :
      Built (config.withMaxIdle maxIdle)
  | withAcquireTimeout {config : Config} (built : Built config) (acquireTimeout : Nat) :
      Built (config.withAcquireTimeout acquireTimeout)
  | withIdleTimeout {config : Config} (built : Built config) (idleTimeout : Nat) :
      Built (config.withIdleTimeout idleTimeout)
  | withMaxLifetime {config : Config} (built : Built config) (maxLifetime : Nat) :
      Built (config.withMaxLifetime maxLifetime)

/-- The sizes of a configuration are in order. -/
structure Ordered (config : Config) : Prop where
  positive : 0 < config.maxSize
  minSize : config.minSize ≤ config.maxSize
  maxIdle : config.maxIdle ≤ config.maxSize

theorem ordered_ofSizes {minSize maxSize : Nat} {config : Config}
    (made : ofSizes minSize maxSize = .ok config) : config.Ordered := by
  unfold ofSizes at made
  split at made
  · contradiction
  split at made
  · contradiction
  · next positive fits =>
    cases made
    exact ⟨Nat.pos_of_ne_zero positive, Nat.le_of_not_lt fits, Nat.le_refl _⟩

theorem Built.ordered {config : Config} (built : Built config) : config.Ordered := by
  induction built with
  | ofSizes made => exact ordered_ofSizes made
  | default => exact ⟨by decide, by decide, by decide⟩
  | withMaxIdle _ maxIdle ih => exact ⟨ih.positive, ih.minSize, Nat.min_le_right _ _⟩
  | withAcquireTimeout _ _ ih => exact ⟨ih.positive, ih.minSize, ih.maxIdle⟩
  | withIdleTimeout _ _ ih => exact ⟨ih.positive, ih.minSize, ih.maxIdle⟩
  | withMaxLifetime _ _ ih => exact ⟨ih.positive, ih.minSize, ih.maxIdle⟩

end SqlProbe.Pool.Config
