import SqlProbe.Pool.Config

/-!
# The state of a pool

A pool lends connections. A borrower needs one of `maxSize` slots, which it keeps until it gives its
connection back; who finds no slot free waits in a queue. Whatever takes time (a slot, opening and
closing a connection) leaves the call that needs it in progress, so a state lists, beside what the
pool holds, the calls in progress with what each of them waits for. Calls and connections have
numbers. Of the connections themselves a state knows which have been opened and which are closed.
-/

namespace SqlProbe.Pool

/-- A connection that the pool keeps for the next borrower. -/
structure Idle where
  connection : Nat
  createdAt : Nat
  idleSince : Nat
  deriving DecidableEq, Repr

/-- A borrowed connection. -/
structure Loan where
  connection : Nat
  createdAt : Nat
  deriving DecidableEq, Repr

/-- What a borrower without a connection waits for. -/
inductive Get where
  /-- A slot. -/
  | queued
  /-- Its turn: it has been given a slot. -/
  | granted
  /-- The factory's word on whether an idle connection is still usable. -/
  | validating (connection : Nat) (createdAt : Nat)
  /-- The closing of an idle connection that it may not have. -/
  | discarding (connection : Nat)
  /-- A new connection. -/
  | opening
  deriving DecidableEq, Repr

/-- The borrower has a slot. -/
def Get.hasSlot : Get → Bool
  | queued => false
  | _ => true

/-- A connection that came back and is not kept. -/
inductive Retiring where
  /-- It is closed by a task of its own. -/
  | closing (connection : Nat)
  /-- It came back where no task can be started, and waits for the pool to be closed. -/
  | pending (connection : Nat)
  deriving DecidableEq, Repr

/-- What the closing of idle connections, or of the whole pool, waits for. -/
inductive Closer where
  /-- The closing of a connection that was idle; others follow, and the retiring ones at last where
  the whole pool is closed. -/
  | draining (connection : Nat) (rest : List Nat) (wholePool : Bool)
  /-- The closing of a retiring connection; others follow. -/
  | finishing (connection : Retiring) (rest : List Retiring)
  deriving DecidableEq, Repr

/-- A pool, the calls in progress, and the connections that they deal with. -/
structure State where
  config : Config
  /-- The factory has a check of its own for idle connections, which may take time. Without one a
  connection is usable if it is not closed. -/
  ownCheck : Bool := false
  /-- The time in milliseconds. -/
  now : Nat := 0
  /-- The connections kept for the next borrowers, the one that came first in front. -/
  idle : List Idle := []
  /-- The slots that nobody has. -/
  free : Nat := config.maxSize
  loans : List Loan := []
  /-- The connections that came back and were not kept. -/
  retiring : List Retiring := []
  /-- The pool takes no more borrowers. -/
  shut : Bool := false
  /-- The borrowers without a connection, in the order in which they came. -/
  gets : List (Nat × Get) := []
  /-- The calls that open connections in advance. -/
  warmUps : List Nat := []
  /-- The calls that close connections. -/
  closers : List (Nat × Closer) := []
  /-- The connections that tasks of their own are closing. -/
  closings : List Nat := []
  /-- How the borrowers fared that wait no more, the last first. -/
  results : List (Nat × Except Error Nat) := []
  /-- The connections opened so far, the last first. -/
  opened : List Nat := []
  /-- The connections that are closed. -/
  closed : List Nat := []
  /-- The count of borrowers that wait. -/
  waiting : Nat := 0
  /-- The count of borrowed connections. -/
  active : Nat := 0
  /-- The count of connections opened. -/
  created : Nat := 0
  /-- The count of connections not kept because enough others were idle. -/
  overIdleCap : Nat := 0
  /-- The count of connections not kept because of their age. -/
  pastLifetime : Nat := 0
  /-- The count of connections not lent because they had been idle for too long. -/
  pastIdleTimeout : Nat := 0

/-- What a pool tells of itself. -/
structure Stats where
  maxOpen : Nat
  idle : Nat
  active : Nat
  waiting : Nat
  created : Nat
  maxIdleClosed : Nat
  maxLifetimeClosed : Nat
  idleTimeoutClosed : Nat
  deriving DecidableEq, Repr

/-- The connections that are idle or borrowed. -/
def Stats.total (stats : Stats) : Nat := stats.idle + stats.active

namespace State

/-- A pool in which nothing has happened yet. -/
def ofConfig (config : Config) (ownCheck : Bool := false) : State := { config, ownCheck }

/-- What the pool tells of itself. -/
def stats (s : State) : Stats where
  maxOpen := s.config.maxSize
  idle := s.idle.length
  active := s.active
  waiting := s.waiting
  created := s.created
  maxIdleClosed := s.overIdleCap
  maxLifetimeClosed := s.pastLifetime
  idleTimeoutClosed := s.pastIdleTimeout

/-- What a borrower waits for. -/
def get? (s : State) (call : Nat) : Option Get := s.gets.lookup call

/-- What a closing call waits for. -/
def closer? (s : State) (call : Nat) : Option Closer := s.closers.lookup call

/-- How a borrower fared. -/
def result? (s : State) (call : Nat) : Option (Except Error Nat) := s.results.lookup call

/-- A connection is closed. -/
def isClosed (s : State) (connection : Nat) : Bool := s.closed.contains connection

/-- A connection made at a time is too old to be kept. -/
def outlived (s : State) (createdAt : Nat) : Bool :=
  match s.config.maxLifetime with
  | some limit => decide (limit < s.now - createdAt)
  | none => false

/-- A connection put aside at a time has been idle for too long to be lent. -/
def overdue (s : State) (idleSince : Nat) : Bool :=
  decide (s.config.idleTimeout < s.now - idleSince)

end State

end SqlProbe.Pool
