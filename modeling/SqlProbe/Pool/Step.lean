import SqlProbe.Calendar.Duration
import SqlProbe.Pool.State

/-!
# The steps of a pool

What a pool does between two points at which it has to wait. Each event is one such stretch: a call
starts, something that a call waited for has come, or time has passed. Every interleaving of calls
is a list of events, in whatever order they come; an event that does not fit the state changes
nothing.
-/

namespace SqlProbe.Pool

/-- What can happen to a pool. -/
inductive Event where
  /-- Time passes. -/
  | tick (span : Nat)
  /-- A connection is closed by its borrower or by the server. -/
  | lose (connection : Nat)
  /-- A borrower comes. -/
  | get (call : Nat)
  /-- A borrower in the queue has its turn: it has a slot, or the pool has been shut. -/
  | resume (call : Nat)
  /-- The factory has checked an idle connection for a borrower. -/
  | validated (call : Nat) (usable : Bool)
  /-- The idle connection that a borrower may not have has been closed, or could not be. -/
  | discarded (call : Nat) (closed : Bool)
  /-- A borrower's new connection is open. -/
  | opened (call : Nat) (connection : Nat)
  /-- A borrower's new connection could not be opened. -/
  | refused (call : Nat) (cause : Error)
  /-- A borrower has waited for too long. -/
  | expire (call : Nat)
  /-- A borrower goes away without a word. -/
  | cancel (call : Nat)
  /-- A connection comes back, perhaps from where no task can be started. -/
  | giveBack (connection : Nat) (outside : Bool)
  /-- The task that closes a retiring connection has ended. -/
  | retired (connection : Nat) (closed : Bool)
  /-- Connections are to be opened in advance. -/
  | warmUp (call : Nat)
  /-- A connection has been opened in advance. -/
  | warmed (call : Nat) (connection : Nat)
  /-- A connection could not be opened in advance. -/
  | warmFailed (call : Nat)
  /-- The idle connections are to be closed. -/
  | closeIdle (call : Nat)
  /-- The pool is to be closed. -/
  | close (call : Nat)
  /-- The connection that a closing call was closing has been closed, or could not be. -/
  | drained (call : Nat) (closed : Bool)
  /-- The task that a closing call waited for has ended. -/
  | joined (call : Nat)

/-- The error of borrowers that come to a closed pool. -/
def poolClosed : Error := ⟨.connection, "pool is closed"⟩

/-- The error of borrowers that have waited for too long. -/
def Config.timedOut (config : Config) : Error :=
  ⟨.timeout, "Timed out waiting for connection (timeout: " ++
    Calendar.millisText config.acquireTimeout ++ ")"⟩

/-- Gives a slot to the borrower that has waited for one the longest. -/
def grantFirst : List (Nat × Get) → Option (List (Nat × Get))
  | [] => none
  | (call, .queued) :: rest => some ((call, .granted) :: rest)
  | other :: rest => (grantFirst rest).map (other :: ·)

/-- The connection is still being closed, or still has to be. -/
def Retiring.isUnfinished (closings : List Nat) : Retiring → Bool
  | closing connection => closings.contains connection
  | pending _ => true

namespace State

/-- Notes whether an attempt to close a connection did close it. -/
def noteClosed (s : State) (connection : Nat) (closed : Bool) : State :=
  if closed then { s with closed := connection :: s.closed } else s

/-- Changes what a borrower waits for. -/
def setGet (s : State) (call : Nat) (get : Get) : State :=
  { s with gets := s.gets.map fun entry => if entry.1 = call then (call, get) else entry }

/-- Frees a slot, which goes to the first in the queue, if the pool is not shut. -/
def release (s : State) : State :=
  match if s.shut then none else grantFirst s.gets with
  | some gets => { s with gets }
  | none => { s with free := s.free + 1 }

/-- Takes a borrower out of those that wait, and frees its slot if it has one. -/
def leave (s : State) (call : Nat) : State :=
  let others := { s with gets := s.gets.filter fun entry => entry.1 ≠ call }
  match s.get? call with
  | some get => if get.hasSlot then others.release else others
  | none => s

/-- Lets a borrower down. -/
def fail (s : State) (call : Nat) (cause : Error) : State :=
  let s := s.leave call
  { s with waiting := s.waiting - 1, results := (call, .error cause) :: s.results }

/-- Lends a connection to a borrower, which keeps its slot. -/
def lend (s : State) (call : Nat) (loan : Loan) : State :=
  { s with
    gets := s.gets.filter fun entry => entry.1 ≠ call
    waiting := s.waiting - 1
    active := s.active + 1
    loans := s.loans ++ [loan]
    results := (call, .ok loan.connection) :: s.results }

/-- Offers the first idle connection to a borrower with a slot. A factory with a check of its own is
asked about it; one that may not be lent is closed first. Where none is idle, a new one is opened. -/
def examine (s : State) (call : Nat) : State :=
  match s.idle with
  | [] => s.setGet call .opening
  | entry :: idle =>
    let s := { s with idle }
    if s.outlived entry.createdAt then
      { s with pastLifetime := s.pastLifetime + 1 }.setGet call (.discarding entry.connection)
    else if s.overdue entry.idleSince then
      { s with pastIdleTimeout := s.pastIdleTimeout + 1 }.setGet call (.discarding entry.connection)
    else if s.ownCheck then s.setGet call (.validating entry.connection entry.createdAt)
    else if s.isClosed entry.connection then s.setGet call (.discarding entry.connection)
    else s.lend call ⟨entry.connection, entry.createdAt⟩

/-- A borrower comes. -/
def startGet (s : State) (call : Nat) : State :=
  if s.shut then { s with results := (call, .error poolClosed) :: s.results }
  else
    let s := { s with waiting := s.waiting + 1, gets := s.gets ++ [(call, .queued)] }
    if s.free = 0 then s
    else ({ s with free := s.free - 1 }.setGet call .granted).examine call

/-- Sends a connection on its way out. -/
def retire (s : State) (connection : Nat) (outside : Bool) : State :=
  let unfinished := s.retiring.filter (Retiring.isUnfinished s.closings)
  if outside then { s with retiring := unfinished ++ [.pending connection] }
  else
    { s with
      retiring := unfinished ++ [.closing connection]
      closings := s.closings ++ [connection] }

/-- Keeps a connection that comes back, if it is open and may be kept. -/
def takeBack (s : State) (loan : Loan) (outside : Bool) : State :=
  if s.isClosed loan.connection then s
  else if s.shut then s.retire loan.connection outside
  else if s.outlived loan.createdAt then
    { s with pastLifetime := s.pastLifetime + 1 }.retire loan.connection outside
  else if s.config.maxIdle ≤ s.idle.length then
    { s with overIdleCap := s.overIdleCap + 1 }.retire loan.connection outside
  else { s with idle := s.idle ++ [⟨loan.connection, loan.createdAt, s.now⟩] }

/-- A borrowed connection comes back, and only then its slot is free. -/
def giveBack (s : State) (connection : Nat) (outside : Bool) : State :=
  match s.loans.find? fun loan => loan.connection = connection with
  | none => s
  | some loan =>
    ({ s with loans := s.loans.erase loan, active := s.active - 1 }.takeBack loan outside).release

/-- Opens the next connection in advance, or ends the call if enough are idle. -/
def warm (s : State) (call : Nat) : State :=
  if s.config.warmTarget ≤ s.idle.length then { s with warmUps := s.warmUps.erase call }
  else if s.warmUps.contains call then s
  else { s with warmUps := s.warmUps ++ [call] }

/-- Records that a connection has been opened. -/
def noteOpened (s : State) (connection : Nat) : State :=
  { s with created := s.created + 1, opened := connection :: s.opened }

/-- Puts a connection opened in advance behind the idle ones. -/
def putWarm (s : State) (connection : Nat) : State :=
  { s with idle := s.idle ++ [⟨connection, s.now, s.now⟩] }

/-- Changes what a closing call waits for; a call that waits for nothing has ended. -/
def setCloser (s : State) (call : Nat) (closer : Option Closer) : State :=
  let others := s.closers.filter fun entry => entry.1 ≠ call
  { s with closers := others ++ (closer.map fun closer => (call, closer)).toList }

/-- Waits for the next of the retiring connections. -/
def finishNext (s : State) (call : Nat) : List Retiring → State
  | [] => s.setCloser call none
  | head :: rest => s.setCloser call (some (.finishing head rest))

/-- Closes the next of the connections that were idle. After the last one, closing the whole pool
goes on with what is retiring by then. -/
def drainNext (s : State) (call : Nat) (wholePool : Bool) : List Nat → State
  | [] =>
    if wholePool then { s with retiring := [] }.finishNext call s.retiring
    else s.setCloser call none
  | connection :: rest => s.setCloser call (some (.draining connection rest wholePool))

/-- Takes all idle connections away to close them one after the other. -/
def drain (s : State) (call : Nat) (wholePool : Bool) : State :=
  { s with idle := [] }.drainNext call wholePool (s.idle.map Idle.connection)

/-- What an event makes of a state. -/
def step (s : State) : Event → State
  | .tick span => { s with now := s.now + span }
  | .lose connection => if s.opened.contains connection then s.noteClosed connection true else s
  | .get call => if (s.get? call).isSome then s else s.startGet call
  | .resume call =>
    match s.get? call with
    | some .queued => if s.shut then s.fail call poolClosed else s
    | some .granted => if s.shut then s.fail call poolClosed else s.examine call
    | _ => s
  | .validated call usable =>
    match s.get? call with
    | some (.validating connection createdAt) =>
      if usable then s.lend call ⟨connection, createdAt⟩ else s.setGet call (.discarding connection)
    | _ => s
  | .discarded call closed =>
    match s.get? call with
    | some (.discarding connection) => (s.noteClosed connection closed).examine call
    | _ => s
  | .opened call connection =>
    match s.get? call with
    | some .opening =>
      if s.opened.contains connection then s
      else (s.noteOpened connection).lend call ⟨connection, s.now⟩
    | _ => s
  | .refused call cause =>
    match s.get? call with
    | some .opening => s.fail call cause
    | _ => s
  | .expire call =>
    match s.get? call with
    | some .queued => if s.shut then s else s.fail call s.config.timedOut
    | some (.validating _ _) => s.fail call s.config.timedOut
    | some (.discarding _) => s.fail call s.config.timedOut
    | some .opening => s.fail call s.config.timedOut
    | _ => s
  | .cancel call => s.leave call
  | .giveBack connection outside => s.giveBack connection outside
  | .retired connection closed =>
    if s.closings.contains connection then
      { s with closings := s.closings.erase connection }.noteClosed connection closed
    else s
  | .warmUp call => if s.warmUps.contains call then s else s.warm call
  | .warmed call connection =>
    if s.warmUps.contains call && !s.opened.contains connection then
      (s.noteOpened connection).putWarm connection |>.warm call
    else s
  | .warmFailed call => { s with warmUps := s.warmUps.erase call }
  | .closeIdle call => if (s.closer? call).isSome then s else s.drain call false
  | .close call =>
    if (s.closer? call).isSome then s else { s with shut := true }.drain call true
  | .drained call closed =>
    match s.closer? call with
    | some (.draining connection rest wholePool) =>
      (s.noteClosed connection closed).drainNext call wholePool rest
    | some (.finishing (.pending connection) rest) =>
      (s.noteClosed connection closed).finishNext call rest
    | _ => s
  | .joined call =>
    match s.closer? call with
    | some (.finishing (.closing connection) rest) =>
      if s.closings.contains connection then s else s.finishNext call rest
    | _ => s

end State

end SqlProbe.Pool
