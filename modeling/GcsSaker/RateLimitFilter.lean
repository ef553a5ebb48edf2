import GcsSaker.Clock
import GcsSaker.GoMap
import GcsSaker.Runs

/-!
# The rate limiter of the policy service

`FixedWindowRateLimiter` keeps the windows of its keys in a concurrent map and their ends in a
concurrent queue. Any number of calls of `tryAcquire` are under way, and each operation on the map or
the queue may come between those of other calls.
-/

namespace GcsSaker.RateLimitFilter

structure FixedWindowRateLimiter where
  maxRequests : Int32
  window : ℤ
  maxTrackedKeys : Int32

def MAX_EXPIRY_CLEANUP_PER_REQUEST : ℕ := 64

structure WindowCounter where
  count : Int32
  resetAtMillis : ℤ
  deriving DecidableEq

structure WindowExpiry where
  key : String
  resetAtMillis : ℤ
  deriving DecidableEq

structure RateLimitDecision where
  allowed : Bool
  retryAfterSeconds : ℤ
  deriving DecidableEq

def RateLimitDecision.denied (retryAfterSeconds : ℤ) : RateLimitDecision :=
  ⟨false, retryAfterSeconds⟩

namespace FixedWindowRateLimiter

variable (limiter : FixedWindowRateLimiter)

/-- `Duration.getSeconds`, which rounds down. -/
def windowSeconds : ℤ := limiter.window / Clock.second

def windowMillis : ℤ := max (Clock.milliseconds limiter.window) 1

/-- What `compute` stores, and whether it opens a window. -/
def nextWindow (nowMillis : ℤ) : Option WindowCounter → WindowCounter × Bool
  | none => (⟨1, nowMillis + limiter.windowMillis⟩, true)
  | some current =>
    if current.resetAtMillis ≤ nowMillis then (⟨1, nowMillis + limiter.windowMillis⟩, true)
    else ({ current with count := current.count + 1 }, false)

def decision (nowMillis : ℤ) (next : WindowCounter) : RateLimitDecision :=
  if next.count ≤ limiter.maxRequests then ⟨true, 0⟩
  else .denied (max ((next.resetAtMillis - nowMillis).tdiv 1000) 1)

end FixedWindowRateLimiter

/-! ## Calls -/

/-- The operation that a call comes to next; a round of the clean-up has the number of those that
follow it, and `add` and `ended` have what `compute` and the call gave. -/
inductive Stage where
  | peek (rounds : ℕ)
  | poll (rounds : ℕ) (expiry : WindowExpiry)
  | remove (rounds : ℕ) (expiry : WindowExpiry)
  | containsKey
  | size
  | compute
  | add (next : WindowCounter)
  | ended (decision : RateLimitDecision)
  deriving DecidableEq

/-- The next of the rounds of `repeat`. -/
def nextRound : ℕ → Stage
  | 0 => .containsKey
  | rounds + 1 => .peek rounds

structure Call where
  key : String
  nowMillis : ℤ
  stage : Stage
  deriving DecidableEq

/-- A call that was counted in a window. -/
structure Counted where
  window : WindowExpiry
  allowed : Bool
  deriving DecidableEq

abbrev Windows := AList fun _ : String => WindowCounter

/-- `current.takeIf { it.resetAtMillis != expiry.resetAtMillis }` -/
def removeExpired (windows : Windows) (expiry : WindowExpiry) : Windows :=
  match windows.lookup expiry.key with
  | some current =>
    if current.resetAtMillis ≠ expiry.resetAtMillis then windows else windows.erase expiry.key
  | none => windows

/-- The limiter with its clock and its calls. The counted calls, the entries that were ever added to
the queue and the number of those that were polled are records of the model. -/
structure State where
  clock : ℤ
  windows : Windows
  expirations : List WindowExpiry
  calls : List Call
  counted : List Counted
  queued : List WindowExpiry
  polled : ℕ

inductive Action where
  | tick (nowMillis : ℤ)
  | tryAcquire (key : String)
  | proceed (call : ℕ)

namespace State

def initial (nowMillis : ℤ) : State := ⟨nowMillis, ∅, [], [], [], [], 0⟩

variable (limiter : FixedWindowRateLimiter) (state : State)

def moveTo (index : ℕ) (call : Call) (stage : Stage) : State :=
  { state with calls := state.calls.set index { call with stage } }

/-- `windows.compute`, with the call counted in the window that it finds or opens. -/
def computeNext (index : ℕ) (call : Call) : State :=
  let (next, created) := limiter.nextWindow call.nowMillis (state.windows.lookup call.key)
  let decision := limiter.decision call.nowMillis next
  { state.moveTo index call (if created then .add next else .ended decision) with
    windows := state.windows.insert call.key next
    counted := ⟨⟨call.key, next.resetAtMillis⟩, decision.allowed⟩ :: state.counted }

def operate (index : ℕ) (call : Call) : Option State :=
  match call.stage with
  | .peek rounds =>
    match state.expirations.head? with
    | none => some (state.moveTo index call .containsKey)
    | some expiry =>
      if call.nowMillis < expiry.resetAtMillis then some (state.moveTo index call .containsKey)
      else some (state.moveTo index call (.poll rounds expiry))
  | .poll rounds expiry =>
    some { state.moveTo index call (.remove rounds expiry) with
      expirations := state.expirations.tail
      polled := if state.expirations = [] then state.polled else state.polled + 1 }
  | .remove rounds expiry =>
    some { state.moveTo index call (nextRound rounds) with
      windows := removeExpired state.windows expiry }
  | .containsKey =>
    some (state.moveTo index call (if call.key ∈ state.windows then .compute else .size))
  | .size =>
    if limiter.maxTrackedKeys.toInt ≤ state.windows.keys.length then
      some (state.moveTo index call (.ended (.denied (max limiter.windowSeconds 1))))
    else some (state.moveTo index call .compute)
  | .compute => some (state.computeNext limiter index call)
  | .add next =>
    some { state.moveTo index call (.ended (limiter.decision call.nowMillis next)) with
      expirations := state.expirations ++ [⟨call.key, next.resetAtMillis⟩]
      queued := state.queued ++ [⟨call.key, next.resetAtMillis⟩] }
  | .ended _ => none

/-- A limiter that allows nothing does not read the clock. -/
def step : Action → Option State
  | .tick nowMillis => if state.clock ≤ nowMillis then some { state with clock := nowMillis } else none
  | .tryAcquire key =>
    let stage := if limiter.maxRequests ≤ 0 then .ended (.denied limiter.windowSeconds)
      else nextRound MAX_EXPIRY_CLEANUP_PER_REQUEST
    some { state with calls := state.calls ++ [⟨key, state.clock, stage⟩] }
  | .proceed index =>
    match state.calls[index]? with
    | some call => state.operate limiter index call
    | none => none

end State

end GcsSaker.RateLimitFilter
