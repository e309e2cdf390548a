import DualQuery.Engine.Request

/-!
# Runs in time

A run works on a state while time passes. Time passes only between the start of a call and its
answer; calls made together wait together. Where time runs out the call that is waited for is not
answered and leaves no trace but its start.
-/

namespace DualQuery

/-- A state at a time. -/
structure Timed (σ : Type) where
  state : σ
  /-- Milliseconds since the start. -/
  now : Nat := 0
  /-- The time at which the run ends at the latest. -/
  deadline : Option Nat := none
  deriving Repr, Inhabited

/-- Why a run ends early. -/
inductive Interrupt where
  | outOfTime
  | failed (error : ExecuteError)
  deriving DecidableEq, Repr

/-- A run. -/
abbrev Run (σ α : Type) := ExceptT Interrupt (StateM (Timed σ)) α

/-- A call of a backend: what happens when it starts, and its answer. -/
structure Call (σ α : Type) where
  start : σ → σ := id
  answer : σ → Except ExecuteError α × σ

namespace Run

variable {σ α β : Type}

/-- The state. -/
def state : Run σ σ := do return (← get).state

/-- Change the state. -/
def change (f : σ → σ) : Run σ Unit := modify fun timed => { timed with state := f timed.state }

/-- Let time pass. -/
def wait (ms : Nat) : Run σ Unit := do
  let timed ← get
  let now := timed.now + ms
  match timed.deadline with
  | some deadline => if deadline < now then throw .outOfTime else set { timed with now := now }
  | none => set { timed with now := now }

/-- The answer of a call. -/
def answer (call : Call σ α) : Run σ α := do
  let timed ← get
  let (result, state) := call.answer timed.state
  set { timed with state := state }
  match result with
  | .ok a => return a
  | .error e => throw (.failed e)

/-- Make a call that takes some time. -/
def call (ms : Nat) (c : Call σ α) : Run σ α := do
  change c.start
  wait ms
  answer c

/-- Make two calls together. Where calls take no time the second starts when the first is
answered. -/
def both (ms : Nat) (first : Call σ α) (second : Call σ β) : Run σ (α × β) := do
  if ms = 0 then
    let a ← call ms first
    return (a, ← call ms second)
  else
    change first.start
    change second.start
    wait ms
    let a ← answer first
    return (a, ← answer second)

/-- Make calls together. -/
def all (ms : Nat) (calls : List (Call σ α)) : Run σ (List α) := do
  if ms = 0 then calls.mapM (call ms)
  else
    calls.forM fun c => change c.start
    wait ms
    calls.mapM answer

/-- Make a call and give up after a time of its own; nothing comes of a call given up or failed. -/
def attempt (ms patience : Nat) (c : Call σ α) : Run σ (Option α) := do
  change c.start
  if patience < ms then
    wait patience
    return none
  else
    wait ms
    let timed ← get
    let (result, state) := c.answer timed.state
    set { timed with state := state }
    return result.toOption

/-- Carry a run out from a state, within a time if there is a limit. -/
def within (entity : String) (timeout : Option Nat) (run : Run σ α) (state : σ) :
    Except ExecuteError α × σ :=
  let (result, timed) := (ExceptT.run run).run { state := state, deadline := timeout }
  match result with
  | .ok a => (.ok a, timed.state)
  | .error .outOfTime => (.error (.timeout entity), timed.state)
  | .error (.failed e) => (.error e, timed.state)

end Run

end DualQuery
