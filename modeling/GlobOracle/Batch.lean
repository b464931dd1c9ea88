import GlobOracle.Matcher

/-!
# Matching many items at once

A batch has a task for every item and a number of permits.  A task waits for a permit, has its arguments
checked, is run by a worker, and gives the permit back when it is finished, however it ends.  `Batch.step?`
makes one such move; which task moves next is open, so a schedule is a list of moves.  The first failure
in time is the failure of the batch; without one, the answer is the items that match, in the order of the
batch and not of the schedule.  A worker hands on what its run came to, and a failure as it is; the few
failures with which it could not do so are none of a shell (`Host`).

`Matcher.filterConcurrently` makes the moves that `Batch.run` chooses: at first every task tries to enter,
and then the tasks end in their order, each handing its permit to the first one that waits.  Once the batch
has failed no further task enters, so the shell is not asked about the items behind.
-/

namespace GlobOracle

variable {σ : Type}

/-- Where a task of a batch is. -/
inductive Task where
  /-- It has no permit yet. -/
  | waiting
  /-- It has a permit, and a request for a worker to run. -/
  | entered (r : Request)
  /-- A worker runs its request, and this is what will come of it. -/
  | running (r : Request) (answer : Except Failure Outcome)
  /-- It has ended. -/
  | finished (result : Except Failure Bool)

namespace Task

/-- Does the task hold a permit? -/
def holdsPermit : Task → Bool
  | entered _ | running _ _ => true
  | _ => false

/-- Has the task no permit yet? -/
def isWaiting : Task → Bool
  | waiting => true
  | _ => false

/-- Is the shell at work for the task? -/
def inFlight : Task → Bool
  | running _ _ => true
  | _ => false

/-- Has the task ended? -/
def isFinished : Task → Bool
  | finished _ => true
  | _ => false

/-- Has the task ended with a match? -/
def isMatch : Task → Bool
  | finished (.ok matched) => matched
  | _ => false

end Task

/-- A batch on its way. -/
structure Batch (σ : Type) where
  /-- How many permits nobody holds. -/
  free : Nat
  /-- The items, each with its task. -/
  tasks : List (Value × Task)
  /-- The first failure. -/
  failure : Option Failure
  /-- What the program remembers. -/
  memory : Memory σ

/-- A move of one task, by its place in the batch. -/
inductive Move where
  /-- The task gets a permit, and its arguments are checked. -/
  | enter (i : Nat)
  /-- A worker takes the request of the task up. -/
  | start (i : Nat)
  /-- The worker is done, and the task ends. -/
  | finish (i : Nat)
  deriving Repr, DecidableEq

namespace Batch

/-- A batch in which every task waits. -/
def begin (bound : Nat) (items : List Value) (memory : Memory σ) : Batch σ :=
  ⟨bound, items.map fun item => (item, .waiting), none, memory⟩

/-- The batch with a task elsewhere. -/
def put (b : Batch σ) (i : Nat) (item : Value) (task : Task) : Batch σ :=
  { b with tasks := b.tasks.set i (item, task) }

/-- The batch after a task has ended.  Only the first failure is kept. -/
def close (b : Batch σ) (i : Nat) (item : Value) (result : Except Failure Bool) : Batch σ :=
  match result with
  | .ok _ => b.put i item (.finished result)
  | .error f => { b.put i item (.finished result) with failure := b.failure.or (some f) }

/-- Gives a waiting task a permit, if one is free.  A task whose arguments are rejected ends at once, and
its permit is free again. -/
def enter? (host : Host σ) (pattern : Value) (options : Options) (b : Batch σ) (i : Nat) :
    Option (Batch σ) :=
  match b.tasks[i]? with
  | some (item, .waiting) =>
      if b.free = 0 then none
      else match Matcher.request host item pattern options.value with
        | .ok r => some { b.put i item (.entered r) with free := b.free - 1 }
        | .error f => some (b.close i item (.error f))
  | _ => none

/-- Hands the request of an entered task to a worker, who will hand on what comes of it. -/
def start? (m : Matcher) (host : Host σ) (b : Batch σ) (i : Nat) : Option (Batch σ) :=
  match b.tasks[i]? with
  | some (item, .entered r) =>
      match m.evaluate host r b.memory with
      | .ok outcome p => some { b.put i item (.running r (.ok outcome)) with memory := p }
      | .error f p => some { b.put i item (.running r (.error f)) with memory := p }
  | _ => none

/-- Ends a running task: the worker hands on the failure of its run, or the error policy is applied to its
outcome, and its permit is free again. -/
def finish? (b : Batch σ) (i : Nat) : Option (Batch σ) :=
  match b.tasks[i]? with
  | some (item, .running r answer) =>
      let b := { b with free := b.free + 1 }
      match answer with
      | .error f => some (b.close i item (.error f))
      | .ok outcome =>
          match Matcher.finish r outcome b.memory with
          | .ok matched p => some ({ b with memory := p }.close i item (.ok matched))
          | .error f p => some ({ b with memory := p }.close i item (.error f))
  | _ => none

/-- Makes a move, if it can be made. -/
def step? (m : Matcher) (host : Host σ) (pattern : Value) (options : Options) (b : Batch σ) :
    Move → Option (Batch σ)
  | .enter i => b.enter? host pattern options i
  | .start i => b.start? m host i
  | .finish i => b.finish? i

/-- Makes a move, and nothing if it cannot be made. -/
def attempt (m : Matcher) (host : Host σ) (pattern : Value) (options : Options) (b : Batch σ)
    (move : Move) : Batch σ :=
  (b.step? m host pattern options move).getD b

/-- Makes the moves of a schedule one after another, leaving out those that cannot be made. -/
def follow (m : Matcher) (host : Host σ) (pattern : Value) (options : Options) (b : Batch σ)
    (schedule : List Move) : Batch σ :=
  schedule.foldl (attempt m host pattern options) b

/-- Has a task failed? -/
def hasFailed (b : Batch σ) : Bool := b.failure.isSome

/-- Has the batch failed, or have all its tasks ended? -/
def isSettled (b : Batch σ) : Bool := b.hasFailed || b.tasks.all (·.2.isFinished)

/-- A task enters, if a permit is free, and its request is taken up at once. -/
def letIn (m : Matcher) (host : Host σ) (pattern : Value) (options : Options) (b : Batch σ)
    (i : Nat) : Batch σ :=
  b.follow m host pattern options [.enter i, .start i]

/-- All tasks in their order try to enter. -/
def letAllIn (m : Matcher) (host : Host σ) (pattern : Value) (options : Options) (b : Batch σ) :
    Batch σ :=
  (List.range b.tasks.length).foldl (letIn m host pattern options) b

/-- The first task that waits is let in, unless the batch has failed. -/
def letNextIn (m : Matcher) (host : Host σ) (pattern : Value) (options : Options) (b : Batch σ) :
    Batch σ :=
  if b.hasFailed then b
  else match b.tasks.findIdx? (·.2.isWaiting) with
    | some i => b.letIn m host pattern options i
    | none => b

/-- The tasks at some places end one after another, until the batch has failed, and each makes way for the
first one that waits. -/
def drain (m : Matcher) (host : Host σ) (pattern : Value) (options : Options) (b : Batch σ) :
    List Nat → Batch σ
  | [] => b
  | i :: places =>
      if b.hasFailed then b
      else
        let ended := b.attempt m host pattern options (.finish i)
        drain m host pattern options (ended.letNextIn m host pattern options) places

/-- Runs a batch until it is settled. -/
def run (m : Matcher) (host : Host σ) (pattern : Value) (options : Options) (b : Batch σ) : Batch σ :=
  (b.letAllIn m host pattern options).drain m host pattern options (List.range b.tasks.length)

/-- The items whose tasks ended with a match, in the order of the batch. -/
def matching (b : Batch σ) : List Value := (b.tasks.filter (·.2.isMatch)).map (·.1)

/-- The answer of a batch: its first failure, or the items that match. -/
def answer (b : Batch σ) : EStateM.Result Failure (Memory σ) (List Value) :=
  match b.failure with
  | some f => .error f b.memory
  | none => .ok b.matching b.memory

end Batch

namespace Matcher

/-- The items that match the pattern, in their order, with the tasks moving as a schedule says. -/
def filterScheduled (m : Matcher) (host : Host σ) (items pattern options : Value)
    (schedule : List Move) : Action σ (List Value) := do
  let (items, options) ← Action.ofExcept (prepare host items pattern options)
  fun p => ((Batch.begin m.bound items p).follow m host pattern options schedule).answer

/-- The items that match the pattern, in their order, matched concurrently. -/
def filterConcurrently (m : Matcher) (host : Host σ) (items pattern options : Value) :
    Action σ (List Value) := do
  let (items, options) ← Action.ofExcept (prepare host items pattern options)
  fun p => ((Batch.begin m.bound items p).run m host pattern options).answer

end Matcher

end GlobOracle
