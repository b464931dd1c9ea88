import GlobOracle.Proofs.SingleMatch

/-!
# Calls for the path of the shell that race

`ShellPath.resolve` is one action, but a program with several threads does not do it in one go.  Each call
for the path looks whether it is settled without holding the lock, and only if it is not takes the lock,
looks again, searches, settles what it has found, writes to the log, gives the lock back, and reads the path
once more to answer it.  Between any two of these steps, and between any two questions to the host, other
calls may move and files may come and go.

A `Race` is the state of such calls, `Race.step?` moves one of them by one step, and a schedule says which
call moves at each turn, and which files there are then.  `Race.Stepped` lists all steps, and
`Race.follow_induction` is how an invariant of the steps holds in every state that a schedule can reach.
-/

namespace GlobOracle

namespace ShellPath

variable {σ : Type}

/-! ## The state of a race -/

/-- Where a call for the path of the shell is. -/
inductive Stage where
  /-- It is about to look whether the path is settled. -/
  | entering
  /-- It has found no path, and needs the lock. -/
  | waiting
  /-- It has the lock, and is about to look again. -/
  | checking
  /-- It has the lock, and paths that it has not asked about yet. -/
  | searching (paths : List String)
  /-- It has the lock, and a path to settle. -/
  | settling (path : String)
  /-- It has the lock, has settled the path, and is about to log it. -/
  | reporting
  /-- It is about to give the lock back. -/
  | leaving
  /-- It is about to read the path that it answers. -/
  | answering
  /-- It has answered what it read. -/
  | answered (answer : Option String)
  deriving Repr, DecidableEq

namespace Stage

/-- Does the call have the lock? -/
def hasLock : Stage → Bool
  | checking | searching _ | settling _ | reporting | leaving => true
  | _ => false

/-- Has the call begun a search that it has not settled? -/
def isSearching : Stage → Bool
  | searching _ | settling _ => true
  | _ => false

/-- Has the call answered? -/
def isAnswered : Stage → Bool
  | answered _ => true
  | _ => false

theorem hasLock_of_isSearching {stage : Stage} (h : stage.isSearching = true) :
    stage.hasLock = true := by
  cases stage <;> first | rfl | cases h

end Stage

/-- Calls for the path of the shell, in the memory that they share. -/
structure Race (σ : Type) where
  /-- Does a call have the lock? -/
  locked : Bool
  /-- Where each call is. -/
  calls : List Stage
  /-- How many searches have begun. -/
  searches : Nat
  /-- What is remembered. -/
  memory : Memory σ

/-- A turn in a race: the call that may move, and the files that there are then. -/
structure Turn where
  /-- The call. -/
  call : Nat
  /-- Whether there is a file at a path. -/
  files : String → Bool

namespace Race

/-- Some calls of which none has looked yet. -/
def begin (count : Nat) (memory : Memory σ) : Race σ :=
  ⟨false, List.replicate count .entering, 0, memory⟩

/-- The race with a call at another stage. -/
def put (r : Race σ) (i : Nat) (stage : Stage) : Race σ := { r with calls := r.calls.set i stage }

/-- One step of the call whose turn it is.  There is none if the call has answered, or waits for a lock that
another one has. -/
def step? (r : Race σ) (turn : Turn) : Option (Race σ) :=
  match r.calls[turn.call]? with
  | some .entering =>
      some (r.put turn.call (if r.memory.shellPath.isSome then .answering else .waiting))
  | some .waiting =>
      if r.locked then none else some { r.put turn.call .checking with locked := true }
  | some .checking =>
      if r.memory.shellPath.isSome then some (r.put turn.call .leaving)
      else some { r.put turn.call (.searching candidates) with searches := r.searches + 1 }
  | some (.searching []) => some (r.put turn.call (.settling fallback))
  | some (.searching (path :: paths)) =>
      some { r.put turn.call (if turn.files path then .settling path else .searching paths) with
        memory := r.memory.record (.probed path) }
  | some (.settling path) =>
      some { r.put turn.call .reporting with memory := { r.memory with shellPath := some path } }
  | some .reporting =>
      some { r.put turn.call .leaving with
        memory := r.memory.record (.logged (.usingShell
          ((r.memory.shellPath.map Value.text).getD .null).display)) }
  | some .leaving => some { r.put turn.call .answering with locked := false }
  | some .answering => some (r.put turn.call (.answered r.memory.shellPath))
  | some (.answered _) => none
  | none => none

/-- A turn: the step if there is one, and nothing otherwise. -/
def attempt (r : Race σ) (turn : Turn) : Race σ := (r.step? turn).getD r

/-- Some turns, one after another. -/
def follow (r : Race σ) (schedule : List Turn) : Race σ := schedule.foldl attempt r

/-- Have all calls answered? -/
def isSettled (r : Race σ) : Bool := r.calls.all Stage.isAnswered

variable {r r' : Race σ} {turn : Turn} {i : Nat}

/-! ## The steps -/

/-- What a step can do to a race.  A call that enters finds the path or misses it, and one that misses it
acquires the lock once it is free.  With the lock, it is forestalled by a call that has settled the path, or
it begins a search, whose questions hit or miss until it is exhausted; what is found is settled and
reported.  In the end the lock is released, and the path is read. -/
inductive Stepped (r : Race σ) (turn : Turn) : Race σ → Prop
  | found :
      r.calls[turn.call]? = some .entering → r.memory.shellPath.isSome = true →
      Stepped r turn (r.put turn.call .answering)
  | missed :
      r.calls[turn.call]? = some .entering → r.memory.shellPath = none →
      Stepped r turn (r.put turn.call .waiting)
  | acquired :
      r.calls[turn.call]? = some .waiting → r.locked = false →
      Stepped r turn { r.put turn.call .checking with locked := true }
  | forestalled :
      r.calls[turn.call]? = some .checking → r.memory.shellPath.isSome = true →
      Stepped r turn (r.put turn.call .leaving)
  | began :
      r.calls[turn.call]? = some .checking → r.memory.shellPath = none →
      Stepped r turn { r.put turn.call (.searching candidates) with searches := r.searches + 1 }
  | hit {path : String} {paths : List String} :
      r.calls[turn.call]? = some (.searching (path :: paths)) → turn.files path = true →
      Stepped r turn { r.put turn.call (.settling path) with
        memory := r.memory.record (.probed path) }
  | miss {path : String} {paths : List String} :
      r.calls[turn.call]? = some (.searching (path :: paths)) → turn.files path = false →
      Stepped r turn { r.put turn.call (.searching paths) with
        memory := r.memory.record (.probed path) }
  | exhausted :
      r.calls[turn.call]? = some (.searching []) →
      Stepped r turn (r.put turn.call (.settling fallback))
  | settled {path : String} :
      r.calls[turn.call]? = some (.settling path) →
      Stepped r turn { r.put turn.call .reporting with
        memory := { r.memory with shellPath := some path } }
  | reported :
      r.calls[turn.call]? = some .reporting →
      Stepped r turn { r.put turn.call .leaving with
        memory := r.memory.record (.logged (.usingShell
          ((r.memory.shellPath.map Value.text).getD .null).display)) }
  | released :
      r.calls[turn.call]? = some .leaving →
      Stepped r turn { r.put turn.call .answering with locked := false }
  | read :
      r.calls[turn.call]? = some .answering →
      Stepped r turn (r.put turn.call (.answered r.memory.shellPath))

/-- **Every step that is made is one of the list.** -/
theorem stepped_of_step? (h : r.step? turn = some r') : Stepped r turn r' := by
  unfold step? at h
  split at h
  · rename_i hcall
    cases h
    cases hpath : r.memory.shellPath with
    | none => exact .missed hcall hpath
    | some path => exact .found hcall (by rw [hpath]; rfl)
  · rename_i hcall
    cases hlocked : r.locked with
    | true => simp [hlocked] at h
    | false =>
        rw [hlocked] at h
        cases h
        exact .acquired hcall hlocked
  · rename_i hcall
    cases hpath : r.memory.shellPath with
    | none =>
        rw [hpath] at h
        cases h
        exact .began hcall hpath
    | some path =>
        rw [hpath] at h
        cases h
        exact .forestalled hcall (by rw [hpath]; rfl)
  · rename_i hcall
    cases h
    exact .exhausted hcall
  · rename_i path paths hcall
    cases h
    cases hfile : turn.files path with
    | true => exact .hit hcall hfile
    | false => exact .miss hcall hfile
  · rename_i path hcall
    cases h
    exact .settled hcall
  · rename_i hcall
    cases h
    exact .reported hcall
  · rename_i hcall
    cases h
    exact .released hcall
  · rename_i hcall
    cases h
    exact .read hcall
  · cases h
  · cases h

/-- **Every step of the list is made.** -/
theorem step?_of_stepped (h : Stepped r turn r') : r.step? turn = some r' := by
  cases h with
  | found hcall hpath => simp [step?, hcall, hpath]
  | missed hcall hpath => simp [step?, hcall, hpath]
  | acquired hcall hlocked => simp [step?, hcall, hlocked]
  | forestalled hcall hpath => simp [step?, hcall, hpath]
  | began hcall hpath => simp [step?, hcall, hpath]
  | hit hcall hfile => simp [step?, hcall, hfile]
  | miss hcall hfile => simp [step?, hcall, hfile]
  | exhausted hcall => simp [step?, hcall]
  | settled hcall => simp [step?, hcall]
  | reported hcall => simp [step?, hcall]
  | released hcall => simp [step?, hcall]
  | read hcall => simp [step?, hcall]

/-! ## Schedules -/

theorem attempt_of_stepped (h : Stepped r turn r') : r.attempt turn = r' := by
  rw [attempt, step?_of_stepped h, Option.getD_some]

theorem follow_append (r : Race σ) (schedule later : List Turn) :
    r.follow (schedule ++ later) = (r.follow schedule).follow later :=
  List.foldl_append

/-- **What every step keeps holds after every schedule.**  The steps may be told by the turns of the
schedule. -/
theorem follow_induction {motive : Race σ → Prop} (schedule : List Turn)
    (hstep : ∀ r, ∀ turn ∈ schedule, ∀ r', motive r → Stepped r turn r' → motive r')
    (hr : motive r) : motive (r.follow schedule) := by
  induction schedule generalizing r with
  | nil => exact hr
  | cons turn schedule ih =>
      rw [follow, List.foldl_cons]
      refine ih (fun r later hlater => hstep r later (List.mem_cons_of_mem _ hlater)) ?_
      cases hturn : r.step? turn with
      | none => rwa [attempt, hturn]
      | some r' =>
          rw [attempt, hturn]
          exact hstep r turn List.mem_cons_self r' hr (stepped_of_step? hturn)

end Race

end ShellPath

end GlobOracle
