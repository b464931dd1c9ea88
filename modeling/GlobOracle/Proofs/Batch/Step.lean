import GlobOracle.Batch
import GlobOracle.Proofs.SingleMatch

/-!
# What one move of a batch can do

`Batch.Stepped` lists the moves that can be made, each with what makes it possible and the batch that it
leaves; `step?_eq_some_iff` says that the list is complete and that all of it happens.  Whatever every such
move keeps holds after every schedule (`follow_induction`).
-/

namespace GlobOracle

/-! ## Where a task is -/

namespace Task

variable {task : Task}

theorem isWaiting_iff : task.isWaiting = true ↔ task = .waiting := by
  cases task <;> simp [isWaiting]

theorem inFlight_iff : task.inFlight = true ↔ ∃ r answer, task = .running r answer := by
  cases task <;> simp [inFlight]

theorem isFinished_iff : task.isFinished = true ↔ ∃ result, task = .finished result := by
  cases task <;> simp [isFinished]

end Task

namespace Batch

variable {σ : Type} {m : Matcher} {host : Host σ} {pattern : Value} {options : Options}
  {b b' : Batch σ} {move : Move}

/-! ## The beginning -/

theorem eq_waiting_of_mem_begin {bound : Nat} {items : List Value} {memory : Memory σ}
    {t : Value × Task} (ht : t ∈ (begin bound items memory).tasks) : t.2 = .waiting := by
  obtain ⟨item, -, rfl⟩ := List.mem_map.1 ht
  rfl

theorem map_fst_begin (bound : Nat) (items : List Value) (memory : Memory σ) :
    (begin bound items memory).tasks.map (·.1) = items := by
  show (items.map fun item => (item, Task.waiting)).map (·.1) = items
  rw [List.map_map]
  exact List.map_id items

/-! ## Closing a task -/

theorem close_tasks (b : Batch σ) (i : Nat) (item : Value) (result : Except Failure Bool) :
    (b.close i item result).tasks = b.tasks.set i (item, .finished result) := by
  cases result <;> rfl

theorem close_free (b : Batch σ) (i : Nat) (item : Value) (result : Except Failure Bool) :
    (b.close i item result).free = b.free := by
  cases result <;> rfl

theorem close_memory (b : Batch σ) (i : Nat) (item : Value) (result : Except Failure Bool) :
    (b.close i item result).memory = b.memory := by
  cases result <;> rfl

theorem close_failure_of_error (b : Batch σ) (i : Nat) (item : Value) (f : Failure) :
    (b.close i item (.error f)).failure = b.failure.or (some f) := rfl

/-- A failed task makes the batch fail. -/
theorem hasFailed_close_error (b : Batch σ) (i : Nat) (item : Value) (f : Failure) :
    (b.close i item (.error f)).hasFailed = true := by
  rw [hasFailed, close_failure_of_error, Option.isSome_or, Option.isSome_some, Bool.or_true]

theorem hasFailed_close (hfailed : b.hasFailed = true) (i : Nat) (item : Value)
    (result : Except Failure Bool) : (b.close i item result).hasFailed = true := by
  cases result with
  | ok matched => exact hfailed
  | error f => exact hasFailed_close_error b i item f

/-- An entry of a task list changes its task and keeps its item. -/
theorem map_fst_set {tasks : List (Value × Task)} {i : Nat} {item : Value} {task : Task}
    (h : tasks[i]? = some (item, task)) (after : Task) :
    (tasks.set i (item, after)).map (·.1) = tasks.map (·.1) := by
  apply List.ext_getElem?
  intro j
  rw [List.getElem?_map, List.getElem?_map, List.getElem?_set]
  by_cases hij : i = j
  · subst hij
    obtain ⟨hi, -⟩ := List.getElem?_eq_some_iff.1 h
    rw [if_pos rfl, if_pos hi, h]
    rfl
  · rw [if_neg hij]

/-! ## The moves -/

/-- What a move can do to a batch.  A waiting task gets a permit, or is rejected and hands it back at once;
an entered task is taken up, and the shell is asked; a running task ends, and its permit is free again. -/
inductive Stepped (m : Matcher) (host : Host σ) (pattern : Value) (options : Options)
    (b : Batch σ) : Move → Batch σ → Prop
  | admitted {i : Nat} {item : Value} {r : Request} :
      b.tasks[i]? = some (item, .waiting) → b.free ≠ 0 →
      Matcher.request host item pattern options.value = .ok r →
      Stepped m host pattern options b (.enter i)
        { b.put i item (.entered r) with free := b.free - 1 }
  | rejected {i : Nat} {item : Value} {f : Failure} :
      b.tasks[i]? = some (item, .waiting) → b.free ≠ 0 →
      Matcher.request host item pattern options.value = .error f →
      Stepped m host pattern options b (.enter i) (b.close i item (.error f))
  | started {i : Nat} {item : Value} {r : Request} {answer : Except Failure Outcome}
      {q : Memory σ} :
      b.tasks[i]? = some (item, .entered r) →
      m.evaluate host r b.memory = Action.ofExcept answer q →
      Stepped m host pattern options b (.start i)
        { b.put i item (.running r answer) with memory := q }
  | ended {i : Nat} {item : Value} {r : Request} {answer : Except Failure Outcome}
      {result : Except Failure Bool} {q : Memory σ} :
      b.tasks[i]? = some (item, .running r answer) →
      (Action.ofExcept answer >>= Matcher.finish r) b.memory = Action.ofExcept result q →
      Stepped m host pattern options b (.finish i)
        ({ b with free := b.free + 1, memory := q }.close i item result)

theorem stepped_of_enter? {i : Nat} (h : b.enter? host pattern options i = some b') :
    Stepped m host pattern options b (.enter i) b' := by
  unfold enter? at h
  split at h
  · rename_i item htask
    split at h
    · cases h
    · rename_i hfree
      split at h
      · rename_i r hrequest
        cases h
        exact .admitted htask hfree hrequest
      · rename_i f hrequest
        cases h
        exact .rejected htask hfree hrequest
  · cases h

theorem stepped_of_start? {i : Nat} (h : b.start? m host i = some b') :
    Stepped m host pattern options b (.start i) b' := by
  unfold start? at h
  split at h
  · rename_i item r htask
    split at h
    · rename_i outcome q hevaluate
      cases h
      exact .started htask hevaluate
    · rename_i f q hevaluate
      cases h
      exact .started htask hevaluate
  · cases h

theorem stepped_of_finish? {i : Nat} (h : b.finish? i = some b') :
    Stepped m host pattern options b (.finish i) b' := by
  unfold finish? at h
  split at h
  · rename_i item r answer htask
    dsimp only at h
    split at h
    · rename_i f
      cases h
      exact .ended htask rfl
    · rename_i outcome
      split at h
      · rename_i matched q hfinish
        cases h
        exact .ended htask hfinish
      · rename_i f q hfinish
        cases h
        exact .ended htask hfinish
  · cases h

/-- **Every move that is made is one of the list.** -/
theorem stepped_of_step? (h : b.step? m host pattern options move = some b') :
    Stepped m host pattern options b move b' := by
  cases move with
  | enter i => exact stepped_of_enter? h
  | start i => exact stepped_of_start? h
  | finish i => exact stepped_of_finish? h

/-- **Every move of the list is made.** -/
theorem step?_of_stepped (h : Stepped m host pattern options b move b') :
    b.step? m host pattern options move = some b' := by
  cases h with
  | admitted htask hfree hrequest => simp [step?, enter?, htask, hfree, hrequest]
  | rejected htask hfree hrequest => simp [step?, enter?, htask, hfree, hrequest]
  | @started i item r answer q htask hevaluate =>
      cases answer <;> simp [step?, start?, htask, hevaluate]
  | @ended i item r answer result q htask hfinish =>
      cases answer with
      | error f =>
          rw [Action.ofExcept_error_bind] at hfinish
          obtain ⟨rfl, rfl⟩ := Action.ofExcept_inj.1 hfinish
          simp [step?, finish?, htask]
      | ok outcome =>
          rw [Action.ofExcept_ok_bind] at hfinish
          cases result <;> simp [step?, finish?, htask, hfinish]

theorem step?_eq_some_iff :
    b.step? m host pattern options move = some b' ↔ Stepped m host pattern options b move b' :=
  ⟨stepped_of_step?, step?_of_stepped⟩

/-! ## Schedules -/

theorem attempt_of_stepped (h : Stepped m host pattern options b move b') :
    b.attempt m host pattern options move = b' := by
  rw [attempt, step?_of_stepped h, Option.getD_some]

theorem follow_append (b : Batch σ) (schedule later : List Move) :
    b.follow m host pattern options (schedule ++ later) =
      (b.follow m host pattern options schedule).follow m host pattern options later :=
  List.foldl_append

/-- **What every move keeps holds after every schedule.** -/
theorem follow_induction {motive : Batch σ → Prop}
    (hstep : ∀ b move b', motive b → Stepped m host pattern options b move b' → motive b')
    (schedule : List Move) (hb : motive b) : motive (b.follow m host pattern options schedule) := by
  induction schedule generalizing b with
  | nil => exact hb
  | cons move schedule ih =>
      rw [follow, List.foldl_cons]
      refine ih ?_
      cases hmove : b.step? m host pattern options move with
      | none => rwa [attempt, hmove]
      | some b' =>
          rw [attempt, hmove]
          exact hstep b move b' hb (stepped_of_step? hmove)

/-- A batch that has failed stays so. -/
theorem hasFailed_of_stepped (h : Stepped m host pattern options b move b')
    (hfailed : b.hasFailed = true) : b'.hasFailed = true := by
  cases h with
  | admitted _ _ _ => exact hfailed
  | rejected _ _ _ => exact hasFailed_close hfailed _ _ _
  | started _ _ => exact hfailed
  | @ended i item r answer result q _ _ =>
      have hreleased : ({ b with free := b.free + 1, memory := q } : Batch σ).hasFailed = true := hfailed
      exact hasFailed_close hreleased i item result

theorem hasFailed_follow (schedule : List Move) (hfailed : b.hasFailed = true) :
    (b.follow m host pattern options schedule).hasFailed = true :=
  follow_induction (fun _ _ _ hb h => hasFailed_of_stepped h hb) schedule hfailed

end Batch

end GlobOracle
