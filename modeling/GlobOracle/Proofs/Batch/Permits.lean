import GlobOracle.Proofs.Batch.Step

/-!
# Permits, and why a batch never gets stuck

Every permit is free or held by a task (`Balanced`), and every move keeps it so.  Hence a batch with at
least one permit in which some task has not ended can always make a move (`exists_stepped`): if nobody who
holds a permit can go on, then all permits are free and a task that waits can enter.  Each move brings its
task closer to its end (`ahead_lt_of_stepped`), so every schedule can be carried on until all tasks have
ended (`exists_isSettled_follow`).
-/

namespace GlobOracle

/-- How many moves a task still has before it at most. -/
def Task.ahead : Task → Nat
  | waiting => 3
  | entered _ => 2
  | running _ _ => 1
  | finished _ => 0

theorem Task.isFinished_eq_false_of_ahead {task : Task} (h : 0 < task.ahead) :
    task.isFinished = false := by
  cases task with
  | finished result => cases h
  | _ => rfl

/-- A matcher always has a permit to give away. -/
theorem Matcher.boundOf_ne_zero (n : Int) : boundOf n ≠ 0 := by
  show (max 1 n).toNat ≠ 0
  omega

namespace Batch

variable {σ : Type} {m : Matcher} {host : Host σ} {pattern : Value} {options : Options}
  {b b' : Batch σ} {bound i : Nat} {move : Move}

/-! ## What a move does to one task -/

/-- **A move concerns one task.**  It brings the task closer to its end, and what the task has gained or
lost in permits the batch has lost or gained. -/
theorem exists_task_of_stepped (h : Stepped m host pattern options b move b') :
    ∃ i item before after, b.tasks[i]? = some (item, before) ∧
      b'.tasks = b.tasks.set i (item, after) ∧
      b'.free + after.holdsPermit.toNat = b.free + before.holdsPermit.toNat ∧
      after.ahead < before.ahead := by
  cases h with
  | @admitted i item r htask hfree _ =>
      refine ⟨i, item, .waiting, .entered r, htask, rfl, ?_, by simp [Task.ahead]⟩
      show b.free - 1 + 1 = b.free + 0
      omega
  | @rejected i item f htask _ _ =>
      refine ⟨i, item, .waiting, .finished (.error f), htask, close_tasks b i item _, ?_, ?_⟩
      · rw [close_free]
        rfl
      · simp [Task.ahead]
  | @started i item r answer q htask _ =>
      exact ⟨i, item, .entered r, .running r answer, htask, rfl, rfl, by simp [Task.ahead]⟩
  | @ended i item r answer result q htask _ =>
      refine ⟨i, item, .running r answer, .finished result, htask, close_tasks _ i item _, ?_, ?_⟩
      · rw [close_free]
        rfl
      · simp [Task.ahead]

/-! ## The balance of permits -/

/-- Every permit is free or held by a task. -/
def Balanced (bound : Nat) (b : Batch σ) : Prop :=
  b.free + b.tasks.countP (·.2.holdsPermit) = bound

theorem countP_set_add {α : Type} {l : List α} {x : α} (counts : α → Bool) (h : l[i]? = some x)
    (y : α) : (l.set i y).countP counts + (counts x).toNat = l.countP counts + (counts y).toNat := by
  obtain ⟨hi, rfl⟩ := List.getElem?_eq_some_iff.1 h
  have hle := List.boole_getElem_le_countP (p := counts) hi
  have htoNat : ∀ c : Bool, c.toNat = if c = true then 1 else 0 := by decide
  rw [List.countP_set hi, htoNat, htoNat]
  omega

theorem balanced_begin (bound : Nat) (items : List Value) (memory : Memory σ) :
    Balanced bound (begin bound items memory) := by
  have hnone : (begin bound items memory).tasks.countP (·.2.holdsPermit) = 0 := by
    rw [List.countP_eq_zero]
    intro t ht
    rw [eq_waiting_of_mem_begin ht]
    exact Bool.false_ne_true
  show bound + (begin bound items memory).tasks.countP (·.2.holdsPermit) = bound
  rw [hnone, Nat.add_zero]

/-- **Every move keeps the balance.**  A task takes one permit when it enters, and gives it back once,
however it ends. -/
theorem balanced_of_stepped (h : Balanced bound b)
    (hstep : Stepped m host pattern options b move b') : Balanced bound b' := by
  obtain ⟨i, item, before, after, htask, htasks, hfree, -⟩ := exists_task_of_stepped hstep
  have hcount := countP_set_add (·.2.holdsPermit) htask (item, after)
  dsimp only at hcount
  unfold Balanced at h ⊢
  rw [htasks]
  omega

theorem balanced_follow (schedule : List Move) (h : Balanced bound b) :
    Balanced bound (b.follow m host pattern options schedule) :=
  follow_induction (fun _ _ _ hb hstep => balanced_of_stepped hb hstep) schedule h

/-! ## Progress -/

/-- **A batch does not get stuck**: with at least one permit, some move can be made as long as some task has
not ended. -/
theorem exists_stepped (m : Matcher) (host : Host σ) (pattern : Value) (options : Options)
    (h : Balanced bound b) (hbound : bound ≠ 0)
    (hunfinished : ∃ t ∈ b.tasks, t.2.isFinished = false) :
    ∃ move b', Stepped m host pattern options b move b' := by
  by_cases hholder : ∃ t ∈ b.tasks, t.2.holdsPermit = true
  · obtain ⟨⟨item, task⟩, ht, hholds⟩ := hholder
    obtain ⟨i, hi⟩ := List.getElem?_of_mem ht
    cases task with
    | entered r =>
        obtain ⟨answer, q, hevaluate⟩ := Action.exists_eq_ofExcept (m.evaluate host r) b.memory
        exact ⟨_, _, .started hi hevaluate⟩
    | running r answer =>
        obtain ⟨result, q, hfinish⟩ :=
          Action.exists_eq_ofExcept (Action.ofExcept answer >>= Matcher.finish r) b.memory
        exact ⟨_, _, .ended hi hfinish⟩
    | waiting => cases hholds
    | finished result => cases hholds
  · -- Nobody holds a permit, so all are free and whoever has not ended can enter.
    have hnone : b.tasks.countP (·.2.holdsPermit) = 0 := by
      rw [List.countP_eq_zero]
      intro t ht hholds
      exact hholder ⟨t, ht, hholds⟩
    have hfree : b.free ≠ 0 := by
      unfold Balanced at h
      omega
    obtain ⟨⟨item, task⟩, ht, hnot⟩ := hunfinished
    obtain ⟨i, hi⟩ := List.getElem?_of_mem ht
    cases task with
    | waiting =>
        cases hrequest : Matcher.request host item pattern options.value with
        | ok r => exact ⟨_, _, .admitted hi hfree hrequest⟩
        | error f => exact ⟨_, _, .rejected hi hfree hrequest⟩
    | entered r => exact absurd ⟨_, ht, rfl⟩ hholder
    | running r answer => exact absurd ⟨_, ht, rfl⟩ hholder
    | finished result => cases hnot

/-- How much some entries weigh together. -/
def total {α : Type} (weight : α → Nat) (l : List α) : Nat := l.foldr (fun x n => weight x + n) 0

theorem total_set_add {α : Type} {l : List α} {x : α} (weight : α → Nat) (h : l[i]? = some x)
    (y : α) : total weight (l.set i y) + weight x = total weight l + weight y := by
  unfold total
  induction l generalizing i with
  | nil => cases h
  | cons z l ih =>
      cases i with
      | zero =>
          obtain rfl : z = x := Option.some.inj h
          rw [List.set_cons_zero, List.foldr_cons, List.foldr_cons]
          omega
      | succ i =>
          have htail := ih h
          rw [List.set_cons_succ, List.foldr_cons, List.foldr_cons]
          omega

/-- How many moves a batch still has before it at most. -/
def ahead (b : Batch σ) : Nat := total (·.2.ahead) b.tasks

/-- Every move brings the batch closer to its end. -/
theorem ahead_lt_of_stepped (hstep : Stepped m host pattern options b move b') :
    b'.ahead < b.ahead := by
  obtain ⟨i, item, before, after, htask, htasks, -, hcloser⟩ := exists_task_of_stepped hstep
  have hsum := total_set_add (·.2.ahead) htask (item, after)
  dsimp only at hsum
  rw [ahead, ahead, htasks]
  omega

/-- What can go on as long as it is not settled, each time closer to its end, can be carried on until it
is. -/
theorem exists_foldl_of_ahead_lt {α β : Type} {next : β → α → β} {settled : β → Bool}
    {motive : β → Prop} (ahead : β → Nat)
    (hnext : ∀ b, motive b → settled b = false →
      ∃ a, motive (next b a) ∧ ahead (next b a) < ahead b) {b : β} (hb : motive b) :
    ∃ later : List α, settled (later.foldl next b) = true := by
  induction hn : ahead b using Nat.strongRecOn generalizing b with
  | ind n ih =>
      cases hsettled : settled b with
      | true => exact ⟨[], hsettled⟩
      | false =>
          obtain ⟨a, ha, hcloser⟩ := hnext b hb hsettled
          obtain ⟨later, hlater⟩ := ih (ahead (next b a)) (by omega) ha rfl
          exact ⟨a :: later, hlater⟩

/-- **Every batch can be carried on until it is settled**, if there is a permit at all. -/
theorem exists_isSettled_follow (m : Matcher) (host : Host σ) (pattern : Value) (options : Options)
    (h : Balanced bound b) (hbound : bound ≠ 0) :
    ∃ later, (b.follow m host pattern options later).isSettled = true := by
  refine exists_foldl_of_ahead_lt ahead (fun b hb hunsettled => ?_) h
  rw [isSettled, Bool.or_eq_false_iff] at hunsettled
  obtain ⟨t, ht, hunfinished⟩ := List.all_eq_false.1 hunsettled.2
  obtain ⟨move, b', hstep⟩ := exists_stepped m host pattern options hb hbound
    ⟨t, ht, Bool.eq_false_iff.2 hunfinished⟩
  refine ⟨move, ?_⟩
  rw [attempt_of_stepped hstep]
  exact ⟨balanced_of_stepped hb hstep, ahead_lt_of_stepped hstep⟩

end Batch

end GlobOracle
