import GlobOracle.Proofs.Batch.Discipline
import GlobOracle.Proofs.Warnings

/-!
# What a batch warns about

In a concurrent batch an evaluation is begun when a worker takes its request up, and what it calls for is
warned about when its task ends, so the order of the warnings depends on the schedule.  What does not is
their number: an evaluation is answered for once, now or later.

`Batch.Account` keeps these books.  Every evaluation that was begun has been answered for, or is pending in
a task that is running; and the tasks that were taken up have each begun one.  When all tasks have ended
nothing is pending any more (`Batch.Account.of_isSettled`).
-/

namespace GlobOracle

variable {σ α β : Type} {host : Host σ} {p q : Memory σ}

/-- Where a member of a list makes way for another one, what is made of it makes way for what is made of
the other. -/
theorem flatMap_set_perm {l : List α} {i : Nat} {x : α} (h : l[i]? = some x) (y : α)
    (make : α → List β) : ((l.set i y).flatMap make ++ make x).Perm (l.flatMap make ++ make y) := by
  classical
  induction l generalizing i with
  | nil => cases h
  | cons z l ih =>
      cases i with
      | zero =>
          cases h
          rw [List.perm_iff_count]
          intro made
          simp only [List.set_cons_zero, List.flatMap_cons, List.count_append]
          omega
      | succ i =>
          have hrest := ih (i := i) h
          rw [List.perm_iff_count] at hrest ⊢
          intro made
          have hmade := hrest made
          simp only [List.set_cons_succ, List.flatMap_cons, List.count_append] at hmade ⊢
          omega

/-- The evaluation that a task has still to answer for. -/
def Task.pending : Task → List Evaluation
  | running request answer => [⟨request, answer⟩]
  | _ => []

namespace Batch

variable {m : Matcher} {pattern : Value} {o : Options} {b b' : Batch σ} {es : List Evaluation}
  {move : Move} {i : Nat} {item : Value} {before after : Task}

/-! ## The evaluations of a schedule -/

/-- The evaluations that a move begins. -/
def evaluationsAt (m : Matcher) (host : Host σ) (b : Batch σ) : Move → List Evaluation
  | .start i =>
      match b.tasks[i]? with
      | some (_, .entered request) => [m.evaluationOf host b.memory request]
      | _ => []
  | _ => []

/-- The evaluations that are begun on a schedule. -/
def evaluationsOn (m : Matcher) (host : Host σ) (pattern : Value) (o : Options) (b : Batch σ) :
    List Move → List Evaluation
  | [] => []
  | move :: schedule =>
      b.evaluationsAt m host move ++
        (b.attempt m host pattern o move).evaluationsOn m host pattern o schedule

/-- A move that cannot be made begins no evaluation. -/
theorem evaluationsAt_of_step?_eq_none (h : b.step? m host pattern o move = none) :
    b.evaluationsAt m host move = [] := by
  cases move with
  | start i =>
      rw [evaluationsAt]
      split
      · rename_i item request htask
        obtain ⟨answer, q, hevaluate⟩ := Action.exists_eq_ofExcept (m.evaluate host request) b.memory
        rw [step?_of_stepped (.started htask hevaluate)] at h
        cases h
      · rfl
  | _ => rfl

/-- A batch answers with the items that match only if nothing has failed. -/
theorem of_answer_eq_ok {kept : List Value} (h : b.answer = .ok kept q) :
    b.failure = none ∧ b.memory = q := by
  unfold answer at h
  cases hfailure : b.failure with
  | some f =>
      rw [hfailure] at h
      cases h
  | none =>
      rw [hfailure] at h
      cases h
      exact ⟨rfl, rfl⟩

/-! ## The books -/

/-- What was asked for by a task that was taken up. -/
def requested (host : Host σ) (pattern : Value) (o : Options) (t : Value × Task) :
    List (Except Failure Request) :=
  if t.2.isTakenUp then [Matcher.request host t.1 pattern o.value] else []

/-- The books of a batch that began in a memory, after some evaluations were begun. -/
structure Account (host : Host σ) (p : Memory σ) (pattern : Value) (o : Options)
    (es : List Evaluation) (b : Batch σ) : Prop where
  /-- A task that has entered has the request of its item. -/
  entered : ∀ t ∈ b.tasks, ∀ r, t.2 = .entered r → Matcher.request host t.1 pattern o.value = .ok r
  /-- Every evaluation is pending or has been answered for by the warning that it calls for. -/
  answered : ∃ ended, p.Warned (ended.filterMap Evaluation.warning?) b.memory ∧
    es.Perm (ended ++ b.tasks.flatMap (·.2.pending))
  /-- As long as nothing has failed, every task that was taken up has begun one evaluation. -/
  begun : b.failure = none →
    (es.map fun e : Evaluation => Except.ok e.request).Perm
      (b.tasks.flatMap (requested host pattern o))

namespace Account

theorem begin (host : Host σ) (p : Memory σ) (pattern : Value) (o : Options) (bound : Nat)
    (items : List Value) : Account host p pattern o [] (Batch.begin bound items p) := by
  have hnone : ∀ {γ : Type} (make : Value × Task → List γ),
      (∀ item, make (item, .waiting) = []) → (Batch.begin bound items p).tasks.flatMap make = [] := by
    intro γ make hmake
    refine List.flatMap_eq_nil_iff.2 fun t ht => ?_
    obtain ⟨item, -, rfl⟩ := List.mem_map.1 ht
    exact hmake item
  refine ⟨?_, ⟨[], .refl p, ?_⟩, fun _ => ?_⟩
  · intro t ht r hentered
    rw [eq_waiting_of_mem_begin ht] at hentered
    cases hentered
  · rw [hnone _ fun item => rfl]
    exact .refl _
  · rw [hnone _ fun item => rfl]
    exact .refl _

/-- A task may go a step further if the books of that task alone are kept: with the evaluations that the
step begins and those that it answers for. -/
theorem advance (h : Account host p pattern o es b) (htask : b.tasks[i]? = some (item, before))
    (htasks : b'.tasks = b.tasks.set i (item, after))
    (hentered : ∀ r, after = .entered r → Matcher.request host item pattern o.value = .ok r)
    (begun ended : List Evaluation)
    (hwarned : b.memory.Warned (ended.filterMap Evaluation.warning?) b'.memory)
    (hpending : (begun ++ before.pending).Perm (ended ++ after.pending))
    (hrequested : b'.failure = none → b.failure = none ∧
      (begun.map (fun e : Evaluation => Except.ok e.request) ++
          requested host pattern o (item, before)).Perm (requested host pattern o (item, after))) :
    Account host p pattern o (es ++ begun) b' := by
  obtain ⟨ended', hwarned', hperm⟩ := h.answered
  refine ⟨?_, ⟨ended' ++ ended, ?_, ?_⟩, ?_⟩
  · intro t ht
    rw [htasks] at ht
    rcases List.mem_or_eq_of_mem_set ht with ht | rfl
    · exact h.entered t ht
    · exact hentered
  · rw [List.filterMap_append]
    exact hwarned'.trans hwarned
  · have hset := flatMap_set_perm htask (item, after) (·.2.pending)
    classical
    rw [htasks]
    simp only [List.perm_iff_count, List.count_append] at hset hperm hpending ⊢
    intro e
    have := hset e
    have := hperm e
    have := hpending e
    omega
  · intro hnone
    obtain ⟨hnone', hbooks⟩ := hrequested hnone
    have hbegun := h.begun hnone'
    have hset := flatMap_set_perm htask (item, after) (requested host pattern o)
    classical
    rw [htasks, List.map_append]
    simp only [List.perm_iff_count, List.count_append] at hset hbegun hbooks ⊢
    intro e
    have := hset e
    have := hbegun e
    have := hbooks e
    omega

/-- **Every move keeps the books.** -/
theorem of_stepped (h : Account host p pattern o es b) (hstep : Stepped m host pattern o b move b') :
    Account host p pattern o (es ++ b.evaluationsAt m host move) b' := by
  cases hstep with
  | @admitted i item r htask _ hrequest =>
      refine h.advance htask rfl ?_ [] [] (.refl _) ?_ fun hnone => ⟨hnone, ?_⟩
      · rintro r ⟨⟩
        exact hrequest
      · exact .refl _
      · exact .refl _
  | @rejected i item f htask _ _ =>
      refine h.advance htask (close_tasks b i item _) (fun r => Task.noConfusion) [] [] ?_ (.refl _) ?_
      · rw [close_memory]
        exact .refl _
      · intro hnone
        rw [close_failure_of_error, Option.or_eq_none_iff] at hnone
        cases hnone.2
  | @started i item r answer q htask hevaluate =>
      have hrequest := h.entered _ (List.mem_of_getElem? htask) r rfl
      have hevaluation : b.evaluationsAt m host (.start i) = [⟨r, answer⟩] := by
        rw [evaluationsAt, htask]
        simp only [Matcher.evaluationOf, Action.answer_of_eq hevaluate]
      have hsilent := m.isSilent_evaluate host r b.memory
      rw [Action.memoryAfter_of_eq hevaluate] at hsilent
      rw [hevaluation]
      refine h.advance htask rfl (fun r => Task.noConfusion) [⟨r, answer⟩] [] hsilent (.refl _) ?_
      exact fun hnone => ⟨hnone, by simp [requested, Task.isTakenUp, hrequest]⟩
  | @ended i item r answer result q htask hfinish =>
      have hwarned := Matcher.warned_finish ⟨r, answer⟩ b.memory
      rw [Action.memoryAfter_of_eq hfinish, ← Evaluation.filterMap_warning?_singleton] at hwarned
      let released : Batch σ := { b with free := b.free + 1, memory := q }
      refine h.advance htask (close_tasks released i item result) (fun r => Task.noConfusion) []
        [⟨r, answer⟩] ?_ (.refl _) fun hnone => ⟨?_, .refl _⟩
      · rw [close_memory]
        exact hwarned
      · cases result with
        | ok matched => exact hnone
        | error f =>
            rw [close_failure_of_error, Option.or_eq_none_iff] at hnone
            cases hnone.2

/-- The books are kept along a schedule. -/
theorem follow (h : Account host p pattern o es b) (schedule : List Move) :
    Account host p pattern o (es ++ b.evaluationsOn m host pattern o schedule)
      (b.follow m host pattern o schedule) := by
  induction schedule generalizing b es with
  | nil =>
      rw [evaluationsOn, List.append_nil]
      exact h
  | cons move schedule ih =>
      rw [evaluationsOn, ← List.append_assoc]
      refine ih ?_
      cases hmove : b.step? m host pattern o move with
      | none =>
          rw [evaluationsAt_of_step?_eq_none hmove, List.append_nil, attempt, hmove]
          exact h
      | some b' =>
          have hstep := stepped_of_step? hmove
          rw [attempt_of_stepped hstep]
          exact h.of_stepped hstep

/-- **A batch that has come to its end without a failure** has begun one evaluation for each of its items,
and has warned as these call for, in some order. -/
theorem of_isSettled (h : Account host p pattern o es b) (hsettled : b.isSettled = true)
    (hnone : b.failure = none) :
    (∃ notices, p.Warned notices b.memory ∧ notices.Perm (es.filterMap Evaluation.warning?)) ∧
      (es.map fun e : Evaluation => Except.ok e.request).Perm
        ((b.tasks.map (·.1)).map fun item => Matcher.request host item pattern o.value) := by
  rw [isSettled, hasFailed, hnone, Option.isSome_none, Bool.false_or, List.all_eq_true] at hsettled
  have hpending : b.tasks.flatMap (·.2.pending) = [] := by
    refine List.flatMap_eq_nil_iff.2 fun t ht => ?_
    obtain ⟨result, hresult⟩ := Task.isFinished_iff.1 (hsettled t ht)
    rw [hresult]
    rfl
  have hrequested : b.tasks.flatMap (requested host pattern o) =
      (b.tasks.map (·.1)).map fun item => Matcher.request host item pattern o.value := by
    rw [List.map_map, List.map_eq_flatMap]
    rw [List.flatMap_def, List.flatMap_def]
    refine congrArg List.flatten (List.map_congr_left fun t ht => ?_)
    rw [requested, if_pos (Task.isTakenUp_of_isFinished (hsettled t ht))]
    rfl
  obtain ⟨ended, hwarned, hperm⟩ := h.answered
  rw [hpending, List.append_nil] at hperm
  refine ⟨⟨_, hwarned, (hperm.filterMap _).symm⟩, ?_⟩
  rw [← hrequested]
  exact h.begun hnone

end Account

end Batch

end GlobOracle
