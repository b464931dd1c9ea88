import GlobOracle.Proofs.Batch.Course
import GlobOracle.Proofs.Batch.Permits
import GlobOracle.Proofs.InTurn
import GlobOracle.Proofs.Steady

/-!
# A concurrent batch agrees with its items

On a steady host every item has an answer of its own.  Along a schedule every task is on its way to the
answer of its item (`Batch.Faithful`), so a batch that is settled gathers these answers, whatever the
schedule was (`Batch.gathered_follow`).  Going through the list one item after another does the same, and
so the two agree (`Matcher.concurrent_filter_agrees`).
-/

namespace GlobOracle

variable {σ : Type} {host : Host σ} {p q : Memory σ}

/-! ## Tasks on their way -/

theorem Task.isMatch_finished (result : Except Failure Bool) :
    (finished result).isMatch = isYes result := by
  cases result <;> rfl

section Faithful

variable (m : Matcher) (host : Host σ) (p : Memory σ) (pattern : Value) (options : Options)
  (items : List Value)

/-- A task is on its way to the answer that its item has when it is matched alone. -/
def Task.IsFaithful (item : Value) : Task → Prop
  | waiting => True
  | entered r => Matcher.request host item pattern options.value = .ok r
  | running r answer =>
      Matcher.request host item pattern options.value = .ok r ∧ answer = m.outcome host p r
  | finished result => result = m.answerTo pattern options.value host p item

namespace Batch

/-- All tasks of a batch are on their way to the answers of the items, and it has failed exactly if one of
those that have ended has failed. -/
structure Faithful (b : Batch σ) : Prop where
  found_eq : ShellPath.found host b.memory = ShellPath.found host p
  items_eq : b.tasks.map (·.1) = items
  tasks : ∀ t ∈ b.tasks, t.2.IsFaithful m host p pattern options t.1
  failed : ∀ f, b.failure = some f →
    ∃ item ∈ items, m.answerTo pattern options.value host p item = .error f
  unfailed : b.failure = none → ∀ t ∈ b.tasks, ∀ f, t.2 ≠ .finished (.error f)

theorem faithful_begin (bound : Nat) : Faithful m host p pattern options items (begin bound items p) := by
  refine ⟨rfl, map_fst_begin bound items p, ?_, ?_, ?_⟩
  · intro t ht
    rw [eq_waiting_of_mem_begin ht]
    trivial
  · intro f hf
    cases hf
  · intro _ t ht f
    rw [eq_waiting_of_mem_begin ht]
    exact Task.noConfusion

end Batch

end Faithful

namespace Batch

namespace Faithful

variable {m : Matcher} {pattern : Value} {options : Options} {items : List Value}
  {b b' : Batch σ} {i : Nat} {item : Value} {task : Task} {move : Move}

theorem mem_items (h : Faithful m host p pattern options items b)
    (htask : b.tasks[i]? = some (item, task)) : item ∈ items := by
  rw [← h.items_eq]
  exact List.mem_map_of_mem (List.mem_of_getElem? htask)

/-- A task may be put a step further on its way. -/
theorem put (h : Faithful m host p pattern options items b)
    (htask : b.tasks[i]? = some (item, task)) {after : Task}
    (hafter : after.IsFaithful m host p pattern options item)
    (hunfailed : ∀ f, after ≠ .finished (.error f)) :
    Faithful m host p pattern options items (b.put i item after) := by
  refine ⟨h.found_eq, (map_fst_set htask after).trans h.items_eq, ?_, h.failed, ?_⟩
  · intro t ht
    rcases List.mem_or_eq_of_mem_set ht with ht | rfl
    · exact h.tasks t ht
    · exact hafter
  · intro hnone t ht
    rcases List.mem_or_eq_of_mem_set ht with ht | rfl
    · exact h.unfailed hnone t ht
    · exact hunfailed

/-- A task may end with the answer of its item. -/
theorem close (h : Faithful m host p pattern options items b)
    (htask : b.tasks[i]? = some (item, task)) {result : Except Failure Bool}
    (hresult : result = m.answerTo pattern options.value host p item) :
    Faithful m host p pattern options items (b.close i item result) := by
  cases result with
  | ok matched => exact h.put htask hresult fun f => by simp
  | error f =>
      refine ⟨h.found_eq, (map_fst_set htask _).trans h.items_eq, ?_, ?_, ?_⟩
      · intro t ht
        rcases List.mem_or_eq_of_mem_set ht with ht | rfl
        · exact h.tasks t ht
        · exact hresult
      · intro g hg
        rw [close_failure_of_error] at hg
        rcases Option.or_eq_some_iff.1 hg with hbefore | ⟨-, hnow⟩
        · exact h.failed g hbefore
        · cases hnow
          exact ⟨item, h.mem_items htask, hresult.symm⟩
      · intro hnone
        rw [close_failure_of_error, Option.or_eq_none_iff] at hnone
        cases hnone.2

/-- Neither the permits nor, as long as the shell is found where it was, the memory has a say in the
answers. -/
theorem withMemory (h : Faithful m host p pattern options items b)
    (hfound : ShellPath.found host q = ShellPath.found host p) (free : Nat) :
    Faithful m host p pattern options items { b with free := free, memory := q } :=
  ⟨hfound, h.items_eq, h.tasks, h.failed, h.unfailed⟩

/-- **Every move keeps the tasks on their way.** -/
theorem of_stepped (posix : host.windows = false) (steady : host.IsSteady)
    (h : Faithful m host p pattern options items b)
    (hstep : Stepped m host pattern options b move b') :
    Faithful m host p pattern options items b' := by
  cases hstep with
  | @admitted i item r htask _ hrequest =>
      have hentered : (Task.entered r).IsFaithful m host p pattern options item := hrequest
      exact (h.put htask hentered fun f => Task.noConfusion).withMemory h.found_eq _
  | @rejected i item f htask _ hrequest =>
      refine h.close htask ?_
      rw [Matcher.answerTo, hrequest]
      rfl
  | @started i item r answer q htask hevaluate =>
      have hrequest := h.tasks _ (List.mem_of_getElem? htask)
      obtain ⟨rfl, hasked⟩ := m.asked_of_evaluate posix hevaluate
      have hrunning : (Task.running r (m.outcome host b.memory r)).IsFaithful m host p pattern
          options item := ⟨hrequest, m.outcome_eq_of_found steady h.found_eq r⟩
      exact (h.put htask hrunning fun f => Task.noConfusion).withMemory
        (hasked.found_eq.trans h.found_eq) b.free
  | @ended i item r answer result q htask hfinish =>
      obtain ⟨hrequest, hanswer⟩ := h.tasks _ (List.mem_of_getElem? htask)
      have hcomes : m.answerTo pattern options.value host p item =
          answer >>= fun outcome => outcome.resolve (r.options.has .strictErrors) := by
        rw [Matcher.answerTo, hrequest, hanswer]
        rfl
      obtain ⟨hresult, hasked⟩ := Matcher.asked_of_finish hfinish
      exact (h.withMemory (hasked.found_eq.trans h.found_eq) _).close htask (hresult.trans hcomes.symm)

/-- A batch that is settled without a failure has got the answers of all its items. -/
theorem tasks_eq_of_isSettled (h : Faithful m host p pattern options items b)
    (hsettled : b.isSettled = true) (hnone : b.failure = none) :
    b.tasks = items.map fun item =>
      (item, Task.finished (m.answerTo pattern options.value host p item)) := by
  rw [isSettled, hasFailed, hnone, Option.isSome_none, Bool.false_or, List.all_eq_true] at hsettled
  rw [← h.items_eq, List.map_map]
  refine (List.map_id b.tasks).symm.trans (List.map_congr_left ?_)
  rintro ⟨item, task⟩ ht
  obtain ⟨result, rfl⟩ := Task.isFinished_iff.1 (hsettled _ ht)
  have hresult : result = m.answerTo pattern options.value host p item := h.tasks _ ht
  rw [hresult]
  rfl

/-- **A settled batch gathers the answers of its items.** -/
theorem gathered_answer (h : Faithful m host p pattern options items b)
    (hsettled : b.isSettled = true) :
    Gathered (m.answerTo pattern options.value host p) items b.answer := by
  unfold answer
  cases hfailure : b.failure with
  | some f =>
      obtain ⟨item, hitem, hfails⟩ := h.failed f hfailure
      exact .failed hitem hfails
  | none =>
      have htasks := h.tasks_eq_of_isSettled hsettled hfailure
      have hmatching : b.matching = items.filter fun item =>
          isYes (m.answerTo pattern options.value host p item) := by
        rw [matching, htasks, List.filter_map, List.map_map]
        simp only [Function.comp_def, Task.isMatch_finished]
        exact List.map_id _
      dsimp only
      rw [hmatching]
      refine .answered ?_
      intro item hitem
      cases hanswer : m.answerTo pattern options.value host p item with
      | ok matched => exact ⟨matched, rfl⟩
      | error f =>
          refine absurd (congrArg Task.finished hanswer) (h.unfailed hfailure (item, _) ?_ f)
          rw [htasks]
          exact List.mem_map_of_mem hitem

end Faithful

/-- Whatever the schedule, a batch that it settles gathers the answers of its items. -/
theorem gathered_follow (m : Matcher) {pattern : Value} {options : Options} {items : List Value}
    (posix : host.windows = false) (steady : host.IsSteady) (bound : Nat) (schedule : List Move)
    (hsettled : ((begin bound items p).follow m host pattern options schedule).isSettled = true) :
    Gathered (m.answerTo pattern options.value host p) items
      ((begin bound items p).follow m host pattern options schedule).answer :=
  (follow_induction (fun _ _ _ h hstep => h.of_stepped posix steady hstep) schedule
    (faithful_begin m host p pattern options items bound)).gathered_answer hsettled

end Batch

/-! ## The agreement -/

namespace Matcher

variable {m : Matcher} {executor : Executor} {limit : Value}

/-- A matcher has at least one permit to give away. -/
theorem bound_ne_zero_of_ofValue (made : ofValue executor limit = .ok m) : m.bound ≠ 0 := by
  unfold ofValue at made
  cases hnumber : wholeNumber limit with
  | error f =>
      rw [hnumber] at made
      cases made
  | ok n =>
      rw [hnumber] at made
      cases made
      exact boundOf_ne_zero n

/-- **A batch that is matched concurrently agrees with the same batch matched item by item**, for a shell
that replies to a call alike whenever it is asked.

If what is checked first goes wrong, both fail with the same failure and nothing is done.  Otherwise the
concurrent batch follows a schedule that settles it, and every schedule can be carried on until it does.
Under every schedule that settles it, it fails exactly if the other one does, with a failure that a single
match of some item has under the options of the caller, and if neither fails both keep the same items in
the same order. -/
theorem concurrent_filter_agrees (steady : host.IsSteady) (made : ofValue executor limit = .ok m)
    (listed pattern options : Value) (p : Memory σ) :
    (∀ f, prepare host listed pattern options = .error f →
      m.filter host listed pattern options p = .error f p ∧
      m.filterConcurrently host listed pattern options p = .error f p ∧
      ∀ schedule, m.filterScheduled host listed pattern options schedule p = .error f p) ∧
    (∀ items o, prepare host listed pattern options = .ok (items, o) →
      (∃ schedule,
        ((Batch.begin m.bound items p).follow m host pattern o schedule).isSettled = true ∧
        m.filterConcurrently host listed pattern options p =
          m.filterScheduled host listed pattern options schedule p) ∧
      (∀ schedule, ∃ later, ((Batch.begin m.bound items p).follow m host pattern o
        (schedule ++ later)).isSettled = true) ∧
      ∀ schedule,
        ((Batch.begin m.bound items p).follow m host pattern o schedule).isSettled = true →
        ((∃ f q, m.filterScheduled host listed pattern options schedule p = .error f q) ↔
          ∃ f q, m.filter host listed pattern options p = .error f q) ∧
        (∀ f q, m.filterScheduled host listed pattern options schedule p = .error f q →
          ∃ item ∈ items, ∃ r, m.test host item pattern options p = .error f r) ∧
        (∀ kept q kept' q',
          m.filterScheduled host listed pattern options schedule p = .ok kept q →
          m.filter host listed pattern options p = .ok kept' q' → kept = kept')) := by
  constructor
  · intro f hprepare
    unfold filter filterConcurrently filterScheduled
    rw [hprepare]
    exact ⟨rfl, rfl, fun _ => rfl⟩
  · intro items o hprepare
    obtain ⟨⟨text, rfl⟩, posix, hnormal, -⟩ := prepare_eq_ok_iff.1 hprepare
    have hfilter : m.filter host listed (.text text) options p =
        m.keep host (.text text) o items p := by
      rw [filter, hprepare]
      rfl
    have hscheduled : ∀ schedule, m.filterScheduled host listed (.text text) options schedule p =
        ((Batch.begin m.bound items p).follow m host (.text text) o schedule).answer := by
      intro schedule
      rw [filterScheduled, hprepare]
      rfl
    have hconcurrent : m.filterConcurrently host listed (.text text) options p =
        ((Batch.begin m.bound items p).run m host (.text text) o).answer := by
      rw [filterConcurrently, hprepare]
      rfl
    have hbound := bound_ne_zero_of_ofValue made
    refine ⟨?_, ?_, ?_⟩
    · obtain ⟨schedule, hrun⟩ :=
        Batch.exists_run_eq_follow m host (.text text) o (Batch.begin m.bound items p)
      refine ⟨schedule, ?_, by rw [hconcurrent, hscheduled, hrun]⟩
      rw [← hrun]
      exact Batch.isSettled_run m host (.text text) o hbound items p
    · intro schedule
      obtain ⟨later, hlater⟩ := Batch.exists_isSettled_follow m host (.text text) o
        (Batch.balanced_follow schedule (Batch.balanced_begin m.bound items p)) hbound
      exact ⟨later, by rwa [Batch.follow_append]⟩
    · intro schedule hsettled
      have hbatch := Batch.gathered_follow m posix steady m.bound schedule hsettled
      have hkeep : Gathered (m.answerTo (.text text) o.value host p) items
          (m.keep host (.text text) o items p) := m.gathered_keep posix steady rfl
      rw [← hscheduled] at hbatch
      rw [← hfilter] at hkeep
      refine ⟨⟨hbatch.exists_error hkeep, hkeep.exists_error hbatch⟩, ?_, ?_⟩
      · intro f q hfails
        rw [hfails] at hbatch
        obtain ⟨item, hitem, hanswer⟩ := hbatch.exists_of_error
        obtain ⟨r, hr, -⟩ := m.exists_test_eq_answerTo (.text text) o.value posix steady
          (Eq.refl (ShellPath.found host p)) item
        rw [hanswer, m.test_canonical hnormal] at hr
        exact ⟨item, hitem, r, hr⟩
      · intro kept q kept' q' hkept hkept'
        rw [hkept] at hbatch
        rw [hkept'] at hkeep
        exact hbatch.kept_eq hkeep

/-- A host whose shell finds that the text `a` matches the pattern `*`, and nothing else. -/
def pickyHost : Host Unit where
  windows := false
  currentDirectory := .ok "/work/dir"
  fileExists _ := true
  shell
    | .direct arguments _, s =>
        (.ok (.streams (.bytes (if arguments.contains (Command.script "a" "*") then [0x74] else []))
          (.bytes [])), s)
    | .launch _ _ _ _, s => (.error .noOperation, s)

theorem isSteady_pickyHost : pickyHost.IsSteady := by
  intro call s t
  cases call <;> rfl

/-- The items are kept in their order, though the last one ends before the first one. -/
theorem concurrent_filter_out_of_order :
    ∃ q, filterScheduled ⟨.direct, 2⟩ pickyHost (.list [.text "a", .text "b", .text "a"]) (.text "*")
      .null [.enter 1, .enter 0, .start 0, .start 1, .finish 1, .enter 2, .start 2, .finish 2, .finish 0]
      (Memory.fresh ()) = .ok [.text "a", .text "a"] q := by
  obtain ⟨-, hsettled⟩ := concurrent_filter_agrees isSteady_pickyHost
    (rfl : ofValue .direct (.int 2) = .ok ⟨.direct, 2⟩) (.list [.text "a", .text "b", .text "a"])
    (.text "*") .null (Memory.fresh ())
  obtain ⟨hfails, -, hkept⟩ := (hsettled _ _ rfl).2.2
    [.enter 1, .enter 0, .start 0, .start 1, .finish 1, .enter 2, .start 2, .finish 2, .finish 0] rfl
  cases hscheduled : filterScheduled ⟨.direct, 2⟩ pickyHost
      (.list [.text "a", .text "b", .text "a"]) (.text "*") .null
      [.enter 1, .enter 0, .start 0, .start 1, .finish 1, .enter 2, .start 2, .finish 2, .finish 0]
      (Memory.fresh ()) with
  | ok kept q =>
      obtain rfl := hkept kept q [.text "a", .text "a"] _ hscheduled rfl
      exact ⟨q, rfl⟩
  | error f q =>
      obtain ⟨g, r, hg⟩ := hfails.1 ⟨f, q, hscheduled⟩
      cases hg

end Matcher

end GlobOracle
