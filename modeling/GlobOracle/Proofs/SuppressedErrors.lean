import GlobOracle.Proofs.Batch.Account
import GlobOracle.Proofs.ErrorPolicy
import GlobOracle.Proofs.ShellPath.Epoch

/-!
# Every suppressed error is warned about once

Through any moments at which one thing is done after another, the warnings are those of the evaluations
that are made, in their order (`Moment.warned_afterAll`).  Nothing else is warned about: a request that is
rejected makes no evaluation, and an evaluation calls for a warning only if its outcome is an error that
the policy suppresses (`Evaluation.warning?_eq_some_iff`).

A concurrent batch that comes to its end makes one evaluation for each item, and warns as these call for in
the order in which its tasks end.  `Matcher.suppressed_errors_are_warned_about_once` is the main result.
-/

namespace GlobOracle

variable {σ : Type} {host : Host σ} {p q : Memory σ}

/-! ## One thing after another -/

namespace Operation

/-- The operation does one thing after another: it is no concurrent batch. -/
def IsSequential : Operation → Prop
  | filterConcurrently _ _ _ _ | filterScheduled _ _ _ _ _ => False
  | _ => True

/-- The evaluations that an operation applies an error policy to: those of a match or of a list. -/
def evaluations (host : Host σ) (p : Memory σ) : Operation → List Evaluation
  | test m subject pattern options => m.evaluationsOf host p subject pattern options
  | filter m listed pattern options => m.evaluationsOfList host p listed pattern options
  | _ => []

/-- **An operation that does one thing after another warns as its evaluations call for.** -/
theorem warned_perform {operation : Operation} (h : operation.IsSequential) (host : Host σ)
    (p : Memory σ) :
    p.Warned ((operation.evaluations host p).filterMap Evaluation.warning?)
      ((operation.perform host).memoryAfter p) := by
  cases operation with
  | run client arguments directory =>
      rw [perform, Action.memoryAfter_bind_pure]
      exact client.isSilent_run host arguments directory p
  | read client =>
      rw [perform, Action.memoryAfter_bind_pure]
      exact client.isSilent_program host p
  | resolve =>
      rw [perform, Action.memoryAfter_bind_pure]
      exact ShellPath.isSilent_resolve host p
  | forget => exact .refl p
  | compile subject pattern options =>
      rw [perform, Action.memoryAfter_bind_pure]
      exact Action.isSilent_ofExcept _ p
  | evaluate m request =>
      rw [perform, Action.memoryAfter_bind_pure]
      exact m.isSilent_evaluate host request p
  | test m subject pattern options =>
      rw [perform, Action.memoryAfter_bind_pure]
      exact m.warned_test host subject pattern options p
  | filter m listed pattern options =>
      rw [perform, Action.memoryAfter_bind_pure]
      exact m.warned_filter host listed pattern options p
  | filterConcurrently m listed pattern options => exact h.elim
  | filterScheduled m listed pattern options schedule => exact h.elim

end Operation

namespace Moment

/-- The evaluations that are made at some moments, one after another. -/
def evaluations : Memory σ → List (Moment σ) → List Evaluation
  | _, [] => []
  | p, moment :: moments =>
      moment.operation.evaluations moment.host p ++ evaluations (after p moment) moments

/-- **The warnings of a history** are those that its evaluations call for, in their order. -/
theorem warned_afterAll {moments : List (Moment σ)}
    (h : ∀ moment ∈ moments, moment.operation.IsSequential) (p : Memory σ) :
    p.Warned ((evaluations p moments).filterMap Evaluation.warning?) (afterAll p moments) := by
  induction moments generalizing p with
  | nil => exact .refl p
  | cons moment moments ih =>
      have hfirst : p.Warned ((moment.operation.evaluations moment.host p).filterMap Evaluation.warning?)
          (after p moment) :=
        Operation.warned_perform (h moment List.mem_cons_self) moment.host p
      have hrest := ih (fun m hm => h m (List.mem_cons_of_mem _ hm)) (after p moment)
      rw [evaluations, List.filterMap_append]
      exact hfirst.trans hrest

end Moment

/-! ## All of it -/

namespace Matcher

/-- **An error is warned about and counts as no match, or is reported without a warning.** -/
theorem suppressed_or_reported {e : Evaluation} {outcome : Outcome} (h : e.answer = .ok outcome)
    (herror : outcome.isError = true) (p : Memory σ) :
    (e.warning? = some (.suppressed outcome e.request.pattern) ∧
        ∃ q, finish e.request outcome p = .ok false q) ∨
      (e.warning? = none ∧ ∃ f q, finish e.request outcome p = .error f q) := by
  obtain ⟨request, answer⟩ := e
  obtain rfl : answer = .ok outcome := h
  have hfinish : ∃ q, finish request outcome p =
      Action.ofExcept (outcome.resolve (request.options.has .strictErrors)) q := by
    unfold finish
    dsimp only
    split
    · exact ⟨p.record _, rfl⟩
    · exact ⟨p, rfl⟩
  obtain ⟨q, hq⟩ := hfinish
  rw [Evaluation.warning?_ok, herror, hq]
  cases request.options.has .strictErrors with
  | true =>
      obtain ⟨f, hf, -⟩ := Outcome.exists_resolve_strict herror
      exact Or.inr ⟨rfl, f, q, by rw [hf]; rfl⟩
  | false =>
      have hnone : outcome.isMatch = false := by
        cases outcome with
        | matched => cases herror
        | _ => rfl
      exact Or.inl ⟨rfl, q, by rw [Outcome.resolve_lenient, hnone]; rfl⟩

/-- **Every suppressed error is warned about once, and nothing else is.**

Let one thing be done after another, whatever it is: matches, lists and anything else but concurrent
batches, with whatever arguments, on hosts that may change and reply as they like.  Then the warnings are,
in order, those that the evaluations call for which are made on the way.

A concurrent batch that comes to its end without a failure, under whatever schedule, makes one evaluation
for each of its items, and its warnings are those that they call for, in some order.  The batch that moves
by itself follows such a schedule.

An evaluation calls for a warning exactly if its outcome is an error under a policy that does not report
it, and the warning tells this outcome and the pattern.  Then the error counts as no match, and an error
that is not warned about is reported. -/
theorem suppressed_errors_are_warned_about_once :
    (∀ (moments : List (Moment σ)) (p : Memory σ),
      (∀ moment ∈ moments, moment.operation.IsSequential) →
      (Moment.afterAll p moments).warnings =
        p.warnings ++ (Moment.evaluations p moments).filterMap Evaluation.warning?) ∧
    (∀ (m : Matcher) (host : Host σ) (listed pattern options : Value) (items : List Value)
        (o : Options) (p : Memory σ), prepare host listed pattern options = .ok (items, o) →
      (∀ schedule kept q,
        ((Batch.begin m.bound items p).follow m host pattern o schedule).isSettled = true →
        m.filterScheduled host listed pattern options schedule p = .ok kept q →
        (∃ notices, q.warnings = p.warnings ++ notices ∧
          notices.Perm (((Batch.begin m.bound items p).evaluationsOn m host pattern o schedule).filterMap
            Evaluation.warning?)) ∧
        (((Batch.begin m.bound items p).evaluationsOn m host pattern o schedule).map
            fun e => Except.ok e.request).Perm
          (items.map fun item => request host item pattern o.value)) ∧
      (m.bound ≠ 0 → ∃ schedule,
        ((Batch.begin m.bound items p).follow m host pattern o schedule).isSettled = true ∧
        m.filterConcurrently host listed pattern options p =
          m.filterScheduled host listed pattern options schedule p)) ∧
    (∀ (e : Evaluation) (notice : Notice), e.warning? = some notice ↔
      ∃ outcome, e.answer = .ok outcome ∧ outcome.isError = true ∧
        e.request.options.has .strictErrors = false ∧
        notice = .suppressed outcome e.request.pattern) ∧
    ∀ (e : Evaluation) (outcome : Outcome) (p : Memory σ),
      e.answer = .ok outcome → outcome.isError = true →
      (e.warning? = some (.suppressed outcome e.request.pattern) ∧
          ∃ q, finish e.request outcome p = .ok false q) ∨
        (e.warning? = none ∧ ∃ f q, finish e.request outcome p = .error f q) := by
  refine ⟨fun moments p h => Moment.warned_afterAll h p, ?_, fun e notice => e.warning?_eq_some_iff,
    fun e outcome p h herror => suppressed_or_reported h herror p⟩
  intro m host listed pattern options items o p hprepare
  have hscheduled : ∀ schedule, m.filterScheduled host listed pattern options schedule p =
      ((Batch.begin m.bound items p).follow m host pattern o schedule).answer := by
    intro schedule
    rw [filterScheduled, hprepare]
    rfl
  constructor
  · intro schedule kept q hsettled hkept
    rw [hscheduled] at hkept
    obtain ⟨hnone, rfl⟩ := Batch.of_answer_eq_ok hkept
    have hbooks := (Batch.Account.begin host p pattern o m.bound items).follow (m := m) schedule
    have hended := hbooks.of_isSettled hsettled hnone
    rw [List.nil_append, Batch.items_eq_follow] at hended
    exact hended
  · intro hbound
    obtain ⟨schedule, hrun⟩ :=
      Batch.exists_run_eq_follow m host pattern o (Batch.begin m.bound items p)
    refine ⟨schedule, ?_, ?_⟩
    · rw [← hrun]
      exact Batch.isSettled_run m host pattern o hbound items p
    · rw [hscheduled, ← hrun, filterConcurrently, hprepare]
      rfl

/-- The warning about the complaint of the moody shell. -/
def complaintAboutB : Notice := .suppressed (.evaluationError "!") "*"

/-- The warning about the shell that was not launched. -/
def noLaunchForC : Notice :=
  .suppressed (.spawnError "Permission denied"
    (some (.os ⟨.permission, [.text "Permission denied"]⟩))) "*"

/-- Three texts: a match, a complaint, and no launch. -/
def moodyItems : Value := .list [.text "a", .text "b", .text "c"]

/-- A schedule that starts three tasks backwards and ends them out of order. -/
def backwards : List Move :=
  [.enter 0, .enter 1, .enter 2, .start 2, .start 1, .start 0, .finish 2, .finish 0, .finish 1]

/-- A lenient list warns about a complaint and about a launch that went wrong, a strict match behind it
about nothing, and a concurrent batch about the same two in whatever order. -/
theorem moody_shell_warns_twice :
    (Moment.afterAll (Memory.fresh ())
        [⟨moodyHost, .filter ⟨.direct, 4⟩ moodyItems (.text "*") .null⟩,
          ⟨moodyHost, .test ⟨.direct, 4⟩ (.text "b") (.text "*")
            (.mapping [("strict_errors", .bool true)])⟩]).warnings = [complaintAboutB, noLaunchForC] ∧
      ∃ kept q, filterScheduled ⟨.direct, 4⟩ moodyHost moodyItems (.text "*") .null backwards
          (Memory.fresh ()) = .ok kept q ∧
        q.warnings.Perm [noLaunchForC, complaintAboutB] := by
  obtain ⟨hhistory, hbatch, -⟩ := suppressed_errors_are_warned_about_once (σ := Unit)
  constructor
  · rw [hhistory _ _ (by simp [Operation.IsSequential])]
    rfl
  · obtain ⟨o, hprepare⟩ : ∃ o, prepare moodyHost moodyItems (.text "*") .null =
        .ok ([.text "a", .text "b", .text "c"], o) := ⟨_, rfl⟩
    obtain ⟨kept, q, hkept⟩ : ∃ kept q, filterScheduled ⟨.direct, 4⟩ moodyHost moodyItems (.text "*")
        .null backwards (Memory.fresh ()) = .ok kept q := ⟨_, _, rfl⟩
    have hcompletes :=
      (hbatch ⟨.direct, 4⟩ moodyHost _ _ _ _ o (Memory.fresh ()) hprepare).1 backwards kept q
    cases hprepare
    obtain ⟨⟨notices, hwarned, hperm⟩, -⟩ := hcompletes rfl hkept
    refine ⟨kept, q, hkept, ?_⟩
    rw [hwarned]
    exact hperm

end Matcher

end GlobOracle
