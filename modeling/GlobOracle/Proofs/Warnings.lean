import GlobOracle.Proofs.Action
import GlobOracle.Matcher

/-!
# What a matcher warns about

Whatever comes of a request is an evaluation: the request, and an outcome or a failure that is passed on.
`Evaluation.warning?` says which evaluations ought to be warned about, and with which words: those whose
outcome is an error under a policy that does not report it.

Up to the outcome nothing is warned about (`Matcher.isSilent_evaluate`), so the warnings of a match are
those of the evaluation that it makes, if it makes one (`Matcher.warned_test`), and the warnings of a list
those of the evaluations of its items in turn (`Matcher.warned_filter`).
-/

namespace GlobOracle

variable {σ α β : Type} {host : Host σ} {p q r : Memory σ}

/-! ## Warnings -/

namespace Memory

/-- The warnings that went to the log, in order. -/
def warnings (p : Memory σ) : List Notice := p.notices.filter fun notice => notice.severity = .warning

@[simp] theorem warnings_record_called (p : Memory σ) (c : Call) :
    (p.record (.called c)).warnings = p.warnings := by
  simp [warnings, notices, record]

@[simp] theorem warnings_record_probed (p : Memory σ) (path : String) :
    (p.record (.probed path)).warnings = p.warnings := by
  simp [warnings, notices, record]

@[simp] theorem warnings_record_logged (p : Memory σ) (notice : Notice) :
    (p.record (.logged notice)).warnings =
      p.warnings ++ if notice.severity = .warning then [notice] else [] := by
  by_cases h : notice.severity = .warning <;> simp [warnings, notices, record, h]

/-- A later memory, with some more warnings. -/
def Warned (p : Memory σ) (notices : List Notice) (q : Memory σ) : Prop :=
  q.warnings = p.warnings ++ notices

namespace Warned

variable {notices later : List Notice}

theorem refl (p : Memory σ) : p.Warned [] p := (List.append_nil _).symm

theorem trans (h : p.Warned notices q) (h' : q.Warned later r) : p.Warned (notices ++ later) r := by
  rw [Warned] at h h' ⊢
  rw [h', h, List.append_assoc]

end Warned

end Memory

/-! ## Silent actions -/

namespace Action

/-- The action warns about nothing, however it ends. -/
def IsSilent (a : Action σ α) : Prop := ∀ p : Memory σ, p.Warned [] (a.memoryAfter p)

variable {a : Action σ α} {next : α → Action σ β}

theorem isSilent_ofExcept (answer : Except Failure α) : (ofExcept answer : Action σ α).IsSilent := by
  intro p
  rw [memoryAfter_of_eq rfl]
  exact .refl p

theorem IsSilent.bind (h : a.IsSilent) (hnext : ∀ x, (next x).IsSilent) : (a >>= next).IsSilent :=
  fun p => memoryAfter_bind (R := fun p q => p.Warned [] q) (fun h h' => h.trans h') (h p)
    fun x q _ => hnext x q

theorem IsSilent.attempt (h : a.IsSilent) : a.attempt.IsSilent := by
  intro p
  rw [memoryAfter_attempt]
  exact h p

/-- Other messages to the log are no warnings. -/
theorem isSilent_log {notice : Notice} (h : notice.severity = .debug) :
    (log notice : Action σ Unit).IsSilent := by
  intro p
  show (p.record (.logged notice)).warnings = _
  rw [Memory.warnings_record_logged, h]
  rfl

theorem isSilent_probe (host : Host σ) (path : String) : (probe host path).IsSilent := by
  intro p
  show (p.record (.probed path)).warnings = _
  rw [Memory.warnings_record_probed, List.append_nil]

theorem isSilent_call (host : Host σ) (c : Call) : (Action.call host c).IsSilent := by
  intro p
  have hcall : Action.call host c p = ofExcept (host.shell c p.shell).1
      { p.record (.called c) with shell := (host.shell c p.shell).2 } := rfl
  rw [memoryAfter_of_eq hcall]
  show (p.record (.called c)).warnings = _
  rw [Memory.warnings_record_called, List.append_nil]

end Action

/-! ## Up to the outcome nothing is warned about -/

theorem ShellPath.isSilent_search (host : Host σ) (paths : List String) :
    (search host paths).IsSilent := by
  induction paths with
  | nil => exact Action.isSilent_ofExcept (.ok fallback)
  | cons path paths ih =>
      refine (Action.isSilent_probe host path).bind fun there => ?_
      cases there with
      | true => exact Action.isSilent_ofExcept (.ok path)
      | false => exact ih

theorem ShellPath.isSilent_resolve (host : Host σ) : (resolve host).IsSilent := by
  intro p
  have hget : (get : Action σ (Memory σ)) p = .ok p p := rfl
  rw [resolve, Action.memoryAfter_bind_of_ok hget]
  cases p.shellPath with
  | some path => exact Action.isSilent_ofExcept (.ok path) p
  | none =>
      have hsettle : ∀ path, Action.IsSilent
          (modify fun p => { p with shellPath := some path } : Action σ Unit) :=
        fun path p => .refl p
      exact ((isSilent_search host candidates).bind fun path =>
        (hsettle path).bind fun _ => (Action.isSilent_log rfl).bind fun _ =>
          Action.isSilent_ofExcept (.ok path)) p

namespace Client

theorem isSilent_program (client : Client) (host : Host σ) : (client.program host).IsSilent := by
  unfold program
  cases client.path with
  | some path => exact Action.isSilent_ofExcept (.ok path)
  | none =>
      exact (ShellPath.isSilent_resolve host).bind fun path =>
        Action.isSilent_ofExcept (.ok (Executable.text path))

theorem isSilent_run (client : Client) (host : Host σ) (arguments directory : Value) :
    (client.run host arguments directory).IsSilent := by
  refine (client.isSilent_program host).bind fun program => ?_
  cases arguments.members? with
  | none => exact Action.isSilent_ofExcept (.error .wrongKind)
  | some members =>
      refine (Action.isSilent_ofExcept (.ok members)).bind fun members => ?_
      refine (Action.isSilent_log rfl).bind fun _ =>
        (Action.isSilent_call host _).attempt.bind fun answer => ?_
      match answer with
      | .error f => exact Action.isSilent_ofExcept (.error (client.tell program f))
      | .ok (.failure _) => exact Action.isSilent_ofExcept (.error .noOperation)
      | .ok (.streams output errors) =>
          exact Action.isSilent_ofExcept (.ok (Reply.streams (orNoBytes output) (orNoBytes errors)))

end Client

theorem Executor.isSilent_run (executor : Executor) (host : Host σ) (arguments : List String)
    (directory : Value) : (executor.run host arguments directory).IsSilent := by
  cases executor with
  | direct => exact Action.isSilent_call host _
  | client c => exact c.isSilent_run host (.list (arguments.map Value.text)) directory

/-- **Nothing is warned about before an outcome is there.** -/
theorem Matcher.isSilent_evaluate (m : Matcher) (host : Host σ) (request : Request) :
    (m.evaluate host request).IsSilent := by
  refine Action.IsSilent.bind ?_ fun _ => ?_
  · unfold Action.requirePosix
    split
    · exact Action.isSilent_ofExcept (.error .unsupportedPlatform)
    · exact Action.isSilent_ofExcept (.ok ())
  · exact (m.executor.isSilent_run host _ _).attempt.bind fun went =>
      Action.isSilent_ofExcept (judge went)

/-! ## Evaluations -/

/-- A request that was evaluated, and what came of it. -/
structure Evaluation where
  /-- The request. -/
  request : Request
  /-- Its outcome, or a failure that is passed on. -/
  answer : Except Failure Outcome

/-- The warning that an evaluation calls for.  A policy that reports errors calls for none; one that does
not calls for a warning about the complaint of the shell and about a launch that went wrong, and about
nothing else. -/
def Evaluation.warning? (e : Evaluation) : Option Notice :=
  if e.request.options.has .strictErrors then none
  else match e.answer with
    | .ok (.evaluationError complaint) =>
        some (.suppressed (.evaluationError complaint) e.request.pattern)
    | .ok (.spawnError message cause) => some (.suppressed (.spawnError message cause) e.request.pattern)
    | .ok .matched => none
    | .ok .notMatched => none
    | .error _ => none

@[simp] theorem Evaluation.warning?_error (request : Request) (f : Failure) :
    (Evaluation.mk request (.error f)).warning? = none := by
  unfold warning?
  split <;> rfl

/-- The errors are the outcomes that are warned about. -/
theorem Evaluation.warning?_ok (request : Request) (outcome : Outcome) :
    (Evaluation.mk request (.ok outcome)).warning? =
      if (outcome.isError && !request.options.has .strictErrors) = true
        then some (.suppressed outcome request.pattern) else none := by
  unfold warning?
  cases request.options.has .strictErrors <;> cases outcome <;> rfl

/-- **What is warned about is an error that is suppressed**, and every such error is. -/
theorem Evaluation.warning?_eq_some_iff {e : Evaluation} {notice : Notice} :
    e.warning? = some notice ↔
      ∃ outcome, e.answer = .ok outcome ∧ outcome.isError = true ∧
        e.request.options.has .strictErrors = false ∧
        notice = .suppressed outcome e.request.pattern := by
  obtain ⟨request, answer⟩ := e
  cases answer with
  | error f => simp
  | ok outcome =>
      rw [warning?_ok]
      constructor
      · intro h
        split at h
        · rename_i hsuppressed
          cases h
          rw [Bool.and_eq_true, Bool.not_eq_true'] at hsuppressed
          exact ⟨outcome, rfl, hsuppressed.1, hsuppressed.2, rfl⟩
        · cases h
      · rintro ⟨_, ⟨⟩, herror, hlenient, rfl⟩
        simp [herror, hlenient]

theorem Evaluation.filterMap_warning?_singleton (e : Evaluation) :
    [e].filterMap warning? = e.warning?.toList := by
  cases h : e.warning? <;> simp [h]

namespace Matcher

variable (m : Matcher)

/-- The evaluation of a request. -/
def evaluationOf (host : Host σ) (p : Memory σ) (request : Request) : Evaluation :=
  ⟨request, (m.evaluate host request).answer p⟩

/-- The evaluations of a match: the one of its request, if it has a request. -/
def evaluationsOf (host : Host σ) (p : Memory σ) (subject pattern options : Value) : List Evaluation :=
  match request host subject pattern options with
  | .ok request => [m.evaluationOf host p request]
  | .error _ => []

/-- The evaluations of some items in turn, up to the first one whose match fails. -/
def evaluationsInTurn (host : Host σ) (pattern options : Value) :
    List Value → Memory σ → List Evaluation
  | [], _ => []
  | item :: items, p =>
      m.evaluationsOf host p item pattern options ++
        match m.test host item pattern options p with
        | .ok _ q => evaluationsInTurn host pattern options items q
        | .error _ _ => []

/-- The evaluations of a list. -/
def evaluationsOfList (host : Host σ) (p : Memory σ) (listed pattern options : Value) :
    List Evaluation :=
  match prepare host listed pattern options with
  | .ok (items, o) => m.evaluationsInTurn host pattern o.value items p
  | .error _ => []

/-! ## From a match to a list -/

/-- **The error policy warns about what it suppresses, and about nothing else.** -/
theorem warned_finish (e : Evaluation) (p : Memory σ) :
    p.Warned e.warning?.toList
      ((Action.ofExcept e.answer >>= finish e.request : Action σ Bool).memoryAfter p) := by
  obtain ⟨request, answer⟩ := e
  cases answer with
  | error f =>
      rw [Evaluation.warning?_error]
      exact Action.isSilent_ofExcept (.error f) p
  | ok outcome =>
      rw [Evaluation.warning?_ok]
      show p.Warned _ ((finish request outcome).memoryAfter p)
      unfold finish
      dsimp only
      split
      · have hsilent := Action.isSilent_ofExcept (σ := σ)
          (outcome.resolve (request.options.has .strictErrors))
        have hlogged : p.Warned [.suppressed outcome request.pattern]
            (p.record (.logged (.suppressed outcome request.pattern))) :=
          p.warnings_record_logged _
        exact hlogged.trans (hsilent _)
      · exact Action.isSilent_ofExcept _ p

/-- What follows the evaluation of a request warns as the evaluation calls for. -/
theorem warned_evaluate_finish (host : Host σ) (request : Request) (p : Memory σ) :
    p.Warned (m.evaluationOf host p request).warning?.toList
      ((m.evaluate host request >>= finish request).memoryAfter p) := by
  obtain ⟨answer, q, hevaluate⟩ := Action.exists_eq_ofExcept (m.evaluate host request) p
  have hsilent := m.isSilent_evaluate host request p
  rw [Action.memoryAfter_of_eq hevaluate] at hsilent
  rw [evaluationOf, Action.answer_of_eq hevaluate, Action.memoryAfter_bind_of_eq hevaluate]
  exact hsilent.trans (warned_finish ⟨request, answer⟩ q)

/-- **The warnings of a match** are those of its evaluations. -/
theorem warned_test (host : Host σ) (subject pattern options : Value) (p : Memory σ) :
    p.Warned ((m.evaluationsOf host p subject pattern options).filterMap Evaluation.warning?)
      ((m.test host subject pattern options).memoryAfter p) := by
  unfold test evaluationsOf
  cases request host subject pattern options with
  | error f => exact Action.isSilent_ofExcept (.error f) p
  | ok request =>
      rw [Action.ofExcept_ok_bind, Evaluation.filterMap_warning?_singleton]
      exact m.warned_evaluate_finish host request p

/-- The warnings of some items in turn. -/
theorem warned_keep (host : Host σ) (pattern : Value) (o : Options) (items : List Value)
    (p : Memory σ) :
    p.Warned ((m.evaluationsInTurn host pattern o.value items p).filterMap Evaluation.warning?)
      ((m.keep host pattern o items).memoryAfter p) := by
  induction items generalizing p with
  | nil => exact .refl p
  | cons item items ih =>
      have hfirst := m.warned_test host item pattern o.value p
      rw [keep, evaluationsInTurn, List.filterMap_append]
      cases htest : m.test host item pattern o.value p with
      | error f q =>
          rw [Action.memoryAfter_of_error htest] at hfirst
          rw [Action.memoryAfter_bind_of_error htest]
          exact hfirst.trans (.refl q)
      | ok matched q =>
          rw [Action.memoryAfter, htest] at hfirst
          rw [Action.memoryAfter_bind_of_ok htest, Action.memoryAfter_bind_pure]
          exact hfirst.trans (ih q)

/-- **The warnings of a list** are those of the evaluations of its items in turn. -/
theorem warned_filter (host : Host σ) (listed pattern options : Value) (p : Memory σ) :
    p.Warned ((m.evaluationsOfList host p listed pattern options).filterMap Evaluation.warning?)
      ((m.filter host listed pattern options).memoryAfter p) := by
  unfold filter evaluationsOfList
  cases prepare host listed pattern options with
  | error f => exact Action.isSilent_ofExcept (.error f) p
  | ok prepared => exact m.warned_keep host pattern prepared.2 prepared.1 p

end Matcher

end GlobOracle
