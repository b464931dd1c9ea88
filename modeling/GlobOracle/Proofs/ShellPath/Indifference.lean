import GlobOracle.Proofs.ShellPath.Use

/-!
# Who does not look for the shell does not see its path

A client with a path of its own neither reads nor settles the path of the shell.  The claim is one of
indifference: whichever path is remembered, such a client answers alike and leaves the same memory, with
the path that was remembered (`Action.IgnoresPath`).  It is carried from a launch to a concurrent batch by
one lemma for each function, as in the account of what becomes of the path.
-/

namespace GlobOracle

variable {σ α β : Type} {host : Host σ} {p q : Memory σ}

/-- The memory with another path remembered. -/
def Memory.withPath (p : Memory σ) (path : Option String) : Memory σ := { p with shellPath := path }

namespace Action

/-- What an action comes to, with another path remembered. -/
def withPath (path : Option String) :
    EStateM.Result Failure (Memory σ) α → EStateM.Result Failure (Memory σ) α
  | .ok x p => .ok x (p.withPath path)
  | .error f p => .error f (p.withPath path)

/-- The path that is remembered has no part in the action. -/
def IgnoresPath (a : Action σ α) : Prop :=
  ∀ (p : Memory σ) (path : Option String), a (p.withPath path) = withPath path (a p)

variable {a : Action σ α} {next : α → Action σ β}

theorem withPath_ofExcept (path : Option String) (answer : Except Failure α) (p : Memory σ) :
    withPath path (ofExcept answer p) = ofExcept answer (p.withPath path) := by
  cases answer <;> rfl

theorem ignoresPath_ofExcept (answer : Except Failure α) :
    (ofExcept answer : Action σ α).IgnoresPath :=
  fun p path => (withPath_ofExcept path answer p).symm

/-- What ignores the path does the same from a memory with another path. -/
theorem IgnoresPath.eq_ofExcept (h : a.IgnoresPath) {answer : Except Failure α}
    (hp : a p = ofExcept answer q) (path : Option String) :
    a (p.withPath path) = ofExcept answer (q.withPath path) := by
  rw [h p path, hp, withPath_ofExcept]

theorem IgnoresPath.bind (h : a.IgnoresPath) (hnext : ∀ x, (next x).IgnoresPath) :
    (a >>= next).IgnoresPath := by
  intro p path
  have ha := h p path
  cases hp : a p with
  | ok x q =>
      rw [hp] at ha
      rw [bind_of_ok ha, bind_of_ok hp]
      exact hnext x q path
  | error f q =>
      rw [hp] at ha
      rw [bind_of_error ha, bind_of_error hp]
      rfl

theorem IgnoresPath.attempt (h : a.IgnoresPath) : a.attempt.IgnoresPath := by
  intro p path
  have ha := h p path
  unfold Action.attempt
  rw [ha]
  cases a p <;> rfl

theorem ignoresPath_log (notice : Notice) : (log notice : Action σ Unit).IgnoresPath :=
  fun _ _ => rfl

theorem ignoresPath_call (host : Host σ) (c : Call) : (call host c).IgnoresPath := by
  intro p path
  have hcall (p : Memory σ) : call host c p = ofExcept (host.shell c p.shell).1
      { p.record (.called c) with shell := (host.shell c p.shell).2 } := rfl
  rw [hcall, hcall, withPath_ofExcept]
  rfl

theorem ignoresPath_requirePosix (host : Host σ) : (requirePosix host).IgnoresPath := by
  unfold requirePosix
  split
  · exact ignoresPath_ofExcept (.error .unsupportedPlatform)
  · exact ignoresPath_ofExcept (.ok ())

end Action

/-! ## From a launch to a match -/

namespace Client

variable {client : Client}

theorem ignoresPath_program (host : Host σ) (hpath : client.path.isSome) :
    (client.program host).IgnoresPath := by
  obtain ⟨path, hpath⟩ := Option.isSome_iff_exists.1 hpath
  unfold program
  rw [hpath]
  exact Action.ignoresPath_ofExcept (.ok path)

theorem ignoresPath_run (host : Host σ) (hpath : client.path.isSome) (arguments directory : Value) :
    (client.run host arguments directory).IgnoresPath := by
  refine (ignoresPath_program host hpath).bind fun program => ?_
  cases arguments.members? with
  | none => exact Action.ignoresPath_ofExcept (.error .wrongKind)
  | some members =>
      refine (Action.ignoresPath_ofExcept (.ok members)).bind fun members => ?_
      refine (Action.ignoresPath_log _).bind fun _ => ?_
      refine (Action.ignoresPath_call host _).attempt.bind fun answer => ?_
      match answer with
      | .error f => exact Action.ignoresPath_ofExcept (.error (client.tell program f))
      | .ok (.failure _) => exact Action.ignoresPath_ofExcept (.error .noOperation)
      | .ok (.streams output errors) =>
          exact Action.ignoresPath_ofExcept
            (.ok (Reply.streams (orNoBytes output) (orNoBytes errors)))

end Client

theorem Executor.ignoresPath_run (host : Host σ) {executor : Executor}
    (hlooks : executor.looksForShell = false) (arguments : List String) (directory : Value) :
    (executor.run host arguments directory).IgnoresPath := by
  cases executor with
  | direct => exact Action.ignoresPath_call host (.direct arguments directory)
  | client c =>
      have hpath : c.path.isSome := by simpa [looksForShell] using hlooks
      exact c.ignoresPath_run host hpath (.list (arguments.map Value.text)) directory

namespace Matcher

variable {m : Matcher}

theorem ignoresPath_evaluate (host : Host σ) (hlooks : m.executor.looksForShell = false)
    (request : Request) : (m.evaluate host request).IgnoresPath :=
  (Action.ignoresPath_requirePosix host).bind fun _ =>
    (m.executor.ignoresPath_run host hlooks _ _).attempt.bind fun went =>
      Action.ignoresPath_ofExcept (judge went)

theorem ignoresPath_finish (request : Request) (outcome : Outcome) :
    (finish request outcome : Action σ Bool).IgnoresPath := by
  unfold finish
  dsimp only
  split
  · exact (Action.ignoresPath_log _).bind fun _ => Action.ignoresPath_ofExcept _
  · exact Action.ignoresPath_ofExcept _

theorem ignoresPath_test (host : Host σ) (hlooks : m.executor.looksForShell = false)
    (subject pattern options : Value) : (m.test host subject pattern options).IgnoresPath :=
  (Action.ignoresPath_ofExcept _).bind fun request =>
    (ignoresPath_evaluate host hlooks request).bind fun outcome => ignoresPath_finish request outcome

theorem ignoresPath_keep (host : Host σ) (hlooks : m.executor.looksForShell = false) (pattern : Value)
    (options : Options) (items : List Value) : (m.keep host pattern options items).IgnoresPath := by
  induction items with
  | nil => exact Action.ignoresPath_ofExcept (.ok [])
  | cons item items ih =>
      exact (ignoresPath_test host hlooks item pattern options.value).bind fun matched =>
        ih.bind fun rest =>
          Action.ignoresPath_ofExcept (.ok (if matched then item :: rest else rest))

theorem ignoresPath_filter (host : Host σ) (hlooks : m.executor.looksForShell = false)
    (listed pattern options : Value) : (m.filter host listed pattern options).IgnoresPath :=
  (Action.ignoresPath_ofExcept _).bind fun prepared =>
    ignoresPath_keep host hlooks pattern prepared.2 prepared.1

end Matcher

/-! ## Batches -/

namespace Batch

variable {m : Matcher} {pattern : Value} {options : Options}

/-- The batch with another path remembered. -/
def withPath (b : Batch σ) (path : Option String) : Batch σ :=
  { b with memory := b.memory.withPath path }

@[simp] theorem tasks_withPath (b : Batch σ) (path : Option String) :
    (b.withPath path).tasks = b.tasks := rfl

@[simp] theorem failure_withPath (b : Batch σ) (path : Option String) :
    (b.withPath path).failure = b.failure := rfl

@[simp] theorem hasFailed_withPath (b : Batch σ) (path : Option String) :
    (b.withPath path).hasFailed = b.hasFailed := rfl

theorem withPath_close (b : Batch σ) (path : Option String) (i : Nat) (item : Value)
    (result : Except Failure Bool) :
    (b.withPath path).close i item result = (b.close i item result).withPath path := by
  cases result <;> rfl

/-- The moves that can be made do not depend on the path. -/
theorem Stepped.withPath {b b' : Batch σ} {move : Move}
    (hlooks : m.executor.looksForShell = false) (h : Stepped m host pattern options b move b')
    (path : Option String) :
    Stepped m host pattern options (b.withPath path) move (b'.withPath path) := by
  cases h with
  | admitted htask hfree hrequest => exact .admitted htask hfree hrequest
  | rejected htask hfree hrequest =>
      rw [← withPath_close]
      exact .rejected htask hfree hrequest
  | @started i item request answer q htask hevaluate =>
      have hevaluates := Matcher.ignoresPath_evaluate host hlooks request
      exact .started htask (hevaluates.eq_ofExcept hevaluate path)
  | @ended i item request answer result q htask hfinish =>
      have hends : (Action.ofExcept answer >>= Matcher.finish request : Action σ Bool).IgnoresPath :=
        (Action.ignoresPath_ofExcept answer).bind (Matcher.ignoresPath_finish request)
      rw [← withPath_close]
      exact .ended htask (hends.eq_ofExcept hfinish path)

/-- Nor do those that cannot be made: with the path put back, such a move could be made as well. -/
theorem attempt_withPath (hlooks : m.executor.looksForShell = false) (b : Batch σ)
    (path : Option String) (move : Move) :
    (b.withPath path).attempt m host pattern options move =
      (b.attempt m host pattern options move).withPath path := by
  cases hmove : b.step? m host pattern options move with
  | some b' =>
      have hstep := stepped_of_step? hmove
      rw [attempt_of_stepped hstep, attempt_of_stepped (hstep.withPath hlooks path)]
  | none =>
      cases hmove' : (b.withPath path).step? m host pattern options move with
      | some b' =>
          have hstep := (stepped_of_step? hmove').withPath hlooks b.memory.shellPath
          have hback := step?_of_stepped hstep
          exact absurd (hmove.symm.trans hback) (by simp)
      | none => rw [attempt, attempt, hmove, hmove', Option.getD_none, Option.getD_none]

theorem follow_withPath (hlooks : m.executor.looksForShell = false) (b : Batch σ)
    (path : Option String) (schedule : List Move) :
    (b.withPath path).follow m host pattern options schedule =
      (b.follow m host pattern options schedule).withPath path := by
  induction schedule generalizing b with
  | nil => rfl
  | cons move schedule ih =>
      rw [follow, follow, List.foldl_cons, List.foldl_cons, attempt_withPath hlooks]
      exact ih _

theorem letNextIn_withPath (hlooks : m.executor.looksForShell = false) (b : Batch σ)
    (path : Option String) :
    (b.withPath path).letNextIn m host pattern options =
      (b.letNextIn m host pattern options).withPath path := by
  rw [letNextIn, letNextIn, hasFailed_withPath, tasks_withPath]
  split
  · rfl
  · cases b.tasks.findIdx? (·.2.isWaiting) with
    | none => rfl
    | some i => exact follow_withPath hlooks b path [.enter i, .start i]

theorem drain_withPath (hlooks : m.executor.looksForShell = false) (b : Batch σ)
    (path : Option String) (places : List Nat) :
    (b.withPath path).drain m host pattern options places =
      (b.drain m host pattern options places).withPath path := by
  induction places generalizing b with
  | nil => rfl
  | cons i places ih =>
      rw [drain, drain, hasFailed_withPath]
      split
      · rfl
      · dsimp only
        rw [attempt_withPath hlooks, letNextIn_withPath hlooks, ih]

/-- The moves that a batch makes by itself do not depend on the path. -/
theorem run_withPath (hlooks : m.executor.looksForShell = false) (b : Batch σ)
    (path : Option String) :
    (b.withPath path).run m host pattern options =
      (b.run m host pattern options).withPath path := by
  have hfold (places : List Nat) (b : Batch σ) :
      places.foldl (letIn m host pattern options) (b.withPath path) =
        (places.foldl (letIn m host pattern options) b).withPath path := by
    induction places generalizing b with
    | nil => rfl
    | cons i places ih =>
        rw [List.foldl_cons, List.foldl_cons, letIn, follow_withPath hlooks]
        exact ih _
  rw [run, run, letAllIn, letAllIn, tasks_withPath, hfold, drain_withPath hlooks]

theorem answer_withPath (b : Batch σ) (path : Option String) :
    (b.withPath path).answer = Action.withPath path b.answer := by
  rw [answer, answer, failure_withPath]
  cases b.failure <;> rfl

end Batch

namespace Matcher

variable {m : Matcher}

theorem ignoresPath_filterScheduled (host : Host σ) (hlooks : m.executor.looksForShell = false)
    (listed pattern options : Value) (schedule : List Move) :
    (m.filterScheduled host listed pattern options schedule).IgnoresPath := by
  refine (Action.ignoresPath_ofExcept _).bind ?_
  rintro ⟨items, o⟩ p path
  show (((Batch.begin m.bound items p).withPath path).follow m host pattern o schedule).answer = _
  rw [Batch.follow_withPath hlooks, Batch.answer_withPath]

theorem ignoresPath_filterConcurrently (host : Host σ) (hlooks : m.executor.looksForShell = false)
    (listed pattern options : Value) :
    (m.filterConcurrently host listed pattern options).IgnoresPath := by
  refine (Action.ignoresPath_ofExcept _).bind ?_
  rintro ⟨items, o⟩ p path
  show (((Batch.begin m.bound items p).withPath path).run m host pattern o).answer = _
  rw [Batch.run_withPath hlooks, Batch.answer_withPath]

end Matcher

end GlobOracle
