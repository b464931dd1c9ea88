import GlobOracle.Proofs.Batch.Course
import GlobOracle.Proofs.Shown

/-!
# What becomes of the path of the shell

Whatever runs the shell does the same to the path: either it leaves the path and the files alone, or it
settles a path that was not settled, after one search (`Memory.Used`).  The relation says also which
program is launched, so it composes: a path that is settled stays, and is the one that is launched from
then on.  There is a lemma for each function on the way from a launch to a concurrent batch.
-/

namespace GlobOracle

variable {σ α β : Type} {host : Host σ} {p q r : Memory σ} {executor : Executor}

/-! ## Programs -/

/-- The program that a call launches.  What the host runs by itself is no launch. -/
def Call.program? : Call → Option Executable
  | .direct _ _ => none
  | .launch program _ _ _ => some program

namespace Executor

/-- Does the executor launch the shell at the settled path? -/
def looksForShell : Executor → Bool
  | direct => false
  | client c => c.path.isNone

/-- The program that the executor launches, if the shell is found at a path. -/
def programAt (path : String) : Executor → Option Executable
  | direct => none
  | client c => some (c.path.getD (.text path))

/-- An executor that does not look for the shell launches the same program wherever the shell is found. -/
theorem programAt_eq (hlooks : executor.looksForShell = false)
    (path path' : String) : executor.programAt path = executor.programAt path' := by
  cases executor with
  | direct => rfl
  | client c =>
      have hpath : c.path.isSome := by simpa [Executor.looksForShell] using hlooks
      obtain ⟨own, hown⟩ := Option.isSome_iff_exists.1 hpath
      rw [Executor.programAt, Executor.programAt, hown]
      rfl

end Executor

/-! ## The relation -/

namespace Memory

/-- Path and files are left alone. -/
structure KeepsPath (p q : Memory σ) : Prop where
  shellPath_eq : q.shellPath = p.shellPath
  probes_eq : q.probes = p.probes

/-- A path that was not settled is settled, after one search. -/
structure SettlesPath (host : Host σ) (p q : Memory σ) : Prop where
  unsettled : p.shellPath = none
  shellPath_eq : q.shellPath = some (ShellPath.found host p)
  probes_eq : q.probes = p.probes ++ ShellPath.searched host ShellPath.candidates

/-- A later memory, after some calls of an executor.  All of them launch the program that the executor
launches where the shell is found; and if that is the settled path, none is made before it is settled. -/
structure Used (executor : Executor) (host : Host σ) (p : Memory σ) (calls : List Call)
    (q : Memory σ) : Prop where
  calls_eq : q.calls = p.calls ++ calls
  programs : ∀ call ∈ calls, call.program? = executor.programAt (ShellPath.found host p)
  path : p.KeepsPath q ∧ (executor.looksForShell → p.shellPath = none → calls = []) ∨
    executor.looksForShell ∧ p.SettlesPath host q

namespace KeepsPath

theorem refl (p : Memory σ) : p.KeepsPath p := ⟨rfl, rfl⟩

theorem trans (h : p.KeepsPath q) (h' : q.KeepsPath r) : p.KeepsPath r :=
  ⟨h'.shellPath_eq.trans h.shellPath_eq, h'.probes_eq.trans h.probes_eq⟩

theorem found_eq (h : p.KeepsPath q) : ShellPath.found host q = ShellPath.found host p := by
  rw [ShellPath.found, ShellPath.found, h.shellPath_eq]

end KeepsPath

theorem SettlesPath.found_eq (h : p.SettlesPath host q) :
    ShellPath.found host q = ShellPath.found host p := by
  rw [ShellPath.found, h.shellPath_eq, Option.getD_some]

namespace Used

variable {calls later : List Call}

theorem found_eq (h : p.Used executor host calls q) :
    ShellPath.found host q = ShellPath.found host p := by
  rcases h.path with ⟨hkeeps, -⟩ | ⟨-, hsettles⟩
  · exact hkeeps.found_eq
  · exact hsettles.found_eq

/-- What makes no call and leaves path and files alone may be done by any executor. -/
theorem of_keepsPath (h : p.KeepsPath q) (hcalls : q.calls = p.calls) :
    p.Used executor host [] q :=
  ⟨by rw [hcalls, List.append_nil], by simp, .inl ⟨h, fun _ _ => rfl⟩⟩

theorem refl (executor : Executor) (host : Host σ) (p : Memory σ) : p.Used executor host [] p :=
  of_keepsPath (.refl p) rfl

theorem logged (executor : Executor) (host : Host σ) (p : Memory σ) (notice : Notice) :
    p.Used executor host [] (p.record (.logged notice)) :=
  of_keepsPath ⟨rfl, by simp⟩ (by simp)

theorem trans (h : p.Used executor host calls q) (h' : q.Used executor host later r) :
    p.Used executor host (calls ++ later) r := by
  refine ⟨by rw [h'.calls_eq, h.calls_eq, List.append_assoc], ?_, ?_⟩
  · intro call hcall
    rcases List.mem_append.1 hcall with hcall | hcall
    · exact h.programs call hcall
    · rw [h'.programs call hcall, h.found_eq]
  · rcases h.path with ⟨hkeeps, hnone⟩ | ⟨hlooks, hsettles⟩
    · rcases h'.path with ⟨hkeeps', hnone'⟩ | ⟨hlooks, hsettles'⟩
      · refine .inl ⟨hkeeps.trans hkeeps', fun hlooks hunsettled => ?_⟩
        have hunsettled' : q.shellPath = none := hkeeps.shellPath_eq.trans hunsettled
        rw [hnone hlooks hunsettled, hnone' hlooks hunsettled', List.append_nil]
      · refine .inr ⟨hlooks, hkeeps.shellPath_eq.symm.trans hsettles'.unsettled, ?_, ?_⟩
        · rw [hsettles'.shellPath_eq, hkeeps.found_eq]
        · rw [hsettles'.probes_eq, hkeeps.probes_eq]
    · rcases h'.path with ⟨hkeeps', -⟩ | ⟨-, hsettles'⟩
      · exact .inr ⟨hlooks, hsettles.unsettled, hkeeps'.shellPath_eq.trans hsettles.shellPath_eq,
          hkeeps'.probes_eq.trans hsettles.probes_eq⟩
      · have hsettled := hsettles.shellPath_eq.symm.trans hsettles'.unsettled
        cases hsettled

end Used

end Memory

/-! ## Actions -/

namespace Action

/-- Whatever the action makes of a memory is the doing of an executor. -/
def Uses (executor : Executor) (host : Host σ) (a : Action σ α) : Prop :=
  ∀ p : Memory σ, ∃ calls, p.Used executor host calls (a.memoryAfter p)

variable {a : Action σ α} {next : α → Action σ β}

theorem uses_ofExcept (answer : Except Failure α) : Uses executor host (ofExcept answer) := by
  intro p
  rw [memoryAfter_of_eq rfl]
  exact ⟨[], .refl executor host p⟩

/-- What comes second may count on what came first. -/
theorem exists_used_bind {calls : List Call} {x : α} (h : a p = .ok x q)
    (hused : p.Used executor host calls q)
    (hnext : ∃ later, q.Used executor host later ((next x).memoryAfter q)) :
    ∃ calls, p.Used executor host calls ((a >>= next).memoryAfter p) := by
  obtain ⟨later, hlater⟩ := hnext
  rw [memoryAfter_bind_of_ok h]
  exact ⟨calls ++ later, hused.trans hlater⟩

theorem Uses.bind (h : Uses executor host a) (hnext : ∀ x, Uses executor host (next x)) :
    Uses executor host (a >>= next) := by
  intro p
  refine memoryAfter_bind (R := fun p q => ∃ calls, p.Used executor host calls q) ?_ (h p)
    fun x q _ => hnext x q
  rintro p q r ⟨calls, hcalls⟩ ⟨later, hlater⟩
  exact ⟨calls ++ later, hcalls.trans hlater⟩

theorem Uses.attempt (h : Uses executor host a) : Uses executor host a.attempt := by
  intro p
  rw [memoryAfter_attempt]
  exact h p

theorem uses_log (notice : Notice) : Uses executor host (log notice) :=
  fun p => ⟨[], .logged executor host p notice⟩

/-- A call leaves path and files alone. -/
theorem memoryAfter_call (host : Host σ) (c : Call) (p : Memory σ) :
    p.KeepsPath ((Action.call host c).memoryAfter p) ∧
      ((Action.call host c).memoryAfter p).calls = p.calls ++ [c] := by
  have hcall : Action.call host c p = ofExcept (host.shell c p.shell).1
      { p.record (.called c) with shell := (host.shell c p.shell).2 } := rfl
  rw [memoryAfter_of_eq hcall]
  exact ⟨⟨rfl, p.probes_record_called c⟩, p.calls_record_called c⟩

/-- A call is the doing of an executor if it launches its program, and not before the path is settled that
the executor looks for. -/
theorem used_call (host : Host σ) {c : Call}
    (hprogram : c.program? = executor.programAt (ShellPath.found host p))
    (hsettled : executor.looksForShell → p.shellPath ≠ none) :
    p.Used executor host [c] ((Action.call host c).memoryAfter p) := by
  obtain ⟨hkeeps, hcalls⟩ := memoryAfter_call host c p
  refine ⟨hcalls, ?_, .inl ⟨hkeeps, fun hlooks hnone => absurd hnone (hsettled hlooks)⟩⟩
  intro call hcall
  rw [List.mem_singleton.1 hcall, hprogram]

end Action

/-! ## From a launch to a batch -/

/-- Settling the path is the doing of an executor that looks for it. -/
theorem ShellPath.exists_resolve_eq_used (hlooks : executor.looksForShell) (host : Host σ)
    (p : Memory σ) :
    ∃ q, resolve host p = .ok (found host p) q ∧ p.Used executor host [] q ∧
      q.shellPath = some (found host p) := by
  obtain ⟨q, hq, hasked, -, hpath, hprobes⟩ := exists_resolve_eq host p
  refine ⟨q, hq, ⟨hasked.calls_eq, by simp, ?_⟩, hpath⟩
  cases hsettled : p.shellPath with
  | some path =>
      have hfound : found host p = path := by rw [found, hsettled, Option.getD_some]
      refine .inl ⟨⟨by rw [hpath, hfound, hsettled], ?_⟩, fun _ _ => rfl⟩
      rw [hprobes, hsettled]
      exact List.append_nil _
  | none =>
      refine .inr ⟨hlooks, hsettled, hpath, ?_⟩
      rw [hprobes, hsettled]
      rfl

theorem ShellPath.uses_resolve (hlooks : executor.looksForShell) :
    (resolve host).Uses executor host := by
  intro p
  obtain ⟨q, hq, hused, -⟩ := exists_resolve_eq_used hlooks host p
  rw [Action.memoryAfter, hq]
  exact ⟨[], hused⟩

namespace Client

/-- Which program a client launches is known before anything is launched, and its path is settled then. -/
theorem exists_program_eq_used (client : Client) (host : Host σ) (p : Memory σ) :
    ∃ q, client.program host p = .ok (client.programIn host p) q ∧
      p.Used (.client client) host [] q ∧
      ((Executor.client client).looksForShell → q.shellPath ≠ none) := by
  unfold program programIn
  cases hpath : client.path with
  | some path =>
      exact ⟨p, rfl, .refl _ host p, by simp [Executor.looksForShell, hpath]⟩
  | none =>
      have hlooks : (Executor.client client).looksForShell = true := by
        simp [Executor.looksForShell, hpath]
      obtain ⟨q, hq, hused, hsettled⟩ := ShellPath.exists_resolve_eq_used hlooks host p
      exact ⟨q, Action.bind_of_ok hq, hused, fun _ => by simp [hsettled]⟩

theorem uses_program (client : Client) : (client.program host).Uses (.client client) host := by
  intro p
  obtain ⟨q, hq, hused, -⟩ := client.exists_program_eq_used host p
  rw [Action.memoryAfter, hq]
  exact ⟨[], hused⟩

/-- **A run of a client** launches the program of the client, once its path is settled. -/
theorem uses_run (client : Client) (arguments directory : Value) :
    (client.run host arguments directory).Uses (.client client) host := by
  intro p
  obtain ⟨q, hq, hused, hsettled⟩ := client.exists_program_eq_used host p
  refine Action.exists_used_bind hq hused ?_
  cases arguments.members? with
  | none => exact Action.uses_ofExcept (.error .wrongKind) q
  | some members =>
      let announced : Memory σ :=
        q.record (.logged (.running (client.programIn host p) members directory))
      let launch : Call := .launch (client.programIn host p) members directory
        (client.limit.map Limit.value)
      have hlogged : q.Used (.client client) host [] announced := .logged _ host q _
      have hprogram : launch.program? =
          (Executor.client client).programAt (ShellPath.found host announced) := by
        rw [hlogged.found_eq, hused.found_eq]
        rfl
      have hlaunched := Action.used_call host hprogram hsettled
      obtain ⟨answer, r, hcall⟩ := Action.exists_eq_ofExcept (Action.call host launch) announced
      rw [Action.memoryAfter_of_eq hcall] at hlaunched
      -- The members are read, the launch is announced, and then the call is made.
      refine Action.exists_used_bind (x := members) rfl (.refl _ host q) ?_
      refine Action.exists_used_bind (x := ()) rfl hlogged ?_
      refine Action.exists_used_bind (Action.attempt_of_eq hcall) hlaunched ?_
      match answer with
      | .error f => exact Action.uses_ofExcept (.error (client.tell _ f)) r
      | .ok (.failure _) => exact Action.uses_ofExcept (.error .noOperation) r
      | .ok (.streams output errors) =>
          exact Action.uses_ofExcept (.ok (Reply.streams (orNoBytes output) (orNoBytes errors))) r

end Client

/-- A run that the host makes by itself leaves path and files alone. -/
theorem Executor.uses_run (executor : Executor) (arguments : List String) (directory : Value) :
    (executor.run host arguments directory).Uses executor host := by
  cases executor with
  | direct =>
      intro p
      exact ⟨_, Action.used_call host rfl fun hlooks => by cases hlooks⟩
  | client c => exact c.uses_run (.list (arguments.map Value.text)) directory

namespace Matcher

variable (m : Matcher)

theorem uses_evaluate (request : Request) :
    (m.evaluate host request).Uses m.executor host := by
  refine Action.Uses.bind ?_ fun _ => ?_
  · unfold Action.requirePosix
    split
    · exact Action.uses_ofExcept (.error .unsupportedPlatform)
    · exact Action.uses_ofExcept (.ok ())
  · exact (m.executor.uses_run _ _).attempt.bind fun went => Action.uses_ofExcept (judge went)

theorem uses_finish (request : Request) (outcome : Outcome) :
    (finish request outcome : Action σ Bool).Uses executor host := by
  unfold finish
  dsimp only
  split
  · exact (Action.uses_log _).bind fun _ => Action.uses_ofExcept _
  · exact Action.uses_ofExcept _

theorem uses_test (subject pattern options : Value) :
    (m.test host subject pattern options).Uses m.executor host :=
  (Action.uses_ofExcept _).bind fun request =>
    (m.uses_evaluate request).bind fun outcome => uses_finish request outcome

theorem uses_keep (pattern : Value) (options : Options) (items : List Value) :
    (m.keep host pattern options items).Uses m.executor host := by
  induction items with
  | nil => exact Action.uses_ofExcept (.ok [])
  | cons item items ih =>
      exact (m.uses_test item pattern options.value).bind fun matched =>
        ih.bind fun rest => Action.uses_ofExcept (.ok (if matched then item :: rest else rest))

theorem uses_filter (listed pattern options : Value) :
    (m.filter host listed pattern options).Uses m.executor host :=
  (Action.uses_ofExcept _).bind fun prepared => m.uses_keep pattern prepared.2 prepared.1

end Matcher

/-- **Whatever the schedule, a batch is the doing of the executor of its matcher.** -/
theorem Batch.exists_used_follow (m : Matcher) (pattern : Value) (options : Options) {b : Batch σ}
    (h : ∃ calls, p.Used m.executor host calls b.memory) (schedule : List Move) :
    ∃ calls, p.Used m.executor host calls (b.follow m host pattern options schedule).memory := by
  refine follow_induction (motive := fun b => ∃ calls, p.Used m.executor host calls b.memory) ?_
    schedule h
  rintro b move b' ⟨calls, hcalls⟩ hstep
  cases hstep with
  | admitted _ _ _ => exact ⟨calls, hcalls⟩
  | rejected _ _ _ =>
      rw [close_memory]
      exact ⟨calls, hcalls⟩
  | @started i item request answer q _ hevaluate =>
      have hevaluates : (m.evaluate host request).Uses m.executor host := m.uses_evaluate request
      obtain ⟨later, hlater⟩ := hevaluates b.memory
      rw [Action.memoryAfter_of_eq hevaluate] at hlater
      exact ⟨calls ++ later, hcalls.trans hlater⟩
  | @ended i item request answer result q _ hfinish =>
      have hends : (Action.ofExcept answer >>= Matcher.finish request).Uses m.executor host :=
        (Action.uses_ofExcept answer).bind (Matcher.uses_finish request)
      obtain ⟨later, hlater⟩ := hends b.memory
      rw [Action.memoryAfter_of_eq hfinish] at hlater
      rw [close_memory]
      exact ⟨calls ++ later, hcalls.trans hlater⟩

namespace Matcher

variable (m : Matcher)

/-- The answer of a batch leaves what the batch remembers. -/
theorem memoryAfter_answer (b : Batch σ) (p : Memory σ) :
    Action.memoryAfter (fun _ => b.answer) p = b.memory := by
  obtain ⟨answer, hanswer⟩ := b.exists_answer_eq
  exact Action.memoryAfter_of_eq hanswer

theorem uses_filterScheduled (listed pattern options : Value) (schedule : List Move) :
    (m.filterScheduled host listed pattern options schedule).Uses m.executor host :=
  (Action.uses_ofExcept _).bind fun prepared p => by
    have hfollow := Batch.exists_used_follow m pattern prepared.2
      (b := Batch.begin m.bound prepared.1 p) ⟨[], .refl _ host p⟩ schedule
    rwa [← memoryAfter_answer _ p] at hfollow

theorem uses_filterConcurrently (listed pattern options : Value) :
    (m.filterConcurrently host listed pattern options).Uses m.executor host :=
  (Action.uses_ofExcept _).bind fun prepared p => by
    obtain ⟨schedule, hrun⟩ := Batch.exists_run_eq_follow m host pattern prepared.2
      (Batch.begin m.bound prepared.1 p)
    have hfollow := Batch.exists_used_follow m pattern prepared.2
      (b := Batch.begin m.bound prepared.1 p) ⟨[], .refl _ host p⟩ schedule
    rwa [← hrun, ← memoryAfter_answer _ p] at hfollow

end Matcher

end GlobOracle
