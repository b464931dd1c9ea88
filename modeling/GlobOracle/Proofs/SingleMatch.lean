import GlobOracle.Matcher
import GlobOracle.Proofs.Action

/-!
# What a single match does

A match asks the host for one run of the shell and answers by what it replies.  The lemmas here follow the
request down to the host and the reply back up, one for each function on the way, and say what is answered
and what the memory keeps (`Memory.Asked`):

* `ShellPath.exists_resolve_eq` — the shell is found at one path (`ShellPath.found`), before and after.
* `Executor.exists_run_eq` — an executor asks for one call (`Executor.callIn`) and makes something of the
  reply (`Executor.hear`).
* `Matcher.exists_test_eq` — a match answers what its request comes to (`Matcher.verdict`), has asked for
  the call of its request and for nothing else, and the shell is found where it was.
-/

namespace GlobOracle

variable {σ : Type} {host : Host σ} {p q : Memory σ}

/-! ## The path of the shell -/

namespace ShellPath

/-- The path at which the shell is found: the settled one, or else the first well-known one at which there
is a file, or else the bare name. -/
def found (host : Host σ) (p : Memory σ) : String :=
  p.shellPath.getD ((candidates.find? host.fileExists).getD fallback)

/-- The paths that a search asks about: those up to the first one at which there is a file. -/
def searched (host : Host σ) : List String → List String
  | [] => []
  | path :: paths => if host.fileExists path then [path] else path :: searched host paths

end ShellPath

/-! ## What the memory keeps -/

namespace Memory

@[simp] theorem calls_fresh (shell : σ) : (fresh shell).calls = [] := rfl

@[simp] theorem calls_record_called (p : Memory σ) (c : Call) :
    (p.record (.called c)).calls = p.calls ++ [c] := by
  simp [calls, record]

@[simp] theorem calls_record_probed (p : Memory σ) (path : String) :
    (p.record (.probed path)).calls = p.calls := by
  simp [calls, record]

@[simp] theorem calls_record_logged (p : Memory σ) (notice : Notice) :
    (p.record (.logged notice)).calls = p.calls := by
  simp [calls, record]

@[simp] theorem probes_record_called (p : Memory σ) (c : Call) :
    (p.record (.called c)).probes = p.probes := by
  simp [probes, record]

@[simp] theorem probes_record_probed (p : Memory σ) (path : String) :
    (p.record (.probed path)).probes = p.probes ++ [path] := by
  simp [probes, record]

@[simp] theorem probes_record_logged (p : Memory σ) (notice : Notice) :
    (p.record (.logged notice)).probes = p.probes := by
  simp [probes, record]

/-- A later memory: the shell is found where it was, and the host has been asked for some more runs. -/
structure Asked (host : Host σ) (p : Memory σ) (calls : List Call) (q : Memory σ) : Prop where
  found_eq : ShellPath.found host q = ShellPath.found host p
  calls_eq : q.calls = p.calls ++ calls

namespace Asked

variable {calls later : List Call} {r : Memory σ}

theorem refl (host : Host σ) (p : Memory σ) : p.Asked host [] p := ⟨rfl, (List.append_nil _).symm⟩

theorem trans (h : p.Asked host calls q) (h' : q.Asked host later r) :
    p.Asked host (calls ++ later) r :=
  ⟨h'.found_eq.trans h.found_eq, by rw [h'.calls_eq, h.calls_eq, List.append_assoc]⟩

/-- A message to the log is no run. -/
theorem logged (host : Host σ) (p : Memory σ) (notice : Notice) :
    p.Asked host [] (p.record (.logged notice)) :=
  ⟨rfl, by rw [calls_record_logged, List.append_nil]⟩

end Asked

end Memory

/-! ## Settling the path -/

namespace ShellPath

/-- A search settles nothing and runs nothing; it answers the first path at which there is a file, and
asks about no path behind it. -/
theorem exists_search_eq (host : Host σ) (paths : List String) (p : Memory σ) :
    ∃ q, search host paths p = .ok ((paths.find? host.fileExists).getD fallback) q ∧
      q.shellPath = p.shellPath ∧ q.shell = p.shell ∧ q.calls = p.calls ∧
      q.probes = p.probes ++ searched host paths := by
  induction paths generalizing p with
  | nil => exact ⟨p, rfl, rfl, rfl, rfl, (List.append_nil _).symm⟩
  | cons path paths ih =>
      have hprobe : Action.probe host path p =
          .ok (host.fileExists path) (p.record (.probed path)) := rfl
      rw [search, Action.bind_of_ok hprobe, List.find?_cons, searched]
      cases host.fileExists path with
      | true =>
          exact ⟨p.record (.probed path), rfl, rfl, rfl, p.calls_record_probed path,
            p.probes_record_probed path⟩
      | false =>
          obtain ⟨q, hq, hpath, hshell, hcalls, hprobes⟩ := ih (p.record (.probed path))
          refine ⟨q, hq, hpath, hshell, hcalls.trans (p.calls_record_probed path), ?_⟩
          rw [hprobes, Memory.probes_record_probed, List.append_assoc]
          rfl

/-- The path is settled where the shell is found, and it is found there afterwards.  Nothing is run, and
there is a search only if the path was not settled. -/
theorem exists_resolve_eq (host : Host σ) (p : Memory σ) :
    ∃ q, resolve host p = .ok (found host p) q ∧ p.Asked host [] q ∧ q.shell = p.shell ∧
      q.shellPath = some (found host p) ∧
      q.probes = p.probes ++ if p.shellPath.isSome then [] else searched host candidates := by
  have hget : (get : Action σ (Memory σ)) p = .ok p p := rfl
  rw [resolve, Action.bind_of_ok hget]
  cases hsettled : p.shellPath with
  | some path =>
      have hfound : found host p = path := by rw [found, hsettled, Option.getD_some]
      exact ⟨p, by rw [hfound]; rfl, .refl host p, rfl, by rw [hfound, hsettled],
        (List.append_nil _).symm⟩
  | none =>
      have hfound : found host p = (candidates.find? host.fileExists).getD fallback := by
        rw [found, hsettled, Option.getD_none]
      obtain ⟨q, hq, -, hshell, hcalls, hprobes⟩ := exists_search_eq host candidates p
      dsimp only
      rw [Action.bind_of_ok hq, ← hfound]
      let settled : Memory σ := { q with shellPath := some (found host p) }
      refine ⟨settled.record (.logged (.usingShell (found host p))), rfl, ⟨rfl, ?_⟩, hshell, rfl, ?_⟩
      · rw [Memory.calls_record_logged, List.append_nil]
        exact hcalls
      · rw [Memory.probes_record_logged]
        exact hprobes

end ShellPath

/-! ## From a command to a call, and back -/

/-- A run of the shell asked of the host answers what the shell answers. -/
theorem Action.exists_call_eq (host : Host σ) (c : Call) (p : Memory σ) :
    ∃ q, Action.call host c p = Action.ofExcept (host.shell c p.shell).1 q ∧ p.Asked host [c] q := by
  refine ⟨{ p.record (.called c) with shell := (host.shell c p.shell).2 }, ?_, rfl,
    p.calls_record_called c⟩
  show Action.ofExcept (host.shell c p.shell).1 _ = _
  rfl

namespace Client

/-- The program that the client launches. -/
def programIn (client : Client) (host : Host σ) (p : Memory σ) : Executable :=
  client.path.getD (.text (ShellPath.found host p))

theorem programIn_eq_of_found (client : Client)
    (hfound : ShellPath.found host q = ShellPath.found host p) :
    client.programIn host q = client.programIn host p := by
  rw [programIn, programIn, hfound]

/-- What the client makes of the reply to a launch. -/
def hear (client : Client) (program : Executable) : Except Failure Reply → Except Failure Reply
  | .error f => .error (client.tell program f)
  | .ok (.failure _) => .error .noOperation
  | .ok (.streams output errors) => .ok (.streams (orNoBytes output) (orNoBytes errors))

theorem exists_program_eq (client : Client) (host : Host σ) (p : Memory σ) :
    ∃ q, client.program host p = .ok (client.programIn host p) q ∧
      p.Asked host [] q ∧ q.shell = p.shell := by
  unfold program programIn
  cases client.path with
  | some path => exact ⟨p, rfl, .refl host p, rfl⟩
  | none =>
      obtain ⟨q, hq, hasked, hshell, -⟩ := ShellPath.exists_resolve_eq host p
      exact ⟨q, Action.bind_of_ok hq, hasked, hshell⟩

/-- **A client asks for one launch and passes on what it makes of the reply.** -/
theorem exists_run_eq (client : Client) (host : Host σ) (arguments : List Value) (directory : Value)
    (p : Memory σ) :
    ∃ q, client.run host (.list arguments) directory p =
        Action.ofExcept (client.hear (client.programIn host p)
          (host.shell (.launch (client.programIn host p) arguments directory
            (client.limit.map Limit.value)) p.shell).1) q ∧
      p.Asked host [.launch (client.programIn host p) arguments directory
        (client.limit.map Limit.value)] q := by
  obtain ⟨q, hq, hasked, hshell⟩ := client.exists_program_eq host p
  let launch : Call := .launch (client.programIn host p) arguments directory
    (client.limit.map Limit.value)
  let announced : Memory σ := q.record (.logged (.running (client.programIn host p) arguments directory))
  obtain ⟨r, hr, hlaunched⟩ := Action.exists_call_eq host launch announced
  have hattempt : (Action.call host launch).attempt announced =
      .ok (host.shell launch p.shell).1 r := by
    rw [Action.attempt_of_eq hr]
    show (EStateM.Result.ok (host.shell launch q.shell).1 r : EStateM.Result Failure _ _) = _
    rw [hshell]
  refine ⟨r, ?_, (hasked.trans (.logged host q _)).trans hlaunched⟩
  rw [run, Action.bind_of_ok hq]
  show ((Action.call host launch).attempt >>= _) announced = _
  rw [Action.bind_of_ok hattempt]
  cases (host.shell launch p.shell).1 with
  | error f => rfl
  | ok reply => cases reply <;> rfl

end Client

namespace Executor

/-- The call that an executor asks of the host. -/
def callIn (executor : Executor) (host : Host σ) (p : Memory σ) (arguments : List String)
    (directory : Value) : Call :=
  match executor with
  | direct => .direct arguments directory
  | client c => .launch (c.programIn host p) (arguments.map Value.text) directory
      (c.limit.map Limit.value)

/-- The call of an executor depends on the memory only by where the shell is found. -/
theorem callIn_eq_of_found (executor : Executor)
    (hfound : ShellPath.found host q = ShellPath.found host p) :
    executor.callIn host q = executor.callIn host p := by
  cases executor with
  | direct => rfl
  | client c =>
      funext arguments directory
      rw [callIn, callIn, c.programIn_eq_of_found hfound]

/-- What an executor makes of the reply to its call. -/
def hear (executor : Executor) (host : Host σ) (p : Memory σ) (reply : Except Failure Reply) :
    Except Failure Reply :=
  match executor with
  | direct => reply
  | client c => c.hear (c.programIn host p) reply

theorem hear_eq_of_found (executor : Executor)
    (hfound : ShellPath.found host q = ShellPath.found host p) :
    executor.hear host q = executor.hear host p := by
  cases executor with
  | direct => rfl
  | client c =>
      funext reply
      rw [hear, hear, c.programIn_eq_of_found hfound]

/-- **An executor asks for one call and passes on what it makes of the reply.** -/
theorem exists_run_eq (executor : Executor) (host : Host σ) (arguments : List String)
    (directory : Value) (p : Memory σ) :
    ∃ q, executor.run host arguments directory p =
        Action.ofExcept (executor.hear host p
          (host.shell (executor.callIn host p arguments directory) p.shell).1) q ∧
      p.Asked host [executor.callIn host p arguments directory] q := by
  cases executor with
  | direct => exact Action.exists_call_eq host (.direct arguments directory) p
  | client c => exact c.exists_run_eq host (arguments.map Value.text) directory p

end Executor

/-! ## From a request to an answer -/

namespace Matcher

/-- The call that a request asks of the host. -/
def callFor (m : Matcher) (host : Host σ) (p : Memory σ) (r : Request) : Call :=
  m.executor.callIn host p (Command.arguments r) (r.options.get .workingDirectory)

theorem callFor_eq_of_found (m : Matcher)
    (hfound : ShellPath.found host q = ShellPath.found host p) :
    m.callFor host q = m.callFor host p := by
  funext r
  rw [callFor, callFor, m.executor.callIn_eq_of_found hfound]

/-- The outcome of a request: what is to be made of the reply to its call. -/
def outcome (m : Matcher) (host : Host σ) (p : Memory σ) (r : Request) : Except Failure Outcome :=
  judge (m.executor.hear host p (host.shell (m.executor.callIn host p (Command.arguments r)
    (r.options.get .workingDirectory)) p.shell).1)

theorem outcome_eq_judge (m : Matcher) (host : Host σ) (p : Memory σ) (r : Request) :
    m.outcome host p r =
      judge (m.executor.hear host p (host.shell (m.callFor host p r) p.shell).1) := rfl

/-- The answer to a request: its outcome, under its error policy. -/
def verdict (m : Matcher) (host : Host σ) (p : Memory σ) (r : Request) : Except Failure Bool :=
  m.outcome host p r >>= fun outcome => outcome.resolve (r.options.has .strictErrors)

theorem exists_evaluate_eq (m : Matcher) (posix : host.windows = false) (r : Request)
    (p : Memory σ) :
    ∃ q, m.evaluate host r p = Action.ofExcept (m.outcome host p r) q ∧
      p.Asked host [m.callFor host p r] q := by
  obtain ⟨q, hq, hasked⟩ := m.executor.exists_run_eq host (Command.arguments r)
    (r.options.get .workingDirectory) p
  have hposix : Action.requirePosix host p = .ok () p := by
    rw [Action.requirePosix, posix]
    rfl
  refine ⟨q, ?_, hasked⟩
  rw [evaluate, Action.bind_of_ok hposix, Action.bind_of_ok (Action.attempt_of_eq hq)]
  rfl

/-- However an evaluation ends, it comes to the outcome of its request and has asked for its call. -/
theorem asked_of_evaluate (m : Matcher) (posix : host.windows = false) {r : Request}
    {answer : Except Failure Outcome} (h : m.evaluate host r p = Action.ofExcept answer q) :
    answer = m.outcome host p r ∧ p.Asked host [m.callFor host p r] q := by
  obtain ⟨q', hq', hasked⟩ := m.exists_evaluate_eq posix r p
  obtain ⟨rfl, rfl⟩ := Action.ofExcept_inj.1 (h.symm.trans hq')
  exact ⟨rfl, hasked⟩

theorem exists_finish_eq (host : Host σ) (r : Request) (outcome : Outcome) (p : Memory σ) :
    ∃ q, finish r outcome p =
        Action.ofExcept (outcome.resolve (r.options.has .strictErrors)) q ∧ p.Asked host [] q := by
  by_cases hlogged : (outcome.isError && !r.options.has .strictErrors) = true
  · refine ⟨p.record (.logged (.suppressed outcome r.pattern)), ?_, .logged host p _⟩
    rw [finish, if_pos hlogged]
    rfl
  · refine ⟨p, ?_, .refl host p⟩
    rw [finish, if_neg hlogged]

/-- However what follows an evaluation ends, nothing more is run. -/
theorem asked_of_finish {r : Request} {answer : Except Failure Outcome}
    {result : Except Failure Bool}
    (h : (Action.ofExcept answer >>= finish r) p = Action.ofExcept result q) :
    result = (answer >>= fun outcome => outcome.resolve (r.options.has .strictErrors)) ∧
      p.Asked host [] q := by
  cases answer with
  | error f =>
      rw [Action.ofExcept_error_bind] at h
      obtain ⟨rfl, rfl⟩ := Action.ofExcept_inj.1 h
      exact ⟨rfl, .refl host p⟩
  | ok outcome =>
      rw [Action.ofExcept_ok_bind] at h
      obtain ⟨q', hq', hasked⟩ := exists_finish_eq host r outcome p
      obtain ⟨rfl, rfl⟩ := Action.ofExcept_inj.1 (h.symm.trans hq')
      exact ⟨rfl, hasked⟩

/-- The request of two texts lacks nothing but its canonical record. -/
theorem request_text (host : Host σ) (subject pattern : String) (options : Value) :
    request host (.text subject) (.text pattern) options =
      (Options.normalize host.currentDirectory (.text pattern) options).map
        fun o => ⟨subject, pattern, o⟩ := by
  show (Options.normalize host.currentDirectory (.text pattern) options >>= fun o => _) = _
  cases Options.normalize host.currentDirectory (.text pattern) options <;> rfl

/-- The options of a request are the canonical record. -/
theorem normalize_of_request {subject pattern options : Value} {r : Request}
    (h : request host subject pattern options = .ok r) :
    Options.normalize host.currentDirectory pattern options = .ok r.options := by
  cases subject with
  | text subject =>
      cases pattern with
      | text pattern =>
          rw [request_text] at h
          cases hnormal : Options.normalize host.currentDirectory (.text pattern) options with
          | error f =>
              rw [hnormal] at h
              cases h
          | ok o =>
              rw [hnormal] at h
              cases h
              rfl
      | _ => cases h
  | _ => cases h

/-- A match without a request fails before anything is done. -/
theorem test_of_request_error (m : Matcher) {subject pattern options : Value} {f : Failure}
    (h : request host subject pattern options = .error f) (p : Memory σ) :
    m.test host subject pattern options p = .error f p := by
  rw [test, h]
  rfl

/-- The calls of a match: the one of its request, if it has a request. -/
def callsOf (m : Matcher) (host : Host σ) (p : Memory σ) (subject pattern options : Value) :
    List Call :=
  match request host subject pattern options with
  | .ok r => [m.callFor host p r]
  | .error _ => []

theorem callsOf_eq_of_found (m : Matcher)
    (hfound : ShellPath.found host q = ShellPath.found host p) (subject pattern options : Value) :
    m.callsOf host q subject pattern options = m.callsOf host p subject pattern options := by
  unfold callsOf
  rw [m.callFor_eq_of_found hfound]

/-- **A match answers what its request comes to**, asks for the call of its request and for nothing else,
and the shell is found where it was. -/
theorem exists_test_eq (m : Matcher) (posix : host.windows = false)
    (subject pattern options : Value) (p : Memory σ) :
    ∃ q, m.test host subject pattern options p =
        Action.ofExcept (request host subject pattern options >>= m.verdict host p) q ∧
      p.Asked host (m.callsOf host p subject pattern options) q := by
  unfold callsOf
  cases hrequest : request host subject pattern options with
  | error f =>
      exact ⟨p, m.test_of_request_error hrequest p, .refl host p⟩
  | ok r =>
      obtain ⟨q, hq, hasked⟩ := m.exists_evaluate_eq posix r p
      cases houtcome : m.outcome host p r with
      | error f =>
          rw [houtcome] at hq
          refine ⟨q, ?_, hasked⟩
          rw [test, hrequest, Action.ofExcept_ok_bind, Action.bind_of_error hq]
          show _ = Action.ofExcept (m.verdict host p r) q
          rw [verdict, houtcome]
          rfl
      | ok outcome =>
          rw [houtcome] at hq
          obtain ⟨s, hs, hfinished⟩ := exists_finish_eq host r outcome q
          refine ⟨s, ?_, hasked.trans hfinished⟩
          rw [test, hrequest, Action.ofExcept_ok_bind, Action.bind_of_ok hq, hs]
          show _ = Action.ofExcept (m.verdict host p r) s
          rw [verdict, houtcome]
          rfl

/-- However a match ends, it has asked for the call of its request and for nothing else. -/
theorem asked_of_test (m : Matcher) (posix : host.windows = false)
    {subject pattern options : Value} (answer : Except Failure Bool)
    (h : m.test host subject pattern options p = Action.ofExcept answer q) :
    p.Asked host (m.callsOf host p subject pattern options) q := by
  obtain ⟨r, hr, hasked⟩ := m.exists_test_eq posix subject pattern options p
  obtain ⟨-, rfl⟩ := Action.ofExcept_inj.1 (h.symm.trans hr)
  exact hasked

end Matcher

end GlobOracle
