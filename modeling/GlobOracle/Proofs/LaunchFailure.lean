import GlobOracle.Proofs.Containment

/-!
# A failed launch is told once

Three places have a say in how a failed launch is told: the client that launches the shell, the matcher
that counts the failure as an outcome, and the error policy that makes a failure of the outcome again.
Between them a failure is wrapped once (`Failure.IsToldOnce`), and what is no failure of a launch goes
through all three as it is (`Matcher.launch_failure_surfaces_once`).

`Client.Tells` and `Executor.Tells` list what a strict match fails with, for a shell that is launched by a
client and for one that is not.
-/

namespace GlobOracle

variable {σ : Type} {host : Host σ} {p : Memory σ} {e f : Failure}

/-! ## How a failed launch is told -/

/-- A failure is told by itself if it tells of a launch, and otherwise by a failure of the launch around
it. -/
inductive Failure.IsToldOnce : Failure → Failure → Prop
  | asItIs {e : Failure} : e.isLaunch = true → IsToldOnce e e
  | asCause {e : Failure} (fault : LaunchFault) (program : Option Executable) :
      e.isLaunch = false → IsToldOnce e (.launch fault program (some e))

/-- What a strict match fails with if a client fails to launch a program.  The program is told only if the
client noticed the failure itself. -/
inductive Client.Tells (client : Client) (program : Executable) : Failure → Failure → Prop
  | outOfTime (command limit : Value) :
      Tells client program (.child (.timedOut command limit))
        (.launch (.outOfTime (limitText client.limit)) (some program)
          (some (.child (.timedOut command limit))))
  | notStarted (e : OsError) :
      Tells client program (.os e)
        (.launch (.notStarted program.value.display e.message) (some program) (some (.os e)))
  | notRun {e : ChildError} {fault : LaunchFault} :
      (∀ command limit, e ≠ .timedOut command limit) →
      fault.message = "Failed to run bash: " ++ e.message →
      Tells client program (.child e) (.launch fault none (some (.child e)))
  | asItIs {e : Failure} : e.isLaunch = true → Tells client program e e

/-- What a strict match fails with if the shell is not run, and no client has a say in it. -/
inductive Executor.Tells : Failure → Failure → Prop
  | notRun {e : Failure} {fault : LaunchFault} :
      e.isLaunch = false → fault.message = "Failed to run bash: " ++ e.message →
      Tells e (.launch fault none (some e))
  | asItIs {e : Failure} : e.isLaunch = true → Tells e e

theorem Client.Tells.isToldOnce {client : Client} {program : Executable}
    (h : client.Tells program e f) : e.IsToldOnce f := by
  cases h with
  | outOfTime command limit => exact .asCause _ _ rfl
  | notStarted e => exact .asCause _ _ rfl
  | notRun _ _ => exact .asCause _ _ rfl
  | asItIs hlaunch => exact .asItIs hlaunch

theorem Executor.Tells.isToldOnce (h : Tells e f) : e.IsToldOnce f := by
  cases h with
  | notRun hlaunch _ => exact .asCause _ _ hlaunch
  | asItIs hlaunch => exact .asItIs hlaunch

/-- Without a client only the error policy has a say. -/
theorem Executor.tells_launchFailure (e : Failure) :
    Tells e (Outcome.launchFailure e.message (some e)) := by
  cases e with
  | launch fault program cause => exact .asItIs rfl
  | _ => exact .notRun rfl rfl

/-- What the client has told as a failure of the launch the error policy leaves as it is. -/
theorem Client.tells_launchFailure (client : Client) (program : Executable)
    (h : e.isLaunchFailure = true) :
    client.Tells program e
      (Outcome.launchFailure (client.tell program e).message (some (client.tell program e))) := by
  cases e with
  | os e => exact .notStarted e
  | child e =>
      cases e with
      | timedOut command limit => exact .outOfTime command limit
      | general arguments => exact .notRun (fun _ _ => ChildError.noConfusion) rfl
      | ended ending command => exact .notRun (fun _ _ => ChildError.noConfusion) rfl
  | launch fault program' cause => exact .asItIs rfl
  | _ => cases h

theorem Client.tell_of_not_isLaunchFailure (client : Client) (program : Executable)
    (h : e.isLaunchFailure = false) : client.tell program e = e := by
  cases e with
  | os e => cases h
  | child e => cases h
  | _ => rfl

/-! ## The way of a failure through a match -/

namespace Matcher

variable {m : Matcher} {r : Request}

/-- The outcome of a launch that failed, or that was handed back as failed, is reported if the policy is
strict. -/
theorem verdict_of_launch_failure (strict : r.options.has .strictErrors = true)
    (heard : m.executor.hear host p (host.shell (m.callFor host p r) p.shell).1 = .error e ∧
        e.isLaunchFailure = true ∨
      m.executor.hear host p (host.shell (m.callFor host p r) p.shell).1 = .ok (.failure e)) :
    m.verdict host p r = .error (Outcome.launchFailure e.message (some e)) := by
  have houtcome : m.outcome host p r = .ok (.spawnError e.message (some e)) := by
    rcases heard with ⟨heard, hlaunch⟩ | heard
    · rw [outcome_eq_judge, heard, judge, if_pos hlaunch]
      rfl
    · rw [outcome_eq_judge, heard]
      rfl
  rw [verdict, houtcome, strict]
  rfl

/-- What is no failure of a launch is passed on, whatever the policy is. -/
theorem verdict_of_other_failure
    (heard : m.executor.hear host p (host.shell (m.callFor host p r) p.shell).1 = .error e)
    (other : e.isLaunchFailure = false) : m.verdict host p r = .error e := by
  have houtcome : m.outcome host p r = .error e := by
    rw [outcome_eq_judge, heard, judge, other]
    rfl
  rw [verdict, houtcome]
  rfl

/-- A failure that is none of a launch comes to the matcher as it is. -/
theorem hear_of_other_failure (executor : Executor) (other : e.isLaunchFailure = false) :
    executor.hear host p (.error e) = .error e := by
  cases executor with
  | direct => rfl
  | client c =>
      show Except.error (c.tell (c.programIn host p) e) = _
      rw [c.tell_of_not_isLaunchFailure _ other]

/-- **A failed launch surfaces with one failure of the launch around it.**  Let the host be asked for the
run of a request, and let `e` come out of it.

If a client launches the shell, a strict match fails with what `Client.Tells` says, the program being the
one that was to be launched.  If no client has a say, it fails with what `Executor.Tells` says, whether the
host fails with `e` or hands it back in place of a reply.  Either way `e` is wrapped at most once.  What is
no failure of a launch goes through as it is, whatever the policy is. -/
theorem launch_failure_surfaces_once (m : Matcher) (posix : host.windows = false)
    {subject pattern options : Value} {r : Request}
    (accepted : request host subject pattern options = .ok r) (p : Memory σ) (e : Failure) :
    (∀ client, m.executor = .client client → r.options.has .strictErrors = true →
      e.isLaunchFailure = true → (host.shell (m.callFor host p r) p.shell).1 = .error e →
      ∃ program f q, m.test host subject pattern options p = .error f q ∧
        q.calls = p.calls ++ [.launch program ((Command.arguments r).map .text)
          (r.options.get .workingDirectory) (client.limit.map Limit.value)] ∧
        client.Tells program e f ∧ e.IsToldOnce f) ∧
    (m.executor = .direct → r.options.has .strictErrors = true →
      ((host.shell (m.callFor host p r) p.shell).1 = .error e ∧ e.isLaunchFailure = true ∨
        (host.shell (m.callFor host p r) p.shell).1 = .ok (.failure e)) →
      ∃ f q, m.test host subject pattern options p = .error f q ∧
        Executor.Tells e f ∧ e.IsToldOnce f) ∧
    (e.isLaunchFailure = false → (host.shell (m.callFor host p r) p.shell).1 = .error e →
      ∃ q, m.test host subject pattern options p = .error e q) := by
  obtain ⟨q, hq, hasked⟩ := m.exists_test_eq posix subject pattern options p
  have hcalls : q.calls = p.calls ++ [m.callFor host p r] := by
    rw [hasked.calls_eq, callsOf, accepted]
  rw [accepted] at hq
  have hverdict : ∀ f, m.verdict host p r = .error f →
      m.test host subject pattern options p = .error f q := by
    intro f hf
    rw [hq]
    show Action.ofExcept (m.verdict host p r) q = _
    rw [hf]
    rfl
  refine ⟨?_, ?_, ?_⟩
  · intro client hclient strict hlaunch hreply
    have heard : m.executor.hear host p (host.shell (m.callFor host p r) p.shell).1 =
        .error (client.tell (client.programIn host p) e) := by
      rw [hreply, hclient]
      rfl
    have htells := client.tells_launchFailure (client.programIn host p) hlaunch
    refine ⟨client.programIn host p, _, q, hverdict _ (verdict_of_launch_failure strict
      (Or.inl ⟨heard, client.isLaunchFailure_tell _ hlaunch⟩)), ?_, htells, htells.isToldOnce⟩
    rw [hcalls, callFor, hclient]
    rfl
  · intro hdirect strict hreply
    have heard : m.executor.hear host p (host.shell (m.callFor host p r) p.shell).1 =
        (host.shell (m.callFor host p r) p.shell).1 := by
      rw [hdirect]
      rfl
    rw [← heard] at hreply
    have htells := Executor.tells_launchFailure e
    exact ⟨_, q, hverdict _ (verdict_of_launch_failure strict hreply), htells, htells.isToldOnce⟩
  · intro other hreply
    refine ⟨q, hverdict e (verdict_of_other_failure ?_ other)⟩
    rw [hreply]
    exact hear_of_other_failure m.executor other

/-- A host on which no command comes to its end. -/
def stallingHost : Host Unit where
  windows := false
  currentDirectory := .ok "/work/dir"
  fileExists path := path == "/bin/bash"
  shell
    | .launch program arguments _ (some limit), s =>
        (.error (.child (.timedOut (.list (program.value :: arguments)) limit)), s)
    | _, s => (.error (.child (.general [])), s)

/-- A client for that host, with a limit of five seconds. -/
def impatient : Matcher := ⟨.client ⟨none, some (.whole 5)⟩, 4⟩

/-- A strict match tells the program that has run out of time, and why. -/
theorem stalled_match_names_program :
    ∃ program command arguments directory q,
      impatient.test stallingHost (.text "a") (.text "*") (.mapping [("strict_errors", .bool true)])
          (Memory.fresh ()) =
        .error (.launch (.outOfTime "5") (some program)
          (some (.child (.timedOut command (.int 5))))) q ∧
      q.calls = [.launch program arguments directory (some (.int 5))] := by
  obtain ⟨r, accepted, strict, command, hreply⟩ : ∃ r, request stallingHost (.text "a") (.text "*")
        (.mapping [("strict_errors", .bool true)]) = .ok r ∧
      r.options.has .strictErrors = true ∧
      ∃ command, (stallingHost.shell (impatient.callFor stallingHost (Memory.fresh ()) r) ()).1 =
        .error (.child (.timedOut command (.int 5))) := ⟨_, rfl, rfl, _, rfl⟩
  obtain ⟨program, f, q, hfails, hcalls, htells, -⟩ := (launch_failure_surfaces_once impatient rfl
    accepted (Memory.fresh ()) (.child (.timedOut command (.int 5)))).1 _ rfl strict rfl hreply
  cases htells with
  | outOfTime command limit => exact ⟨program, _, _, _, q, hfails, hcalls⟩
  | notRun hother _ => exact absurd rfl (hother _ _)
  | asItIs hlaunch => cases hlaunch

end Matcher

end GlobOracle
