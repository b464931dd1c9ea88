import GlobOracle.Proofs.ShellPath.Indifference
import GlobOracle.Proofs.Text.Trim

/-!
# The path of the shell at one moment

A program runs through moments: at each it does one thing (`Operation`), on a host whose files may be
others than before.  Unless the path of the shell is forgotten, the moment is the doing of one executor
(`Moment.used`), and that says all there is to know about the path.  A client with a path of its own stays
out of it: it launches that path and leaves the settled one alone, unread (`Moment.KeepsOwnPath`).

Which path a client has of its own is told by the path that it was configured with
(`Client.NamesProgram`); and whichever it launches, it tells of that one if the launch fails
(`Client.launch_of_run_eq_error`).
-/

namespace GlobOracle

variable {σ : Type} {host : Host σ} {p q : Memory σ}

/-! ## Operations -/

/-- Something that the program does. -/
inductive Operation where
  /-- A client runs the shell. -/
  | run (client : Client) (arguments directory : Value)
  /-- A client is asked for its program. -/
  | read (client : Client)
  /-- The path of the shell is asked for. -/
  | resolve
  /-- The path of the shell is forgotten. -/
  | forget
  /-- The arguments of a match are shown. -/
  | compile (subject pattern options : Value)
  /-- A request is evaluated. -/
  | evaluate (m : Matcher) (request : Request)
  /-- A subject is matched. -/
  | test (m : Matcher) (subject pattern options : Value)
  /-- A list is filtered, one item after another. -/
  | filter (m : Matcher) (listed pattern options : Value)
  /-- A list is filtered, its items matched concurrently. -/
  | filterConcurrently (m : Matcher) (listed pattern options : Value)
  /-- A list is filtered, its items matched as a schedule says. -/
  | filterScheduled (m : Matcher) (listed pattern options : Value) (schedule : List Move)

/-- The answer to an operation. -/
inductive Operation.Answer where
  | done
  | program (program : Executable)
  | reply (reply : Reply)
  | shown (arguments : List String)
  | outcome (outcome : Outcome)
  | matched (matched : Bool)
  | kept (items : List Value)

namespace Operation

/-- Does the operation. -/
def perform (host : Host σ) : Operation → Action σ Answer
  | run client arguments directory => do return .reply (← client.run host arguments directory)
  | read client => do return .program (← client.program host)
  | resolve => do return .program (.text (← ShellPath.resolve host))
  | forget => do
      ShellPath.forget
      return .done
  | compile subject pattern options => do
      return .shown (← Action.ofExcept (Matcher.compile host subject pattern options))
  | evaluate m request => do return .outcome (← m.evaluate host request)
  | test m subject pattern options => do return .matched (← m.test host subject pattern options)
  | filter m listed pattern options => do return .kept (← m.filter host listed pattern options)
  | filterConcurrently m listed pattern options => do
      return .kept (← m.filterConcurrently host listed pattern options)
  | filterScheduled m listed pattern options schedule => do
      return .kept (← m.filterScheduled host listed pattern options schedule)

/-- How the operation reaches the shell.  The path is asked for as by a client that has none. -/
def executor : Operation → Executor
  | run client _ _ | read client => .client client
  | resolve => .client ⟨none, none⟩
  | forget | compile _ _ _ => .direct
  | evaluate m _ | test m _ _ _ | filter m _ _ _ | filterConcurrently m _ _ _
  | filterScheduled m _ _ _ _ => m.executor

/-- Whatever is done, but for forgetting the path, is the doing of the executor. -/
theorem uses_perform {operation : Operation} (h : operation ≠ .forget) :
    (operation.perform host).Uses operation.executor host := by
  have hanswer {α : Type} {executor : Executor} {a : Action σ α} (told : α → Answer)
      (ha : a.Uses executor host) : (a >>= fun x => pure (told x)).Uses executor host :=
    ha.bind fun x => Action.uses_ofExcept (.ok (told x))
  cases operation with
  | run client arguments directory => exact hanswer .reply (client.uses_run arguments directory)
  | read client => exact hanswer .program client.uses_program
  | resolve => exact hanswer (fun path => .program (.text path)) (ShellPath.uses_resolve rfl)
  | forget => exact absurd rfl h
  | compile subject pattern options => exact hanswer .shown (Action.uses_ofExcept _)
  | evaluate m request => exact hanswer .outcome (m.uses_evaluate request)
  | test m subject pattern options => exact hanswer .matched (m.uses_test subject pattern options)
  | filter m listed pattern options => exact hanswer .kept (m.uses_filter listed pattern options)
  | filterConcurrently m listed pattern options =>
      exact hanswer .kept (m.uses_filterConcurrently listed pattern options)
  | filterScheduled m listed pattern options schedule =>
      exact hanswer .kept (m.uses_filterScheduled listed pattern options schedule)

/-- What does not look for the shell does not see its path. -/
theorem ignoresPath_perform {operation : Operation} (h : operation ≠ .forget)
    (hlooks : operation.executor.looksForShell = false) :
    (operation.perform host).IgnoresPath := by
  have hanswer {α : Type} {a : Action σ α} (told : α → Answer) (ha : a.IgnoresPath) :
      (a >>= fun x => pure (told x)).IgnoresPath :=
    ha.bind fun x => Action.ignoresPath_ofExcept (.ok (told x))
  cases operation with
  | run client arguments directory =>
      have hpath : client.path.isSome := by simpa [executor, Executor.looksForShell] using hlooks
      exact hanswer .reply (client.ignoresPath_run host hpath arguments directory)
  | read client =>
      have hpath : client.path.isSome := by simpa [executor, Executor.looksForShell] using hlooks
      exact hanswer .program (client.ignoresPath_program host hpath)
  | resolve => cases hlooks
  | forget => exact absurd rfl h
  | compile subject pattern options => exact hanswer .shown (Action.ignoresPath_ofExcept _)
  | evaluate m request => exact hanswer .outcome (m.ignoresPath_evaluate host hlooks request)
  | test m subject pattern options =>
      exact hanswer .matched (m.ignoresPath_test host hlooks subject pattern options)
  | filter m listed pattern options =>
      exact hanswer .kept (m.ignoresPath_filter host hlooks listed pattern options)
  | filterConcurrently m listed pattern options =>
      exact hanswer .kept (m.ignoresPath_filterConcurrently host hlooks listed pattern options)
  | filterScheduled m listed pattern options schedule =>
      exact hanswer .kept
        (m.ignoresPath_filterScheduled host hlooks listed pattern options schedule)

end Operation

/-! ## Moments -/

/-- A moment of the program: what it does, and the host as it is then. -/
structure Moment (σ : Type) where
  /-- The host. -/
  host : Host σ
  /-- What is done. -/
  operation : Operation

namespace Moment

/-- What is done at a moment. -/
def action (moment : Moment σ) : Action σ Operation.Answer := moment.operation.perform moment.host

/-- The memory after a moment. -/
def after (p : Memory σ) (moment : Moment σ) : Memory σ := moment.action.memoryAfter p

/-- The calls that are made at a moment. -/
def calls (moment : Moment σ) (p : Memory σ) : List Call :=
  (after p moment).calls.drop p.calls.length

variable {moment : Moment σ}

/-- A moment at which the path is not forgotten is the doing of an executor. -/
theorem used (h : moment.operation ≠ .forget) (p : Memory σ) :
    p.Used moment.operation.executor moment.host (moment.calls p) (after p moment) := by
  have huses : moment.action.Uses moment.operation.executor moment.host := Operation.uses_perform h
  obtain ⟨calls, hused⟩ := huses p
  have hcalls : moment.calls p = calls := by
    have hafter : (after p moment).calls = p.calls ++ calls := hused.calls_eq
    rw [Moment.calls, hafter, List.drop_left]
  rw [hcalls]
  exact hused

/-- A path that is settled stays through a moment. -/
theorem keepsPath_after (h : moment.operation ≠ .forget) (hsettled : p.shellPath ≠ none) :
    p.KeepsPath (after p moment) := by
  rcases (used h p).path with ⟨hkeeps, -⟩ | ⟨-, hsettles⟩
  · exact hkeeps
  · exact absurd hsettles.unsettled hsettled

/-- Who asks for the path is told where the shell is found, and it is settled then. -/
theorem exists_action_of_resolve (hresolve : moment.operation = .resolve) (p : Memory σ) :
    ∃ q, moment.action p = .ok (.program (.text (ShellPath.found moment.host p))) q ∧
      (after p moment).shellPath ≠ none := by
  obtain ⟨q, hq, -, -, hpath, -⟩ := ShellPath.exists_resolve_eq moment.host p
  have haction : moment.action p = .ok (.program (.text (ShellPath.found moment.host p))) q := by
    rw [action, hresolve]
    exact Action.bind_of_ok hq
  refine ⟨q, haction, ?_⟩
  rw [after, Action.memoryAfter, haction, hpath]
  simp

/-- Likewise a client that is asked for its program, unless it has a path of its own. -/
theorem exists_action_of_read {client : Client} (hread : moment.operation = .read client)
    (p : Memory σ) :
    ∃ q, moment.action p = .ok (.program (client.programIn moment.host p)) q ∧
      (client.path = none → (after p moment).shellPath ≠ none) := by
  obtain ⟨q, hq, -, hsettled⟩ := client.exists_program_eq_used moment.host p
  have haction : moment.action p = .ok (.program (client.programIn moment.host p)) q := by
    rw [action, hread]
    exact Action.bind_of_ok hq
  refine ⟨q, haction, fun hnone => ?_⟩
  rw [after, Action.memoryAfter, haction]
  exact hsettled (by rw [Executor.looksForShell, hnone]; rfl)

/-! ## Clients with a path of their own -/

/-- An operation of a client that has a path of its own: it launches this path, leaves the settled path
and the files alone, and does not depend on what is settled. -/
structure KeepsOwnPath (moment : Moment σ) (program : Executable) (p : Memory σ) : Prop where
  keeps : p.KeepsPath (after p moment)
  launches : (after p moment).calls = p.calls ++ moment.calls p ∧
    ∀ call ∈ moment.calls p, call.program? = some program
  indifferent : ∀ path, moment.action (p.withPath path) = Action.withPath path (moment.action p)

theorem keepsOwnPath {client : Client} {program : Executable}
    (hclient : moment.operation.executor = .client client) (hpath : client.path = some program)
    (p : Memory σ) : KeepsOwnPath moment program p := by
  have hlooks : moment.operation.executor.looksForShell = false := by
    rw [hclient, Executor.looksForShell, hpath]
    rfl
  have hforget : moment.operation ≠ .forget := by
    intro hforget
    rw [hforget] at hclient
    cases hclient
  have hused := used hforget p
  refine ⟨?_, ?_, Operation.ignoresPath_perform hforget hlooks p⟩
  · rcases hused.path with ⟨hkeeps, -⟩ | ⟨hlooks', -⟩
    · exact hkeeps
    · rw [hlooks] at hlooks'
      cases hlooks'
  · refine ⟨hused.calls_eq, fun call hcall => ?_⟩
    rw [hused.programs call hcall, hclient, Executor.programAt, hpath]
    rfl

end Moment

/-! ## Configured paths and failed launches -/

namespace Client

/-- The program that a configured path names: none if there is no text or a blank one, and otherwise the
text without the blanks around it. -/
inductive NamesProgram : Value → Option Executable → Prop
  | absent : NamesProgram .null none
  | blank {name : String} : Text.isBlankText name → NamesProgram (.text name) none
  | named {name core : String} : core ≠ "" → Text.IsTrimmed Text.isBlank name.toList core.toList →
      NamesProgram (.text name) (some (.text core))

theorem namesProgram_ofText? (name : String) : NamesProgram (.text name) (Executable.ofText? name) := by
  unfold Executable.ofText?
  dsimp only
  split
  · rename_i hempty
    exact .blank (by rwa [← Text.isEmpty_trimmed])
  · rename_i hempty
    refine .named (fun heq => hempty (by rw [heq]; rfl)) ?_
    rw [Text.trimmed, String.toList_ofList]
    exact Text.isTrimmed_trimBy Text.isBlank name.toList

theorem configuredPath_of_ofValues {path limit : Value} {client : Client}
    (made : ofValues path limit = .ok client) : configuredPath path = .ok client.path := by
  unfold ofValues at made
  cases hpath : configuredPath path with
  | error f =>
      rw [hpath] at made
      cases made
  | ok program =>
      cases hlimit : Limit.ofValue limit with
      | error f =>
          rw [hpath, hlimit] at made
          cases made
      | ok limit =>
          rw [hpath, hlimit] at made
          cases made
          rfl

theorem namesProgram_of_ofValues {path limit : Value} {client : Client}
    (hpath : path = .null ∨ ∃ name, path = .text name)
    (made : ofValues path limit = .ok client) : NamesProgram path client.path := by
  have hconfigured := configuredPath_of_ofValues made
  rcases hpath with rfl | ⟨name, rfl⟩
  · rw [← Except.ok.inj hconfigured]
    exact .absent
  · rw [← Except.ok.inj hconfigured]
    exact namesProgram_ofText? name

/-- Of its arguments a run sees the members. -/
theorem run_eq_of_members? (client : Client) (host : Host σ) {arguments : Value} {members : List Value}
    (hmembers : arguments.members? = some members) (directory : Value) :
    client.run host arguments directory = client.run host (.list members) directory := by
  unfold run
  rw [hmembers]
  rfl

/-- What a client tells of a launch names the program, unless it was told already. -/
theorem launch_of_hear_eq_error {client : Client} {launched : Executable}
    {reply : Except Failure Reply} {fault : LaunchFault} {program : Option Executable}
    {cause : Option Failure}
    (hfails : client.hear launched reply = .error (.launch fault program cause)) :
    ∃ e, reply = .error e ∧
      (program = some launched ∧ cause = some e ∨ e = .launch fault program cause) := by
  cases reply with
  | ok reply => cases reply <;> cases hfails
  | error e =>
      have htold : client.tell launched e = .launch fault program cause :=
        Except.error.inj hfails
      refine ⟨e, rfl, ?_⟩
      cases e with
      | launch fault' program' cause' => exact .inr htold
      | os e =>
          cases htold
          exact .inl ⟨rfl, rfl⟩
      | child e =>
          cases e <;> cases htold
          exact .inl ⟨rfl, rfl⟩
      | _ => cases htold

/-- A failure of a launch that a client tells of names the program that was launched last, unless the host
has told it already. -/
theorem launch_of_run_eq_error (client : Client) (host : Host σ) {arguments directory : Value}
    {fault : LaunchFault} {program : Option Executable} {cause : Option Failure}
    (hfails : client.run host arguments directory p = .error (.launch fault program cause) q) :
    ∃ launched members limit e,
      q.calls = p.calls ++ [.launch launched members directory limit] ∧
      (host.shell (.launch launched members directory limit) p.shell).1 = .error e ∧
      (program = some launched ∧ cause = some e ∨ e = .launch fault program cause) := by
  cases hmembers : arguments.members? with
  | none =>
      obtain ⟨r, hr, -⟩ := client.exists_program_eq host p
      rw [run, Action.bind_of_ok hr, hmembers] at hfails
      cases hfails
  | some members =>
      rw [client.run_eq_of_members? host hmembers] at hfails
      obtain ⟨r, hr, hasked⟩ := client.exists_run_eq host members directory p
      have hsame := hr.symm.trans (hfails.trans (Action.ofExcept_error _ _).symm)
      obtain ⟨hheard, rfl⟩ := Action.ofExcept_inj.1 hsame
      obtain ⟨e, he, hnames⟩ := launch_of_hear_eq_error hheard
      exact ⟨_, members, _, e, hasked.calls_eq, he, hnames⟩

end Client

end GlobOracle
