import GlobOracle.Proofs.Batch.Discipline
import GlobOracle.Tool

/-!
# What is shown is what is run

A matcher can show the arguments of a match without running anything.  Whatever it has been asked before
(`Matcher.Query`), it then hands to the shell what it shows and nothing else (`Matcher.RunsWhatItShows`,
`Matcher.runs_what_it_shows`): one run for a match, the runs of a first part of the items for a list, and
none at all if nothing can be shown or if there is no POSIX shell.

The history has no say because all that a call depends on is where the shell is found, and every query
leaves that as it was (`Matcher.found_afterAll`).
-/

namespace GlobOracle

variable {σ : Type} {host : Host σ} {p q : Memory σ}

/-- The answer of a batch leaves what the batch remembers. -/
theorem Batch.exists_answer_eq (b : Batch σ) :
    ∃ answer, b.answer = (Action.ofExcept answer : Action σ (List Value)) b.memory := by
  unfold answer
  cases b.failure with
  | some f => exact ⟨.error f, rfl⟩
  | none => exact ⟨.ok b.matching, rfl⟩

namespace Matcher

/-! ## Queries -/

/-- Something that a matcher can be asked. -/
inductive Query where
  /-- The arguments of a match. -/
  | compile (subject pattern options : Value)
  /-- The arguments of a match, asked through the tool. -/
  | compileTool (strict : Bool) (subject pattern input : Value)
  /-- A match of one subject. -/
  | test (subject pattern options : Value)
  /-- The items of a list that match. -/
  | filter (listed pattern options : Value)
  /-- The items of a list that match, concurrently and as a schedule says. -/
  | filterScheduled (listed pattern options : Value) (schedule : List Move)

/-- The memory after a query. -/
def after (m : Matcher) (host : Host σ) (p : Memory σ) : Query → Memory σ
  | .compile subject pattern options =>
      (Action.ofExcept (Matcher.compile host subject pattern options)).memoryAfter p
  | .compileTool strict subject pattern input =>
      (Action.ofExcept (Tool.compile strict host subject pattern input)).memoryAfter p
  | .test subject pattern options => (m.test host subject pattern options).memoryAfter p
  | .filter listed pattern options => (m.filter host listed pattern options).memoryAfter p
  | .filterScheduled listed pattern options schedule =>
      (m.filterScheduled host listed pattern options schedule).memoryAfter p

/-- The memory after some queries, one after another. -/
def afterAll (m : Matcher) (host : Host σ) (p : Memory σ) (history : List Query) : Memory σ :=
  history.foldl (m.after host) p

/-! ## Without a POSIX shell -/

theorem exists_test_eq_error (m : Matcher) (windows : host.windows = true)
    (subject pattern options : Value) (p : Memory σ) :
    ∃ f, m.test host subject pattern options p = .error f p := by
  cases hrequest : request host subject pattern options with
  | error f => exact ⟨f, m.test_of_request_error hrequest p⟩
  | ok r =>
      have hrefused : Action.requirePosix host p = .error .unsupportedPlatform p := by
        rw [Action.requirePosix, if_pos windows]
        rfl
      refine ⟨.unsupportedPlatform, ?_⟩
      rw [test, hrequest, Action.ofExcept_ok_bind]
      refine Action.bind_of_error ?_
      rw [evaluate, Action.bind_of_error hrefused]

theorem exists_prepare_eq_error (windows : host.windows = true) (listed pattern options : Value) :
    ∃ f, prepare host listed pattern options = .error f := by
  cases hprepare : prepare host listed pattern options with
  | error f => exact ⟨f, rfl⟩
  | ok prepared =>
      obtain ⟨-, posix, -⟩ := prepare_eq_ok_iff.1 hprepare
      rw [windows] at posix
      cases posix

/-- A list that is refused at once leaves everything as it was, whichever way it was to be filtered. -/
theorem filters_of_prepare_error (m : Matcher) {listed pattern options : Value} {f : Failure}
    (refused : prepare host listed pattern options = .error f) (p : Memory σ) :
    m.filter host listed pattern options p = .error f p ∧
      m.filterConcurrently host listed pattern options p = .error f p ∧
      ∀ schedule, m.filterScheduled host listed pattern options schedule p = .error f p := by
  unfold filter filterConcurrently filterScheduled
  rw [refused]
  exact ⟨rfl, rfl, fun _ => rfl⟩

/-! ## The history has no say -/

theorem found_after_test (m : Matcher) (subject pattern options : Value) :
    ShellPath.found host ((m.test host subject pattern options).memoryAfter p) =
      ShellPath.found host p := by
  cases hwindows : host.windows with
  | true =>
      obtain ⟨f, hf⟩ := m.exists_test_eq_error hwindows subject pattern options p
      rw [Action.memoryAfter_of_error hf]
  | false =>
      obtain ⟨q, hq, hasked⟩ := m.exists_test_eq hwindows subject pattern options p
      rw [Action.memoryAfter_of_eq hq]
      exact hasked.found_eq

theorem found_after_filter (m : Matcher) (listed pattern options : Value) :
    ShellPath.found host ((m.filter host listed pattern options).memoryAfter p) =
      ShellPath.found host p := by
  cases hprepare : prepare host listed pattern options with
  | error f =>
      rw [Action.memoryAfter_of_error (m.filters_of_prepare_error hprepare p).1]
  | ok prepared =>
      obtain ⟨items, o⟩ := prepared
      obtain ⟨-, posix, -⟩ := prepare_eq_ok_iff.1 hprepare
      rw [m.filter_eq_keep hprepare]
      obtain ⟨answer, q, hkeep⟩ := Action.exists_eq_ofExcept (m.keep host pattern o items) p
      rw [Action.memoryAfter_of_eq hkeep]
      cases answer with
      | ok kept => exact (asked_of_keep_eq_ok m pattern o posix hkeep).found_eq
      | error f =>
          obtain ⟨_, _, _, _, _, -, -, -, hasked⟩ := asked_of_keep_eq_error m pattern o posix hkeep
          exact hasked.found_eq

theorem found_after_filterScheduled (m : Matcher) (listed pattern options : Value)
    (schedule : List Move) :
    ShellPath.found host ((m.filterScheduled host listed pattern options schedule).memoryAfter p) =
      ShellPath.found host p := by
  cases hprepare : prepare host listed pattern options with
  | error f =>
      rw [Action.memoryAfter_of_error ((m.filters_of_prepare_error hprepare p).2.2 schedule)]
  | ok prepared =>
      obtain ⟨items, o⟩ := prepared
      obtain ⟨⟨text, rfl⟩, posix, hnormal, -⟩ := prepare_eq_ok_iff.1 hprepare
      obtain ⟨handed, hledger⟩ := Batch.exists_ledger_follow posix
        (Options.has_normalized_of_normalize hnormal) m p text m.bound items schedule
      let b := (Batch.begin m.bound items p).follow m host (.text text) o schedule
      obtain ⟨answer, hanswer⟩ := b.exists_answer_eq
      have hscheduled : m.filterScheduled host listed (.text text) options schedule p =
          Action.ofExcept answer b.memory := by
        rw [filterScheduled, hprepare]
        exact hanswer
      rw [Action.memoryAfter_of_eq hscheduled]
      exact hledger.asked.found_eq

/-- Every query leaves the shell to be found where it was. -/
theorem found_after (m : Matcher) (query : Query) :
    ShellPath.found host (m.after host p query) = ShellPath.found host p := by
  cases query with
  | compile subject pattern options => rw [after, Action.memoryAfter_of_eq rfl]
  | compileTool strict subject pattern input => rw [after, Action.memoryAfter_of_eq rfl]
  | test subject pattern options => exact m.found_after_test subject pattern options
  | filter listed pattern options => exact m.found_after_filter listed pattern options
  | filterScheduled listed pattern options schedule =>
      exact m.found_after_filterScheduled listed pattern options schedule

/-- **Whatever has been asked before, the shell is found where it was.** -/
theorem found_afterAll (m : Matcher) (history : List Query) :
    ShellPath.found host (m.afterAll host p history) = ShellPath.found host p := by
  induction history generalizing p with
  | nil => rfl
  | cons query history ih =>
      show ShellPath.found host (m.afterAll host (m.after host p query) history) = _
      rw [ih, m.found_after]

/-! ## What is shown and what is run -/

/-- What can be shown is the command of a request. -/
theorem exists_request_of_compile {subject pattern options : Value} {arguments : List String}
    (h : compile host subject pattern options = .ok arguments) :
    ∃ r, request host subject pattern options = .ok r ∧ arguments = Command.arguments r := by
  unfold compile at h
  cases hrequest : request host subject pattern options with
  | error f =>
      rw [hrequest] at h
      cases h
  | ok r =>
      rw [hrequest] at h
      cases h
      exact ⟨r, rfl, rfl⟩

theorem request_of_compile_error {subject pattern options : Value} {f : Failure}
    (h : compile host subject pattern options = .error f) :
    request host subject pattern options = .error f := by
  unfold compile at h
  cases hrequest : request host subject pattern options with
  | error g =>
      rw [hrequest] at h
      cases h
      rfl
  | ok r =>
      rw [hrequest] at h
      cases h

/-- Of the host only the current directory has a say in what is shown. -/
theorem compile_eq_of_directory {host' : Host σ}
    (hdirectory : host'.currentDirectory = host.currentDirectory) :
    compile host' = compile host := by
  funext subject pattern options
  rw [compile, compile, request, request, hdirectory]

/-- The call that is shown for an item: its arguments, in a working directory.  None is shown for an item
that is no text. -/
def shown (m : Matcher) (host : Host σ) (p : Memory σ) (pattern options directory item : Value) :
    List Call :=
  match compile host item pattern options with
  | .ok arguments => [m.executor.callIn host p arguments directory]
  | .error _ => []

/-- The calls of a match are those that are shown. -/
theorem callsOf_eq_shown (m : Matcher) {pattern options : Value} {o : Options}
    (normal : Options.normalize host.currentDirectory pattern options = .ok o) (item : Value) :
    m.callsOf host p item pattern options =
      m.shown host p pattern options (o.get .workingDirectory) item := by
  unfold callsOf shown
  cases hcompile : compile host item pattern options with
  | error f => rw [request_of_compile_error hcompile]
  | ok arguments =>
      obtain ⟨r, hrequest, rfl⟩ := exists_request_of_compile hcompile
      have hnormal := normalize_of_request hrequest
      rw [normal] at hnormal
      cases hnormal
      rw [hrequest]
      rfl

/-- Under options that are accepted the command of every text can be shown, and of nothing else. -/
theorem exists_compile_eq_ok_iff {pattern : String} {options : Value} {o : Options}
    (normal : Options.normalize host.currentDirectory (.text pattern) options = .ok o)
    (item : Value) :
    (∃ arguments, compile host item (.text pattern) options = .ok arguments) ↔
      ∃ s, item = .text s := by
  constructor
  · rintro ⟨arguments, h⟩
    cases item with
    | text s => exact ⟨s, rfl⟩
    | _ => cases h
  · rintro ⟨s, rfl⟩
    rw [compile, request_text, normal]
    exact ⟨_, rfl⟩

/-- How a list ends that runs what is shown for its items: with an answer, after the runs for all items, or
with the failure of one item, after the runs up to that item. -/
inductive RunsShown (m : Matcher) (host : Host σ) (p q : Memory σ)
    (pattern options directory : Value) (items : List Value) :
    EStateM.Result Failure (Memory σ) (List Value) → Prop
  | answered {kept : List Value} {r : Memory σ} :
      r.calls = q.calls ++ items.flatMap (m.shown host p pattern options directory) →
      RunsShown m host p q pattern options directory items (.ok kept r)
  | failed {before later : List Value} {item : Value} {flags : List Bool} {s r : Memory σ}
      {f : Failure} :
      items = before ++ item :: later →
      InTurn (fun item => m.test host item pattern options) before q flags s →
      m.test host item pattern options s = .error f r →
      r.calls = q.calls ++ (before ++ [item]).flatMap (m.shown host p pattern options directory) →
      RunsShown m host p q pattern options directory items (.error f r)

/-- A matcher, with a memory that it has come to, runs what it shows.  `p` is a memory from which it has
set out: where the shell was found then, it is found now. -/
structure RunsWhatItShows (m : Matcher) (host : Host σ) (p q : Memory σ) : Prop where
  /-- Showing a command runs nothing, through the tool or not. -/
  after_compile : ∀ subject pattern options,
    m.after host q (.compile subject pattern options) = q
  after_compileTool : ∀ strict subject pattern input,
    m.after host q (.compileTool strict subject pattern input) = q
  /-- Of the host only the current directory has a say in what is shown. -/
  compile_eq : ∀ host' : Host σ, host'.currentDirectory = host.currentDirectory →
    compile host' = compile host ∧ ∀ strict, Tool.compile strict host' = Tool.compile strict host
  /-- What is shown is run once, in the working directory of the canonical record. -/
  calls_of_shown : ∀ subject pattern options arguments, host.windows = false →
    compile host subject pattern options = .ok arguments →
    ∃ o, Options.normalize host.currentDirectory pattern options = .ok o ∧
      (m.after host q (.test subject pattern options)).calls =
        q.calls ++ [m.executor.callIn host p arguments (o.get .workingDirectory)]
  /-- If nothing can be shown, a match fails alike and nothing is done. -/
  test_of_not_shown : ∀ subject pattern options f,
    compile host subject pattern options = .error f →
    m.test host subject pattern options q = .error f q
  /-- Without a POSIX shell nothing has an answer, and nothing is done. -/
  refused_of_windows : host.windows = true → ∀ given pattern options,
    (∃ f, m.test host given pattern options q = .error f q) ∧
    ∃ f, m.filter host given pattern options q = .error f q ∧
      m.filterConcurrently host given pattern options q = .error f q ∧
      ∀ schedule, m.filterScheduled host given pattern options schedule q = .error f q
  /-- A list runs what is shown for its items, which is a command for every text and nothing else. -/
  filter_runs : ∀ listed pattern options items o,
    prepare host listed pattern options = .ok (items, o) →
    (∀ item, (∃ arguments, compile host item pattern options = .ok arguments) ↔
      ∃ s, item = .text s) ∧
    m.RunsShown host p q pattern options (o.get .workingDirectory) items
      (m.filter host listed pattern options q)
  /-- A list that is refused at once runs nothing. -/
  filter_of_refused : ∀ listed pattern options f,
    prepare host listed pattern options = .error f →
    m.filter host listed pattern options q = .error f q

/-- A list runs what is shown for its items. -/
theorem runsShown_filter (m : Matcher) (hfound : ShellPath.found host q = ShellPath.found host p)
    {listed pattern options : Value} {items : List Value} {o : Options}
    (prepared : prepare host listed pattern options = .ok (items, o)) :
    m.RunsShown host p q pattern options (o.get .workingDirectory) items
      (m.filter host listed pattern options q) := by
  obtain ⟨⟨text, rfl⟩, posix, normal, -⟩ := prepare_eq_ok_iff.1 prepared
  have hshown : (fun item => m.callsOf host q item (.text text) o.value) =
      m.shown host p (.text text) options (o.get .workingDirectory) := by
    funext item
    rw [← m.callsOf_eq_shown normal, m.callsOf_eq_of_found hfound, callsOf, callsOf,
      request_of_normalize normal]
  rw [m.filter_eq_keep prepared]
  obtain ⟨answer, r, hkeep⟩ := Action.exists_eq_ofExcept (m.keep host (.text text) o items) q
  rw [hkeep]
  cases answer with
  | ok kept =>
      have hasked := asked_of_keep_eq_ok m (.text text) o posix hkeep
      rw [hshown] at hasked
      exact .answered hasked.calls_eq
  | error f =>
      obtain ⟨before, item, later, flags, s, hitems, hturn, hfails, hasked⟩ :=
        asked_of_keep_eq_error m (.text text) o posix hkeep
      rw [hshown] at hasked
      simp only [m.test_canonical normal] at hturn hfails
      exact .failed hitems hturn hfails hasked.calls_eq

/-- **A matcher runs what it shows and nothing else**, whatever it has been asked before. -/
theorem runs_what_it_shows (m : Matcher) (host : Host σ) (p : Memory σ) (history : List Query) :
    m.RunsWhatItShows host p (m.afterAll host p history) := by
  have hfound : ShellPath.found host (m.afterAll host p history) = ShellPath.found host p :=
    m.found_afterAll history
  refine ⟨fun _ _ _ => Action.memoryAfter_of_eq rfl, fun _ _ _ _ => Action.memoryAfter_of_eq rfl,
    ?_, ?_, ?_, ?_, ?_, fun _ _ _ _ refused => (m.filters_of_prepare_error refused _).1⟩
  · intro host' hdirectory
    have hcompile := compile_eq_of_directory hdirectory
    refine ⟨hcompile, fun strict => ?_⟩
    funext subject pattern input
    rw [Tool.compile, Tool.compile, hcompile]
  · intro subject pattern options arguments posix hcompile
    obtain ⟨r, hrequest, rfl⟩ := exists_request_of_compile hcompile
    have normal := normalize_of_request hrequest
    obtain ⟨q', hq', hasked⟩ := m.exists_test_eq posix subject pattern options
      (m.afterAll host p history)
    refine ⟨r.options, normal, ?_⟩
    rw [after, Action.memoryAfter_of_eq hq', hasked.calls_eq, m.callsOf_eq_of_found hfound,
      m.callsOf_eq_shown normal, shown, hcompile]
  · intro subject pattern options f hcompile
    exact m.test_of_request_error (request_of_compile_error hcompile) _
  · intro windows listed pattern options
    refine ⟨m.exists_test_eq_error windows listed pattern options _, ?_⟩
    obtain ⟨f, refused⟩ := exists_prepare_eq_error windows listed pattern options
    exact ⟨f, m.filters_of_prepare_error refused _⟩
  · intro listed pattern options items o prepared
    obtain ⟨⟨text, rfl⟩, -, normal, -⟩ := prepare_eq_ok_iff.1 prepared
    exact ⟨exists_compile_eq_ok_iff normal, m.runsShown_filter hfound prepared⟩

/-- A match that has been run before is run again. -/
theorem match_is_run_again :
    ∃ call, (after ⟨.direct, 4⟩ tiringHost (afterAll ⟨.direct, 4⟩ tiringHost (Memory.fresh 0)
        [.compile (.text "a") (.text "a") .null, .test (.text "a") (.text "a") .null])
      (.test (.text "a") (.text "a") .null)).calls = [call, call] := by
  obtain ⟨o, normal, hcalls⟩ := (runs_what_it_shows ⟨.direct, 4⟩ tiringHost (Memory.fresh 0)
    [.compile (.text "a") (.text "a") .null, .test (.text "a") (.text "a") .null]).calls_of_shown
    (.text "a") (.text "a") .null _ rfl rfl
  cases normal
  exact ⟨_, hcalls⟩

end Matcher

end GlobOracle
