import GlobOracle.Proofs.Containment
import GlobOracle.Proofs.InTurn
import GlobOracle.Proofs.Steady

/-!
# The error policy has no say in the answers

Whether errors are reported decides where a list ends, and nothing else.  On a host whose shell replies to
a call alike, and in the ordinary way, every subject has an outcome of its own, whatever the policy is
(`Matcher.outcome_eq_of_alike`).  A lenient list goes through all subjects and drops those with an error; a
strict one does the same if there is no error, and otherwise ends with the failure that reports the first
one (`strict_filter_stops_where_lenient_drops`).

The two lists are one loop under two policies, so the loop is followed once: `Matcher.exists_keep_eq_ok` as
long as no subject fails, `Matcher.exists_keep_eq_error` up to the first one that does.
-/

namespace GlobOracle

variable {σ : Type} {host : Host σ} {p q : Memory σ}

/-! ## Outcomes under the two policies -/

namespace Outcome

variable {outcome : Outcome}

/-- Has the shell found a match? -/
def isMatch : Outcome → Bool
  | matched => true
  | _ => false

/-- The failure that reports an error: the complaint of the shell, or the launch that went wrong. -/
inductive IsReportedAs : Outcome → Failure → Prop
  | complaint (complaint : String) :
      IsReportedAs (evaluationError complaint) (.evaluation (.text complaint))
  | launch (message : String) (cause : Option Failure) :
      IsReportedAs (spawnError message cause) (launchFailure message cause)

theorem resolve_lenient (outcome : Outcome) : outcome.resolve false = .ok outcome.isMatch := by
  cases outcome <;> rfl

/-- The policy has no say in an outcome that is no error. -/
theorem resolve_of_not_isError (h : outcome.isError = false) (strict : Bool) :
    outcome.resolve strict = .ok outcome.isMatch := by
  cases outcome with
  | matched => rfl
  | notMatched => rfl
  | evaluationError complaint => cases h
  | spawnError message cause => cases h

theorem exists_resolve_strict (h : outcome.isError = true) :
    ∃ f, outcome.resolve true = .error f ∧ outcome.IsReportedAs f := by
  cases outcome with
  | matched => cases h
  | notMatched => cases h
  | evaluationError complaint => exact ⟨_, rfl, .complaint complaint⟩
  | spawnError message cause => exact ⟨_, rfl, .launch message cause⟩

end Outcome

/-! ## Records that differ in the policy -/

/-- Two records differ in the error policy at most. -/
def Options.AlikeButPolicy (o o' : Options) : Prop := ∀ f, f ≠ .strictErrors → o.get f = o'.get f

namespace Matcher

variable {o o' : Options} {pattern : String}

/-- The policy has no say in the arguments of a command. -/
theorem arguments_eq_of_alike (alike : o.AlikeButPolicy o') (subject pattern : String) :
    Command.arguments ⟨subject, pattern, o⟩ = Command.arguments ⟨subject, pattern, o'⟩ := by
  have htoggles : o.enabledToggles = o'.enabledToggles := by
    refine List.filter_congr fun t _ => ?_
    rw [Options.has, Options.has, alike (.toggle t) (by simp)]
  simp only [Command.arguments, Command.toggleArguments_eq, htoggles]

/-- The policy has no say in what is asked of the host. -/
theorem callFor_eq_of_alike (m : Matcher) (alike : o.AlikeButPolicy o') (subject : String) :
    m.callFor host p ⟨subject, pattern, o⟩ = m.callFor host p ⟨subject, pattern, o'⟩ := by
  have hdirectory : o.get .workingDirectory = o'.get .workingDirectory := alike _ (by simp)
  simp only [callFor, arguments_eq_of_alike alike, hdirectory]

/-- **The policy has no say in the outcome of a request.** -/
theorem outcome_eq_of_alike (m : Matcher) (alike : o.AlikeButPolicy o') (subject : String) :
    m.outcome host p ⟨subject, pattern, o⟩ = m.outcome host p ⟨subject, pattern, o'⟩ := by
  rw [outcome_eq_judge, outcome_eq_judge, m.callFor_eq_of_alike alike]

/-! ## The loop over texts -/

theorem flatMap_callsOf_text (m : Matcher) (canonical : o.has .normalized = true)
    (subjects : List String) :
    ((subjects.map Value.text).flatMap fun item => m.callsOf host p item (.text pattern) o.value) =
      subjects.map fun s => m.callFor host p ⟨s, pattern, o⟩ := by
  have hcalls : ∀ s, m.callsOf host p (.text s) (.text pattern) o.value =
      [m.callFor host p ⟨s, pattern, o⟩] := by
    intro s
    rw [callsOf, request_canonical canonical]
  rw [List.flatMap_map]
  simp only [hcalls]
  exact List.map_eq_flatMap.symm

theorem flagged_map (subjects : List String) (answer : String → Bool) :
    flagged (subjects.map .text) (subjects.map answer) = (subjects.filter answer).map .text := by
  induction subjects with
  | nil => rfl
  | cons s subjects ih =>
      rw [List.map_cons, List.map_cons, flagged_cons, ih, List.filter_cons]
      cases answer s <;> rfl

section Told

variable (m : Matcher) {told : String → Outcome} {subjects before : List String}
  (posix : host.windows = false) (steady : host.IsSteady) (canonical : o.has .normalized = true)
  (htold : ∀ s, m.outcome host p ⟨s, pattern, o⟩ = .ok (told s))

include posix steady canonical htold

/-- Wherever a match goes on from, it comes to the outcome of its subject under the policy. -/
theorem exists_test_eq_resolve (hfound : ShellPath.found host q = ShellPath.found host p)
    (s : String) :
    ∃ r, m.test host (.text s) (.text pattern) o.value q =
        Action.ofExcept ((told s).resolve (o.has .strictErrors)) r ∧
      ShellPath.found host r = ShellPath.found host p := by
  obtain ⟨r, hr, hfoundr⟩ :=
    m.exists_test_eq_answerTo (.text pattern) o.value posix steady hfound (.text s)
  refine ⟨r, ?_, hfoundr⟩
  rw [hr, answerTo, request_canonical canonical]
  show Action.ofExcept (m.verdict host p ⟨s, pattern, o⟩) r = _
  rw [verdict, htold]
  rfl

/-- Subjects that do not fail are matched in turn. -/
theorem exists_inTurn_of_resolve
    (calm : ∀ s ∈ subjects, (told s).resolve (o.has .strictErrors) = .ok (told s).isMatch)
    (hfound : ShellPath.found host q = ShellPath.found host p) :
    ∃ r, InTurn (fun item => m.test host item (.text pattern) o.value) (subjects.map .text) q
        (subjects.map fun s => (told s).isMatch) r ∧
      ShellPath.found host r = ShellPath.found host p := by
  induction subjects generalizing q with
  | nil => exact ⟨q, .nil q, hfound⟩
  | cons s subjects ih =>
      obtain ⟨r, hr, hfoundr⟩ := m.exists_test_eq_resolve posix steady canonical htold hfound s
      rw [calm s List.mem_cons_self] at hr
      obtain ⟨t, hturn, hfoundt⟩ := ih (fun x hx => calm x (List.mem_cons_of_mem _ hx)) hfoundr
      exact ⟨t, .cons hr hturn, hfoundt⟩

/-- A loop in which no subject fails keeps those that match. -/
theorem exists_keep_eq_ok
    (calm : ∀ s ∈ subjects, (told s).resolve (o.has .strictErrors) = .ok (told s).isMatch) :
    ∃ r, m.keep host (.text pattern) o (subjects.map .text) p =
        .ok ((subjects.filter fun s => (told s).isMatch).map .text) r ∧
      p.Asked host (subjects.map fun s => m.callFor host p ⟨s, pattern, o⟩) r := by
  obtain ⟨r, hturn, -⟩ := m.exists_inTurn_of_resolve posix steady canonical htold calm rfl
  have hkeep := (keep_eq_ok_iff m (.text pattern) o).2 ⟨_, hturn, (flagged_map _ _).symm⟩
  have hasked := asked_of_keep_eq_ok m (.text pattern) o posix hkeep
  rw [m.flatMap_callsOf_text canonical] at hasked
  exact ⟨r, hkeep, hasked⟩

/-- A loop fails with the first subject that does, and nothing behind it is asked about. -/
theorem exists_keep_eq_error {s : String} {f : Failure} (after : List String)
    (calm : ∀ x ∈ before, (told x).resolve (o.has .strictErrors) = .ok (told x).isMatch)
    (hfails : (told s).resolve (o.has .strictErrors) = .error f) :
    ∃ r, m.keep host (.text pattern) o ((before ++ s :: after).map .text) p = .error f r ∧
      p.Asked host ((before ++ [s]).map fun x => m.callFor host p ⟨x, pattern, o⟩) r := by
  obtain ⟨q, hturn, hfound⟩ := m.exists_inTurn_of_resolve posix steady canonical htold calm rfl
  obtain ⟨r, hr, -⟩ := m.exists_test_eq_resolve posix steady canonical htold hfound s
  rw [hfails] at hr
  have hitems : (before ++ s :: after).map Value.text =
      before.map .text ++ .text s :: after.map .text := by
    rw [List.map_append, List.map_cons]
  refine ⟨r, ?_, ?_⟩
  · rw [hitems]
    exact (keep_eq_error_iff m (.text pattern) o).2 ⟨_, _, _, _, q, rfl, hturn, hr⟩
  · have hasked := asked_of_inTurn_append m (.text pattern) posix hturn hr
    rw [← List.map_singleton, ← List.map_append, m.flatMap_callsOf_text canonical] at hasked
    exact hasked

end Told

/-! ## Two lists under two policies -/

/-- Without a POSIX shell no list is looked at, and nothing is run. -/
theorem filter_of_windows (m : Matcher) (windows : host.windows = true) (listed options : Value)
    (pattern : String) (p : Memory σ) :
    m.filter host listed (.text pattern) options p = .error .unsupportedPlatform p := by
  have hprepare : prepare host listed (.text pattern) options = .error .unsupportedPlatform := by
    rw [prepare, windows]
    rfl
  rw [filter, hprepare]
  rfl

/-- **A strict list stops where a lenient one drops an item**, and nothing else depends on the policy.
Let a shell reply to a call alike whenever it is asked, with bytes or with a failed launch, and let the
options of two lists of the same texts come to records that differ in the policy alone.

Then every subject has an outcome of its own, the same in both lists, and the same call is asked of the
host for it.  The lenient list goes through all subjects and keeps those that match.  The strict one does
the same if no outcome is an error, and otherwise fails with the failure that reports the first error, and
the host is not asked about the subjects behind.  Without a POSIX shell both lists are refused alike. -/
theorem strict_filter_stops_where_lenient_drops (m : Matcher) (steady : host.IsSteady)
    (ordinary : host.RepliesOrdinarily) {pattern : String} {lenient strict : Value} {o o' : Options}
    (normal : Options.normalize host.currentDirectory (.text pattern) lenient = .ok o)
    (normal' : Options.normalize host.currentDirectory (.text pattern) strict = .ok o')
    (alike : o.AlikeButPolicy o') (isLenient : o.has .strictErrors = false)
    (isStrict : o'.has .strictErrors = true) {listed : Value} {subjects : List String}
    (texts : itemsOf listed = .ok (subjects.map .text)) (p : Memory σ) :
    (host.windows = true →
      m.filter host listed (.text pattern) lenient p = .error .unsupportedPlatform p ∧
      m.filter host listed (.text pattern) strict p = .error .unsupportedPlatform p) ∧
    (host.windows = false → ∃ (told : String → Outcome) (asked : String → Call),
      (∀ s, m.outcome host p ⟨s, pattern, o⟩ = .ok (told s) ∧
        m.outcome host p ⟨s, pattern, o'⟩ = .ok (told s)) ∧
      (∀ s, m.callFor host p ⟨s, pattern, o⟩ = asked s ∧
        m.callFor host p ⟨s, pattern, o'⟩ = asked s) ∧
      (∃ q, m.filter host listed (.text pattern) lenient p =
          .ok ((subjects.filter fun s => (told s).isMatch).map .text) q ∧
        q.calls = p.calls ++ subjects.map asked) ∧
      ((∀ s ∈ subjects, (told s).isError = false) →
        ∃ q, m.filter host listed (.text pattern) strict p =
            .ok ((subjects.filter fun s => (told s).isMatch).map .text) q ∧
          q.calls = p.calls ++ subjects.map asked) ∧
      ∀ before s after, subjects = before ++ s :: after →
        (∀ x ∈ before, (told x).isError = false) → (told s).isError = true →
        ∃ f q, (told s).IsReportedAs f ∧
          m.filter host listed (.text pattern) strict p = .error f q ∧
          q.calls = p.calls ++ (before ++ [s]).map asked) := by
  refine ⟨fun windows => ⟨m.filter_of_windows windows _ _ _ p, m.filter_of_windows windows _ _ _ p⟩,
    fun posix => ?_⟩
  have canonical : o.has .normalized = true := Options.has_normalized_of_normalize normal
  have canonical' : o'.has .normalized = true := Options.has_normalized_of_normalize normal'
  obtain ⟨told, htold⟩ : ∃ told : String → Outcome,
      ∀ s, m.outcome host p ⟨s, pattern, o⟩ = .ok (told s) :=
    Classical.skolem.1 fun s => m.exists_outcome_eq_ok (p := p) (r := ⟨s, pattern, o⟩) (ordinary _ _)
  have htold' : ∀ s, m.outcome host p ⟨s, pattern, o'⟩ = .ok (told s) :=
    fun s => (m.outcome_eq_of_alike alike s).symm.trans (htold s)
  have hcall : ∀ s, m.callFor host p ⟨s, pattern, o'⟩ = m.callFor host p ⟨s, pattern, o⟩ :=
    fun s => (m.callFor_eq_of_alike alike s).symm
  have hlenient : m.filter host listed (.text pattern) lenient = m.keep host (.text pattern) o _ :=
    m.filter_eq_keep (prepare_eq_ok_iff.2 ⟨⟨pattern, rfl⟩, posix, normal, texts⟩)
  have hstrict : m.filter host listed (.text pattern) strict = m.keep host (.text pattern) o' _ :=
    m.filter_eq_keep (prepare_eq_ok_iff.2 ⟨⟨pattern, rfl⟩, posix, normal', texts⟩)
  refine ⟨told, fun s => m.callFor host p ⟨s, pattern, o⟩, fun s => ⟨htold s, htold' s⟩,
    fun s => ⟨rfl, hcall s⟩, ?_, ?_, ?_⟩
  · have calm : ∀ s ∈ subjects, (told s).resolve (o.has .strictErrors) = .ok (told s).isMatch := by
      intro s _
      rw [isLenient, Outcome.resolve_lenient]
    obtain ⟨q, hkeep, hasked⟩ := m.exists_keep_eq_ok posix steady canonical htold calm
    exact ⟨q, by rw [hlenient, hkeep], hasked.calls_eq⟩
  · intro fine
    have calm : ∀ s ∈ subjects, (told s).resolve (o'.has .strictErrors) = .ok (told s).isMatch :=
      fun s hs => Outcome.resolve_of_not_isError (fine s hs) _
    obtain ⟨q, hkeep, hasked⟩ := m.exists_keep_eq_ok posix steady canonical' htold' calm
    simp only [hcall] at hasked
    exact ⟨q, by rw [hstrict, hkeep], hasked.calls_eq⟩
  · rintro before s after rfl fine herror
    have calm : ∀ x ∈ before, (told x).resolve (o'.has .strictErrors) = .ok (told x).isMatch :=
      fun x hx => Outcome.resolve_of_not_isError (fine x hx) _
    obtain ⟨f, hfails, hreported⟩ := Outcome.exists_resolve_strict herror
    rw [← isStrict] at hfails
    obtain ⟨q, hkeep, hasked⟩ := m.exists_keep_eq_error posix steady canonical' htold' after
      calm hfails
    simp only [hcall] at hasked
    exact ⟨f, q, hreported, by rw [hstrict, hkeep], hasked.calls_eq⟩

/-- A host whose shell prints something about `a`, complains about `b`, and is not launched for `c`. -/
def moodyHost : Host Unit where
  windows := false
  currentDirectory := .ok "/work/dir"
  fileExists _ := true
  shell
    | .direct arguments _, s =>
        (if arguments.contains (Command.script "a" "*") then .ok (.streams (.bytes [0x74]) (.bytes []))
          else if arguments.contains (Command.script "b" "*") then
            .ok (.streams (.bytes [0x74]) (.bytes [0x21]))
          else if arguments.contains (Command.script "c" "*") then
            .error (.os ⟨.permission, [.text "Permission denied"]⟩)
          else .ok (.streams (.bytes []) (.bytes [])), s)
    | .launch _ _ _ _, s => (.error (.child (.general [])), s)

theorem isSteady_moodyHost : moodyHost.IsSteady := by
  intro call s t
  cases call <;> rfl

theorem moodyHost_repliesOrdinarily : moodyHost.RepliesOrdinarily := by
  intro call s
  cases call with
  | direct arguments directory =>
      simp only [moodyHost]
      split
      · exact .streams _ _
      · split
        · exact .streams _ _
        · split
          · exact .failure rfl
          · exact .streams _ _
  | launch program arguments directory limit => exact .failure rfl

/-- Of five texts the lenient list keeps the two that match and asks about all; the strict one ends with
the complaint about the second one and asks about two. -/
theorem lists_of_moody_shell :
    (∃ q, filter ⟨.direct, 4⟩ moodyHost
        (.list [.text "a", .text "b", .text "c", .text "d", .text "a"]) (.text "*") .null
        (Memory.fresh ()) = .ok [.text "a", .text "a"] q ∧ q.calls.length = 5) ∧
    ∃ q, filter ⟨.direct, 4⟩ moodyHost
        (.list [.text "a", .text "b", .text "c", .text "d", .text "a"]) (.text "*")
        (.mapping [("strict_errors", .bool true)]) (Memory.fresh ()) =
          .error (.evaluation (.text "!")) q ∧ q.calls.length = 2 := by
  obtain ⟨o, normal⟩ : ∃ o, Options.normalize moodyHost.currentDirectory (.text "*") .null = .ok o :=
    ⟨_, rfl⟩
  obtain ⟨o', normal'⟩ : ∃ o', Options.normalize moodyHost.currentDirectory (.text "*")
      (.mapping [("strict_errors", .bool true)]) = .ok o' := ⟨_, rfl⟩
  have texts : itemsOf (.list [.text "a", .text "b", .text "c", .text "d", .text "a"]) =
      .ok (["a", "b", "c", "d", "a"].map .text) := rfl
  have alike : o.AlikeButPolicy o' := by
    cases normal
    cases normal'
    intro f hf
    cases f with
    | toggle t => cases t <;> rfl
    | byAlias a => cases a <;> rfl
    | strictErrors => exact absurd rfl hf
    | workingDirectory => rfl
    | normalized => rfl
  obtain ⟨-, hlists⟩ := strict_filter_stops_where_lenient_drops ⟨.direct, 4⟩ isSteady_moodyHost
    moodyHost_repliesOrdinarily normal normal' alike (by cases normal; rfl) (by cases normal'; rfl)
    texts (Memory.fresh ())
  obtain ⟨told, asked, htold, -, ⟨q, hq, hcalls⟩, -, hstrict⟩ := hlists rfl
  cases normal
  have ha : told "a" = .matched := Except.ok.inj ((htold "a").1.symm.trans rfl)
  have hb : told "b" = .evaluationError "!" := Except.ok.inj ((htold "b").1.symm.trans rfl)
  have hc : told "c" = .spawnError "Permission denied"
      (some (.os ⟨.permission, [.text "Permission denied"]⟩)) :=
    Except.ok.inj ((htold "c").1.symm.trans rfl)
  have hd : told "d" = .notMatched := Except.ok.inj ((htold "d").1.symm.trans rfl)
  constructor
  · refine ⟨q, ?_, by simp [hcalls]⟩
    rw [hq]
    simp [ha, hb, hc, hd, Outcome.isMatch]
  · obtain ⟨f, r, hreported, hfails, hcalls'⟩ := hstrict ["a"] "b" ["c", "d", "a"] rfl
      (by simp [ha, Outcome.isError]) (by simp [hb, Outcome.isError])
    rw [hb] at hreported
    cases hreported
    exact ⟨r, hfails, by simp [hcalls']⟩

end Matcher

end GlobOracle
