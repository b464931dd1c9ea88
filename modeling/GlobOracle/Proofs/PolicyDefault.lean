import GlobOracle.Proofs.ErrorPolicy
import GlobOracle.Proofs.ToolOptions

/-!
# Where the configured error policy counts

A tool call whose options do not say whether errors are reported gets one more entry with the configured
default.  The entry stands behind all others and has a known key, so it neither hides an unknown one nor
takes anything from the caller: the options fill a record as they would without it, except that the
default of one field is another one (`Tool.get_options_eq`).

From there the value is followed to the answer.  A single match asks for one run, and if the reply is an
ordinary one it fails exactly if the value counts as true and the shell has complained or was not launched,
whoever runs it (`Matcher.isError_hear`).  `Tool.default_counts_only_for_the_silent` is the main result.
-/

namespace GlobOracle

variable {σ : Type} {host : Host σ} {p q : Memory σ}

namespace Tool

/-! ## One more entry -/

variable {entries : List (String × Value)} {strict : Bool} {input : Value} {o : Options}

/-- The options of a call say whether errors are reported. -/
def SpeaksOfPolicy (input : Value) : Prop :=
  ∃ entry ∈ entriesOf input, Field.strictErrors.IsKey entry.1

theorem mentionsPolicy_iff :
    mentionsPolicy entries = true ↔ ∃ entry ∈ entries, Field.strictErrors.IsKey entry.1 := by
  simp [mentionsPolicy, Field.IsKey]

/-- The default has no say in what is rejected. -/
theorem ofEntries_withPolicy_eq_error_iff {g : Failure} :
    Options.ofEntries (withPolicy strict entries) = .error g ↔
      Options.ofEntries entries = .error g := by
  unfold withPolicy
  by_cases hmentions : mentionsPolicy entries = true
  · rw [if_pos hmentions]
  · rw [if_neg hmentions, Options.ofEntries_eq_error_iff, Options.ofEntries_eq_error_iff]
    simp only [Options.isFirstUnknown_concat (Field.strictErrors.name, .bool strict)
      ⟨.strictErrors, Or.inl rfl⟩]

theorem lastFor_strictErrors_withPolicy (strict : Bool) (entries : List (String × Value)) :
    Options.lastFor (withPolicy strict entries) .strictErrors =
      some ((Options.lastFor entries .strictErrors).getD (.bool strict)) := by
  unfold withPolicy
  by_cases hmentions : mentionsPolicy entries = true
  · rw [if_pos hmentions]
    obtain ⟨value, hvalue⟩ := Options.exists_lastFor_iff.2 (mentionsPolicy_iff.1 hmentions)
    rw [hvalue, Option.getD_some]
  · have hnone : Options.lastFor entries .strictErrors = none := by
      rw [Options.lastFor_eq_none_iff]
      intro entry hentry hkey
      exact hmentions (mentionsPolicy_iff.2 ⟨entry, hentry, hkey⟩)
    have hkey : Field.ofKey? Field.strictErrors.name = some .strictErrors := Field.ofKey?_name _
    rw [if_neg hmentions, hnone, Options.lastFor, List.reverse_append]
    simp [hkey]

/-- **The options of a call fill a record as they would anywhere, but the error policy has the configured
default.** -/
theorem get_options_eq (h : options strict input = .ok o) (f : Field) :
    o.get f = (Options.lastFor (entriesOf input) f).getD
      ((Options.defaults.set .strictErrors (.bool strict)).get f) := by
  rw [Options.get_ofEntries (ofEntries_of_options h)]
  by_cases hf : f = .strictErrors
  · subst hf
    rw [lastFor_strictErrors_withPolicy, Option.getD_some, Options.get_set, if_pos rfl]
  · rw [lastFor_withPolicy hf, Options.get_set, if_neg hf]

/-- Two defaults fill records that differ in the error policy at most. -/
theorem alikeButPolicy_of_options {strict' : Bool} {o' : Options} (h : options strict input = .ok o)
    (h' : options strict' input = .ok o') : o.AlikeButPolicy o' := by
  intro f hf
  rw [get_options_eq h, get_options_eq h', Options.get_set, Options.get_set, if_neg hf, if_neg hf]

/-- Who speaks of the policy gets the last word on it, whatever the default is. -/
theorem options_of_speaks {strict' : Bool} {o' : Options} (h : options strict input = .ok o)
    (h' : options strict' input = .ok o') (hspeaks : SpeaksOfPolicy input) :
    o = o' ∧ Options.IsLastFor (entriesOf input) .strictErrors (o.get .strictErrors) := by
  obtain ⟨value, hvalue⟩ := Options.exists_lastFor_iff.2 hspeaks
  have hlast : Options.lastFor (entriesOf input) .strictErrors = some (o.get .strictErrors) := by
    rw [get_options_eq h, hvalue, Option.getD_some]
  refine ⟨Options.ext fun f => ?_, Options.lastFor_eq_some_iff.1 hlast⟩
  by_cases hf : f = .strictErrors
  · rw [hf, get_options_eq h, get_options_eq h', hvalue, Option.getD_some, Option.getD_some]
  · exact alikeButPolicy_of_options h h' f hf

/-- Who does not speak of it gets the default. -/
theorem options_of_silent (h : options strict input = .ok o) (hsilent : ¬SpeaksOfPolicy input) :
    o.get .strictErrors = .bool strict := by
  have hnone : Options.lastFor (entriesOf input) .strictErrors = none := by
    rw [Options.lastFor_eq_none_iff]
    exact fun entry hentry hkey => hsilent ⟨entry, hentry, hkey⟩
  rw [get_options_eq h, hnone, Option.getD_none, Options.get_set, if_pos rfl]

/-- A call is rejected under every default or under none, and always for the same reason. -/
theorem options_rejected_or_ok (input : Value) :
    (∃ why, ∀ strict, options strict input = .error (.rejected why)) ∨
      ∀ strict, ∃ o, options strict input = .ok o := by
  have hentries : ∀ entries,
      (∃ why, ∀ strict, Options.ofEntries (withPolicy strict entries) = .error (.rejected why)) ∨
        ∀ strict, ∃ o, Options.ofEntries (withPolicy strict entries) = .ok o := by
    intro entries
    cases hplain : Options.ofEntries entries with
    | error g =>
        obtain ⟨key, -, rfl⟩ := Options.ofEntries_eq_error_iff.1 hplain
        exact Or.inl ⟨.unknownOption key, fun strict => ofEntries_withPolicy_eq_error_iff.2 hplain⟩
    | ok plain =>
        refine Or.inr fun strict => ?_
        cases hfilled : Options.ofEntries (withPolicy strict entries) with
        | ok o => exact ⟨o, rfl⟩
        | error g =>
            rw [ofEntries_withPolicy_eq_error_iff, hplain] at hfilled
            cases hfilled
  cases input with
  | null => exact hentries []
  | mapping entries => exact hentries entries
  | _ => exact Or.inl ⟨.notAnObject, fun _ => rfl⟩

end Tool

/-! ## From the policy to the answer -/

/-- A reply that is classified as an error: the shell has complained, or it was not launched. -/
def Reply.IsError (reply : Except Failure Reply) : Prop :=
  ∃ outcome, Matcher.judge reply = .ok outcome ∧ outcome.isError = true

/-- A policy makes a failure of an outcome exactly if it is strict and the outcome is an error. -/
theorem Outcome.exists_resolve_eq_error_iff (outcome : Outcome) (strict : Bool) :
    (∃ f, outcome.resolve strict = .error f) ↔ strict = true ∧ outcome.isError = true := by
  cases outcome <;> cases strict <;> simp [resolve, isError]

/-- A policy fails with a complaint or with a failure of a launch. -/
theorem Outcome.of_resolve_eq_error {outcome : Outcome} {strict : Bool} {f : Failure}
    (h : outcome.resolve strict = .error f) :
    (∃ complaint, f = .evaluation (.text complaint)) ∨ f.isLaunch = true := by
  obtain ⟨rfl, herror⟩ := (outcome.exists_resolve_eq_error_iff strict).1 ⟨f, h⟩
  obtain ⟨g, hg, hreported⟩ := Outcome.exists_resolve_strict herror
  obtain rfl := Except.error.inj (h.symm.trans hg)
  cases hreported with
  | complaint complaint => exact Or.inl ⟨complaint, rfl⟩
  | launch message cause =>
      refine Or.inr ?_
      unfold Outcome.launchFailure
      split <;> rfl

/-- Whoever runs the shell, an ordinary reply is an error after it has come through exactly if it was one
before. -/
theorem Matcher.isError_hear (executor : Executor) {reply : Except Failure Reply}
    (ordinary : Reply.IsOrdinary reply) {outcome : Outcome}
    (h : judge (executor.hear host p reply) = .ok outcome) :
    outcome.isError = true ↔ Reply.IsError reply := by
  cases ordinary with
  | streams output errors =>
      rw [executor.hear_bytes] at h
      simp [Reply.IsError, h]
  | failure hlaunch =>
      obtain ⟨g, hg, hlaunch'⟩ := executor.exists_hear_eq_error host p hlaunch
      rw [hg, judge, if_pos hlaunch'] at h
      cases h
      exact ⟨fun _ => ⟨_, if_pos hlaunch, rfl⟩, fun _ => rfl⟩

/-- A match of two texts whose options can be made canonical asks for the run of its request, and answers
what this comes to. -/
theorem Matcher.exists_test_eq_verdict (m : Matcher) (posix : host.windows = false) {options : Value}
    {pattern : String} {o : Options}
    (normal : Options.normalize host.currentDirectory (.text pattern) options = .ok o)
    (subject : String) (p : Memory σ) :
    ∃ q, m.test host (.text subject) (.text pattern) options p =
        Action.ofExcept (m.verdict host p ⟨subject, pattern, o⟩) q ∧
      q.calls = p.calls ++ [m.callFor host p ⟨subject, pattern, o⟩] := by
  have hrequest : request host (.text subject) (.text pattern) options =
      .ok ⟨subject, pattern, o⟩ := by
    rw [request_text, normal]
    rfl
  obtain ⟨q, hq, hasked⟩ := m.exists_test_eq posix (.text subject) (.text pattern) options p
  rw [hrequest] at hq
  exact ⟨q, hq, by rw [hasked.calls_eq, callsOf, hrequest]⟩

/-- **A request fails exactly if it is strict and the reply to its call is an error**, if the reply is
ordinary, and then with a complaint or with a failure of a launch. -/
theorem Matcher.verdict_fails_as_policy_says (m : Matcher) {r : Request}
    (ordinary : Reply.IsOrdinary (host.shell (m.callFor host p r) p.shell).1) :
    ((∃ f, m.verdict host p r = .error f) ↔
      r.options.has .strictErrors = true ∧
        Reply.IsError (host.shell (m.callFor host p r) p.shell).1) ∧
    ∀ f, m.verdict host p r = .error f →
      (∃ complaint, f = .evaluation (.text complaint)) ∨ f.isLaunch = true := by
  obtain ⟨outcome, houtcome⟩ := m.exists_outcome_eq_ok ordinary
  have hverdict : m.verdict host p r = outcome.resolve (r.options.has .strictErrors) := by
    rw [verdict, houtcome]
    rfl
  have herror : outcome.isError = true ↔ Reply.IsError (host.shell (m.callFor host p r) p.shell).1 :=
    isError_hear m.executor ordinary houtcome
  rw [hverdict, outcome.exists_resolve_eq_error_iff, herror]
  exact ⟨Iff.rfl, fun f => Outcome.of_resolve_eq_error⟩

namespace Tool

/-- **The configured default counts only for a caller that is silent.**  Whatever the options are, two
defaults reject them for the same reason, or fill two records that differ in the error policy at most.  If
the options say whether errors are reported, in either spelling, anywhere and with any value, the two
records are the same, and the policy is the value of the last entry that says so.  Otherwise it is the
default.

A single match of two texts then asks for one run.  If the reply to it is ordinary, the match fails exactly if
that policy counts as true and the reply is an error; and it fails with the complaint, or with the failure of
the launch. -/
theorem default_counts_only_for_the_silent (strict strict' : Bool) (input : Value) :
    ((∃ why, options strict input = .error (.rejected why) ∧
        options strict' input = .error (.rejected why)) ∨
      ∃ o o', options strict input = .ok o ∧ options strict' input = .ok o' ∧
        o.AlikeButPolicy o' ∧
        (SpeaksOfPolicy input →
          o = o' ∧ Options.IsLastFor (entriesOf input) .strictErrors (o.get .strictErrors)) ∧
        (¬SpeaksOfPolicy input →
          o.get .strictErrors = .bool strict ∧ o'.get .strictErrors = .bool strict')) ∧
    ∀ (m : Matcher) (host : Host σ) (directory subject pattern : String) (o : Options) (p : Memory σ),
      options strict input = .ok o → host.windows = false → host.currentDirectory = .ok directory →
      ∃ call answer q,
        matchOne m strict host (.text subject) (.text pattern) input p = Action.ofExcept answer q ∧
        q.calls = p.calls ++ [call] ∧
        (Reply.IsOrdinary (host.shell call p.shell).1 →
          ((∃ f, answer = .error f) ↔
            o.has .strictErrors = true ∧ Reply.IsError (host.shell call p.shell).1) ∧
          ∀ f, answer = .error f →
            (∃ complaint, f = .evaluation (.text complaint)) ∨ f.isLaunch = true) := by
  constructor
  · rcases options_rejected_or_ok input with ⟨why, hwhy⟩ | haccepted
    · exact Or.inl ⟨why, hwhy strict, hwhy strict'⟩
    · obtain ⟨o, ho⟩ := haccepted strict
      obtain ⟨o', ho'⟩ := haccepted strict'
      exact Or.inr ⟨o, o', ho, ho', alikeButPolicy_of_options ho ho', options_of_speaks ho ho',
        fun hsilent => ⟨options_of_silent ho hsilent, options_of_silent ho' hsilent⟩⟩
  · intro m host directory subject pattern o p accepted posix hdirectory
    have hcoerce : Options.coerce o.value = .ok o := rfl
    obtain ⟨r, hnormal⟩ := Options.exists_normalize_eq_ok hdirectory pattern hcoerce
    have hpolicy : r.has .strictErrors = o.has .strictErrors :=
      Options.has_strictErrors_of_normalize hcoerce hnormal
    obtain ⟨q, hq, hcalls⟩ := m.exists_test_eq_verdict posix hnormal subject p
    refine ⟨_, m.verdict host p ⟨subject, pattern, r⟩, q, ?_, hcalls, fun ordinary => ?_⟩
    · rw [matchOne, accepted, Action.ofExcept_ok_bind]
      exact hq
    · rw [← hpolicy]
      exact m.verdict_fails_as_policy_says ordinary

/-- A host whose shell complains about everything. -/
def scoldingHost : Host Unit where
  windows := false
  currentDirectory := .ok "/work/dir"
  fileExists _ := true
  shell _ s := (.ok (.streams (.bytes [0x74]) (.bytes [0x21])), s)

/-- A caller who says in both ways whether errors are reported gets the later word, though it is no value,
and an answer from a shell that complains.  A caller who says nothing fails if that is the default. -/
theorem last_word_and_silence :
    (∃ o, options true (.mapping [("strict_errors", .bool true), ("strictErrors", .null)]) = .ok o ∧
      options false (.mapping [("strict_errors", .bool true), ("strictErrors", .null)]) = .ok o ∧
      o.get .strictErrors = .null ∧
      ∃ matched q, matchOne ⟨.client ⟨none, none⟩, 4⟩ true scoldingHost (.text "a") (.text "*")
        (.mapping [("strict_errors", .bool true), ("strictErrors", .null)]) (Memory.fresh ()) =
          .ok matched q) ∧
    ∃ f q, matchOne ⟨.client ⟨none, none⟩, 4⟩ true scoldingHost (.text "a") (.text "*") .null
      (Memory.fresh ()) = .error f q := by
  constructor
  · obtain ⟨hrecords, hmatch⟩ := default_counts_only_for_the_silent true false
      (.mapping [("strict_errors", .bool true), ("strictErrors", .null)])
    rcases hrecords with ⟨why, hwhy, -⟩ | ⟨o, o', ho, ho', -, hspeaks, -⟩
    · cases hwhy
    · obtain ⟨rfl, -⟩ := hspeaks ⟨_, List.mem_cons_self, Or.inl rfl⟩
      have hnull : o.get .strictErrors = .null := by rw [get_options_eq ho]; rfl
      obtain ⟨call, answer, q, hq, -, hordinary⟩ :=
        hmatch ⟨.client ⟨none, none⟩, 4⟩ scoldingHost "/work/dir" "a" "*" o (Memory.fresh ()) ho
          rfl rfl
      obtain ⟨hfails, -⟩ := hordinary (.streams _ _)
      refine ⟨o, ho, ho', hnull, ?_⟩
      cases answer with
      | ok matched => exact ⟨matched, q, hq⟩
      | error f =>
          have hstrict := (hfails.1 ⟨f, rfl⟩).1
          rw [Options.has, hnull] at hstrict
          cases hstrict
  · obtain ⟨o, ho⟩ : ∃ o, options true .null = .ok o := ⟨_, rfl⟩
    obtain ⟨call, answer, q, hq, -, hordinary⟩ :=
      (default_counts_only_for_the_silent true false .null).2 ⟨.client ⟨none, none⟩, 4⟩ scoldingHost
        "/work/dir" "a" "*" o (Memory.fresh ()) ho rfl rfl
    obtain ⟨hfails, -⟩ := hordinary (.streams _ _)
    have hstrict : o.has .strictErrors = true := by rw [Options.has, get_options_eq ho]; rfl
    obtain ⟨f, rfl⟩ := hfails.2 ⟨hstrict, .evaluationError "!", rfl, rfl⟩
    exact ⟨f, q, hq⟩

end Tool

end GlobOracle
