import GlobOracle.Tool
import GlobOracle.Proofs.Canonical
import GlobOracle.Proofs.SingleMatch

/-!
# What a lenient match lets through

A lenient match answers no where a strict one fails.  `lenient_match_contains_failures` says how far this
goes: on a host where runs of the shell print bytes or fail as launches do, a lenient match of two texts
always answers, with one exception.  A record that names no directory makes the program ask for the current
one before the error policy has a say, and if the host cannot tell it, that failure goes through.
-/

namespace GlobOracle

variable {σ : Type} {host : Host σ} {p : Memory σ}

/-- A reply of the ordinary kind: bytes on both streams, or a failure of the launch. -/
inductive Reply.IsOrdinary : Except Failure Reply → Prop
  | streams (output errors : List UInt8) : IsOrdinary (.ok (.streams (.bytes output) (.bytes errors)))
  | failure {f : Failure} : f.isLaunchFailure = true → IsOrdinary (.error f)

/-- A host on which every run of the shell replies in the ordinary way. -/
def Host.RepliesOrdinarily (host : Host σ) : Prop :=
  ∀ c s, Reply.IsOrdinary (host.shell c s).1

/-- The directory of a record is asked for, and the host cannot tell it. -/
def Host.LacksDirectory (host : Host σ) (o : Options) : Prop :=
  o.has .normalized = false ∧ o.has .workingDirectory = false ∧
    ∃ e, host.currentDirectory = .error e

/-- An action lets nothing through but the lack of a directory: it answers exactly if the directory is not
lacking, and otherwise it fails with what the host says, before anything is done. -/
structure Host.Contains (host : Host σ) (o : Options) (p : Memory σ) (action : Action σ Bool) :
    Prop where
  answers_iff : (∃ matched q, action p = .ok matched q) ↔ ¬ host.LacksDirectory o
  fails_only : ∀ f q, action p = .error f q →
    ∃ e, host.currentDirectory = .error e ∧ f = .os e ∧ q = p

/-! ## Ordinary replies have an outcome -/

theorem Client.isLaunchFailure_tell (client : Client) (program : Executable) {f : Failure}
    (h : f.isLaunchFailure = true) : (client.tell program f).isLaunchFailure = true := by
  unfold tell
  split
  · rfl
  · rfl
  · exact h

theorem Client.orNoBytes_bytes (bs : List UInt8) : orNoBytes (.bytes bs) = .bytes bs := by
  cases bs <;> rfl

/-- Bytes come through an executor as they are. -/
theorem Executor.hear_bytes (executor : Executor) (output errors : List UInt8) :
    executor.hear host p (.ok (.streams (.bytes output) (.bytes errors))) =
      .ok (.streams (.bytes output) (.bytes errors)) := by
  cases executor with
  | direct => rfl
  | client c =>
      show Except.ok (Reply.streams (Client.orNoBytes _) (Client.orNoBytes _)) = _
      rw [Client.orNoBytes_bytes, Client.orNoBytes_bytes]

/-- A failure of a launch comes through an executor as one. -/
theorem Executor.exists_hear_eq_error (executor : Executor) (host : Host σ) (p : Memory σ)
    {f : Failure} (h : f.isLaunchFailure = true) :
    ∃ g, executor.hear host p (.error f) = .error g ∧ g.isLaunchFailure = true := by
  cases executor with
  | direct => exact ⟨f, rfl, h⟩
  | client c => exact ⟨_, rfl, c.isLaunchFailure_tell _ h⟩

/-- What an executor makes of an ordinary reply is ordinary again. -/
theorem Executor.isOrdinary_hear (executor : Executor) {reply : Except Failure Reply}
    (h : Reply.IsOrdinary reply) : Reply.IsOrdinary (executor.hear host p reply) := by
  cases h with
  | streams output errors =>
      rw [executor.hear_bytes]
      exact .streams output errors
  | failure hlaunch =>
      obtain ⟨g, hg, hlaunch'⟩ := executor.exists_hear_eq_error host p hlaunch
      rw [hg]
      exact .failure hlaunch'

/-- Bytes always have an outcome, and it is told by their texts. -/
theorem Outcome.classify_bytes (output errors : List UInt8) :
    classify (.streams (.bytes output) (.bytes errors)) =
      .ok (if (String.ofList (Text.trim (Text.Utf8.decode errors))).isEmpty then
          if (String.ofList (Text.trim (Text.Utf8.decode output))).isEmpty then notMatched else matched
        else evaluationError (String.ofList (Text.trim (Text.Utf8.decode errors)))) := by
  show (if (!(String.ofList (Text.trim (Text.Utf8.decode errors))).isEmpty) = true
    then Except.ok (evaluationError _) else Except.ok (if _ then notMatched else matched)) = _
  cases (String.ofList (Text.trim (Text.Utf8.decode errors))).isEmpty <;> rfl

/-- Bytes can always be told apart, and a failed launch is an outcome of its own. -/
theorem Matcher.exists_judge_eq_ok {reply : Except Failure Reply} (h : Reply.IsOrdinary reply) :
    ∃ outcome, judge reply = .ok outcome := by
  cases h with
  | streams output errors => exact ⟨_, Outcome.classify_bytes output errors⟩
  | failure hlaunch => exact ⟨_, if_pos hlaunch⟩

/-- Without strictness every outcome has an answer. -/
theorem Outcome.exists_resolve_lenient (outcome : Outcome) :
    ∃ matched, outcome.resolve false = .ok matched := by
  cases outcome <;> exact ⟨_, rfl⟩

/-- A request whose call is replied to in the ordinary way has an outcome. -/
theorem Matcher.exists_outcome_eq_ok (m : Matcher) {r : Request}
    (ordinary : Reply.IsOrdinary (host.shell (m.callFor host p r) p.shell).1) :
    ∃ outcome, m.outcome host p r = .ok outcome :=
  exists_judge_eq_ok (m.executor.isOrdinary_hear ordinary)

/-- A lenient request for an ordinary host has an answer. -/
theorem Matcher.exists_verdict_eq_ok (m : Matcher) (ordinary : host.RepliesOrdinarily) {r : Request}
    (lenient : r.options.has .strictErrors = false) : ∃ matched, m.verdict host p r = .ok matched := by
  obtain ⟨outcome, houtcome⟩ := m.exists_outcome_eq_ok (p := p) (r := r) (ordinary _ _)
  obtain ⟨matched, hmatched⟩ := outcome.exists_resolve_lenient
  refine ⟨matched, ?_⟩
  rw [verdict, houtcome, lenient]
  exact hmatched

/-! ## A lenient match -/

theorem Matcher.contains_test (m : Matcher) (posix : host.windows = false)
    (ordinary : host.RepliesOrdinarily) {options : Value} {o : Options}
    (accepted : Options.coerce options = .ok o) (lenient : o.has .strictErrors = false)
    (subject pattern : String) (p : Memory σ) :
    host.Contains o p (m.test host (.text subject) (.text pattern) options) := by
  cases hnormal : Options.normalize host.currentDirectory (.text pattern) options with
  | ok r =>
      have hrequest : request host (.text subject) (.text pattern) options =
          .ok ⟨subject, pattern, r⟩ := by
        rw [request_text, hnormal]
        rfl
      have hlenient : r.has .strictErrors = false :=
        (Options.has_strictErrors_of_normalize accepted hnormal).trans lenient
      obtain ⟨matched, hmatched⟩ :=
        m.exists_verdict_eq_ok (p := p) (r := ⟨subject, pattern, r⟩) ordinary hlenient
      obtain ⟨q, hq, -⟩ := m.exists_test_eq posix (.text subject) (.text pattern) options p
      have hanswer : m.test host (.text subject) (.text pattern) options p = .ok matched q := by
        rw [hq, hrequest]
        show Action.ofExcept (m.verdict host p ⟨subject, pattern, r⟩) q = _
        rw [hmatched]
        rfl
      constructor
      · refine ⟨?_, fun _ => ⟨matched, q, hanswer⟩⟩
        rintro - ⟨hmark, hdirectory, e, he⟩
        have hlacking := (Options.normalize_eq_error_iff pattern accepted).2
          ⟨hmark, hdirectory, e, he, rfl⟩
        rw [hnormal] at hlacking
        cases hlacking
      · intro f s hfails
        rw [hanswer] at hfails
        cases hfails
  | error f =>
      obtain ⟨hmark, hdirectory, e, he, rfl⟩ :=
        (Options.normalize_eq_error_iff pattern accepted).1 hnormal
      have hrequest : request host (.text subject) (.text pattern) options = .error (.os e) := by
        rw [request_text, hnormal]
        rfl
      have hfails := m.test_of_request_error hrequest p
      constructor
      · constructor
        · rintro ⟨matched, q, hanswer⟩
          rw [hfails] at hanswer
          cases hanswer
        · exact fun hnot => absurd ⟨hmark, hdirectory, e, he⟩ hnot
      · intro g q hg
        rw [hfails] at hg
        cases hg
        exact ⟨e, he, rfl, rfl⟩

/-- **A lenient match answers unless it lacks a directory.**  Whatever the options are, if they are accepted
and not strict, a match of two texts answers exactly if its record is marked, or names a directory, or the
host can tell the current one; and so does the tool for a single match, whatever its default.  Otherwise
the match fails with what the host says, and nothing has been done. -/
theorem lenient_match_contains_failures (m : Matcher) (posix : host.windows = false)
    (ordinary : host.RepliesOrdinarily) (subject pattern : String) (p : Memory σ) :
    (∀ options o, Options.coerce options = .ok o → o.has .strictErrors = false →
      host.Contains o p (m.test host (.text subject) (.text pattern) options)) ∧
    (∀ strict input o, Tool.options strict input = .ok o → o.has .strictErrors = false →
      host.Contains o p (Tool.matchOne m strict host (.text subject) (.text pattern) input)) := by
  constructor
  · intro options o accepted lenient
    exact m.contains_test posix ordinary accepted lenient subject pattern p
  · intro strict input o accepted lenient
    rw [Tool.matchOne, accepted, Action.ofExcept_ok_bind]
    exact m.contains_test posix ordinary rfl lenient subject pattern p

/-- A host that cannot tell the current directory and launches nothing. -/
def strandedHost : Host Unit where
  windows := false
  currentDirectory := .error ⟨.fileNotFound, [.int 2, .text "No such file or directory"]⟩
  fileExists _ := false
  shell _ s := (.error (.os ⟨.permission, [.int 13, .text "Permission denied"]⟩), s)

theorem strandedHost_repliesOrdinarily : strandedHost.RepliesOrdinarily :=
  fun _ _ => .failure rfl

/-- Where a directory is named, even a host that launches nothing leaves a lenient match with an answer. -/
theorem stranded_match_answers_with_directory :
    ∃ matched q, Matcher.test ⟨.client ⟨none, none⟩, 4⟩ strandedHost (.text "foo") (.text "f*")
      (.mapping [("cwd", .text "/tmp")]) (Memory.fresh ()) = .ok matched q := by
  have hcontained := (lenient_match_contains_failures ⟨.client ⟨none, none⟩, 4⟩ rfl
    strandedHost_repliesOrdinarily "foo" "f*" (Memory.fresh ())).1
    (.mapping [("cwd", .text "/tmp")]) _ rfl rfl
  refine hcontained.answers_iff.2 ?_
  rintro ⟨-, hdirectory, -⟩
  cases hdirectory

/-- **Lenience does not contain every failure**: without a directory the match fails with what the host
says, though its options are accepted and lenient. -/
theorem stranded_match_fails :
    Options.coerce .null = .ok Options.defaults ∧
    Options.defaults.has .strictErrors = false ∧
    strandedHost.windows = false ∧ strandedHost.RepliesOrdinarily ∧
    Matcher.test ⟨.direct, 4⟩ strandedHost (.text "foo") (.text "foo") .null (Memory.fresh ()) =
      .error (.os ⟨.fileNotFound, [.int 2, .text "No such file or directory"]⟩) (Memory.fresh ()) :=
  ⟨rfl, rfl, rfl, strandedHost_repliesOrdinarily, rfl⟩

end GlobOracle
