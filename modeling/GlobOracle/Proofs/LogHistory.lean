import GlobOracle.Proofs.RootLogger
import Mathlib.Data.List.Basic
import Mathlib.Data.List.Induction

/-!
# A root logger through its history

A root logger is configured, logs records and is reset, in any order and any number of times
(`RootLogger.Step`).  The history decides how many handlers it has: one if it has been configured since the
last reset, even by a configuration that has failed, and otherwise none (`handlers_run`).  Once there is
a handler, the logger is fixed until it is reset: configurations return and change nothing, and what is
written is a line for each record that reaches the level, in order (`RootLogger.IsFixedThrough`).

Both are proved from what a single step does, by an induction over the steps: over the last step for the
handlers, which depend on what has come last, and over the first step for what is written.
-/

namespace GlobOracle.RootLogger

/-! ## Steps -/

/-- What can be done with a root logger. -/
inductive Step where
  /-- It is configured.  A level is configured, and one may be asked for. -/
  | configure (configured : String) (level : Value)
  /-- A record is logged. -/
  | log (record : LogRecord)
  /-- The handlers are taken off, and a level is put back. -/
  | reset (level : Int)

/-- The logger after a step. -/
def step (r : RootLogger) : Step → RootLogger
  | .configure configured level => r.after (configured, level)
  | .log _ => r
  | .reset level => ⟨0, level⟩

/-- What is written in a step. -/
def output (r : RootLogger) : Step → String
  | .log record => r.written record
  | .configure _ _ => ""
  | .reset _ => ""

/-- The logger after some steps, one after another. -/
def run (r : RootLogger) (steps : List Step) : RootLogger := steps.foldl step r

/-- What is written in some steps, one after another. -/
def transcript (r : RootLogger) : List Step → String
  | [] => ""
  | s :: steps => r.output s ++ (r.step s).transcript steps

/-- The records that are logged in some steps. -/
def records (steps : List Step) : List LogRecord :=
  steps.filterMap fun
    | .log record => some record
    | _ => none

/-- None of some steps is a reset. -/
def NeverReset (steps : List Step) : Prop := ∀ level, Step.reset level ∉ steps

/-- A configuration is among some steps, and no reset comes behind it. -/
def IsConfigured (steps : List Step) : Prop :=
  ∃ before configured level later,
    steps = before ++ Step.configure configured level :: later ∧ NeverReset later

variable {r : RootLogger} {past stretch : List Step}

theorem run_concat (r : RootLogger) (past : List Step) (s : Step) :
    r.run (past ++ [s]) = (r.run past).step s := by
  rw [run, List.foldl_append]
  rfl

/-! ## How many handlers there are -/

/-- Behind a configuration there is a handler, however it has ended. -/
theorem handlers_after (r : RootLogger) (call : String × Value) :
    (r.after call).handlers = max 1 r.handlers := by
  have hends := configures_configure call.1 call.2 r
  rw [after]
  generalize configure call.1 call.2 r = result at hends ⊢
  cases hends with
  | kept hhandlers =>
    dsimp only
    omega
  | set hnone => simp [hnone]
  | refused hnone => simp [hnone]

theorem not_isConfigured_nil : ¬IsConfigured [] := by
  rintro ⟨before, configured, level, later, heq, -⟩
  simp at heq

/-- The last step tells whether the logger is configured, or else those before it do. -/
theorem isConfigured_concat_iff {s : Step} :
    IsConfigured (past ++ [s]) ↔
      (∃ configured level, s = .configure configured level) ∨
        (∀ level, s ≠ .reset level) ∧ IsConfigured past := by
  constructor
  · rintro ⟨before, configured, level, later, heq, hlater⟩
    -- The configuration is the last step itself, or the last step comes behind it.
    rcases List.eq_nil_or_concat' later with rfl | ⟨later, t, rfl⟩
    · obtain ⟨-, hs⟩ := List.append_inj' heq rfl
      exact .inl ⟨configured, level, List.singleton_inj.1 hs⟩
    · have heq' : past ++ [s] = (before ++ .configure configured level :: later) ++ [t] := by
        simpa using heq
      obtain ⟨rfl, hs⟩ := List.append_inj' heq' rfl
      obtain rfl := List.singleton_inj.1 hs
      refine .inr ⟨?_, before, configured, level, later, rfl, ?_⟩
      · rintro level rfl
        exact hlater level (by simp)
      · intro level hmem
        exact hlater level (List.mem_append_left _ hmem)
  · rintro (⟨configured, level, rfl⟩ | ⟨hs, before, configured, level, later, rfl, hlater⟩)
    · exact ⟨past, configured, level, [], rfl, fun _ => List.not_mem_nil⟩
    · refine ⟨before, configured, level, later ++ [s], by simp, ?_⟩
      intro level hmem
      rcases List.mem_append.1 hmem with hmem | hmem
      · exact hlater level hmem
      · exact hs level (List.mem_singleton.1 hmem).symm

/-- **A logger that starts without handlers** has one if it has been configured since the last reset, and
otherwise none. -/
theorem handlers_run (h : r.handlers = 0) (past : List Step) :
    (r.run past).handlers = 1 ∧ IsConfigured past ∨
      (r.run past).handlers = 0 ∧ ¬IsConfigured past := by
  induction past using List.reverseRecOn with
  | nil => exact .inr ⟨h, not_isConfigured_nil⟩
  | append_singleton past s ih =>
    rw [run_concat, isConfigured_concat_iff]
    cases s with
    | configure configured level =>
      have hafter := handlers_after (r.run past) (configured, level)
      refine .inl ⟨?_, .inl ⟨configured, level, rfl⟩⟩
      rw [step, hafter]
      omega
    | log record => simpa [step] using ih
    | reset level => exact .inr ⟨rfl, by simp⟩

/-! ## Once there is a handler -/

namespace NeverReset

variable {s : Step}

theorem head (h : NeverReset (s :: stretch)) (level : Int) : s ≠ .reset level :=
  fun heq => h level (heq ▸ List.mem_cons_self)

theorem tail (h : NeverReset (s :: stretch)) : NeverReset stretch :=
  fun level hmem => h level (List.mem_cons_of_mem s hmem)

end NeverReset

/-- A logger that has a handler is left as it is by every step but a reset. -/
theorem step_of_handlers (h : r.handlers ≠ 0) {s : Step} (hs : ∀ level, s ≠ .reset level) :
    r.step s = r := by
  cases s with
  | configure configured level => exact after_of_handlers h (configured, level)
  | log record => rfl
  | reset level => exact absurd rfl (hs level)

theorem run_of_handlers (h : r.handlers ≠ 0) (hstretch : NeverReset stretch) :
    r.run stretch = r := by
  induction stretch with
  | nil => rfl
  | cons s stretch ih =>
    show (r.step s).run stretch = r
    rw [step_of_handlers h hstretch.head, ih hstretch.tail]

/-- A record reaches a logger: its level is positive, and not below that of the logger. -/
def Reaches (record : LogRecord) (r : RootLogger) : Prop := 0 < record.level ∧ r.level ≤ record.level

instance (record : LogRecord) (r : RootLogger) : Decidable (Reaches record r) :=
  inferInstanceAs (Decidable (_ ∧ _))

/-- One handler writes a record that reaches the logger once, and no other one. -/
theorem written_of_one_handler (h : r.handlers = 1) (record : LogRecord) :
    r.written record = if Reaches record r then line record else "" := by
  by_cases hreaches : Reaches record r
  · have hpasses : r.passes record = true := by simpa [passes, Reaches] using hreaches
    simp [written, hpasses, h, hreaches]
  · have hpasses : r.passes record = false := by
      rw [← Bool.not_eq_true]
      simpa [passes, Reaches] using hreaches
    simp [written, hpasses, hreaches]

/-- **What one handler writes** in some steps without a reset: a line for each record that reaches the
logger, in order. -/
theorem transcript_of_one_handler (h : r.handlers = 1) (hstretch : NeverReset stretch) :
    r.transcript stretch =
      String.join (((records stretch).filter fun record => Reaches record r).map line) := by
  induction stretch with
  | nil => rfl
  | cons s stretch ih =>
    have hstep : r.step s = r := step_of_handlers (by omega) hstretch.head
    rw [transcript, hstep, ih hstretch.tail]
    cases s with
    | configure configured level => simp [output, records]
    | log record =>
      rw [output, written_of_one_handler h]
      by_cases hreaches : Reaches record r <;> simp [records, hreaches]
    | reset level => simp [output, records]

/-! ## The whole history -/

/-- A logger is fixed through some steps. -/
structure IsFixedThrough (r : RootLogger) (stretch : List Step) : Prop where
  /-- It has the handlers and the level that it had. -/
  kept : r.run stretch = r
  /-- A configuration that comes next returns and changes nothing, whatever its level. -/
  configured_again : ∀ configured level, configure configured level (r.run stretch) = .ok () r
  /-- Each record that reaches it is written once, and no other one. -/
  written : r.transcript stretch =
    String.join (((records stretch).filter fun record => Reaches record r).map line)

/-- **A root logger is configured once until it is reset.**  It never has more than one handler, whatever
configurations have been tried, and it has one exactly if there has been a configuration since the last
reset.  From then on it is fixed until the next reset: every further configuration returns and changes
neither handlers nor level, and each record that reaches the level is written once. -/
theorem configured_once_until_reset (start : RootLogger) (hstart : start.handlers = 0)
    (past : List Step) :
    ((start.run past).handlers = 0 ∨ (start.run past).handlers = 1) ∧
    ((start.run past).handlers = 1 ↔ IsConfigured past) ∧
    ((start.run past).handlers = 1 →
      ∀ stretch, NeverReset stretch → (start.run past).IsFixedThrough stretch) := by
  have hhandlers := handlers_run hstart past
  refine ⟨?_, ?_, fun hone stretch hstretch => ?_⟩
  · exact hhandlers.symm.imp And.left And.left
  · rcases hhandlers with ⟨hone, hconfigured⟩ | ⟨hnone, hnot⟩
    · exact iff_of_true hone hconfigured
    · exact iff_of_false (by omega) hnot
  · have hattached : (start.run past).handlers ≠ 0 := by omega
    have hkept := run_of_handlers hattached hstretch
    refine ⟨hkept, fun configured level => ?_, transcript_of_one_handler hone hstretch⟩
    rw [hkept, configure_of_handlers hattached]

/-- A configuration that fails, a reset, and two that return leave one handler, at the level of the first
one that found none: a record below that level is not written, and one at the level once. -/
theorem started_is_written_once :
    (initial.run [.configure "WARNING" (.text "LOUD"), .reset 30,
        .configure "WARNING" (.text "INFO")]).transcript
      [.configure "WARNING" (.text "DEBUG"), .log ⟨10, "jobs", "idle"⟩, .log ⟨20, "jobs", "started"⟩] =
      "INFO jobs: started\n" := by
  obtain ⟨-, -, hfixed⟩ := configured_once_until_reset initial rfl
    [.configure "WARNING" (.text "LOUD"), .reset 30, .configure "WARNING" (.text "INFO")]
  rw [(hfixed rfl [.configure "WARNING" (.text "DEBUG"), .log ⟨10, "jobs", "idle"⟩,
    .log ⟨20, "jobs", "started"⟩] (by intro level; simp)).written]
  decide

end GlobOracle.RootLogger
