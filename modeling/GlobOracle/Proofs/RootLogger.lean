import GlobOracle.Logging

/-!
# How a configuration of the root logger ends

A configuration can end in three ways (`RootLogger.Configures`).  A logger that has a handler is left as
it is.  One that has none gets a handler, and then the level that was chosen; and if no level can be told,
the configuration fails, and the handler stays.

So a failed configuration does not leave the logger as it was, and it is the last one that does anything:
because of the handler that it leaves behind, no later one looks at its level
(`failed_configuration_is_final`).
-/

namespace GlobOracle.RootLogger

/-! ## One configuration -/

/-- How a configuration of a logger can end. -/
inductive Configures (configured : String) (level : Value) (r : RootLogger) :
    EStateM.Result Failure RootLogger Unit → Prop
  | kept : r.handlers ≠ 0 → Configures configured level r (.ok () r)
  | set {chosen : Int} : r.handlers = 0 →
      LogLevel.ofValue (chosenLevel configured level) = .ok chosen →
      Configures configured level r (.ok () ⟨1, chosen⟩)
  | refused {f : Failure} : r.handlers = 0 →
      LogLevel.ofValue (chosenLevel configured level) = .error f →
      Configures configured level r (.error f ⟨1, r.level⟩)

variable {r : RootLogger}

theorem configure_of_handlers (h : r.handlers ≠ 0) (configured : String) (level : Value) :
    configure configured level r = .ok () r := by
  have hskip : (r.handlers != 0) = true := bne_iff_ne.2 h
  show (if (r.handlers != 0) = true then _ else _ : EStateM Failure RootLogger Unit) r = _
  rw [if_pos hskip]
  rfl

/-- A logger without handlers gets one in any case, and the chosen level if there is such a level. -/
theorem configure_of_no_handlers (configured : String) (level : Value) (current : Int) :
    configure configured level ⟨0, current⟩ =
      match LogLevel.ofValue (chosenLevel configured level) with
      | .ok chosen => .ok () ⟨1, chosen⟩
      | .error f => .error f ⟨1, current⟩ := by
  cases h : LogLevel.ofValue (chosenLevel configured level) <;> simp [configure, h] <;> rfl

/-- **Every configuration ends in one of the three ways.** -/
theorem configures_configure (configured : String) (level : Value) (r : RootLogger) :
    Configures configured level r (configure configured level r) := by
  by_cases hhandlers : r.handlers = 0
  · obtain ⟨handlers, current⟩ := r
    obtain rfl : handlers = 0 := hhandlers
    rw [configure_of_no_handlers]
    cases hlevel : LogLevel.ofValue (chosenLevel configured level) with
    | ok chosen => exact .set rfl hlevel
    | error f => exact .refused rfl hlevel
  · rw [configure_of_handlers hhandlers]
    exact .kept hhandlers

/-! ## Configurations one after another -/

/-- The logger after a configuration, whether it has failed or not. -/
def after (r : RootLogger) (call : String × Value) : RootLogger :=
  match configure call.1 call.2 r with
  | .ok _ r => r
  | .error _ r => r

/-- The logger after some configurations, one after another.  Each comes with its configured level and the
one that is asked for. -/
def afterAll (r : RootLogger) (calls : List (String × Value)) : RootLogger := calls.foldl after r

theorem after_of_handlers (h : r.handlers ≠ 0) (call : String × Value) : r.after call = r := by
  rw [after, configure_of_handlers h]

/-- A logger that has a handler stays as it is, however often it is configured. -/
theorem afterAll_of_handlers (h : r.handlers ≠ 0) (calls : List (String × Value)) :
    r.afterAll calls = r := by
  induction calls with
  | nil => rfl
  | cons call calls ih =>
      show (r.after call).afterAll calls = r
      rw [after_of_handlers h, ih]

/-- **A failed configuration is the last one that does anything.**  A configuration leaves the logger as it
was or returns exactly if it returns, that is if there is a handler already or the chosen level is one.  If
it fails, a handler has been attached to a logger that had none, and the level is the one of before; after
that every configuration returns and changes nothing, whatever its level, however many went before it. -/
theorem failed_configuration_is_final (r : RootLogger) (configured : String) (level : Value) :
    ((∀ f r', configure configured level r = .error f r' → r' = r) ↔
      ∃ r', configure configured level r = .ok () r') ∧
    ((∃ r', configure configured level r = .ok () r') ↔
      r.handlers ≠ 0 ∨ ∃ chosen, LogLevel.ofValue (chosenLevel configured level) = .ok chosen) ∧
    ∀ f r', configure configured level r = .error f r' →
      LogLevel.ofValue (chosenLevel configured level) = .error f ∧
      r.handlers = 0 ∧ r'.handlers = 1 ∧ r'.level = r.level ∧
      ∀ calls configured' level',
        configure configured' level' (r'.afterAll calls) = .ok () r' := by
  have hends := configures_configure configured level r
  generalize configure configured level r = result at hends
  cases hends with
  | kept hhandlers => simp [hhandlers]
  | set hnone hlevel => simp [hnone, hlevel]
  | @refused g hnone hlevel =>
      refine ⟨⟨fun hlaw => ?_, ?_⟩, ⟨?_, ?_⟩, ?_⟩
      · have hsame := hlaw g _ rfl
        rw [← hsame] at hnone
        cases hnone
      · rintro ⟨r', hr'⟩
        cases hr'
      · rintro ⟨r', hr'⟩
        cases hr'
      · rintro (hhandlers | ⟨chosen, hchosen⟩)
        · exact absurd hnone hhandlers
        · rw [hlevel] at hchosen
          cases hchosen
      · rintro f r' hfails
        cases hfails
        refine ⟨hlevel, hnone, rfl, rfl, fun calls configured' level' => ?_⟩
        have hattached : (⟨1, r.level⟩ : RootLogger).handlers ≠ 0 := Nat.one_ne_zero
        rw [afterAll_of_handlers hattached, configure_of_handlers hattached]

/-- A level without a name is final: after it even a known level is not set, nor one after that. -/
theorem unknown_level_is_final :
    ∃ r', configure "WARNING" (.text "LOUD") initial = .error (.unknownLevel "LOUD") r' ∧
      configure "WARNING" (.int 10) (r'.afterAll [("", .null), ("WARNING", .float .zero)]) =
        .ok () r' := by
  obtain ⟨-, -, hfinal⟩ := failed_configuration_is_final initial "WARNING" (.text "LOUD")
  exact ⟨⟨1, LogLevel.warning⟩, rfl, (hfinal _ _ rfl).2.2.2.2 _ _ _⟩

/-- **A failed configuration does not leave the logger as it was**: a handler stays behind, and the next
configuration, with a level that is known, returns without setting it. -/
theorem known_level_comes_too_late :
    ∃ f r', configure "WARNING" (.text "LOUD") initial = .error f r' ∧ r' ≠ initial ∧
      LogLevel.ofValue (chosenLevel "WARNING" (.text "INFO")) = .ok 20 ∧
      ∃ r'', configure "WARNING" (.text "INFO") r' = .ok () r'' ∧ r''.level ≠ 20 :=
  ⟨_, _, rfl, by decide, rfl, _, rfl, by decide⟩

end GlobOracle.RootLogger
