import GlobOracle.Options.Canonical

/-!
# The command handed to the shell

A request becomes the arguments of one run of bash: the toggles that are on, each as `-O name`, and then
`-c` with a script that prints `true` if the subject matches the pattern.  Subject and pattern go into
the script as they are, since a quoted pattern would not be read as one.
-/

namespace GlobOracle

/-- One subject to match against one pattern. -/
structure Request where
  /-- The text that is matched. -/
  subject : String
  /-- The pattern, in the language of the shell. -/
  pattern : String
  /-- The options of the match. -/
  options : Options

namespace Command

/-- The names under which the shell knows a toggle: ignoring case has one for globs and one for
conditions. -/
def shellNames : Toggle → List String
  | .nocaseglob => ["nocaseglob", "nocasematch"]
  | t => [t.name]

/-- The flag before the name of a shell option. -/
def setFlag : String := "-O"

/-- The flag before a script. -/
def scriptFlag : String := "-c"

/-- What stands before the subject.  Words are split at line ends only. -/
def opening : String := "IFS=$\"\n\"; if [[ \""

/-- What stands between subject and pattern. -/
def separator : String := "\" = "

/-- What stands behind the pattern. -/
def closing : String := " ]]; then echo true; fi"

/-- The script that prints `true` if the subject matches the pattern. -/
def script (subject pattern : String) : String :=
  opening ++ subject ++ separator ++ pattern ++ closing

/-- The script for values, which must be texts. -/
def scriptOfValues (subject pattern : Value) : Except Failure String :=
  match subject, pattern with
  | .text subject, .text pattern => .ok (script subject pattern)
  | _, _ => .error .wrongKind

/-- The arguments that switch the toggles of a record on.  Toggles that are off are passed over. -/
def toggleArguments (o : Options) : List String := Id.run do
  let mut arguments := []
  for t in Toggle.all do
    if !o.has (.toggle t) then
      continue
    for name in shellNames t do
      arguments := arguments ++ [setFlag, name]
  return arguments

/-- The arguments that switch one toggle on. -/
def switchOn (t : Toggle) : List String := (shellNames t).flatMap fun name => [setFlag, name]

/-- From any arguments on, the loop over some toggles adds those of the toggles that are on.  The inner loop
is written as the list that it adds. -/
theorem run_loop_eq (on : Toggle → Bool) (toggles : List Toggle) (arguments : List String) :
    (forIn toggles arguments fun t arguments =>
        if on t = false then pure (ForInStep.yield arguments)
        else pure (ForInStep.yield
          (arguments ++ ((shellNames t).map fun name => [setFlag, name]).flatten)) :
      Id (List String)).run =
      arguments ++ (toggles.filter on).flatMap switchOn := by
  induction toggles generalizing arguments with
  | nil => simp
  | cons t toggles ih => cases hon : on t <;> simp [hon, ih, switchOn, List.flatMap_def]

/-- **The toggles that are switched on are the enabled ones**, in their order. -/
theorem toggleArguments_eq (o : Options) :
    toggleArguments o = o.enabledToggles.flatMap switchOn := by
  simpa [toggleArguments, Options.enabledToggles] using
    run_loop_eq (fun t => o.has (.toggle t)) Toggle.all []

/-- The arguments of a run, without the program. -/
def arguments (request : Request) : List String :=
  toggleArguments request.options ++ [scriptFlag, script request.subject request.pattern]

/-- The arguments of a run for values, which must be texts and a record. -/
def argumentsOfValues (subject pattern options : Value) : Except Failure (List String) := do
  let o ← Options.ofRecord options
  let script ← scriptOfValues subject pattern
  return toggleArguments o ++ [scriptFlag, script]

end Command

end GlobOracle
