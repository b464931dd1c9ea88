import GlobOracle.Service
import GlobOracle.Proofs.SingleMatch
import GlobOracle.Proofs.Batch.Permits
import GlobOracle.Proofs.Number.Double
import GlobOracle.Proofs.Number.Literal
import GlobOracle.Proofs.RootLogger
import GlobOracle.Proofs.Text.Trim

/-!
# Every environment describes a safe service

The settings are read from variables that may hold any text.  `Service.IsSafe` says what a service keeps
whatever they hold: its client and its matcher accept the values that were read, a run has no limit on its
time or one above zero, a batch may have at least one run in flight, and the path of the shell has no
blanks around it.  Which values are read is told by the texts of the variables: by where they begin and
end (`Text.IsTrimmed`) and by the number that they write (`Literal.Denotes`).

`Service.safe_in_every_environment` is the main result; the parts of the service come before it, one
section each.
-/

namespace GlobOracle

variable {σ : Type}

/-! ## Reading a variable -/

namespace Environment

variable {env : Environment} {name : String}

/-- The variable is there, and this is its text without the blanks around it. -/
def Holds (env : Environment) (name : String) (core : List Char) : Prop :=
  ∃ text, env name = some text ∧ Text.IsTrimmed Text.isBlank text.toList core

theorem not_holds_of_none (h : env name = none) (core : List Char) : ¬env.Holds name core := by
  rintro ⟨text, h', -⟩
  rw [h] at h'
  cases h'

theorem holds_iff_of_some {text : String} (h : env name = some text) {core : List Char} :
    env.Holds name core ↔ Text.trim text.toList = core := by
  rw [Holds, Text.trim, Text.trimBy_eq_iff]
  constructor
  · rintro ⟨text', h', htrimmed⟩
    obtain rfl := Option.some.inj (h.symm.trans h')
    exact htrimmed
  · intro htrimmed
    exact ⟨text, h, htrimmed⟩

theorem holds_toList_iff {core : String} :
    env.Holds name core.toList ↔ ∃ text, env name = some text ∧ Text.trimmed text = core := by
  cases h : env name with
  | none => simp [not_holds_of_none h]
  | some text =>
    rw [holds_iff_of_some h, ← String.toList_ofList (l := Text.trim text.toList), String.toList_inj]
    simp [Text.trimmed]

/-- What is read from a variable is read from its text without the blanks around it. -/
theorem bind_trim_eq_some_iff {α : Type} {read : List Char → Option α} {x : α} :
    (env name).bind (fun text => read (Text.trim text.toList)) = some x ↔
      ∃ core, env.Holds name core ∧ read core = some x := by
  cases h : env name with
  | none => simp [not_holds_of_none h]
  | some text => simp [holds_iff_of_some h]

theorem decimal?_eq_some_iff {x : Double} :
    env.decimal? name = some x ↔ ∃ core, env.Holds name core ∧ Literal.Denotes core x := by
  rw [decimal?, bind_trim_eq_some_iff]
  simp only [Literal.decimal?_eq_some_iff]

theorem text?_eq_none_iff :
    env.text? name = none ↔ ∀ text, env name = some text → Text.isBlankText text := by
  cases h : env name with
  | none => simp [text?, h]
  | some text => simp [text?, h, Text.isEmpty_trimmed]

theorem text?_eq_some_iff {path : String} :
    env.text? name = some path ↔ path ≠ "" ∧ env.Holds name path.toList := by
  rw [holds_toList_iff]
  cases h : env name with
  | none => simp [text?, h]
  | some text =>
    simp only [text?, h, Option.bind_some, Option.some.injEq, exists_eq_left']
    constructor
    · intro hpath
      split_ifs at hpath with hempty
      obtain rfl := Option.some.inj hpath
      exact ⟨fun heq => hempty (String.isEmpty_iff.2 heq), rfl⟩
    · rintro ⟨hne, rfl⟩
      rw [if_neg fun hempty => hne (String.isEmpty_iff.1 hempty)]

end Environment

/-! ## The client -/

namespace Settings

variable (env : Environment)

/-- The configured path as a value. -/
def pathValue (s : Settings) : Value := (s.shellPath.map Value.text).getD .null

/-- A path that was read has no blanks around it, so the client takes it as it is. -/
theorem client_path_ofEnvironment :
    (ofEnvironment env).client.path = (ofEnvironment env).shellPath.map Executable.text := by
  cases h : (ofEnvironment env).shellPath with
  | none => simp [client, h]
  | some path =>
    obtain ⟨hne, hholds⟩ := Environment.text?_eq_some_iff.1 h
    obtain ⟨text, -, rfl⟩ := Environment.holds_toList_iff.1 hholds
    simp [client, h, Executable.ofText?, Text.trimmed_trimmed, hne]

theorem ofValues_ofEnvironment :
    Client.ofValues (ofEnvironment env).pathValue (.float (ofEnvironment env).timeout) =
      .ok (ofEnvironment env).client := by
  cases h : (ofEnvironment env).shellPath with
  | none => simp [Client.ofValues, pathValue, client, h]; rfl
  | some path => simp [Client.ofValues, pathValue, client, h]; rfl

/-- The limit is set by a double above zero, and by no other one. -/
theorem limit_client_eq_some_iff (s : Settings) (limit : Limit) :
    s.client.limit = some limit ↔ s.timeout.IsAboveZero ∧ limit = .real s.timeout := by
  rw [client, ← Double.isPositive_iff]
  by_cases h : s.timeout.isPositive <;> simp [h, eq_comm]

/-- The variable for the limit on the time of a run is a literal that denotes this double. -/
def SetsTimeout (x : Double) : Prop :=
  ∃ core, env.Holds "BASH_MATCH_TIMEOUT" core ∧ Literal.Denotes core x

theorem limit_ofEnvironment_eq_some_iff {limit : Limit} :
    (ofEnvironment env).client.limit = some limit ↔
      ∃ x, SetsTimeout env x ∧ x.IsAboveZero ∧ limit = .real x := by
  have hread {x : Double} : env.decimal? "BASH_MATCH_TIMEOUT" = some x ↔ SetsTimeout env x :=
    Environment.decimal?_eq_some_iff
  have htimeout : (ofEnvironment env).timeout =
      (env.decimal? "BASH_MATCH_TIMEOUT").getD .zero := rfl
  have hzero : ¬Double.zero.IsAboveZero := by
    rw [← Double.isPositive_iff]
    decide
  simp only [limit_client_eq_some_iff, htimeout, ← hread]
  cases env.decimal? "BASH_MATCH_TIMEOUT" with
  | none => simp [hzero]
  | some x => simp

/-- There is no limit exactly if there is no double above zero to be read. -/
theorem limit_ofEnvironment_eq_none_iff :
    (ofEnvironment env).client.limit = none ↔
      env "BASH_MATCH_TIMEOUT" = none ∨
        ∃ core, env.Holds "BASH_MATCH_TIMEOUT" core ∧
          ((∀ x, ¬Literal.Denotes core x) ∨ ∃ x, Literal.Denotes core x ∧ ¬x.IsAboveZero) := by
  have hlimit : (ofEnvironment env).client.limit = none ↔
      ∀ x, SetsTimeout env x → ¬x.IsAboveZero := by
    rw [Option.eq_none_iff_forall_ne_some]
    simp only [ne_eq, limit_ofEnvironment_eq_some_iff]
    grind
  rw [hlimit]
  cases h : env "BASH_MATCH_TIMEOUT" with
  | none => simp [SetsTimeout, Environment.not_holds_of_none h]
  | some text =>
    have hunique : ∀ x y, Literal.Denotes (Text.trim text.toList) x →
        Literal.Denotes (Text.trim text.toList) y → x = y := by
      intro x y hx hy
      rw [← Literal.decimal?_eq_some_iff] at hx hy
      exact Option.some.inj (hx.symm.trans hy)
    simp only [SetsTimeout, Environment.holds_iff_of_some h, exists_eq_left', reduceCtorEq, false_or]
    constructor
    · intro hnone
      by_cases hliteral : ∃ x, Literal.Denotes (Text.trim text.toList) x
      · obtain ⟨x, hx⟩ := hliteral
        exact .inr ⟨x, hx, hnone x hx⟩
      · exact .inl fun x hx => hliteral ⟨x, hx⟩
    · rintro (hnot | ⟨x, hx, habove⟩) y hy
      · exact absurd hy (hnot y)
      · rwa [hunique y x hy hx]

/-- The path is read from a variable that is not blank. -/
theorem shellPath_ofEnvironment_eq_none_iff :
    (ofEnvironment env).shellPath = none ↔
      ∀ text, env "BASH_MATCH_BASH_PATH" = some text → Text.isBlankText text :=
  Environment.text?_eq_none_iff

theorem shellPath_ofEnvironment_eq_some_iff {path : String} :
    (ofEnvironment env).shellPath = some path ↔
      path ≠ "" ∧ env.Holds "BASH_MATCH_BASH_PATH" path.toList :=
  Environment.text?_eq_some_iff

/-- A client launches the path that was read, whatever the host and its memory are. -/
theorem exists_run_ofEnvironment_eq {path : String} (hpath : (ofEnvironment env).shellPath = some path)
    (host : Host σ) (arguments : List Value) (directory : Value) (p : Memory σ) :
    ∃ answer q,
      (ofEnvironment env).client.run host (.list arguments) directory p = Action.ofExcept answer q ∧
      q.calls = p.calls ++ [.launch (.text path) arguments directory
        ((ofEnvironment env).client.limit.map Limit.value)] := by
  obtain ⟨q, hq, hasked⟩ := (ofEnvironment env).client.exists_run_eq host arguments directory p
  have hprogram : (ofEnvironment env).client.programIn host p = .text path := by
    rw [Client.programIn, client_path_ofEnvironment, hpath]
    rfl
  rw [hprogram] at hasked
  exact ⟨_, q, hq, hasked.calls_eq⟩

theorem logLevel_ofEnvironment :
    ∃ core, (ofEnvironment env).logLevel = Text.uppercase (String.ofList core) ∧
      (env.Holds "BASH_MATCH_LOG_LEVEL" core ∨
        env "BASH_MATCH_LOG_LEVEL" = none ∧ core = "WARNING".toList) := by
  cases h : env "BASH_MATCH_LOG_LEVEL" with
  | none => exact ⟨"WARNING".toList, by simp [ofEnvironment, h]; rfl, .inr ⟨rfl, rfl⟩⟩
  | some text =>
    refine ⟨Text.trim text.toList, by simp [ofEnvironment, h, Text.trimmed], .inl ?_⟩
    exact (Environment.holds_iff_of_some h).2 rfl

theorem logLevel_ofEnvironment_of_ascii {name : String}
    (hname : env.Holds "BASH_MATCH_LOG_LEVEL" name.toList) (hascii : ∀ c ∈ name.toList, c.toNat < 0x80) :
    (ofEnvironment env).logLevel = name.toUpper := by
  obtain ⟨text, htext, htrimmed⟩ := Environment.holds_toList_iff.1 hname
  rw [ofEnvironment, htext, Option.getD_some, htrimmed, Text.uppercase_of_ascii hascii]

end Settings

/-! ## The log level -/

namespace LogLevel

/-- The names of the levels. -/
def names : List String :=
  ["CRITICAL", "FATAL", "ERROR", "WARNING", "WARN", "INFO", "DEBUG", "NOTSET"]

theorem isSome_ofName?_iff (name : String) : (ofName? name).isSome ↔ name ∈ names := by
  fun_cases ofName? name <;> simp_all [names]

end LogLevel

namespace RootLogger

/-- Without a level that is configured, that of warnings is chosen. -/
theorem ofValue_chosenLevel_of_known {configured : String}
    (h : configured = "" ∨ configured ∈ LogLevel.names) :
    ∃ chosen, LogLevel.ofValue (chosenLevel configured .null) = .ok chosen := by
  by_cases hempty : configured = ""
  · exact ⟨LogLevel.warning, by rw [hempty]; rfl⟩
  · obtain ⟨chosen, hchosen⟩ := Option.isSome_iff_exists.1
      ((LogLevel.isSome_ofName?_iff configured).2 (h.resolve_left hempty))
    exact ⟨chosen, by simp [chosenLevel, Value.truthy, hempty, LogLevel.ofValue, hchosen]⟩

theorem ofValue_chosenLevel_of_unknown {configured : String}
    (h : ¬(configured = "" ∨ configured ∈ LogLevel.names)) :
    LogLevel.ofValue (chosenLevel configured .null) = .error (.unknownLevel configured) := by
  obtain ⟨hempty, hname⟩ := not_or.1 h
  rw [← LogLevel.isSome_ofName?_iff, Option.not_isSome_iff_eq_none] at hname
  simp [chosenLevel, Value.truthy, hempty, LogLevel.ofValue, hname]

end RootLogger

namespace Service

variable {s : Settings}

theorem start_of_no_handlers (s : Settings) (level : Int) :
    start s ⟨0, level⟩ =
      match LogLevel.ofValue (RootLogger.chosenLevel s.logLevel .null) with
      | .ok chosen => .ok [.standardStreams] ⟨1, chosen⟩
      | .error f => .error f ⟨1, level⟩ := by
  show EStateM.bind (RootLogger.configure s.logLevel .null) _ _ = _
  rw [EStateM.bind, RootLogger.configure_of_no_handlers]
  cases LogLevel.ofValue (RootLogger.chosenLevel s.logLevel .null) <;> rfl

/-- A service that finds no handler attaches one and serves the standard streams, if its log level is
known. -/
theorem start_of_known (hlevel : s.logLevel = "" ∨ s.logLevel ∈ LogLevel.names) (level : Int) :
    ∃ chosen, start s ⟨0, level⟩ = .ok [.standardStreams] ⟨1, chosen⟩ := by
  obtain ⟨chosen, hchosen⟩ := RootLogger.ofValue_chosenLevel_of_known hlevel
  exact ⟨chosen, by rw [start_of_no_handlers, hchosen]⟩

/-- It is refused if its log level is not known. -/
theorem start_of_unknown (hlevel : ¬(s.logLevel = "" ∨ s.logLevel ∈ LogLevel.names)) (level : Int) :
    start s ⟨0, level⟩ = .error (.unknownLevel s.logLevel) ⟨1, level⟩ := by
  rw [start_of_no_handlers, RootLogger.ofValue_chosenLevel_of_unknown hlevel]

/-- What a service keeps that is put together from settings read from an environment. -/
structure IsSafe (env : Environment) (s : Settings) (service : Service) : Prop where
  /-- The client accepts the path and the limit. -/
  client_accepted : Client.ofValues s.pathValue (.float s.timeout) = .ok service.client
  /-- The matcher accepts the bound. -/
  matcher_accepted :
    Matcher.ofValue (.client service.client) (.int s.maxConcurrency) = .ok service.matcher
  /-- All tools are there, and share the matcher. -/
  tools : service.tools = Tool.all.map fun tool => ⟨tool, service.matcher⟩
  /-- At least one run may be in flight. -/
  bound : 1 ≤ service.matcher.bound
  /-- A limit on the time of a run is a double above zero that the variable writes. -/
  limit : ∀ limit, service.client.limit = some limit ↔
    ∃ x, Settings.SetsTimeout env x ∧ x.IsAboveZero ∧ limit = .real x
  /-- There is none exactly if the variable is not there, writes no number or none above zero. -/
  no_limit : service.client.limit = none ↔
    env "BASH_MATCH_TIMEOUT" = none ∨
      ∃ core, env.Holds "BASH_MATCH_TIMEOUT" core ∧
        ((∀ x, ¬Literal.Denotes core x) ∨ ∃ x, Literal.Denotes core x ∧ ¬x.IsAboveZero)
  /-- The path is the text of its variable without the blanks around it. -/
  path : ∀ path, s.shellPath = some path ↔
    path ≠ "" ∧ env.Holds "BASH_MATCH_BASH_PATH" path.toList
  /-- There is none exactly if the variable is not there or blank. -/
  no_path : s.shellPath = none ↔
    ∀ text, env "BASH_MATCH_BASH_PATH" = some text → Text.isBlankText text
  /-- The client launches this path. -/
  launches : ∀ path, s.shellPath = some path →
    ∀ (σ : Type) (host : Host σ) (arguments : List Value) (directory : Value) (p : Memory σ),
      ∃ answer q, service.client.run host (.list arguments) directory p = Action.ofExcept answer q ∧
        q.calls = p.calls ++
          [.launch (.text path) arguments directory (service.client.limit.map Limit.value)]
  /-- The log level is the text of its variable in upper case. -/
  log_level : ∃ core, s.logLevel = Text.uppercase (String.ofList core) ∧
    (env.Holds "BASH_MATCH_LOG_LEVEL" core ∨
      env "BASH_MATCH_LOG_LEVEL" = none ∧ core = "WARNING".toList)
  /-- For ASCII texts this is the upper case of the ASCII letters. -/
  ascii_log_level : ∀ name : String, env.Holds "BASH_MATCH_LOG_LEVEL" name.toList →
    (∀ c ∈ name.toList, c.toNat < 0x80) → s.logLevel = name.toUpper
  /-- The service starts, with the standard streams alone, if the level is empty or known. -/
  starts : (s.logLevel = "" ∨ s.logLevel ∈ LogLevel.names) → ∀ level, ∃ level',
    Service.start s ⟨0, level⟩ = .ok [.standardStreams] ⟨1, level'⟩
  /-- Otherwise it is refused, and nothing is served. -/
  refused : ¬(s.logLevel = "" ∨ s.logLevel ∈ LogLevel.names) → ∀ level,
    Service.start s ⟨0, level⟩ = .error (.unknownLevel s.logLevel) ⟨1, level⟩

/-- **No environment makes the service unsafe.** -/
theorem safe_in_every_environment (env : Environment) :
    IsSafe env (.ofEnvironment env) (.ofSettings (.ofEnvironment env)) where
  client_accepted := Settings.ofValues_ofEnvironment env
  matcher_accepted := rfl
  tools := rfl
  bound := Nat.pos_of_ne_zero (Matcher.boundOf_ne_zero _)
  limit _ := Settings.limit_ofEnvironment_eq_some_iff env
  no_limit := Settings.limit_ofEnvironment_eq_none_iff env
  path _ := Settings.shellPath_ofEnvironment_eq_some_iff env
  no_path := Settings.shellPath_ofEnvironment_eq_none_iff env
  launches _ hpath _ := Settings.exists_run_ofEnvironment_eq env hpath
  log_level := Settings.logLevel_ofEnvironment env
  ascii_log_level _ := Settings.logLevel_ofEnvironment_of_ascii env
  starts := start_of_known
  refused := start_of_unknown

/-- An environment that sets a limit of five seconds, and asks for a level in lower case. -/
def talkativeEnvironment : Environment := fun name =>
  match name with
  | "BASH_MATCH_TIMEOUT" => some "+5 "
  | "BASH_MATCH_LOG_LEVEL" => some "\tdebug\n"
  | _ => none

/-- Such a service limits its runs, and starts. -/
theorem talkative_service_starts :
    (∃ x, x.toRat = 5 ∧
      (ofSettings (.ofEnvironment talkativeEnvironment)).client.limit = some (.real x)) ∧
    (Settings.ofEnvironment talkativeEnvironment).logLevel = "DEBUG" ∧
    ∀ level, ∃ level', start (.ofEnvironment talkativeEnvironment) ⟨0, level⟩ =
      .ok [.standardStreams] ⟨1, level'⟩ := by
  have hsafe := safe_in_every_environment talkativeEnvironment
  obtain ⟨x, hfive, hnearest⟩ : ∃ x : Double, x.toRat = 5 ∧
      Double.IsNearest ((5 : ℕ) * 10 ^ (0 : ℤ)) x :=
    ⟨_, Double.toRat_ofDecimal_natCast (by decide), Double.isNearest_ofDecimal 5 0⟩
  have habove : x.IsAboveZero := by
    apply hnearest.candidate.isAboveZero
    rw [hfive]
    decide
  have hdenotes : Literal.Denotes "+5".toList x := by
    have hdigit : Literal.IsDigits ['5'] [5] := rfl
    have hbody : Literal.IsUnsigned (['5'] ++ []) x := .plain hdigit (by decide) .absent hnearest
    exact .mk (.cons (by decide) (.cons (by decide) .nil)) .plus (.inl hbody)
  have htimeout : Settings.SetsTimeout talkativeEnvironment x :=
    ⟨"+5".toList, (Environment.holds_iff_of_some rfl).2 (by decide), hdenotes⟩
  have hlevel : (Settings.ofEnvironment talkativeEnvironment).logLevel = "DEBUG" := by
    have hholds : talkativeEnvironment.Holds "BASH_MATCH_LOG_LEVEL" "debug".toList :=
      (Environment.holds_iff_of_some rfl).2 (by decide)
    have hascii : ∀ c ∈ "debug".toList, c.toNat < 0x80 := by simp
    rw [hsafe.ascii_log_level "debug" hholds hascii, ← String.toList_inj, String.toUpper,
      String.toList_map]
    decide
  refine ⟨⟨_, hfive, (hsafe.limit _).2 ⟨_, htimeout, habove, rfl⟩⟩, hlevel, ?_⟩
  apply hsafe.starts
  rw [hlevel]
  decide

/-- What is no number sets no limit, also behind a sign and a blank that is not ASCII. -/
example : (Settings.ofEnvironment fun name =>
    if name = "BASH_MATCH_TIMEOUT" then some "\u2003-NaN" else none).client.limit = none := by
  decide

end Service

end GlobOracle
