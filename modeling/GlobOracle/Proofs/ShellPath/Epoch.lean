import GlobOracle.Proofs.ShellPath.Moment

/-!
# One path of the shell until it is forgotten

Between two moments at which the path of the shell is forgotten, the files are looked at once at most, at
the first moment that needs the path, and from then on the path that was found there is used, whatever
becomes of the files (`Moment.UsesOnePath`).

The proof goes by what a moment does to the path: a path that is settled stays
(`Moment.keepsPath_afterAll`), and one that is not settled is settled at a first moment or never
(`Moment.exists_first`).
-/

namespace GlobOracle

variable {σ : Type} {host : Host σ} {p q : Memory σ}

namespace Moment

/-- The memory after some moments, one after another. -/
def afterAll (p : Memory σ) (moments : List (Moment σ)) : Memory σ := moments.foldl after p

/-- The path is not forgotten at any of some moments. -/
def Remembers (moments : List (Moment σ)) : Prop := ∀ moment ∈ moments, moment.operation ≠ .forget

variable {moment : Moment σ} {moments before later epoch : List (Moment σ)}

theorem afterAll_append (p : Memory σ) (before later : List (Moment σ)) :
    afterAll p (before ++ later) = afterAll (afterAll p before) later :=
  List.foldl_append

namespace Remembers

theorem head (h : Remembers (moment :: later)) : moment.operation ≠ .forget :=
  h moment List.mem_cons_self

theorem tail (h : Remembers (moment :: later)) : Remembers later :=
  fun m hm => h m (List.mem_cons_of_mem _ hm)

theorem left (h : Remembers (before ++ later)) : Remembers before :=
  fun m hm => h m (List.mem_append_left _ hm)

theorem right (h : Remembers (before ++ later)) : Remembers later :=
  fun m hm => h m (List.mem_append_right _ hm)

end Remembers

/-- A path that is settled stays until it is forgotten. -/
theorem keepsPath_afterAll (h : Remembers moments) (hsettled : p.shellPath ≠ none) :
    p.KeepsPath (afterAll p moments) := by
  induction moments generalizing p with
  | nil => exact .refl p
  | cons moment moments ih =>
      have hkeeps := keepsPath_after h.head hsettled
      have hsettled' : (after p moment).shellPath ≠ none := by rwa [hkeeps.shellPath_eq]
      exact hkeeps.trans (ih h.tail hsettled')

/-- **A path that is not settled** is settled at a first moment, or stays so. -/
theorem exists_first (h : Remembers epoch) :
    p.KeepsPath (afterAll p epoch) ∨
      ∃ before moment later, epoch = before ++ moment :: later ∧
        p.KeepsPath (afterAll p before) ∧
        (afterAll p before).SettlesPath moment.host (after (afterAll p before) moment) ∧
        (after (afterAll p before) moment).KeepsPath (afterAll p epoch) := by
  induction epoch generalizing p with
  | nil => exact .inl (.refl p)
  | cons moment epoch ih =>
      -- If this moment leaves the path alone, the rest goes on as from `p`; if not, it is the first one.
      rcases (used h.head p).path with ⟨hkeeps, -⟩ | ⟨-, hsettles⟩
      · rcases ih (p := after p moment) h.tail with hall | ⟨before, first, later, rfl, hb, hs, hl⟩
        · exact .inl (hkeeps.trans hall)
        · exact .inr ⟨moment :: before, first, later, rfl, hkeeps.trans hb, hs, hl⟩
      · have hsettled : (after p moment).shellPath ≠ none := by simp [hsettles.shellPath_eq]
        exact .inr ⟨[], moment, epoch, rfl, .refl p, hsettles, keepsPath_afterAll h.tail hsettled⟩

/-! ## An epoch -/

/-- At some moments nobody needs the path of the shell: it stays as it was, no file is looked at, and who
looks for the shell launches nothing. -/
structure NeedsNoPath (p : Memory σ) (moments : List (Moment σ)) : Prop where
  keeps : p.KeepsPath (afterAll p moments)
  launches_nothing : ∀ before moment later, moments = before ++ moment :: later →
    moment.operation.executor.looksForShell → moment.calls (afterAll p before) = []

/-- Some moments use one path of the shell, from a memory in which none is settled. -/
structure UsesOnePath (p : Memory σ) (epoch : List (Moment σ)) (path : String) : Prop where
  /-- What is launched is this path, but for clients with a path of their own. -/
  launches : ∀ before moment later, epoch = before ++ moment :: later →
    (after (afterAll p before) moment).calls =
      (afterAll p before).calls ++ moment.calls (afterAll p before) ∧
    ∀ call ∈ moment.calls (afterAll p before),
      call.program? = moment.operation.executor.programAt path
  /-- Who asks for the path is told this one. -/
  told : ∀ before moment later, epoch = before ++ moment :: later →
    (moment.operation = .resolve →
      ∃ q, moment.action (afterAll p before) = .ok (.program (.text path)) q) ∧
    ∀ client, moment.operation = .read client →
      ∃ q, moment.action (afterAll p before) = .ok (.program (client.path.getD (.text path))) q
  /-- Either nobody needs it, and nothing is searched; or it is found at the first moment that does, by
  the only search. -/
  first : NeedsNoPath p epoch ∨
    ∃ before moment later, epoch = before ++ moment :: later ∧ NeedsNoPath p before ∧
      path = (ShellPath.candidates.find? moment.host.fileExists).getD ShellPath.fallback ∧
      (afterAll p epoch).shellPath = some path ∧
      (afterAll p epoch).probes =
        p.probes ++ ShellPath.searched moment.host ShellPath.candidates

/-- If a path is settled after a moment, it is where the shell was found at that moment, and stays. -/
theorem shellPath_afterAll_of_settled (h : Remembers (moment :: later))
    (hsettled : (after p moment).shellPath ≠ none) :
    (afterAll p (moment :: later)).shellPath = some (ShellPath.found moment.host p) := by
  have hkeeps : (after p moment).KeepsPath (afterAll p (moment :: later)) :=
    keepsPath_afterAll h.tail hsettled
  obtain ⟨path, hpath⟩ := Option.ne_none_iff_exists'.1 hsettled
  rw [hkeeps.shellPath_eq, ← (used h.head p).found_eq, ShellPath.found, hpath,
    Option.getD_some]

/-- The path that is settled at the end of some moments, if one is. -/
def lastPath (p : Memory σ) (moments : List (Moment σ)) : String :=
  (afterAll p moments).shellPath.getD ShellPath.fallback

theorem lastPath_of_settled (h : Remembers (moment :: later))
    (hsettled : (after (afterAll p before) moment).shellPath ≠ none) :
    lastPath p (before ++ moment :: later) = ShellPath.found moment.host (afterAll p before) := by
  rw [lastPath, afterAll_append, shellPath_afterAll_of_settled h hsettled, Option.getD_some]

/-- Nothing is launched at the settled path before it is settled. -/
theorem settled_of_mem_calls (h : moment.operation ≠ .forget)
    (hlooks : moment.operation.executor.looksForShell) {call : Call} (hcall : call ∈ moment.calls p) :
    (after p moment).shellPath ≠ none := by
  intro hnone
  rcases (used h p).path with ⟨hkeeps, hunsettled⟩ | ⟨-, hsettles⟩
  · rw [hunsettled hlooks (hkeeps.shellPath_eq.symm.trans hnone)] at hcall
    exact List.not_mem_nil hcall
  · rw [hsettles.shellPath_eq] at hnone
    cases hnone

theorem program?_eq_of_mem_calls (h : Remembers (before ++ moment :: later)) {call : Call}
    (hcall : call ∈ moment.calls (afterAll p before)) :
    call.program? =
      moment.operation.executor.programAt (lastPath p (before ++ moment :: later)) := by
  have hmoment := h.right.head
  rw [(used hmoment _).programs call hcall]
  cases hlooks : moment.operation.executor.looksForShell with
  | false => exact Executor.programAt_eq hlooks _ _
  | true => rw [lastPath_of_settled h.right (settled_of_mem_calls hmoment hlooks hcall)]

theorem told_of_remembers (h : Remembers (before ++ moment :: later)) :
    (moment.operation = .resolve → ∃ q, moment.action (afterAll p before) =
      .ok (.program (.text (lastPath p (before ++ moment :: later)))) q) ∧
    ∀ client, moment.operation = .read client → ∃ q, moment.action (afterAll p before) =
      .ok (.program (client.path.getD (.text (lastPath p (before ++ moment :: later))))) q := by
  constructor
  · intro hresolve
    obtain ⟨q, hq, hsettled⟩ := exists_action_of_resolve hresolve (afterAll p before)
    exact ⟨q, by rw [lastPath_of_settled h.right hsettled, hq]⟩
  · intro client hread
    obtain ⟨q, hq, hsettled⟩ := exists_action_of_read hread (afterAll p before)
    refine ⟨q, hq.trans ?_⟩
    rw [Client.programIn]
    cases hpath : client.path with
    | some own => rfl
    | none => rw [lastPath_of_settled h.right (hsettled hpath)]

/-- If no path is settled in the end, none is settled on the way. -/
theorem shellPath_eq_none_of_afterAll (h : Remembers moments)
    (hend : (afterAll p moments).shellPath = none) : p.shellPath = none := by
  by_contra hsettled
  rw [(keepsPath_afterAll h hsettled).shellPath_eq] at hend
  exact hsettled hend

/-- Where nothing is settled in the end, nobody has needed the path. -/
theorem needsNoPath_of_keepsPath (hunsettled : p.shellPath = none) (h : Remembers moments)
    (hkeeps : p.KeepsPath (afterAll p moments)) : NeedsNoPath p moments := by
  refine ⟨hkeeps, ?_⟩
  rintro before moment later rfl hlooks
  have hend := hkeeps.shellPath_eq.trans hunsettled
  rw [afterAll_append] at hend
  have hafter : (after (afterAll p before) moment).shellPath = none :=
    shellPath_eq_none_of_afterAll h.right.tail hend
  refine List.eq_nil_iff_forall_not_mem.2 fun call hcall => ?_
  exact settled_of_mem_calls h.right.head hlooks hcall hafter

/-- **An epoch uses one path.** -/
theorem exists_usesOnePath (hunsettled : p.shellPath = none) (h : Remembers epoch) :
    ∃ path, UsesOnePath p epoch path := by
  refine ⟨lastPath p epoch, ?_, ?_, ?_⟩
  · rintro before moment later rfl
    exact ⟨(used h.right.head _).calls_eq, fun call hcall => program?_eq_of_mem_calls h hcall⟩
  · rintro before moment later rfl
    exact told_of_remembers h
  · rcases exists_first (p := p) h with hkeeps | ⟨before, moment, later, rfl, hbefore, hsettles, hkept⟩
    · exact .inl (needsNoPath_of_keepsPath hunsettled h hkeeps)
    · have hneeds : NeedsNoPath p before := needsNoPath_of_keepsPath hunsettled
        h.left hbefore
      have hfound : ShellPath.found moment.host (afterAll p before) =
          (ShellPath.candidates.find? moment.host.fileExists).getD ShellPath.fallback := by
        rw [ShellPath.found, hsettles.unsettled, Option.getD_none]
      have hend : (afterAll p (before ++ moment :: later)).shellPath =
          some (ShellPath.found moment.host (afterAll p before)) :=
        hkept.shellPath_eq.trans hsettles.shellPath_eq
      refine .inr ⟨before, moment, later, rfl, hneeds, ?_, ?_, ?_⟩
      · rw [lastPath, hend, Option.getD_some, hfound]
      · rw [lastPath, hend, Option.getD_some]
      · rw [hkept.probes_eq, hsettles.probes_eq, hbefore.probes_eq]

/-- Nothing is settled where a program begins, nor where it has just forgotten the path. -/
theorem shellPath_afterAll_of_reset (shell : σ) {past : List (Moment σ)}
    (hpast : past = [] ∨ ∃ earlier host, past = earlier ++ [⟨host, .forget⟩]) :
    (afterAll (Memory.fresh shell) past).shellPath = none := by
  rcases hpast with rfl | ⟨earlier, host, rfl⟩
  · rfl
  · rw [afterAll_append]
    rfl

end Moment

/-- **One path of the shell until it is forgotten.**  Between two moments at which the path is forgotten,
all clients without a path of their own launch the same program, whatever becomes of the files: the one
that was found at the first moment at which one of them needed it, by the only search.  A client with a
path of its own launches that path, which is the configured text without the blanks around it, and has no
part in the settled one.  Whoever fails to launch the shell tells of the program that it launched. -/
theorem ShellPath.one_path_until_forgotten (shell : σ) (past epoch : List (Moment σ))
    (hpast : past = [] ∨ ∃ earlier host, past = earlier ++ [⟨host, .forget⟩])
    (hepoch : Moment.Remembers epoch) :
    (∃ path, Moment.UsesOnePath (Moment.afterAll (Memory.fresh shell) past) epoch path) ∧
    (∀ (moment : Moment σ) (client : Client) (program : Executable),
      moment.operation.executor = .client client → client.path = some program →
      ∀ p, Moment.KeepsOwnPath moment program p) ∧
    (∀ path limit client, (path = .null ∨ ∃ name, path = .text name) →
      Client.ofValues path limit = .ok client → Client.NamesProgram path client.path) ∧
    ∀ (client : Client) (host : Host σ) (arguments directory : Value) (p q : Memory σ)
      (fault : LaunchFault) (program : Option Executable) (cause : Option Failure),
      client.run host arguments directory p = .error (.launch fault program cause) q →
      ∃ launched members limit e,
        q.calls = p.calls ++ [.launch launched members directory limit] ∧
        (host.shell (.launch launched members directory limit) p.shell).1 = .error e ∧
        (program = some launched ∧ cause = some e ∨ e = .launch fault program cause) :=
  ⟨Moment.exists_usesOnePath (Moment.shellPath_afterAll_of_reset shell hpast) hepoch,
    fun _ _ _ hclient hpath => Moment.keepsOwnPath hclient hpath,
    fun _ _ _ hpath made => Client.namesProgram_of_ofValues hpath made,
    fun client host _ _ _ _ _ _ _ hfails => client.launch_of_run_eq_error host hfails⟩

/-- A host with files at some paths, whose shell prints nothing. -/
def hostWithFiles (files : List String) : Host Unit where
  windows := false
  currentDirectory := .ok "/work/dir"
  fileExists path := files.contains path
  shell _ s := (.ok (.streams (.bytes []) (.bytes [])), s)

/-- The path that was found for a run is told afterwards, though its file has gone and there is one at a
path that comes before it. -/
theorem ShellPath.path_outlives_its_file :
    ∃ q, (⟨hostWithFiles ["/usr/local/bin/bash"], .read ⟨none, none⟩⟩ : Moment Unit).action
        (Moment.afterAll (Memory.fresh ()) [⟨hostWithFiles [], .forget⟩,
          ⟨hostWithFiles ["/bin/bash"], .run ⟨none, none⟩ (.list []) .null⟩]) =
      .ok (.program (.text "/bin/bash")) q := by
  obtain ⟨⟨path, hone⟩, -⟩ := one_path_until_forgotten () [⟨hostWithFiles [], .forget⟩]
    [⟨hostWithFiles ["/bin/bash"], .run ⟨none, none⟩ (.list []) .null⟩,
      ⟨hostWithFiles ["/usr/local/bin/bash"], .read ⟨none, none⟩⟩]
    (.inr ⟨[], hostWithFiles [], rfl⟩)
    (by
      intro moment hmoment
      simp only [List.mem_cons, List.not_mem_nil, or_false] at hmoment
      rcases hmoment with rfl | rfl <;> exact Operation.noConfusion)
  have hlaunched :=
    (hone.launches [] _ _ rfl).2 (.launch (.text "/bin/bash") [] .null none) (.head _)
  obtain rfl : "/bin/bash" = path := by
    simpa [Call.program?, Operation.executor, Executor.programAt] using hlaunched
  exact (hone.told [_] _ [] rfl).2 _ rfl

end GlobOracle
