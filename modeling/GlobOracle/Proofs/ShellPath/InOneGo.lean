import GlobOracle.Proofs.ShellPath.Epoch
import GlobOracle.Proofs.ShellPath.Once

/-!
# A race does what one call does in one go

When the lock is free, the memory of a race is what it was in the beginning, or what `ShellPath.resolve`
leaves if it is done in one go (`ShellPath.Stands`).  Files may come and go between two questions of a
search, and still there are files with which `resolve` would have asked and found the same, since no path is
asked about twice.  So a search that is spread over many turns is like a search at one moment, and a batch may
take it as a part of one of its moves.

While a call has the lock, where it is tells how much of this is done (`Stage.Tells`).  Together with the
order among the calls this says all that matters of a race (`ShellPath.one_search_however_calls_race`).
-/

namespace GlobOracle

/-- The host, with other files. -/
def Host.withFiles {σ : Type} (host : Host σ) (files : String → Bool) : Host σ :=
  { host with fileExists := files }

namespace ShellPath

variable {σ : Type} {host : Host σ} {schedule : List Turn} {p q : Memory σ} {paths : List String}
  {path : String} {turn : Turn}

/-! ## Searches in one go -/

theorem search_cons_of_file (h : host.fileExists path = true) (paths : List String) (p : Memory σ) :
    search host (path :: paths) p = .ok path (p.record (.probed path)) := by
  have hprobe : Action.probe host path p = .ok true (p.record (.probed path)) := by
    rw [← h]
    rfl
  rw [search, Action.bind_of_ok hprobe]
  rfl

theorem search_cons_of_no_file (h : host.fileExists path = false) (paths : List String)
    (p : Memory σ) :
    search host (path :: paths) p = search host paths (p.record (.probed path)) := by
  have hprobe : Action.probe host path p = .ok false (p.record (.probed path)) := by
    rw [← h]
    rfl
  rw [search, Action.bind_of_ok hprobe]
  rfl

/-- A path that is found is settled and logged. -/
theorem resolve_of_search (hunsettled : p.shellPath = none)
    (h : search host candidates p = .ok path q) :
    resolve host p =
      .ok path (({ q with shellPath := some path } : Memory σ).record (.logged (.usingShell path))) := by
  have hget : (get : Action σ (Memory σ)) p = .ok p p := rfl
  rw [resolve, Action.bind_of_ok hget, hunsettled]
  dsimp only
  rw [Action.bind_of_ok h]
  rfl

theorem shellPath_of_resolve (h : resolve host p = .ok path q) : q.shellPath = some path := by
  obtain ⟨q', hq', -, -, hsettled, -⟩ := exists_resolve_eq host p
  rw [h] at hq'
  cases hq'
  exact hsettled

/-! ## What is remembered -/

/-- Files as they were at turns of a schedule, each path by one of them. -/
def Given (schedule : List Turn) (files : String → Bool) : Prop :=
  ∀ path, ∃ turn ∈ schedule, files path = turn.files path

/-- The memory is as it was in the beginning, or as `resolve` leaves it, with files as they were at turns of
a schedule. -/
def Stands (schedule : List Turn) (host : Host σ) (p q : Memory σ) : Prop :=
  q = p ∨ ∃ files path, Given schedule files ∧ resolve (host.withFiles files) p = .ok path q

/-- A search is going on: some paths have been asked about in vain, and with no files at them, what is still
to be done is what a search in one go comes to. -/
structure Seeks (schedule : List Turn) (host : Host σ) (p : Memory σ) (paths : List String)
    (q : Memory σ) : Prop where
  unsettled : p.shellPath = none
  exists_asked : ∃ asked, candidates = asked ++ paths ∧
    (∀ path ∈ asked, ∃ turn ∈ schedule, turn.files path = false) ∧
    ∀ files : String → Bool, (∀ path ∈ asked, files path = false) →
      search (host.withFiles files) candidates p = search (host.withFiles files) paths q

/-- A search is over, as a search in one go would be. -/
structure Finds (schedule : List Turn) (host : Host σ) (p : Memory σ) (path : String)
    (q : Memory σ) : Prop where
  unsettled : p.shellPath = none
  exists_files : ∃ files, Given schedule files ∧
    search (host.withFiles files) candidates p = .ok path q

/-- What is remembered where the call that has the lock is. -/
def Stage.Tells (schedule : List Turn) (host : Host σ) (p q : Memory σ) : Stage → Prop
  | entering | waiting | answering | answered _ => True
  | checking | leaving => Stands schedule host p q
  | searching paths => Seeks schedule host p paths q
  | settling path => Finds schedule host p path q
  | reporting => ∃ files path, Given schedule files ∧ q.shellPath = some path ∧
      resolve (host.withFiles files) p = .ok path (q.record (.logged (.usingShell path)))

/-- A call without the lock tells nothing of the memory. -/
theorem Stage.tells_of_not_hasLock {stage : Stage} (h : stage.hasLock = false) :
    stage.Tells schedule host p q := by
  cases stage with
  | entering | waiting | answering | answered => trivial
  | _ => cases h

/-- Paths that were asked about in vain at earlier turns, and all others as they are at this one. -/
theorem exists_given (hturn : turn ∈ schedule) {asked : List String}
    (hasked : ∀ path ∈ asked, ∃ turn ∈ schedule, turn.files path = false) :
    ∃ files, Given schedule files ∧ (∀ path ∈ asked, files path = false) ∧
      ∀ path, path ∉ asked → files path = turn.files path := by
  refine ⟨fun path => if path ∈ asked then false else turn.files path, fun path => ?_,
    fun path h => if_pos h, fun path h => if_neg h⟩
  by_cases h : path ∈ asked
  · obtain ⟨earlier, hearlier, hfile⟩ := hasked path h
    exact ⟨earlier, hearlier, (if_pos h).trans hfile.symm⟩
  · exact ⟨turn, hturn, if_neg h⟩

/-- A search begins where nothing has been done. -/
theorem Stands.seeks (h : Stands schedule host p q) (hunsettled : q.shellPath = none) :
    Seeks schedule host p candidates q := by
  rcases h with rfl | ⟨files, path, -, hresolved⟩
  · exact ⟨hunsettled, [], rfl, fun _ h => (nomatch h), fun _ _ => rfl⟩
  · have hsettled := shellPath_of_resolve hresolved
    rw [hunsettled] at hsettled
    cases hsettled

namespace Seeks

/-- A path without a file is asked about in vain. -/
theorem miss (h : Seeks schedule host p (path :: paths) q) (hturn : turn ∈ schedule)
    (hfile : turn.files path = false) :
    Seeks schedule host p paths (q.record (.probed path)) := by
  obtain ⟨asked, hcandidates, hasked, hsearch⟩ := h.exists_asked
  refine ⟨h.unsettled, asked ++ [path], by rw [hcandidates, List.append_assoc]; rfl, ?_, ?_⟩
  · intro path' hpath'
    rcases List.mem_append.1 hpath' with hpath' | hpath'
    · exact hasked path' hpath'
    · obtain rfl := List.mem_singleton.1 hpath'
      exact ⟨turn, hturn, hfile⟩
  · intro files hfiles
    have hpath : files path = false := hfiles path (List.mem_append_right _ List.mem_cons_self)
    rw [hsearch files fun path' hpath' => hfiles path' (List.mem_append_left _ hpath')]
    exact search_cons_of_no_file hpath paths q

/-- A path with a file is found.  It has not been asked about before. -/
theorem hit (h : Seeks schedule host p (path :: paths) q) (hturn : turn ∈ schedule)
    (hfile : turn.files path = true) :
    Finds schedule host p path (q.record (.probed path)) := by
  obtain ⟨asked, hcandidates, hasked, hsearch⟩ := h.exists_asked
  have hnew : path ∉ asked := by
    intro hpath
    have hnodup : candidates.Nodup := by decide
    rw [hcandidates, List.nodup_append] at hnodup
    exact hnodup.2.2 path hpath path List.mem_cons_self rfl
  obtain ⟨files, hgiven, hmissing, hothers⟩ := exists_given hturn hasked
  refine ⟨h.unsettled, files, hgiven, ?_⟩
  rw [hsearch files hmissing]
  exact search_cons_of_file ((hothers path hnew).trans hfile) paths q

/-- When all paths have been asked about in vain, the bare name is found. -/
theorem exhaust (h : Seeks schedule host p [] q) (hturn : turn ∈ schedule) :
    Finds schedule host p fallback q := by
  obtain ⟨asked, -, hasked, hsearch⟩ := h.exists_asked
  obtain ⟨files, hgiven, hmissing, -⟩ := exists_given hturn hasked
  exact ⟨h.unsettled, files, hgiven, hsearch files hmissing⟩

end Seeks

namespace Race

variable {r r' : Race σ} {i : Nat} {before after : Stage}

/-- What a race remembers: with a free lock, what one call does in one go or nothing, and otherwise what the
call tells that has the lock. -/
structure Told (schedule : List Turn) (host : Host σ) (p : Memory σ) (r : Race σ) : Prop where
  idle : r.locked = false → Stands schedule host p r.memory
  tell : ∀ stage ∈ r.calls, stage.Tells schedule host p r.memory

theorem told_begin (schedule : List Turn) (host : Host σ) (count : Nat) (p : Memory σ) :
    Told schedule host p (begin count p) := by
  refine ⟨fun _ => .inl rfl, fun stage hstage => ?_⟩
  obtain rfl : stage = .entering := (List.mem_replicate.1 hstage).2
  trivial

namespace Told

/-- A call that goes on keeps what is told, if it leaves the memory alone or has the lock, and tells what is
remembered afterwards. -/
theorem move (h : Told schedule host p r) (ho : Orderly p r) (hcall : r.calls[i]? = some before)
    (hcalls : r'.calls = r.calls.set i after)
    (hmemory : before.hasLock = true ∨ r'.memory = r.memory)
    (hidle : r'.locked = false → Stands schedule host p r'.memory)
    (hafter : after.Tells schedule host p r'.memory) : Told schedule host p r' := by
  refine ⟨hidle, fun stage hstage => ?_⟩
  rw [hcalls] at hstage
  rcases hmemory with hhas | hmemory
  · rcases ho.others_unlocked hcall hhas after stage hstage with rfl | hunlocked
    · exact hafter
    · exact Stage.tells_of_not_hasLock hunlocked
  · rcases List.mem_or_eq_of_mem_set hstage with hstage | rfl
    · rw [hmemory]
      exact h.tell stage hstage
    · exact hafter

/-- **Every step keeps what is told.** -/
theorem of_stepped (h : Told schedule host p r) (ho : Orderly p r) (hturn : turn ∈ schedule)
    (hstep : Stepped r turn r') : Told schedule host p r' := by
  have htells {stage : Stage} (hcall : r.calls[turn.call]? = some stage) :
      stage.Tells schedule host p r.memory := h.tell stage (List.mem_of_getElem? hcall)
  -- While the call that moves has the lock, nothing has to be shown of a free one.
  have hheld {stage : Stage} (hcall : r.calls[turn.call]? = some stage)
      (hhas : stage.hasLock = true) (q : Memory σ) : r.locked = false → Stands schedule host p q := by
    intro hfree
    rw [ho.locked_of_hasLock (List.mem_of_getElem? hcall) hhas] at hfree
    cases hfree
  cases hstep with
  | found hcall _ => exact h.move ho hcall rfl (.inr rfl) h.idle trivial
  | missed hcall _ => exact h.move ho hcall rfl (.inr rfl) h.idle trivial
  | acquired hcall hfree =>
      have hstands := h.idle hfree
      exact h.move ho hcall rfl (.inr rfl) (fun _ => hstands) hstands
  | forestalled hcall _ =>
      have hstands : Stands schedule host p r.memory := htells hcall
      exact h.move ho hcall rfl (.inl rfl) (fun _ => hstands) hstands
  | began hcall hunsettled =>
      have hstands : Stands schedule host p r.memory := htells hcall
      exact h.move ho hcall rfl (.inl rfl) (hheld hcall rfl _) (hstands.seeks hunsettled)
  | hit hcall hfile =>
      have hseeks : Seeks schedule host p _ r.memory := htells hcall
      exact h.move ho hcall rfl (.inl rfl) (hheld hcall rfl _) (hseeks.hit hturn hfile)
  | miss hcall hfile =>
      have hseeks : Seeks schedule host p _ r.memory := htells hcall
      exact h.move ho hcall rfl (.inl rfl) (hheld hcall rfl _) (hseeks.miss hturn hfile)
  | exhausted hcall =>
      have hseeks : Seeks schedule host p _ r.memory := htells hcall
      exact h.move ho hcall rfl (.inl rfl) (hheld hcall rfl _) (hseeks.exhaust hturn)
  | @settled path hcall =>
      have hfinds : Finds schedule host p path r.memory := htells hcall
      obtain ⟨files, hgiven, hsearch⟩ := hfinds.exists_files
      exact h.move ho hcall rfl (.inl rfl) (hheld hcall rfl _)
        ⟨files, path, hgiven, rfl, resolve_of_search hfinds.unsettled hsearch⟩
  | reported hcall =>
      obtain ⟨files, path, hgiven, hpath, hresolved⟩ := htells hcall
      refine h.move ho hcall rfl (.inl rfl) (hheld hcall rfl _) (.inr ⟨files, path, hgiven, ?_⟩)
      rw [hpath]
      exact hresolved
  | released hcall =>
      have hstands : Stands schedule host p r.memory := htells hcall
      exact h.move ho hcall rfl (.inl rfl) (fun _ => hstands) trivial
  | read hcall => exact h.move ho hcall rfl (.inr rfl) h.idle trivial

end Told

theorem told_follow (schedule : List Turn) (host : Host σ) (count : Nat) (p : Memory σ) :
    Told schedule host p ((begin count p).follow schedule) := by
  have hstep : ∀ r, ∀ turn ∈ schedule, ∀ r', Orderly p r ∧ Told schedule host p r →
      Stepped r turn r' → Orderly p r' ∧ Told schedule host p r' :=
    fun _ _ hturn _ hr hstep => ⟨hr.1.of_stepped hstep, hr.2.of_stepped hr.1 hturn hstep⟩
  exact (follow_induction schedule hstep
    ⟨orderly_begin count p, told_begin schedule host count p⟩).2

end Race

/-- **However calls race for the path of the shell, there is one search.**  Whatever number of calls there
is, in whatever order they move, and whatever files there are when they do: one search at most has begun,
and none if the path was settled before; a path that is settled stays, and all that have answered have
answered that path.  With a free lock, the memory is as it was in the beginning, or as one call leaves it
that does all in one go. -/
theorem one_search_however_calls_race (host : Host σ) (p : Memory σ) (count : Nat)
    (schedule : List Turn) :
    ((Race.begin count p).follow schedule).searches + p.shellPath.isSome.toNat ≤ 1 ∧
    (∀ path, ((Race.begin count p).follow schedule).memory.shellPath = some path →
      ∀ later, ((Race.begin count p).follow (schedule ++ later)).memory.shellPath = some path) ∧
    (∀ answer, .answered answer ∈ ((Race.begin count p).follow schedule).calls →
      ∃ path, answer = some path ∧
        ((Race.begin count p).follow schedule).memory.shellPath = some path) ∧
    (((Race.begin count p).follow schedule).locked = false →
      ((Race.begin count p).follow schedule).memory = p ∨
      ∃ files path, (∀ path, ∃ turn ∈ schedule, files path = turn.files path) ∧
        resolve (host.withFiles files) p =
          .ok path ((Race.begin count p).follow schedule).memory) := by
  have horderly := (Race.orderly_begin count p).of_follow schedule
  refine ⟨horderly.searches_le_one, fun path hsettled later => ?_, fun answer hanswer => ?_,
    (Race.told_follow schedule host count p).idle⟩
  · rw [Race.follow_append]
    exact horderly.keepsPath_follow hsettled later
  · obtain ⟨hsettled, hread⟩ := horderly.agree _ hanswer
    obtain ⟨path, hpath⟩ := Option.isSome_iff_exists.1 hsettled
    exact ⟨path, hread.trans hpath, hpath⟩

/-- Turns of two calls that both find no path.  There are no files when the first one asks about the first
path, there are all when it asks about the second one, and there are none again from then on. -/
def fickleTurns : List Turn :=
  [0, 1, 0, 1, 0, 0].map (⟨·, fun _ => false⟩) ++ [⟨0, fun _ => true⟩] ++
    [0, 0, 1, 0, 1, 1, 1, 1, 0].map (⟨·, fun _ => false⟩)

/-- The second call answers the path that the first one has found, though there is no file any more. -/
theorem latecomer_answers_path_found_before :
    ((Race.begin 2 (Memory.fresh ())).follow fickleTurns).calls =
      [.answered (some "/bin/bash"), .answered (some "/bin/bash")] ∧
    (∀ later, ((Race.begin 2 (Memory.fresh ())).follow (fickleTurns ++ later)).memory.shellPath =
      some "/bin/bash") ∧
    ∃ files, resolve ((hostWithFiles []).withFiles files) (Memory.fresh ()) =
      .ok "/bin/bash" ((Race.begin 2 (Memory.fresh ())).follow fickleTurns).memory := by
  obtain ⟨-, hstays, hanswers, hstands⟩ :=
    one_search_however_calls_race (hostWithFiles []) (Memory.fresh ()) 2 fickleTurns
  obtain ⟨path, hpath, hsettled⟩ := hanswers (some "/bin/bash") (.head _)
  obtain rfl : "/bin/bash" = path := Option.some.inj hpath
  refine ⟨rfl, hstays _ hsettled, ?_⟩
  rcases hstands rfl with hfresh | ⟨files, path, -, hresolved⟩
  · rw [hfresh] at hsettled
    cases hsettled
  · obtain rfl : "/bin/bash" = path :=
      Option.some.inj (hsettled.symm.trans (shellPath_of_resolve hresolved))
    exact ⟨files, hresolved⟩

end ShellPath

end GlobOracle
