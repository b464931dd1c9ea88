import GlobOracle.Proofs.Batch.Permits
import GlobOracle.Proofs.InTurn

/-!
# The discipline of a batch

A batch keeps order whatever its items are, whatever the shell replies and in whatever order its tasks
move (`Batch.Disciplined`, `Matcher.batch_is_disciplined`): no more runs are in flight than there are
permits, no permit is lost or given back twice, no item is handed to the shell twice, and as long as some
task has not ended some move can be made.

The permits are accounted for by the balance of `Batch.Permits`.  For the runs there is a ledger of the
texts that have been handed over, each with the place of its task (`Batch.Ledger`); one move writes at most
one line into it, and the lines are exactly the tasks that a worker has taken up.
-/

namespace GlobOracle

variable {σ : Type} {host : Host σ} {p q : Memory σ}

/-! ## Tasks by what they have behind them -/

/-- Has a worker taken the request of the task up?  A task that has ended counts, though one whose
arguments were rejected had no request. -/
def Task.isTakenUp : Task → Bool
  | running _ _ | finished _ => true
  | _ => false

theorem Task.isTakenUp_of_isFinished {task : Task} (h : task.isFinished = true) :
    task.isTakenUp = true := by
  obtain ⟨result, rfl⟩ := isFinished_iff.1 h
  rfl

namespace Batch

variable {b b' : Batch σ} {tasks : List (Value × Task)} {bound : Nat}

theorem countP_inFlight_le (tasks : List (Value × Task)) :
    tasks.countP (·.2.inFlight) ≤ tasks.countP (·.2.holdsPermit) := by
  refine List.countP_mono_left fun t _ hflight => ?_
  obtain ⟨r, answer, htask⟩ := Task.inFlight_iff.1 hflight
  rw [htask]
  rfl

/-- Whoever has got a permit holds it still or has ended. -/
theorem countP_not_isWaiting (tasks : List (Value × Task)) :
    tasks.countP (!·.2.isWaiting) =
      tasks.countP (·.2.holdsPermit) + tasks.countP (·.2.isFinished) := by
  induction tasks with
  | nil => rfl
  | cons t tasks ih =>
      obtain ⟨item, task⟩ := t
      rw [List.countP_cons, List.countP_cons, List.countP_cons, ih]
      cases task <;> simp [Task.isWaiting, Task.holdsPermit, Task.isFinished] <;> omega

/-! ## The ledger of the runs -/

/-- The texts that have been handed to the shell so far, in order, each with the place of its task.  The
host has been asked for their runs and for no others, each task stands in it once, and it is there exactly
if a worker has taken it up. -/
structure Ledger (m : Matcher) (host : Host σ) (p : Memory σ) (pattern : String) (o : Options)
    (handed : List (Nat × String)) (tasks : List (Value × Task)) (q : Memory σ) : Prop where
  asked : p.Asked host (handed.map fun t => m.callFor host p ⟨t.2, pattern, o⟩) q
  nodup : (handed.map (·.1)).Nodup
  mem_iff : ∀ i s, (i, s) ∈ handed ↔
    ∃ task, tasks[i]? = some (.text s, task) ∧ task.isTakenUp = true
  entered : ∀ t ∈ tasks, ∀ r, t.2 = .entered r → ∃ s, t.1 = .text s ∧ r = ⟨s, pattern, o⟩

namespace Ledger

variable {m : Matcher} {pattern : String} {o : Options} {handed : List (Nat × String)} {i : Nat}
  {item : Value} {s : String} {before after : Task}

theorem begin (m : Matcher) (host : Host σ) (p : Memory σ) (pattern : String) (o : Options)
    (bound : Nat) (items : List Value) :
    Ledger m host p pattern o [] (Batch.begin bound items p).tasks p := by
  refine ⟨.refl host p, List.nodup_nil, ?_, ?_⟩
  · intro i s
    constructor
    · intro h
      cases h
    · rintro ⟨task, htask, htaken⟩
      obtain rfl : task = .waiting := eq_waiting_of_mem_begin (List.mem_of_getElem? htask)
      cases htaken
  · intro t ht r hentered
    rw [eq_waiting_of_mem_begin ht] at hentered
    cases hentered

/-- A memory in which no more runs have been asked for has the same ledger. -/
theorem withMemory {r : Memory σ} (h : Ledger m host p pattern o handed tasks q)
    (hasked : q.Asked host [] r) : Ledger m host p pattern o handed tasks r :=
  ⟨by simpa using h.asked.trans hasked, h.nodup, h.mem_iff, h.entered⟩

/-- A move of a task that hands nothing over leaves the ledger as it is. -/
theorem set (h : Ledger m host p pattern o handed tasks q) (htask : tasks[i]? = some (item, before))
    (hafter : ∀ s, item = .text s → after.isTakenUp = before.isTakenUp)
    (hentered : ∀ r, after = .entered r → ∃ s, item = .text s ∧ r = ⟨s, pattern, o⟩) :
    Ledger m host p pattern o handed (tasks.set i (item, after)) q := by
  refine ⟨h.asked, h.nodup, ?_, ?_⟩
  · intro j s
    rw [h.mem_iff]
    by_cases hij : i = j
    · subst hij
      obtain ⟨hi, -⟩ := List.getElem?_eq_some_iff.1 htask
      rw [List.getElem?_set_self hi, htask]
      constructor
      · rintro ⟨task, hhere, htaken⟩
        cases hhere
        exact ⟨after, rfl, (hafter s rfl).trans htaken⟩
      · rintro ⟨task, hhere, htaken⟩
        cases hhere
        exact ⟨before, rfl, (hafter s rfl).symm.trans htaken⟩
    · rw [List.getElem?_set_ne hij]
  · intro t ht
    rcases List.mem_or_eq_of_mem_set ht with ht | rfl
    · exact h.entered t ht
    · exact hentered

/-- A text that is handed over gets a line of its own. -/
theorem hand (h : Ledger m host p pattern o handed tasks q) {r : Memory σ}
    (htask : tasks[i]? = some (.text s, before)) (hbefore : before.isTakenUp = false)
    (hafter : after.isTakenUp = true)
    (hasked : q.Asked host [m.callFor host p ⟨s, pattern, o⟩] r) :
    Ledger m host p pattern o (handed ++ [(i, s)]) (tasks.set i (.text s, after)) r := by
  refine ⟨by simpa using h.asked.trans hasked, ?_, ?_, ?_⟩
  · -- The task has had no line yet, since no worker had taken it up.
    have hnew : ∀ t, (i, t) ∉ handed := by
      intro t ht
      obtain ⟨task, htask', htaken⟩ := (h.mem_iff i t).1 ht
      rw [htask] at htask'
      cases htask'
      rw [hbefore] at htaken
      cases htaken
    rw [List.map_append, List.nodup_append]
    refine ⟨h.nodup, by simp, ?_⟩
    rintro j hj k hk rfl
    obtain rfl : j = i := by simpa using hk
    obtain ⟨⟨j, t⟩, ht, rfl⟩ := List.mem_map.1 hj
    exact hnew t ht
  · intro j t
    rw [List.mem_append, List.mem_singleton, Prod.mk.injEq, h.mem_iff]
    by_cases hij : i = j
    · subst hij
      obtain ⟨hi, -⟩ := List.getElem?_eq_some_iff.1 htask
      rw [List.getElem?_set_self hi, htask]
      constructor
      · rintro (⟨task, hhere, htaken⟩ | ⟨-, rfl⟩)
        · cases hhere
          rw [hbefore] at htaken
          cases htaken
        · exact ⟨after, rfl, hafter⟩
      · rintro ⟨task, hhere, -⟩
        cases hhere
        exact Or.inr ⟨rfl, rfl⟩
    · rw [List.getElem?_set_ne hij]
      simp [Ne.symm hij]
  · intro t ht g hentered
    rcases List.mem_or_eq_of_mem_set ht with ht | rfl
    · exact h.entered t ht g hentered
    · obtain rfl : after = .entered g := hentered
      cases hafter

end Ledger

section Handed

variable {m : Matcher} {pattern : String} {o : Options} {handed : List (Nat × String)} {move : Move}
  (posix : host.windows = false) (canonical : o.has .normalized = true)

include posix canonical

/-- **Every move leaves a ledger**, with one more line if it takes a request up. -/
theorem exists_ledger_of_stepped (h : Ledger m host p pattern o handed b.tasks b.memory)
    (hstep : Stepped m host (.text pattern) o b move b') :
    ∃ handed', Ledger m host p pattern o handed' b'.tasks b'.memory := by
  cases hstep with
  | @admitted i item r htask _ hrequest =>
      obtain ⟨s, rfl, rfl⟩ := Matcher.exists_text_of_request canonical hrequest
      refine ⟨handed, h.set htask (fun _ _ => rfl) ?_⟩
      rintro r ⟨⟩
      exact ⟨s, rfl, rfl⟩
  | @rejected i item f htask _ hrequest =>
      rw [close_tasks, close_memory]
      refine ⟨handed, h.set htask ?_ fun r => Task.noConfusion⟩
      rintro s rfl
      rw [Matcher.request_canonical canonical] at hrequest
      cases hrequest
  | @started i item r answer q htask hevaluate =>
      obtain ⟨s, rfl, rfl⟩ := h.entered _ (List.mem_of_getElem? htask) r rfl
      obtain ⟨-, hasked⟩ := m.asked_of_evaluate posix hevaluate
      -- The shell is found where it was, so this is the call that the ledger has for the text.
      rw [m.callFor_eq_of_found h.asked.found_eq] at hasked
      exact ⟨handed ++ [(i, s)], h.hand htask rfl rfl hasked⟩
  | @ended i item r answer result q htask hfinish =>
      rw [close_tasks, close_memory]
      have hset : Ledger m host p pattern o handed (b.tasks.set i (item, .finished result)) b.memory :=
        h.set htask (fun _ _ => rfl) fun r => Task.noConfusion
      exact ⟨handed, hset.withMemory (Matcher.asked_of_finish hfinish).2⟩

/-- After every schedule there is a ledger. -/
theorem exists_ledger_follow (m : Matcher) (p : Memory σ) (pattern : String) (bound : Nat)
    (items : List Value) (schedule : List Move) :
    ∃ handed, Ledger m host p pattern o handed
      ((Batch.begin bound items p).follow m host (.text pattern) o schedule).tasks
      ((Batch.begin bound items p).follow m host (.text pattern) o schedule).memory :=
  follow_induction (motive := fun b => ∃ handed, Ledger m host p pattern o handed b.tasks b.memory)
    (fun _ _ _ ⟨_, h⟩ hstep => exists_ledger_of_stepped posix canonical h hstep) schedule
    ⟨[], .begin m host p pattern o bound items⟩

end Handed

/-- The tasks of a batch stand in the order of its items. -/
theorem items_eq_follow (m : Matcher) (host : Host σ) (pattern : Value) (o : Options) (bound : Nat)
    (items : List Value) (p : Memory σ) (schedule : List Move) :
    ((Batch.begin bound items p).follow m host pattern o schedule).tasks.map (·.1) = items := by
  refine follow_induction (motive := fun b => b.tasks.map (·.1) = items) ?_ schedule
    (map_fst_begin bound items p)
  intro b move b' hb hstep
  obtain ⟨i, item, before, after, htask, htasks, -⟩ := exists_task_of_stepped hstep
  rw [htasks, map_fst_set htask, hb]

/-! ## Discipline -/

/-- A batch in good order, with a bound on the runs in flight and the memory from which it began. -/
structure Disciplined (m : Matcher) (host : Host σ) (p : Memory σ) (pattern : String) (o : Options)
    (items : List Value) (bound : Nat) (b : Batch σ) : Prop where
  /-- Every item has its task. -/
  items_eq : b.tasks.map (·.1) = items
  /-- No more runs are in flight than the bound allows. -/
  inFlight_le : b.tasks.countP (·.2.inFlight) ≤ bound
  /-- Every permit is free or held by a task. -/
  permits_eq : b.free + b.tasks.countP (·.2.holdsPermit) = bound
  /-- Every task that does not wait has taken a permit, and every task that has ended has given one
  back. -/
  returned_eq : b.free + b.tasks.countP (!·.2.isWaiting) = bound + b.tasks.countP (·.2.isFinished)
  /-- A move takes one task further that has not ended, and the permit that this task gains or loses is the
  only one that changes hands. -/
  step_permits : ∀ move b', b.step? m host (.text pattern) o move = some b' →
    ∃ i item before after, b.tasks[i]? = some (item, before) ∧ before.isFinished = false ∧
      b'.tasks = b.tasks.set i (item, after) ∧
      b'.free + after.holdsPermit.toNat = b.free + before.holdsPermit.toNat
  /-- The host has been asked for the runs of some texts, no place among them twice: those whose tasks a
  worker has taken up.  They are all texts of the batch if it has come to its end without a failure. -/
  handed : ∃ handed : List (Nat × String),
    b.memory.calls = p.calls ++ handed.map (fun t => m.callFor host p ⟨t.2, pattern, o⟩) ∧
    (handed.map (·.1)).Nodup ∧
    (∀ i s, (i, s) ∈ handed ↔ ∃ task, b.tasks[i]? = some (.text s, task) ∧ task.isTakenUp = true) ∧
    (b.isSettled = true → b.failure = none → ∀ i s, items[i]? = some (.text s) → (i, s) ∈ handed)
  /-- As long as some task has not ended, some move can be made. -/
  progress : (∃ t ∈ b.tasks, t.2.isFinished = false) →
    ∃ move b', b.step? m host (.text pattern) o move = some b'

/-- A batch that begins with at least one permit is in good order after every schedule. -/
theorem disciplined_follow (m : Matcher) {pattern : String} {o : Options}
    (posix : host.windows = false) (canonical : o.has .normalized = true) (hbound : bound ≠ 0)
    (items : List Value) (p : Memory σ) (schedule : List Move) :
    Disciplined m host p pattern o items bound
      ((Batch.begin bound items p).follow m host (.text pattern) o schedule) := by
  have hitems := items_eq_follow m host (.text pattern) o bound items p schedule
  have hbalanced : Balanced bound
      ((Batch.begin bound items p).follow m host (.text pattern) o schedule) :=
    balanced_follow schedule (balanced_begin bound items p)
  obtain ⟨handed, hledger⟩ := exists_ledger_follow posix canonical m p pattern bound items schedule
  generalize (Batch.begin bound items p).follow m host (.text pattern) o schedule = b at *
  have hpermits : b.free + b.tasks.countP (·.2.holdsPermit) = bound := hbalanced
  refine ⟨hitems, ?_, hpermits, ?_, ?_, ?_, ?_⟩
  · have hle := countP_inFlight_le b.tasks
    omega
  · have hcount := countP_not_isWaiting b.tasks
    omega
  · intro move b' hmove
    obtain ⟨i, item, before, after, htask, htasks, hfree, hcloser⟩ :=
      exists_task_of_stepped (stepped_of_step? hmove)
    have hbefore := Task.isFinished_eq_false_of_ahead (Nat.zero_lt_of_lt hcloser)
    exact ⟨i, item, before, after, htask, hbefore, htasks, hfree⟩
  · refine ⟨handed, hledger.asked.calls_eq, hledger.nodup, hledger.mem_iff, ?_⟩
    intro hsettled hnone i s hitem
    rw [isSettled, hasFailed, hnone, Option.isSome_none, Bool.false_or, List.all_eq_true] at hsettled
    rw [← hitems, List.getElem?_map] at hitem
    obtain ⟨⟨item, task⟩, htask, rfl⟩ := Option.map_eq_some_iff.1 hitem
    exact (hledger.mem_iff i s).2
      ⟨task, htask, Task.isTakenUp_of_isFinished (hsettled _ (List.mem_of_getElem? htask))⟩
  · intro hunfinished
    obtain ⟨move, b', hstep⟩ := exists_stepped m host (.text pattern) o hbalanced hbound hunfinished
    exact ⟨move, b', step?_of_stepped hstep⟩

end Batch

namespace Matcher

/-- **A batch keeps its discipline under every schedule.**  Whatever limit is set, there are as many
permits as it says and at least one.  In every state that the batch can come to, no more runs are in flight
than there are permits, all permits are accounted for, no text has been handed to the shell twice and each
one has by the end of a batch without failures, and some move can be made as long as some task has not
ended. -/
theorem batch_is_disciplined {limit : Value} {n : Int} (accepted : wholeNumber limit = .ok n)
    (executor : Executor) {listed options : Value} {pattern : String} {items : List Value}
    {o : Options} (prepared : prepare host listed (.text pattern) options = .ok (items, o))
    (p : Memory σ) :
    ∃ (m : Matcher) (bound : Nat), ofValue executor limit = .ok m ∧ (bound : Int) = max 1 n ∧
      ∀ schedule, ∃ b, b = (Batch.begin m.bound items p).follow m host (.text pattern) o schedule ∧
        m.filterScheduled host listed (.text pattern) options schedule p = b.answer ∧
        b.Disciplined m host p pattern o items bound := by
  obtain ⟨-, posix, hnormal, -⟩ := prepare_eq_ok_iff.1 prepared
  have canonical : o.has .normalized = true := Options.has_normalized_of_normalize hnormal
  refine ⟨⟨executor, boundOf n⟩, boundOf n, by rw [ofValue, accepted]; rfl, ?_, fun schedule => ?_⟩
  · show (((max 1 n).toNat : Nat) : Int) = max 1 n
    omega
  · refine ⟨_, rfl, ?_,
      Batch.disciplined_follow _ posix canonical (boundOf_ne_zero n) items p schedule⟩
    rw [filterScheduled, prepared]
    rfl

/-- A limit below zero lets one text at a time be run, also if an item is no text, and a limit of two lets
two texts be run at once, but no more. -/
theorem one_run_below_zero_two_at_two :
    ∃ o, ∀ (limit : Value) (bound : Nat),
      limit = .int (-3) ∧ bound = 1 ∨ limit = .text " 2" ∧ bound = 2 →
      ∃ m, ofValue .direct limit = .ok m ∧
        (∀ schedule, ∃ b, b = (Batch.begin m.bound [.text "a", .int 1, .text "a"]
            (Memory.fresh 0)).follow m tiringHost (.text "a") o schedule ∧
          b.tasks.countP (·.2.inFlight) ≤ bound ∧
          b.free + b.tasks.countP (·.2.holdsPermit) = bound) ∧
        ∃ schedule, ((Batch.begin m.bound [.text "a", .int 1, .text "a"]
          (Memory.fresh 0)).follow m tiringHost (.text "a") o schedule).tasks.countP (·.2.inFlight) =
            bound := by
  let bothIn : List Move := [.enter 0, .enter 2, .start 0, .start 2]
  obtain ⟨o, prepared, hone, htwo⟩ : ∃ o,
      prepare tiringHost (.list [.text "a", .int 1, .text "a"]) (.text "a") .null =
        .ok ([.text "a", .int 1, .text "a"], o) ∧
      ((Batch.begin 1 [.text "a", .int 1, .text "a"] (Memory.fresh 0)).follow ⟨.direct, 1⟩ tiringHost
        (.text "a") o bothIn).tasks.countP (·.2.inFlight) = 1 ∧
      ((Batch.begin 2 [.text "a", .int 1, .text "a"] (Memory.fresh 0)).follow ⟨.direct, 2⟩ tiringHost
        (.text "a") o bothIn).tasks.countP (·.2.inFlight) = 2 := ⟨_, rfl, rfl, rfl⟩
  refine ⟨o, fun limit bound hlimit => ?_⟩
  obtain ⟨n, accepted, hn⟩ : ∃ n, wholeNumber limit = .ok n ∧ (bound : Int) = max 1 n := by
    rcases hlimit with ⟨rfl, rfl⟩ | ⟨rfl, rfl⟩
    · exact ⟨-3, rfl, by decide⟩
    · exact ⟨2, rfl, by decide⟩
  obtain ⟨m, bound', hmade, hbound, hschedule⟩ :=
    batch_is_disciplined accepted .direct prepared (Memory.fresh 0)
  obtain rfl : bound' = bound := by omega
  refine ⟨m, hmade, fun schedule => ?_, bothIn, ?_⟩
  · obtain ⟨b, hb, -, hdisciplined⟩ := hschedule schedule
    exact ⟨b, hb, hdisciplined.inFlight_le, hdisciplined.permits_eq⟩
  · rcases hlimit with ⟨rfl, rfl⟩ | ⟨rfl, rfl⟩
    · obtain rfl : (⟨.direct, 1⟩ : Matcher) = m := Except.ok.inj hmade
      exact hone
    · obtain rfl : (⟨.direct, 2⟩ : Matcher) = m := Except.ok.inj hmade
      exact htwo

end Matcher

end GlobOracle
