import GlobOracle.Proofs.Batch.Step

/-!
# How a batch is run to its end

`Batch.run` makes the moves of one schedule among many (`exists_run_eq_follow`), and with at least one
permit it does not stop before the batch is settled (`isSettled_run`).

What carries the second is that the tasks stand in a line (`Lined`): those that have ended come first, then
those that are running, then those that wait.  As long as a task waits no permit is free, so some task is
running, and it is the next one to end.
-/

namespace GlobOracle.Batch

variable {σ : Type} (m : Matcher) (host : Host σ) (pattern : Value) (options : Options) {b : Batch σ}
  {bound : Nat} {ended active idle : List (Value × Task)}

/-! ## The schedule that is chosen -/

theorem foldl_letIn_eq_follow (places : List Nat) (b : Batch σ) :
    places.foldl (letIn m host pattern options) b =
      b.follow m host pattern options (places.flatMap fun i => [.enter i, .start i]) := by
  induction places generalizing b with
  | nil => rfl
  | cons i places ih =>
      rw [List.foldl_cons, ih, List.flatMap_cons, follow_append, letIn]

theorem exists_letNextIn_eq_follow (b : Batch σ) :
    ∃ schedule, b.letNextIn m host pattern options = b.follow m host pattern options schedule := by
  unfold letNextIn
  by_cases hfailed : b.hasFailed = true
  · exact ⟨[], if_pos hfailed⟩
  · rw [if_neg hfailed]
    cases b.tasks.findIdx? (·.2.isWaiting) with
    | none => exact ⟨[], rfl⟩
    | some i => exact ⟨[.enter i, .start i], rfl⟩

theorem exists_drain_eq_follow (places : List Nat) (b : Batch σ) :
    ∃ schedule, b.drain m host pattern options places = b.follow m host pattern options schedule := by
  induction places generalizing b with
  | nil => exact ⟨[], rfl⟩
  | cons i places ih =>
      rw [drain]
      by_cases hfailed : b.hasFailed = true
      · exact ⟨[], if_pos hfailed⟩
      · rw [if_neg hfailed]
        obtain ⟨next, hnext⟩ := exists_letNextIn_eq_follow m host pattern options
          (b.attempt m host pattern options (.finish i))
        obtain ⟨rest, hrest⟩ := ih ((b.attempt m host pattern options (.finish i)).letNextIn m host
          pattern options)
        refine ⟨.finish i :: (next ++ rest), ?_⟩
        show drain m host pattern options _ places =
          (b.attempt m host pattern options (.finish i)).follow m host pattern options (next ++ rest)
        rw [hrest, hnext, follow_append]

/-- **A run is one of the schedules.** -/
theorem exists_run_eq_follow (b : Batch σ) :
    ∃ schedule, b.run m host pattern options = b.follow m host pattern options schedule := by
  obtain ⟨rest, hrest⟩ := exists_drain_eq_follow m host pattern options (List.range b.tasks.length)
    (b.letAllIn m host pattern options)
  refine ⟨(List.range b.tasks.length).flatMap (fun i => [.enter i, .start i]) ++ rest, ?_⟩
  rw [run, hrest, letAllIn, foldl_letIn_eq_follow, follow_append]

/-! ## Tasks in a line -/

/-- The tasks stand in a line: those that have ended, those that are running and those that wait.  Every
permit is free or held by a task that is running. -/
structure Lined (bound : Nat) (ended active idle : List (Value × Task)) (b : Batch σ) : Prop where
  tasks_eq : b.tasks = (ended ++ active) ++ idle
  isFinished : ∀ t ∈ ended, t.2.isFinished = true
  inFlight : ∀ t ∈ active, t.2.inFlight = true
  isWaiting : ∀ t ∈ idle, t.2.isWaiting = true
  permits : b.free + active.length = bound

theorem getElem?_length_append_cons {α : Type} (front : List α) (x : α) (back : List α) :
    (front ++ x :: back)[front.length]? = some x := by
  simp

theorem set_length_append_cons {α : Type} (front : List α) (x y : α) (back : List α) :
    (front ++ x :: back).set front.length y = front ++ y :: back := by
  simp

namespace Lined

/-- No task of a line has entered without being taken up. -/
theorem ne_entered (h : Lined bound ended active idle b) {item : Value} {task : Task} {i : Nat}
    (htask : b.tasks[i]? = some (item, task)) (r : Request) : task ≠ .entered r := by
  rintro rfl
  have hmem := List.mem_of_getElem? htask
  rw [h.tasks_eq, List.mem_append, List.mem_append] at hmem
  rcases hmem with (hmem | hmem) | hmem
  · cases h.isFinished _ hmem
  · cases h.inFlight _ hmem
  · cases h.isWaiting _ hmem

/-- Without a free permit nobody is let in. -/
theorem letIn_eq_self (h : Lined bound ended active idle b) (hfree : b.free = 0) (i : Nat) :
    b.letIn m host pattern options i = b := by
  have henter : b.enter? host pattern options i = none := by
    unfold enter?
    split
    · rw [if_pos hfree]
    · rfl
  have hstart : b.start? m host i = none := by
    unfold start?
    split
    · rename_i item r htask
      exact absurd rfl (h.ne_entered htask r)
    · rfl
  have hattempt : b.attempt m host pattern options (.enter i) = b := by
    rw [attempt, step?, henter, Option.getD_none]
  show (b.attempt m host pattern options (.enter i)).attempt m host pattern options (.start i) = b
  rw [hattempt, attempt, step?, hstart, Option.getD_none]

/-- With a free permit the first task that waits is rejected, which is the end of the batch, or is taken
up. -/
theorem letIn_waiting {item : Value} (h : Lined bound ended active ((item, .waiting) :: idle) b)
    (hfree : b.free ≠ 0) :
    (b.letIn m host pattern options (ended ++ active).length).hasFailed = true ∨
      ∃ r answer, Lined bound ended (active ++ [(item, .running r answer)]) idle
        (b.letIn m host pattern options (ended ++ active).length) := by
  have htask : b.tasks[(ended ++ active).length]? = some (item, .waiting) := by
    rw [h.tasks_eq, getElem?_length_append_cons]
  have hletIn : b.letIn m host pattern options (ended ++ active).length =
      (b.attempt m host pattern options (.enter (ended ++ active).length)).follow m host pattern
        options [.start (ended ++ active).length] := rfl
  cases hrequest : Matcher.request host item pattern options.value with
  | error f =>
      left
      rw [hletIn, attempt_of_stepped (.rejected htask hfree hrequest)]
      exact hasFailed_follow _ (hasFailed_close_error b _ item f)
  | ok r =>
      right
      let entered : Batch σ :=
        { b.put (ended ++ active).length item (.entered r) with free := b.free - 1 }
      have htasks : entered.tasks = (ended ++ active) ++ (item, .entered r) :: idle := by
        show b.tasks.set (ended ++ active).length (item, .entered r) = _
        rw [h.tasks_eq, set_length_append_cons]
      obtain ⟨answer, q, hevaluate⟩ := Action.exists_eq_ofExcept (m.evaluate host r) entered.memory
      have hentered : entered.tasks[(ended ++ active).length]? = some (item, .entered r) := by
        rw [htasks, getElem?_length_append_cons]
      refine ⟨r, answer, ?_⟩
      rw [hletIn, attempt_of_stepped (.admitted htask hfree hrequest)]
      show Lined _ _ _ _ (entered.attempt m host pattern options (.start (ended ++ active).length))
      rw [attempt_of_stepped (.started hentered hevaluate)]
      refine ⟨?_, h.isFinished, ?_, fun t ht => h.isWaiting t (List.mem_cons_of_mem _ ht), ?_⟩
      · show entered.tasks.set (ended ++ active).length (item, .running r answer) = _
        rw [htasks, set_length_append_cons]
        simp only [List.append_assoc, List.singleton_append]
      · intro t ht
        rcases List.mem_append.1 ht with ht | ht
        · exact h.inFlight t ht
        · rw [List.mem_singleton.1 ht]
          rfl
      · have hpermits := h.permits
        show b.free - 1 + (active ++ [(item, Task.running r answer)]).length = bound
        rw [List.length_append, List.length_singleton]
        omega

/-- The first task that is running ends, and a permit is free again. -/
theorem attempt_finish {item : Value} {r : Request} {answer : Except Failure Outcome}
    (h : Lined bound ended ((item, .running r answer) :: active) idle b) :
    ∃ result, Lined bound (ended ++ [(item, .finished result)]) active idle
        (b.attempt m host pattern options (.finish ended.length)) ∧
      (b.attempt m host pattern options (.finish ended.length)).free = b.free + 1 := by
  have htasks : b.tasks = ended ++ (item, .running r answer) :: (active ++ idle) := by
    rw [h.tasks_eq, List.append_assoc, List.cons_append]
  have htask : b.tasks[ended.length]? = some (item, .running r answer) := by
    rw [htasks, getElem?_length_append_cons]
  obtain ⟨result, q, hfinish⟩ :=
    Action.exists_eq_ofExcept (Action.ofExcept answer >>= Matcher.finish r) b.memory
  refine ⟨result, ?_⟩
  rw [attempt_of_stepped (.ended htask hfinish), close_free]
  refine ⟨⟨?_, ?_, fun t ht => h.inFlight t (List.mem_cons_of_mem _ ht), h.isWaiting, ?_⟩, rfl⟩
  · rw [close_tasks]
    show b.tasks.set ended.length (item, .finished result) = _
    rw [htasks, set_length_append_cons]
    simp only [List.append_assoc, List.cons_append, List.nil_append]
  · intro t ht
    rcases List.mem_append.1 ht with ht | ht
    · exact h.isFinished t ht
    · rw [List.mem_singleton.1 ht]
      rfl
  · have hpermits := h.permits
    rw [close_free]
    show b.free + 1 + active.length = bound
    rw [List.length_cons] at hpermits
    omega

/-- The first task that waits comes right behind those that are running. -/
theorem findIdx?_isWaiting (h : Lined bound ended active idle b) :
    b.tasks.findIdx? (·.2.isWaiting) =
      if idle = [] then none else some (ended ++ active).length := by
  have hfront : (ended ++ active).findIdx? (·.2.isWaiting) = none := by
    rw [List.findIdx?_eq_none_iff]
    rintro ⟨item, task⟩ ht
    rcases List.mem_append.1 ht with ht | ht
    · obtain ⟨result, rfl⟩ := Task.isFinished_iff.1 (h.isFinished _ ht)
      rfl
    · obtain ⟨r, answer, rfl⟩ := Task.inFlight_iff.1 (h.inFlight _ ht)
      rfl
  rw [h.tasks_eq, List.findIdx?_append, hfront, Option.none_or]
  cases idle with
  | nil => rfl
  | cons t idle =>
      rw [List.findIdx?_cons, if_pos (h.isWaiting t List.mem_cons_self), if_neg (List.cons_ne_nil _ _)]
      simp

end Lined

/-! ## The line moves on -/

/-- A batch that has failed, or whose tasks stand in a line and in which no task waits for nothing. -/
inductive Advanced (bound place behind : Nat) (b : Batch σ) : Prop
  | failed : b.hasFailed = true → Advanced bound place behind b
  | lined {ended active idle : List (Value × Task)} :
      Lined bound ended active idle b → (idle = [] ∨ b.free = 0) →
      ended.length = place → active.length + idle.length = behind →
      Advanced bound place behind b

/-- Letting the tasks in one after another fills the line up with running tasks. -/
theorem foldl_letIn_advanced (h : Lined bound [] active idle b) :
    Advanced bound 0 (active.length + idle.length)
      ((List.range' active.length idle.length).foldl (letIn m host pattern options) b) := by
  induction idle generalizing b active with
  | nil => exact .lined h (Or.inl rfl) rfl rfl
  | cons t idle ih =>
      by_cases hfree : b.free = 0
      · have hself : ∀ places : List Nat, places.foldl (letIn m host pattern options) b = b := by
          intro places
          induction places with
          | nil => rfl
          | cons i places ih' => rw [List.foldl_cons, h.letIn_eq_self m host pattern options hfree, ih']
        rw [hself]
        exact .lined h (Or.inr hfree) rfl rfl
      · obtain ⟨item, task⟩ := t
        obtain rfl : task = .waiting := Task.isWaiting_iff.1 (h.isWaiting _ List.mem_cons_self)
        rw [List.length_cons, List.range'_succ, List.foldl_cons]
        rcases h.letIn_waiting m host pattern options hfree with hfailed | ⟨r, answer, hlined⟩
        · rw [foldl_letIn_eq_follow]
          exact .failed (hasFailed_follow _ hfailed)
        · have hadvanced := ih hlined
          rw [List.length_append, List.length_singleton] at hadvanced
          rwa [Nat.add_right_comm, Nat.add_assoc] at hadvanced

/-- The end of a running task makes room for the first one that waits, and the line is one place on. -/
theorem advanced_of_finish {item : Value} {r : Request} {answer : Except Failure Outcome}
    (h : Lined bound ended ((item, .running r answer) :: active) idle b)
    (hfull : idle = [] ∨ b.free = 0) :
    Advanced bound (ended.length + 1) (active.length + idle.length)
      ((b.attempt m host pattern options (.finish ended.length)).letNextIn m host pattern options) := by
  obtain ⟨result, hlined, hfree⟩ := h.attempt_finish m host pattern options
  generalize b.attempt m host pattern options (.finish ended.length) = c at hlined hfree ⊢
  have hlength : (ended ++ [(item, Task.finished result)]).length = ended.length + 1 := by
    rw [List.length_append, List.length_singleton]
  unfold letNextIn
  by_cases hfailed : c.hasFailed = true
  · rw [if_pos hfailed]
    exact .failed hfailed
  · rw [if_neg hfailed, hlined.findIdx?_isWaiting]
    cases idle with
    | nil => exact .lined hlined (Or.inl rfl) hlength rfl
    | cons t idle =>
        obtain ⟨waitingItem, task⟩ := t
        obtain rfl : task = .waiting := Task.isWaiting_iff.1 (h.isWaiting _ List.mem_cons_self)
        have hnone : b.free = 0 := hfull.resolve_left (List.cons_ne_nil _ _)
        rw [if_neg (List.cons_ne_nil _ _)]
        show Advanced bound _ _ (c.letIn m host pattern options
          ((ended ++ [(item, Task.finished result)]) ++ active).length)
        have hmoved := hlined.letIn_waiting m host pattern options (by omega)
        generalize c.letIn m host pattern options
          ((ended ++ [(item, Task.finished result)]) ++ active).length = d at hmoved ⊢
        rcases hmoved with hrejected | ⟨s, reply, hnext⟩
        · exact .failed hrejected
        · have hpermits := hnext.permits
          have hbefore := h.permits
          rw [List.length_append, List.length_singleton] at hpermits
          rw [List.length_cons] at hbefore
          refine .lined hnext (Or.inr (by omega)) hlength ?_
          rw [List.length_append, List.length_singleton, List.length_cons]
          omega

/-- **Ending the tasks one after another settles the batch**, if there is a permit at all. -/
theorem isSettled_drain (hbound : bound ≠ 0) {place behind : Nat}
    (h : Advanced bound place behind b) :
    (b.drain m host pattern options (List.range' place behind)).isSettled = true := by
  induction behind generalizing b place with
  | zero =>
      show b.isSettled = true
      rw [isSettled, Bool.or_eq_true]
      cases h with
      | failed hfailed => exact Or.inl hfailed
      | @lined ended active idle hlined _ _ hbehind =>
          obtain ⟨hactive, hidle⟩ : active = [] ∧ idle = [] := by
            rw [Nat.add_eq_zero_iff, List.length_eq_zero_iff, List.length_eq_zero_iff] at hbehind
            exact hbehind
          right
          rw [hlined.tasks_eq, hactive, hidle, List.append_nil, List.append_nil, List.all_eq_true]
          exact hlined.isFinished
  | succ behind ih =>
      rw [List.range'_succ, drain]
      by_cases hfailed : b.hasFailed = true
      · rw [if_pos hfailed, isSettled, hfailed, Bool.true_or]
      · rw [if_neg hfailed]
        refine ih ?_
        cases h with
        | failed h => exact absurd h hfailed
        | @lined ended active idle hlined hfull hplace hbehind =>
            subst hplace
            cases active with
            | nil =>
                -- Nobody is running, so all permits are free, and then nobody waits.
                have hpermits := hlined.permits
                rw [List.length_nil, Nat.add_zero] at hpermits
                rw [List.length_nil, Nat.zero_add] at hbehind
                rcases hfull with rfl | hfree
                · cases hbehind
                · omega
            | cons t active =>
                obtain ⟨item, task⟩ := t
                obtain ⟨r, answer, rfl⟩ :=
                  Task.inFlight_iff.1 (hlined.inFlight _ List.mem_cons_self)
                have hmoved := advanced_of_finish m host pattern options hlined hfull
                rw [List.length_cons] at hbehind
                rwa [show active.length + idle.length = behind by omega] at hmoved

/-- **A run settles its batch**, if there is a permit at all. -/
theorem isSettled_run (hbound : bound ≠ 0) (items : List Value) (memory : Memory σ) :
    ((begin bound items memory).run m host pattern options).isSettled = true := by
  have hlined : Lined bound [] [] (items.map fun item => (item, Task.waiting))
      (begin bound items memory) := by
    refine ⟨rfl, fun t ht => absurd ht List.not_mem_nil, fun t ht => absurd ht List.not_mem_nil,
      ?_, rfl⟩
    intro t ht
    obtain ⟨item, -, rfl⟩ := List.mem_map.1 ht
    rfl
  have hadvanced := foldl_letIn_advanced m host pattern options hlined
  rw [List.length_nil, Nat.zero_add] at hadvanced
  have hlength : (begin bound items memory).tasks.length =
      (items.map fun item => (item, Task.waiting)).length := rfl
  rw [run, letAllIn, hlength, List.range_eq_range']
  exact isSettled_drain m host pattern options hbound hadvanced

end GlobOracle.Batch
