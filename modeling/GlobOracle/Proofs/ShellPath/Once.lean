import GlobOracle.Proofs.Batch.Permits
import GlobOracle.Proofs.ShellPath.Race

/-!
# The order among calls that race

Of all calls for the path of the shell that race, one at most begins a search, and whoever answers has read
the path that it settled.  The invariant is `Race.Orderly`: one call at most has the lock, each search that
has begun is going on or has settled the path, and where a call is tells whether the path is settled
(`Stage.Agrees`).  What a call has seen without the lock stays true, since a path that is settled stays
(`Race.Orderly.keepsPath_of_stepped`).

A race does not get stuck, either: if the lock is free every call can move, and if it is not, the call that
has it can (`Race.Orderly.exists_stepped`).  So every schedule can be carried on until all calls have
answered (`Race.Orderly.exists_isSettled_follow`).
-/

namespace GlobOracle

namespace ShellPath

variable {σ : Type}

namespace Stage

/-! ## What a call knows of the path -/

/-- What a call knows of the path by where it is.  While it searches, no path is settled; once it has settled
the path or found it settled, there is one, and this is what it answers. -/
def Agrees (settled : Option String) : Stage → Prop
  | entering | waiting | checking => True
  | searching _ | settling _ => settled = none
  | reporting | leaving | answering => settled.isSome = true
  | answered answer => settled.isSome = true ∧ answer = settled

/-- While a call searches, no path is settled. -/
theorem Agrees.unsettled {stage : Stage} {settled : Option String} (h : stage.Agrees settled)
    (hsearching : stage.isSearching = true) : settled = none := by
  cases stage with
  | searching | settling => exact h
  | _ => cases hsearching

/-- A call that knows of no path and does not search may see one settled. -/
theorem Agrees.settle {stage : Stage} (h : stage.Agrees none) (hidle : stage.isSearching = false)
    (path : String) : stage.Agrees (some path) := by
  cases stage with
  | entering | waiting | checking => trivial
  | searching | settling => cases hidle
  | reporting | leaving | answering => cases h
  | answered => cases h.1

end Stage

/-- How many steps a call still has before it at most. -/
def Stage.ahead : Stage → Nat
  | entering => candidates.length + 8
  | waiting => candidates.length + 7
  | checking => candidates.length + 6
  | searching paths => paths.length + 5
  | settling _ => 4
  | reporting => 3
  | leaving => 2
  | answering => 1
  | answered _ => 0

namespace Race

variable {p : Memory σ} {r r' : Race σ} {turn : Turn} {i : Nat} {stage before after : Stage}

/-- What holds of a race in every state that it can reach, if it has begun in a memory. -/
structure Orderly (p : Memory σ) (r : Race σ) : Prop where
  /-- The lock is held by one call, or by none. -/
  lock : r.calls.countP Stage.hasLock = r.locked.toNat
  /-- For every search that has begun a call is searching, or the path is settled that was not. -/
  account : r.searches + p.shellPath.isSome.toNat =
    r.calls.countP Stage.isSearching + r.memory.shellPath.isSome.toNat
  /-- All calls agree on the path. -/
  agree : ∀ stage ∈ r.calls, stage.Agrees r.memory.shellPath

theorem orderly_begin (count : Nat) (p : Memory σ) : Orderly p (begin count p) := by
  have hentering : ∀ stage ∈ (begin count p).calls, stage = .entering :=
    fun _ h => (List.mem_replicate.1 h).2
  have hnone (counts : Stage → Bool) (h : counts .entering = false) :
      (begin count p).calls.countP counts = 0 := by
    rw [List.countP_eq_zero]
    intro stage hstage
    rw [hentering stage hstage, h]
    exact Bool.false_ne_true
  refine ⟨hnone _ rfl, ?_, fun stage hstage => ?_⟩
  · rw [hnone _ rfl]
    rfl
  · rw [hentering stage hstage]
    trivial

namespace Orderly

/-- A call that has the lock keeps it locked. -/
theorem locked_of_hasLock (h : Orderly p r) (hstage : stage ∈ r.calls)
    (hhas : stage.hasLock = true) : r.locked = true := by
  have hcount : 0 < r.calls.countP Stage.hasLock := List.countP_pos_iff.2 ⟨stage, hstage, hhas⟩
  rw [h.lock] at hcount
  cases hlocked : r.locked with
  | true => rfl
  | false =>
      rw [hlocked] at hcount
      cases hcount

/-- **No other call has the lock**: where one has it and goes on, the others do not have it. -/
theorem others_unlocked (h : Orderly p r) (hcall : r.calls[i]? = some before)
    (hhas : before.hasLock = true) (after : Stage) :
    ∀ stage ∈ r.calls.set i after, stage = after ∨ stage.hasLock = false := by
  intro stage hstage
  obtain ⟨j, hj⟩ := List.getElem?_of_mem hstage
  rw [List.getElem?_set] at hj
  by_cases hij : i = j
  · rw [if_pos hij] at hj
    split at hj
    · exact .inl (Option.some.inj hj).symm
    · cases hj
  · rw [if_neg hij] at hj
    right
    -- With the holder out of the way, nobody has the lock.
    have hcount := Batch.countP_set_add Stage.hasLock hcall .entering
    have hlocked := Bool.toNat_le r.locked
    rw [h.lock, hhas] at hcount
    have hnone : (r.calls.set i .entering).countP Stage.hasLock = 0 := by
      simp only [Stage.hasLock, Bool.toNat_true, Bool.toNat_false] at hcount
      omega
    have hstays : (r.calls.set i .entering)[j]? = some stage := by
      rw [List.getElem?_set, if_neg hij, hj]
    exact Bool.eq_false_iff.2 (List.countP_eq_zero.1 hnone stage (List.mem_of_getElem? hstays))

/-- A call that goes on and leaves the path alone keeps the order, if it takes, keeps and gives back the lock
and begins its search in order, and agrees with the path afterwards. -/
theorem move (h : Orderly p r) (hcall : r.calls[i]? = some before)
    (hcalls : r'.calls = r.calls.set i after)
    (hlock : r'.locked.toNat + before.hasLock.toNat = r.locked.toNat + after.hasLock.toNat)
    (hsearches : r'.searches + before.isSearching.toNat = r.searches + after.isSearching.toNat)
    (hpath : r'.memory.shellPath = r.memory.shellPath) (hagrees : after.Agrees r.memory.shellPath) :
    Orderly p r' := by
  have hholders := Batch.countP_set_add Stage.hasLock hcall after
  have hsearchers := Batch.countP_set_add Stage.isSearching hcall after
  have hlocked := h.lock
  have haccount := h.account
  refine ⟨?_, ?_, fun stage hstage => ?_⟩
  · rw [hcalls]
    omega
  · rw [hcalls, hpath]
    omega
  · rw [hcalls] at hstage
    rw [hpath]
    rcases List.mem_or_eq_of_mem_set hstage with hstage | rfl
    · exact h.agree stage hstage
    · exact hagrees

/-- A call that settles the path keeps the order.  The other calls have not seen a path, and are not
searching for one. -/
theorem settle (h : Orderly p r) {path : String} (hcall : r.calls[i]? = some (.settling path)) :
    Orderly p { r.put i .reporting with memory := { r.memory with shellPath := some path } } := by
  have hunsettled : r.memory.shellPath = none := h.agree _ (List.mem_of_getElem? hcall)
  have hholders := Batch.countP_set_add Stage.hasLock hcall .reporting
  have hsearchers := Batch.countP_set_add Stage.isSearching hcall .reporting
  have haccount := h.account
  rw [hunsettled] at haccount
  refine ⟨?_, ?_, fun stage hstage => ?_⟩
  · exact (Nat.add_right_cancel hholders).trans h.lock
  · show r.searches + _ = (r.calls.set i .reporting).countP Stage.isSearching + 1
    simp only [Stage.isSearching, Bool.toNat_true, Bool.toNat_false, Option.isSome_none] at *
    omega
  · rcases h.others_unlocked hcall rfl .reporting stage hstage with rfl | hunlocked
    · rfl
    · have hidle : stage.isSearching = false := by
        rw [Bool.eq_false_iff]
        intro hsearching
        rw [Stage.hasLock_of_isSearching hsearching] at hunlocked
        cases hunlocked
      rcases List.mem_or_eq_of_mem_set hstage with hstage | rfl
      · have hagrees := h.agree stage hstage
        rw [hunsettled] at hagrees
        exact hagrees.settle hidle path
      · rfl

/-- **Every step keeps the order.** -/
theorem of_stepped (h : Orderly p r) (hstep : Stepped r turn r') : Orderly p r' := by
  have hagrees {stage : Stage} (hcall : r.calls[turn.call]? = some stage) :
      stage.Agrees r.memory.shellPath := h.agree stage (List.mem_of_getElem? hcall)
  cases hstep with
  | found hcall hpath => exact h.move hcall rfl rfl rfl rfl hpath
  | missed hcall hpath => exact h.move hcall rfl rfl rfl rfl trivial
  | acquired hcall hfree =>
      refine h.move hcall rfl ?_ rfl rfl trivial
      rw [hfree]
      rfl
  | forestalled hcall hpath => exact h.move hcall rfl rfl rfl rfl hpath
  | began hcall hpath => exact h.move hcall rfl rfl rfl rfl hpath
  | hit hcall _ =>
      have hpath : r.memory.shellPath = none := hagrees hcall
      exact h.move hcall rfl rfl rfl rfl hpath
  | miss hcall _ =>
      have hpath : r.memory.shellPath = none := hagrees hcall
      exact h.move hcall rfl rfl rfl rfl hpath
  | exhausted hcall =>
      have hpath : r.memory.shellPath = none := hagrees hcall
      exact h.move hcall rfl rfl rfl rfl hpath
  | settled hcall => exact h.settle hcall
  | reported hcall =>
      have hpath : r.memory.shellPath.isSome = true := hagrees hcall
      exact h.move hcall rfl rfl rfl rfl hpath
  | released hcall =>
      have hpath : r.memory.shellPath.isSome = true := hagrees hcall
      have hlocked := h.locked_of_hasLock (List.mem_of_getElem? hcall) rfl
      refine h.move hcall rfl ?_ rfl rfl hpath
      rw [hlocked]
      rfl
  | read hcall =>
      have hpath : r.memory.shellPath.isSome = true := hagrees hcall
      exact h.move hcall rfl rfl rfl rfl ⟨hpath, rfl⟩

theorem of_follow (h : Orderly p r) (schedule : List Turn) : Orderly p (r.follow schedule) :=
  follow_induction schedule (fun _ _ _ _ hr hstep => hr.of_stepped hstep) h

/-- A call that searches has not settled a path, and there is one such call at most. -/
theorem searches_le_one (h : Orderly p r) : r.searches + p.shellPath.isSome.toNat ≤ 1 := by
  rw [h.account]
  cases hpath : r.memory.shellPath with
  | none =>
      have hsearching : r.calls.countP Stage.isSearching ≤ r.calls.countP Stage.hasLock :=
        List.countP_mono_left fun _ _ => Stage.hasLock_of_isSearching
      have hlocked := Bool.toNat_le r.locked
      rw [h.lock] at hsearching
      show r.calls.countP Stage.isSearching + 0 ≤ 1
      omega
  | some path =>
      have hidle : r.calls.countP Stage.isSearching = 0 := by
        rw [List.countP_eq_zero]
        intro stage hstage hsearching
        have hunsettled := Stage.Agrees.unsettled (h.agree stage hstage) hsearching
        rw [hpath] at hunsettled
        cases hunsettled
      rw [hidle]
      exact Nat.le_refl 1

/-- **A path that is settled stays.** -/
theorem keepsPath_of_stepped (h : Orderly p r) {path : String} (hsettled : r.memory.shellPath = some path)
    (hstep : Stepped r turn r') : r'.memory.shellPath = some path := by
  cases hstep with
  | settled hcall =>
      have hunsettled : r.memory.shellPath = none := h.agree _ (List.mem_of_getElem? hcall)
      rw [hsettled] at hunsettled
      cases hunsettled
  | _ => exact hsettled

theorem keepsPath_follow (h : Orderly p r) {path : String} (hsettled : r.memory.shellPath = some path)
    (schedule : List Turn) : (r.follow schedule).memory.shellPath = some path := by
  have hstep : ∀ r, ∀ turn ∈ schedule, ∀ r', Orderly p r ∧ r.memory.shellPath = some path →
      Stepped r turn r' → Orderly p r' ∧ r'.memory.shellPath = some path :=
    fun _ _ _ _ hr hstep => ⟨hr.1.of_stepped hstep, hr.1.keepsPath_of_stepped hr.2 hstep⟩
  exact (follow_induction schedule hstep ⟨h, hsettled⟩).2

end Orderly

/-! ## Progress -/

/-- How many steps a race still has before it at most. -/
def ahead (r : Race σ) : Nat := Batch.total Stage.ahead r.calls

/-- A call that has not answered can move, unless it waits for a lock that another one has. -/
theorem exists_stepped_of_call (files : String → Bool) (hcall : r.calls[i]? = some stage)
    (hunanswered : stage.isAnswered = false) (hfree : stage = .waiting → r.locked = false) :
    ∃ r', Stepped r ⟨i, files⟩ r' := by
  cases stage with
  | entering =>
      cases hpath : r.memory.shellPath with
      | none => exact ⟨_, .missed hcall hpath⟩
      | some path => exact ⟨_, .found hcall (by rw [hpath]; rfl)⟩
  | waiting => exact ⟨_, .acquired hcall (hfree rfl)⟩
  | checking =>
      cases hpath : r.memory.shellPath with
      | none => exact ⟨_, .began hcall hpath⟩
      | some path => exact ⟨_, .forestalled hcall (by rw [hpath]; rfl)⟩
  | searching paths =>
      cases paths with
      | nil => exact ⟨_, .exhausted hcall⟩
      | cons path paths =>
          cases hfile : files path with
          | true => exact ⟨_, .hit hcall hfile⟩
          | false => exact ⟨_, .miss hcall hfile⟩
  | settling path => exact ⟨_, .settled hcall⟩
  | reporting => exact ⟨_, .reported hcall⟩
  | leaving => exact ⟨_, .released hcall⟩
  | answering => exact ⟨_, .read hcall⟩
  | answered answer => cases hunanswered

/-- **A race does not get stuck**: some call can move as long as some call has not answered. -/
theorem Orderly.exists_stepped (h : Orderly p r) (files : String → Bool)
    (hunsettled : r.isSettled = false) : ∃ i r', Stepped r ⟨i, files⟩ r' := by
  cases hlocked : r.locked with
  | false =>
      obtain ⟨stage, hstage, hunanswered⟩ := List.all_eq_false.1 hunsettled
      obtain ⟨i, hi⟩ := List.getElem?_of_mem hstage
      exact ⟨i, exists_stepped_of_call files hi (Bool.eq_false_iff.2 hunanswered) fun _ => hlocked⟩
  | true =>
      have hheld : 0 < r.calls.countP Stage.hasLock := by
        rw [h.lock, hlocked]
        exact Nat.one_pos
      obtain ⟨stage, hstage, hhas⟩ := List.countP_pos_iff.1 hheld
      obtain ⟨i, hi⟩ := List.getElem?_of_mem hstage
      refine ⟨i, exists_stepped_of_call files hi ?_ ?_⟩
      · cases stage <;> first | rfl | cases hhas
      · rintro rfl
        cases hhas

/-- Every step brings the call that makes it closer to its answer. -/
theorem ahead_lt_of_stepped (hstep : Stepped r turn r') : r'.ahead < r.ahead := by
  have hcloser : ∃ before after, r.calls[turn.call]? = some before ∧
      r'.calls = r.calls.set turn.call after ∧ after.ahead < before.ahead := by
    cases hstep with
    | found hcall _ => exact ⟨_, .answering, hcall, rfl, by decide⟩
    | missed hcall _ => exact ⟨_, .waiting, hcall, rfl, by decide⟩
    | acquired hcall _ => exact ⟨_, .checking, hcall, rfl, by decide⟩
    | forestalled hcall _ => exact ⟨_, .leaving, hcall, rfl, by decide⟩
    | began hcall _ => exact ⟨_, .searching candidates, hcall, rfl, by decide⟩
    | @hit path paths hcall _ => exact ⟨_, .settling path, hcall, rfl, by simp [Stage.ahead]⟩
    | @miss path paths hcall _ => exact ⟨_, .searching paths, hcall, rfl, by simp [Stage.ahead]⟩
    | exhausted hcall => exact ⟨_, .settling fallback, hcall, rfl, by simp [Stage.ahead]⟩
    | settled hcall => exact ⟨_, .reporting, hcall, rfl, by simp [Stage.ahead]⟩
    | reported hcall => exact ⟨_, .leaving, hcall, rfl, by decide⟩
    | released hcall => exact ⟨_, .answering, hcall, rfl, by decide⟩
    | read hcall => exact ⟨_, .answered r.memory.shellPath, hcall, rfl, by simp [Stage.ahead]⟩
  obtain ⟨before, after, hcall, hcalls, hlt⟩ := hcloser
  have hsum := Batch.total_set_add Stage.ahead hcall after
  rw [ahead, ahead, hcalls]
  omega

/-- **Every race can be carried on until all calls have answered**, whatever files there are then. -/
theorem Orderly.exists_isSettled_follow (h : Orderly p r) (files : String → Bool) :
    ∃ calls : List Nat, (r.follow (calls.map (⟨·, files⟩))).isSettled = true := by
  simp only [follow, List.foldl_map]
  refine Batch.exists_foldl_of_ahead_lt ahead (fun r hr hunsettled => ?_) h
  obtain ⟨i, r', hstep⟩ := hr.exists_stepped files hunsettled
  refine ⟨i, ?_⟩
  rw [attempt_of_stepped hstep]
  exact ⟨hr.of_stepped hstep, ahead_lt_of_stepped hstep⟩

end Race

end ShellPath

end GlobOracle
