import GlobOracle.Proofs.SingleMatch

/-!
# Steady hosts

A host is steady if its shell replies to a call alike, whenever it is asked (`Host.IsSteady`).  Then every
item of a list has an answer of its own (`Matcher.answerTo`), and going through the list only gathers these
answers (`Gathered`, `gathered_keep`).
-/

namespace GlobOracle

variable {σ : Type} {host : Host σ} {p q : Memory σ}

/-! ## Answers that do not depend on what happened before -/

/-- The reply to a call is a matter of the call alone, and not of what the shell was asked before. -/
def Host.IsSteady (host : Host σ) : Prop :=
  ∀ call s t, (host.shell call s).1 = (host.shell call t).1

namespace Matcher

variable (m : Matcher) (pattern options : Value)

/-- On a steady host the outcome of a request depends on the memory only by where the shell is found. -/
theorem outcome_eq_of_found (steady : host.IsSteady)
    (hfound : ShellPath.found host q = ShellPath.found host p) (r : Request) :
    m.outcome host q r = m.outcome host p r := by
  rw [outcome_eq_judge, outcome_eq_judge, m.callFor_eq_of_found hfound,
    m.executor.hear_eq_of_found hfound, steady _ q.shell p.shell]

/-- What a single match of an item comes to. -/
def answerTo (host : Host σ) (p : Memory σ) (item : Value) : Except Failure Bool :=
  request host item pattern options >>= m.verdict host p

/-- On a steady host a single match comes to the same wherever it goes on from. -/
theorem exists_test_eq_answerTo (posix : host.windows = false) (steady : host.IsSteady)
    (hfound : ShellPath.found host q = ShellPath.found host p) (item : Value) :
    ∃ r, m.test host item pattern options q =
        Action.ofExcept (m.answerTo pattern options host p item) r ∧
      ShellPath.found host r = ShellPath.found host p := by
  obtain ⟨r, hr, hasked⟩ := m.exists_test_eq posix item pattern options q
  refine ⟨r, ?_, hasked.found_eq.trans hfound⟩
  rw [hr, answerTo]
  cases request host item pattern options with
  | error f => rfl
  | ok s =>
      show Action.ofExcept (m.verdict host q s) r = Action.ofExcept (m.verdict host p s) r
      rw [verdict, verdict, m.outcome_eq_of_found steady hfound]

end Matcher

/-! ## Gathering answers -/

/-- Is an answer a yes? -/
def isYes : Except Failure Bool → Bool
  | .ok matched => matched
  | .error _ => false

/-- What comes of some items with an answer each.  One of the failures is passed on; without one, the items
whose answer is a yes are kept, in their order. -/
inductive Gathered (answer : Value → Except Failure Bool) (items : List Value) :
    EStateM.Result Failure (Memory σ) (List Value) → Prop
  | failed {item : Value} {f : Failure} {q : Memory σ} :
      item ∈ items → answer item = .error f → Gathered answer items (.error f q)
  | answered {q : Memory σ} :
      (∀ item ∈ items, ∃ matched, answer item = .ok matched) →
      Gathered answer items (.ok (items.filter fun item => isYes (answer item)) q)

namespace Gathered

variable {answer : Value → Except Failure Bool} {items kept kept' : List Value} {f : Failure}
  {result result' : EStateM.Result Failure (Memory σ) (List Value)}

theorem exists_of_error (h : Gathered answer items (.error f q)) :
    ∃ item ∈ items, answer item = .error f := by
  cases h with
  | failed hitem hanswer => exact ⟨_, hitem, hanswer⟩

/-- A batch fails whichever way its answers are gathered. -/
theorem exists_error (h : Gathered answer items result) (h' : Gathered answer items result')
    (herror : ∃ f q, result = .error f q) : ∃ f q, result' = .error f q := by
  obtain ⟨f, q, rfl⟩ := herror
  obtain ⟨item, hitem, hanswer⟩ := h.exists_of_error
  cases h' with
  | failed _ _ => exact ⟨_, _, rfl⟩
  | answered hall =>
      obtain ⟨matched, hmatched⟩ := hall item hitem
      rw [hanswer] at hmatched
      cases hmatched

/-- A batch keeps the same items whichever way its answers are gathered. -/
theorem kept_eq (h : Gathered answer items (.ok kept p)) (h' : Gathered answer items (.ok kept' q)) :
    kept = kept' := by
  cases h
  cases h'
  rfl

end Gathered

/-- Going through the items one after another gathers their answers. -/
theorem Matcher.gathered_keep (m : Matcher) {pattern : Value} {o : Options} {items : List Value}
    (posix : host.windows = false) (steady : host.IsSteady)
    (hfound : ShellPath.found host q = ShellPath.found host p) :
    Gathered (m.answerTo pattern o.value host p) items (m.keep host pattern o items q) := by
  induction items generalizing q with
  | nil => exact .answered fun item hitem => absurd hitem List.not_mem_nil
  | cons item items ih =>
      obtain ⟨r, hr, hfoundr⟩ :=
        m.exists_test_eq_answerTo pattern o.value posix steady hfound item
      rw [keep]
      cases hanswer : m.answerTo pattern o.value host p item with
      | error f =>
          rw [hanswer] at hr
          rw [Action.bind_of_error hr]
          exact .failed List.mem_cons_self hanswer
      | ok matched =>
          rw [hanswer] at hr
          rw [Action.bind_of_ok hr]
          have hrest := ih hfoundr
          cases hkeep : m.keep host pattern o items r with
          | error f s =>
              rw [hkeep] at hrest
              obtain ⟨failing, hfailing, hfails⟩ := hrest.exists_of_error
              rw [Action.bind_of_error hkeep]
              exact .failed (List.mem_cons_of_mem _ hfailing) hfails
          | ok kept s =>
              rw [hkeep] at hrest
              rw [Action.bind_of_ok hkeep]
              cases hrest with
              | answered hall =>
                  have hcons := Gathered.answered (q := s)
                    (List.forall_mem_cons.2 ⟨⟨matched, hanswer⟩, hall⟩)
                  rw [List.filter_cons, hanswer] at hcons
                  exact hcons

end GlobOracle
