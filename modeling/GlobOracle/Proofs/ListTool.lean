import GlobOracle.Service
import GlobOracle.Proofs.Batch.Agreement
import GlobOracle.Proofs.Shown

/-!
# The list tool is the filter of the single tool

The two tools read their options alike, and the list tool makes them canonical once where the single tool
does it for every subject.  So on a steady host they are refused together, and if they are not, the list
tool gathers the answers that the single tool has for the items (`Tool.gathered_of_isListAnswer`).  It does
not matter in which order the items are matched, from which memories the single calls go on, or whether a
tool was registered with the matcher of the service or makes do with the default one, whoever had that one
made (`Tool.list_tool_filters_by_single_tool`).
-/

namespace GlobOracle

variable {σ : Type} {host : Host σ} {p q : Memory σ}

namespace Settings

variable {s : Settings} {m : Matcher} {kept : Option Matcher}

/-- What may be kept as the default matcher: nothing at first, and what is kept when somebody has been given
a matcher to work with. -/
inductive Keeps (s : Settings) : Option Matcher → Prop
  | nothing : Keeps s none
  | asked {kept : Option Matcher} (given : Option Matcher) : Keeps s kept →
      Keeps s (s.matcherFor given kept).2

/-- The matchers that a tool may work with, whenever it is called: the one that it is registered with, and
the default one if it is registered with none. -/
inductive MatchesWith (s : Settings) : Matcher → Prop
  | registered {r : Registration} {kept : Option Matcher} : r ∈ (Service.ofSettings s).tools →
      s.Keeps kept → MatchesWith s (s.matcherFor (some r.matcher) kept).1
  | unregistered {kept : Option Matcher} : s.Keeps kept → MatchesWith s (s.matcherFor none kept).1

/-- The default matcher is the one that the settings describe, if one is kept at all. -/
theorem Keeps.eq_matcher (h : s.Keeps kept) : ∀ m ∈ kept, m = s.matcher := by
  induction h with
  | nothing => simp
  | @asked kept given _ ih =>
      intro m hm
      cases given with
      | some own => exact ih m hm
      | none =>
          cases kept with
          | some first => exact ih m hm
          | none => exact (Option.some.inj hm).symm

theorem defaultMatcher_eq (h : s.Keeps kept) : (s.defaultMatcher kept).1 = s.matcher := by
  cases kept with
  | some m => exact h.eq_matcher m rfl
  | none => rfl

/-- **All tools work with the matcher that the settings describe**, registered with it or not. -/
theorem MatchesWith.eq_matcher (h : s.MatchesWith m) : m = s.matcher := by
  cases h with
  | registered hr _ =>
      obtain ⟨tool, -, rfl⟩ := List.mem_map.1 hr
      rfl
  | unregistered hkept => exact defaultMatcher_eq hkept

end Settings

namespace Tool

/-- Filters a list, with the tasks moving as a schedule says. -/
def matchListScheduled (m : Matcher) (strict : Bool) (host : Host σ) (items pattern input : Value)
    (schedule : List Move) : Action σ (List Value) := do
  let o ← Action.ofExcept (options strict input)
  m.filterScheduled host items pattern o.value schedule

/-- A schedule settles what there is to be matched. -/
def Settles (m : Matcher) (strict : Bool) (host : Host σ) (listed pattern input : Value)
    (schedule : List Move) (p : Memory σ) : Prop :=
  ∀ o items canonical, options strict input = .ok o →
    Matcher.prepare host listed pattern o.value = .ok (items, canonical) →
    ((Batch.begin m.bound items p).follow m host pattern canonical schedule).isSettled = true

/-- An answer that the list tool may give: the one that it gives by itself, or the one under a schedule
that settles it. -/
inductive IsListAnswer (m : Matcher) (strict : Bool) (host : Host σ) (listed pattern input : Value)
    (p : Memory σ) : Except Failure (List Value) → Prop
  | byItself : IsListAnswer m strict host listed pattern input p
      ((matchList m strict host listed pattern input).answer p)
  | scheduled (schedule : List Move) : Settles m strict host listed pattern input schedule p →
      IsListAnswer m strict host listed pattern input p
        ((matchListScheduled m strict host listed pattern input schedule).answer p)

/-- A list is filtered by single answers: there is a list exactly if every item has an answer, and then it
holds the items whose answer is yes, in their order and as often as they stand in the list.  Otherwise one
of the single failures is passed on. -/
structure IsFilterBy (single : String → Except Failure Bool) (items : List String)
    (answer : Except Failure (List Value)) : Prop where
  answers_iff : (∃ kept, answer = .ok kept) ↔ ∀ item ∈ items, ∃ matched, single item = .ok matched
  kept_eq : ∀ kept, answer = .ok kept →
    kept = (items.filter fun item => isYes (single item)).map Value.text
  failure : ∀ f, answer = .error f → ∃ item ∈ items, single item = .error f

/-- A list whose item fails may fail with its failure. -/
theorem isFilterBy_of_error {single : String → Except Failure Bool} {items : List String}
    {f : Failure} {item : String} (hitem : item ∈ items) (hfails : single item = .error f) :
    IsFilterBy single items (.error f) := by
  refine ⟨⟨?_, ?_⟩, ?_, ?_⟩
  · rintro ⟨kept, hkept⟩
    cases hkept
  · intro hall
    obtain ⟨matched, hmatched⟩ := hall item hitem
    rw [hfails] at hmatched
    cases hmatched
  · intro kept hkept
    cases hkept
  · intro g hg
    cases hg
    exact ⟨item, hitem, hfails⟩

/-- Gathering the answers of the items filters them. -/
theorem isFilterBy_of_gathered {single : String → Except Failure Bool} {items : List String}
    {answers : Value → Except Failure Bool} {a : Action σ (List Value)}
    (hsingle : ∀ item, single item = answers (.text item))
    (h : Gathered answers (items.map Value.text) (a p)) : IsFilterBy single items (a.answer p) := by
  have hyes : (fun item => isYes (single item)) = (fun item => isYes (answers item)) ∘ Value.text :=
    funext fun item => congrArg isYes (hsingle item)
  have hall : (∀ item ∈ items.map Value.text, ∃ matched, answers item = .ok matched) ↔
      ∀ item ∈ items, ∃ matched, single item = .ok matched := by
    simp [hsingle]
  cases ha : a p with
  | ok kept q =>
      rw [ha] at h
      have hanswer : a.answer p = .ok kept := by rw [Action.answer, ha]
      cases h with
      | answered hanswers =>
          rw [hanswer]
          refine ⟨⟨fun _ => hall.1 hanswers, fun _ => ⟨_, rfl⟩⟩, ?_, ?_⟩
          · intro kept hkept
            cases hkept
            rw [hyes, ← List.filter_map]
          · intro f hf
            cases hf
  | error f q =>
      rw [ha] at h
      have hanswer : a.answer p = .error f := by rw [Action.answer, ha]
      obtain ⟨value, hvalue, hfails⟩ := h.exists_of_error
      obtain ⟨item, hitem, rfl⟩ := List.mem_map.1 hvalue
      rw [hanswer]
      exact isFilterBy_of_error hitem ((hsingle item).trans hfails)

/-! ## The options of a call -/

/-- The canonical record of a call, which both tools get their answers from. -/
def record (strict : Bool) (host : Host σ) (pattern : String) (input : Value) :
    Except Failure Options :=
  options strict input >>= fun o =>
    Options.normalize host.currentDirectory (.text pattern) o.value

variable {m : Matcher} {strict : Bool} {pattern : String} {input : Value} {f : Failure} {o : Options}

/-- A call is refused because its options are, or because they cannot be made canonical. -/
theorem record_eq_error_iff :
    record strict host pattern input = .error f ↔
      options strict input = .error f ∨
        ∃ o, options strict input = .ok o ∧
          Options.normalize host.currentDirectory (.text pattern) o.value = .error f := by
  rw [record]
  cases options strict input with
  | error g => simp [bind, Except.bind]
  | ok o => simp [bind, Except.bind]

theorem record_eq_ok_iff :
    record strict host pattern input = .ok o ↔
      ∃ given, options strict input = .ok given ∧
        Options.normalize host.currentDirectory (.text pattern) given.value = .ok o := by
  rw [record]
  cases options strict input with
  | error g => simp [bind, Except.bind]
  | ok given => simp [bind, Except.bind]

theorem answer_matchOne_of_refused (refused : record strict host pattern input = .error f)
    (subject : String) (p : Memory σ) :
    (matchOne m strict host (.text subject) (.text pattern) input).answer p = .error f := by
  refine Action.answer_of_eq (q := p) ?_
  rcases record_eq_error_iff.1 refused with hoptions | ⟨o, hoptions, hnormal⟩
  · rw [matchOne, hoptions]
    rfl
  · have hrequest : Matcher.request host (.text subject) (.text pattern) o.value = .error f := by
      rw [Matcher.request_text, hnormal]
      rfl
    rw [matchOne, hoptions, Action.ofExcept_ok_bind]
    exact m.test_of_request_error hrequest p

theorem answer_matchOne (posix : host.windows = false) (steady : host.IsSteady)
    (accepted : record strict host pattern input = .ok o)
    (hfound : ShellPath.found host q = ShellPath.found host p) (subject : String) :
    (matchOne m strict host (.text subject) (.text pattern) input).answer q =
      m.answerTo (.text pattern) o.value host p (.text subject) := by
  obtain ⟨given, hoptions, hnormal⟩ := record_eq_ok_iff.1 accepted
  obtain ⟨r, hr, -⟩ :=
    m.exists_test_eq_answerTo (.text pattern) o.value posix steady hfound (.text subject)
  refine Action.answer_of_eq (q := r) ?_
  rw [matchOne, hoptions, Action.ofExcept_ok_bind, ← m.test_canonical hnormal]
  exact hr

/-! ## The answers of the list tool -/

/-- What the list tool does by itself is a schedule like any other, and one that settles the batch. -/
theorem exists_matchList_eq (hbound : m.bound ≠ 0) (strict : Bool) (host : Host σ)
    (listed pattern input : Value) (p : Memory σ) :
    ∃ schedule, Settles m strict host listed pattern input schedule p ∧
      matchList m strict host listed pattern input p =
        matchListScheduled m strict host listed pattern input schedule p := by
  cases hoptions : options strict input with
  | error f =>
      refine ⟨[], fun o _ _ ho => ?_, by rw [matchList, matchListScheduled, hoptions]; rfl⟩
      cases hoptions.symm.trans ho
  | ok o =>
      rw [matchList, hoptions, Action.ofExcept_ok_bind]
      simp only [Settles, matchListScheduled, hoptions, Action.ofExcept_ok_bind]
      cases hprepare : Matcher.prepare host listed pattern o.value with
      | error f =>
          obtain ⟨-, hitself, hscheduled⟩ := m.filters_of_prepare_error hprepare p
          refine ⟨[], fun o' items canonical ho hcanonical => ?_, hitself.trans (hscheduled []).symm⟩
          obtain rfl := Except.ok.inj ho
          cases hprepare.symm.trans hcanonical
      | ok prepared =>
          obtain ⟨items, canonical⟩ := prepared
          obtain ⟨schedule, hrun⟩ := Batch.exists_run_eq_follow m host pattern canonical
            (Batch.begin m.bound items p)
          refine ⟨schedule, fun o' items' canonical' ho hcanonical => ?_, ?_⟩
          · obtain rfl := Except.ok.inj ho
            obtain ⟨rfl, rfl⟩ := Prod.mk.inj (Except.ok.inj (hprepare.symm.trans hcanonical))
            rw [← hrun]
            exact Batch.isSettled_run m host pattern canonical hbound items p
          · rw [Matcher.filterConcurrently, Matcher.filterScheduled, hprepare,
              Action.ofExcept_ok_bind, Action.ofExcept_ok_bind]
            show Batch.answer _ = Batch.answer _
            rw [hrun]

variable {items : List String} {listed : Value} {answer : Except Failure (List Value)}

theorem IsListAnswer.exists_schedule (hbound : m.bound ≠ 0)
    (h : IsListAnswer m strict host listed (.text pattern) input p answer) :
    ∃ schedule, Settles m strict host listed (.text pattern) input schedule p ∧
      answer =
        (matchListScheduled m strict host listed (.text pattern) input schedule).answer p := by
  cases h with
  | byItself =>
      obtain ⟨schedule, hsettles, heq⟩ :=
        exists_matchList_eq hbound strict host listed (.text pattern) input p
      exact ⟨schedule, hsettles, by rw [Action.answer, Action.answer, heq]⟩
  | scheduled schedule hsettles => exact ⟨schedule, hsettles, rfl⟩

theorem answer_of_isListAnswer_of_refused (posix : host.windows = false) (hbound : m.bound ≠ 0)
    (refused : record strict host pattern input = .error f)
    (h : IsListAnswer m strict host (.list (items.map Value.text)) (.text pattern) input p answer) :
    answer = .error f := by
  obtain ⟨schedule, -, rfl⟩ := h.exists_schedule hbound
  refine Action.answer_of_eq (q := p) ?_
  rcases record_eq_error_iff.1 refused with hoptions | ⟨o, hoptions, hnormal⟩
  · rw [matchListScheduled, hoptions]
    rfl
  · have hprepare : Matcher.prepare host (.list (items.map Value.text)) (.text pattern) o.value =
        .error f := by
      rw [Matcher.prepare, posix, hnormal]
      rfl
    obtain ⟨-, -, hscheduled⟩ := m.filters_of_prepare_error hprepare p
    rw [matchListScheduled, hoptions, Action.ofExcept_ok_bind]
    exact hscheduled schedule

theorem gathered_of_isListAnswer (posix : host.windows = false) (steady : host.IsSteady)
    (hbound : m.bound ≠ 0) (accepted : record strict host pattern input = .ok o)
    (h : IsListAnswer m strict host (.list (items.map Value.text)) (.text pattern) input p answer) :
    ∃ a : Action σ (List Value), answer = a.answer p ∧
      Gathered (m.answerTo (.text pattern) o.value host p) (items.map Value.text) (a p) := by
  obtain ⟨given, hoptions, hnormal⟩ := record_eq_ok_iff.1 accepted
  have hprepare : Matcher.prepare host (.list (items.map Value.text)) (.text pattern) given.value =
      .ok (items.map Value.text, o) :=
    Matcher.prepare_eq_ok_iff.2 ⟨⟨pattern, rfl⟩, posix, hnormal, rfl⟩
  obtain ⟨schedule, hsettles, rfl⟩ := h.exists_schedule hbound
  refine ⟨_, rfl, ?_⟩
  have hsettled := hsettles given _ o hoptions hprepare
  have hresult : matchListScheduled m strict host (.list (items.map Value.text)) (.text pattern)
      input schedule p =
      ((Batch.begin m.bound (items.map Value.text) p).follow m host (.text pattern) o
        schedule).answer := by
    rw [matchListScheduled, hoptions, Action.ofExcept_ok_bind, Matcher.filterScheduled, hprepare]
    rfl
  rw [hresult]
  exact Batch.gathered_follow m posix steady m.bound schedule hsettled

/-- **The list tool is the filter of the single tool**, under every configuration, on a host whose shell
replies to a call alike whenever it is asked.  The single calls may go on from any memory in which the
shell is found where the list tool finds it. -/
theorem list_tool_filters_by_single_tool {s : Settings} {one many : Matcher}
    (hone : s.MatchesWith one) (hmany : s.MatchesWith many) (posix : host.windows = false)
    (steady : host.IsSteady) {items : List String} (nonempty : items ≠ []) (pattern : String)
    (input : Value) (p : Memory σ) (whence : String → Memory σ)
    (hwhence : ∀ item, ShellPath.found host (whence item) = ShellPath.found host p)
    (answer : Except Failure (List Value))
    (hanswer : IsListAnswer many s.strictErrors host (.list (items.map Value.text)) (.text pattern)
      input p answer) :
    IsFilterBy
      (fun item => (matchOne one s.strictErrors host (.text item) (.text pattern) input).answer
        (whence item))
      items answer := by
  obtain rfl := hone.eq_matcher
  obtain rfl := hmany.eq_matcher
  have hbound : s.matcher.bound ≠ 0 := Matcher.boundOf_ne_zero _
  cases hrecord : record s.strictErrors host pattern input with
  | error f =>
      obtain rfl := answer_of_isListAnswer_of_refused posix hbound hrecord hanswer
      obtain ⟨item, hitem⟩ := List.exists_mem_of_ne_nil items nonempty
      exact isFilterBy_of_error hitem (answer_matchOne_of_refused hrecord item (whence item))
  | ok o =>
      obtain ⟨a, rfl, hgathered⟩ := gathered_of_isListAnswer posix steady hbound hrecord hanswer
      exact isFilterBy_of_gathered
        (fun item => answer_matchOne posix steady hrecord (hwhence item) item) hgathered

/-- A host whose shell finds that the text `a` matches the pattern `*`, and complains about all others. -/
def grumblingHost : Host Unit where
  windows := false
  currentDirectory := .ok "/work/dir"
  fileExists path := path == "/bin/bash"
  shell
    | .launch _ arguments _ _, s =>
        (.ok (if arguments.any (· == .text (Command.script "a" "*"))
          then .streams (.bytes [0x74]) (.bytes []) else .streams (.bytes []) (.bytes [0x21])), s)
    | .direct _ _, s => (.error .noOperation, s)

theorem isSteady_grumblingHost : grumblingHost.IsSteady := by
  intro call s t
  cases call <;> rfl

/-- Settings under which tools report errors. -/
def strictSettings : Settings := ⟨true, .zero, none, 2, "WARNING"⟩

/-- Under a strict default the complaint about one item ends the list, unless the call says otherwise. -/
theorem lists_of_grumbling_shell :
    (matchList strictSettings.matcher true grumblingHost (.list (["a", "b", "a"].map Value.text))
        (.text "*") (.mapping [("strictErrors", .bool false)])).answer (Memory.fresh ()) =
      .ok [.text "a", .text "a"] ∧
    ∃ f, (matchList strictSettings.matcher true grumblingHost
        (.list (["a", "b", "a"].map Value.text)) (.text "*") .null).answer (Memory.fresh ()) =
      .error f := by
  have hlist (input : Value) := list_tool_filters_by_single_tool
    (Settings.MatchesWith.unregistered (.asked none .nothing) :
      strictSettings.MatchesWith strictSettings.matcher)
    (Settings.MatchesWith.registered (r := ⟨.bashMatchList, _⟩) (.tail _ (.head _)) .nothing)
    rfl isSteady_grumblingHost (List.cons_ne_nil "a" ["b", "a"]) "*" input (Memory.fresh ())
    (fun _ => Memory.fresh ()) (fun _ => rfl) _ .byItself
  constructor
  · obtain ⟨kept, hkept⟩ := (hlist (.mapping [("strictErrors", .bool false)])).answers_iff.2 (by
      simp only [List.forall_mem_cons]
      exact ⟨⟨true, rfl⟩, ⟨false, rfl⟩, ⟨true, rfl⟩, fun _ hnone => absurd hnone List.not_mem_nil⟩)
    have hkept' := (hlist _).kept_eq kept hkept
    subst hkept'
    exact hkept
  · cases hanswer : (matchList strictSettings.matcher true grumblingHost
        (.list (["a", "b", "a"].map Value.text)) (.text "*") .null).answer (Memory.fresh ()) with
    | error f => exact ⟨f, rfl⟩
    | ok kept =>
        obtain ⟨matched, hmatched⟩ := (hlist .null).answers_iff.1 ⟨kept, hanswer⟩ "b" (by decide)
        cases hmatched

end Tool

end GlobOracle
