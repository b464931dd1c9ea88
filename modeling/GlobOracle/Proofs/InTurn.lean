import GlobOracle.Matcher
import GlobOracle.Proofs.Action
import GlobOracle.Proofs.Canonical
import GlobOracle.Proofs.SingleMatch

/-!
# A list is matched item by item

`InTurn` says what it is to match some items one after another, each from the memory that the one before
has left.  `filter_runs_matches_in_turn` says that filtering a list is nothing else: it makes the options
canonical once, and this comes to the same as handing the caller's options to every single match.

On the way the host is asked for the calls of the single matches and for no others
(`asked_of_keep_eq_ok`, `asked_of_keep_eq_error`).
-/

namespace GlobOracle.Matcher

variable {σ : Type} {host : Host σ} {single : Value → Action σ Bool} {p q : Memory σ}
  {items kept : List Value} {f : Failure}

/-- Each of some items gets an answer from a single match, in their order, and each match goes on from the
memory that the one before has left. -/
inductive InTurn (single : Value → Action σ Bool) :
    List Value → Memory σ → List Bool → Memory σ → Prop
  | nil (p : Memory σ) : InTurn single [] p [] p
  | cons {item : Value} {items : List Value} {matched : Bool} {flags : List Bool}
      {p q r : Memory σ} :
      single item p = .ok matched q → InTurn single items q flags r →
      InTurn single (item :: items) p (matched :: flags) r

/-- The items whose flag is true, in their order. -/
def flagged (items : List Value) (flags : List Bool) : List Value :=
  ((items.zip flags).filter (·.2)).map (·.1)

@[simp] theorem flagged_cons (item : Value) (items : List Value) (matched : Bool)
    (flags : List Bool) :
    flagged (item :: items) (matched :: flags) =
      if matched then item :: flagged items flags else flagged items flags := by
  cases matched <;> rfl

/-! ## The loop over the items -/

variable (m : Matcher) (pattern : Value) (o : Options)

/-- The loop answers exactly if every item in turn does, and keeps those that match. -/
theorem keep_eq_ok_iff :
    m.keep host pattern o items p = .ok kept q ↔
      ∃ flags, InTurn (fun item => m.test host item pattern o.value) items p flags q ∧
        kept = flagged items flags := by
  induction items generalizing p kept with
  | nil =>
      constructor
      · intro h
        cases h
        exact ⟨[], .nil _, rfl⟩
      · rintro ⟨flags, hturn, rfl⟩
        cases hturn
        rfl
  | cons item items ih =>
      rw [keep, Action.bind_eq_ok_iff]
      constructor
      · rintro ⟨matched, r, hitem, hrest⟩
        obtain ⟨rest, s, hkeep, hpure⟩ := Action.bind_eq_ok_iff.1 hrest
        cases hpure
        obtain ⟨flags, hturn, rfl⟩ := ih.1 hkeep
        exact ⟨matched :: flags, .cons hitem hturn, (flagged_cons item items matched flags).symm⟩
      · rintro ⟨flags, hturn, rfl⟩
        cases hturn with
        | cons hitem hturn =>
            refine ⟨_, _, hitem, Action.bind_eq_ok_iff.2 ⟨_, _, ih.2 ⟨_, hturn, rfl⟩, ?_⟩⟩
            rw [flagged_cons]
            rfl

/-- The loop fails exactly if some item fails after every item before it has answered. -/
theorem keep_eq_error_iff :
    m.keep host pattern o items p = .error f q ↔
      ∃ before item after flags r, items = before ++ item :: after ∧
        InTurn (fun item => m.test host item pattern o.value) before p flags r ∧
        m.test host item pattern o.value r = .error f q := by
  induction items generalizing p with
  | nil =>
      constructor
      · intro h
        cases h
      · rintro ⟨before, item, after, flags, r, hitems, -⟩
        cases before <;> cases hitems
  | cons item items ih =>
      rw [keep, Action.bind_eq_error_iff]
      constructor
      · rintro (hitem | ⟨matched, r, hitem, hrest⟩)
        · exact ⟨[], item, items, [], p, rfl, .nil p, hitem⟩
        · rcases Action.bind_eq_error_iff.1 hrest with hkeep | ⟨rest, s, -, hpure⟩
          · obtain ⟨before, failing, after, flags, s, rfl, hturn, hfails⟩ := ih.1 hkeep
            exact ⟨item :: before, failing, after, matched :: flags, s, rfl, .cons hitem hturn, hfails⟩
          · cases hpure
      · rintro ⟨before, failing, after, flags, s, hitems, hturn, hfails⟩
        cases hturn with
        | nil =>
            cases hitems
            exact Or.inl hfails
        | cons hitem hturn =>
            cases hitems
            exact Or.inr ⟨_, _, hitem, Action.bind_eq_error_iff.2
              (Or.inl (ih.2 ⟨_, failing, after, _, s, rfl, hturn, hfails⟩))⟩

/-! ## The calls of the loop -/

/-- Matches in turn ask for their calls in turn.  The path of the shell stays where it was found, so each
call is the one that its match would ask for at the beginning. -/
theorem asked_of_inTurn (posix : host.windows = false) {options : Value} {flags : List Bool}
    (hturn : InTurn (fun item => m.test host item pattern options) items p flags q) :
    p.Asked host (items.flatMap fun item => m.callsOf host p item pattern options) q := by
  induction hturn with
  | nil p => exact .refl host p
  | @cons item items matched flags p q r hitem _ ih =>
      have hfirst : p.Asked host (m.callsOf host p item pattern options) q :=
        m.asked_of_test posix (.ok matched) hitem
      simp only [m.callsOf_eq_of_found hfirst.found_eq] at ih
      rw [List.flatMap_cons]
      exact hfirst.trans ih

/-- The same with one more match behind, however that one ends. -/
theorem asked_of_inTurn_append (posix : host.windows = false) {options item : Value}
    {flags : List Bool} {answer : Except Failure Bool} {r : Memory σ}
    (hturn : InTurn (fun item => m.test host item pattern options) items p flags r)
    (hlast : m.test host item pattern options r = Action.ofExcept answer q) :
    p.Asked host ((items ++ [item]).flatMap fun item => m.callsOf host p item pattern options) q := by
  have hbefore := asked_of_inTurn m pattern posix hturn
  have hasked := m.asked_of_test posix answer hlast
  rw [m.callsOf_eq_of_found hbefore.found_eq] at hasked
  rw [List.flatMap_append, List.flatMap_singleton]
  exact hbefore.trans hasked

/-- A loop that answers has asked for the calls of all items. -/
theorem asked_of_keep_eq_ok (posix : host.windows = false)
    (h : m.keep host pattern o items p = .ok kept q) :
    p.Asked host (items.flatMap fun item => m.callsOf host p item pattern o.value) q := by
  obtain ⟨flags, hturn, -⟩ := (keep_eq_ok_iff m pattern o).1 h
  exact asked_of_inTurn m pattern posix hturn

/-- A loop that fails has asked for the calls of the items up to the one that failed. -/
theorem asked_of_keep_eq_error (posix : host.windows = false)
    (h : m.keep host pattern o items p = .error f q) :
    ∃ before item after flags r, items = before ++ item :: after ∧
      InTurn (fun item => m.test host item pattern o.value) before p flags r ∧
      m.test host item pattern o.value r = .error f q ∧
      p.Asked host ((before ++ [item]).flatMap fun item => m.callsOf host p item pattern o.value) q := by
  obtain ⟨before, item, after, flags, r, hitems, hturn, hfails⟩ := (keep_eq_error_iff m pattern o).1 h
  have hlast : m.test host item pattern o.value r = Action.ofExcept (.error f) q := hfails
  exact ⟨before, item, after, flags, r, hitems, hturn, hfails,
    asked_of_inTurn_append m pattern posix hturn hlast⟩

/-! ## Canonical once, or canonical every time -/

/-- A text has a request under a canonical record. -/
theorem request_canonical {pattern : String} {o : Options} (canonical : o.has .normalized = true)
    (subject : String) :
    request host (.text subject) (.text pattern) o.value = .ok ⟨subject, pattern, o⟩ := by
  rw [request_text, Options.normalize_marked rfl canonical]
  rfl

/-- Under a canonical record nothing but a text has a request. -/
theorem exists_text_of_request {pattern : String} {o : Options} {item : Value} {r : Request}
    (canonical : o.has .normalized = true)
    (h : request host item (.text pattern) o.value = .ok r) :
    ∃ s, item = .text s ∧ r = ⟨s, pattern, o⟩ := by
  cases item with
  | text s =>
      rw [request_canonical canonical] at h
      cases h
      exact ⟨s, rfl, rfl⟩
  | _ => cases h

/-- The caller's options and the record made canonical from them have the same requests. -/
theorem request_of_normalize {pattern : String} {options : Value} {o : Options}
    (normal : Options.normalize host.currentDirectory (.text pattern) options = .ok o)
    (subject : Value) :
    request host subject (.text pattern) o.value = request host subject (.text pattern) options := by
  rw [request, request, normal, Options.normalize_normalize normal]

/-- A single match does not care whether it gets the caller's options or the record made canonical from
them. -/
theorem test_canonical {pattern : String} {options : Value} {o : Options}
    (normal : Options.normalize host.currentDirectory (.text pattern) options = .ok o)
    (subject : Value) :
    m.test host subject (.text pattern) o.value = m.test host subject (.text pattern) options := by
  rw [test, test, request_of_normalize normal]

/-- What is checked before the first item goes well exactly if every part of it does. -/
theorem prepare_eq_ok_iff {listed pattern options : Value} {items : List Value} {o : Options} :
    prepare host listed pattern options = .ok (items, o) ↔
      (∃ text, pattern = .text text) ∧ host.windows = false ∧
        Options.normalize host.currentDirectory pattern options = .ok o ∧
        itemsOf listed = .ok items := by
  constructor
  · intro h
    unfold prepare at h
    cases pattern with
    | text text =>
        cases hwindows : host.windows with
        | true =>
            rw [hwindows] at h
            cases h
        | false =>
            rw [hwindows] at h
            cases hnormal : Options.normalize host.currentDirectory (.text text) options with
            | error f =>
                rw [hnormal] at h
                cases h
            | ok o' =>
                rw [hnormal] at h
                cases hitems : itemsOf listed with
                | error f =>
                    rw [hitems] at h
                    cases h
                | ok items' =>
                    rw [hitems] at h
                    cases h
                    exact ⟨⟨text, rfl⟩, rfl, rfl, rfl⟩
    | _ => cases h
  · rintro ⟨⟨text, rfl⟩, hwindows, hnormal, hitems⟩
    rw [prepare, hwindows, hnormal, hitems]
    rfl

/-- Behind the checks, filtering a list is the loop over its items. -/
theorem filter_eq_keep {listed pattern options : Value} {items : List Value} {o : Options}
    (prepared : prepare host listed pattern options = .ok (items, o)) :
    m.filter host listed pattern options = m.keep host pattern o items := by
  rw [filter, prepared]
  rfl

/-- **Filtering a list is matching its items one after another**, each with the options as the caller gave
them.  It answers exactly if every item in turn does, and then with the items that match, in their order
and as often as they stand in the list.  It fails exactly if some item fails after all items before it have
answered, and with the failure of that item.  Either way the memory is the one that the single matches
leave: the same calls, the same messages and the same state of the shell. -/
theorem filter_runs_matches_in_turn {pattern : String} {options : Value} {o : Options}
    {listed : Value} (posix : host.windows = false)
    (normal : Options.normalize host.currentDirectory (.text pattern) options = .ok o)
    (hitems : itemsOf listed = .ok items) (p : Memory σ) :
    (∀ kept q, m.filter host listed (.text pattern) options p = .ok kept q ↔
      ∃ flags, InTurn (fun item => m.test host item (.text pattern) options) items p flags q ∧
        kept = flagged items flags) ∧
    (∀ f q, m.filter host listed (.text pattern) options p = .error f q ↔
      ∃ before item after flags r, items = before ++ item :: after ∧
        InTurn (fun item => m.test host item (.text pattern) options) before p flags r ∧
        m.test host item (.text pattern) options r = .error f q) := by
  have hsingle : (fun item => m.test host item (.text pattern) options) =
      fun item => m.test host item (.text pattern) o.value :=
    funext fun item => (m.test_canonical normal item).symm
  have hfilter : m.filter host listed (.text pattern) options p = m.keep host (.text pattern) o items p := by
    rw [filter, prepare_eq_ok_iff.2 ⟨⟨pattern, rfl⟩, posix, normal, hitems⟩]
    rfl
  rw [hsingle, hfilter]
  constructor
  · intro kept q
    exact keep_eq_ok_iff m (.text pattern) o
  · intro f q
    simp only [← m.test_canonical normal]
    exact keep_eq_error_iff m (.text pattern) o

/-- A host whose shell prints something in its first run only. -/
def tiringHost : Host Nat where
  windows := false
  currentDirectory := .ok "/work/dir"
  fileExists _ := true
  shell _ n := (.ok (.streams (.bytes (if n = 0 then [0x74] else [])) (.bytes [])), n + 1)

/-- Of two equal items only the first one matches, and an item that is no text ends the list. -/
theorem filter_tiring :
    (∃ q, filter ⟨.direct, 4⟩ tiringHost (.list [.text "a", .text "a"]) (.text "a") .null
      (Memory.fresh 0) = .ok [.text "a"] q) ∧
    ∃ q, filter ⟨.direct, 4⟩ tiringHost (.list [.text "a", .int 1, .text "a"]) (.text "a") .null
      (Memory.fresh 0) = .error (.rejected (.notText "subject" "int")) q := by
  constructor
  · exact ⟨_, ((filter_runs_matches_in_turn ⟨.direct, 4⟩ rfl rfl rfl (Memory.fresh 0)).1 _ _).2
      ⟨[true, false], .cons rfl (.cons rfl (.nil _)), rfl⟩⟩
  · exact ⟨_, ((filter_runs_matches_in_turn ⟨.direct, 4⟩ rfl rfl rfl (Memory.fresh 0)).2 _ _).2
      ⟨[.text "a"], .int 1, [.text "a"], [true], _, rfl, .cons rfl (.nil _), rfl⟩⟩

end GlobOracle.Matcher
