import GlobOracle.Command
import Mathlib.Data.List.Infix

/-!
# What can be read back from a command

A script holds its subject and its pattern as they are, with a separator between them.  `Command.readBack?`
looks for the first place of the separator, and so it reads the right two texts exactly if the subject does
not hold the separator itself; the pattern may hold anything (`readBack?_script_iff`).

The reason is that the separator does not overlap itself (`Text.IsUnbordered`): no place of it can begin in
the subject and end in the separator behind (`Text.dropInfix?_append`).  In front of the script stand the
toggles, and since every toggle begins with a name of its own, they can be told apart too, though one of
them takes two names (`flatMap_switchOn_inj`).
-/

namespace GlobOracle

/-! ## The first place of a text in another one -/

namespace Text

/-- A text that does not overlap itself: what both begins and ends it is nothing, or the whole text. -/
def IsUnbordered (needle : List Char) : Prop :=
  ∀ border, border <+: needle → border <:+ needle → border = [] ∨ border = needle

/-- A text has few beginnings, so they can be looked through. -/
instance (needle : List Char) : Decidable (IsUnbordered needle) :=
  decidable_of_iff (∀ border ∈ needle.inits, border <:+ needle → border = [] ∨ border = needle)
    (forall_congr' fun border => by rw [List.mem_inits])

variable {needle before after rest : List Char}

/-- **The first place is the one behind a text that does not hold the needle**, if the needle does not
overlap itself. -/
theorem dropInfix?_append (hneedle : IsUnbordered needle) (hbefore : ¬ needle <:+: before)
    (after : List Char) :
    (before ++ needle ++ after).dropInfix? needle = some (before, after) := by
  rw [List.dropInfix?_eq_some_iff]
  refine ⟨⟨needle, rfl, beq_self_eq_true needle⟩, ?_⟩
  intro earlier found rest hcut hfound
  obtain rfl : found = needle := eq_of_beq hfound
  rw [List.append_assoc, List.append_assoc, List.append_eq_append_iff] at hcut
  rcases hcut with ⟨gap, rfl, -⟩ | ⟨gap, rfl, hrest⟩
  · simp
  · -- The other place begins no later than this one, and `gap` lies between the two.
    rcases List.append_eq_append_iff.1 hrest with ⟨inside, rfl, -⟩ | ⟨border, hborder, hoverlap⟩
    · exact absurd ⟨earlier, inside, by simp⟩ hbefore
    · have hsuffix : border <:+ found := ⟨gap, hborder.symm⟩
      have hprefix : border <+: found :=
        List.prefix_of_prefix_length_le ⟨rest, hoverlap.symm⟩ (List.prefix_append found after)
          hsuffix.length_le
      rcases hneedle border hprefix hsuffix with rfl | rfl
      · rw [List.append_nil] at hborder
        exact absurd ⟨earlier, [], by simp [hborder]⟩ hbefore
      · have hgap : gap = [] := by simpa using hborder
        simp [hgap]

/-- What is found in front of the first place does not hold the needle. -/
theorem not_infix_of_dropInfix? (hneedle : needle ≠ [])
    (h : (before ++ after).dropInfix? needle = some (before, rest)) : ¬ needle <:+: before := by
  rintro ⟨left, right, rfl⟩
  have hfirst := (List.dropInfix?_eq_some_iff.1 h).2 left needle (right ++ after) (by simp)
    (beq_self_eq_true needle)
  have hlength : 0 < needle.length := List.length_pos_iff.2 hneedle
  simp only [List.length_append] at hfirst
  omega

end Text

/-- No two toggles have the same name. -/
theorem Toggle.name_inj {t u : Toggle} (h : t.name = u.name) : t = u := by
  have hall : ∀ t ∈ all, ∀ u ∈ all, t.name = u.name → t = u := by decide
  exact hall t (mem_all t) u (mem_all u) h

namespace Command

/-! ## Reading a script -/

/-- What stands right before the subject. -/
def marker : String := "[[ \""

/-- Reads subject and pattern from a script: it drops everything through the first marker, cuts the rest at
the first separator, and drops what stands behind the pattern. -/
def readBack? (script : String) : Option (String × String) := do
  let (_, rest) ← script.toList.dropInfix? marker.toList
  let (subject, rest) ← rest.dropInfix? separator.toList
  let pattern ← rest.dropSuffix? closing.toList
  return (String.ofList subject, String.ofList pattern)

theorem toList_script (subject pattern : String) :
    (script subject pattern).toList = opening.toList ++
      (subject.toList ++ separator.toList ++ (pattern.toList ++ closing.toList)) := by
  simp [script, String.toList_append]

/-- What stands before the marker in every script. -/
def preamble : String := "IFS=$\"\n\"; if "

theorem isUnbordered_marker : Text.IsUnbordered marker.toList := by decide

theorem isUnbordered_separator : Text.IsUnbordered separator.toList := by decide

theorem not_marker_infix_preamble : ¬ marker.toList <:+: preamble.toList := by decide

theorem toList_opening : opening.toList = preamble.toList ++ marker.toList := by decide

/-- What follows the marker decides what is read. -/
theorem readBack?_script (subject pattern : String) :
    readBack? (script subject pattern) = do
      let (read, rest) ← (subject.toList ++ separator.toList ++
        (pattern.toList ++ closing.toList)).dropInfix? separator.toList
      let rest ← rest.dropSuffix? closing.toList
      return (String.ofList read, String.ofList rest) := by
  rw [readBack?, toList_script, toList_opening,
    Text.dropInfix?_append isUnbordered_marker not_marker_infix_preamble]
  rfl

/-- **Subject and pattern are read back exactly if the subject does not hold the separator.** -/
theorem readBack?_script_iff (subject pattern : String) :
    readBack? (script subject pattern) = some (subject, pattern) ↔
      ¬ separator.toList <:+: subject.toList := by
  rw [readBack?_script]
  constructor
  · intro h
    obtain ⟨⟨read, rest⟩, hcut, h⟩ := Option.bind_eq_some_iff.1 h
    obtain ⟨last, -, h⟩ := Option.bind_eq_some_iff.1 h
    obtain ⟨hread, -⟩ := Prod.mk.inj (Option.some.inj h)
    obtain rfl : read = subject.toList := by rw [← hread, String.toList_ofList]
    rw [List.append_assoc] at hcut
    exact Text.not_infix_of_dropInfix? (by decide) hcut
  · intro h
    have hclosing : (pattern.toList ++ closing.toList).dropSuffix? closing.toList =
        some pattern.toList :=
      List.dropSuffix?_eq_some_iff.2 ⟨_, rfl, beq_self_eq_true _⟩
    rw [Text.dropInfix?_append isUnbordered_separator h, Option.bind_eq_bind, Option.bind_some]
    dsimp only
    rw [hclosing]
    simp

/-! ## The toggles in front of the script -/

/-- The first name of a toggle is its own. -/
theorem exists_switchOn_eq (t : Toggle) : ∃ more, switchOn t = setFlag :: t.name :: more := by
  cases t <;> exact ⟨_, rfl⟩

/-- **Toggles can be told by their arguments**, though not all of them take equally many. -/
theorem flatMap_switchOn_inj {toggles others : List Toggle}
    (h : toggles.flatMap switchOn = others.flatMap switchOn) : toggles = others := by
  induction toggles generalizing others with
  | nil =>
      cases others with
      | nil => rfl
      | cons u others =>
          obtain ⟨more, hu⟩ := exists_switchOn_eq u
          simp [hu] at h
  | cons t toggles ih =>
      obtain ⟨more, ht⟩ := exists_switchOn_eq t
      cases others with
      | nil => simp [ht] at h
      | cons u others =>
          obtain ⟨more', hu⟩ := exists_switchOn_eq u
          obtain rfl : t = u := by
            have hname := congrArg (·[1]?) h
            simp only [List.flatMap_cons, ht, hu] at hname
            exact Toggle.name_inj (Option.some.inj hname)
          rw [List.flatMap_cons, List.flatMap_cons, List.append_cancel_left_eq] at h
          rw [ih h]

/-- Two commands are the same exactly if their scripts are and the same toggles are on. -/
theorem arguments_eq_iff {request request' : Request} :
    arguments request = arguments request' ↔
      script request.subject request.pattern = script request'.subject request'.pattern ∧
        request.options.enabledToggles = request'.options.enabledToggles := by
  constructor
  · intro h
    obtain ⟨htoggles, hscript⟩ := List.append_inj' h rfl
    rw [toggleArguments_eq, toggleArguments_eq] at htoggles
    exact ⟨by simpa using hscript, flatMap_switchOn_inj htoggles⟩
  · rintro ⟨hscript, htoggles⟩
    rw [arguments, arguments, toggleArguments_eq, toggleArguments_eq, hscript, htoggles]

/-- **What a command tells.**  A script tells its subject and its pattern exactly if the subject does not
hold the separator, whatever the pattern holds.  So two requests whose subjects do not hold it have the same
command exactly if they agree in subject, pattern and the toggles that are on. -/
theorem command_tells_request :
    (∀ subject pattern : String,
      readBack? (script subject pattern) = some (subject, pattern) ↔
        ¬ separator.toList <:+: subject.toList) ∧
    ∀ request request' : Request,
      ¬ separator.toList <:+: request.subject.toList →
      ¬ separator.toList <:+: request'.subject.toList →
      (arguments request = arguments request' ↔
        request.subject = request'.subject ∧ request.pattern = request'.pattern ∧
          request.options.enabledToggles = request'.options.enabledToggles) := by
  refine ⟨readBack?_script_iff, fun request request' h h' => ?_⟩
  rw [arguments_eq_iff]
  constructor
  · rintro ⟨hscript, htoggles⟩
    have hread := (readBack?_script_iff request.subject request.pattern).2 h
    have hread' := (readBack?_script_iff request'.subject request'.pattern).2 h'
    rw [hscript, hread', Option.some.injEq, Prod.mk.injEq] at hread
    exact ⟨hread.1.symm, hread.2.symm, htoggles⟩
  · rintro ⟨hsubject, hpattern, htoggles⟩
    rw [hsubject, hpattern]
    exact ⟨rfl, htoggles⟩

/-- A subject that ends in a piece of the separator is read back, and different values that count as true
switch the same toggles on. -/
theorem command_of_cut_separator :
    readBack? (script "a\" =" "b\" = c") = some ("a\" =", "b\" = c") ∧
    arguments ⟨"a\" =", "b\" = c", Options.defaults.set (.toggle .nocaseglob) (.int 2)⟩ =
      arguments ⟨"a\" =", "b\" = c", Options.defaults.set (.toggle .nocaseglob) (.text "yes")⟩ := by
  obtain ⟨hread, harguments⟩ := command_tells_request
  have hsubject : ¬ separator.toList <:+: ("a\" =" : String).toList := by decide
  exact ⟨(hread _ _).2 hsubject, (harguments _ _ hsubject hsubject).2 ⟨rfl, rfl, rfl⟩⟩

/-- With the separator in a subject, two requests may share their script. -/
example : script "a\" = b" "c" = script "a" "b\" = c" := rfl

end Command

end GlobOracle
