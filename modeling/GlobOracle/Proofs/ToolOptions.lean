import GlobOracle.Tool
import GlobOracle.Proofs.CanonicalRecord
import GlobOracle.Proofs.Entries

/-!
# What becomes of the options of a tool call

The options of a tool call are a mapping, which fills a record (`Options.get_ofEntries`), which is made
canonical.  `Tool.IsCanonicalFor` says what the outcome ought to be in terms of the mapping alone.

The mapping may also hold the mark of canonical records, and then nothing more is done to it.  So the
outcome is canonical exactly if the mark does not count as true, or the mapping happens to be canonical
already (`canonical_iff_unmarked_or_finished`).
-/

namespace GlobOracle

namespace Tool

/-! ## A call and its mapping -/

/-- The entries of the options of a call. -/
def entriesOf : Value → List (String × Value)
  | .mapping entries => entries
  | _ => []

/-- The value that a mapping holds under a name, and no value if it holds none.  A mapping has each name
once; if it had one twice, the last entry would count. -/
def held (entries : List (String × Value)) (name : String) : Value :=
  ((entries.reverse.find? (·.1 == name)).map (·.2)).getD .null

/-- A call asks for a toggle if it holds a true value for it or for an alias of it, or leaves it out while
the pattern implies it. -/
def AsksFor (entries : List (String × Value)) (pattern : String) (t : Toggle) : Prop :=
  (held entries t.name).truthy = true ∨
    (∃ a : Alias, a.target = t ∧ (held entries a.name).truthy = true) ∨
    (held entries t.name = .null ∧ Pattern.Implies pattern t)

/-- A record is the canonical one for a call and a pattern if it is marked, uses no alias, has every toggle
on or absent, names a directory, and has exactly those toggles on that the call asks for. -/
structure IsCanonicalFor (entries : List (String × Value)) (pattern : String) (r : Options) : Prop where
  marked : r.get .normalized = .bool true
  noAlias : ∀ a, r.get (.byAlias a) = .bool false
  toggles : ∀ t, r.get (.toggle t) = .null ∨ r.get (.toggle t) = .bool true
  located : r.has .workingDirectory = true
  on_iff : ∀ t, r.get (.toggle t) = .bool true ↔ AsksFor entries pattern t

/-- A record with nothing left to do for a pattern: marked, without aliases, with a directory, and with
every toggle on, or absent and not implied. -/
structure IsFinished (pattern : String) (o : Options) : Prop where
  marked : o.get .normalized = .bool true
  noAlias : ∀ a, o.get (.byAlias a) = .bool false
  toggles : ∀ t, o.get (.toggle t) = .bool true ∨
    o.get (.toggle t) = .null ∧ ¬ Pattern.Implies pattern t
  located : o.has .workingDirectory = true

variable {strict : Bool} {input : Value} {o : Options}

/-- The options of a call are filled from its entries, and perhaps one more for the error policy. -/
theorem ofEntries_of_options (h : options strict input = .ok o) :
    Options.ofEntries (withPolicy strict (entriesOf input)) = .ok o := by
  cases input with
  | null => exact h
  | mapping entries => exact h
  | _ => cases h

/-- The entry for the error policy is for no other field. -/
theorem lastFor_withPolicy {f : Field} (hf : f ≠ .strictErrors) (entries : List (String × Value)) :
    Options.lastFor (withPolicy strict entries) f = Options.lastFor entries f := by
  unfold withPolicy
  by_cases hmentions : mentionsPolicy entries = true
  · rw [if_pos hmentions]
  · rw [if_neg hmentions, Options.lastFor, List.reverse_append, List.find?_append]
    have hkey : Field.ofKey? Field.strictErrors.name = some .strictErrors := Field.ofKey?_name _
    simp [Options.lastFor, hkey, Ne.symm hf]

/-- The last entry for a field is the last one with its name, but for the error policy, which has two. -/
theorem lastFor_eq_find? {f : Field} (hf : f ≠ .strictErrors) (entries : List (String × Value)) :
    Options.lastFor entries f = (entries.reverse.find? (·.1 == f.name)).map (·.2) := by
  have hkey : (fun entry : String × Value => Field.ofKey? entry.1 == some f) =
      fun entry => entry.1 == f.name := by
    funext entry
    rw [Bool.eq_iff_iff, beq_iff_eq, beq_iff_eq, Field.ofKey?_eq_some_iff, Field.isKey_iff_of_ne hf]
  rw [Options.lastFor, hkey]

theorem get_options (h : options strict input = .ok o) {f : Field} (hf : f ≠ .strictErrors) :
    o.get f = (((entriesOf input).reverse.find? (·.1 == f.name)).map (·.2)).getD
      (Options.defaults.get f) := by
  rw [Options.get_ofEntries (ofEntries_of_options h), lastFor_withPolicy hf, lastFor_eq_find? hf]

/-- A field whose default is no value holds what the call holds under its name. -/
theorem get_toggle_options (h : options strict input = .ok o) (t : Toggle) :
    o.get (.toggle t) = held (entriesOf input) t.name :=
  get_options h (by simp)

/-- Whether a field counts as true does not depend on its default, since no default does. -/
theorem has_options (h : options strict input = .ok o) {f : Field} (hf : f ≠ .strictErrors) :
    o.has f = (held (entriesOf input) f.name).truthy := by
  rw [Options.has, get_options h hf, held]
  cases (entriesOf input).reverse.find? (·.1 == f.name) with
  | some entry => rfl
  | none => cases f <;> rfl

theorem switches_options (h : options strict input = .ok o) (pattern : String) (t : Toggle) :
    o.switches pattern t = true ↔ AsksFor (entriesOf input) pattern t := by
  have halias : ∀ a, o.has (.byAlias a) = (held (entriesOf input) a.name).truthy :=
    fun a => has_options h (by simp)
  rw [Options.switches_iff, has_options h (by simp), get_toggle_options h]
  simp only [halias, Field.name, AsksFor]

/-! ## The canonical record of a call -/

variable {current : Except OsError String} {pattern : String} {r : Options}

/-- A call whose mark does not count as true gets its canonical record. -/
theorem isCanonicalFor_of_unmarked (accepted : options strict input = .ok o)
    (works : ∀ path, current = .ok path → path ≠ "")
    (unmarked : o.has .normalized = false)
    (h : Options.normalize current (.text pattern) o.value = .ok r) :
    IsCanonicalFor (entriesOf input) pattern r := by
  rcases Options.normalize_eq_ok rfl h with ⟨hmarked, -⟩ | ⟨-, d, hdirectory, rfl⟩
  · exact absurd hmarked (by rw [unmarked]; exact Bool.false_ne_true)
  · have hcanonical : Options.IsCanonicalOf pattern current o (d.specified pattern) :=
      Options.isCanonicalOf_specified hdirectory
    refine ⟨hcanonical.marked, hcanonical.noAlias, hcanonical.toggles, ?_, fun t => ?_⟩
    · obtain ⟨directory, rfl, ⟨rfl, hnamed⟩ | ⟨path, hpath, rfl, -⟩⟩ :=
        Options.withDirectory_eq_ok hdirectory
      · show (o.get .workingDirectory).plain.truthy = true
        rw [Options.truthy_plain]
        exact hnamed
      · simpa [Options.has, Options.specified, Value.truthy] using works path hpath
    · rw [hcanonical.on_iff, ← Options.switches_iff, switches_options accepted]

/-- A record that goes out as it came in is canonical for its call exactly if nothing was left to do. -/
theorem isCanonicalFor_self_iff (accepted : options strict input = .ok o) :
    IsCanonicalFor (entriesOf input) pattern o ↔ IsFinished pattern o := by
  constructor
  · intro h
    refine ⟨h.marked, h.noAlias, fun t => ?_, h.located⟩
    rcases h.toggles t with hnull | htrue
    · refine Or.inr ⟨hnull, fun himplied => ?_⟩
      have hasks : AsksFor (entriesOf input) pattern t :=
        Or.inr (Or.inr ⟨(get_toggle_options accepted t).symm.trans hnull, himplied⟩)
      rw [(h.on_iff t).2 hasks] at hnull
      cases hnull
    · exact Or.inl htrue
  · intro h
    refine ⟨h.marked, h.noAlias, fun t => ?_, h.located, fun t => ⟨fun htrue => ?_, ?_⟩⟩
    · exact (h.toggles t).elim Or.inr fun hnull => Or.inl hnull.1
    · exact Or.inl (by rw [← get_toggle_options accepted, htrue]; rfl)
    · rcases h.toggles t with htrue | ⟨hnull, hnot⟩
      · exact fun _ => htrue
      · rintro (hself | ⟨a, -, halias⟩ | ⟨-, himplied⟩)
        · rw [← get_toggle_options accepted, hnull] at hself
          cases hself
        · have hused : o.has (.byAlias a) = true :=
            (has_options accepted (by simp)).trans halias
          rw [Options.has, h.noAlias a] at hused
          cases hused
        · exact absurd himplied hnot

/-- **When the options of a call come out canonical.**  With a directory that can be looked up there is
always a record.  It is the canonical one for the call exactly if the call holds no true value for the mark
of canonical records, or its own record had nothing left to do.  A call that holds a true mark gets its
record back as it is, without a look at aliases, pattern and directory. -/
theorem canonical_iff_unmarked_or_finished (accepted : options strict input = .ok o)
    (pattern : String) (works : ∀ path, current = .ok path → path ≠ "") :
    (∀ path, current = .ok path →
      ∃ r, Options.normalize current (.text pattern) o.value = .ok r) ∧
    ∀ r, Options.normalize current (.text pattern) o.value = .ok r →
      (IsCanonicalFor (entriesOf input) pattern r ↔
        (held (entriesOf input) Field.normalized.name).truthy = false ∨ IsFinished pattern o) ∧
      ((held (entriesOf input) Field.normalized.name).truthy = true → r = o) := by
  have hmark : o.has .normalized = (held (entriesOf input) Field.normalized.name).truthy :=
    has_options accepted (by simp)
  rw [← hmark]
  constructor
  · rintro path rfl
    cases hrecord : Options.normalize (.ok path) (.text pattern) o.value with
    | ok r => exact ⟨r, rfl⟩
    | error f =>
        obtain ⟨-, -, e, he, -⟩ := (Options.normalize_eq_error_iff pattern rfl).1 hrecord
        cases he
  · intro r h
    cases hmarked : o.has .normalized with
    | true =>
        rw [Options.normalize_marked rfl hmarked, Except.ok.injEq] at h
        subst h
        simp [isCanonicalFor_self_iff accepted]
    | false => simp [isCanonicalFor_of_unmarked accepted works hmarked h]

/-- A call without the mark comes out canonical: the alias is expanded, `extglob` is inferred, and
`globstar` is not, since the call says false. -/
theorem canonical_without_mark :
    ∃ o r, options false (.mapping [("nocase", .int 1), ("globstar", .bool false)]) = .ok o ∧
      Options.normalize (.ok "/work/dir") (.text "**/@(a|b)") o.value = .ok r ∧
      IsCanonicalFor [("nocase", .int 1), ("globstar", .bool false)] "**/@(a|b)" r := by
  obtain ⟨o, accepted⟩ : ∃ o,
      options false (.mapping [("nocase", .int 1), ("globstar", .bool false)]) = .ok o := ⟨_, rfl⟩
  have works : ∀ path, (.ok "/work/dir" : Except OsError String) = .ok path → path ≠ "" := by
    rintro path ⟨⟩
    decide
  obtain ⟨hrecord, hcanonical⟩ := canonical_iff_unmarked_or_finished accepted "**/@(a|b)" works
  obtain ⟨r, hr⟩ := hrecord "/work/dir" rfl
  exact ⟨o, r, accepted, hr, (hcanonical r hr).1.2 (Or.inl rfl)⟩

/-- **A call can keep its record from becoming canonical**: one that holds the mark of canonical records
is accepted, and its alias is neither expanded nor taken away. -/
theorem not_canonical_with_mark :
    ∃ o r, options false (.mapping [("normalized", .bool true), ("dot", .bool true)]) = .ok o ∧
      Options.normalize (.ok "/work/dir") (.text "*") o.value = .ok r ∧
      r.get (.byAlias .dot) = .bool true ∧ r.get (.toggle .dotglob) = .null ∧
      r.has .workingDirectory = false ∧
      ¬ IsCanonicalFor [("normalized", .bool true), ("dot", .bool true)] "*" r := by
  refine ⟨_, _, rfl, rfl, rfl, rfl, rfl, fun h => ?_⟩
  have hdot := h.noAlias .dot
  cases hdot

end Tool

end GlobOracle
