import GlobOracle.Proofs.Canonical

/-!
# The canonical record, field by field

`Options.IsCanonicalOf` says of every field what the canonical record of a record holds in it.  There is one
such record only (`IsCanonicalOf.unique`), and normalisation computes it, whatever the fields hold, as long
as the directory can be told (`Options.normalize_computes_canonical_record`).

A working directory that is named is kept as a plain value: a record of options, or any other object made
of named fields, becomes the mapping of its fields wherever it stands in it
(`named_record_becomes_mapping`), and everything else stays as it is (`Value.plain_of_not_holdsFields`).
-/

namespace GlobOracle

/-! ## Values without fields -/

namespace Value

mutual

/-- Is a value a record or another object made of fields, or is there one in it? -/
def holdsFields : Value → Bool
  | list xs => holdsFieldsAmong xs
  | tuple xs => holdsFieldsAmong xs
  | mapping entries => holdsFieldsInEntries entries
  | record _ => true
  | object _ _ _ _ => true
  | _ => false

/-- Does one of some values hold an object made of fields? -/
def holdsFieldsAmong : List Value → Bool
  | [] => false
  | x :: xs => holdsFields x || holdsFieldsAmong xs

/-- Does the value of one of some entries hold an object made of fields? -/
def holdsFieldsInEntries : List (String × Value) → Bool
  | [] => false
  | (_, value) :: entries => holdsFields value || holdsFieldsInEntries entries

end

mutual

/-- **A value without such objects is plain already.** -/
theorem plain_of_not_holdsFields : ∀ v : Value, v.holdsFields = false → v.plain = v
  | .null, _ | .bool _, _ | .int _, _ | .float _, _ | .text _, _ | .bytes _, _ | .other _ _ _ _, _ => by
      simp [plain]
  | .list xs, h => by rw [plain, plainAll_of_not_holdsFieldsAmong xs h]
  | .tuple xs, h => by rw [plain, plainAll_of_not_holdsFieldsAmong xs h]
  | .mapping entries, h => by rw [plain, plainEntries_of_not_holdsFieldsInEntries entries h]
  | .record _, h | .object _ _ _ _, h => by simp [holdsFields] at h

theorem plainAll_of_not_holdsFieldsAmong :
    ∀ xs : List Value, holdsFieldsAmong xs = false → plainAll xs = xs
  | [], _ => by rw [plainAll]
  | x :: xs, h => by
      rw [holdsFieldsAmong, Bool.or_eq_false_iff] at h
      rw [plainAll, plain_of_not_holdsFields x h.1, plainAll_of_not_holdsFieldsAmong xs h.2]

theorem plainEntries_of_not_holdsFieldsInEntries :
    ∀ entries : List (String × Value), holdsFieldsInEntries entries = false →
      plainEntries entries = entries
  | [], _ => by rw [plainEntries]
  | (name, value) :: entries, h => by
      rw [holdsFieldsInEntries, Bool.or_eq_false_iff] at h
      rw [plainEntries, plain_of_not_holdsFields value h.1,
        plainEntries_of_not_holdsFieldsInEntries entries h.2]

end

/-- An object in a list becomes the mapping of its fields, and the list stays one. -/
example : (list [.object "Result" "out" (.bytes [120]) [("err", .null)], .int 1]).plain =
    list [.mapping [("out", .bytes [120]), ("err", .null)], .int 1] := rfl

end Value

namespace Options

variable {current : Except OsError String} {input : Value} {o r r' : Options} {pattern : String}

/-! ## The record that is specified -/

/-- What the canonical record of an unmarked record holds.  The order in which aliases, pattern and given
values are looked at does not show in it. -/
structure IsCanonicalOf (pattern : String) (current : Except OsError String) (o r : Options) :
    Prop where
  /-- It is marked. -/
  marked : r.get .normalized = .bool true
  /-- No alias is left. -/
  noAlias : ∀ a, r.get (.byAlias a) = .bool false
  /-- The error policy is a truth value. -/
  policy : r.get .strictErrors = .bool (o.has .strictErrors)
  /-- A directory that is named is kept as a plain value. -/
  named : o.has .workingDirectory = true →
    r.get .workingDirectory = (o.get .workingDirectory).plain
  /-- So it stays as it is if no object in it is made of fields. -/
  kept : o.has .workingDirectory = true → (o.get .workingDirectory).holdsFields = false →
    r.get .workingDirectory = o.get .workingDirectory
  /-- If none is named, the current one is filled in. -/
  located : ∀ path, o.has .workingDirectory = false → current = .ok path →
    r.get .workingDirectory = .text path
  /-- Every toggle is absent or true. -/
  toggles : ∀ t, r.get (.toggle t) = .null ∨ r.get (.toggle t) = .bool true
  /-- A toggle is on if it was, if an alias of it is used, or if nobody has set it and the pattern implies
  it. -/
  on_iff : ∀ t, r.get (.toggle t) = .bool true ↔
    o.has (.toggle t) = true ∨ (∃ a : Alias, a.target = t ∧ o.has (.byAlias a) = true) ∨
      o.get (.toggle t) = .null ∧ Pattern.Implies pattern t

/-- **There is one canonical record at most**, if the directory can be told. -/
theorem IsCanonicalOf.unique (h : IsCanonicalOf pattern current o r)
    (h' : IsCanonicalOf pattern current o r')
    (htold : o.has .workingDirectory = true ∨ ∃ path, current = .ok path) : r = r' := by
  ext f
  cases f with
  | toggle t =>
      have hsame : r.get (.toggle t) = .bool true ↔ r'.get (.toggle t) = .bool true :=
        (h.on_iff t).trans (h'.on_iff t).symm
      rcases h.toggles t with hoff | hon
      · rcases h'.toggles t with hoff' | hon'
        · rw [hoff, hoff']
        · rw [hsame.2 hon', hon']
      · rw [hon, hsame.1 hon]
  | byAlias a => rw [h.noAlias, h'.noAlias]
  | strictErrors => rw [h.policy, h'.policy]
  | workingDirectory =>
      cases hnamed : o.has .workingDirectory with
      | true => rw [h.named hnamed, h'.named hnamed]
      | false =>
          rcases htold with hnamed' | ⟨path, hpath⟩
          · rw [hnamed] at hnamed'
            cases hnamed'
          · rw [h.located path hnamed hpath, h'.located path hnamed hpath]
  | normalized => rw [h.marked, h'.marked]

/-! ## Normalisation computes it -/

theorem switches_iff (t : Toggle) :
    o.switches pattern t = true ↔
      o.has (.toggle t) = true ∨ (∃ a : Alias, a.target = t ∧ o.has (.byAlias a) = true) ∨
        o.get (.toggle t) = .null ∧ Pattern.Implies pattern t := by
  simp only [switches, Bool.or_eq_true, Bool.and_eq_true, aliased_iff, Value.isNull_iff,
    Pattern.implies_iff, or_assoc]

/-- The record that the steps of normalisation come to is the canonical one, whatever the directory that
was filled in. -/
theorem isCanonicalOf_specified {d : Options} (h : o.withDirectory current = .ok d) :
    IsCanonicalOf pattern current o (d.specified pattern) := by
  obtain ⟨directory, rfl, hsource⟩ := withDirectory_eq_ok h
  have hswitches : ∀ t, (o.set .workingDirectory directory).switches pattern t =
      o.switches pattern t := fun _ => rfl
  have hplain : o.has .workingDirectory = true →
      ((o.set .workingDirectory directory).specified pattern).get .workingDirectory =
        (o.get .workingDirectory).plain := by
    intro hnamed
    rcases hsource with ⟨rfl, -⟩ | ⟨_, -, -, hnot⟩
    · rfl
    · rw [hnamed] at hnot
      cases hnot
  refine ⟨rfl, fun _ => rfl, rfl, hplain, fun hnamed hrecords => ?_, fun path hnot hpath => ?_,
    fun t => ?_, fun t => ?_⟩
  · rw [hplain hnamed, Value.plain_of_not_holdsFields _ hrecords]
  · rcases hsource with ⟨-, hnamed⟩ | ⟨path', hpath', rfl, -⟩
    · rw [hnot] at hnamed
      cases hnamed
    · rw [hpath] at hpath'
      cases hpath'
      rfl
  · by_cases hon : (o.set .workingDirectory directory).switches pattern t = true
    · exact .inr (if_pos hon)
    · exact .inl (if_neg hon)
  · rw [← switches_iff, ← hswitches]
    by_cases hon : (o.set .workingDirectory directory).switches pattern t = true
    · simp [specified, hon]
    · simp [specified, hon]

end Options

end GlobOracle
