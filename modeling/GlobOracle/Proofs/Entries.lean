import GlobOracle.Options.Canonical
import Mathlib.Data.List.Nodup

/-!
# What a mapping fills a record with

A key of a mapping denotes a field if it is the name of it, or the second spelling of the error policy
(`Field.IsKey`).  A mapping with a key that denotes nothing is rejected, and the first such key is named;
from any other one every field gets the value of the last entry for it (`Options.HoldsLast`).

The order of the entries has a say only where two of them are for one field.  If each field has one entry
at most, the record can be told from which entries there are (`Options.ofEntries_eq_ok_iff_mem`), so every
order of them gives the same one, and the fields of a record give that record back.
`Options.fill_by_last_entries` puts this together.
-/

namespace GlobOracle

namespace Field

/-- The key denotes the field: it is the name of the field, or the second spelling of the error policy. -/
def IsKey (f : Field) (key : String) : Prop := key = f.name ∨ key = camelCaseKey ∧ f = .strictErrors

theorem ofKey?_name (f : Field) : ofKey? f.name = some f := by
  cases f with
  | toggle t => cases t <;> rfl
  | byAlias a => cases a <;> rfl
  | _ => rfl

theorem ofKey?_eq_some_iff {key : String} {f : Field} : ofKey? key = some f ↔ f.IsKey key := by
  constructor
  · intro h
    rw [ofKey?] at h
    by_cases hkey : (key == camelCaseKey) = true
    · rw [if_pos hkey, Option.some.injEq] at h
      exact Or.inr ⟨beq_iff_eq.1 hkey, h.symm⟩
    · rw [if_neg hkey] at h
      have hname := List.find?_some h
      exact Or.inl (beq_iff_eq.1 hname).symm
  · rintro (rfl | ⟨rfl, rfl⟩)
    · exact ofKey?_name f
    · rfl

theorem ofKey?_eq_none_iff {key : String} : ofKey? key = none ↔ ∀ f : Field, ¬f.IsKey key := by
  simp only [Option.eq_none_iff_forall_ne_some, ne_eq, ofKey?_eq_some_iff]

/-- No key denotes two fields. -/
theorem IsKey.unique {key : String} {f g : Field} (hf : f.IsKey key) (hg : g.IsKey key) : f = g :=
  Option.some.inj ((ofKey?_eq_some_iff.2 hf).symm.trans (ofKey?_eq_some_iff.2 hg))

/-- A field other than the error policy has one key. -/
theorem isKey_iff_of_ne {f : Field} (hf : f ≠ .strictErrors) {key : String} :
    f.IsKey key ↔ key = f.name := by
  simp [IsKey, hf]

end Field

namespace Options

/-- The key is the first one in a mapping that denotes no field. -/
def IsFirstUnknown (entries : List (String × Value)) (key : String) : Prop :=
  ∃ before value later, entries = before ++ (key, value) :: later ∧
    (∀ entry ∈ before, ∃ f : Field, f.IsKey entry.1) ∧ ∀ f : Field, ¬f.IsKey key

/-- The value stands in the last entry for a field. -/
def IsLastFor (entries : List (String × Value)) (f : Field) (value : Value) : Prop :=
  ∃ before key later, entries = before ++ (key, value) :: later ∧ f.IsKey key ∧
    ∀ entry ∈ later, ¬f.IsKey entry.1

/-- Every field holds the value of the last entry for it, and its default if there is none. -/
def HoldsLast (entries : List (String × Value)) (o : Options) : Prop :=
  ∀ f : Field, IsLastFor entries f (o.get f) ∨
    (∀ entry ∈ entries, ¬f.IsKey entry.1) ∧ o.get f = defaults.get f

variable {entries others : List (String × Value)} {o start : Options} {f : Field} {value : Value}
  {key : String}

/-! ## The first key that denotes nothing -/

theorem isFirstUnknown_cons {first : String × Value} :
    IsFirstUnknown (first :: entries) key ↔
      key = first.1 ∧ (∀ f : Field, ¬f.IsKey first.1) ∨
        (∃ f : Field, f.IsKey first.1) ∧ IsFirstUnknown entries key := by
  constructor
  · rintro ⟨before, value, later, hsplit, hbefore, hunknown⟩
    cases before with
    | nil =>
        cases hsplit
        exact Or.inl ⟨rfl, hunknown⟩
    | cons entry before =>
        cases hsplit
        exact Or.inr ⟨hbefore _ List.mem_cons_self, before, value, later, rfl,
          fun entry hentry => hbefore entry (List.mem_cons_of_mem _ hentry), hunknown⟩
  · rintro (⟨rfl, hunknown⟩ | ⟨hknown, before, value, later, rfl, hbefore, hunknown⟩)
    · exact ⟨[], first.2, entries, rfl, by simp, hunknown⟩
    · refine ⟨first :: before, value, later, rfl, fun entry hentry => ?_, hunknown⟩
      rcases List.mem_cons.1 hentry with rfl | hentry
      · exact hknown
      · exact hbefore entry hentry

/-- An entry with a known key at the end leaves the first unknown key what it is. -/
theorem isFirstUnknown_concat (last : String × Value) (hlast : ∃ f : Field, f.IsKey last.1) :
    IsFirstUnknown (entries ++ [last]) key ↔ IsFirstUnknown entries key := by
  induction entries with
  | nil =>
      have hknown : ¬∀ f : Field, ¬f.IsKey last.1 := fun hall => hlast.elim hall
      have hnil : ¬IsFirstUnknown [] key := by
        rintro ⟨before, value, later, hsplit, -⟩
        cases before <;> cases hsplit
      rw [List.nil_append, isFirstUnknown_cons]
      simp [hknown, hnil]
  | cons entry entries ih =>
      rw [List.cons_append, isFirstUnknown_cons, isFirstUnknown_cons, ih]

theorem foldlM_assign_eq_error_iff {g : Failure} :
    entries.foldlM assign start = .error g ↔
      ∃ key, IsFirstUnknown entries key ∧ g = .rejected (.unknownOption key) := by
  induction entries generalizing start with
  | nil => simp [IsFirstUnknown, pure, Except.pure]
  | cons entry entries ih =>
      simp only [List.foldlM_cons, assign, isFirstUnknown_cons]
      cases hentry : Field.ofKey? entry.1 with
      | none =>
          have hunknown := Field.ofKey?_eq_none_iff.1 hentry
          simp [hunknown, bind, Except.bind, eq_comm]
      | some f =>
          have hknown : ∃ f : Field, f.IsKey entry.1 := ⟨f, Field.ofKey?_eq_some_iff.1 hentry⟩
          have hnot : ¬∀ f : Field, ¬f.IsKey entry.1 := fun hall => hknown.elim hall
          simp only [hknown, hnot, and_false, false_or, true_and]
          exact ih

/-- **A mapping is rejected exactly if some key denotes nothing**, and the first such key is named. -/
theorem ofEntries_eq_error_iff {g : Failure} :
    ofEntries entries = .error g ↔
      ∃ key, IsFirstUnknown entries key ∧ g = .rejected (.unknownOption key) :=
  foldlM_assign_eq_error_iff

theorem fill_eq_error_iff :
    fill (.mapping entries) = .error (.rejected (.unknownOption key)) ↔ IsFirstUnknown entries key := by
  rw [fill, ofEntries_eq_error_iff]
  simp

theorem exists_isFirstUnknown_iff :
    (∃ key, IsFirstUnknown entries key) ↔ ∃ entry ∈ entries, ∀ f : Field, ¬f.IsKey entry.1 := by
  constructor
  · rintro ⟨key, before, value, later, rfl, -, hunknown⟩
    exact ⟨(key, value), by simp, hunknown⟩
  · rintro ⟨entry, hentry, hunknown⟩
    induction entries with
    | nil => cases hentry
    | cons first entries ih =>
        by_cases hfirst : ∃ f : Field, f.IsKey first.1
        · rcases List.mem_cons.1 hentry with rfl | hentry
          · exact absurd hfirst fun ⟨f, hf⟩ => hunknown f hf
          · obtain ⟨key, hkey⟩ := ih hentry
            exact ⟨key, isFirstUnknown_cons.2 (Or.inr ⟨hfirst, hkey⟩)⟩
        · exact ⟨first.1, isFirstUnknown_cons.2 (Or.inl ⟨rfl, not_exists.1 hfirst⟩)⟩

/-- A mapping whose keys all denote fields fills a record. -/
theorem exists_ofEntries_eq_ok_iff :
    (∃ o, ofEntries entries = .ok o) ↔ ∀ entry ∈ entries, ∃ f : Field, f.IsKey entry.1 := by
  have hrejected : (∃ g, ofEntries entries = .error g) ↔
      ∃ entry ∈ entries, ∀ f : Field, ¬f.IsKey entry.1 := by
    rw [← exists_isFirstUnknown_iff]
    simp only [ofEntries_eq_error_iff, exists_comm (α := Failure), exists_and_left, exists_eq,
      and_true]
  have hcases : (∃ o, ofEntries entries = .ok o) ↔ ¬∃ g, ofEntries entries = .error g := by
    cases ofEntries entries <;> simp
  rw [hcases, hrejected]
  simp

/-! ## The last entry for a field -/

/-- The value of the last entry for a field, if there is one. -/
def lastFor (entries : List (String × Value)) (f : Field) : Option Value :=
  (entries.reverse.find? fun entry => Field.ofKey? entry.1 == some f).map (·.2)

theorem lastFor_eq_none_iff : lastFor entries f = none ↔ ∀ entry ∈ entries, ¬f.IsKey entry.1 := by
  simp [lastFor, Field.ofKey?_eq_some_iff]

theorem exists_lastFor_iff :
    (∃ value, lastFor entries f = some value) ↔ ∃ entry ∈ entries, f.IsKey entry.1 := by
  rw [← Option.ne_none_iff_exists', Ne, lastFor_eq_none_iff]
  simp

theorem lastFor_eq_some_iff : lastFor entries f = some value ↔ IsLastFor entries f value := by
  rw [lastFor, Option.map_eq_some_iff]
  constructor
  · rintro ⟨⟨key, value⟩, hfind, rfl⟩
    obtain ⟨hkey, later, before, hsplit, hlater⟩ := List.find?_eq_some_iff_append.1 hfind
    refine ⟨before.reverse, key, later.reverse, ?_, ?_, fun entry hentry => ?_⟩
    · simpa using congrArg List.reverse hsplit
    · exact Field.ofKey?_eq_some_iff.1 (beq_iff_eq.1 hkey)
    · simpa [Field.ofKey?_eq_some_iff] using hlater entry (List.mem_reverse.1 hentry)
  · rintro ⟨before, key, later, rfl, hkey, hlater⟩
    refine ⟨(key, value), ?_, rfl⟩
    refine List.find?_eq_some_iff_append.2 ⟨?_, later.reverse, before.reverse, ?_, ?_⟩
    · exact beq_iff_eq.2 (Field.ofKey?_eq_some_iff.2 hkey)
    · simp
    · intro entry hentry
      simpa [Field.ofKey?_eq_some_iff] using hlater entry (List.mem_reverse.1 hentry)

theorem holdsLast_iff :
    HoldsLast entries o ↔ ∀ f, o.get f = (lastFor entries f).getD (defaults.get f) := by
  refine forall_congr' fun f => ?_
  rw [← lastFor_eq_some_iff, ← lastFor_eq_none_iff]
  cases lastFor entries f <;> simp [eq_comm]

theorem get_foldlM_assign (h : entries.foldlM assign start = .ok o) (f : Field) :
    o.get f = (lastFor entries f).getD (start.get f) := by
  induction entries generalizing start with
  | nil =>
      cases h
      rfl
  | cons entry entries ih =>
      rw [List.foldlM_cons] at h
      cases hentry : assign start entry with
      | error g =>
          rw [hentry] at h
          cases h
      | ok next =>
          rw [hentry] at h
          rw [ih h, lastFor, lastFor, List.reverse_cons, List.find?_append]
          cases hlater : entries.reverse.find? fun entry => Field.ofKey? entry.1 == some f with
          | some later => rfl
          | none =>
              -- No later entry is for the field, so this entry decides.
              unfold assign at hentry
              cases hkey : Field.ofKey? entry.1 with
              | none =>
                  rw [hkey] at hentry
                  cases hentry
              | some g =>
                  rw [hkey] at hentry
                  cases hentry
                  by_cases hg : f = g
                  · simp [hkey, hg]
                  · simp [hkey, hg, Ne.symm hg]

/-- **Every field of a filled record holds the value of the last entry for it**, and its default if there
is none. -/
theorem get_ofEntries (h : ofEntries entries = .ok o) (f : Field) :
    o.get f = (lastFor entries f).getD (defaults.get f) :=
  get_foldlM_assign h f

/-- There is one record that holds the last values, and it is the one that is filled. -/
theorem holdsLast_iff_of_ofEntries (h : ofEntries entries = .ok o) {p : Options} :
    HoldsLast entries p ↔ p = o := by
  rw [holdsLast_iff, Options.ext_iff]
  simp only [get_ofEntries h]

/-! ## Mappings with one entry for a field -/

/-- No field has two entries. -/
def HasNoRivals (entries : List (String × Value)) : Prop :=
  ∀ f : Field, ∀ a ∈ entries, ∀ b ∈ entries, f.IsKey a.1 → f.IsKey b.1 → a = b

/-- Both spellings of the error policy occur. -/
def UsesBothSpellings (entries : List (String × Value)) : Prop :=
  Field.strictErrors.name ∈ entries.map (·.1) ∧ Field.camelCaseKey ∈ entries.map (·.1)

/-- Only the error policy has two keys, so rivals have the same key or are its two spellings. -/
theorem hasNoRivals_of_nodup (hnodup : (entries.map (·.1)).Nodup)
    (hspelling : ¬UsesBothSpellings entries) : HasNoRivals entries := by
  intro f a ha b hb hakey hbkey
  refine List.inj_on_of_nodup_map hnodup ha hb ?_
  have hmem : ∀ entry ∈ entries, entry.1 ∈ entries.map (·.1) :=
    fun entry hentry => List.mem_map_of_mem hentry
  rcases hakey with haname | ⟨hacamel, rfl⟩ <;> rcases hbkey with hbname | ⟨hbcamel, hf⟩
  · exact haname.trans hbname.symm
  · subst hf
    exact absurd ⟨haname ▸ hmem a ha, hbcamel ▸ hmem b hb⟩ hspelling
  · exact absurd ⟨hbname ▸ hmem b hb, hacamel ▸ hmem a ha⟩ hspelling
  · exact hacamel.trans hbcamel.symm

/-- Without rivals every entry is the last one for its field. -/
theorem isLastFor_iff_mem (hone : HasNoRivals entries) :
    IsLastFor entries f value ↔ ∃ key, (key, value) ∈ entries ∧ f.IsKey key := by
  rw [← lastFor_eq_some_iff]
  constructor
  · intro h
    obtain ⟨before, key, later, rfl, hkey, -⟩ := lastFor_eq_some_iff.1 h
    exact ⟨key, by simp, hkey⟩
  · rintro ⟨key, hmem, hkey⟩
    cases hlast : lastFor entries f with
    | none => exact absurd hkey (lastFor_eq_none_iff.1 hlast _ hmem)
    | some last =>
        obtain ⟨before, lastKey, later, hsplit, hlastKey, -⟩ := lastFor_eq_some_iff.1 hlast
        have hlastMem : (lastKey, last) ∈ entries := by simp [hsplit]
        have hsame := hone f _ hlastMem _ hmem hlastKey hkey
        rw [(Prod.mk.inj hsame).2]

/-- **Without rivals the record is told by which entries there are**, whatever their order. -/
theorem ofEntries_eq_ok_iff_mem (hone : HasNoRivals entries) :
    ofEntries entries = .ok o ↔
      (∀ entry ∈ entries, ∃ f : Field, f.IsKey entry.1) ∧
        ∀ f : Field, (∃ key, (key, o.get f) ∈ entries ∧ f.IsKey key) ∨
          (∀ entry ∈ entries, ¬f.IsKey entry.1) ∧ o.get f = defaults.get f := by
  rw [← exists_ofEntries_eq_ok_iff]
  simp only [← isLastFor_iff_mem hone]
  constructor
  · intro h
    exact ⟨⟨o, h⟩, (holdsLast_iff_of_ofEntries h).2 rfl⟩
  · rintro ⟨⟨p, h⟩, hlast⟩
    rw [h, (holdsLast_iff_of_ofEntries h).1 hlast]

theorem HasNoRivals.perm (hone : HasNoRivals entries) (hperm : others.Perm entries) :
    HasNoRivals others :=
  fun f a ha b hb => hone f a (hperm.mem_iff.1 ha) b (hperm.mem_iff.1 hb)

theorem ofEntries_perm (hone : HasNoRivals entries) (hperm : others.Perm entries) :
    ofEntries others = .ok o ↔ ofEntries entries = .ok o := by
  simp only [ofEntries_eq_ok_iff_mem hone, ofEntries_eq_ok_iff_mem (hone.perm hperm), hperm.mem_iff]

/-! ## The fields of a record as entries -/

/-- The fields of a record as entries of a mapping, the error policy under a key of its own. -/
def toEntries (o : Options) (policyKey : String) : List (String × Value) :=
  Field.all.map fun f => (if f = .strictErrors then policyKey else f.name, o.get f)

theorem isKey_policyKey (hpolicy : Field.strictErrors.IsKey key) (f : Field) :
    f.IsKey (if f = .strictErrors then key else f.name) := by
  by_cases hf : f = .strictErrors
  · rw [if_pos hf, hf]
    exact hpolicy
  · rw [if_neg hf]
    exact Or.inl rfl

theorem mem_toEntries_iff {entry : String × Value} :
    entry ∈ o.toEntries key ↔
      ∃ f : Field, (if f = .strictErrors then key else f.name, o.get f) = entry := by
  simp [toEntries, Field.mem_all]

theorem hasNoRivals_toEntries (hpolicy : Field.strictErrors.IsKey key) (o : Options) :
    HasNoRivals (o.toEntries key) := by
  intro f a ha b hb hakey hbkey
  obtain ⟨g, rfl⟩ := mem_toEntries_iff.1 ha
  obtain ⟨g', rfl⟩ := mem_toEntries_iff.1 hb
  rw [(isKey_policyKey hpolicy g).unique hakey, (isKey_policyKey hpolicy g').unique hbkey]

/-- The fields of a record fill that record. -/
theorem ofEntries_toEntries (hpolicy : Field.strictErrors.IsKey key) (o : Options) :
    ofEntries (o.toEntries key) = .ok o := by
  rw [ofEntries_eq_ok_iff_mem (hasNoRivals_toEntries hpolicy o)]
  constructor
  · intro entry hentry
    obtain ⟨f, rfl⟩ := mem_toEntries_iff.1 hentry
    exact ⟨f, isKey_policyKey hpolicy f⟩
  · intro f
    exact Or.inl ⟨_, mem_toEntries_iff.2 ⟨f, rfl⟩, isKey_policyKey hpolicy f⟩

/-! ## All of it -/

/-- **A mapping fills a record with its last values, and with nothing else.**  If some key denotes no
field, the mapping is rejected, and the first such key is named.  Otherwise it fills the one record whose
fields hold the values of the last entries for them, as they are, and the defaults where there are none.

A mapping with distinct keys that does not spell the error policy in both ways fills the same record in
every order, or is rejected in every order.  The fields of a record, in any order and with either spelling,
fill that record, and so they are made canonical as the record is. -/
theorem fill_by_last_entries (entries : List (String × Value)) :
    ((∃ entry ∈ entries, ∀ f : Field, ¬f.IsKey entry.1) →
      ∃ key, fill (.mapping entries) = .error (.rejected (.unknownOption key)) ∧
        ∀ k, IsFirstUnknown entries k ↔ k = key) ∧
    ((∀ entry ∈ entries, ∃ f : Field, f.IsKey entry.1) →
      ∃ o, fill (.mapping entries) = .ok o ∧ ∀ p, HoldsLast entries p ↔ p = o) ∧
    ((entries.map (·.1)).Nodup → ¬UsesBothSpellings entries → ∀ others, others.Perm entries →
      (∀ o, fill (.mapping others) = .ok o ↔ fill (.mapping entries) = .ok o) ∧
      ((∃ key, fill (.mapping others) = .error (.rejected (.unknownOption key))) ↔
        ∃ key, fill (.mapping entries) = .error (.rejected (.unknownOption key)))) ∧
    ∀ (o : Options) (policyKey : String), Field.strictErrors.IsKey policyKey →
      entries.Perm (o.toEntries policyKey) →
      fill (.mapping entries) = .ok o ∧
      ∀ current pattern,
        normalize current pattern (.mapping entries) = normalize current pattern o.value := by
  refine ⟨fun hunknown => ?_, fun hknown => ?_, fun hnodup hspelling others hperm => ⟨?_, ?_⟩, ?_⟩
  · obtain ⟨key, hfirst⟩ := exists_isFirstUnknown_iff.2 hunknown
    have hkey := fill_eq_error_iff.2 hfirst
    refine ⟨key, hkey, fun k => ?_⟩
    rw [← fill_eq_error_iff, hkey]
    simp [eq_comm]
  · obtain ⟨o, h⟩ := exists_ofEntries_eq_ok_iff.2 hknown
    exact ⟨o, h, fun p => holdsLast_iff_of_ofEntries h⟩
  · exact fun o => ofEntries_perm (hasNoRivals_of_nodup hnodup hspelling) hperm
  · simp only [fill_eq_error_iff, exists_isFirstUnknown_iff, hperm.mem_iff]
  · intro o policyKey hpolicy hperm
    have hfill : ofEntries entries = .ok o :=
      (ofEntries_perm (hasNoRivals_toEntries hpolicy o) hperm).2 (ofEntries_toEntries hpolicy o)
    refine ⟨hfill, fun current pattern => ?_⟩
    have hcoerce : coerce (.mapping entries) = coerce o.value := hfill
    rw [normalize, normalize, hcoerce]

/-- The second of two keys that denote nothing is not the one that is named, two entries fill one record in
either order, and the defaults are filled from their own fields backwards. -/
theorem fill_some_mappings :
    (∃ key, fill (.mapping [("dot", .null), ("Dot", .null), ("DOT", .null)]) =
        .error (.rejected (.unknownOption key)) ∧ key = "Dot") ∧
      (∃ o, fill (.mapping [("strictErrors", .null), ("cwd", .text "/w")]) = .ok o ∧
        fill (.mapping [("cwd", .text "/w"), ("strictErrors", .null)]) = .ok o ∧
        o.get .strictErrors = .null) ∧
      fill (.mapping (defaults.toEntries Field.camelCaseKey).reverse) = .ok defaults := by
  have hdot : Field.IsKey (.byAlias .dot) "dot" := Or.inl rfl
  have hpolicy : Field.IsKey .strictErrors "strictErrors" := Or.inr ⟨rfl, rfl⟩
  have hcwd : Field.IsKey .workingDirectory "cwd" := Or.inl rfl
  have hfirst : IsFirstUnknown [("dot", .null), ("Dot", .null), ("DOT", .null)] "Dot" :=
    ⟨[("dot", .null)], .null, [("DOT", .null)], rfl, by simpa using ⟨_, hdot⟩,
      Field.ofKey?_eq_none_iff.1 (by decide)⟩
  refine ⟨?_, ?_, ?_⟩
  · obtain ⟨key, hkey, hunique⟩ :=
      (fill_by_last_entries [("dot", .null), ("Dot", .null), ("DOT", .null)]).1
        (exists_isFirstUnknown_iff.1 ⟨_, hfirst⟩)
    exact ⟨key, hkey, ((hunique "Dot").1 hfirst).symm⟩
  · obtain ⟨-, hfill, horder, -⟩ :=
      fill_by_last_entries [("strictErrors", .null), ("cwd", .text "/w")]
    obtain ⟨o, ho, -⟩ := hfill (by simpa using ⟨⟨_, hpolicy⟩, ⟨_, hcwd⟩⟩)
    have hswap := (horder (by decide) (by simp [UsesBothSpellings, Field.name]) _
      (List.Perm.swap ("strictErrors", Value.null) ("cwd", .text "/w") [])).1 o
    refine ⟨o, ho, hswap.2 ho, ?_⟩
    exact congrArg (·.get .strictErrors) (Except.ok.inj ho.symm)
  · exact ((fill_by_last_entries _).2.2.2 defaults Field.camelCaseKey (Or.inr ⟨rfl, rfl⟩)
      (List.reverse_perm _)).1

end Options

end GlobOracle
