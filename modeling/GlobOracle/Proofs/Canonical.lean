import GlobOracle.Options.Canonical

/-!
# Which record is canonical

`Options.normalize` goes through the fields in several steps, each on the record that the step before has
left.  `Options.specified` says in one step what comes out: a toggle is on if the caller switched it on,
used an alias of it, or left it out while the pattern implies it (`Options.switches`), and every other
field depends on itself alone.

* `normalize_unmarked` — on an unmarked record the steps come to `Options.specified`, once the directory is
  known.
* `normalize_marked`, `normalize_normalize` — a marked record is its own canonical record, and so is every
  canonical one, whatever the pattern.
* `Pattern.implies_iff` — what a pattern implies, said without a search.
-/

namespace GlobOracle

/-! ## What a pattern implies -/

namespace Pattern

/-- A pattern implies `globstar` if two stars stand side by side in it, and `extglob` if one of `?*+@!`
stands right before an opening parenthesis.  The other toggles are never implied. -/
def Implies (pattern : String) : Toggle → Prop
  | .globstar => ∃ before after, pattern.toList = before ++ '*' :: '*' :: after
  | .extglob => ∃ before c after, c ∈ ['?', '*', '+', '@', '!'] ∧
      pattern.toList = before ++ c :: '(' :: after
  | _ => False

/-- Does a pattern imply a toggle?  The search that the program makes. -/
def implies (pattern : String) : Toggle → Bool
  | .globstar => Text.contains pattern doubleStar
  | .extglob => hasList pattern.toList
  | _ => false

theorem opensList_iff {c : Char} : opensList c = true ↔ c ∈ ['?', '*', '+', '@', '!'] := by
  simp [opensList, or_assoc]

/-- The search for a list of alternatives finds an opening character right before a parenthesis, wherever
it stands. -/
theorem hasList_iff {text : List Char} :
    hasList text = true ↔
      ∃ before c after, c ∈ ['?', '*', '+', '@', '!'] ∧ text = before ++ c :: '(' :: after := by
  induction text with
  | nil => simp [hasList]
  | cons c rest ih =>
      cases rest with
      | nil =>
          simp only [hasList, Bool.false_eq_true, false_iff]
          rintro ⟨before, d, after, -, h⟩
          cases before <;> simp at h
      | cons d text =>
          rw [hasList, Bool.or_eq_true, ih, Bool.and_eq_true, opensList_iff, beq_iff_eq]
          constructor
          · rintro (⟨hc, rfl⟩ | ⟨before, e, after, he, h⟩)
            · exact ⟨[], c, text, hc, rfl⟩
            · exact ⟨c :: before, e, after, he, by rw [h, List.cons_append]⟩
          · rintro ⟨before, e, after, he, h⟩
            cases before with
            | nil =>
                rw [List.nil_append, List.cons.injEq, List.cons.injEq] at h
                exact Or.inl ⟨h.1 ▸ he, h.2.1⟩
            | cons b before =>
                rw [List.cons_append, List.cons.injEq] at h
                exact Or.inr ⟨before, e, after, he, h.2⟩

/-- The searches that the program makes find exactly what a pattern implies. -/
theorem implies_iff {pattern : String} {t : Toggle} :
    implies pattern t = true ↔ Implies pattern t := by
  cases t with
  | globstar =>
      rw [implies, Text.contains, Text.occursIn_iff]
      show (∃ before after, pattern.toList = before ++ ['*', '*'] ++ after) ↔ _
      simp only [Implies, List.append_assoc, List.cons_append, List.nil_append]
  | extglob => exact hasList_iff
  | _ => simp [implies, Implies]

end Pattern

/-- Is this the absent value? -/
def Value.isNull : Value → Bool
  | .null => true
  | _ => false

theorem Value.isNull_iff {v : Value} : v.isNull = true ↔ v = .null := by
  cases v <;> simp [isNull]

namespace Options

variable {current : Except OsError String} {input : Value} {o : Options}

/-! ## The steps in closed form -/

/-- Is an alias of the toggle used? -/
def aliased (o : Options) (t : Toggle) : Bool :=
  Alias.all.any fun a => decide (a.target = t) && o.has (.byAlias a)

theorem aliased_iff {t : Toggle} :
    o.aliased t = true ↔ ∃ a : Alias, a.target = t ∧ o.has (.byAlias a) = true := by
  simp only [aliased, List.any_eq_true, Bool.and_eq_true, decide_eq_true_eq]
  exact ⟨fun ⟨a, _, h⟩ => ⟨a, h⟩, fun ⟨a, h⟩ => ⟨a, Alias.mem_all a, h⟩⟩

/-- Is a toggle on in the end: by itself, by an alias, or because nobody set it and the pattern implies
it? -/
def switches (pattern : String) (o : Options) (t : Toggle) : Bool :=
  o.has (.toggle t) || o.aliased t || ((o.get (.toggle t)).isNull && Pattern.implies pattern t)

/-- The canonical record that belongs to a record whose directory is known. -/
def specified (pattern : String) (o : Options) : Options where
  get
    | .toggle t => if o.switches pattern t then .bool true else .null
    | .byAlias _ => .bool false
    | .strictErrors => .bool (o.has .strictErrors)
    | .workingDirectory => o.get .workingDirectory
    | .normalized => .bool true

theorem get_expandAlias (o : Options) (a : Alias) (f : Field) :
    (o.expandAlias a).get f =
      if f = .byAlias a then .bool false
      else if f = .toggle a.target ∧ o.has (.byAlias a) = true then .bool true
      else o.get f := by
  unfold expandAlias
  by_cases h : o.has (.byAlias a) = true <;> simp [h]

/-- The aliases are independent of each other, so the order in which they are expanded does not show. -/
theorem get_expandAliases (o : Options) (f : Field) :
    o.expandAliases.get f =
      match f with
      | .toggle t => if o.aliased t then .bool true else o.get (.toggle t)
      | .byAlias _ => .bool false
      | f => o.get f := by
  have hfold : o.expandAliases = ((o.expandAlias .nocase).expandAlias .nonull).expandAlias .dot := rfl
  rw [hfold]
  cases f with
  | toggle t => cases t <;> simp [get_expandAlias, aliased, Alias.all, Alias.target, has]
  | byAlias a => cases a <;> simp [get_expandAlias]
  | _ => simp [get_expandAlias]

/-- A toggle is inferred in one field only, and only if that field holds nothing. -/
theorem infer_ok (o : Options) (t : Toggle) (yes : Bool) :
    ∃ r : Options, o.infer t (.ok yes) = .ok r ∧ ∀ f, r.get f =
      if f = .toggle t ∧ (o.get f).isNull = true ∧ yes = true then .bool true else o.get f := by
  unfold infer
  split
  · rename_i hnull
    refine ⟨_, rfl, fun f => ?_⟩
    cases yes with
    | false => simp
    | true =>
        by_cases hf : f = .toggle t
        · simp [hf, hnull, Value.isNull]
        · simp [hf]
  · rename_i hset
    refine ⟨o, rfl, fun f => (if_neg ?_).symm⟩
    rintro ⟨rfl, hnull, -⟩
    exact hset (Value.isNull_iff.1 hnull)

/-- What expansion and inference leave in the field of a toggle counts as true exactly if the toggle is
switched on. -/
theorem truthy_inferred (pattern : String) (o : Options) (t : Toggle) :
    (if (o.expandAliases.get (.toggle t)).isNull = true ∧ Pattern.implies pattern t = true
      then Value.bool true else o.expandAliases.get (.toggle t)).truthy = o.switches pattern t := by
  rw [get_expandAliases]
  by_cases haliased : o.aliased t = true
  · simp [haliased, switches, Value.isNull, Value.truthy]
  · by_cases hnull : o.get (.toggle t) = .null
    · by_cases himplied : Pattern.implies pattern t = true <;>
        simp [haliased, hnull, himplied, switches, has, Value.isNull, Value.truthy]
    · have hset : (o.get (.toggle t)).isNull = false :=
        Bool.eq_false_iff.2 fun h => hnull (Value.isNull_iff.1 h)
      simp [haliased, hset, switches, has]

/-- The steps behind the directory come to the record that is specified. -/
theorem steps_eq_specified (pattern : String) (o : Options) :
    (do
      let p ← o.expandAliases.infer .globstar (Pattern.usesGlobstar (.text pattern))
      let q ← p.infer .extglob (Pattern.usesExtglob (.text pattern))
      return q.settle) = (.ok (o.specified pattern) : Except Failure Options) := by
  obtain ⟨p, hp, hpget⟩ :=
    infer_ok o.expandAliases .globstar (Pattern.implies pattern .globstar)
  obtain ⟨q, hq, hqget⟩ := infer_ok p .extglob (Pattern.implies pattern .extglob)
  have htoggle : ∀ t, q.has (.toggle t) = o.switches pattern t := by
    intro t
    rw [← truthy_inferred, has]
    cases t with
    | globstar => simp [hqget, hpget]
    | extglob => simp [hqget, hpget]
    | _ => simp [hqget, hpget, Pattern.implies]
  have hsettle : q.settle = o.specified pattern := by
    ext f
    cases f with
    | toggle t => simp [settle, specified, htoggle]
    | _ => simp [settle, specified, has, hqget, hpget, get_expandAliases]
  rw [show Pattern.usesGlobstar (.text pattern) = .ok (Pattern.implies pattern .globstar) from rfl,
    show Pattern.usesExtglob (.text pattern) = .ok (Pattern.implies pattern .extglob) from rfl, hp]
  show (p.infer .extglob _ >>= fun q => pure q.settle) = _
  rw [hq, ← hsettle]
  rfl

/-! ## The canonical record -/

/-- A marked record is left as it is, whatever the pattern and the directory. -/
theorem normalize_marked {pattern : Value} (h : coerce input = .ok o)
    (marked : o.has .normalized = true) : normalize current pattern input = .ok o := by
  rw [normalize, h]
  show (if o.has .normalized = true then _ else _) = _
  rw [if_pos marked]
  rfl

/-- An unmarked record becomes the one that is specified, if its directory is known.  Nothing else can go
wrong. -/
theorem normalize_unmarked (pattern : String) (h : coerce input = .ok o)
    (unmarked : o.has .normalized = false) :
    normalize current (.text pattern) input = (o.withDirectory current).map (specified pattern) := by
  rw [normalize, h]
  show (if o.has .normalized = true then _ else _) = _
  rw [if_neg (by rw [unmarked]; exact Bool.false_ne_true)]
  cases hdirectory : o.withDirectory current with
  | error f => rfl
  | ok d => exact steps_eq_specified pattern d

/-- The directory is filled in unless one is named, and then it is only made plain. -/
theorem withDirectory_eq_ok {d : Options} (h : o.withDirectory current = .ok d) :
    ∃ directory, d = o.set .workingDirectory directory ∧
      (directory = (o.get .workingDirectory).plain ∧ o.has .workingDirectory = true ∨
        ∃ path, current = .ok path ∧ directory = .text path ∧ o.has .workingDirectory = false) := by
  unfold withDirectory at h
  by_cases hnamed : o.has .workingDirectory = true
  · rw [if_pos hnamed] at h
    cases h
    exact ⟨_, rfl, Or.inl ⟨rfl, hnamed⟩⟩
  · rw [if_neg hnamed] at h
    cases current with
    | ok path =>
        cases h
        exact ⟨_, rfl, Or.inr ⟨path, rfl, rfl, Bool.eq_false_iff.2 hnamed⟩⟩
    | error e => cases h

/-- Looking for the directory fails only with what the host says when asked for it, and the host is asked
only if the record names none. -/
theorem withDirectory_eq_error_iff {f : Failure} :
    o.withDirectory current = .error f ↔
      o.has .workingDirectory = false ∧ ∃ e, current = .error e ∧ f = .os e := by
  unfold withDirectory
  by_cases hnamed : o.has .workingDirectory = true
  · simp [hnamed]
  · cases current with
    | ok path => simp [hnamed]
    | error e => simp [hnamed, eq_comm]

/-- Making a value plain does not change whether it counts as true. -/
theorem truthy_plain (v : Value) : v.plain.truthy = v.truthy := by
  cases v with
  | list xs => cases xs <;> simp [Value.plain, Value.plainAll, Value.truthy]
  | tuple xs => cases xs <;> simp [Value.plain, Value.plainAll, Value.truthy]
  | mapping entries =>
      cases entries with
      | nil => simp [Value.plain, Value.plainEntries, Value.truthy]
      | cons entry entries =>
          obtain ⟨name, value⟩ := entry
          simp [Value.plain, Value.plainEntries, Value.truthy]
  | record get => simp [Value.plain, Value.truthy, Field.all]
  | object kind name value others => simp [Value.plain, Value.truthy]
  | _ => simp [Value.plain, Value.truthy]

/-- **Normalisation fails only for want of a directory**: the record is not marked, names none, and the
host cannot tell the current one. -/
theorem normalize_eq_error_iff (pattern : String) (h : coerce input = .ok o) {f : Failure} :
    normalize current (.text pattern) input = .error f ↔
      o.has .normalized = false ∧ o.has .workingDirectory = false ∧
        ∃ e, current = .error e ∧ f = .os e := by
  cases hmarked : o.has .normalized with
  | true => simp [normalize_marked h hmarked]
  | false =>
      rw [normalize_unmarked pattern h hmarked, ← withDirectory_eq_error_iff]
      cases o.withDirectory current <;> simp [Except.map]

/-- With a directory that can be looked up there is always a record. -/
theorem exists_normalize_eq_ok {directory : String} (hcurrent : current = .ok directory)
    (pattern : String) (h : coerce input = .ok o) :
    ∃ r, normalize current (.text pattern) input = .ok r := by
  cases hrecord : normalize current (.text pattern) input with
  | ok r => exact ⟨r, rfl⟩
  | error f =>
      obtain ⟨-, -, e, he, -⟩ := (normalize_eq_error_iff pattern h).1 hrecord
      rw [hcurrent] at he
      cases he

/-- What comes out is the record itself if it was marked, and otherwise the specified one, with the
directory filled in. -/
theorem normalize_eq_ok {pattern : String} (hinput : coerce input = .ok o) {r : Options}
    (h : normalize current (.text pattern) input = .ok r) :
    o.has .normalized = true ∧ r = o ∨
      o.has .normalized = false ∧ ∃ d, o.withDirectory current = .ok d ∧ r = d.specified pattern := by
  cases hmarked : o.has .normalized with
  | true =>
      rw [normalize_marked hinput hmarked, Except.ok.injEq] at h
      exact Or.inl ⟨rfl, h.symm⟩
  | false =>
      rw [normalize_unmarked pattern hinput hmarked] at h
      cases hdirectory : o.withDirectory current with
      | error f =>
          rw [hdirectory] at h
          cases h
      | ok d =>
          rw [hdirectory] at h
          cases h
          exact Or.inr ⟨rfl, d, rfl, rfl⟩

/-- Normalisation does not change the error policy. -/
theorem has_strictErrors_of_normalize {pattern : String} (hinput : coerce input = .ok o) {r : Options}
    (h : normalize current (.text pattern) input = .ok r) :
    r.has .strictErrors = o.has .strictErrors := by
  rcases normalize_eq_ok hinput h with ⟨-, rfl⟩ | ⟨-, d, hdirectory, rfl⟩
  · rfl
  · obtain ⟨directory, rfl, -⟩ := withDirectory_eq_ok hdirectory
    rfl

/-- A canonical record is marked. -/
theorem has_normalized_of_normalize {pattern : String} {r : Options}
    (h : normalize current (.text pattern) input = .ok r) : r.has .normalized = true := by
  cases hinput : coerce input with
  | error f =>
      rw [normalize, hinput] at h
      cases h
  | ok o =>
      rcases normalize_eq_ok hinput h with ⟨hmarked, rfl⟩ | ⟨-, d, -, rfl⟩
      · exact hmarked
      · rfl

/-- **Making a record canonical twice is making it canonical once**, also against another pattern and in
another directory. -/
theorem normalize_normalize {pattern : String} {r : Options} {pattern' : Value}
    {current' : Except OsError String} (h : normalize current (.text pattern) input = .ok r) :
    normalize current' pattern' r.value = .ok r :=
  normalize_marked rfl (has_normalized_of_normalize h)

end Options

end GlobOracle
