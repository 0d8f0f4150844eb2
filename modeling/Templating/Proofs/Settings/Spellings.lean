import Mathlib.Data.List.Nodup
import Templating.Proofs.Outcome
import Templating.Proofs.Settings.Lax
import Templating.Proofs.Settings.Limits

/-!
# However limits are given

Limits mean the same by themselves and among the settings of an engine, for every lawful
validator. Neither the order of their keys nor the spelling of each of them makes a
difference, and writing limits down under any spellings gives settings that are read as
these limits.
-/

namespace Templating

/-- Limits are given as null, as a mapping or as limits that were read before. -/
def Given.MayBeLimits : Given → Prop
  | .value .null | .value (.mapping _) | .limits _ => True
  | _ => False

/-- Limits written down as settings, each under a key. -/
def Limits.toEntries (limits : Limits) (key : LimitName → String) : Entries Value :=
  LimitName.all.map fun name => (key name, .integer (limits.counts name))

namespace Settings

/-- Two keys are the same or spell the same limit. -/
def SameSetting (key other : String) : Prop :=
  key = other ∨
    ∃ name : LimitName,
      (key = name.capitalized ∨ key = name.underscored) ∧
        (other = name.capitalized ∨ other = name.underscored)

/-- The same settings with some keys in the other spelling. -/
def Respelled (entries others : Entries Value) : Prop :=
  List.Forall₂
    (fun entry other => SameSetting entry.1 other.1 ∧ entry.2 = other.2) entries others

/-- The same settings with some keys in the other spelling, and in another order. -/
def Rewritten (entries others : Entries Value) : Prop :=
  ∃ respelled, Respelled entries respelled ∧ respelled.Perm others

variable {validator : Validator} {entries others : Entries Value} {counts : Counts}

theorem SameSetting.ofKey?_eq
    {key other : String}
    (same : SameSetting key other) :
    LimitName.ofKey? key = LimitName.ofKey? other := by
  obtain rfl | ⟨name, spells, otherSpells⟩ := same
  · rfl
  · rw [(LimitName.ofKey?_eq_some_iff ..).2 spells,
      (LimitName.ofKey?_eq_some_iff ..).2 otherSpells]

theorem Respelled.given_eq (respelled : Respelled entries others) (name : LimitName) :
    given entries name = given others name := by
  induction respelled with
  | nil => rfl
  | @cons entry other _ _ same _ inductionHypothesis =>
      obtain ⟨sameKey, sameValue⟩ := same
      by_cases named : LimitName.ofKey? entry.1 = some name
      · rw [given_cons_of_named named, given_cons_of_named (sameKey.ofKey?_eq ▸ named),
          inductionHypothesis, sameValue]
      · rw [given_cons_of_not_named named,
          given_cons_of_not_named (sameKey.ofKey?_eq ▸ named), inductionHypothesis]

/-- A key is among the respelled ones only in place of a key that names the same limit. -/
theorem Respelled.exists_key
    (respelled : Respelled entries others)
    {key : String}
    (member : key ∈ others.names) :
    ∃ before ∈ entries.names, LimitName.ofKey? before = LimitName.ofKey? key := by
  induction respelled with
  | nil => exact absurd member List.not_mem_nil
  | @cons entry other _ _ same _ inductionHypothesis =>
      obtain rfl | behind := List.mem_cons.1 member
      · exact ⟨entry.1, List.mem_cons_self, same.1.ofKey?_eq⟩
      · obtain ⟨before, isBefore, named⟩ := inductionHypothesis behind
        exact ⟨before, List.mem_cons_of_mem _ isBefore, named⟩

namespace Gives

theorem respell
    (gives : Gives validator entries counts)
    (respelled : Respelled entries others) :
    Gives validator others counts where
  known key member := by
    obtain ⟨before, isBefore, named⟩ := respelled.exists_key member
    rw [← named]
    exact gives.known before isBefore
  counts name := by
    rw [IsGiven, ← respelled.given_eq name]
    exact gives.counts name

theorem perm (gives : Gives validator entries counts) (reordered : entries.Perm others) :
    Gives validator others counts where
  known key member := gives.known key ((reordered.map Prod.fst).mem_iff.2 member)
  counts name := by
    have values : (given entries name).Perm (given others name) :=
      (reordered.filter _).map Prod.snd
    obtain ⟨absent, standard⟩ | ⟨value, once, read⟩ := gives.counts name
    · rw [absent] at values
      exact .inl ⟨values.symm.eq_nil, standard⟩
    · rw [once] at values
      exact .inr ⟨value, List.perm_singleton.1 values.symm, read⟩

/-- Settings that give limits have no key twice. -/
theorem distinct (gives : Gives validator entries counts) : entries.names.Nodup := by
  have atMostOnce (name : LimitName) : (given entries name).length ≤ 1 := by
    obtain ⟨absent, -⟩ | ⟨value, once, -⟩ := gives.counts name
    · simp [absent]
    · simp [once]
  have known := gives.known
  clear gives
  induction entries with
  | nil => exact List.nodup_nil
  | cons entry rest inductionHypothesis =>
      obtain ⟨key, value⟩ := entry
      obtain ⟨name, named⟩ := known key List.mem_cons_self
      have one := atMostOnce name
      rw [given_cons_of_named named, List.length_cons] at one
      refine List.nodup_cons.2 ⟨fun again => ?_, inductionHypothesis (fun other => ?_)
        fun other member => known other (List.mem_cons_of_mem key member)⟩
      · obtain ⟨⟨_, second⟩, member, rfl⟩ := List.mem_map.1 again
        have isGiven : second ∈ given rest name :=
          List.mem_map.2 ⟨_, List.mem_filter.2 ⟨member, by simpa using named⟩, rfl⟩
        have := List.length_pos_of_mem isGiven
        omega
      · refine Nat.le_trans ?_ (atMostOnce other)
        by_cases namesOther : LimitName.ofKey? key = some other
        · rw [given_cons_of_named namesOther]
          exact Nat.le_add_right ..
        · exact Nat.le_of_eq
            (congrArg List.length (given_cons_of_not_named namesOther value)).symm

/-- Counts that are given are positive. -/
theorem one_le
    (gives : Gives validator entries counts)
    (lawful : validator.Lawful)
    (name : LimitName) :
    1 ≤ counts name := by
  obtain ⟨-, standard⟩ | ⟨value, -, read⟩ := gives.counts name
  · rw [standard]
    exact Limits.one_le_counts .standard name
  · exact lawful.lt_of_integer read

end Gives

section

variable (lawful : validator.Lawful)

include lawful

/-- Limits that are written down are given, under whatever spellings. -/
theorem gives_toEntries
    (limits : Limits)
    {key : LimitName → String}
    (spells : ∀ name, key name = name.capitalized ∨ key name = name.underscored) :
    Gives validator (limits.toEntries key) limits.counts := by
  have named (name : LimitName) : LimitName.ofKey? (key name) = some name :=
    (LimitName.ofKey?_eq_some_iff ..).2 (spells name)
  refine ⟨fun other member => ?_, fun name => .inr ⟨.integer (limits.counts name), ?_,
    lawful.integer_of_lt (limits.one_le_counts name)⟩⟩
  · simp only [Limits.toEntries, Entries.names, List.map_map, List.mem_map] at member
    obtain ⟨name, -, rfl⟩ := member
    exact ⟨name, named name⟩
  · simp only [given, Limits.toEntries, LimitName.all]
    cases name <;> simp [named]

/-- Rewritten settings are read as the same limits. -/
theorem resolveLimits_of_rewritten
    (distinct : entries.names.Nodup)
    (accepted : resolveLimits validator (.value (.mapping entries)) = .ok counts)
    (rewritten : Rewritten entries others) :
    resolveLimits validator (.value (.mapping others)) = .ok counts := by
  obtain ⟨respelled, spells, reordered⟩ := rewritten
  have gives : Gives validator others counts :=
    (((resolveLimits_eq_ok_iff_gives lawful distinct counts).1 accepted).respell spells).perm
      reordered
  exact (resolveLimits_eq_ok_iff_gives lawful gives.distinct counts).2 gives

/-- Limits that are written down are read back, under whatever spellings. -/
theorem resolveLimits_toEntries
    (limits : Limits)
    {key : LimitName → String}
    (spells : ∀ name, key name = name.capitalized ∨ key name = name.underscored) :
    resolveLimits validator (.value (.mapping (limits.toEntries key))) =
      .ok limits.counts := by
  have gives := gives_toEntries lawful limits spells
  exact (resolveLimits_eq_ok_iff_gives lawful gives.distinct _).2 gives

/-- Limits among the settings of an engine are read as limits, or stay a mapping. -/
theorem readGivenLimits_cases
    {given found : Given}
    (notNull : given ≠ .value .null)
    (read : readGivenLimits validator given = .ok found) :
    (∃ counts,
      validator.validate (limitsModel validator) given.limitsInput = .ok counts ∧
        found = .limits counts) ∨
      ∃ entries,
        validator.dictionary given = .ok entries ∧ found = .value (.mapping entries) := by
  rw [readGivenLimits, lawful.nullable_other _ _ notNull] at read
  obtain ⟨member, isMember, read⟩ := lawful.exists_of_union read
  simp only [limitsReaders, List.mem_cons, List.not_mem_nil, or_false] at isMember
  obtain rfl | rfl := isMember <;> dsimp only at read
  · cases accepted : validator.validate (limitsModel validator) given.limitsInput with
    | error problems => simp [accepted, Except.map] at read
    | ok counts =>
        rw [accepted] at read
        cases read
        exact .inl ⟨counts, rfl, rfl⟩
  · cases accepted : validator.dictionary given with
    | error problems => simp [accepted, Except.map] at read
    | ok entries =>
        rw [accepted] at read
        cases read
        exact .inr ⟨entries, rfl, rfl⟩

/-- A mapping is taken for the limits, and what is taken is resolved like the mapping. -/
theorem readGivenLimits_mapping (entries : Entries Value) :
    ∃ found,
      readGivenLimits validator (.value (.mapping entries)) = .ok found ∧
        resolveLimits validator found =
          resolveLimits validator (.value (.mapping entries)) := by
  have notNull : Given.value (.mapping entries) ≠ .value .null := by simp
  have accepts : ∃ member ∈ limitsReaders validator,
      member.2 (.value (.mapping entries)) = .ok (.value (.mapping entries)) :=
    ⟨_, List.mem_cons_of_mem _ List.mem_cons_self,
      congrArg (Except.map _) (lawful.dictionary_mapping entries)⟩
  obtain ⟨found, accepted⟩ := lawful.union_of_exists accepts
  have read := (lawful.nullable_other (.value .null) _ notNull).trans accepted
  refine ⟨found, read, ?_⟩
  obtain ⟨counts, resolved, rfl⟩ | ⟨same, taken, rfl⟩ :=
    readGivenLimits_cases lawful notNull read
  · exact resolved.symm
  · rw [lawful.dictionary_mapping] at taken
    cases taken
    rfl

/-- Limits that were read before stay what they are. -/
theorem readGivenLimits_limits (counts : Counts) :
    readGivenLimits validator (.limits counts) = .ok (.limits counts) := by
  have notNull : Given.limits counts ≠ .value .null := by simp
  have accepts : ∃ member ∈ limitsReaders validator,
      member.2 (.limits counts) = .ok (.limits counts) :=
    ⟨_, List.mem_cons_self,
      congrArg (Except.map _) (lawful.validate_record (limitsModel validator) counts)⟩
  obtain ⟨found, accepted⟩ := lawful.union_of_exists accepts
  have read := (lawful.nullable_other (.value .null) _ notNull).trans accepted
  obtain ⟨same, resolved, rfl⟩ | ⟨entries, taken, -⟩ :=
    readGivenLimits_cases lawful notNull read
  · cases (lawful.validate_record (limitsModel validator) counts).symm.trans resolved
    exact read
  · exact absurd taken (lawful.dictionary_limits counts entries)

/-- What may be limits is read among the settings of an engine, and what is read is
resolved as it is by itself. -/
theorem exists_readGivenLimits {given : Given} (isLimits : given.MayBeLimits) :
    ∃ found,
      readGivenLimits validator given = .ok found ∧
        resolveLimits validator found = resolveLimits validator given := by
  match given, isLimits with
  | .value .null, _ => exact ⟨_, lawful.nullable_null _ _, rfl⟩
  | .value (.mapping entries), _ => exact readGivenLimits_mapping lawful entries
  | .limits counts, _ => exact ⟨_, readGivenLimits_limits lawful counts, rfl⟩

/-- Settings of an engine that give only the limits. -/
theorem validate_limits
    {given found : Given}
    (read : readGivenLimits validator given = .ok found) :
    validator.validate (engineModel validator) (.entries [("limits", given)]) =
      .ok (Configuration.of found true) := by
  have limits : (engineModel validator).lookup? [("limits", given)] .limits =
      some ("limits", given) := rfl
  have logging : (engineModel validator).lookup? [("limits", given)] .logsFailures =
      none := rfl
  have distinct : (Entries.names [("limits", given)]).Nodup := List.nodup_singleton _
  refine (lawful.validate_entries _ _ distinct).2 ⟨?_, ?_, ?_⟩
  · rintro (_ | _) key value lookedUp
    · cases limits.symm.trans lookedUp
      exact read
    · cases logging.symm.trans lookedUp
  · rintro (_ | _) absent
    · cases limits.symm.trans absent
    · rfl
  · intro key member
    cases List.mem_singleton.1 member
    exact ⟨.limits, given, limits⟩

/-- Resolved limits take the place of those that were given. -/
theorem copy_limits (configuration : Configuration) (given : Given) :
    validator.copy (engineModel validator) configuration .limits given =
      Configuration.of given (configuration .logsFailures) := by
  funext field
  cases field with
  | limits => exact lawful.copy_same ..
  | logsFailures => exact lawful.copy_other _ _ _ (by decide)

/-- Settings of an engine that give only the limits are normalized as the limits are
resolved. -/
theorem normalize_limits
    {given found : Given}
    (read : readGivenLimits validator given = .ok found) :
    normalize validator (some (.entries [("limits", given)])) =
      (resolveLimits validator found).map fun counts =>
        Configuration.of (.limits counts) true := by
  simp only [normalize, readConfiguration, validate_limits lawful read, ok_bind]
  cases resolved : resolveLimits validator found with
  | error problems => simp only [Configuration.of, resolved]; rfl
  | ok counts =>
      simp only [Configuration.of, resolved, ok_bind, copy_limits lawful]
      rfl

/-- The limits of normalized settings are resolved. -/
theorem exists_limits_of_normalize
    {input : Option (Input Given Configuration)}
    {configuration : Configuration}
    (normalized : normalize validator input = .ok configuration) :
    ∃ counts logsFailures,
      configuration = Configuration.of (.limits counts) logsFailures := by
  cases input with
  | none =>
      have standard := validate_limits lawful
        (readGivenLimits_limits lawful Limits.standard.counts)
      cases standard.symm.trans normalized
      exact ⟨_, _, rfl⟩
  | some input =>
      obtain ⟨candidate, -, behind⟩ := (bind_eq_ok ..).1 normalized
      obtain ⟨counts, -, copied⟩ := (bind_eq_ok ..).1 behind
      cases copied
      exact ⟨counts, _, copy_limits lawful candidate _⟩

end

/-- Limits mean the same however they are given, for every lawful validator. Among the
settings of an engine they are read as they are by themselves, with the same problems. They
are read as what their settings give, all of them positive, and as the same under other
spellings and in another order. Limits that are written down are read back, and what
settings are normalized to is normalized to itself. -/
theorem limits_however_given
    (validator : Validator)
    (lawful : validator.Lawful)
    (entries : Entries Value)
    (distinct : entries.names.Nodup) :
    let resolved (entries : Entries Value) :=
      resolveLimits validator (.value (.mapping entries))
    (∀ given : Given, given.MayBeLimits →
        normalize validator (some (.entries [("limits", given)])) =
          (resolveLimits validator given).map
            fun counts => Configuration.of (.limits counts) true) ∧
      (∀ counts, resolved entries = .ok counts ↔ Gives validator entries counts) ∧
      (∀ counts, resolved entries = .ok counts →
        (∀ name, 1 ≤ counts name) ∧
          (∃ limits, Limits.ofCounts? counts = some limits ∧ limits.counts = counts) ∧
          ∀ others, Rewritten entries others → resolved others = .ok counts) ∧
      (∀ limits : Limits,
        (∀ byFirstKey,
          resolved
              (validator.dump (limitsModel validator) byFirstKey (fun _ => .integer)
                limits.counts) =
            .ok limits.counts) ∧
          ∀ key : LimitName → String,
            (∀ name, key name = name.capitalized ∨ key name = name.underscored) →
              resolved (limits.toEntries key) = .ok limits.counts) ∧
      ∀ input configuration, normalize validator input = .ok configuration →
        normalize validator (some (.record configuration)) = .ok configuration := by
  intro resolved
  refine ⟨fun given isLimits => ?_, resolveLimits_eq_ok_iff_gives lawful distinct,
    fun counts accepted => ?_,
    fun limits => ⟨fun byFirstKey => ?_, fun key => resolveLimits_toEntries lawful limits⟩,
    fun input configuration normalized => ?_⟩
  · obtain ⟨found, read, same⟩ := exists_readGivenLimits lawful isLimits
    rw [normalize_limits lawful read, same]
  · have gives := (resolveLimits_eq_ok_iff_gives lawful distinct counts).1 accepted
    exact ⟨gives.one_le lawful, Limits.exists_ofCounts? (gives.one_le lawful),
      fun others => resolveLimits_of_rewritten lawful distinct accepted⟩
  · rw [lawful.dump_eq]
    cases byFirstKey with
    | false => exact resolveLimits_toEntries lawful limits fun name => .inr rfl
    | true => exact resolveLimits_toEntries lawful limits fun name => .inl rfl
  · obtain ⟨counts, logsFailures, rfl⟩ := exists_limits_of_normalize lawful normalized
    simp only [normalize, readConfiguration, ok_bind, copy_limits lawful]
    rfl

/-- Two limits, one of them given as a text, and then rewritten. -/
theorem limits_however_given_two :
    let counts : Counts
      | .outputSize => 9
      | .nestingDepth => 2
      | name => Limits.standard.counts name
    normalize .lax (some (.entries [("limits", .value (.mapping
        [("max_output_size", .integer 9), ("maxNestingDepth", .string "2")]))])) =
        .ok (Configuration.of (.limits counts) true) ∧
      resolveLimits .lax (.value (.mapping
        [("max_nesting_depth", .string "2"), ("maxOutputSize", .integer 9)])) =
        .ok counts := by
  intro counts
  obtain ⟨normalized, -, accepted, -⟩ :=
    limits_however_given .lax Validator.lax_lawful
      [("max_output_size", .integer 9), ("maxNestingDepth", .string "2")] (by decide)
  have read : (limitsModel .lax).readFields
      [("max_output_size", .integer 9), ("maxNestingDepth", .string "2")] = .ok counts :=
    (Model.readFields_eq_ok_iff counts).2 ⟨fun name => by cases name <;> rfl, rfl⟩
  have output : SameSetting "max_output_size" "maxOutputSize" :=
    .inr ⟨.outputSize, .inr rfl, .inl rfl⟩
  have nesting : SameSetting "maxNestingDepth" "max_nesting_depth" :=
    .inr ⟨.nestingDepth, .inl rfl, .inr rfl⟩
  have respelled : Respelled
      [("max_output_size", .integer 9), ("maxNestingDepth", .string "2")]
      [("maxOutputSize", .integer 9), ("max_nesting_depth", .string "2")] :=
    .cons ⟨output, rfl⟩ (.cons ⟨nesting, rfl⟩ .nil)
  exact ⟨(normalized (.value (.mapping _)) trivial).trans (congrArg (Except.map _) read),
    (accepted counts read).2.2 _ ⟨_, respelled, .swap ..⟩⟩

end Settings
end Templating
