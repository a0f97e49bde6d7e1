import Unannotate.Proofs.Configuration.Decoded

/-!
# Every rule reaches the kinds that it applies to

The rules of a run are those of its configuration file, then its names, then its patterns. Each kind of
element has one matcher for each rule that applies to it, in the order of the rules, and the configuration
is built exactly when there is a rule and every rule has one valid matcher. What a rule sets and which
kinds it applies to is laid down here on the rule as it was written.
-/
set_option autoImplicit false

namespace Unannotate

/-! ## What a rule sets -/

namespace MatcherSpec

/-- The matcher that was written, which a pattern is only when it is valid. -/
def Means (spec : MatcherSpec) (matcher : Matcher) : Prop :=
  match spec.kind with
  | .literal => matcher = .literal spec.value
  | .regex => Matcher.ofPattern? spec.value = some matcher

theorem toMatcher_eq_ok_iff {spec : MatcherSpec} {matcher : Matcher} :
    spec.toMatcher = .ok matcher ↔ spec.Means matcher := by
  obtain ⟨kind, value⟩ := spec
  cases kind with
  | literal => simp [toMatcher, Means, eq_comm]
  | regex => cases found : Matcher.ofPattern? value <;> simp [toMatcher, Means, Matcher.ofPattern, found]

end MatcherSpec

namespace RuleSpec

/-- All matchers that a rule sets, in full or in short. -/
def written (spec : RuleSpec) : List MatcherSpec :=
  spec.matcher.toList ++ spec.name.toList.map (⟨.literal, ·⟩) ++ spec.regexp.toList.map (⟨.regex, ·⟩)

/-- The rule sets one matcher, which is valid. -/
def Sets (spec : RuleSpec) (matcher : Matcher) : Prop :=
  ∃ only, spec.written = [only] ∧ only.Means matcher

/-- The rule sets no matcher or several, or its only one is no pattern. -/
def Faulty (spec : RuleSpec) : Prop :=
  spec.written = [] ∨ 2 ≤ spec.written.length ∨
    ∃ text, spec.written = [⟨.regex, text⟩] ∧ Matcher.ofPattern? text = none

theorem toMatcher_eq_ok_iff {spec : RuleSpec} {matcher : Matcher} :
    spec.toMatcher = .ok matcher ↔ spec.Sets matcher := by
  obtain ⟨full, name, regexp, targets⟩ := spec
  cases full <;> cases name <;> cases regexp <;>
    simp [toMatcher, Sets, written, ← MatcherSpec.toMatcher_eq_ok_iff, MatcherSpec.toMatcher]

theorem toRule_eq_ok_iff {spec : RuleSpec} {rule : Rule} :
    spec.toRule = .ok rule ↔ spec.Sets rule.matcher ∧ rule.targets = spec.targets := by
  rw [toRule, outcome_bind_ok_iff]
  constructor
  · rintro ⟨matcher, made, returned⟩
    cases returned
    exact ⟨toMatcher_eq_ok_iff.mp made, rfl⟩
  · rintro ⟨sets, same⟩
    refine ⟨rule.matcher, toMatcher_eq_ok_iff.mpr sets, ?_⟩
    rw [← same]
    rfl

theorem Faulty.not_sets {spec : RuleSpec} (faulty : spec.Faulty) (matcher : Matcher) :
    ¬spec.Sets matcher := by
  rintro ⟨only, single, means⟩
  obtain none | several | ⟨text, pattern, invalid⟩ := faulty
  · rw [none] at single
    cases single
  · rw [single, List.length_singleton] at several
    omega
  · rw [pattern] at single
    cases single
    rw [MatcherSpec.Means, invalid] at means
    cases means

end RuleSpec

/-! ## Which kinds a rule reaches -/

namespace Targets

theorem mem_withoutRepeats {seen listed : List ElementKind} {kind : ElementKind} :
    kind ∈ withoutRepeats seen listed ↔ kind ∈ listed ∧ kind ∉ seen := by
  induction listed generalizing seen with
  | nil => simp [withoutRepeats]
  | cons first rest ih =>
    unfold withoutRepeats
    split
    · next repeated =>
      rw [ih, List.mem_cons]
      constructor
      · rintro ⟨later, fresh⟩
        exact ⟨.inr later, fresh⟩
      · rintro ⟨rfl | later, fresh⟩
        · exact absurd repeated fresh
        · exact ⟨later, fresh⟩
    · next fresh =>
      rw [List.mem_cons, ih, List.mem_cons, List.mem_cons]
      by_cases same : kind = first
      · simp [same, fresh]
      · simp [same]

theorem nodup_withoutRepeats (seen listed : List ElementKind) : (withoutRepeats seen listed).Nodup := by
  induction listed generalizing seen with
  | nil => exact List.nodup_nil
  | cons first rest ih =>
    unfold withoutRepeats
    split
    · exact ih seen
    · refine List.nodup_cons.mpr ⟨?_, ih (first :: seen)⟩
      intro again
      exact (mem_withoutRepeats.mp again).2 List.mem_cons_self

/-- Each kind that a rule applies to is dispatched to once. -/
theorem nodup_toList (targets : Targets) : targets.toList.Nodup := by
  cases targets with
  | all => decide
  | kinds listed => exact nodup_withoutRepeats [] listed

theorem mem_toList {targets : Targets} {kind : ElementKind} :
    kind ∈ targets.toList ↔ targets.includes kind = true := by
  cases targets with
  | all => simp [toList, includes, ElementKind.mem_all]
  | kinds listed => simp [toList, includes, mem_withoutRepeats]

end Targets

namespace FilterSet

theorem ext_matchers {filters other : FilterSet}
    (same : ∀ kind, filters.matchers kind = other.matchers kind) : filters = other := by
  obtain ⟨type, field, constructor, method, parameter, recordComponent⟩ := filters
  obtain rfl : type = _ := same .type
  obtain rfl : field = _ := same .field
  obtain rfl : constructor = _ := same .constructor
  obtain rfl : method = _ := same .method
  obtain rfl : parameter = _ := same .parameter
  obtain rfl : recordComponent = _ := same .recordComponent
  rfl

theorem matchers_foldl_add {kinds : List ElementKind} (once : kinds.Nodup) (matcher : Matcher)
    (filters : FilterSet) (kind : ElementKind) :
    (kinds.foldl (fun filters kind => filters.add kind matcher) filters).matchers kind
      = filters.matchers kind ++ if kind ∈ kinds then [matcher] else [] := by
  induction kinds generalizing filters with
  | nil => simp
  | cons first rest ih =>
    obtain ⟨fresh, restOnce⟩ := List.nodup_cons.mp once
    rw [List.foldl_cons, ih restOnce, matchers_add]
    by_cases same : kind = first
    · rw [if_pos same, if_neg (same ▸ fresh), if_pos (List.mem_cons.mpr (.inl same)), List.append_nil]
    · simp [same]

theorem matchers_addRule (filters : FilterSet) (rule : Rule) (kind : ElementKind) :
    (filters.addRule rule).matchers kind
      = filters.matchers kind ++ if rule.targets.includes kind then [rule.matcher] else [] := by
  rw [addRule, matchers_foldl_add rule.targets.nodup_toList]
  simp only [Targets.mem_toList]

/-- Each kind gets the matchers of the rules that apply to it, in the order of the rules. -/
theorem matchers_foldl_addRule (rules : List Rule) (filters : FilterSet) (kind : ElementKind) :
    (rules.foldl addRule filters).matchers kind
      = filters.matchers kind ++ (rules.filter (·.targets.includes kind)).map (·.matcher) := by
  induction rules generalizing filters with
  | nil => simp
  | cons rule rest ih =>
    rw [List.foldl_cons, ih, matchers_addRule, List.append_assoc, List.filter_cons]
    cases rule.targets.includes kind <;> rfl

/-- For each kind, the matchers of the rules that apply to it and no others, in the order of the rules. -/
def Holds (filters : FilterSet) (rules : List (RuleSpec × Matcher)) : Prop :=
  ∀ kind, filters.matchers kind = (rules.filter (·.1.targets.includes kind)).map (·.2)

theorem holds_foldl_addRule {specs : List RuleSpec} {rules : List Rule}
    (made : List.Forall₂ (fun spec rule => spec.toRule = .ok rule) specs rules) :
    (rules.foldl addRule empty).Holds (specs.zip (rules.map (·.matcher))) := by
  intro kind
  have each : (rules.filter (·.targets.includes kind)).map (·.matcher)
      = ((specs.zip (rules.map (·.matcher))).filter (·.1.targets.includes kind)).map (·.2) := by
    induction made with
    | nil => rfl
    | cons here _ ih =>
      obtain ⟨-, same⟩ := RuleSpec.toRule_eq_ok_iff.mp here
      rw [List.map_cons, List.zip_cons_cons, List.filter_cons, List.filter_cons, same]
      split
      · rw [List.map_cons, List.map_cons, ih]
      · exact ih
  rw [matchers_foldl_addRule, ← each]
  cases kind <;> rfl

section Held

variable {filters : FilterSet} {rules : List (RuleSpec × Matcher)}

/-- A name is removed when a rule that applies to its kind accepts it. -/
theorem Holds.shouldRemove_iff (holds : filters.Holds rules) (kind : ElementKind) (name : String) :
    filters.shouldRemove kind name = true ↔
      ∃ rule ∈ rules, rule.1.targets.includes kind = true ∧ rule.2.accepts name = true := by
  rw [shouldRemove, holds kind, List.any_map, List.any_filter, List.any_eq_true]
  simp

/-- Where every rule applies to some kind, a rule leaves no filter set empty. -/
theorem Holds.isEmpty_eq_false (holds : filters.Holds rules)
    (selects : ∀ rule ∈ rules, rule.1.targets ≠ .kinds []) (some : rules ≠ []) :
    filters.isEmpty = false := by
  obtain ⟨rule, inRules⟩ := List.exists_mem_of_ne_nil rules some
  obtain ⟨kind, included⟩ := Targets.exists_includes (selects rule inRules)
  rw [isEmpty, List.all_eq_false]
  refine ⟨kind, ElementKind.mem_all kind, ?_⟩
  intro empty
  have here : rule.2 ∈ filters.matchers kind := by
    rw [holds kind]
    exact List.mem_map_of_mem (List.mem_filter.mpr ⟨inRules, included⟩)
  rw [List.isEmpty_iff.mp empty] at here
  cases here

end Held

end FilterSet

namespace StripFlags

theorem ext_contains {flags other : StripFlags} (same : ∀ flag, flags.contains flag = other.contains flag) :
    flags = other := by
  obtain ⟨skipDebug, skipCode, skipFrames, expandFrames⟩ := flags
  obtain rfl : skipDebug = _ := same .skipDebug
  obtain rfl : skipCode = _ := same .skipCode
  obtain rfl : skipFrames = _ := same .skipFrames
  obtain rfl : expandFrames = _ := same .expandFrames
  rfl

theorem contains_foldl_insert (listed : List StripFlag) (flags : StripFlags) (flag : StripFlag) :
    (listed.foldl insert flags).contains flag = true ↔ flag ∈ listed ∨ flags.contains flag = true := by
  induction listed generalizing flags with
  | nil => simp
  | cons added rest ih =>
    rw [List.foldl_cons, ih, contains_insert, List.mem_cons, Bool.or_eq_true, beq_iff_eq]
    tauto

theorem contains_ofList (listed : List StripFlag) (flag : StripFlag) :
    (ofList listed).contains flag = true ↔ flag ∈ listed := by
  rw [ofList, contains_foldl_insert]
  cases flag <;> simp [contains]

end StripFlags

/-! ## The configuration of a run -/

namespace Arguments

variable (arguments : Arguments) (tree : FileTree)

/-- The configuration file that is asked for, with the items of its list of rules; without one there are
no rules of a file. -/
inductive ConfiguredBy : List Json → ConfigurationFile → Prop
  | nothing (unset : arguments.config = none) : ConfiguredBy [] {}
  | loaded (path : Path) (data : Bytes) (text : String) (file : ConfigurationFile)
      (set : arguments.config = some path) (read : tree.read? path = some data)
      (spelled : Utf8.decode? data = some text)
      (loads : ConfigurationFile.load path.text data = .ok file) :
      ConfiguredBy (Json.ofText text).ruleItems file

/-- The rules of the file, then the names, then the patterns. -/
def ruleSpecs (file : ConfigurationFile) (targets : Targets) : List RuleSpec :=
  file.rules ++ arguments.names.map (fun name => { name := some name, targets })
    ++ arguments.patterns.map fun text => { regexp := some text, targets }

/-- A configuration that amounts to rules with these matchers, and whether it overwrites. -/
structure AmountsTo (items : List Json) (file : ConfigurationFile) (targets : Targets)
    (matchers : List Matcher) (configuration : Configuration) (overwrite : Bool) : Prop where
  /-- Each item of the list in the file is one rule. -/
  decoded : List.Forall₂ (fun item spec => RuleSpec.decode item = .ok spec) items file.rules
  /-- What names and patterns apply to is everything, unless kinds are given. -/
  selects : ∀ kind, targets.includes kind = true ↔ arguments.kinds = [] ∨
    ∃ name ∈ arguments.kinds, Targets.isAll name = true ∨ ElementKind.ofSpelling? name = some kind
  someRule : arguments.ruleSpecs file targets ≠ []
  sets : List.Forall₂ RuleSpec.Sets (arguments.ruleSpecs file targets) matchers
  holds : configuration.filters.Holds ((arguments.ruleSpecs file targets).zip matchers)
  removes : ∀ kind name, configuration.filters.shouldRemove kind name = true ↔
    ∃ rule ∈ (arguments.ruleSpecs file targets).zip matchers,
      rule.1.targets.includes kind = true ∧ rule.2.accepts name = true
  notEmpty : configuration.filters.isEmpty = false
  flags : ∀ flag, configuration.flags.contains flag = true ↔
    flag ∈ file.flags ∨ flag ∈ arguments.flags
  overwrites : overwrite = (arguments.overwrite || file.overwrite)

variable {arguments} {tree}

theorem ConfiguredBy.decoded {items : List Json} {file : ConfigurationFile}
    (configured : arguments.ConfiguredBy tree items file) :
    List.Forall₂ (fun item spec => RuleSpec.decode item = .ok spec) items file.rules := by
  cases configured with
  | nothing unset => exact .nil
  | loaded path data text file set read spelled loads =>
    obtain ⟨document, same, decoded⟩ := ConfigurationFile.exists_document_of_load loads
    rw [spelled] at same
    cases same
    exact ConfigurationFile.forall₂_rules_of_decode decoded

theorem ConfiguredBy.unique {items items' : List Json} {file file' : ConfigurationFile}
    (configured : arguments.ConfiguredBy tree items file)
    (configured' : arguments.ConfiguredBy tree items' file') : file = file' := by
  cases configured with
  | nothing unset =>
    cases configured' with
    | nothing => rfl
    | loaded path data text file set =>
      rw [unset] at set
      cases set
  | loaded path data text file set read spelled loads =>
    cases configured' with
    | nothing unset =>
      rw [unset] at set
      cases set
    | loaded path' data' text' file' set' read' spelled' loads' =>
      rw [set] at set'
      cases set'
      rw [read] at read'
      cases read'
      rw [loads] at loads'
      exact Except.ok.inj loads'

theorem whileDoing_eq_ok_iff {α : Type} {context : Context} {result : Except Failure α} {value : α} :
    whileDoing context result = .ok value ↔ result = .ok value := by
  cases result <;> simp [whileDoing]

theorem configurationFile_eq_ok_iff {file : ConfigurationFile} {rules : List Rule} :
    arguments.configurationFile tree = .ok (file, rules) ↔
      ∃ items, arguments.ConfiguredBy tree items file ∧ file.toRules = .ok rules := by
  unfold configurationFile
  constructor
  · intro found
    split at found
    · next unset =>
      cases found
      exact ⟨[], .nothing unset, rfl⟩
    · next path set =>
      cases read : tree.read? path with
      | none =>
        simp only [read] at found
        cases found
      | some data =>
        simp only [read] at found
        obtain ⟨bytes, same, afterData⟩ := outcome_bind_ok_iff.mp found
        cases same
        obtain ⟨loaded, loads, afterFile⟩ := outcome_bind_ok_iff.mp afterData
        obtain ⟨made, rulesMade, returned⟩ := outcome_bind_ok_iff.mp afterFile
        cases returned
        obtain ⟨text, spelled, -⟩ := ConfigurationFile.exists_document_of_load loads
        exact ⟨_, .loaded path data text file set read spelled loads,
          whileDoing_eq_ok_iff.mp rulesMade⟩
  · rintro ⟨items, configured, made⟩
    cases configured with
    | nothing unset =>
      have none : Except.ok [] = Except.ok rules := made
      cases none
      simp only [unset]
    | loaded path data text file set read spelled loads =>
      simp only [set, read]
      refine outcome_bind_ok_iff.mpr ⟨data, rfl, outcome_bind_ok_iff.mpr ⟨file, loads, ?_⟩⟩
      exact outcome_bind_ok_iff.mpr ⟨rules, whileDoing_eq_ok_iff.mpr made, rfl⟩

/-- Targets that were accepted select what the names say. -/
theorem targets_eq_ok {targets : Targets} (accepted : arguments.targets = .ok targets) :
    targets ≠ .kinds [] ∧ ∀ kind, targets.includes kind = true ↔ arguments.kinds = [] ∨
      ∃ name ∈ arguments.kinds, Targets.isAll name = true ∨
        ElementKind.ofSpelling? name = some kind := by
  unfold Arguments.targets at accepted
  split at accepted
  · next none =>
    cases accepted
    refine ⟨nofun, ?_⟩
    simp [Targets.includes, List.isEmpty_iff.mp none]
  · next some =>
    cases named : Targets.ofNames arguments.kinds with
    | error fault =>
      rw [named] at accepted
      cases accepted
    | ok chosen =>
      rw [named] at accepted
      cases accepted
      obtain ⟨collected, selects⟩ := Targets.ofNames_eq_ok named
      refine ⟨selects, ?_⟩
      intro kind
      have given : arguments.kinds ≠ [] := by simpa using some
      rw [Targets.includes_of_collect collected, or_iff_right given]

/-- Whether there are rules does not depend on what they apply to, -/
theorem ruleSpecs_eq_nil {file : ConfigurationFile} {targets targets' : Targets}
    (none : arguments.ruleSpecs file targets = []) : arguments.ruleSpecs file targets' = [] := by
  simpa only [ruleSpecs, List.append_eq_nil_iff, List.map_eq_nil_iff] using none

/-- nor whether they are valid. -/
theorem exists_faulty {file : ConfigurationFile} {targets : Targets} (targets' : Targets) {spec : RuleSpec}
    (inSpecs : spec ∈ arguments.ruleSpecs file targets) (faulty : spec.Faulty) :
    ∃ other ∈ arguments.ruleSpecs file targets', other.Faulty := by
  simp only [ruleSpecs, List.mem_append, List.mem_map] at inSpecs ⊢
  obtain (inFile | ⟨name, named, rfl⟩) | ⟨text, matched, rfl⟩ := inSpecs
  · exact ⟨spec, .inl (.inl inFile), faulty⟩
  · exact ⟨_, .inl (.inr ⟨name, named, rfl⟩), faulty⟩
  · exact ⟨_, .inr ⟨text, matched, rfl⟩, faulty⟩

theorem mapM_ruleSpecs (file : ConfigurationFile) (targets : Targets) :
    (arguments.ruleSpecs file targets).mapM RuleSpec.toRule = (do
      let rules ← file.toRules
      let patterns ← arguments.patterns.mapM fun text => do
        return (⟨targets, ← Matcher.ofPattern text⟩ : Rule)
      return rules ++ arguments.names.map (fun name => (⟨targets, .literal name⟩ : Rule)) ++ patterns) := by
  have names : (arguments.names.map fun name => ({ name := some name, targets } : RuleSpec)).mapM
      RuleSpec.toRule = .ok (arguments.names.map fun name => ⟨targets, .literal name⟩) := by
    rw [mapM_eq_ok_iff_forall₂, List.forall₂_map_left_iff, List.forall₂_map_right_iff, List.forall₂_same]
    intro name _
    rfl
  rw [ruleSpecs, List.mapM_append, List.mapM_append, names, List.mapM_map, ConfigurationFile.toRules]
  cases file.rules.mapM RuleSpec.toRule with
  | error failure => rfl
  | ok rules => rfl

theorem configuration_eq_ok_iff {configuration : Configuration} {overwrite : Bool} :
    arguments.configuration tree = .ok (configuration, overwrite) ↔
      ∃ items file targets rules, arguments.ConfiguredBy tree items file ∧
        arguments.targets = .ok targets ∧
        (arguments.ruleSpecs file targets).mapM RuleSpec.toRule = .ok rules ∧
        Configuration.build rules (.ofList (file.flags ++ arguments.flags)) = .ok configuration ∧
        overwrite = (arguments.overwrite || file.overwrite) := by
  constructor
  · intro made
    obtain ⟨⟨file, rules⟩, found, afterFile⟩ := outcome_bind_ok_iff.mp made
    obtain ⟨items, configured, rulesMade⟩ := configurationFile_eq_ok_iff.mp found
    obtain ⟨targets, accepted, afterTargets⟩ := outcome_bind_ok_iff.mp afterFile
    obtain ⟨patterns, patternsMade, afterPatterns⟩ := outcome_bind_ok_iff.mp afterTargets
    obtain ⟨built, builds, returned⟩ := outcome_bind_ok_iff.mp afterPatterns
    cases returned
    refine ⟨items, file, targets, _, configured, accepted, ?_, builds, rfl⟩
    rw [mapM_ruleSpecs, rulesMade]
    exact outcome_bind_ok_iff.mpr ⟨rules, rfl, outcome_bind_ok_iff.mpr ⟨patterns, patternsMade, rfl⟩⟩
  · rintro ⟨items, file, targets, rules, configured, accepted, rulesMade, builds, rfl⟩
    rw [mapM_ruleSpecs] at rulesMade
    obtain ⟨ofFile, fileMade, afterFile⟩ := outcome_bind_ok_iff.mp rulesMade
    obtain ⟨patterns, patternsMade, returned⟩ := outcome_bind_ok_iff.mp afterFile
    cases returned
    have found := configurationFile_eq_ok_iff.mpr ⟨items, configured, fileMade⟩
    refine outcome_bind_ok_iff.mpr ⟨_, found, outcome_bind_ok_iff.mpr ⟨targets, accepted, ?_⟩⟩
    refine outcome_bind_ok_iff.mpr ⟨patterns, patternsMade, ?_⟩
    exact outcome_bind_ok_iff.mpr ⟨configuration, builds, rfl⟩

/-- Every rule of a run applies to some kind. -/
theorem ruleSpecs_select {items : List Json} {file : ConfigurationFile} {targets : Targets}
    (configured : arguments.ConfiguredBy tree items file) (accepted : arguments.targets = .ok targets) :
    ∀ spec ∈ arguments.ruleSpecs file targets, spec.targets ≠ .kinds [] := by
  have ofFile : ∀ spec ∈ file.rules, spec.targets ≠ .kinds [] := by
    intro spec inFile
    obtain ⟨item, -, decoded⟩ := exists_related_of_mem configured.decoded.flip inFile
    exact RuleSpec.selects_of_decode decoded
  have selects := (targets_eq_ok accepted).1
  simp only [ruleSpecs, List.mem_append, List.mem_map]
  rintro spec ((inFile | ⟨name, -, rfl⟩) | ⟨text, -, rfl⟩)
  · exact ofFile spec inFile
  · exact selects
  · exact selects

/-- What is built of rules has the matchers of the rules. -/
theorem amountsTo_of_build {items : List Json} {file : ConfigurationFile} {targets : Targets}
    {rules : List Rule} {configuration : Configuration}
    (configured : arguments.ConfiguredBy tree items file) (accepted : arguments.targets = .ok targets)
    (made : (arguments.ruleSpecs file targets).mapM RuleSpec.toRule = .ok rules)
    (builds : Configuration.build rules (.ofList (file.flags ++ arguments.flags)) = .ok configuration) :
    arguments.AmountsTo items file targets (rules.map (·.matcher)) configuration
      (arguments.overwrite || file.overwrite) := by
  have each := mapM_eq_ok_iff_forall₂.mp made
  unfold Configuration.build at builds
  split at builds
  · cases builds
  · next some =>
    cases builds
    have someRule : arguments.ruleSpecs file targets ≠ [] := by
      intro none
      rw [none] at each
      cases each
      exact some rfl
    have holds := FilterSet.holds_foldl_addRule each
    have selects : ∀ rule ∈ (arguments.ruleSpecs file targets).zip (rules.map (·.matcher)),
        rule.1.targets ≠ .kinds [] := by
      intro rule inRules
      exact ruleSpecs_select configured accepted rule.1 (List.of_mem_zip inRules).1
    have someZipped : (arguments.ruleSpecs file targets).zip (rules.map (·.matcher)) ≠ [] := by
      intro none
      have lengths := congrArg List.length none
      rw [List.length_zip, List.length_map, ← each.length_eq, Nat.min_self] at lengths
      exact someRule (List.eq_nil_of_length_eq_zero lengths)
    exact {
      decoded := configured.decoded
      selects := (targets_eq_ok accepted).2
      someRule, holds
      sets := List.forall₂_map_right_iff.mpr
        (each.imp fun _ _ here => (RuleSpec.toRule_eq_ok_iff.mp here).1)
      removes := holds.shouldRemove_iff
      notEmpty := holds.isEmpty_eq_false selects someZipped
      flags := fun flag => (StripFlags.contains_ofList _ flag).trans List.mem_append
      overwrites := rfl }

/-- Rules that each set one valid matcher become rules with these matchers. -/
theorem exists_rules_of_sets {specs : List RuleSpec} {matchers : List Matcher}
    (sets : List.Forall₂ RuleSpec.Sets specs matchers) :
    ∃ rules, specs.mapM RuleSpec.toRule = .ok rules ∧ rules.map (·.matcher) = matchers := by
  have each : List.Forall₂ (fun spec (rule : Rule) => spec.toRule = .ok rule) specs
      ((specs.zip matchers).map fun item => ⟨item.1.targets, item.2⟩) := by
    induction sets with
    | nil => exact .nil
    | cons here _ ih => exact .cons (RuleSpec.toRule_eq_ok_iff.mpr ⟨here, rfl⟩) ih
  refine ⟨_, mapM_eq_ok_iff_forall₂.mpr each, ?_⟩
  rw [List.map_map]
  exact List.map_snd_zip (Nat.le_of_eq sets.length_eq.symm)

/-- A directory with the file `rules.json`, which has one rule for fields and one for everything. -/
def ruledTree : FileTree :=
  { entries := [(["rules.json"], .file
      ("\x7b\"rules\": [\x7b\"name\": \"a.A\", \"from\": [\"field\", \"Fields\"]\x7d, "
        ++ "\x7b\"matcher\": \x7b\"kind\": \"literal\", \"value\": \"b.B\"\x7d\x7d], "
        ++ "\"overwrite\": true\x7d").toUTF8.toList 0)] }

/-- The file, and the name `c.C` on methods. -/
def ruledArguments : Arguments :=
  { config := some ⟨"rules.json"⟩, names := ["c.C"], kinds := ["methods"], flags := [.skipDebug] }

end Arguments

end Unannotate
