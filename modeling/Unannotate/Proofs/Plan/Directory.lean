import Unannotate.Proofs.Plan.Walk

/-!
# The plan of one directory

An input directory gives one job for each class file and archive below it, `directory_planned_completely`:
none is missed and none is taken twice, each goes to the same names below the target directory or stays
where it is, and the jobs are in ascending order of their sources. They are those that a walk down the
directory finds, whatever order its entries are listed in. Files that have different names below the input
have different destinations, so a single directory never collides with itself.
-/
set_option autoImplicit false

namespace Unannotate

open FileTree

namespace Job

/-! ## What is passed over -/

section Skipped

variable {target : Option Path} {input : Path} {names : Place}

/-- Below the target lies what has the target on its way. -/
theorem isBelowTarget_iff (named : ∀ name ∈ names, Path.IsName name) :
    isBelowTarget target input names = true ↔
      ∃ front, front ≠ [] ∧ front <+: names ∧ target.any (pathBelow input front).same = true := by
  have spelled {front : Place} (below : front ≠ []) (before : front <+: names) (path : Path) :
      (pathBelow input front).same path = true ↔ input.below? path = some front := by
    have namedFront : ∀ name ∈ front, Path.IsName name := fun name inside => named name (before.subset inside)
    rw [pathBelow, if_neg below, Path.same, Path.components_join input below namedFront,
      Path.below?_eq_some_iff, beq_iff_eq, eq_comm]
  cases target with
  | none => simp [isBelowTarget]
  | some target =>
    rw [isBelowTarget, Option.bind_some]
    constructor
    · intro below
      split at below
      · cases below
      · cases below
      · next skipped some behind =>
        have before := List.isPrefixOf_iff_prefix.mp below
        have notHere : skipped ≠ [] := fun same => some (by rw [same])
        exact ⟨skipped, notHere, before, (spelled notHere before target).mpr behind⟩
    · rintro ⟨_ | ⟨name, rest⟩, notHere, before, same⟩
      · exact absurd rfl notHere
      · rw [(spelled notHere before target).mp same]
        exact List.isPrefixOf_iff_prefix.mpr before

theorem not_isBelowTarget_iff_clear (named : ∀ name ∈ names, Path.IsName name) :
    (!isBelowTarget target input names) = true ↔
      Clear (fun below => target.any (pathBelow input below).same) [] names := by
  rw [Bool.not_eq_true', ← Bool.not_eq_true, isBelowTarget_iff named, Clear]
  simp only [List.nil_append, ← Bool.not_eq_true, not_exists, not_and]

end Skipped

/-! ## Jobs of files that were found -/

/-- The job for a file that was found below an input directory. -/
def ofFound? (target : Option Path) (input source : Path) : Option Job := do
  let name ← source.fileName?
  let kind ← ArtifactKind.ofName? name
  let names ← input.below? source
  return ⟨source, destinationOf target source names, kind⟩

/-- The kind of artifact that a place is named for. -/
def kindAt? (names : Place) : Option ArtifactKind := names.getLast?.bind ArtifactKind.ofName?

/-- The job takes the file with these names below the input, and puts it where it has the same names below
the target directory, or back where it is. -/
structure IsFor (tree : FileTree) (input : Path) (target : Option Path) (names : Place) (job : Job) : Prop where
  source : job.source = input.join (Path.ofNames names)
  leads : tree.placeOf job.source = tree.placeOf input ++ names
  kind : kindAt? names = some job.kind
  copied : ∀ directory ∈ target, job.destination = directory.join (Path.ofNames names)
  inPlace : target = none → job.destination = job.source

section Made

variable {target : Option Path} {input : Path} {names names' : Place} {job job' : Job}

theorem ne_nil_of_kindAt? {kind : ArtifactKind} (artifact : kindAt? names = some kind) : names ≠ [] := by
  rintro rfl
  cases artifact

theorem ofFileBelow?_eq_some_iff : ofFileBelow? target input names = some job ↔
    ∃ kind, kindAt? names = some kind ∧ job = ⟨input.join (Path.ofNames names),
      destinationOf target (input.join (Path.ofNames names)) names, kind⟩ := by
  simp only [ofFileBelow?, kindAt?, Option.bind_eq_bind, Option.bind_eq_some_iff, Option.pure_def,
    Option.some.injEq, eq_comm (a := job)]
  constructor
  · rintro ⟨name, last, kind, named, made⟩
    exact ⟨kind, ⟨name, last, named⟩, made⟩
  · rintro ⟨kind, ⟨name, last, named⟩, made⟩
    exact ⟨name, last, kind, named, made⟩

theorem isSome_ofFileBelow?_iff :
    (ofFileBelow? target input names).isSome = true ↔ (kindAt? names).isSome = true := by
  simp only [Option.isSome_iff_exists, ofFileBelow?_eq_some_iff]
  exact ⟨fun ⟨_, kind, artifact, _⟩ => ⟨kind, artifact⟩, fun ⟨kind, artifact⟩ => ⟨_, kind, artifact, rfl⟩⟩

theorem ofFound?_join (below : names ≠ []) (named : ∀ name ∈ names, Path.IsName name) :
    ofFound? target input (input.join (Path.ofNames names)) = ofFileBelow? target input names := by
  rw [ofFound?, Path.fileName?_join input below named, Path.below?_join input below named, ofFileBelow?]
  rfl

theorem isFor_of_ofFileBelow? (tree : FileTree) (named : ∀ name ∈ names, Path.IsName name)
    (made : ofFileBelow? target input names = some job) : IsFor tree input target names job := by
  obtain ⟨kind, artifact, rfl⟩ := ofFileBelow?_eq_some_iff.mp made
  refine ⟨rfl, tree.placeOf_join input (ne_nil_of_kindAt? artifact) named, artifact, ?_, ?_⟩
  · rintro directory given
    cases target with
    | none => cases given
    | some path =>
      cases given
      rfl
  · rintro rfl
    rfl

theorem components_source_of_ofFileBelow? (named : ∀ name ∈ names, Path.IsName name)
    (made : ofFileBelow? target input names = some job) : job.source.components = input.components ++ names := by
  obtain ⟨kind, artifact, rfl⟩ := ofFileBelow?_eq_some_iff.mp made
  exact Path.components_join input (ne_nil_of_kindAt? artifact) named

/-- Files with different names go to different places. -/
theorem destinations_differ (named : ∀ name ∈ names, Path.IsName name)
    (named' : ∀ name ∈ names', Path.IsName name) (made : ofFileBelow? target input names = some job)
    (made' : ofFileBelow? target input names' = some job') (differ : names ≠ names') :
    job.destination.same job'.destination = false := by
  obtain ⟨kind, artifact, rfl⟩ := ofFileBelow?_eq_some_iff.mp made
  obtain ⟨kind', artifact', rfl⟩ := ofFileBelow?_eq_some_iff.mp made'
  rw [Bool.eq_false_iff]
  cases target <;> exact fun same => differ ((Path.join_same_iff (ne_nil_of_kindAt? artifact) named
    (ne_nil_of_kindAt? artifact') named').mp same)

end Made

end Job

/-! ## Lists of jobs -/

theorem forall₂_filterMap {α β : Type} (give : α → Option β) (items : List α) :
    List.Forall₂ (fun item result => item ∈ items ∧ give item = some result)
      (items.filter fun item => (give item).isSome) (items.filterMap give) := by
  induction items with
  | nil => exact .nil
  | cons item rest ih =>
    have later := ih.imp fun _ _ both => And.intro (List.mem_cons_of_mem item both.1) both.2
    cases given : give item with
    | none => simpa [given] using later
    | some result => simpa [given] using later

section Directory

variable {tree : FileTree} {input : Path} {place : Place}

/-- One directory is planned without a collision. -/
theorem Job.plan_of_directory (target : Option Path) (formed : tree.IsFormed)
    (leads : tree.resolve? input = some place) (directory : tree.lookup? place = some .directory) :
    (Job.plan tree [input] target).outcome
      = .ok (((tree.filesBelow place).filter fun names => !isBelowTarget target input names).filterMap
          (ofFileBelow? target input)) := by
  refine plan_directory leads directory rfl rfl (collision?_eq_none_iff.mpr ⟨?_, List.forall_mem_nil _⟩)
  rw [List.pairwise_filterMap]
  refine ((pairwise_filesBelow formed place).filter _).imp_of_mem ?_
  intro names names' listed listed' ahead job made job' made'
  exact destinations_differ (formed.named.of_mem_filesBelow (List.mem_filter.mp listed).1)
    (formed.named.of_mem_filesBelow (List.mem_filter.mp listed').1) made made' ahead.2

/-- The walk finds the files that the plan takes, in whatever order the directories are listed. -/
theorem Job.filterMap_collect {listing : Place → List (String × Node)} (target : Option Path)
    (formed : tree.IsFormed) (lists : tree.Lists listing) (directory : tree.lookup? place = some .directory)
    {levels : Nat} (deep : ∀ entry ∈ tree.entries, entry.1.length ≤ levels) :
    (collect listing target levels place input).filterMap (ofFound? target input)
      = ((tree.filesBelow place).filter fun names => !isBelowTarget target input names).filterMap
          (ofFileBelow? target input) := by
  have here : tree.lookup? (place ++ []) = some .directory := by rwa [List.append_nil]
  have paths := collect_eq_map_walk target input formed lists levels here
  rw [List.append_nil, pathBelow, if_pos rfl] at paths
  rw [paths, List.filterMap_map, walk_eq_filesBelow formed lists directory deep]
  · refine List.filterMap_congr ?_
    intro names listed
    have inside := (List.mem_filter.mp listed).1
    have below := ((formed.mem_filesBelow_iff directory).mp inside).1
    show ofFound? target input (pathBelow input names) = _
    rw [pathBelow, if_neg below, ofFound?_join below (formed.named.of_mem_filesBelow inside)]
  · rintro names ⟨content, time, stands⟩
    exact not_isBelowTarget_iff_clear (formed.isName_of_lookup? stands)

/-- Where the target does not lie below the input, nothing is passed over. -/
theorem Job.isBelowTarget_eq_false {target : Option Path} (leads : tree.resolve? input = some place)
    (apart : ∀ path ∈ target, place <+: tree.placeOf path → tree.placeOf path = place) {names : Place}
    (named : ∀ name ∈ names, Path.IsName name) : isBelowTarget target input names = false := by
  rw [← Bool.not_eq_true, isBelowTarget_iff named]
  rintro ⟨front, below, before, same⟩
  cases target with
  | none => cases same
  | some path =>
    have namedFront : ∀ name ∈ front, Path.IsName name := fun name inside => named name (before.subset inside)
    have components : path.components = input.components ++ front := by
      have same : (pathBelow input front).same path = true := same
      rw [pathBelow, if_neg below, Path.same, beq_iff_eq, Path.components_join input below namedFront] at same
      exact same.symm
    have leadsBelow : tree.placeOf path = place ++ front := by
      rw [placeOf_of_below? (Path.below?_eq_some_iff.mpr components) namedFront, resolve?_eq_placeOf leads]
    have at' := apart path rfl ⟨front, leadsBelow.symm⟩
    rw [leadsBelow] at at'
    exact below (List.append_right_eq_self.mp at')

/-- One job for each artifact below a directory that does not hold the target, in ascending order, however
the directories are listed. No target makes the plan of one directory fail. -/
theorem directory_planned_completely (target : Option Path) (formed : tree.IsFormed)
    (leads : tree.resolve? input = some place) (directory : tree.lookup? place = some .directory) :
    ∃ jobs, (Job.plan tree [input] target).outcome = .ok jobs ∧
      (∀ listing levels, tree.Lists listing → (∀ entry ∈ tree.entries, entry.1.length ≤ levels) →
        (collect listing target levels place input).filterMap (Job.ofFound? target input) = jobs) ∧
      ((∀ path ∈ target, place <+: tree.placeOf path → tree.placeOf path = place) →
        ∃ files, List.Forall₂ (Job.IsFor tree input target) files jobs ∧
          (∀ names, names ∈ files ↔ tree.IsFile (place ++ names) ∧ (Job.kindAt? names).isSome) ∧
          files.Pairwise Ahead ∧
          jobs.Pairwise fun first second => Ahead first.source.components second.source.components) := by
  refine ⟨_, Job.plan_of_directory target formed leads directory, ?_, ?_⟩
  · intro listing levels lists deep
    exact Job.filterMap_collect target formed lists directory deep
  · intro apart
    have all : (tree.filesBelow place).filter (fun names => !Job.isBelowTarget target input names)
        = tree.filesBelow place := by
      refine List.filter_eq_self.mpr fun names listed => ?_
      simp [Job.isBelowTarget_eq_false leads apart (formed.named.of_mem_filesBelow listed)]
    rw [all]
    have named {names : Place} (listed : names ∈ tree.filesBelow place) := formed.named.of_mem_filesBelow listed
    refine ⟨(tree.filesBelow place).filter fun names => (Job.ofFileBelow? target input names).isSome,
      ?_, ?_, (pairwise_filesBelow formed place).filter _, ?_⟩
    · refine (forall₂_filterMap _ _).imp ?_
      rintro names job ⟨listed, made⟩
      exact Job.isFor_of_ofFileBelow? tree (named listed) made
    · intro names
      rw [List.mem_filter, formed.mem_filesBelow_iff directory, Job.isSome_ofFileBelow?_iff]
      constructor
      · rintro ⟨⟨-, isFile⟩, artifact⟩
        exact ⟨isFile, artifact⟩
      · rintro ⟨isFile, artifact⟩
        obtain ⟨kind, same⟩ := Option.isSome_iff_exists.mp artifact
        exact ⟨⟨Job.ne_nil_of_kindAt? same, isFile⟩, artifact⟩
    · rw [List.pairwise_filterMap]
      refine (pairwise_filesBelow formed place).imp_of_mem ?_
      intro names names' listed listed' ahead job made job' made'
      rw [Job.components_source_of_ofFileBelow? (named listed) made,
        Job.components_source_of_ofFileBelow? (named listed') made']
      exact ahead_append_left_iff.mpr ahead

end Directory

/-- A class in an inner directory, an archive and something else. -/
def smallTree : FileTree where
  entries := [(["in"], .directory), (["in", "notes.txt"], .file [] 1), (["in", "lib"], .directory),
    (["in", "lib", "X.class"], .file [] 2), (["in", "a.jar"], .file [] 3)]
  clock := 4

theorem directory_planned_completely_smallTree :
    ∃ jobs, (Job.plan smallTree [⟨"in"⟩] (some ⟨"out"⟩)).outcome = .ok jobs ∧
      (collect smallTree.entriesAt (some ⟨"out"⟩) 3 ["in"] ⟨"in"⟩).filterMap
        (Job.ofFound? (some ⟨"out"⟩) ⟨"in"⟩) = jobs ∧
      ∃ files, List.Forall₂ (Job.IsFor smallTree ⟨"in"⟩ (some ⟨"out"⟩)) files jobs ∧
        ["lib", "X.class"] ∈ files ∧ ["notes.txt"] ∉ files := by
  have formed : smallTree.IsFormed := by decide +kernel
  have leads : smallTree.resolve? ⟨"in"⟩ = some ["in"] := by decide +kernel
  have directory : smallTree.lookup? ["in"] = some .directory := by decide
  have deep : ∀ entry ∈ smallTree.entries, entry.1.length ≤ 3 := by decide
  have apart : ∀ path ∈ some (⟨"out"⟩ : Path),
      ["in"] <+: smallTree.placeOf path → smallTree.placeOf path = ["in"] := by
    decide +kernel
  obtain ⟨jobs, planned, walked, complete⟩ :=
    directory_planned_completely (some ⟨"out"⟩) formed leads directory
  obtain ⟨files, each, listed, -, -⟩ := complete apart
  refine ⟨jobs, planned, walked _ 3 formed.lists_entriesAt deep, files, each, ?_, ?_⟩
  · exact (listed _).mpr ⟨⟨[], 2, by decide⟩, by decide⟩
  · rw [listed]
    rintro ⟨-, artifact⟩
    exact absurd artifact (by decide)

end Unannotate
