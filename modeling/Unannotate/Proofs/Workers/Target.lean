import Unannotate.Proofs.Files.Below
import Unannotate.Proofs.Workers.Planned

/-!
# Outputs are not taken as inputs

Jobs write below the target directory, so a run changes no file outside it, and a listing that leaves out
what lies below the target is the same before and after the run. A plan leaves this out where the target is
spelled behind the input that it lies in; then the plan reads nothing below the target and stays the same
however often it is run, `plan_unchanged_by_run`. Where the target is spelled in another way, the outputs
of one run are inputs of the next.
-/
set_option autoImplicit false

namespace Unannotate

variable {optimize : ClassOptimizer} {traced : Bool} {mode : WriteMode}

/-! ## Files outside a directory -/

def Node.isFile : Node → Bool
  | .directory => false
  | .file _ _ => true

namespace FileTree

/-- Every place is named by names as directories list them. -/
def Named (tree : FileTree) : Prop := ∀ entry ∈ tree.entries, ∀ name ∈ entry.1, Path.IsName name

instance (tree : FileTree) : Decidable tree.Named :=
  inferInstanceAs (Decidable (∀ entry ∈ tree.entries, ∀ name ∈ entry.1, Path.IsName name))

/-- The files that are not below a place, with what they hold. -/
def filesOutside (tree : FileTree) (target : Place) : List (Place × Node) :=
  tree.entries.filter fun entry => entry.2.isFile && !target.isPrefixOf entry.1

theorem mem_filesBelow {tree : FileTree} {place names : Place} :
    names ∈ tree.filesBelow place ↔
      ∃ content time, (place ++ names, .file content time) ∈ tree.entries := by
  rw [filesBelow, List.mem_mergeSort, List.mem_filterMap]
  constructor
  · rintro ⟨⟨at', node⟩, member, listed⟩
    cases node with
    | directory => cases listed
    | file content time =>
      dsimp only at listed
      split at listed
      · next front =>
        cases listed
        have whole := List.prefix_iff_eq_append.mp (List.isPrefixOf_iff_prefix.mp front)
        exact ⟨content, time, by rwa [whole]⟩
      · cases listed
  · rintro ⟨content, time, member⟩
    refine ⟨_, member, ?_⟩
    have front : place.isPrefixOf (place ++ names) = true :=
      List.isPrefixOf_iff_prefix.mpr (List.prefix_append place names)
    simp [front]

/-- What a listing keeps of the files below a place, when this is what lies outside the target. -/
theorem filesBelow_filter_congr {before after : FileTree} {target place : Place}
    {keeps : Place → Bool} (same : after.filesOutside target = before.filesOutside target)
    (agrees : ∀ tree ∈ [before, after], ∀ names content time,
      (place ++ names, .file content time) ∈ tree.entries →
        keeps names = !target.isPrefixOf (place ++ names)) :
    (after.filesBelow place).filter keeps = (before.filesBelow place).filter keeps := by
  have kept (tree : FileTree) (known : tree ∈ [before, after]) :
      (tree.entries.filterMap fun entry =>
        match entry.2 with
        | .directory => none
        | .file _ _ =>
          if place.isPrefixOf entry.1 then some (entry.1.drop place.length) else none).filter keeps
        = (tree.filesOutside target).filterMap fun entry =>
          if place.isPrefixOf entry.1 then some (entry.1.drop place.length) else none := by
    rw [filesOutside, List.filter_filterMap, List.filterMap_filter]
    refine List.filterMap_congr fun entry member => ?_
    obtain ⟨at', node⟩ := entry
    cases node with
    | directory => rfl
    | file content time =>
      by_cases front : place <+: at'
      · obtain ⟨names, rfl⟩ := front
        have agreed := agrees tree known names content time member
        have front : place.isPrefixOf (place ++ names) = true :=
          List.isPrefixOf_iff_prefix.mpr (List.prefix_append place names)
        simp [front, Node.isFile, agreed, Option.filter]
      · have beside : place.isPrefixOf at' = false :=
          Bool.eq_false_iff.mpr fun found => front (List.isPrefixOf_iff_prefix.mp found)
        simp [beside]
  have listed := (kept after (by simp)).trans
    ((congrArg _ same).trans (kept before (by simp)).symm)
  exact filter_mergeSort_congr (List.Perm.of_eq listed)

/-! ## Changes below a directory -/

section Changes

variable {tree next : FileTree} {target : Place}

theorem filesOutside_insert {place : Place} (node : Node) (below : target <+: place) :
    (tree.insert place node).filesOutside target = tree.filesOutside target := by
  have inside : target.isPrefixOf place = true := List.isPrefixOf_iff_prefix.mpr below
  unfold filesOutside insert
  split
  · next known =>
    clear known
    induction tree.entries with
    | nil => rfl
    | cons entry rest ih =>
      rw [List.map_cons, List.filter_cons, List.filter_cons, ih]
      by_cases here : entry.1 = place
      · simp [here, inside]
      · simp [here]
  · simp [List.filter_append, inside]

/-- A directory that is made where nothing was is no file. -/
theorem filesOutside_makeDirectory? {place : Place} (made : tree.makeDirectory? place = some next) :
    next.filesOutside target = tree.filesOutside target := by
  obtain ⟨rfl, -⟩ | ⟨absent, rfl⟩ := makeDirectory?_eq_some made
  · rfl
  · have unknown : tree.entries.any (·.1 = place) = false := by
      unfold lookup? at absent
      rw [if_neg (ne_nil_of_absent absent), Option.map_eq_none_iff, List.find?_eq_none] at absent
      simpa using absent
    simp [filesOutside, create, insert, unknown, List.filter_append, Node.isFile]

theorem filesOutside_put? {path : Path} {content : Bytes} (below : target <+: tree.placeOf path)
    (put : tree.put? path content = some next) : next.filesOutside target = tree.filesOutside target := by
  unfold put? at put
  obtain ⟨place, leads, put⟩ := Option.bind_eq_some_iff.mp put
  rw [← resolve?_eq_placeOf leads] at below
  split at put
  · cases put
  · cases put
    exact filesOutside_insert _ below
  · cases put
    exact filesOutside_insert _ below

end Changes

end FileTree

/-! ## Runs -/

theorem Assignment.Advances.filesOutside {tree next : FileTree} {before after : Assignment}
    {target : Place} (step : Advances optimize traced mode tree before next after)
    (below : target <+: tree.placeOf before.job.destination) :
    next.filesOutside target = tree.filesOutside target := by
  cases step with
  | makes _ made => exact FileTree.filesOutside_makeDirectory? made
  | writes _ put => exact FileTree.filesOutside_put? below put
  | rests | cannotLook | skips | clears | reads | cannotMake | cannotWrite => rfl

/-- Jobs that write below a target leave all files outside it as they were. -/
theorem Workers.filesOutside_follow (optimize : ClassOptimizer) (traced : Bool) (mode : WriteMode)
    {tree : FileTree} {jobs : List Job} {target : Place}
    (below : ∀ job ∈ jobs, target <+: tree.placeOf job.destination) (schedule : List Nat) :
    ((start tree jobs).follow optimize traced mode schedule).tree.filesOutside target
      = tree.filesOutside target := by
  induction schedule using List.reverseRecOn with
  | nil => rfl
  | append_singleton schedule position ih =>
    rw [follow_concat, ← ih]
    rcases ((start tree jobs).follow optimize traced mode schedule).step_cases optimize traced mode
        position with same | ⟨before, after, next, assigned, advance, result⟩
    · rw [same]
    · rw [result]
      refine advance.filesOutside ?_
      rw [placeOf_follow]
      exact below _ (List.mem_of_getElem? (job_of_assigned assigned))

/-! ## Plans -/

/-- The target does not hold the input. Where the input holds the target, the target is spelled behind it,
with the names that lead down to it. -/
structure FileTree.Shows (tree : FileTree) (target input : Path) : Prop where
  outside : ¬tree.placeOf target <+: tree.placeOf input
  spelled : tree.placeOf input <+: tree.placeOf target →
    input.below? target = some ((tree.placeOf target).drop (tree.placeOf input).length)

instance (tree : FileTree) (target input : Path) : Decidable (tree.Shows target input) :=
  decidable_of_iff (¬tree.placeOf target <+: tree.placeOf input ∧
      (tree.placeOf input <+: tree.placeOf target →
        input.below? target = some ((tree.placeOf target).drop (tree.placeOf input).length)))
    ⟨fun both => ⟨both.1, both.2⟩, fun shows => ⟨shows.outside, shows.spelled⟩⟩

section Shown

variable {tree : FileTree} {inputs : List Path} {target input : Path} {jobs : List Job} {job : Job}

/-- What a plan leaves out of an input is what lies below the target. Elsewhere names have to be names. -/
theorem FileTree.Shows.isBelowTarget_eq (shows : tree.Shows target input) {names : List String}
    (named : ¬tree.placeOf target <+: tree.placeOf input ++ names → ∀ name ∈ names, Path.IsName name) :
    Job.isBelowTarget (some target) input names
      = (tree.placeOf target).isPrefixOf (tree.placeOf input ++ names) := by
  rw [Bool.eq_iff_iff, List.isPrefixOf_iff_prefix]
  unfold Job.isBelowTarget
  rw [Option.bind_some]
  constructor
  · intro below
    by_contra beside
    split at below
    · cases below
    · cases below
    · next skipped _ behind =>
      have front := List.isPrefixOf_iff_prefix.mp below
      have skippedNamed : ∀ name ∈ skipped, Path.IsName name :=
        fun name member => named beside name (front.subset member)
      rw [FileTree.placeOf_of_below? behind skippedNamed] at beside
      exact beside ((List.prefix_append_right_inj _).mpr front)
  · intro below
    have above : tree.placeOf input <+: tree.placeOf target :=
      (List.prefix_or_prefix_of_prefix below (List.prefix_append _ names)).resolve_left shows.outside
    obtain ⟨skipped, split⟩ := above
    have behind := shows.spelled ⟨skipped, split⟩
    rw [← split, List.drop_left] at behind
    rw [← split, List.prefix_append_right_inj] at below
    rw [behind]
    cases skipped with
    | nil =>
      rw [List.append_nil] at split
      exact absurd (split ▸ List.prefix_rfl) shows.outside
    | cons first rest => exact List.isPrefixOf_iff_prefix.mpr below

/-- Names of a file that a plan can take are names as directories list them. -/
theorem FileTree.Named.of_mem_filesBelow (named : tree.Named) {place names : Place}
    (listed : names ∈ tree.filesBelow place) : ∀ name ∈ names, Path.IsName name := by
  obtain ⟨content, time, member⟩ := FileTree.mem_filesBelow.mp listed
  intro name inNames
  exact named _ member name (List.mem_append_right place inNames)

/-- A planned job reads nothing below the target and writes below it. -/
theorem Job.apart_of_mem_plan (named : tree.Named) (shows : ∀ input ∈ inputs, tree.Shows target input)
    (planned : (Job.plan tree inputs (some target)).outcome = .ok jobs) (member : job ∈ jobs) :
    ¬tree.placeOf target <+: tree.placeOf job.source ∧
      tree.placeOf target <+: tree.placeOf job.destination := by
  obtain ⟨input, inInputs, list, gives, member⟩ := (plan_eq_ok planned).2 job member
  have writes {names : List String} (some : names ≠ []) (named : ∀ name ∈ names, Path.IsName name) :
      tree.placeOf target <+: tree.placeOf (target.join (Path.ofNames names)) := by
    rw [FileTree.placeOf_join tree target some named]
    exact List.prefix_append _ _
  obtain ⟨names, listed, beside, made⟩ | loose := of_mem_ofInput gives member
  · have namesNamed := named.of_mem_filesBelow listed
    obtain ⟨name, last, made⟩ := Option.bind_eq_some_iff.mp made
    obtain ⟨kind, -, made⟩ := Option.bind_eq_some_iff.mp made
    cases made
    have some : names ≠ [] := by
      rintro rfl
      cases last
    refine ⟨?_, writes some namesNamed⟩
    rw [(shows input inInputs).isBelowTarget_eq fun _ => namesNamed] at beside
    rw [FileTree.placeOf_join tree input some namesNamed]
    intro below
    rw [List.isPrefixOf_iff_prefix.mpr below] at beside
    cases beside
  · obtain ⟨name, fileName, made⟩ := Option.bind_eq_some_iff.mp loose
    obtain ⟨kind, -, made⟩ := Option.bind_eq_some_iff.mp made
    cases made
    refine ⟨(shows input inInputs).outside, writes (List.cons_ne_nil name []) ?_⟩
    rw [List.forall_mem_singleton]
    exact Path.isName_of_fileName? fileName

/-- An input gives the same jobs in a tree that has grown and differs only below the target. -/
theorem Job.ofInput_congr {after : FileTree} (named : tree.Named) (shows : tree.Shows target input)
    (grows : FileTree.Grows tree after)
    (same : after.filesOutside (tree.placeOf target) = tree.filesOutside (tree.placeOf target))
    (gives : (ofInput tree (some target) input).outcome = .ok jobs) :
    ofInput after (some target) input = ofInput tree (some target) input := by
  unfold ofInput at gives ⊢
  split at gives
  · cases gives
  · next place leads =>
    rw [grows.resolve? leads]
    rw [FileTree.resolve?_eq_placeOf leads] at gives ⊢
    split at gives
    · cases gives
    · next stands =>
      have agrees : ∀ either ∈ [tree, after], ∀ names content time,
          (tree.placeOf input ++ names, Node.file content time) ∈ either.entries →
            (!isBelowTarget (some target) input names)
              = !(tree.placeOf target).isPrefixOf (tree.placeOf input ++ names) := by
        intro either known names content time member
        rw [shows.isBelowTarget_eq]
        intro beside name inNames
        -- A file outside the target is in both trees.
        have outside : (tree.placeOf input ++ names, Node.file content time)
            ∈ either.filesOutside (tree.placeOf target) := by
          refine List.mem_filter.mpr ⟨member, ?_⟩
          have notBelow : (tree.placeOf target).isPrefixOf (tree.placeOf input ++ names) = false :=
            Bool.eq_false_iff.mpr fun found => beside (List.isPrefixOf_iff_prefix.mp found)
          simp [Node.isFile, notBelow]
        have here : (tree.placeOf input ++ names, Node.file content time) ∈ tree.entries := by
          obtain rfl | rfl : either = tree ∨ either = after := by simpa using known
          · exact member
          · rw [same] at outside
            exact (List.mem_filter.mp outside).1
        exact named _ here name (List.mem_append_right _ inNames)
      simp only [grows.directory _ stands, FileTree.filesBelow_filter_congr same agrees]
    · next content time stands =>
      obtain ⟨content', time', stands'⟩ := grows.file _ content time stands
      simp only [stands']

end Shown

/-- Where names are names, no input lies at or below the target and each input that holds the target is
spelled in front of it, a plan reads nothing below the target, and after any steps of its jobs it is planned
again as it was. -/
theorem plan_unchanged_by_run (optimize : ClassOptimizer) (traced : Bool) (mode : WriteMode)
    (tree : FileTree) (inputs : List Path) (target : Path) (jobs : List Job) (named : tree.Named)
    (shows : ∀ input ∈ inputs, tree.Shows target input)
    (planned : (Job.plan tree inputs (some target)).outcome = .ok jobs) :
    (∀ job ∈ jobs, ¬tree.placeOf target <+: tree.placeOf job.source) ∧
      ∀ schedule, let after := ((Workers.start tree jobs).follow optimize traced mode schedule).tree
        (Job.plan after inputs (some target)).outcome = .ok jobs := by
  refine ⟨fun job member => (Job.apart_of_mem_plan named shows planned member).1, ?_⟩
  intro schedule after
  have grows : FileTree.Grows tree after := Workers.grows_follow (Workers.start tree jobs) schedule
  have same := Workers.filesOutside_follow optimize traced mode
    (fun job member => (Job.apart_of_mem_plan named shows planned member).2) schedule
  obtain ⟨lists, each, -⟩ := Work.bind_ok_iff.mp planned
  have inputsSame : ∀ input ∈ inputs,
      Job.ofInput after (some target) input = Job.ofInput tree (some target) input := by
    intro input member
    obtain ⟨list, -, gives⟩ := exists_related_of_mem (Work.each_ok_iff.mp each) member
    exact Job.ofInput_congr named (shows input member) grows same gives
  rw [← planned, Job.plan, Job.plan, Work.each_congr inputsSame]

/-- A directory with one class. -/
def oneClass : FileTree where
  entries := [(["A.class"], .file [7] 1)]
  clock := 2

/-- The target is spelled behind the input, so the class that was copied there is left out. -/
theorem plan_unchanged_by_run_oneClass :
    let jobs : List Job := [⟨⟨"./A.class"⟩, ⟨"./out/A.class"⟩, .classFile⟩]
    let after := ((Workers.start oneClass jobs).follow unchanging false {} [0, 0, 0, 0, 0]).tree
    after.content? ["out", "A.class"] = some [7] ∧
      (Job.plan after [⟨"."⟩] (some ⟨"./out"⟩)).outcome = .ok jobs := by
  intro jobs after
  have files : oneClass.filesBelow [] = [["A.class"]] := List.mergeSort_singleton _
  have here : oneClass.resolve? ⟨"."⟩ = some [] := by decide +kernel
  have planned : (Job.plan oneClass [⟨"."⟩] (some ⟨"./out"⟩)).outcome = .ok jobs :=
    Job.plan_directory here rfl files (by decide +kernel) (by decide +kernel)
  have named : oneClass.Named := by decide +kernel
  have shows : ∀ input ∈ [(⟨"."⟩ : Path)], oneClass.Shows ⟨"./out"⟩ input := by decide +kernel
  refine ⟨by decide +kernel, ?_⟩
  exact (plan_unchanged_by_run unchanging false {} oneClass _ _ jobs named shows planned).2 _

/-- The target lies in the input, but is not spelled behind it. The copy that the first run has put there
is an input of the next, one level deeper. -/
theorem plan_takes_outputs :
    ∃ jobs schedule later, (Job.plan oneClass [⟨"."⟩] (some ⟨"out"⟩)).outcome = .ok jobs ∧
      oneClass.placeOf ⟨"."⟩ <+: oneClass.placeOf ⟨"out"⟩ ∧
      ¬oneClass.placeOf ⟨"out"⟩ <+: oneClass.placeOf ⟨"."⟩ ∧
      let run := (Workers.start oneClass jobs).follow unchanging false {} schedule
      run.Finished ∧ ¬run.Fails ∧ (Job.plan run.tree [⟨"."⟩] (some ⟨"out"⟩)).outcome = .ok later ∧
        later ≠ jobs ∧ ∃ job ∈ later, oneClass.placeOf ⟨"out"⟩ <+: oneClass.placeOf job.source := by
  let jobs : List Job := [⟨⟨"./A.class"⟩, ⟨"out/A.class"⟩, .classFile⟩]
  let later : List Job := jobs ++ [⟨⟨"./out/A.class"⟩, ⟨"out/out/A.class"⟩, .classFile⟩]
  let run := (Workers.start oneClass jobs).follow unchanging false {} [0, 0, 0, 0, 0]
  have planned : (Job.plan oneClass [⟨"."⟩] (some ⟨"out"⟩)).outcome = .ok jobs := by
    have files : oneClass.filesBelow [] = [["A.class"]] := List.mergeSort_singleton _
    have here : oneClass.resolve? ⟨"."⟩ = some [] := by decide +kernel
    exact Job.plan_directory here rfl files (by decide +kernel) (by decide +kernel)
  have plannedLater : (Job.plan run.tree [⟨"."⟩] (some ⟨"out"⟩)).outcome = .ok later := by
    have files : run.tree.filesBelow [] = [["A.class"], ["out", "A.class"]] := by
      refine (List.mergeSort_of_pairwise ?_).trans (by decide +kernel)
      decide +kernel
    have here : run.tree.resolve? ⟨"."⟩ = some [] := by decide +kernel
    exact Job.plan_directory here rfl files (by decide +kernel) (by decide +kernel)
  exact ⟨jobs, [0, 0, 0, 0, 0], later, planned, by decide +kernel, by decide +kernel,
    by decide +kernel, by decide +kernel, plannedLater, by decide +kernel, by decide +kernel⟩

end Unannotate
