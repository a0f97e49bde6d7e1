/-!
What a run counts.

Summaries form a monoid: the summary of a run is the sum of the summaries of its parts, in order.
-/
set_option autoImplicit false

namespace Unannotate

structure Summary where
  classes : Nat := 0
  changedClasses : Nat := 0
  archives : Nat := 0
  /-- Files left alone because their destination was up to date. -/
  skipped : Nat := 0
  /-- One line for each removal, in the order of the traversal. -/
  removals : List String := []
  deriving DecidableEq, Repr

namespace Summary

def empty : Summary := {}

def append (first second : Summary) : Summary :=
  { classes := first.classes + second.classes
    changedClasses := first.changedClasses + second.changedClasses
    archives := first.archives + second.archives
    skipped := first.skipped + second.skipped
    removals := first.removals ++ second.removals }

instance : Append Summary := ⟨append⟩

def removed (summary : Summary) : Nat := summary.removals.length

/-- The closing line of a run; a dry run speaks of what would happen. -/
def line (summary : Summary) (dryRun : Bool) : String :=
  (if dryRun then "would remove" else "removed") ++
    s!" {summary.removed} annotation reference(s) in {summary.changedClasses} of " ++
    s!"{summary.classes} class(es), {summary.archives} archive(s)" ++
    (if summary.skipped = 0 then "" else s!", {summary.skipped} up-to-date file(s) skipped")

theorem append_def (first second : Summary) :
    first ++ second =
      ⟨first.classes + second.classes, first.changedClasses + second.changedClasses,
        first.archives + second.archives, first.skipped + second.skipped,
        first.removals ++ second.removals⟩ := rfl

@[simp] theorem empty_append (summary : Summary) : empty ++ summary = summary := by
  simp [append_def, empty]

@[simp] theorem append_empty (summary : Summary) : summary ++ empty = summary := by
  simp [append_def, empty]

theorem append_assoc (first second third : Summary) :
    first ++ second ++ third = first ++ (second ++ third) := by
  simp [append_def, Nat.add_assoc]

end Summary

end Unannotate
