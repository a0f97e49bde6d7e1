import Unannotate.Endpoint.Basic
import Unannotate.Proofs.Endpoint.Encoding
import Unannotate.Proofs.Marks

/-!
# Paths are read back as they were written

A path that was read has a segment, and no segment points elsewhere or needs encoding. Such a path is read
back from what it is written as, and it stays one when it is made a path for traces.
-/
set_option autoImplicit false

namespace Unannotate.Endpoint

variable {segment text : List Char} {path above segments : List (List Char)}

/-- A segment that stands in an address as it is. -/
structure IsSegment (segment : List Char) : Prop where
  encoded : Percent.IsEncoded Percent.path segment
  noSlash : '/' ∉ segment
  noBackslash : '\\' ∉ segment
  notHere : isHere segment = false
  notAbove : isAbove segment = false

/-- The paths that reading gives. -/
structure IsPath (path : List (List Char)) : Prop where
  nonempty : path ≠ []
  segments : ∀ segment ∈ path, IsSegment segment

/-! ## Following segments -/

theorem mem_dropSegment (member : segment ∈ dropSegment above) : segment ∈ above := by
  unfold dropSegment at member
  split at member
  · split at member
    · exact member
    · exact (List.dropLast_sublist above).subset member
  · exact member

/-- Only segments that do not point elsewhere are kept. -/
theorem mem_resolve (member : segment ∈ resolve above segments) :
    segment ∈ above ∨ segment = [] ∨
      segment ∈ segments ∧ isHere segment = false ∧ isAbove segment = false := by
  induction segments generalizing above with
  | nil => exact .inl member
  | cons first rest ih =>
    have later {front : List (List Char)} (kept : segment ∈ resolve front rest)
        (inFront : segment ∈ front → segment ∈ above ∨ segment = [] ∨
          segment ∈ first :: rest ∧ isHere segment = false ∧ isAbove segment = false) :
        segment ∈ above ∨ segment = [] ∨
          segment ∈ first :: rest ∧ isHere segment = false ∧ isAbove segment = false := by
      obtain front | empty | ⟨held, stays⟩ := ih kept
      · exact inFront front
      · exact .inr (.inl empty)
      · exact .inr (.inr ⟨List.mem_cons_of_mem first held, stays⟩)
    have last {front : List (List Char)}
        (inFront : segment ∈ front ++ if rest.isEmpty then [[]] else []) :
        segment ∈ front ∨ segment = [] := by
      obtain inFront | added := List.mem_append.mp inFront
      · exact .inl inFront
      · split at added
        · exact .inr (List.mem_singleton.mp added)
        · cases added
    rw [resolve] at member
    split at member
    · refine later member fun inFront => ?_
      exact (last inFront).imp mem_dropSegment .inl
    next notAbove =>
    split at member
    · refine later member fun inFront => ?_
      exact (last inFront).imp id .inl
    next notHere =>
    refine later member fun inFront => ?_
    obtain inFront | itself := List.mem_append.mp inFront
    · exact .inl inFront
    · obtain rfl := List.mem_singleton.mp itself
      exact .inr (.inr ⟨List.mem_cons_self, by simpa using notHere, by simpa using notAbove⟩)

theorem resolve_ne_nil (above : List (List Char)) (nonempty : segments ≠ []) :
    resolve above segments ≠ [] := by
  induction segments generalizing above with
  | nil => exact absurd rfl nonempty
  | cons first rest ih =>
    cases rest with
    | nil =>
      simp only [resolve, List.isEmpty_nil, if_true]
      split
      · simp
      split
      · simp
      · simp
    | cons second rest =>
      rw [resolve]
      split
      · exact ih _ (by simp)
      split
      · exact ih _ (by simp)
      · exact ih _ (by simp)

theorem resolve_eq_append (above : List (List Char))
    (stays : ∀ segment ∈ segments, isHere segment = false ∧ isAbove segment = false) :
    resolve above segments = above ++ segments := by
  induction segments generalizing above with
  | nil => simp [resolve]
  | cons first rest ih =>
    rw [List.forall_mem_cons] at stays
    rw [resolve, stays.1.1, stays.1.2]
    simp [ih _ stays.2]

/-! ## Reading -/

theorem isSegment_nil : IsSegment [] :=
  ⟨by simp [Percent.IsEncoded], by simp, by simp, by decide, by decide⟩

theorem isPath_parsePath (text : List Char) : IsPath (parsePath text) := by
  unfold parsePath
  dsimp only
  generalize slashed : text.map (fun character => if character = '\\' then '/' else character) = given
  have noBackslash : '\\' ∉ given := by
    rw [← slashed, List.mem_map]
    rintro ⟨character, -, same⟩
    split at same
    · cases same
    · contradiction
  generalize stripped : (if given.head? = some '/' then given.drop 1 else given) = behind
  have absent : '\\' ∉ behind := by
    rw [← stripped]
    split
    · exact fun member => noBackslash (List.mem_of_mem_drop member)
    · exact noBackslash
  constructor
  · exact resolve_ne_nil [] (by simp)
  · intro segment member
    obtain nowhere | rfl | ⟨held, notHere, notAbove⟩ := mem_resolve member
    · cases nowhere
    · exact isSegment_nil
    · obtain ⟨piece, found, rfl⟩ := List.mem_map.mp held
      refine ⟨Percent.isEncoded_path piece, ?_, ?_, notHere, notAbove⟩
      · exact Percent.not_mem_encode (by decide) (not_mem_of_mem_splitOn found)
      · exact Percent.not_mem_encode (by decide) fun member => absent (mem_of_mem_splitOn found member)

/-! ## Writing -/

theorem renderPath_eq (nonempty : path ≠ []) : renderPath path = '/' :: ['/'].intercalate path := by
  obtain ⟨first, rest, rfl⟩ := List.exists_cons_of_ne_nil nonempty
  induction rest generalizing first with
  | nil => simp [renderPath, List.intercalate]
  | cons second rest ih =>
    rw [List.intercalate_cons_cons, List.append_assoc, List.singleton_append,
      ← ih second (List.cons_ne_nil second rest)]
    rfl

theorem mem_renderPath {character : Char} (member : character ∈ renderPath path) :
    character = '/' ∨ ∃ segment ∈ path, character ∈ segment := by
  obtain ⟨segment, held, inside⟩ := List.mem_flatMap.mp member
  obtain slash | inside := List.mem_cons.mp inside
  · exact .inl slash
  · exact .inr ⟨segment, held, inside⟩

theorem IsPath.visible (normal : IsPath path) :
    ∀ character ∈ renderPath path, ' ' < character ∧ character ≠ '#' ∧ character ≠ '?' := by
  intro character member
  obtain rfl | ⟨segment, held, inside⟩ := mem_renderPath member
  · decide
  · exact Percent.plain_of_path ((normal.segments segment held).encoded character inside)

/-- The slashes of what is written are those in front of the segments. -/
theorem IsPath.splitOn_renderPath (normal : IsPath path) :
    (renderPath path).splitOn '/' = [] :: path := by
  have split : (['/'].intercalate path).splitOn '/' = path :=
    List.splitOn_intercalate '/' (fun segment held => (normal.segments segment held).noSlash)
      normal.nonempty
  rw [renderPath_eq normal.nonempty, List.splitOn_cons_eq_if_modifyHead, if_pos (by rfl), split]

theorem IsPath.parsePath_renderPath (normal : IsPath path) : parsePath (renderPath path) = path := by
  have noBackslash : ∀ character ∈ renderPath path, character ≠ '\\' := by
    rintro character member rfl
    obtain slash | ⟨segment, held, inside⟩ := mem_renderPath member
    · cases slash
    · exact (normal.segments segment held).noBackslash inside
  have slashed : (renderPath path).map (fun character => if character = '\\' then '/' else character)
      = renderPath path := by
    refine (List.map_congr_left ?_).trans (List.map_id _)
    intro character member
    exact if_neg (noBackslash character member)
  have behind : ((renderPath path).drop 1).splitOn '/' = path := by
    have split := normal.splitOn_renderPath
    rw [renderPath_eq normal.nonempty, List.splitOn_cons_eq_if_modifyHead, if_pos (by rfl)] at split
    rw [renderPath_eq normal.nonempty]
    exact (List.cons.inj split).2
  have encoded : path.map (Percent.encode Percent.path) = path := by
    refine (List.map_congr_left ?_).trans (List.map_id _)
    intro segment held
    exact Percent.encode_eq_self (normal.segments segment held).encoded
  have slash : (renderPath path).head? = some '/' := by
    rw [renderPath_eq normal.nonempty]
    rfl
  rw [parsePath, slashed]
  simp only [slash, if_true, behind, encoded]
  exact resolve_eq_append [] fun segment held =>
    ⟨(normal.segments segment held).notHere, (normal.segments segment held).notAbove⟩

/-! ## Traces -/

theorem isSegment_tracesPath : ∀ segment ∈ tracesPath, IsSegment segment := by
  have all : ∀ segment ∈ tracesPath, segment.all (!Percent.path ·) = true
      ∧ '/' ∉ segment ∧ '\\' ∉ segment ∧ isHere segment = false ∧ isAbove segment = false := by
    decide
  intro segment held
  obtain ⟨encoded, noSlash, noBackslash, notHere, notAbove⟩ := all segment held
  have plain : Percent.IsEncoded Percent.path segment := fun character member => by
    simpa using List.all_eq_true.mp encoded character member
  exact ⟨plain, noSlash, noBackslash, notHere, notAbove⟩

theorem IsPath.pathForTraces (normal : IsPath path) : IsPath (pathForTraces path) := by
  unfold Endpoint.pathForTraces
  split
  · exact ⟨by decide, isSegment_tracesPath⟩
  split
  · refine ⟨by simp [tracesPath], ?_⟩
    intro segment member
    obtain inFront | added := List.mem_append.mp member
    · exact normal.segments segment (List.mem_of_mem_take inFront)
    · exact isSegment_tracesPath segment added
  · exact normal

theorem pathForTraces_eq_self (notRoot : path ≠ [[]]) (notLogs : ¬ logsPath <:+ path) :
    pathForTraces path = path := by
  rw [Endpoint.pathForTraces, if_neg notRoot, if_neg (by simpa using notLogs)]

theorem pathForTraces_settled (path : List (List Char)) :
    pathForTraces path ≠ [[]] ∧ ¬ logsPath <:+ pathForTraces path := by
  have traces (front : List (List Char)) :
      front ++ tracesPath ≠ [[]] ∧ ¬ logsPath <:+ front ++ tracesPath := by
    constructor
    · intro root
      have count := congrArg List.length root
      simp [tracesPath] at count
    · intro logs
      have within := List.suffix_of_suffix_length_le logs (List.suffix_append front tracesPath) (by decide)
      exact absurd within (by decide)
  unfold Endpoint.pathForTraces
  split
  · exact traces []
  next notRoot =>
  split
  · exact traces _
  next notLogs =>
  exact ⟨notRoot, by simpa using notLogs⟩

theorem IsPath.eq_root (normal : IsPath path) (root : renderPath path = ['/']) : path = [[]] := by
  have split := normal.splitOn_renderPath
  rw [root] at split
  exact (List.cons.inj split).2.symm

/-- A path whose text ends as the one for logs does has its segments. -/
theorem IsPath.logs_suffix (normal : IsPath path) (logs : "/v1/logs".toList <:+ renderPath path) :
    logsPath <:+ path := by
  obtain ⟨front, whole⟩ := logs
  have split := normal.splitOn_renderPath
  obtain ⟨first, rest, shape⟩ := List.exists_cons_of_ne_nil (List.splitOn_ne_nil '/' front)
  have back : "v1/logs".toList.splitOn '/' = logsPath := by
    decide
  have marked : "/v1/logs".toList = '/' :: "v1/logs".toList := by
    decide
  rw [← whole, marked, List.splitOn_append_cons_self, back, shape, List.cons_append] at split
  exact ⟨rest, (List.cons.inj split).2⟩

end Unannotate.Endpoint
