import Unannotate.Proofs.Endpoint.Addresses

/-!
# Normal forms of endpoints

Making an address one for traces changes its path and leaves it normal. The normal form of an endpoint is
therefore read as the very address that it was written from, whose path is for traces already, and taking
the normal form again changes nothing.
-/
set_option autoImplicit false

namespace Unannotate.Endpoint

variable {path : List (List Char)} {given : Endpoint}

/-! ## Paths as texts -/

/-- The text of the path that spans are sent to. -/
def tracesText (path : List Char) : List Char :=
  if path = ['/'] then "/v1/traces".toList
  else if "/v1/logs".toList.isSuffixOf path then
    path.take (path.length - "/v1/logs".toList.length) ++ "/v1/traces".toList
  else path

theorem renderPath_append (front back : List (List Char)) :
    renderPath (front ++ back) = renderPath front ++ renderPath back :=
  List.flatMap_append

theorem IsPath.renderPath_pathForTraces (normal : IsPath path) :
    renderPath (Endpoint.pathForTraces path) = tracesText (renderPath path) := by
  have logs : renderPath logsPath = "/v1/logs".toList := by
    decide
  have traces : renderPath tracesPath = "/v1/traces".toList := by
    decide
  unfold tracesText
  by_cases root : path = [[]]
  · rw [Endpoint.pathForTraces, if_pos root, root, traces]
    rfl
  rw [if_neg fun written => root (normal.eq_root written)]
  by_cases ends : logsPath <:+ path
  · obtain ⟨front, rfl⟩ := ends
    have logsBehind : "/v1/logs".toList <:+ renderPath (front ++ logsPath) := by
      rw [renderPath_append, logs]
      exact List.suffix_append _ _
    rw [Endpoint.pathForTraces, if_neg root, if_pos (by simp), if_pos (by simpa using logsBehind),
      renderPath_append, renderPath_append, traces, logs]
    simp
  · rw [pathForTraces_eq_self root ends, if_neg]
    intro logsBehind
    exact ends (normal.logs_suffix (by simpa using logsBehind))

/-- No text stays that of a root or of a path for logs. -/
theorem IsPath.tracesText_settled (normal : IsPath path) :
    tracesText (renderPath path) ≠ ['/'] ∧ ¬ "/v1/logs".toList <:+ tracesText (renderPath path) := by
  rw [← normal.renderPath_pathForTraces]
  obtain ⟨notRoot, notLogs⟩ := pathForTraces_settled path
  exact ⟨fun root => notRoot (normal.pathForTraces.eq_root root),
    fun logs => notLogs (normal.pathForTraces.logs_suffix logs)⟩

/-! ## Addresses for traces -/

theorem IsNormal.forTraces (normal : given.IsNormal) : given.forTraces.IsNormal :=
  ⟨normal.authority, normal.path.pathForTraces, normal.query, normal.fragment⟩

theorem forTraces_forTraces (given : Endpoint) : given.forTraces.forTraces = given.forTraces := by
  obtain ⟨notRoot, notLogs⟩ := pathForTraces_settled given.path
  simp only [Endpoint.forTraces, pathForTraces_eq_self notRoot notLogs]

theorem normalize_eq_ok_iff {text result : String} : normalize text = .ok result ↔
    ∃ given, address text = .ok given ∧ result = String.ofList given.forTraces.render := by
  rw [normalize, ofText_eq]
  cases address text with
  | error fault => simp [Except.map]
  | ok given => simp [Except.map, eq_comm]

/-- Two addresses that differ in their paths at most, of which the second one is for traces. -/
structure SentTo (given traced : Endpoint) : Prop where
  secure : traced.secure = given.secure
  user : traced.user = given.user
  host : traced.host = given.host
  port : traced.port = given.port
  path : renderPath traced.path = tracesText (renderPath given.path)
  query : traced.query = given.query
  fragment : traced.fragment = given.fragment
  notRoot : renderPath traced.path ≠ ['/']
  notLogs : ¬ "/v1/logs".toList <:+ renderPath traced.path

theorem IsNormal.sentTo_forTraces (normal : given.IsNormal) : SentTo given given.forTraces := by
  have path : renderPath given.forTraces.path = tracesText (renderPath given.path) :=
    normal.path.renderPath_pathForTraces
  obtain ⟨notRoot, notLogs⟩ := normal.path.tracesText_settled
  rw [← path] at notRoot notLogs
  exact ⟨rfl, rfl, rfl, rfl, path, rfl, rfl, notRoot, notLogs⟩

end Unannotate.Endpoint
