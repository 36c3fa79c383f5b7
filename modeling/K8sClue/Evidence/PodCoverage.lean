import K8sClue.Inventory.DeletionScopes

/-! The proof that a namespace's Pod list is the whole namespace.
The agent makes one entry for each queried namespace. An entry is complete only for an
unfiltered, fully paged and well-formed list whose rows all belong to the namespace and carry an
identity.
-/

namespace K8sClue.Evidence

open Python Inventory List

def listCollectionStatusKey : String := "kyro_collection_status"
def listMalformedKey : String := "kyro_list_malformed"

def coverageReasonQueryNotSuccessful : String := "query_not_successful"
def coverageReasonMalformedList : String := "malformed_list"
def coverageReasonContinuation : String := "continuation"
def coverageReasonLabelSelector : String := "label_selector"
def coverageReasonIdentityMissing : String := "identity_missing"
def coverageReasonNamespaceMismatch : String := "namespace_mismatch"
def coverageReasonPayloadLimit : String := "payload_limit"

def isDict : PyValue → Bool
  | .dict _ => true
  | _ => false

def dictRows (rows : List PyValue) : List PyDict :=
  rows.filterMap fun
    | .dict row => some row
    | _ => none

def items : PyValue → List PyDict
  | .dict entries =>
    match PyDict.get entries "items" with
    | .list rows => dictRows rows
    | _ => []
  | _ => []

def metadata (item : PyDict) : PyDict := (item.get "metadata").mapping

def isItemCount : PyValue → Bool
  | .scalar (.int value) => 0 ≤ value
  | _ => false

def isOptionalText : PyValue → Bool
  | .scalar .none => true
  | .scalar (.str _) => true
  | _ => false

def isNonemptyText : PyValue → Bool
  | .scalar (.str value) => value ≠ ""
  | _ => false

def isNone : PyValue → Bool
  | .scalar .none => true
  | _ => false

variable (payload : PyValue)

def wellFormedPodList : Bool :=
  isDict payload && !(payload.get listMalformedKey).isBool true
    && (match payload.get "items" with
      | .list rows => rows.all isDict
      | _ => false)
    && (isNone (payload.get "kind") || (payload.get "kind").isText "PodList")
    && (match payload.get "metadata" with
      | .scalar .none => true
      | .dict listMeta =>
        isOptionalText (PyDict.get listMeta "continue")
          && (isNone (PyDict.get listMeta "remainingItemCount")
            || isItemCount (PyDict.get listMeta "remainingItemCount"))
      | _ => false)

def listIsContinued : Bool :=
  let listMeta := payload.get "metadata"
  (listMeta.get "continue").truthy
    || match listMeta.get "remainingItemCount" with
      | .scalar (.int remaining) => 0 < remaining
      | _ => false

def sortedSet (texts : List String) : List String := (fromKeys texts).insertionSort (· ≤ ·)

def textItems : PyValue → Option (List String)
  | .list values => values.mapM fun
      | .scalar (.str value) => some value
      | _ => none
  | _ => none

def listStatusReasons : Option (List String) :=
  match lookup payload.mapping (.str listCollectionStatusKey) with
  | none => some []
  | some (.dict status) =>
    match PyDict.get status "observed",
        textItems ((lookup status (.str "reason_codes")).getD (.list [])) with
    | .scalar (.bool observed), some codes =>
      let reasons := sortedSet codes
      some (if observed = false ∧ reasons = [] then
        [coverageReasonQueryNotSuccessful] else reasons)
    | _, _ => none
  | some _ => none

def collectorDenies : Bool :=
  ((payload.get listCollectionStatusKey).get "observed").isBool false

def rowReasons (rows : List PyDict) (inNamespace : String) : List String :=
  rows.flatMap fun row =>
    let rowMeta := metadata row
    (["name", "uid"].flatMap fun key =>
      if isNonemptyText (rowMeta.get key) then [] else [coverageReasonIdentityMissing])
    ++ if (rowMeta.get "namespace").isText inNamespace then
        []
      else
        [coverageReasonNamespaceMismatch]

structure PodCoverage where
  inNamespace : String
  (observed complete deleteSafe truncated : Bool)
  labelSelector : Option String
  reasonCodes : List String
  deriving DecidableEq

variable (inNamespace : String) (labelSelector : Option String)

def podCoverageEntry
    (observed complete truncated : Bool) (reasons : List String)
    : PodCoverage where
  inNamespace := inNamespace
  observed := observed
  complete := complete
  deleteSafe := complete
  truncated := truncated
  labelSelector := labelSelector.filter (· ≠ "")
  reasonCodes := reasons

def podCollectionCoverage (queryStatus : String) : PodCoverage :=
  let failed := if queryStatus ≠ "success" then [coverageReasonQueryNotSuccessful] else []
  let (observed, truncated, listed) :=
    if wellFormedPodList payload then
      let continued := listIsContinued payload
      let (seen, status) := match listStatusReasons payload with
        | none => (false, [coverageReasonMalformedList])
        | some reasons => (!collectorDenies payload, reasons)
      (seen, continued, status ++ (if continued then [coverageReasonContinuation] else [])
        ++ rowReasons (items payload) inNamespace)
    else
      (false, false, [coverageReasonMalformedList])
  let filtered :=
    if labelSelector.any (· ≠ "") then [coverageReasonLabelSelector] else []
  let reasons := failed ++ listed ++ filtered
  let seen := observed && queryStatus == "success"
  podCoverageEntry inNamespace labelSelector seen
    (seen && !truncated && reasons.isEmpty) truncated (sortedSet reasons)

def PodCoverage.toPy (entry : PodCoverage) : PyValue := .dict [
  (.str "collection", .scalar (.str podCollection)),
  (.str "scope", .scalar (.str "namespace")),
  (.str "namespace", .scalar (.str entry.inNamespace)),
  (.str "observed", .scalar (.bool entry.observed)),
  (.str "complete", .scalar (.bool entry.complete)),
  (.str "delete_safe", .scalar (.bool entry.deleteSafe)),
  (.str "truncated", .scalar (.bool entry.truncated)),
  (.str "label_selector",
    match entry.labelSelector with | none => .scalar .none | some text => .scalar (.str text)),
  (.str "reason_codes", .list (entry.reasonCodes.map fun code => .scalar (.str code)))]

structure IdentifiedRow (row : PyDict) : Prop where
  name : isNonemptyText ((metadata row).get "name") = true
  uid : isNonemptyText ((metadata row).get "uid") = true
  inNamespace : (metadata row).get "namespace" = .scalar (.str inNamespace)

structure WholePodList (queryStatus : String)
    : Prop where
  success : queryStatus = "success"
  unfiltered : ∀ selector ∈ labelSelector, selector = ""
  wellFormed : wellFormedPodList payload = true
  ended : listIsContinued payload = false
  rows : ∀ row ∈ items payload, IdentifiedRow inNamespace row

theorem isText_iff {value : PyValue} {text : String}
    : value.isText text = true ↔ value = .scalar (.str text) := by
  unfold PyValue.isText
  split
  next actual => simp
  next other =>
    constructor
    · exact fun impossible => nomatch impossible
    · exact fun same => absurd same (other text)

theorem rowReasons_nil {rows : List PyDict} {inNamespace : String}
    (clean : rowReasons rows inNamespace = [])
    : ∀ row ∈ rows, IdentifiedRow inNamespace row := by
  intro row mem
  have none_found := flatMap_eq_nil_iff.mp clean row mem
  simp only [append_eq_nil_iff, flatMap_eq_nil_iff, ite_eq_left_iff, cons_ne_nil,
    imp_false, not_not] at none_found
  obtain ⟨identity, own⟩ := none_found
  exact ⟨identity "name" (by simp), identity "uid" (by simp), isText_iff.mp own⟩

/-- A complete entry is about a whole namespace. -/
theorem whole_of_complete {payload : PyValue} {inNamespace : String}
    {labelSelector : Option String} {queryStatus : String}
    (complete
      : (podCollectionCoverage payload inNamespace labelSelector queryStatus).complete = true)
    : WholePodList payload inNamespace labelSelector queryStatus := by
  unfold podCollectionCoverage at complete
  by_cases formed : wellFormedPodList payload = true
  · simp only [formed, if_true, podCoverageEntry, Bool.and_eq_true, List.isEmpty_iff,
      List.append_eq_nil_iff, beq_iff_eq, Bool.not_eq_true', ite_eq_right_iff,
      List.cons_ne_nil] at complete
    obtain ⟨⟨⟨_, success⟩, ended⟩, ⟨_, ⟨_, _⟩, rows⟩, unfiltered⟩ := complete
    refine ⟨success, ?_, formed, ended, rowReasons_nil rows⟩
    intro selector given
    by_contra nonempty
    refine unfiltered ?_
    rw [Option.mem_def.mp given]
    simpa using nonempty
  · simp [formed, podCoverageEntry] at complete

end K8sClue.Evidence
