import K8sClue.Library.Results
import K8sClue.Python.Conversions

/-! Signals of an evidence bundle: facts, log lines and event texts, and the groups of matchers
that a cause candidate asks of them.
-/

namespace K8sClue.Rca

open Python Library

/-- The exceptions that the analysis does not catch: `OverflowError` of `int` and `TypeError` of
a loop.
-/
inductive CauseError where
  | overflow
  | notIterable
  deriving DecidableEq

structure MissingEvidenceCheck where
  (checkId source status reason : String)
  deriving DecidableEq

structure EvidenceItem where
  (source name : String)
  value : PyDict
  summary : String
  evidenceRef : String := ""
  checkId : String := ""
  query : Option String := none

structure EvidenceBundle where
  incidentId : String
  items : List EvidenceItem
  missingEvidence : List String
  complete : Bool
  missingEvidenceChecks : List MissingEvidenceCheck := []

structure BundleSignals where
  facts : List String := []
  logLines : List String := []
  eventTexts : List String := []
  deriving DecidableEq

def dictItems : PyValue → List PyDict
  | .list items =>
    items.filterMap fun item =>
      match item with
      | .dict entries => some entries
      | _ => none
  | _ => []

variable (py : Runtime)

def textItems : PyValue → List String
  | .list items => (items.filter (·.truthy)).map py.strOf
  | _ => []

/-- `int(value)`; `none` is a `TypeError` or a `ValueError`. -/
def intOf : PyValue → Except CauseError (Option Int)
  | .scalar (.bool value) => .ok (some (if value then 1 else 0))
  | .scalar (.int value) => .ok (some value)
  | .scalar (.float (.finite value)) => .ok (some (value.num.tdiv value.den))
  | .scalar (.float .negativeZero) => .ok (some 0)
  | .scalar (.float .infinity) => .error .overflow
  | .scalar (.float .negativeInfinity) => .error .overflow
  | .scalar (.float .notANumber) => .ok none
  | .scalar (.str value) => .ok (py.parseInt value)
  | _ => .ok none

def factExitCodeNonOom : String := "exit_code=non_oom"

def oomExitCode : Int := 137

/-- The facts of an exit code. -/
def codeFacts (code : Int) : List String :=
  ("exit_code=" ++ py.str (.scalar (.int code)))
    :: if code = 0 ∨ code = oomExitCode then [] else [factExitCodeNonOom]

/-- The body of the loop of `add_exit_code_facts`. -/
def exitCodeFacts (container : PyDict) (key : String) : Except CauseError (List String) :=
  match container.get key with
  | .scalar .none => .ok []
  | .scalar (.bool _) => .ok []
  | raw => (intOf py raw).map fun code => (code.map (codeFacts py)).getD []

def exitCodeKeys : List String := ["exit_code", "last_exit_code"]

def addExitCodeFacts (container : PyDict) : Except CauseError (List String) :=
  (exitCodeKeys.mapM (exitCodeFacts py container)).map List.flatten

def labelFacts : PyValue → List String
  | .dict labels =>
    labels.filterMap fun label =>
      let key := strip (py.strOf (.scalar label.1))
      let value := strip (py.strOf label.2)
      if key ≠ "" ∧ value ≠ "" then some ("pod_label:" ++ key ++ "=" ++ value) else none
  | _ => []

/-- The loop over the pods in `collect_kubernetes_signals`. -/
def podFacts (pod : PyDict) : Except CauseError (List String) := do
  let exitCodes ← (dictItems (pod.get "containers")).mapM (addExitCodeFacts py)
  return labelFacts py (pod.get "labels")
    ++ (textItems py (pod.get "waiting_reasons")).map ("waiting_reason=" ++ ·)
    ++ (textItems py (pod.get "terminated_reasons")).map ("terminated_reason=" ++ ·)
    ++ exitCodes.flatten

/-- The loop over the Events in `collect_kubernetes_signals`. -/
def eventSignals (event : PyDict) : BundleSignals :=
  let reason := py.text (event.get "reason")
  let message := py.text (event.get "message")
  {
    facts := if reason ≠ "" then ["event_reason=" ++ reason] else []
    eventTexts :=
      if reason ≠ "" ∨ message ≠ "" then [strip (reason ++ " " ++ message)] else [] }

variable (value : PyDict)

def collectKubernetesSignals : Except CauseError BundleSignals := do
  let pods ← (dictItems (value.get "pods")).mapM (podFacts py)
  let events := (dictItems (value.get "events")).map (eventSignals py)
  return {
    facts := pods.flatten ++ events.flatMap (·.facts)
    eventTexts := events.flatMap (·.eventTexts) }

def lineOf (entry : PyDict) : List String :=
  match entry.get "line" with
  | .scalar (.str line) => if line ≠ "" then [line] else []
  | _ => []

def collectLogLines : BundleSignals where
  logLines := (dictItems (value.get "entries")).flatMap fun entry =>
    lineOf entry ++ (dictItems (entry.get "streams")).flatMap fun stream =>
      (dictItems (stream.get "values")).flatMap lineOf

/-- The fact of a firing alert. -/
def alertFacts (alert : PyDict) : List String :=
  if py.strOr (alert.get "status") "firing" ≠ "firing" then
    []
  else
    match alert.get "labels" with
    | .dict labels =>
      let name := py.text (PyDict.get labels "alertname")
      if name ≠ "" then ["alert_name=" ++ name] else []
    | _ => []

def collectAlertFacts : BundleSignals where
  facts :=
    match value.get "alertmanager" with
    | .dict alertmanager =>
      (dictItems (PyDict.get alertmanager "alerts")).flatMap (alertFacts py)
    | _ => []

def itemSignals (item : EvidenceItem) : Except CauseError BundleSignals :=
  if item.source = "kubernetes" then
    collectKubernetesSignals py item.value
  else if item.source = "logs" then
    .ok (collectLogLines item.value)
  else if item.source = "metrics" then
    .ok (collectAlertFacts py item.value)
  else
    .ok {}

variable (bundle : EvidenceBundle)

def extractBundleSignals : Except CauseError BundleSignals := do
  let parts ← bundle.items.mapM (itemSignals py)
  return {
    facts := parts.flatMap (·.facts)
    logLines := parts.flatMap (·.logLines)
    eventTexts := parts.flatMap (·.eventTexts) }

def matchOne (matcher : PyDict) (signals : BundleSignals) : Bool :=
  match matcher.get "fact", matcher.get "log_pattern", matcher.get "event_pattern" with
  | .scalar (.str fact), _, _ => fact ∈ signals.facts
  | _, .scalar (.str pattern), _ =>
    signals.logLines.any fun line => contains (py.casefold line) (py.casefold pattern)
  | _, _, .scalar (.str pattern) =>
    signals.eventTexts.any fun text =>
      contains (py.casefold text) (py.casefold pattern)
  | _, _, _ => false

def matchSignalGroup (signals : BundleSignals) (group : PyDict) : Bool :=
  match group.get "any_of" with
  | .list matchers => (dictItems (.list matchers)).any fun matcher => matchOne py matcher signals
  | _ => false

def splitSignalGroups (groups : List PyDict) (signals : BundleSignals)
    : List PyDict × List PyDict :=
  groups.partition (matchSignalGroup py signals)

variable (group : PyDict)

def signalGroupId : String :=
  py.strOr (group.get "id") "unnamed"

def signalMissingToken : String :=
  "signal:" ++ signalGroupId py group

def matcherKeys : List String := ["fact", "log_pattern", "event_pattern"]

/-- The parts of a matcher that are texts. -/
def matcherParts (matcher : PyDict) : List String :=
  matcherKeys.filterMap fun key =>
    match matcher.get key with
    | .scalar (.str value) => some (key ++ ":" ++ value)
    | _ => none

/-- `group.get("any_of") or []`, walked through. -/
def walkedMatchers : Except CauseError (List PyValue) :=
  if (group.get "any_of").truthy then
    match iterate (group.get "any_of") with
    | some matchers => .ok matchers
    | none => .error .notIterable
  else
    .ok []

def describeSignalGroup : Except CauseError String := do
  let matchers ← walkedMatchers group
  let parts := (dictItems (.list matchers)).flatMap matcherParts
  return if parts.isEmpty then "정의된 matcher 없음" else " | ".intercalate parts

/-- The value is no infinite float. -/
def notInfinite : PyValue → Bool
  | .scalar (.float .infinity) => false
  | .scalar (.float .negativeInfinity) => false
  | _ => true

/-- No container of the item has an infinite exit code. -/
def EvidenceItem.exitCodesFinite (item : EvidenceItem) : Bool :=
  item.source ≠ "kubernetes"
  || (dictItems (item.value.get "pods")).all fun pod =>
    (dictItems (pod.get "containers")).all fun container =>
      exitCodeKeys.all fun key => notInfinite (container.get key)

def EvidenceBundle.exitCodesFinite : Bool :=
  bundle.items.all (·.exitCodesFinite)

/-- The matchers of the group can be walked through. -/
def walkable : Bool :=
  !(group.get "any_of").truthy || (iterate (group.get "any_of")).isSome

theorem exitCodeFacts_isOk (container : PyDict) (key : String)
    : (exitCodeFacts py container key).isOk = notInfinite (container.get key) := by
  unfold exitCodeFacts
  split
  next missing => rw [missing]; rfl
  next flag => rw [flag]; rfl
  next raw _ _ =>
    rw [map_isOk]
    unfold intOf notInfinite
    split <;> simp_all [Except.toBool]

/-- Extraction only fails on an infinite exit code. -/
theorem extractBundleSignals_isOk
    : (extractBundleSignals py bundle).isOk = bundle.exitCodesFinite := by
  rw [extractBundleSignals, bind_pure_isOk, mapM_isOk]
  congr 1
  funext item
  unfold itemSignals EvidenceItem.exitCodesFinite
  by_cases kubernetes : item.source = "kubernetes"
  · rw [if_pos kubernetes]
    rw [collectKubernetesSignals, bind_pure_isOk, mapM_isOk]
    simp only [kubernetes, ne_eq, not_true_eq_false, decide_false, Bool.false_or]
    congr 1
    funext pod
    rw [podFacts, bind_pure_isOk, mapM_isOk]
    congr 1
    funext container
    rw [addExitCodeFacts, map_isOk, mapM_isOk]
    congr 1
    funext key
    exact exitCodeFacts_isOk py container key
  · rw [if_neg kubernetes]
    simp only [kubernetes, ne_eq, not_false_eq_true, decide_true, Bool.true_or]
    split
    · rfl
    · split <;> rfl

theorem describeSignalGroup_isOk : (describeSignalGroup group).isOk = walkable group := by
  unfold describeSignalGroup walkable
  unfold walkedMatchers
  cases (group.get "any_of").truthy with
  | false => rfl
  | true =>
    cases iterate (group.get "any_of") <;> rfl

/-- A matched group has a list of matchers. -/
theorem walkable_of_match {py : Runtime} {signals : BundleSignals} {group : PyDict}
    (matched : matchSignalGroup py signals group = true)
    : walkable group = true := by
  unfold matchSignalGroup at matched
  split at matched
  next matchers found => simp [walkable, found, iterate]
  · cases matched

end K8sClue.Rca
