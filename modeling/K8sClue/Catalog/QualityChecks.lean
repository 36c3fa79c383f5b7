import K8sClue.Library.Runs
import K8sClue.Library.Upserts
import Mathlib.Data.String.Basic

/-! The quality checks of the data catalog.
An execution asks each check its query and stores one row for every violation, or one row that
says that the check passed. What the queries answer is an input.
-/

namespace K8sClue.Catalog

open Library

inductive CheckType where
  | sourceCoverage
  | requiredField
  | schemaDrift
  | freshness
  | lineageBreak
  | runConsistency
  deriving DecidableEq

def CheckType.text : CheckType → String
  | .sourceCoverage => "SOURCE_COVERAGE"
  | .requiredField => "REQUIRED_FIELD"
  | .schemaDrift => "SCHEMA_DRIFT"
  | .freshness => "FRESHNESS"
  | .lineageBreak => "LINEAGE_BREAK"
  | .runConsistency => "RUN_CONSISTENCY"

inductive Severity where
  | error
  | warning
  deriving DecidableEq

def CheckType.severity : CheckType → Severity
  | .freshness => .warning
  | _ => .error

inductive Check where
  | sourceCoverage
  | requiredField
  | schemaDrift
  | unversionedChange
  | freshness
  | lineageBreak
  | runConsistency
  | duplicateCandidates
  deriving DecidableEq

namespace Check

def name : Check → String
  | sourceCoverage => "source_coverage"
  | requiredField => "required_field"
  | schemaDrift => "schema_drift"
  | unversionedChange => "unversioned_change"
  | freshness => "freshness"
  | lineageBreak => "lineage_break"
  | runConsistency => "run_consistency"
  | duplicateCandidates => "duplicate_candidates"

def type : Check → CheckType
  | sourceCoverage => .sourceCoverage
  | requiredField => .requiredField
  | schemaDrift => .schemaDrift
  | unversionedChange => .schemaDrift
  | freshness => .freshness
  | lineageBreak => .lineageBreak
  | runConsistency => .runConsistency
  | duplicateCandidates => .runConsistency

def all : List Check :=
  [sourceCoverage, requiredField, schemaDrift, unversionedChange, freshness, lineageBreak,
    runConsistency, duplicateCandidates]

def asksEachRun : Check → Bool
  | requiredField => true
  | schemaDrift => true
  | _ => false

end Check

/-- A value that is not `NULL`: what `str` makes of it, and whether it is true. -/
structure Cell where
  text : String
  truthy : Bool
  deriving DecidableEq

abbrev AnswerRow := List (String × Cell)

def orElse (first second : Option Cell) : Option Cell :=
  if first.any Cell.truthy then first else second

variable (row : AnswerRow)

/-- `row.get("asset_id") or row.get("source_id") or row.get("dag_run_id")`. -/
def AnswerRow.asset : Option Cell :=
  orElse (orElse (row.lookup "asset_id") (row.lookup "source_id")) (row.lookup "dag_run_id")

def strOf (cell : Option Cell) : String := (cell.map Cell.text).getD "None"

/-- `str(row.get("finding") or row.get("drift_type") or check_type)`. -/
def AnswerRow.finding (type : CheckType) : String :=
  let found := orElse (orElse (row.lookup "finding") (row.lookup "drift_type"))
    (some ⟨type.text, true⟩)
  strOf found

def subjectColumns : List String :=
  ["cluster_id", "observed_day", "upstream_asset_id", "downstream_asset_id", "field_path",
    "resource_uid", "schema_version", "detail", "qualified_name"]

def AnswerRow.subjectKey : String :=
  let parts := subjectColumns.filterMap fun column => (row.lookup column).map Cell.text
  if parts.isEmpty then "-" else String.ofList (("/".intercalate parts).toList.take 256)

def AnswerRow.stringify (columns : List String) : Option String :=
  columns.findSome? fun column => (row.lookup column).map Cell.text

def observedColumns : List String :=
  ["observed_type", "observed_value", "staleness_seconds", "detail", "observation_count",
    "run_count", "duplicate_count", "hash_variants", "violation_count"]

def expectedColumns : List String := ["declared_type", "expected_value", "freshness_sla_seconds"]

inductive QualityStatus where
  | passed
  | failed
  deriving DecidableEq

structure QualityResult where
  (resultId dagRunId : String)
  check : Check
  checkType : CheckType
  (assetId subjectKey : String)
  status : QualityStatus
  severity : Severity
  (finding observedValue expectedValue : Option String)
  firstSeenDagRunId : String
  checkedAt : Int
  deriving DecidableEq

structure ResultKey where
  dagRunId : String
  check : Check
  (assetId subjectKey : String)
  deriving DecidableEq

def QualityResult.key (result : QualityResult) : ResultKey where
  dagRunId := result.dagRunId
  check := result.check
  assetId := result.assetId
  subjectKey := result.subjectKey

def ResultKey.text (key : ResultKey) : String :=
  key.dagRunId ++ "/" ++ key.check.name ++ "/" ++ key.assetId ++ "/" ++ key.subjectKey

def QualityResult.updated (known new : QualityResult) : QualityResult :=
  { known with
    status := new.status
    severity := new.severity
    finding := new.finding
    observedValue := new.observedValue
    expectedValue := new.expectedValue
    checkedAt := new.checkedAt }

/-- `_write_result` of a row. A key that is new while its result id is taken breaks the primary
key, which is not the constraint that the statement handles.
-/
def writeResult : List QualityResult → QualityResult → Option (List QualityResult) :=
  Keyed.write QualityResult.key QualityResult.resultId QualityResult.updated

/-- What `_first_seen_map` has for an asset, a subject and a finding: the smallest first run among
the failures that are stored, in the order of texts. The column is never `NULL`.
-/
def firstSeenMap (stored : List QualityResult) (check : Check) (assets : List String)
    (asset subject finding : String)
    : Option String :=
  let alike := stored.filter fun result =>
    result.checkType = check.type && result.check = check && result.status = .failed
      && assets.contains result.assetId
      && result.assetId = asset && result.subjectKey = subject && result.finding = some finding
  (alike.map QualityResult.firstSeenDagRunId).min?

section Executions

/- `uuid.uuid5(uuid.NAMESPACE_URL, ·)`. -/
variable (uuid5 : String → String)

def ResultKey.resultId (key : ResultKey) : String := "qr-" ++ uuid5 key.text

def passedResult (dagRunId : String) (checkedAt : Int) (check : Check) : QualityResult where
  resultId := ResultKey.resultId uuid5 ⟨dagRunId, check, "-", "-"⟩
  dagRunId := dagRunId
  check := check
  checkType := check.type
  assetId := "-"
  subjectKey := "-"
  status := .passed
  severity := check.type.severity
  finding := none
  observedValue := none
  expectedValue := none
  firstSeenDagRunId := dagRunId
  checkedAt := checkedAt

def failedResult (dagRunId : String) (checkedAt : Int) (check : Check)
    (seen : String → String → String → Option String) (row : AnswerRow)
    : QualityResult :=
  let assetId := (row.asset.map Cell.text).getD "-"
  let subjectKey := row.subjectKey
  let finding := row.finding check.type
  -- `first_seen or dag_run_id`
  let firstSeen := (seen (strOf row.asset) subjectKey finding).getD dagRunId
  { resultId := ResultKey.resultId uuid5 ⟨dagRunId, check, assetId, subjectKey⟩
    dagRunId
    check
    checkType := check.type
    assetId
    subjectKey
    status := .failed
    severity := check.type.severity
    finding := some finding
    observedValue := row.stringify observedColumns
    expectedValue := row.stringify expectedColumns
    firstSeenDagRunId := if firstSeen = "" then dagRunId else firstSeen
    checkedAt }

structure CheckExecution where
  dagRunId : String
  checkedAt : Int
  /-- the runs of the DAG run -/
  runIds : List String := []
  /-- the answers of the checks that ask for each run -/
  answerOfRun : Check → String → List AnswerRow := fun _ _ => []
  /-- the answers of the others -/
  answer : Check → List AnswerRow := fun _ => []

variable (execution : CheckExecution)

def CheckExecution.rows (check : Check) : List AnswerRow :=
  if check.asksEachRun then execution.runIds.flatMap (execution.answerOfRun check)
  else execution.answer check

variable (stored : List QualityResult)

def CheckExecution.results
    (check : Check)
    : List QualityResult :=
  let rows := execution.rows check
  if rows.isEmpty then
    [passedResult uuid5 execution.dagRunId execution.checkedAt check]
  else
    let seen := firstSeenMap stored check (rows.map fun row => strOf row.asset)
    rows.map (failedResult uuid5 execution.dagRunId execution.checkedAt check seen)

def CheckExecution.runCheck
    (check : Check)
    : Option (List QualityResult) :=
  (execution.results uuid5 stored check).foldlM writeResult stored

def runChecks (execution : CheckExecution) : Option (List QualityResult) :=
  Check.all.foldlM (execution.runCheck uuid5) stored

def checksMachine : Machine (List QualityResult) CheckExecution CheckExecution where
  step stored execution :=
    match runChecks uuid5 stored execution with
    | none => (stored, [])
    | some next => (next, [execution])

end Executions

end K8sClue.Catalog
