import K8sClue.Library.Keyed
import K8sClue.Library.Results
import K8sClue.Library.Runs
import Mathlib.Data.List.Sort

/-! The raw archive of the data catalog.
Every collection of a logical date writes the payloads of its sources to files, once for each
date and source, and a row with their hash for each run. Later steps of the run read the payloads
back through those rows.
-/

namespace K8sClue.Catalog

open Library

inductive CollectionStatus where
  | success
  | noData
  | truncated
  | failed
  deriving DecidableEq

def CollectionStatus.healthy : CollectionStatus → Bool
  | .success => true
  | .noData => true
  | _ => false

section Model

/- `δ` are the days and `π` the payloads of a source, which are JSON objects: a file gives them
back as they were written. A run of a date and a source, and the file of a date and a source, are
told by the two; their texts join them. -/
variable {δ π : Type} [LinearOrder δ]

structure ExtractOutcome (δ π : Type) where
  sourceId : String
  status : CollectionStatus
  payloads : List π := []
  s3Uri : Option (δ × String) := none
  contentHash : Option String := none
  deriving DecidableEq

def ExtractOutcome.ok (outcome : ExtractOutcome δ π) : Bool := outcome.status.healthy

structure ArchivedFile (δ π : Type) where
  path : δ × String
  payloads : List π
  deriving DecidableEq

structure CollectionRun (δ : Type) where
  logicalDate : δ
  sourceId : String
  status : CollectionStatus
  attempt : Nat
  finishedAt : Int
  deriving DecidableEq

def CollectionRun.runId (run : CollectionRun δ) : δ × String := (run.logicalDate, run.sourceId)

structure RawSnapshot (δ : Type) where
  (runId s3Uri : δ × String)
  contentHash : String
  createdAt : Int
  deriving DecidableEq

def RawSnapshot.key (row : RawSnapshot δ) : (δ × String) × String := (row.runId, row.contentHash)

variable (digest : List π → String)

/-- `extract_source`, of a source that answers `fetched`. -/
def extractSource (files : List (ArchivedFile δ π)) (sourceId : String) (logicalDate today : δ)
    (fetched : List π) (failSources : List String)
    : ExtractOutcome δ π :=
  if failSources.contains sourceId then
    { sourceId, status := .failed }
  else
    let replayed :=
      if logicalDate < today then Keyed.find ArchivedFile.path files (logicalDate, sourceId)
      else none
    match replayed with
    | some file =>
      { sourceId
        status := if file.payloads.isEmpty then .noData else .success
        payloads := file.payloads
        s3Uri := some file.path
        contentHash := some (digest file.payloads) }
    | none =>
      { sourceId, status := if fetched.isEmpty then .noData else .success, payloads := fetched }

def upsertCollectionRuns (runs : List (CollectionRun δ)) (logicalDate : δ) (finishedAt : Int)
    (outcomes : List (ExtractOutcome δ π))
    : List (CollectionRun δ) :=
  Keyed.putAll CollectionRun.runId (fun old new =>
      { old with status := new.status, attempt := old.attempt + 1, finishedAt := new.finishedAt })
    runs
    (outcomes.map fun outcome =>
      { logicalDate
        sourceId := outcome.sourceId
        status := outcome.status
        attempt := 1
        finishedAt })

variable (outcome : ExtractOutcome δ π)

def ExtractOutcome.archivable : Bool :=
  outcome.ok && !outcome.payloads.isEmpty

def ExtractOutcome.hash : String :=
  (outcome.contentHash.filter (· ≠ "")).getD (digest outcome.payloads)

structure Archive (δ π : Type) where
  files : List (ArchivedFile δ π) := []
  snapshots : List (RawSnapshot δ) := []

def ExtractOutcome.file (logicalDate : δ) : ArchivedFile δ π where
  path := (logicalDate, outcome.sourceId)
  payloads := outcome.payloads

def ExtractOutcome.snapshot (logicalDate : δ) (createdAt : Int) : RawSnapshot δ where
  runId := (logicalDate, outcome.sourceId)
  s3Uri := (logicalDate, outcome.sourceId)
  contentHash := outcome.hash digest
  createdAt := createdAt

/-- The body of the loop of `archive_raw_snapshot`: a file that exists is not written again, and a
row is not inserted again.
-/
def archiveOutcome (logicalDate : δ) (createdAt : Int) (archive : Archive δ π)
    (outcome : ExtractOutcome δ π)
    : Archive δ π :=
  if outcome.archivable then
    { files := Keyed.put ArchivedFile.path (fun known _ => known) archive.files
        (outcome.file logicalDate)
      snapshots := Keyed.put RawSnapshot.key (fun known _ => known) archive.snapshots
        (outcome.snapshot digest logicalDate createdAt) }
  else
    archive

def archiveRawSnapshot (logicalDate : δ) (createdAt : Int) (archive : Archive δ π)
    (outcomes : List (ExtractOutcome δ π))
    : Archive δ π :=
  outcomes.foldl (archiveOutcome digest logicalDate createdAt) archive

def newest : List (RawSnapshot δ) → Option (RawSnapshot δ)
  | [] => none
  | row :: rest =>
    match newest rest with
    | none => some row
    | some other => if row.createdAt < other.createdAt then some other else some row

structure CatalogState (δ π : Type) where
  archive : Archive δ π := {}
  runs : List (CollectionRun δ) := []
  /-- the successful extracts of committed collections, oldest first -/
  extracts : List ((δ × String) × List π) := []

variable (state : CatalogState δ π)

def loadRun (run : CollectionRun δ) : Option (ExtractOutcome δ π) :=
  match newest (state.archive.snapshots.filter (·.runId = run.runId)) with
  | none => some { sourceId := run.sourceId, status := run.status }
  | some row =>
    (Keyed.find ArchivedFile.path state.archive.files row.s3Uri).map fun file =>
      { sourceId := run.sourceId
        status := run.status
        payloads := file.payloads
        s3Uri := some row.s3Uri
        contentHash := some row.contentHash }

def CatalogState.runsOf (logicalDate : δ) : List (CollectionRun δ) :=
  (state.runs.filter (·.logicalDate = logicalDate)).insertionSort
    (fun left right => left.sourceId ≤ right.sourceId)

def loadArchivedOutcomes (logicalDate : δ) : Option (List (ExtractOutcome δ π)) :=
  (state.runsOf logicalDate).mapM (loadRun state)

/-- One collection: all sources are extracted, and one transaction records and archives them. A
transaction that fails after some outcomes leaves the files that it has written.
-/
structure Collection (δ π : Type) where
  (logicalDate today : δ)
  sources : List String
  fetched : String → List π
  failSources : List String := []
  time : Int
  failsAfter : Option Nat := none

variable (collection : Collection δ π)

def Collection.outcomes (state : CatalogState δ π) : List (ExtractOutcome δ π) :=
  collection.sources.map fun sourceId =>
    extractSource digest state.archive.files sourceId collection.logicalDate collection.today
      (collection.fetched sourceId) collection.failSources

def collect : CatalogState δ π :=
  let outcomes := collection.outcomes digest state
  let archived := archiveRawSnapshot digest collection.logicalDate collection.time state.archive
  match collection.failsAfter with
  | some count =>
    { state with archive :=
        { state.archive with files := (archived (outcomes.take count)).files } }
  | none =>
    { archive := archived outcomes
      runs := upsertCollectionRuns state.runs collection.logicalDate collection.time outcomes
      extracts := state.extracts ++
        (outcomes.filter (·.status = .success)).map fun outcome =>
          ((collection.logicalDate, outcome.sourceId), outcome.payloads) }

def catalogMachine : Machine (CatalogState δ π) (Collection δ π) Unit where
  step state collection := (collect digest state collection, [])

def CatalogState.latestExtract (state : CatalogState δ π) (runId : δ × String) : Option (List π) :=
  ((state.extracts.filter (·.1 = runId)).getLast?).map Prod.snd

end Model

end K8sClue.Catalog
