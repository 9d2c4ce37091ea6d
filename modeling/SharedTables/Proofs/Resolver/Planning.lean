import SharedTables.Resolver.Scanning

/-! What a resolver asks of a server before it knows the files of a scan. Up to
then it changes nothing but its memory of plans, and what it asks for follows
from its settings and from what it was asked for itself. -/
namespace SharedTables.Resolver

variable {r r' : Resolver} {purpose : ScanPurpose} {table : TableReference} {params : ScanParameters}

/-- Whether two states of a resolver differ in its memory of plans and tables only. -/
structure Alike (r r' : Resolver) : Prop where
  settings : r'.settings = r.settings
  registered : r'.registered = r.registered

theorem Alike.refl (r : Resolver) : r.Alike r := ⟨rfl, rfl⟩

/-- Whether two states of a resolver differ in its memory of plans only. -/
def Planned (r r' : Resolver) : Prop := ∃ planned, r' = { r with planned }

theorem Planned.refl (r : Resolver) : r.Planned r := ⟨r.planned, rfl⟩

theorem Planned.alike (same : r.Planned r') : r.Alike r' := by
  obtain ⟨planned, rfl⟩ := same
  exact ⟨rfl, rfl⟩

theorem plan_planned (r : Resolver) (version : Option Version) (answer : Except Fault TableMetadata) :
    r.Planned (r.plan version answer).1 := by
  unfold plan rememberPlan
  cases answer with
  | error fault => exact .refl r
  | ok metadata => cases Version.key version <;> exact ⟨_, rfl⟩

theorem finishCheck_planned (r : Resolver) (check : PlanCheck) (answer : Except Fault TableMetadata) :
    r.Planned (r.finishCheck check answer).1 := by
  unfold finishCheck
  cases check.planned with
  | none => exact plan_planned ..
  | some planned =>
    cases answer with
    | error fault => exact .refl r
    | ok live =>
      dsimp only
      split <;> exact .refl r

/-- The limit that applies to a scan; without one all files count. -/
def limitFor (r : Resolver) (params : ScanParameters) : ScanPurpose → Option Int
  | .rows => r.effectiveLimit params
  | .inputs => none

theorem listingRequest_limit : (r.listingRequest purpose table params).limit = r.limitFor params purpose := by
  cases purpose <;> rfl

/-- Whether a listing of one version is what a resolver asks for. -/
structure AsksFiles (r : Resolver) (purpose : ScanPurpose) (table : TableReference) (params : ScanParameters)
    (listing : Listing) : Prop where
  sought : listing.purpose = purpose
  request : listing.request = r.listingRequest purpose table params
  fingerprint : r.listingFingerprint purpose params = .ok listing.fingerprint

/-- Whether a listing of changes is what a resolver asks for. -/
structure AsksChanges (r : Resolver) (purpose : ScanPurpose) (table : TableReference) (params : ScanParameters)
    (listing : ChangeListing) : Prop where
  named : listing.table = table
  range : params.version = some (.range listing.start listing.last)
  fingerprint : Fingerprint.range listing.start listing.last = .ok listing.fingerprint
  limit : listing.limit = r.limitFor params purpose

/-- How a scan can begin. -/
inductive Begins (r : Resolver) (purpose : ScanPurpose) (table : TableReference) (params : ScanParameters) :
    ScanProgress → Prop
  | fails (e : ScanError) : Begins r purpose table params (.done (.error e))
  | checks (key : String) (planned : Option TableMetadata) :
      Begins r purpose table params (.metadata { purpose, table, params, key, planned })
  | changes (listing : ChangeListing) (asks : r.AsksChanges purpose table params listing) :
      Begins r purpose table params (.changes listing)

theorem begin_begins (r : Resolver) (purpose : ScanPurpose) (table : TableReference) (params : ScanParameters) :
    r.Begins purpose table params (r.begin purpose table params) := by
  unfold begin
  split
  · rename_i start last changes range
    simp only [beginChanges]
    cases fingerprinted : Fingerprint.range start last with
    | error e => exact .fails _
    | ok fingerprint => exact .changes _ ⟨rfl, range, fingerprinted, by cases purpose <;> rfl⟩
  · simp only [beginCheck]
    cases Version.key params.version with
    | error e => exact .fails _
    | ok key => exact .checks key _

/-- How a scan can go on after its metadata have been answered. -/
inductive Checks (r : Resolver) (check : PlanCheck) : Resolver × ScanProgress → Prop
  | fails (r' : Resolver) (planned : r.Planned r') (e : ScanError) : Checks r check (r', .done (.error e))
  | files (r' : Resolver) (planned : r.Planned r') (listing : Listing)
      (asks : r.AsksFiles check.purpose check.table check.params listing) : Checks r check (r', .files listing)

theorem checked_checks (r : Resolver) (check : PlanCheck) (answer : Except Fault TableMetadata) :
    r.Checks check (r.checked check answer) := by
  have same := finishCheck_planned r check answer
  unfold checked
  generalize r.finishCheck check answer = finished at same
  obtain ⟨r', e | metadata⟩ := finished
  · exact .fails r' same e
  · obtain ⟨planned, rfl⟩ := same
    simp only [beginListing]
    cases fingerprinted : Resolver.listingFingerprint { r with planned } check.purpose check.params with
    | error e => exact .fails _ ⟨planned, rfl⟩ _
    | ok fingerprint => exact .files _ ⟨planned, rfl⟩ _ ⟨rfl, rfl, fingerprinted⟩

end SharedTables.Resolver
