import SharedTables.Proofs.Predicate.HintedForms
import SharedTables.Resolver.Listing

/-! Scans for which the same hint is sent. The fingerprint of such scans is
the same, so they share one batch of links. -/
namespace SharedTables
namespace Resolver

/-- Whether a scan of rows can be the result of listing the files for given parameters. -/
def Lists (r : Resolver) (params : ScanParameters) (scan : ResolvedScan) : Prop :=
  ∃ (check : PlanCheck) (metadata : TableMetadata) (listing : Listing) (actions : List FileAction),
    check.purpose = .rows ∧ check.params = params ∧ r.beginListing check metadata = .ok listing ∧
      listing.outcome (r.place listing.fingerprint) actions = .ok scan

/-- The links of a listed scan are kept under the fingerprint of its parameters. -/
theorem Lists.tableKey {r : Resolver} (lists : r.Lists params scan) :
    ∃ fingerprint, r.listingFingerprint .rows params = .ok fingerprint ∧
      scan.tableKey = (r.place fingerprint).tableKey := by
  obtain ⟨check, metadata, listing, actions, rows, rfl, begun, resolved⟩ := lists
  rw [beginListing, rows] at begun
  cases fingerprinted : r.listingFingerprint .rows check.params with
  | error e => simp [fingerprinted] at begun
  | ok fingerprint =>
    rw [fingerprinted] at begun
    obtain rfl := Except.ok.inj begun
    refine ⟨fingerprint, rfl, ?_⟩
    simp only [Listing.outcome] at resolved
    split at resolved
    · cases resolved
    · cases resolved
      rfl

/-- Scans for which one hint is sent have one canonical text of the conditions
that count for them. With the same limit and version they have one fingerprint,
and their links are kept under one key. -/
theorem same_hint_same_batch {r : Resolver} {params params' : ScanParameters}
    (enabled : r.settings.hints.enabled = true) (same : r.hints params = r.hints params') :
    Predicate.canonicalConjunction (r.fingerprintPredicates params) =
        Predicate.canonicalConjunction (r.fingerprintPredicates params') ∧
      (r.effectiveLimit params = r.effectiveLimit params' → params.version = params'.version →
        r.listingFingerprint .rows params = r.listingFingerprint .rows params' ∧
          ∀ scan scan', r.Lists params scan → r.Lists params' scan' → scan.tableKey = scan'.tableKey) := by
  have counted (params : ScanParameters) : r.fingerprintPredicates params =
      Predicate.carried r.settings.hints params.partition params.data := by
    simp [fingerprintPredicates, Predicate.carried, enabled]
  have texts : Predicate.canonicalConjunction (r.fingerprintPredicates params) =
      Predicate.canonicalConjunction (r.fingerprintPredicates params') := by
    rw [counted, counted]
    exact Predicate.canonicalConjunction_of_same_hint enabled same
  refine ⟨texts, fun limits versions => ?_⟩
  have fingerprints : r.listingFingerprint .rows params = r.listingFingerprint .rows params' := by
    simp only [listingFingerprint, Fingerprint.snapshot, Fingerprint.snapshotText,
      Fingerprint.snapshotFields, texts, limits, versions]
  refine ⟨fingerprints, fun scan scan' lists lists' => ?_⟩
  obtain ⟨fingerprint, known, key⟩ := lists.tableKey
  obtain ⟨fingerprint', known', key'⟩ := lists'.tableKey
  obtain rfl := Except.ok.inj ((known.symm.trans fingerprints).trans known')
  rw [key, key']

/-- Two conditions may be joined in one partition predicate, or split between
the two sides next to a condition that cannot be sent. -/
theorem split_conditions_same_batch :
    let settings : ResolverSettings := ⟨⟨true, true⟩, true, true, .exact, .lazy, "tables"⟩
    let r := Resolver.new settings "profile#share.schema.orders" "" none
    let paid := Predicate.column "paid" "boolean"
    let late := Predicate.column "late" "bool"
    let joined : ScanParameters := ⟨[.join .and paid late], [], none, none, false⟩
    let split : ScanParameters := ⟨[paid], [.unsupported "udf", late], none, none, false⟩
    r.settings.hints.enabled = true ∧ r.hints joined = r.hints split ∧
      r.listingFingerprint .rows joined = r.listingFingerprint .rows split := by
  intro settings r paid late joined split
  have same : r.hints joined = r.hints split := by decide +kernel
  exact ⟨rfl, same, ((@same_hint_same_batch _ joined split rfl same).2 rfl rfl).1⟩

end Resolver
end SharedTables
