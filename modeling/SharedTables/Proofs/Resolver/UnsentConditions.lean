import SharedTables.Proofs.Resolver.SharedHints
import SharedTables.Proofs.Scan.Fingerprint

/-! Conditions that are not sent. A condition on data columns counts for the
fingerprint of a scan only when it may be sent. One on partition columns always
counts, so where no hints are sent, scans with one listing request can still be
kept apart by such a condition. -/
namespace SharedTables

namespace Fingerprint

variable {ps qs : List Predicate} {limit : Option Int} {version : Option Version}

/-- For one limit and version, the conditions decide the text that is digested. -/
theorem snapshotText_inj_iff (text : snapshotText ps limit version = .ok s)
    (text' : snapshotText qs limit version = .ok t) :
    s = t ↔ Predicate.canonicalConjunction ps = Predicate.canonicalConjunction qs := by
  unfold snapshotText at text text'
  split at text
  · cases text
  · rename_i point
    cases keyed : Version.key version with
    | error e =>
      rw [keyed] at text
      cases text
    | ok key =>
      simp only [point, keyed] at text text'
      cases text
      cases text'
      constructor
      · intro same
        obtain ⟨-, afterMode⟩ := fieldsText_cons_inj same
        exact (fieldsText_cons_inj afterMode).1
      · intro same
        rw [snapshotFields, snapshotFields, same]

end Fingerprint

namespace Resolver

variable {r : Resolver} {params params' : ScanParameters}

/-- The text that is digested for a scan of rows. -/
def listingText (r : Resolver) (params : ScanParameters) : Except Fingerprint.Error String :=
  Fingerprint.snapshotText (r.fingerprintPredicates params) (r.effectiveLimit params) params.version

theorem listingFingerprint_eq_digest (r : Resolver) (params : ScanParameters) :
    r.listingFingerprint .rows params = (r.listingText params).map Fingerprint.digest := rfl

/-- A scan of one point in time has a fingerprint. -/
theorem listingText_of_point (r : Resolver) (params : ScanParameters) (point : Fingerprint.IsPoint params.version) :
    ∃ text, r.listingText params = .ok text := by
  obtain ⟨fields, text, -⟩ := Fingerprint.Request.text_of_valid
    (a := .snapshot (r.fingerprintPredicates params) (r.effectiveLimit params) params.version) point
  exact ⟨_, text⟩

/-- Conditions on data columns that may not be sent do not count. -/
theorem fingerprintPredicates_unsent (unsent : (r.settings.hints.enabled && r.settings.hints.dataColumns) = false) :
    r.fingerprintPredicates params = params.partition := by
  simp [fingerprintPredicates, unsent]

/-- Such conditions change neither the hint nor the text that is digested. -/
theorem unsent_data_is_ignored (params : ScanParameters)
    (unsent : (r.settings.hints.enabled && r.settings.hints.dataColumns) = false) (data : List Predicate) :
    r.hints { params with data } = r.hints params ∧
      r.listingText { params with data } = r.listingText params := by
  constructor
  · cases enabled : r.settings.hints.enabled with
    | false => simp [hints, Predicate.hints?, Predicate.hintForm?, enabled]
    | true =>
      have partitionOnly : r.settings.hints.dataColumns = false := by simpa [enabled] using unsent
      simp [hints, Predicate.hints?, Predicate.hintForm?, partitionOnly]
  · simp only [listingText, fingerprintPredicates_unsent unsent, effectiveLimit]

/-- For scans with the same hints, the conditions that count have one text if
hints are sent at all, or else if those on partition columns do. -/
theorem conditions_agree_iff (same : r.hints params = r.hints params') :
    Predicate.canonicalConjunction (r.fingerprintPredicates params) =
        Predicate.canonicalConjunction (r.fingerprintPredicates params') ↔
      r.settings.hints.enabled = true ∨
        Predicate.canonicalConjunction params.partition = Predicate.canonicalConjunction params'.partition := by
  cases enabled : r.settings.hints.enabled with
  | true =>
    have counted (params : ScanParameters) : r.fingerprintPredicates params =
        Predicate.carried r.settings.hints params.partition params.data := by
      simp [fingerprintPredicates, Predicate.carried, enabled]
    rw [counted, counted]
    simpa using Predicate.canonicalConjunction_of_same_hint enabled same
  | false =>
    have unsent : (r.settings.hints.enabled && r.settings.hints.dataColumns) = false := by simp [enabled]
    simp [fingerprintPredicates_unsent unsent]

/-- Scans for which the same request is sent are kept under one key exactly if
hints are sent at all or the conditions on partition columns have one canonical
text, unless two different texts have one digest. So without hints these
conditions split the cache, while those on data columns never do unless sent. -/
theorem same_request_same_batch_iff {r : Resolver} {params params' : ScanParameters}
    (point : Fingerprint.IsPoint params.version) (hints : r.hints params = r.hints params')
    (limits : r.effectiveLimit params = r.effectiveLimit params') (versions : params.version = params'.version) :
    ∃ s t, r.listingText params = .ok s ∧ r.listingText params' = .ok t ∧
      r.listingFingerprint .rows params = .ok (Fingerprint.digest s) ∧
      r.listingFingerprint .rows params' = .ok (Fingerprint.digest t) ∧
      (s = t ↔ r.settings.hints.enabled = true ∨
        Predicate.canonicalConjunction params.partition = Predicate.canonicalConjunction params'.partition) ∧
      (∀ scan scan', r.Lists params scan → r.Lists params' scan' →
        (s = t → scan.tableKey = scan'.tableKey) ∧
          ((Fingerprint.digest s = Fingerprint.digest t → s = t) → scan.tableKey = scan'.tableKey → s = t)) ∧
      ((r.settings.hints.enabled && r.settings.hints.dataColumns) = false → ∀ data,
        r.hints { params with data } = r.hints params ∧
          r.listingFingerprint .rows { params with data } = r.listingFingerprint .rows params) := by
  obtain ⟨s, text⟩ := r.listingText_of_point params point
  obtain ⟨t, text'⟩ := r.listingText_of_point params' (versions ▸ point)
  have fingerprint : r.listingFingerprint .rows params = .ok (Fingerprint.digest s) := by
    rw [listingFingerprint_eq_digest, text]
    rfl
  have fingerprint' : r.listingFingerprint .rows params' = .ok (Fingerprint.digest t) := by
    rw [listingFingerprint_eq_digest, text']
    rfl
  have texts : s = t ↔ Predicate.canonicalConjunction (r.fingerprintPredicates params) =
      Predicate.canonicalConjunction (r.fingerprintPredicates params') := by
    refine Fingerprint.snapshotText_inj_iff text ?_
    rw [limits, versions]
    exact text'
  refine ⟨s, t, text, text', fingerprint, fingerprint', texts.trans (conditions_agree_iff hints), ?_, ?_⟩
  · intro scan scan' lists lists'
    obtain ⟨_, known, key⟩ := lists.tableKey
    obtain ⟨_, known', key'⟩ := lists'.tableKey
    cases known.symm.trans fingerprint
    cases known'.symm.trans fingerprint'
    rw [key, key']
    refine ⟨fun same => same ▸ rfl, fun noCollision sameKey => ?_⟩
    exact noCollision (Fingerprint.locationWithFingerprint_inj sameKey).2
  · intro unsent data
    obtain ⟨sameHints, sameText⟩ := unsent_data_is_ignored params unsent data
    rw [listingFingerprint_eq_digest, listingFingerprint_eq_digest, sameText]
    exact ⟨sameHints, rfl⟩

/-- Conditions on data columns are not sent, so a scan with one shares the batch
of a scan without. -/
theorem unsent_data_condition_shares_batch :
    let settings : ResolverSettings := ⟨⟨true, false⟩, true, true, .exact, .lazy, "share"⟩
    let r := Resolver.new settings "orders" "" none
    let paid := Predicate.column "paid" "boolean"
    let late := Predicate.column "late" "boolean"
    let params : ScanParameters := ⟨[paid], [late], some 5, none, false⟩
    let params' : ScanParameters := ⟨[paid], [], some 5, none, false⟩
    r.hints params = r.hints params' ∧
      ∀ scan scan', r.Lists params scan → r.Lists params' scan' → scan.tableKey = scan'.tableKey := by
  intro settings r paid late params params'
  have hints : r.hints params = r.hints params' := rfl
  obtain ⟨s, t, -, -, -, -, agree, keys, -⟩ :=
    @same_request_same_batch_iff r params params' trivial hints rfl rfl
  exact ⟨hints, fun scan scan' lists lists' => (keys scan scan' lists lists').1 (agree.mpr (Or.inl rfl))⟩

/-- No hints are sent, and yet a scan with a condition on a partition column is
kept apart from a scan without, although both send one request. -/
theorem unsent_partition_condition_splits_batches :
    let settings : ResolverSettings := ⟨⟨false, false⟩, true, true, .exact, .lazy, "share"⟩
    let r := Resolver.new settings "orders" "" none
    let table : TableReference := ⟨"share", "schema", "orders"⟩
    let params : ScanParameters := ⟨[], [], none, none, false⟩
    let params' : ScanParameters := ⟨[.column "paid" "boolean"], [], none, none, false⟩
    r.listingRequest .rows table params = r.listingRequest .rows table params' ∧
      ∃ scan scan', r.Lists params scan ∧ r.Lists params' scan' ∧ scan.tableKey ≠ scan'.tableKey := by
  intro settings r table params params'
  have lists (params : ScanParameters) (point : Fingerprint.IsPoint params.version) :
      ∃ text scan, r.listingFingerprint .rows params = .ok (Fingerprint.digest text) ∧ r.Lists params scan ∧
        scan.tableKey = (r.place (Fingerprint.digest text)).tableKey := by
    obtain ⟨text, known⟩ := r.listingText_of_point params point
    have fingerprint : r.listingFingerprint .rows params = .ok (Fingerprint.digest text) := by
      rw [listingFingerprint_eq_digest, known]
      rfl
    let listing : Listing := ⟨.rows, r.listingRequest .rows table params, Fingerprint.digest text, ⟨"", []⟩⟩
    refine ⟨text, _, fingerprint, ⟨⟨.rows, table, params, "", none⟩, ⟨"", []⟩, listing, [], rfl, rfl, ?_, rfl⟩, rfl⟩
    simp only [beginListing, fingerprint]
    rfl
  obtain ⟨s, scan, fingerprint, listed, key⟩ := lists params trivial
  obtain ⟨t, scan', fingerprint', listed', key'⟩ := lists params' trivial
  have differ : r.listingFingerprint .rows params ≠ r.listingFingerprint .rows params' := by decide +kernel
  refine ⟨rfl, scan, scan', listed, listed', fun same => differ ?_⟩
  rw [key, key'] at same
  rw [fingerprint, fingerprint', (Fingerprint.locationWithFingerprint_inj same).2]

end Resolver
end SharedTables
