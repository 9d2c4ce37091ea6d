import SharedTables.Proofs.Cache.Holders

/-! Reads of files that are in their batch. Whatever the cache holds, such a
read keeps to its file, and it only fails where the file is signed or the read
waits for that. -/
namespace SharedTables.Cache

/-- How signing a file, or waiting until it is signed, can fail. -/
inductive SigningFailure (key : EntryKey) : CredentialError → Prop
  | timedOut (limit : Seconds) : SigningFailure key (.timedOut limit key.tableKey)
  | refreshFailed (reason : String) : SigningFailure key (.refreshFailed key.tableKey reason)
  | notSigned : SigningFailure key (.notSignedInBatch key.fileId key.tableKey)
  | noIssuer : SigningFailure key (.noIssuerForBatch key.tableKey)

/-- How far a read of a file that is in its batch can have come. A fault that
is no failure to sign is a clock's or a service's own. -/
inductive ReadOf (key : EntryKey) (clock service : Fault → Prop) : ReadProgress → Prop
  | link (link : Link) : ReadOf key clock service (.done (.ok link))
  | failed (failure : SigningFailure key e) : ReadOf key clock service (.done (.error (.credential e)))
  | clock (failed : clock fault) : ReadOf key clock service (.done (.error fault))
  | service (failed : service fault) : ReadOf key clock service (.done (.error fault))
  | waits (limit : Seconds) (l : Lookup) (same : l.key = key) : ReadOf key clock service (.wait limit l)
  | signs (issuer : Issuer) (refresh : Refresh) (same : refresh.key = key) :
      ReadOf key clock service (.sign issuer refresh)

variable {c : Cache} {m : Moment} {l : Lookup} {clock service : Fault → Prop}

theorem afterRefresh_readOf (key : EntryKey) (batch : Batch) :
    ReadOf key clock service (.done (c.afterRefresh key batch).2) := by
  unfold afterRefresh
  split
  · exact .failed (.refreshFailed _)
  · exact .failed .notSigned
  · exact .link _

theorem lookInBatch_readOf (batch : Batch) (listed : l.key.fileId ∈ batch.fileIds) :
    ReadOf l.key clock service (c.lookInBatch m l batch).2 := by
  simp only [lookInBatch, listed, not_true_eq_false, ↓reduceIte]
  split
  · exact afterRefresh_readOf l.key batch
  · split
    · unfold awaitRefresh
      dsimp only
      split
      · exact .failed (.timedOut _)
      · exact .waits _ _ rfl
    · unfold refreshBatch
      cases c.issuerFor batch with
      | some issuer => exact .signs _ _ rfl
      | none => exact .failed .noIssuer

/-- A stretch of a read of a file that is in its batch. -/
theorem look_readOf (listed : l.key.fileId ∈ c.files l.key.tableKey)
    (clocks : ∀ fault, m.epoch = .error fault → clock fault) : ReadOf l.key clock service (c.look m l).2 := by
  obtain ⟨batch, registered, listed⟩ := get?_of_mem_files listed
  unfold look
  cases found : c.freshLink? m l.key with
  | error fault =>
    unfold freshLink? at found
    split at found
    · cases found
    · split at found
      · rename_i fault' failed
        cases found
        exact .clock (clocks _ failed)
      · cases found
  | ok fresh =>
    cases fresh with
    | some link => exact .link link
    | none =>
      simp only [registered]
      exact lookInBatch_readOf batch listed

/-- The end of a refresh. -/
theorem finishRefresh_readOf (r : Refresh) (answer : Signature)
    (clocks : ∀ fault, m.epoch = .error fault → clock fault) (services : ∀ fault, answer = .error fault → service fault) :
    ReadOf r.key clock service (.done (c.finishRefresh m r answer).2) := by
  cases answer with
  | error fault =>
    simp only [finishRefresh, refreshFailed]
    cases fault with
    | credential e => exact .service (services _ rfl)
    | other name message => exact .failed (.refreshFailed message)
  | ok links =>
    simp only [finishRefresh, refreshed]
    split
    · rename_i stored
      exact .clock (clocks _ (store_fault (congrArg Prod.snd stored)))
    · dsimp only
      split
      · exact .link _
      · exact .failed .notSigned

end SharedTables.Cache
