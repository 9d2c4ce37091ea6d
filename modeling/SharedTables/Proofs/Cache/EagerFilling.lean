import Mathlib.Data.List.Perm.Subperm
import SharedTables.Proofs.Cache.Filling
import SharedTables.Proofs.Cache.Leftovers
import SharedTables.Proofs.Cache.Takeover
import SharedTables.Proofs.Cache.Turnover
import SharedTables.Proofs.Scan.Directories

/-! The filling of the batch of an eager scan from its beginning to its end. One
sign call is made for the files that have no link, and none if there are none.
Fresh links stay, the others come from the listing or from the service, and a
filling that fails leaves the cache alone. The clock of expirations is taken to
say what time it is. -/
namespace SharedTables.Cache

/-- A call by which a service is asked to sign files of a table. -/
structure SignRequest where
  issuer : Issuer
  table : TableReference
  fileIds : List String
  deriving DecidableEq

/-- What a filling has done when it is over. -/
structure FillOutcome where
  requests : List SignRequest
  /-- The cache as the last stretch of the filling found it. -/
  found : Cache
  left : Cache
  result : Except Fault Unit

variable {c : Cache} {m m' : Moment} {tableKey fileId : String} {table : TableReference} {actions : List FileAction}
  {issuer : Option Issuer} {fresh links : Links} {link : Link} {now : Int}

/-- Fills the batch of an eager scan. If a service is asked, other callers go on
with the cache until it answers. -/
def fillEagerly (c : Cache) (m : Moment) (tableKey : String) (table : TableReference) (actions : List FileAction)
    (issuer : Option Issuer) (meanwhile : Cache → Cache) (m' : Moment) (answer : Signature) : FillOutcome :=
  match c.populate m .eager tableKey table actions issuer with
  | (left, .done result) => ⟨[], c, left, result⟩
  | (asking, .sign service filling) =>
    let found := meanwhile asking
    let (left, result) := found.populated m' service filling answer
    ⟨[⟨service, filling.table, filling.unsigned⟩], found, left, result⟩

/-- Whether a list names those of some texts that satisfy a condition, in the
order in which they occur first. -/
structure FirstCome (texts : List String) (wanted : String → Prop) (named : List String) : Prop where
  members : ∀ s, s ∈ named ↔ s ∈ texts ∧ wanted s
  /-- No text occurs before itself, so each is named once. -/
  in_order : named.Pairwise fun s s' => texts.idxOf s < texts.idxOf s'

/-- Whether neither the cache nor the listing has a link for a file that can be used. -/
def Lacks (c : Cache) (now : Int) (tableKey : String) (actions : List FileAction) (fileId : String) : Prop :=
  ¬ c.HasFresh ⟨tableKey, fileId⟩ now ∧ ∀ action ∈ actions, action.id = fileId → action.link? = none

/-- Whether a link came with the last action of a file that has one. -/
def LastListed (actions : List FileAction) (fileId : String) (link : Link) : Prop :=
  ∃ before action after, actions = before ++ action :: after ∧ action.id = fileId ∧ action.link? = some link ∧
    ∀ later ∈ after, later.id = fileId → later.link? = none

/-- Whether the cache can hold the links that it has and one for each of some files. -/
def Fits (c : Cache) (tableKey : String) (fileIds : List String) : Prop :=
  (c.entries.keys ++ fileIds.map (EntryKey.mk tableKey)).eraseDups.length ≤ c.settings.maxEntries

/-- Texts without repeats of which some are left out. -/
theorem firstCome_filter {texts : List String} {keep : String → Bool} {wanted : String → Prop}
    (means : ∀ s ∈ texts, keep s = true ↔ wanted s) : FirstCome texts wanted (texts.eraseDups.filter keep) where
  members s := by
    simp only [List.mem_filter, List.mem_eraseDups]
    exact and_congr_right (means s)
  in_order := by
    refine ((PartitionDirectory.eraseDups_firstCome texts).imp_of_mem ?_).filter keep
    rintro x y first second ⟨n, front, absent⟩
    rw [List.mem_eraseDups] at first second
    rw [List.mem_take_iff_idxOf_lt first] at front
    rw [List.mem_take_iff_idxOf_lt second] at absent
    omega

namespace Filling

theorem mem_missing : fileId ∈ (actions.map (·.id)).eraseDups.filter (fun id => !fresh.contains id) ↔
    fileId ∈ actions.map (·.id) ∧ fresh.contains fileId = false := by
  simp [List.mem_eraseDups]

theorem contains_ofListing : (ofListing fresh tableKey table actions).listed.contains fileId = true ↔
    (fileId ∈ actions.map (·.id) ∧ fresh.contains fileId = false) ∧
      ∃ listed ∈ actions, listed.id = fileId ∧ listed.link? ≠ none := by
  rw [← mem_missing, ← List.contains_iff_mem]
  exact contains_listed

/-- A file that came with a link and has no fresh one gets the link of its last such action. -/
theorem ofListing_listed (unknown : fresh.contains fileId = false) (last : LastListed actions fileId link) :
    (ofListing fresh tableKey table actions).listed.get? fileId = some link := by
  obtain ⟨before, action, after, rfl, rfl, given, unlinked⟩ := last
  have lacking : ((before ++ action :: after).map (·.id)).eraseDups.filter (fun id => !fresh.contains id)
      |>.contains action.id := by
    rw [List.contains_iff_mem, mem_missing]
    exact ⟨by simp, unknown⟩
  simp only [ofListing, OrderedMap.get?_ofList, List.filterMap_append, List.filterMap_cons, lacking, ↓reduceIte, given,
    Option.map_some, List.reverse_append, List.reverse_cons, List.lookup_append]
  -- No later action of the file has a link, so that of this one is found first.
  have silent {pairs : List (String × Link)} (later : ∀ p ∈ pairs, ∃ a ∈ after, p.1 = a.id ∧ a.link? = some p.2) :
      pairs.reverse.lookup action.id = none := by
    refine List.lookup_eq_none_iff.mpr fun p member => ?_
    obtain ⟨a, listed, same, linked⟩ := later p (List.mem_reverse.mp member)
    have differ : action.id ≠ p.1 := fun own => by
      cases (unlinked a listed (same ▸ own.symm)).symm.trans linked
    simpa using differ
  rw [silent]
  · simp
  · intro p member
    obtain ⟨a, listed, kept⟩ := List.mem_filterMap.mp member
    obtain ⟨-, link', linked, rfl⟩ : _ ∧ ∃ link', a.link? = some link' ∧ (a.id, link') = p := by
      simpa [Option.map_eq_some_iff] using kept
    exact ⟨a, listed, rfl, linked⟩

end Filling

/-- Whether a filling is what a listing brings to the fresh links of a batch. -/
def Prepares (c : Cache) (m : Moment) (tableKey : String) (table : TableReference) (actions : List FileAction)
    (filling : Filling) : Prop :=
  ∃ fresh, c.freshLinks m tableKey (actions.map (·.id)) = .ok fresh ∧
    filling = .ofListing fresh tableKey table actions

namespace Prepares

variable {filling : Filling} (prepares : c.Prepares m tableKey table actions filling)

include prepares

/-- The links that are known to be fresh are those of the listed files that are. -/
theorem knows (clock : m.epoch = .ok now) : ∃ fresh, filling = .ofListing fresh tableKey table actions ∧
    ∀ fileId ∈ actions.map (·.id), fresh.contains fileId = true ↔ c.HasFresh ⟨tableKey, fileId⟩ now := by
  obtain ⟨fresh, known, named⟩ := prepares
  obtain ⟨now', clock', found⟩ := mem_freshLinks known
  cases clock.symm.trans clock'
  exact ⟨fresh, named, found⟩

/-- The files that are left to be signed are those for which there is no link. -/
theorem unsigned_firstCome (clock : m.epoch = .ok now) :
    FirstCome (actions.map (·.id)) (c.Lacks now tableKey actions) filling.unsigned := by
  obtain ⟨fresh, rfl, known⟩ := prepares.knows clock
  have unsigned : (Filling.ofListing fresh tableKey table actions).unsigned = (actions.map (·.id)).eraseDups.filter
      fun fileId => !(Filling.ofListing fresh tableKey table actions).listed.contains fileId &&
        !fresh.contains fileId := List.filter_filter
  rw [unsigned]
  refine firstCome_filter fun fileId listed => ?_
  simp only [Bool.and_eq_true, Bool.not_eq_true', Lacks, ← known fileId listed]
  rw [← Bool.not_eq_true, Filling.contains_ofListing, ← Bool.not_eq_true]
  simp only [listed, true_and]
  grind

/-- Links of the listing are wanted for files of the listing without a fresh one. -/
theorem mem_listed (clock : m.epoch = .ok now) (wanted : fileId ∈ filling.listed.keys) :
    fileId ∈ actions.map (·.id) ∧ ¬ c.HasFresh ⟨tableKey, fileId⟩ now := by
  obtain ⟨fresh, rfl, known⟩ := prepares.knows clock
  obtain ⟨⟨listed, unknown⟩, -⟩ := Filling.contains_ofListing.mp (decide_eq_true wanted)
  refine ⟨listed, fun has => ?_⟩
  cases unknown.symm.trans ((known fileId listed).mpr has)

theorem listed_last (clock : m.epoch = .ok now) (stale : ¬ c.HasFresh ⟨tableKey, fileId⟩ now)
    (last : LastListed actions fileId link) : filling.listed.get? fileId = some link := by
  obtain ⟨fresh, rfl, known⟩ := prepares.knows clock
  have listed : fileId ∈ actions.map (·.id) := by
    obtain ⟨before, action, after, rfl, named, -⟩ := last
    exact List.mem_map.mpr ⟨action, by simp, named⟩
  exact Filling.ofListing_listed (Bool.eq_false_iff.mpr fun has => stale ((known fileId listed).mp has)) last

end Prepares

/-- New links for some files take no more room than one for each of them. -/
theorem size_stocked_le {fileIds : List String} (within : ∀ fileId ∈ links.keys, fileId ∈ fileIds) :
    (c.stocked ⟨tableKey, links, none⟩).size ≤
      (c.entries.keys ++ fileIds.map (EntryKey.mk tableKey)).eraseDups.length := by
  rw [size_eq_keys_length]
  refine (List.subperm_of_subset (c.stocked ⟨tableKey, links, none⟩).nodup fun key member => ?_).length_le
  obtain ⟨link, found⟩ := OrderedMap.mem_keys_iff.mp member
  rw [get?_stocked] at found
  rw [List.mem_eraseDups, List.mem_append]
  split at found
  · rename_i own
    obtain new | ⟨-, old⟩ := Option.or_eq_some_iff.mp found
    · have named := within _ (OrderedMap.mem_keys_iff.mpr ⟨link, new⟩)
      exact Or.inr (List.mem_map.mpr ⟨key.fileId, named, congrArg (EntryKey.mk · key.fileId) own.symm⟩)
    · exact Or.inl (OrderedMap.mem_keys_iff.mpr ⟨link, old⟩)
  · exact Or.inl (OrderedMap.mem_keys_iff.mpr ⟨link, found⟩)

/-- Where all links fit, those that a scan registers replace older ones, and all others stay. -/
theorem get?_register_fits {fileIds : List String} (within : ∀ fileId ∈ links.keys, fileId ∈ fileIds)
    (fits : Fits c tableKey fileIds) :
    (c.register m tableKey table fileIds links issuer).1.entries.get? ⟨tableKey, fileId⟩ =
      (links.get? fileId).or (c.entries.get? ⟨tableKey, fileId⟩) := by
  rw [register_entries]
  split
  · rename_i empty
    have unlinked : links.get? fileId = none := by
      simp [OrderedMap.get?, List.isEmpty_iff.mp empty]
    rw [unlinked, Option.none_or]
  · rw [capped, if_pos (Nat.le_trans (size_stocked_le within) fits), get?_stocked, if_pos rfl]

variable {filling : Filling}

/-- The links are stored at a later reading of the clock than the fresh ones were looked for. -/
theorem populate_known (known : c.freshLinks m tableKey (actions.map (·.id)) = .ok fresh) :
    c.populate m .eager tableKey table actions issuer =
      c.fill m.rest (.ofListing fresh tableKey table actions) issuer := by
  simp only [populate, known]

theorem fill_complete (complete : filling.unsigned = []) : c.fill m filling issuer =
    ((c.registerFilling m filling filling.listed issuer).1,
      .done (c.registerFilling m filling filling.listed issuer).2) := by
  simp only [fill, complete]

theorem fill_unserved (incomplete : filling.unsigned ≠ []) : c.fill m filling none =
    (c, .done (.error (.credential (.noIssuerForFiles filling.unsigned.length filling.table)))) := by
  unfold fill
  split <;> simp_all

theorem fill_asks {service : Issuer} (incomplete : filling.unsigned ≠ []) :
    c.fill m filling (some service) = (c, .sign service filling) := by
  unfold fill
  split <;> simp_all

/-- A service that signs no files leaves the scan without its links. -/
theorem populated_refused {service : Issuer} {answer : Signature} (unsigned : ∀ signed, answer ≠ .ok (some signed)) :
    ∃ e, c.populated m service filling answer = (c, .error (.credential e)) := by
  unfold populated
  split
  · exact ⟨_, rfl⟩
  · exact ⟨_, rfl⟩
  · exact ⟨_, rfl⟩
  · rename_i signed
    exact absurd rfl (unsigned signed)

/-- A service that signs files lets the scan register its batch. -/
theorem populated_signed (c : Cache) (service : Issuer) (filling : Filling) (signed : Links)
    (readable : ∃ now, m.epoch = .ok now) :
    ∃ links : Links, (∀ fileId, links.get? fileId = (signed.get? fileId).or (filling.listed.get? fileId)) ∧
      c.populated m service filling (.ok (some signed)) =
        ((c.registerFilling m filling links (some service)).1, .ok ()) := by
  refine ⟨_, fun _ => OrderedMap.get?_insertAll signed filling.listed, ?_⟩
  exact Prod.ext rfl (register_succeeds _ readable)

section Course

variable (c : Cache) (m : Moment) (tableKey : String) (table : TableReference) (actions : List FileAction)
  (issuer : Option Issuer) (meanwhile : Cache → Cache) (m' : Moment) (answer : Signature)

/-- How the filling of an eager batch can go. -/
inductive Course : FillOutcome → Prop
  | supplied (filling : Filling) (prepares : c.Prepares m tableKey table actions filling)
      (complete : filling.unsigned = []) :
      Course ⟨[], c, (c.register m.rest tableKey table (actions.map (·.id)) filling.listed issuer).1, .ok ()⟩
  | unserved (filling : Filling) (prepares : c.Prepares m tableKey table actions filling)
      (incomplete : filling.unsigned ≠ []) (alone : issuer = none) (e : CredentialError) :
      Course ⟨[], c, c, .error (.credential e)⟩
  | refused (filling : Filling) (prepares : c.Prepares m tableKey table actions filling)
      (incomplete : filling.unsigned ≠ []) (service : Issuer) (served : issuer = some service) (e : CredentialError)
      (unsigned : ∀ signed, answer ≠ .ok (some signed)) :
      Course ⟨[⟨service, table, filling.unsigned⟩], meanwhile c, meanwhile c, .error (.credential e)⟩
  | signed (filling : Filling) (prepares : c.Prepares m tableKey table actions filling)
      (incomplete : filling.unsigned ≠ []) (service : Issuer) (served : issuer = some service)
      (signed links : Links) (answered : answer = .ok (some signed))
      (given : ∀ fileId, links.get? fileId = (signed.get? fileId).or (filling.listed.get? fileId)) :
      Course ⟨[⟨service, table, filling.unsigned⟩], meanwhile c,
        ((meanwhile c).register m' tableKey table (actions.map (·.id)) links issuer).1, .ok ()⟩

theorem fillEagerly_course (readable : m.Readable) (readable' : m'.Readable) :
    Course c m tableKey table actions issuer meanwhile m' answer
      (c.fillEagerly m tableKey table actions issuer meanwhile m' answer) := by
  unfold fillEagerly
  obtain ⟨now, clock⟩ := readable.first
  obtain ⟨fresh, known⟩ : ∃ fresh, c.freshLinks m tableKey (actions.map (·.id)) = .ok fresh := by
    simp [freshLinks, clock]
  let filling := Filling.ofListing fresh tableKey table actions
  have prepares : c.Prepares m tableKey table actions filling := ⟨fresh, known, rfl⟩
  rw [populate_known known]
  by_cases complete : filling.unsigned = []
  · have succeeds : (c.registerFilling m.rest filling filling.listed issuer).2 = .ok () :=
      register_succeeds _ readable.second
    rw [fill_complete complete, succeeds]
    exact .supplied filling prepares complete
  · cases issuer with
    | none =>
      rw [fill_unserved complete]
      exact .unserved filling prepares complete rfl _
    | some service =>
      rw [fill_asks complete]
      by_cases answered : ∃ signed, answer = .ok (some signed)
      · obtain ⟨signed, rfl⟩ := answered
        obtain ⟨links, given, registers⟩ :=
          populated_signed (meanwhile c) service filling signed readable'.first
        simp only [registers]
        exact .signed filling prepares complete service rfl signed links rfl given
      · have unsigned : ∀ signed, answer ≠ .ok (some signed) := fun signed same => answered ⟨signed, same⟩
        obtain ⟨e, refused⟩ : ∃ e, (meanwhile c).populated m' service filling answer =
            (meanwhile c, .error (.credential e)) := populated_refused unsigned
        simp only [refused]
        exact .refused filling prepares complete service rfl e unsigned

end Course

/-- Which links files have once the batch of a listing is filled, some with signed links. -/
structure Linked (c : Cache) (now : Int) (tableKey : String) (actions : List FileAction) (signed : String → Option Link)
    (left : Cache) : Prop where
  fresh : ∀ fileId link, c.entries.get? ⟨tableKey, fileId⟩ = some link → c.isFresh link now = true →
    left.entries.get? ⟨tableKey, fileId⟩ = some link
  listed : ∀ fileId link, ¬ c.HasFresh ⟨tableKey, fileId⟩ now → LastListed actions fileId link →
    left.entries.get? ⟨tableKey, fileId⟩ = some link
  signed : ∀ fileId link, fileId ∈ actions.map (·.id) → c.Lacks now tableKey actions fileId →
    signed fileId = some link → left.entries.get? ⟨tableKey, fileId⟩ = some link

/-- Registering links of the listing and signed ones gives each file its own, as
long as all fit and no more was signed than was asked for. -/
theorem Prepares.linked (prepares : c.Prepares m tableKey table actions filling) (clock : m.epoch = .ok now)
    {signed : String → Option Link} (given : ∀ fileId, links.get? fileId = (signed fileId).or (filling.listed.get? fileId))
    (only : ∀ fileId link, signed fileId = some link →
      fileId ∈ actions.map (·.id) ∧ c.Lacks now tableKey actions fileId)
    (fits : c.Fits tableKey (actions.map (·.id))) :
    Linked c now tableKey actions signed (c.register m' tableKey table (actions.map (·.id)) links issuer).1 := by
  have within : ∀ fileId ∈ links.keys, fileId ∈ actions.map (·.id) := by
    intro fileId member
    obtain ⟨link, found⟩ := OrderedMap.mem_keys_iff.mp member
    rw [given] at found
    obtain new | ⟨-, old⟩ := Option.or_eq_some_iff.mp found
    · exact (only fileId link new).1
    · exact (prepares.mem_listed clock (OrderedMap.mem_keys_iff.mpr ⟨link, old⟩)).1
  have left (fileId : String) : (c.register m' tableKey table (actions.map (·.id)) links issuer).1.entries.get?
      ⟨tableKey, fileId⟩ = (links.get? fileId).or (c.entries.get? ⟨tableKey, fileId⟩) := get?_register_fits within fits
  constructor
  · intro fileId link held unexpired
    have unsigned : signed fileId = none :=
      Option.eq_none_iff_forall_ne_some.mpr fun link' found => (only fileId link' found).2.1 ⟨link, held, unexpired⟩
    have unlisted : filling.listed.get? fileId = none :=
      Option.eq_none_iff_forall_ne_some.mpr fun link' found =>
        (prepares.mem_listed clock (OrderedMap.mem_keys_iff.mpr ⟨link', found⟩)).2 ⟨link, held, unexpired⟩
    rw [left, given, unsigned, unlisted, held]
    rfl
  · intro fileId link stale last
    have unsigned : signed fileId = none := by
      refine Option.eq_none_iff_forall_ne_some.mpr fun link' found => ?_
      obtain ⟨before, action, after, rfl, named, linked, -⟩ := last
      cases ((only fileId link' found).2.2 action (by simp) named).symm.trans linked
    rw [left, given, unsigned, prepares.listed_last clock stale last]
    rfl
  · intro fileId link _ _ found
    rw [left, given, found]
    rfl

namespace Course

variable {meanwhile : Cache → Cache} {answer : Signature} {outcome : FillOutcome}
  (course : Course c m tableKey table actions issuer meanwhile m' answer outcome)

include course

/-- One service is asked at most, once, for the files without a link. The filling
succeeds if there are none, or if the service signs. -/
theorem asks (clock : m.epoch = .ok now) : ∃ asked,
    FirstCome (actions.map (·.id)) (c.Lacks now tableKey actions) asked ∧
      outcome.requests = (if asked = [] then [] else issuer.toList.map (⟨·, table, asked⟩)) ∧
      (asked = [] ∨ issuer ≠ none ∧ (∃ signed, answer = .ok (some signed)) → outcome.result = .ok ()) := by
  cases course with
  | supplied filling prepares complete =>
    exact ⟨_, prepares.unsigned_firstCome clock, (if_pos complete).symm, fun _ => rfl⟩
  | unserved filling prepares incomplete alone =>
    exact ⟨_, prepares.unsigned_firstCome clock, by simp [incomplete, alone], by simp [incomplete, alone]⟩
  | refused filling prepares incomplete service served e unsigned =>
    refine ⟨_, prepares.unsigned_firstCome clock, by simp [incomplete, served], ?_⟩
    rintro (complete | ⟨-, signed, answered⟩)
    · exact absurd complete incomplete
    · exact absurd answered (unsigned signed)
  | signed filling prepares incomplete service served =>
    exact ⟨_, prepares.unsigned_firstCome clock, by simp [incomplete, served], fun _ => rfl⟩

theorem found_eq : outcome.found = if outcome.requests = [] then c else meanwhile c := by
  cases course <;> rfl

/-- A batch that is filled has one more holder and all files of the listing. -/
theorem joins (succeeded : outcome.result = .ok ()) :
    (∀ fileId ∈ actions.map (·.id), fileId ∈ outcome.left.files tableKey) ∧
      outcome.left.holders tableKey = outcome.found.holders tableKey + 1 := by
  have registered (found : Cache) (m : Moment) (links : Links) :
      (∀ fileId ∈ actions.map (·.id),
        fileId ∈ (found.register m tableKey table (actions.map (·.id)) links issuer).1.files tableKey) ∧
      (found.register m tableKey table (actions.map (·.id)) links issuer).1.holders tableKey =
        found.holders tableKey + 1 := by
    refine ⟨fun fileId listed => mem_files_register.mpr (Or.inr ⟨rfl, listed⟩), ?_⟩
    rw [holders_register, if_pos rfl]
  cases course with
  | unserved | refused => cases succeeded
  | supplied filling => exact registered c m.rest filling.listed
  | signed filling prepares incomplete service served signed links => exact registered (meanwhile c) m' links

/-- Without other callers, each file gets the link that is meant for it. -/
theorem linked (clock : m.epoch = .ok now) (alone : meanwhile c = c)
    (only : ∀ fileId link, Traffic.signedLink? answer fileId = some link →
      fileId ∈ actions.map (·.id) ∧ c.Lacks now tableKey actions fileId)
    (fits : c.Fits tableKey (actions.map (·.id))) (succeeded : outcome.result = .ok ()) :
    Linked c now tableKey actions (Traffic.signedLink? answer) outcome.left := by
  cases course with
  | unserved | refused => cases succeeded
  | supplied filling prepares complete =>
    have linked : Linked c now tableKey actions (fun _ => none)
        (c.register m.rest tableKey table (actions.map (·.id)) filling.listed issuer).1 :=
      prepares.linked clock (fun _ => rfl) nofun fits
    refine ⟨linked.fresh, linked.listed, fun fileId link listed lacking _ => ?_⟩
    have unsigned := (prepares.unsigned_firstCome clock).members fileId
    rw [complete] at unsigned
    exact absurd (unsigned.mpr ⟨listed, lacking⟩) List.not_mem_nil
  | signed filling prepares incomplete service served signed links answered given =>
    subst answered
    rw [alone]
    exact prepares.linked clock given only fits

/-- A filling that fails has no credential and has not changed the cache. -/
theorem failed {fault : Fault} (failed : outcome.result = .error fault) :
    outcome.left = outcome.found ∧ ∃ e, fault = .credential e := by
  cases course with
  | supplied | signed => cases failed
  | unserved filling prepares incomplete alone e | refused filling prepares incomplete service served e =>
    cases failed
    exact ⟨rfl, e, rfl⟩

end Course

/-- The filling of an eager batch asks for exactly the links that are missing, in
one call, and for none if there are none. If it succeeds, the batch has one more
holder and every file, and each file has its fresh link, its last one of the
listing or the signed one, as long as nobody interferes and all links fit. If it
fails, there is no credential, and the cache stays as it was. -/
theorem eager_filling_signs_what_is_missing (c : Cache) (m : Moment) (tableKey : String) (table : TableReference)
    (actions : List FileAction) (issuer : Option Issuer) (meanwhile : Cache → Cache) (m' : Moment) (answer : Signature)
    (readable : m.Readable) (readable' : m'.Readable) :
    let fileIds := actions.map (·.id)
    let outcome := c.fillEagerly m tableKey table actions issuer meanwhile m' answer
    (outcome.found = if outcome.requests = [] then c else meanwhile c) ∧
    (∃ now asked, m.epoch = .ok now ∧ FirstCome fileIds (c.Lacks now tableKey actions) asked ∧
      outcome.requests = (if asked = [] then [] else issuer.toList.map (⟨·, table, asked⟩)) ∧
      (asked = [] ∨ issuer ≠ none ∧ (∃ signed, answer = .ok (some signed)) → outcome.result = .ok ()) ∧
      (outcome.result = .ok () →
        (∀ fileId ∈ fileIds, fileId ∈ outcome.left.files tableKey) ∧
        outcome.left.holders tableKey = outcome.found.holders tableKey + 1 ∧
        (meanwhile c = c → (∀ fileId link, Traffic.signedLink? answer fileId = some link → fileId ∈ asked) →
          c.Fits tableKey fileIds → Linked c now tableKey actions (Traffic.signedLink? answer) outcome.left))) ∧
    ∀ fault, outcome.result = .error fault → outcome.left = outcome.found ∧ ∃ e, fault = .credential e := by
  intro fileIds outcome
  have course := fillEagerly_course c m tableKey table actions issuer meanwhile m' answer readable readable'
  obtain ⟨now, clock⟩ := readable.first
  obtain ⟨asked, first, requests, succeeds⟩ := course.asks clock
  refine ⟨course.found_eq, ⟨now, asked, clock, first, requests, succeeds, fun succeeded => ?_⟩,
    fun _ failed => course.failed failed⟩
  obtain ⟨listed, held⟩ := course.joins succeeded
  refine ⟨listed, held, fun alone only fits => course.linked clock alone (fun fileId link found => ?_) fits succeeded⟩
  exact (first.members fileId).mp (only fileId link found)

/-- One file has a fresh link already, one comes with two links, and only the third is signed. -/
theorem third_file_is_signed :
    let table : TableReference := ⟨"share", "schema", "orders"⟩
    let action (fileId url : String) : FileAction := ⟨fileId, url, none, .empty, none, none, some 900, none⟩
    let c := ((new ⟨none, 60, 3, 10, 60⟩).register (.still 0 0) "orders" table ["part-1"]
      (.ofList [("part-1", ⟨"old", 500⟩)]) none).1
    let actions := [action "part-3" "", action "part-2" "a", action "part-1" "new", action "part-3" "", action "part-2" "b"]
    let answer : Signature := .ok (some (.ofList [("part-3", ⟨"c", 700⟩)]))
    let outcome := c.fillEagerly (.still 0 0) "orders" table actions (some ⟨"service"⟩) id (.still 5 1) answer
    outcome.requests = [⟨⟨"service"⟩, table, ["part-3"]⟩] ∧ outcome.left.holders "orders" = 2 ∧
      outcome.left.entries.get? ⟨"orders", "part-1"⟩ = some ⟨"old", 500⟩ ∧
      outcome.left.entries.get? ⟨"orders", "part-2"⟩ = some ⟨"b", 900⟩ ∧
      outcome.left.entries.get? ⟨"orders", "part-3"⟩ = some ⟨"c", 700⟩ := by
  intro table action c actions answer outcome
  obtain ⟨found, ⟨now, asked, clock, first, requests, succeeds, success⟩, -⟩ :=
    eager_filling_signs_what_is_missing c (.still 0 0) "orders" table actions (some ⟨"service"⟩) id (.still 5 1) answer
      (.still 0 0) (.still 5 1)
  obtain rfl : 0 = now := Except.ok.inj clock
  have evaluated : outcome.requests = [⟨⟨"service"⟩, table, ["part-3"]⟩] := by decide +kernel
  have named : asked = ["part-3"] := by
    by_cases nothing : asked = []
    · cases evaluated.symm.trans (requests.trans (if_pos nothing))
    · simpa using (evaluated.symm.trans (requests.trans (if_neg nothing))).symm
  subst named
  have only (fileId : String) (link : Link) (signed : Traffic.signedLink? answer fileId = some link) :
      fileId ∈ ["part-3"] := by
    have member := OrderedMap.mem_of_get?_ofList signed
    simp_all
  have fits : c.Fits "orders" (actions.map (·.id)) := by
    unfold Fits
    decide +kernel
  obtain ⟨-, held, links⟩ := success (succeeds (Or.inr ⟨by simp, _, rfl⟩))
  have linked : Linked c 0 "orders" actions (Traffic.signedLink? answer) outcome.left := links rfl only fits
  have same : outcome.found = c := found.trans (if_neg (evaluated ▸ List.cons_ne_nil _ _))
  refine ⟨evaluated, ?_, ?_, ?_, ?_⟩
  · rw [held, same]
    decide +kernel
  · have fresh : c.entries.get? ⟨"orders", "part-1"⟩ = some ⟨"old", 500⟩ := by decide +kernel
    exact linked.fresh "part-1" _ fresh (by decide +kernel)
  · have unheld : c.entries.get? ⟨"orders", "part-2"⟩ = none := by decide +kernel
    refine linked.listed "part-2" _ ?_ ⟨actions.take 4, action "part-2" "b", [], rfl, rfl, rfl, by simp⟩
    rintro ⟨link, there, -⟩
    cases unheld.symm.trans there
  · have lacking := (first.members "part-3").mp List.mem_cons_self
    exact linked.signed "part-3" _ lacking.1 lacking.2 (by decide +kernel)

end SharedTables.Cache
