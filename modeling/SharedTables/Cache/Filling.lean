import SharedTables.Cache.Store
import SharedTables.File.Action
import SharedTables.Text.Blank
import SharedTables.Text.Case

/-! How the links of a resolved scan get into the cache. Nothing is registered before every link
that has to be signed has been signed. -/
namespace SharedTables

/-- `CachePopulation`: how the files of a scan get their links into the cache. -/
inductive Population
  /-- Links are signed while the scan is resolved. -/
  | eager
  /-- Links are signed when the first file is read. -/
  | lazy
  deriving DecidableEq, Repr

namespace Population

/-- The name of a way. -/
def name : Population → String
  | .eager => "eager"
  | .lazy => "lazy"

/-- `CachePopulation.from_str`: the way that a text names; other texts give the default. -/
def ofText (s : Option String) (default : Population) : Population :=
  match s with
  | none => default
  | some s =>
    let s := Text.lower (Text.trim s)
    if s = "eager" then .eager else if s = "lazy" then .lazy else default

end Population

namespace Cache

/-- A scan on its way into the cache. -/
structure Filling where
  tableKey : String
  table : TableReference
  fileIds : List String
  /-- The links that came with the listing and are wanted. -/
  listed : Links
  /-- The files without a link, each once, in the order of the listing. -/
  unsigned : List String

/-- How the first stretch of filling ends. -/
inductive FillProgress
  | done (result : Except Fault Unit)
  /-- Let a service sign the files without a link. -/
  | sign (issuer : Issuer) (filling : Filling)

/-- `EagerPopulation.populate`, `entries` and `to_sign`: what an eager scan adds to the fresh links
of its batch, which are links that came with the listing, the last one for each file, and the files
that have none. -/
def Filling.ofListing (fresh : Links) (tableKey : String) (table : TableReference)
    (actions : List FileAction) : Filling :=
  let fileIds := actions.map (·.id)
  let missing := fileIds.eraseDups.filter fun fileId => !fresh.contains fileId
  let listed := OrderedMap.ofList (actions.filterMap fun action =>
    if missing.contains action.id then action.link?.map (action.id, ·) else none)
  { tableKey, table, fileIds, listed
    unsigned := missing.filter fun fileId => !listed.contains fileId }

/-- Registers the batch with the links that it has got. -/
def registerFilling (c : Cache) (m : Moment) (filling : Filling) (links : Links)
    (issuer : Option Issuer) : Cache × Except Fault Unit :=
  c.register m filling.tableKey filling.table filling.fileIds links issuer

/-- `EagerPopulation.populate`, after `fresh_entries`: fills a batch of which the fresh links are
known. -/
def fill (c : Cache) (m : Moment) (filling : Filling) (issuer : Option Issuer) :
    Cache × FillProgress :=
  match filling.unsigned, issuer with
  | [], issuer =>
    let (c, result) := c.registerFilling m filling filling.listed issuer
    (c, .done result)
  | unsigned, none =>
    (c, .done (.error (.credential (.noIssuerForFiles unsigned.length filling.table))))
  | _, some issuer => (c, .sign issuer filling)

/-- `LazyPopulation.populate`, or `EagerPopulation.populate` up to the call of `sign`: the first
stretch of filling the batch of a scan. An eager one reads the clock twice, once for the fresh links
and once more where it stores others. -/
def populate (c : Cache) (m : Moment) (population : Population) (tableKey : String)
    (table : TableReference) (actions : List FileAction) (issuer : Option Issuer) :
    Cache × FillProgress :=
  match population with
  | .lazy =>
    let (c, result) := c.register m tableKey table (actions.map (·.id)) .empty issuer
    (c, .done result)
  | .eager =>
    match c.freshLinks m tableKey (actions.map (·.id)) with
    | .error fault => (c, .done (.error fault))
    | .ok fresh => c.fill m.rest (.ofListing fresh tableKey table actions) issuer

/-- Why a service that answers nothing at all has not signed the files of a scan. -/
def nothingAnswered : String := "'NoneType' object is not iterable"

/-- `EagerPopulation.populate`, after `sign` has returned: ends filling. -/
def populated (c : Cache) (m : Moment) (issuer : Issuer) (filling : Filling) (answer : Signature) :
    Cache × Except Fault Unit :=
  let failed (reason : String) : Fault :=
    .credential (.signingFilesFailed filling.unsigned.length filling.table reason)
  match answer with
  | .error (.credential e) => (c, .error (.credential e))
  | .error (.other _ message) => (c, .error (failed message))
  | .ok none => (c, .error (failed nothingAnswered))
  | .ok (some signed) =>
    let links := signed.entries.foldl (fun links p => links.insert p.1 p.2) filling.listed
    c.registerFilling m filling links (some issuer)

end Cache
end SharedTables
