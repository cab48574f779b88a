import Portcullis.Store.AccessList
import Portcullis.Store.Routing
import Portcullis.Store.Snapshot

/-!
# The store

Routing tables and access lists in one value.

* `Store.ofSnapshot` makes a store from a snapshot, `Store.apply` gives a live store the content
  of a snapshot without losing counted hits, and `Store.snapshot` lists the content by id.
* The other operations change one row.
-/

namespace Portcullis

/-- The whole store, and the file that it is kept in, if any. -/
structure Store where
  routing : Routing := {}
  blacklist : AccessList BlockDetails := .empty
  whitelist : AccessList Unit := .empty
  path : Option String := none

/-- The routing tables of a snapshot. -/
def Snapshot.routing (s : Snapshot) : Routing where
  listeners := s.listeners
  domains := .ofList s.domains
  streamRoutes := s.streamRoutes
  httpRoutes := s.httpRoutes
  sshPorts := .ofList s.sshPorts

namespace Store

def empty : Store := {}

def ofSnapshot (s : Snapshot) (path : Option String) : Store where
  routing := s.routing
  blacklist := .ofRows s.blacklist
  whitelist := .ofRows s.whitelist
  path := path

/-- Replaces routing tables and list rows; the larger count and the later hit of each row stay. -/
def apply (store : Store) (s : Snapshot) : Store :=
  { store with
    routing := s.routing
    blacklist := store.blacklist.replace s.blacklist
    whitelist := store.whitelist.replace s.whitelist }

/-- The content of the store. -/
def snapshot (store : Store) : Snapshot where
  listeners := store.routing.listeners
  domains := store.routing.domains.rows
  streamRoutes := store.routing.streamRoutes
  httpRoutes := store.routing.httpRoutes
  sshPorts := store.routing.sshPorts.rows
  blacklist := store.blacklist.rows
  whitelist := store.whitelist.rows

/-! ## Routing rows -/

/-- Changes the routing tables. -/
def onRouting (store : Store) (f : Routing → Routing) : Store :=
  { store with routing := f store.routing }

def upsertListener (store : Store) (l : Listener) : Store :=
  store.onRouting fun t => { t with listeners := upsert t.listeners l }

def upsertDomain (store : Store) (d : Domain) : Store :=
  store.onRouting fun t => { t with domains := t.domains.insert d }

def removeDomain (store : Store) (id : UInt32) : Store :=
  store.onRouting fun t => { t with domains := t.domains.erase id }

def upsertStreamRoute (store : Store) (r : StreamRoute) : Store :=
  store.onRouting fun t => { t with streamRoutes := upsert t.streamRoutes r }

def upsertHttpRoute (store : Store) (r : HttpRoute) : Store :=
  store.onRouting fun t => { t with httpRoutes := upsert t.httpRoutes r }

def upsertSshPort (store : Store) (p : SshPort) : Store :=
  store.onRouting fun t => { t with sshPorts := t.sshPorts.insert p }

/-! ## Access rows -/

def insertBlacklist (store : Store) (r : BlockRow) : Store :=
  { store with blacklist := store.blacklist.enter r }

def insertWhitelist (store : Store) (r : AllowRow) : Store :=
  { store with whitelist := store.whitelist.enter r }

def setBlacklistDisabled (store : Store) (id : UInt32) (disabled : Bool) : Bool × Store :=
  let (found, list) := store.blacklist.setDisabled id disabled
  (found, { store with blacklist := list })

def setWhitelistDisabled (store : Store) (id : UInt32) (disabled : Bool) : Bool × Store :=
  let (found, list) := store.whitelist.setDisabled id disabled
  (found, { store with whitelist := list })

/-- Takes a whitelist row away and gives it. -/
def removeWhitelist (store : Store) (id : UInt32) : Option AllowRow × Store :=
  (store.whitelist.get? id, { store with whitelist := store.whitelist.erase id })

/-- Counts a hit of a blacklist row. -/
def countBlock (store : Store) (id : UInt32) (time : UInt64) : Except StoreError Unit × Store :=
  match store.blacklist.hit id time with
  | (true, list) => (.ok (), { store with blacklist := list })
  | (false, _) => (.error (.rowNotFound "blacklist" id), store)

/-- Counts a hit of a whitelist row. -/
def countAccess (store : Store) (id : UInt32) (time : UInt64) : Except StoreError Unit × Store :=
  match store.whitelist.hit id time with
  | (true, list) => (.ok (), { store with whitelist := list })
  | (false, _) => (.error (.rowNotFound "whitelist" id), store)

/-- The order of the administrator's list: the latest hit first, then by id. -/
def recentFirst (a b : BlockRow) : Bool :=
  b.tally.last < a.tally.last || (a.tally.last == b.tally.last && a.id ≤ b.id)

/-- The blacklist rows that came from an administrator, the most recently hit first. -/
def ownBlacklist (store : Store) : List BlockRow :=
  (store.blacklist.rows.filter fun r => !r.details.imported).mergeSort recentFirst

end Store

end Portcullis
