import Mathlib.Data.List.AList
import PacketBrowser.Foundation.Evict
import PacketBrowser.Foundation.Text
import PacketBrowser.Protocol.Message

/-!
# The store of cached pages

The store is one table of the database, with the URL as its key, and each method is one
statement or one transaction on it. The methods ignore that a statement fails: a transaction
that fails leaves the table as it was, and so does a deletion, while a query inside the
transaction that fails counts as zero or lists nothing, and a row that cannot be evicted
stays. Lookups and the updates of a row are assumed to succeed. What the statements do not
determine is an argument: the reading of the clock, what fails, and the order in which the
query for the rows by `last_used` lists rows of the same second.

Times and lifetimes are in whole seconds, as the columns are; the clock has nanoseconds.
-/

namespace PacketBrowser.Browse

open Protocol Foundation

/-- A reading of the clock: nanoseconds since the epoch, or before it. -/
abbrev SystemTime := Int

/-- The nanoseconds of a second. -/
def nanosPerSec : Int := 1000000000

/-- Whole seconds since the epoch; none before it. -/
def unixSecs (now : SystemTime) : Nat := (now / nanosPerSec).toNat

/-- The columns of a row other than its key. -/
structure CacheRow where
  etag : Text
  brotliBody : Bytes
  fetchedAt : Nat
  lastUsed : Nat
  size : Nat
  maxAge : Nat
  deriving DecidableEq, Repr

/-- The table. -/
abbrev Entries := AList fun _ : Text => CacheRow

/-- A row with its key. -/
abbrev Row := Sigma fun _ : Text => CacheRow

/-- The settings of the cache. -/
structure Cache where
  capBytes : UInt64
  maxTtl : Nat

/-- A row as a lookup returns it. -/
structure Hit where
  etag : Text
  brotliBody : Bytes
  fetchedAt : Nat
  maxAge : Nat
  deriving DecidableEq, Repr

/-- A hit is fresh while it is younger than its lifetime. A clock behind the time of the
fetch makes it stale. -/
def Hit.isFresh (hit : Hit) (now : SystemTime) : Bool :=
  let age := now - hit.fetchedAt * nanosPerSec
  decide (0 ≤ age) && decide (age < hit.maxAge * nanosPerSec)

/-- What a lookup gives of a row. -/
def CacheRow.hit (row : CacheRow) : Hit := ⟨row.etag, row.brotliBody, row.fetchedAt, row.maxAge⟩

/-- The rows differ in their times only. -/
def CacheRow.Alike (row old : CacheRow) : Prop :=
  row.etag = old.etag ∧ row.brotliBody = old.brotliBody ∧ row.maxAge = old.maxAge

/-- The page stored for a URL. -/
def lookup (entries : Entries) (url : Text) : Option Hit :=
  (entries.lookup url).map CacheRow.hit

/-- `SUM(size)` -/
def total (entries : Entries) : Nat := Evict.weight (fun row => row.2.size) entries.entries

/-- What `SELECT url, size FROM entries ORDER BY last_used ASC` may list. -/
def Lists (entries : Entries) (listing : List Row) : Prop :=
  listing.Perm entries.entries ∧ listing.Pairwise fun one two => one.2.lastUsed ≤ two.2.lastUsed

instance (entries : Entries) (listing : List Row) : Decidable (Lists entries listing) :=
  inferInstanceAs (Decidable (_ ∧ _))

/-- What the statements behind the upsert of a transaction answer: `SUM(size)`, the rows by
their last use, and the URLs whose row cannot be deleted. -/
structure Queries where
  total : Nat
  listing : List Row
  undeleted : List Text
  deriving DecidableEq, Repr

/-- These may be the answers: a query that fails counts as zero, or lists nothing. -/
def Queries.Possible (queries : Queries) (entries : Entries) : Prop :=
  (queries.total = Browse.total entries ∨ queries.total = 0) ∧
    (Lists entries queries.listing ∨ queries.listing = [])

instance (queries : Queries) (entries : Entries) : Decidable (queries.Possible entries) :=
  inferInstanceAs (Decidable (_ ∧ _))

/-- The answers where no statement fails. -/
def succeeding (entries : Entries) (listing : List Row) : Queries := ⟨total entries, listing, []⟩

section Insert

variable (cache : Cache)

/-- The capacity as the signed number the sizes are compared with. -/
def Cache.cap : Int := cache.capBytes.toInt64.toInt

/-- The lifetime of a page is what the server grants, up to the configured one. -/
def Cache.capped (serverMaxAgeSecs : Int32) : Nat := min serverMaxAgeSecs.toInt.toNat cache.maxTtl

/-- The row an insertion writes. -/
def Cache.freshRow (etag : Text) (brotliBody : Bytes) (serverMaxAgeSecs : Int32)
    (now : SystemTime) : CacheRow where
  etag := etag
  brotliBody := brotliBody
  fetchedAt := unixSecs now
  lastUsed := unixSecs now
  size := brotliBody.length
  maxAge := cache.capped serverMaxAgeSecs

/-- The rows that are deleted, least recently used first: never the one just inserted, and
none whose deletion fails. -/
def Cache.victims (url : Text) (queries : Queries) : List Row :=
  if (queries.total : Int) > cache.cap then
    Evict.evicted (fun row => row.2.size) (fun row => row.1 = url ∨ row.1 ∈ queries.undeleted)
      (queries.total - cache.cap) queries.listing
  else []

/-- Delete the rows one after the other. -/
def deleteAll (entries : Entries) (victims : List Row) : Entries :=
  victims.foldl (fun entries victim => entries.erase victim.1) entries

/-- The transaction of an insertion: write the row, then delete rows until the sizes fit. If
it cannot begin, write the row or commit, the table is as before. -/
def Cache.write (entries : Entries) (url : Text) (row : CacheRow) : Option Queries → Entries
  | none => entries
  | some queries => deleteAll (entries.insert url row) (cache.victims url queries)

/-- A negative lifetime means that the page must not be stored. -/
def Cache.insert (entries : Entries) (url etag : Text) (brotliBody : Bytes)
    (serverMaxAgeSecs : Int32) (now : SystemTime) (committed : Option Queries) : Entries :=
  if serverMaxAgeSecs < 0 then entries
  else cache.write entries url (cache.freshRow etag brotliBody serverMaxAgeSecs now) committed

end Insert

/-- Change the row of a URL, if there is one. -/
def update (entries : Entries) (url : Text) (change : CacheRow → CacheRow) : Entries :=
  match entries.lookup url with
  | some row => entries.insert url (change row)
  | none => entries

/-- The row is fresh and used now. -/
def touchFresh (entries : Entries) (url : Text) (now : SystemTime) : Entries :=
  update entries url fun row => { row with fetchedAt := unixSecs now, lastUsed := unixSecs now }

/-- The row is used now. -/
def touchLastUsed (entries : Entries) (url : Text) (now : SystemTime) : Entries :=
  update entries url fun row => { row with lastUsed := unixSecs now }

/-- Delete the row of a URL. -/
def delete (entries : Entries) (url : Text) : Entries := entries.erase url

/-- Delete all rows. -/
def clear (_ : Entries) : Entries := ∅

section Lookups

/-! What each change does to the row of each URL. -/

variable (entries : Entries) (url other : Text)

/-- Changing a row changes that row only. -/
theorem lookup_update (change : CacheRow → CacheRow) :
    (update entries url change).lookup other =
      if other = url then (entries.lookup other).map change else entries.lookup other := by
  unfold update
  by_cases same : other = url
  · subst same
    cases found : entries.lookup other <;> simp [found]
  · cases found : entries.lookup url <;> simp [same, AList.lookup_insert_ne]

/-- Deleting a row deletes that row only. -/
theorem lookup_delete :
    (delete entries url).lookup other = if other = url then none else entries.lookup other := by
  unfold delete
  by_cases same : other = url
  · subst same
    simp
  · simp [same, AList.lookup_erase_ne]

/-- Nothing is left behind clearing. -/
@[simp] theorem lookup_clear : (clear entries).lookup other = none := rfl

/-- Deleted rows are gone, and the others stay. -/
theorem lookup_deleteAll (victims : List Row) :
    (deleteAll entries victims).lookup other =
      if other ∈ victims.map Sigma.fst then none else entries.lookup other := by
  induction victims generalizing entries with
  | nil => simp [deleteAll]
  | cons victim rest inductionHypothesis =>
    have step := inductionHypothesis (entries.erase victim.1)
    simp only [deleteAll, List.foldl_cons] at step ⊢
    rw [step]
    by_cases same : other = victim.1
    · subst same
      simp
    · have listed : other ∈ (victim :: rest).map Sigma.fst ↔ other ∈ rest.map Sigma.fst := by
        rw [List.map_cons, List.mem_cons]
        exact or_iff_right same
      simp only [listed, AList.lookup_erase_ne same]

/-- The rows of a listing are those of the table. -/
theorem Lists.lookup_iff {entries : Entries} {listing : List Row} (lists : Lists entries listing)
    (url : Text) (row : CacheRow) : ⟨url, row⟩ ∈ listing ↔ entries.lookup url = some row :=
  lists.1.mem_iff.trans AList.mem_lookup_iff.symm

/-- Each URL is listed at most once. -/
theorem Lists.nodup {entries : Entries} {listing : List Row} (lists : Lists entries listing) :
    (listing.map Sigma.fst).Nodup := (lists.1.map Sigma.fst).nodup_iff.mpr entries.keys_nodup

/-- The victims are listed, and not the row just inserted. -/
theorem Cache.victims_evict (cache : Cache) (queries : Queries) :
    Evict.Evicts (fun row : Row => row.2.size) (fun row => row.1 = url ∨ row.1 ∈ queries.undeleted)
      (queries.total - cache.cap) queries.listing (cache.victims url queries) := by
  unfold Cache.victims
  split
  · exact Evict.evicted_evicts _ _
  · constructor
    · exact List.nil_prefix
    · exact fun fewer shorter different => absurd (List.prefix_nil.mp shorter) different
    · left
      simp only [Evict.weight]
      omega

/-- No victim is the row just inserted. -/
theorem Cache.victim_other (cache : Cache) (queries : Queries) {victim : Row}
    (member : victim ∈ cache.victims url queries) : victim.1 ≠ url := by
  have kept := ((cache.victims_evict url queries).offered member).2
  rintro rfl
  simp at kept

/-- The row written is there, and the rows of other URLs that are not evicted. -/
theorem Cache.lookup_write (cache : Cache) (row : CacheRow) (queries : Queries) :
    (cache.write entries url row (some queries)).lookup other =
      if other = url then some row
      else if other ∈ (cache.victims url queries).map Sigma.fst then none
      else entries.lookup other := by
  unfold Cache.write
  rw [lookup_deleteAll]
  by_cases same : other = url
  · subst same
    have kept : other ∉ (cache.victims other queries).map Sigma.fst := by
      intro member
      obtain ⟨victim, evicted, key⟩ := List.mem_map.mp member
      exact cache.victim_other other queries evicted key
    simp [kept]
  · simp [same, AList.lookup_insert_ne]

end Lookups

end PacketBrowser.Browse
