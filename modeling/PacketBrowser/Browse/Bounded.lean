import PacketBrowser.Browse.Store

/-!
# The store as a bounded map

What the store is for, in terms of the calls made on it. `remembered` is the content of the
latest insertion for a URL, unless the page was deleted, cleared or evicted since, and
`lastUse` the time of its latest insertion or touch. An insertion evicts the pages used
least recently, as few as bring the sizes under the cap, and never the page inserted.

The table refines this: a lookup returns what is remembered, whatever the order in which
rows of the same second are listed.
-/

namespace PacketBrowser.Browse

open Protocol Foundation

/-- A call that may change the store. -/
inductive Call where
  | insert (url etag : Text) (brotliBody : Bytes) (serverMaxAgeSecs : Int32)
  | touchFresh (url : Text)
  | touchLastUsed (url : Text)
  | delete (url : Text)
  | clear
  deriving DecidableEq

/-- A call, the time it was made, and the URLs whose pages it evicted. -/
structure Step where
  call : Call
  now : SystemTime
  evicted : List Text

section Calls

variable (cache : Cache) (entries : Entries) (now : SystemTime) (listing : List Row)

/-- The store after a call. -/
def Call.perform : Call → Entries
  | .insert url etag brotliBody maxAge =>
    cache.insert entries url etag brotliBody maxAge now
      (some (succeeding (entries.insert url (cache.freshRow etag brotliBody maxAge now)) listing))
  | .touchFresh url => Browse.touchFresh entries url now
  | .touchLastUsed url => Browse.touchLastUsed entries url now
  | .delete url => Browse.delete entries url
  | .clear => Browse.clear entries

/-- If the call asks for the rows in order, this is an answer. -/
def Call.Answered : Call → Prop
  | .insert url etag brotliBody maxAge => ¬ maxAge < 0 →
    Lists (entries.insert url (cache.freshRow etag brotliBody maxAge now)) listing
  | _ => True

/-- The pages a call evicts. -/
def Call.evicts : Call → List Text
  | .insert url etag brotliBody maxAge =>
    if maxAge < 0 then []
    else (cache.victims url (succeeding (entries.insert url
      (cache.freshRow etag brotliBody maxAge now)) listing)).map Sigma.fst
  | _ => []

end Calls

/-- Calls one after the other, newest first, and the store they lead to. -/
inductive Run (cache : Cache) : List Step → Entries → Prop
  | start : Run cache [] ∅
  | step {earlier : List Step} {entries : Entries} (run : Run cache earlier entries) (call : Call)
      (now : SystemTime) (listing : List Row) (answered : call.Answered cache entries now listing) :
      Run cache (⟨call, now, call.evicts cache entries now listing⟩ :: earlier)
        (call.perform cache entries now listing)

/-- What a lookup returns of a page, its times apart. -/
structure Content where
  etag : Text
  brotliBody : Bytes
  lifetime : Nat
  deriving DecidableEq, Repr

/-- What is remembered of a page that is found. -/
def Hit.content (hit : Hit) : Content := ⟨hit.etag, hit.brotliBody, hit.maxAge⟩

/-- The content of the latest insertion that was not meant to be dropped, unless the page
was deleted, cleared or evicted since. -/
def remembered (maxTtl : Nat) (url : Text) : List Step → Option Content
  | [] => none
  | step :: earlier =>
    match step.call with
    | .insert stored etag brotliBody maxAge =>
      if maxAge < 0 then remembered maxTtl url earlier
      else if stored = url then some ⟨etag, brotliBody, min maxAge.toInt.toNat maxTtl⟩
      else if url ∈ step.evicted then none
      else remembered maxTtl url earlier
    | .delete deleted => if deleted = url then none else remembered maxTtl url earlier
    | .clear => none
    | .touchFresh _ => remembered maxTtl url earlier
    | .touchLastUsed _ => remembered maxTtl url earlier

/-- The call uses the page of a URL. -/
def Call.uses (url : Text) : Call → Bool
  | .insert stored _ _ maxAge => !decide (maxAge < 0) && stored == url
  | .touchFresh touched => touched == url
  | .touchLastUsed touched => touched == url
  | _ => false

/-- The second in which the page of a URL was used last. -/
def lastUse (url : Text) : List Step → Nat
  | [] => 0
  | step :: earlier => if step.call.uses url then unixSecs step.now else lastUse url earlier

/-- The size of the page remembered for a URL. -/
def sizeOfPage (maxTtl : Nat) (history : List Step) (url : Text) : Nat :=
  match remembered maxTtl url history with
  | some content => content.brotliBody.length
  | none => 0

/-- The URLs of all pages remembered, each once. -/
def Complete (maxTtl : Nat) (history : List Step) (order : List Text) : Prop :=
  order.Nodup ∧ ∀ url, url ∈ order ↔ (remembered maxTtl url history).isSome

/-- The pages are in the order of their last use. -/
def InOrder (history : List Step) (order : List Text) : Prop :=
  order.Pairwise fun one two => lastUse one history ≤ lastUse two history

/-- An insertion evicts, of all pages but its own in the order of their last use, the first
ones, as few as bring the sizes under the cap. -/
def EvictsLru (cache : Cache) (step : Step) (earlier : List Step) : Prop :=
  ∀ url etag brotliBody maxAge, step.call = .insert url etag brotliBody maxAge → ¬ maxAge < 0 →
    let written := ⟨step.call, step.now, []⟩ :: earlier
    let size := sizeOfPage cache.maxTtl written
    ∃ order, Complete cache.maxTtl written order ∧ InOrder written order ∧
      Evict.Evicts size (fun other => other = url)
        (Evict.weight size order - cache.capBytes.toNat) order step.evicted

/-- After an insertion all pages together fit under the cap, unless the page inserted alone
does not. -/
def FitsCap (cache : Cache) (step : Step) (earlier : List Step) : Prop :=
  ∀ url etag brotliBody maxAge, step.call = .insert url etag brotliBody maxAge → ¬ maxAge < 0 →
    ∀ order, Complete cache.maxTtl (step :: earlier) order →
      Evict.weight (sizeOfPage cache.maxTtl (step :: earlier)) order ≤
        max cache.capBytes.toNat brotliBody.length

section Refinement

variable {cache : Cache} {history : List Step} {entries : Entries}

/-- The table holds what is remembered, and its columns are right. -/
structure Matches (cache : Cache) (history : List Step) (entries : Entries) : Prop where
  content : ∀ url, (lookup entries url).map Hit.content = remembered cache.maxTtl url history
  columns : ∀ url row, entries.lookup url = some row →
    row.size = row.brotliBody.length ∧ row.lastUsed = lastUse url history

/-- A page is remembered exactly if it is stored. -/
theorem Matches.isSome (same : Matches cache history entries) (url : Text) :
    (remembered cache.maxTtl url history).isSome = (entries.lookup url).isSome := by
  rw [← same.content url]
  simp [lookup]

/-- A stored page takes what is remembered of it. -/
theorem Matches.size (same : Matches cache history entries) {url : Text} {row : CacheRow}
    (stored : entries.lookup url = some row) : sizeOfPage cache.maxTtl history url = row.size := by
  unfold sizeOfPage
  rw [← same.content url, (same.columns url row stored).1]
  simp [lookup, stored, Hit.content, CacheRow.hit]

/-- A listing of the rows is a listing of the pages in the order of their last use. -/
theorem Matches.listed (same : Matches cache history entries) {listing : List Row}
    (lists : Lists entries listing) : Complete cache.maxTtl history (listing.map Sigma.fst) ∧
      InOrder history (listing.map Sigma.fst) := by
  refine ⟨⟨lists.nodup, fun url => ?_⟩, ?_⟩
  · rw [same.isSome url, List.mem_map]
    constructor
    · rintro ⟨⟨key, row⟩, member, rfl⟩
      rw [(lists.lookup_iff _ _).mp member]
      rfl
    · intro stored
      obtain ⟨row, found⟩ := Option.isSome_iff_exists.mp stored
      exact ⟨⟨url, row⟩, (lists.lookup_iff url row).mpr found, rfl⟩
  · apply List.pairwise_map.mpr
    refine lists.2.imp_of_mem fun {one two} first second ordered => ?_
    rw [← (same.columns _ _ ((lists.lookup_iff _ _).mp first)).2,
      ← (same.columns _ _ ((lists.lookup_iff _ _).mp second)).2]
    exact ordered

/-- A page whose row is unchanged but for its times. -/
theorem Matches.unchanged (same : Matches cache history entries) {step : Step} {after : Entries}
    (remembers : ∀ url, remembered cache.maxTtl url (step :: history) =
      remembered cache.maxTtl url history)
    (rows : ∀ url, (after.lookup url).map (fun row => (row.hit.content, row.size)) =
      (entries.lookup url).map fun row => (row.hit.content, row.size))
    (used : ∀ url row, after.lookup url = some row → row.lastUsed = lastUse url (step :: history)) :
    Matches cache (step :: history) after := by
  have contents : ∀ url, (lookup after url).map Hit.content = (lookup entries url).map Hit.content := by
    intro url
    have kept := congrArg (Option.map Prod.fst) (rows url)
    simpa [lookup, Function.comp_def] using kept
  constructor
  · intro url
    rw [contents, same.content, remembers]
  · intro url row stored
    refine ⟨?_, used url row stored⟩
    have kept := rows url
    rw [stored] at kept
    cases before : entries.lookup url with
    | none => simp [before] at kept
    | some old =>
      simp only [before, Option.map_some, Option.some.injEq, Prod.mk.injEq] at kept
      obtain ⟨content, size⟩ := kept
      have body : row.brotliBody = old.brotliBody := congrArg Content.brotliBody content
      rw [size, body]
      exact (same.columns url old before).1

/-- A touch changes times only. -/
theorem Matches.touched (same : Matches cache history entries) {call : Call} {now : SystemTime}
    {touched : Text} {change : CacheRow → CacheRow} (uses : ∀ url, call.uses url = (touched == url))
    (remembers : ∀ url, remembered cache.maxTtl url (⟨call, now, []⟩ :: history) =
      remembered cache.maxTtl url history)
    (content : ∀ row, (change row).hit.content = row.hit.content ∧ (change row).size = row.size)
    (used : ∀ row, (change row).lastUsed = unixSecs now) :
    Matches cache (⟨call, now, []⟩ :: history) (update entries touched change) := by
  apply same.unchanged remembers
  · intro url
    rw [lookup_update]
    split
    · cases entries.lookup url <;> simp [content]
    · rfl
  · intro url row stored
    rw [lookup_update] at stored
    simp only [lastUse, uses]
    by_cases here : touched = url
    · rw [if_pos here.symm] at stored
      obtain ⟨old, _, rfl⟩ := Option.map_eq_some_iff.mp stored
      simp [here, used]
    · rw [if_neg fun other => here other.symm] at stored
      simp [here, (same.columns url row stored).2]

/-- A page is deleted. -/
theorem Matches.deleted (same : Matches cache history entries) (url : Text) (now : SystemTime) :
    Matches cache (⟨.delete url, now, []⟩ :: history) (delete entries url) := by
  constructor
  · intro other
    simp only [lookup, lookup_delete, remembered]
    by_cases here : other = url
    · simp [here]
    · rw [if_neg here, if_neg fun back => here back.symm]
      exact same.content other
  · intro other row stored
    rw [lookup_delete] at stored
    split at stored
    · exact absurd stored (by simp)
    · simpa [lastUse, Call.uses] using same.columns other row stored

/-- A page is written, and nothing evicted yet. -/
theorem Matches.written (same : Matches cache history entries) (url etag : Text)
    (brotliBody : Bytes) {maxAge : Int32} (kept : ¬ maxAge < 0) (now : SystemTime) :
    Matches cache (⟨.insert url etag brotliBody maxAge, now, []⟩ :: history)
      (entries.insert url (cache.freshRow etag brotliBody maxAge now)) := by
  constructor
  · intro other
    simp only [lookup, remembered, if_neg kept]
    by_cases here : url = other
    · subst here
      simp [Hit.content, CacheRow.hit, Cache.freshRow, Cache.capped]
    · rw [if_neg here, AList.lookup_insert_ne fun back => here back.symm]
      simpa [lookup] using same.content other
  · intro other row stored
    by_cases here : url = other
    · subst here
      rw [AList.lookup_insert] at stored
      obtain rfl := Option.some.inj stored
      simp [Cache.freshRow, lastUse, Call.uses, kept]
    · rw [AList.lookup_insert_ne fun back => here back.symm] at stored
      simpa [lastUse, Call.uses, here] using same.columns other row stored

/-- The pages evicted are no longer remembered, the others still are. -/
theorem remembered_evicted {url etag : Text} {brotliBody : Bytes} {maxAge : Int32}
    (kept : ¬ maxAge < 0) (now : SystemTime) {evicted : List Text} (own : url ∉ evicted)
    (maxTtl : Nat) (other : Text) :
    remembered maxTtl other (⟨.insert url etag brotliBody maxAge, now, evicted⟩ :: history) =
      if other ∈ evicted then none
      else remembered maxTtl other (⟨.insert url etag brotliBody maxAge, now, []⟩ :: history) := by
  simp only [remembered, if_neg kept]
  by_cases here : url = other
  · subst here
    simp [own]
  · simp [here]

/-- Rows are evicted from the table. -/
theorem Matches.evicted {url etag : Text} {brotliBody : Bytes} {maxAge : Int32} {now : SystemTime}
    (kept : ¬ maxAge < 0) {victims : List Row} (own : url ∉ victims.map Sigma.fst)
    (same : Matches cache (⟨.insert url etag brotliBody maxAge, now, []⟩ :: history) entries) :
    Matches cache (⟨.insert url etag brotliBody maxAge, now, victims.map Sigma.fst⟩ :: history)
      (deleteAll entries victims) := by
  constructor
  · intro other
    rw [remembered_evicted kept now own, ← same.content other]
    simp only [lookup, lookup_deleteAll]
    split <;> rfl
  · intro other row stored
    rw [lookup_deleteAll] at stored
    split at stored
    · exact absurd stored (by simp)
    · exact same.columns other row stored

/-- The table after any calls holds what is remembered of them. -/
theorem Run.matches (run : Run cache history entries) : Matches cache history entries := by
  induction run with
  | start =>
    constructor
    · exact fun _ => rfl
    · exact fun url row stored => absurd stored (by simp)
  | @step earlier entries _ call now listing _ inductionHypothesis =>
    cases call with
    | insert url etag brotliBody maxAge =>
      by_cases dropped : maxAge < 0
      · simp only [Call.perform, Call.evicts, Cache.insert, if_pos dropped]
        exact inductionHypothesis.unchanged (fun _ => by simp [remembered, dropped]) (fun _ => rfl)
          fun url row stored => by
            simpa [lastUse, Call.uses, dropped] using (inductionHypothesis.columns url row stored).2
      · simp only [Call.perform, Call.evicts, Cache.insert, if_neg dropped]
        apply (inductionHypothesis.written url etag brotliBody dropped now).evicted dropped
        intro own
        obtain ⟨victim, member, key⟩ := List.mem_map.mp own
        exact cache.victim_other url _ member key
    | touchFresh url =>
      exact inductionHypothesis.touched (fun _ => rfl) (fun _ => rfl) (fun _ => ⟨rfl, rfl⟩) fun _ => rfl
    | touchLastUsed url =>
      exact inductionHypothesis.touched (fun _ => rfl) (fun _ => rfl) (fun _ => ⟨rfl, rfl⟩) fun _ => rfl
    | delete url => exact inductionHypothesis.deleted url now
    | clear =>
      constructor
      · exact fun _ => rfl
      · exact fun url row stored => absurd stored (by simp [Call.perform])

/-- The capacity is compared as it is configured. -/
theorem Cache.cap_eq (below : cache.capBytes.toNat < 9223372036854775808) :
    cache.cap = cache.capBytes.toNat := by
  show cache.capBytes.toBitVec.toInt = _
  apply BitVec.toInt_eq_toNat_of_lt
  have bits : cache.capBytes.toBitVec.toNat = cache.capBytes.toNat := rfl
  omega

section Insertion

variable {url etag : Text} {brotliBody : Bytes} {maxAge : Int32}

/-- An insertion evicts the pages used least recently, no more than necessary. -/
theorem insertion_evicts (run : Run cache history entries)
    (below : cache.capBytes.toNat < 9223372036854775808) (kept : ¬ maxAge < 0) (now : SystemTime)
    {listing : List Row}
    (lists : Lists (entries.insert url (cache.freshRow etag brotliBody maxAge now)) listing) :
    EvictsLru cache ⟨.insert url etag brotliBody maxAge, now,
      (Call.insert url etag brotliBody maxAge).evicts cache entries now listing⟩ history := by
  rintro _ _ _ _ same _
  obtain ⟨rfl, rfl, rfl, rfl⟩ := Call.insert.inj same
  have written := run.matches.written url etag brotliBody kept now
  obtain ⟨complete, ordered⟩ := written.listed lists
  let pages := sizeOfPage cache.maxTtl (⟨.insert url etag brotliBody maxAge, now, []⟩ :: history)
  have sizes : ∀ row ∈ listing, row.2.size = pages row.1 := fun row member =>
    (written.size ((lists.lookup_iff row.1 row.2).mp member)).symm
  have whole : total (entries.insert url (cache.freshRow etag brotliBody maxAge now)) =
      Evict.weight pages (listing.map Sigma.fst) := by
    rw [Evict.weight_map pages Sigma.fst listing sizes]
    exact (Evict.weight_perm lists.1).symm
  have evicts : Evict.Evicts pages (fun other => decide (other = url))
      (total (entries.insert url (cache.freshRow etag brotliBody maxAge now)) - cache.cap)
      (listing.map Sigma.fst) _ :=
    (cache.victims_evict url (succeeding (entries.insert url
      (cache.freshRow etag brotliBody maxAge now)) listing)).map sizes fun _ _ => by simp [succeeding]
  rw [whole, Cache.cap_eq below] at evicts
  refine ⟨listing.map Sigma.fst, complete, ordered, ?_⟩
  simp only [Call.evicts, if_neg kept]
  exact evicts

/-- What is left fits, unless the page inserted alone does not. -/
theorem insertion_fits {now : SystemTime} {evicted : List Text} (kept : ¬ maxAge < 0)
    (evicts : EvictsLru cache ⟨.insert url etag brotliBody maxAge, now, evicted⟩ history) :
    FitsCap cache ⟨.insert url etag brotliBody maxAge, now, evicted⟩ history := by
  rintro _ _ _ _ same _ left ⟨leftOnce, leftComplete⟩
  obtain ⟨rfl, rfl, rfl, rfl⟩ := Call.insert.inj same
  obtain ⟨order, ⟨once, complete⟩, _, chosen⟩ := evicts url etag brotliBody maxAge rfl kept
  simp only at chosen complete
  have own : url ∉ evicted := fun member => by simpa using (chosen.offered member).2
  have stays : ∀ other, remembered cache.maxTtl other
      (⟨.insert url etag brotliBody maxAge, now, evicted⟩ :: history) = if other ∈ evicted then none
        else remembered cache.maxTtl other (⟨.insert url etag brotliBody maxAge, now, []⟩ :: history) :=
    remembered_evicted kept now own cache.maxTtl
  let pages := sizeOfPage cache.maxTtl (⟨.insert url etag brotliBody maxAge, now, []⟩ :: history)
  have rest : left.Perm (order.filter fun other => !decide (other ∈ evicted)) := by
    apply (List.perm_ext_iff_of_nodup leftOnce (once.filter _)).mpr
    intro other
    rw [leftComplete, stays]
    by_cases gone : other ∈ evicted <;> simp [gone, complete]
  have given : evicted.Perm (order.filter fun other => decide (other ∈ evicted)) := by
    have distinct : evicted.Nodup := (once.filter _).sublist chosen.first.sublist
    apply (List.perm_ext_iff_of_nodup distinct (once.filter _)).mpr
    intro other
    simp only [List.mem_filter, decide_eq_true_eq]
    exact ⟨fun member => ⟨(chosen.offered member).1, member⟩, And.right⟩
  have alone : Evict.weight pages (order.filter fun other => decide (other = url)) =
      brotliBody.length := by
    have single : (order.filter fun other => decide (other = url)).Perm [url] := by
      apply (List.perm_ext_iff_of_nodup (once.filter _) (List.nodup_singleton url)).mpr
      intro other
      simp only [List.mem_filter, decide_eq_true_eq, List.mem_singleton]
      refine ⟨And.right, ?_⟩
      rintro rfl
      exact ⟨(complete other).mpr (by simp [remembered, kept]), rfl⟩
    rw [Evict.weight_perm single]
    simp [Evict.weight, pages, sizeOfPage, remembered, kept]
  have sizes : Evict.weight (sizeOfPage cache.maxTtl
      (⟨.insert url etag brotliBody maxAge, now, evicted⟩ :: history)) left =
      Evict.weight pages left := by
    apply Evict.weight_congr
    intro other member
    have here := rest.subset member
    simp only [List.mem_filter, Bool.not_eq_true', decide_eq_false_iff_not] at here
    simp [pages, sizeOfPage, stays, here.2]
  have split : Evict.weight pages _ + Evict.weight pages _ = Evict.weight pages order :=
    Evict.weight_filter (fun other => decide (other ∈ evicted)) order
  rw [← Evict.weight_perm given, ← Evict.weight_perm rest] at split
  have bound : (Evict.weight pages order : Int) - Evict.weight pages evicted ≤
    max ((Evict.weight pages order : Int) - (Evict.weight pages order - cache.capBytes.toNat))
      (Evict.weight pages (order.filter fun other => decide (other = url))) := chosen.rest
  rw [alone] at bound
  rw [sizes]
  omega

end Insertion

/-- The store is a bounded map. A lookup returns the etag, body and lifetime of the latest
insertion unless the page was deleted, cleared or evicted since; whatever else is called in
between changes times only. An insertion evicts other pages, those used least recently and
no more than necessary, and afterwards the pages fit under the cap, unless the one inserted
alone does not.

The history determines what is remembered of each URL, by induction on the run. An insertion
takes rows off the listing by their last use, and stops as soon as the sizes fit. -/
theorem cache_bounded_lru (cache : Cache) (below : cache.capBytes.toNat < 9223372036854775808)
    {history : List Step} {entries : Entries} (run : Run cache history entries) :
    (∀ url, (lookup entries url).map Hit.content = remembered cache.maxTtl url history) ∧
      ∀ step earlier, history = step :: earlier →
        EvictsLru cache step earlier ∧ FitsCap cache step earlier := by
  refine ⟨run.matches.content, ?_⟩
  rintro step earlier rfl
  cases run with
  | @step _ entries run call now listing answered =>
    have evicts : EvictsLru cache ⟨call, now, call.evicts cache entries now listing⟩ earlier := by
      intro url etag brotliBody maxAge same kept
      obtain rfl : call = _ := same
      exact insertion_evicts run below kept now (answered kept) _ _ _ _ rfl kept
    constructor
    · exact evicts
    · intro url etag brotliBody maxAge same kept
      obtain rfl : call = _ := same
      exact insertion_fits kept evicts _ _ _ _ rfl kept

/-- Two pages of twenty bytes and room for thirty: the second evicts the first. -/
theorem cache_bounded_lru_sample :
    ∃ (cache : Cache) (history : List Step) (entries : Entries) (one two : Text),
      Run cache history entries ∧ history.map Step.evicted = [[one], []] ∧
      lookup entries one = none ∧ (lookup entries two).isSome ∧
      (∀ url, (lookup entries url).map Hit.content = remembered cache.maxTtl url history) ∧
      ∀ step earlier, history = step :: earlier →
        EvictsLru cache step earlier ∧ FitsCap cache step earlier := by
  let cache : Cache := ⟨30, 600⟩
  let one : Text := ['a']
  let two : Text := ['b']
  let page : Bytes := List.replicate 20 0
  let first : Call := .insert one [] page 300
  let second : Call := .insert two [] page 300
  let before : Entries := first.perform cache ∅ 0 [⟨one, cache.freshRow [] page 300 0⟩]
  let rows : List Row := [⟨one, cache.freshRow [] page 300 0⟩,
    ⟨two, cache.freshRow [] page 300 nanosPerSec⟩]
  have written : Run cache _ before := .step .start first 0 [⟨one, cache.freshRow [] page 300 0⟩]
    (by intro; decide)
  have run := written.step second nanosPerSec rows (by intro; decide)
  exact ⟨cache, _, _, one, two, run, by decide, by decide, by decide,
    cache_bounded_lru cache (by decide) run⟩

end Refinement

end PacketBrowser.Browse
