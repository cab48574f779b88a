import Portcullis.Proofs.Routing.Grouping
import Portcullis.Proofs.Store.Contents
import Portcullis.Store.Lookup

/-!
# The order of rows

What is compiled depends on the routing rows and not on the order in which they are held, listed
or entered, as long as no table has two rows with one id.

* `mergeSort_byId_eq` and `mergeSort_before_eq`: rows in any order are sorted to one list, since
  a sort key is shared by no two of them.  `find?_eq_of_perm`: a row is found in any order.
  `filter_mergeSort`: rows that are left out leave no trace in the order of the others.
* `RouteSource.Alike` relates two sources that list the routes of a listener in any order;
  `resolveStream_eq_of_alike` and `resolveHttp_eq_of_alike` say that routes resolve alike.
* `build_of_sameRouting` is the main result.
-/

namespace Portcullis

variable {ρ : Type} [Row ρ]

/-! ## Sorting and searching -/

/-- Sorting forgets the order where no two elements are before each other. -/
theorem mergeSort_eq_of_perm {α : Type} {le : α → α → Bool}
    (trans : ∀ a b c, le a b = true → le b c = true → le a c = true)
    (total : ∀ a b, (le a b || le b a) = true) {as bs : List α} (h : as.Perm bs)
    (anti : ∀ a b, a ∈ as → b ∈ as → le a b = true → le b a = true → a = b) :
    as.mergeSort le = bs.mergeSort le := by
  have hperm : (as.mergeSort le).Perm (bs.mergeSort le) :=
    (List.mergeSort_perm as le).trans (h.trans (List.mergeSort_perm bs le).symm)
  refine hperm.eq_of_pairwise (fun a b ha hb => ?_)
    (List.pairwise_mergeSort trans total as) (List.pairwise_mergeSort trans total bs)
  exact anti a b (List.mem_mergeSort.1 ha) (h.mem_iff.2 (List.mem_mergeSort.1 hb))

/-- Rows with distinct ids are sorted by id to one list. -/
theorem mergeSort_byId_eq {as bs : List ρ} (hids : (as.map Row.id).Nodup) (h : as.Perm bs) :
    as.mergeSort byId = bs.mergeSort byId := by
  refine mergeSort_eq_of_perm byId_trans byId_total h fun a b ha hb hab hba => ?_
  simp only [byId, decide_eq_true_eq] at hab hba
  exact List.inj_on_of_nodup_map hids ha hb (UInt32.le_antisymm hab hba)

/-- Stream routes with distinct ids are sorted by index and id to one list. -/
theorem mergeSort_before_eq {as bs : List StreamRoute} (hids : (as.map Row.id).Nodup)
    (h : as.Perm bs) : as.mergeSort StreamRoute.before = bs.mergeSort StreamRoute.before := by
  refine mergeSort_eq_of_perm StreamRoute.before_trans StreamRoute.before_total h
    fun a b ha hb hab hba => ?_
  refine List.inj_on_of_nodup_map hids ha hb ?_
  rw [StreamRoute.before_iff] at hab hba
  rcases hab with hab | ⟨hindex, hab⟩
  · rcases hba with hba | ⟨hindex, -⟩
    · exact absurd (UInt32.lt_trans hab hba) (UInt32.lt_irrefl _)
    · exact absurd (hindex ▸ hab) (UInt32.lt_irrefl _)
  · rcases hba with hba | ⟨-, hba⟩
    · exact absurd (hindex ▸ hba) (UInt32.lt_irrefl _)
    · exact UInt32.le_antisymm hab hba

/-- An element is sorted in before the first that does not come before it. -/
theorem mergeSort_cons_of_split {α : Type} {le : α → α → Bool}
    (trans : ∀ a b c, le a b = true → le b c = true → le a c = true)
    (total : ∀ a b, (le a b || le b a) = true) {a : α} {as front back : List α}
    (h : as.mergeSort le = front ++ back) (hfront : ∀ b ∈ front, le a b = false)
    (hback : ∀ b ∈ back, le a b = true) :
    (a :: as).mergeSort le = front ++ a :: back := by
  obtain ⟨front', back', hcons, hsplit, hfront'⟩ := List.mergeSort_cons trans total a as
  have hsorted := List.pairwise_mergeSort trans total (a :: as)
  rw [hcons] at hsorted
  have hback' : ∀ b ∈ back', le a b = true :=
    (List.pairwise_cons.1 (List.pairwise_append.1 hsorted).2.1).1
  have htake : ∀ {xs ys : List α}, (∀ b ∈ xs, le a b = false) → (∀ b ∈ ys, le a b = true) →
      (xs ++ ys).takeWhile (fun b => !le a b) = xs := by
    intro xs ys hxs hys
    rw [List.takeWhile_append_of_pos fun b hb => by rw [hxs b hb]; rfl]
    cases ys with
    | nil => simp
    | cons y ys => simp [hys y List.mem_cons_self]
  have hsame : front' = front :=
    calc front' = (front' ++ back').takeWhile fun b => !le a b :=
          (htake (fun b hb => by simpa using hfront' b hb) hback').symm
      _ = (front ++ back).takeWhile fun b => !le a b := by rw [← hsplit, h]
      _ = front := htake hfront hback
  subst hsame
  rw [hcons, List.append_cancel_left (hsplit.symm.trans h)]

/-- Selecting before sorting is selecting after it, also where elements tie. -/
theorem filter_mergeSort {α : Type} {le : α → α → Bool}
    (trans : ∀ a b c, le a b = true → le b c = true → le a c = true)
    (total : ∀ a b, (le a b || le b a) = true) (p : α → Bool) (as : List α) :
    (as.mergeSort le).filter p = (as.filter p).mergeSort le := by
  induction as with
  | nil => rw [List.filter_nil, List.mergeSort_nil, List.filter_nil]
  | cons a as ih =>
    obtain ⟨front, back, hcons, hsplit, hfront⟩ := List.mergeSort_cons trans total a as
    rw [hcons]
    rw [hsplit, List.filter_append] at ih
    by_cases ha : p a = true
    · have hsorted := List.pairwise_mergeSort trans total (a :: as)
      rw [hcons] at hsorted
      have hback := (List.pairwise_cons.1 (List.pairwise_append.1 hsorted).2.1).1
      rw [List.filter_append, List.filter_cons_of_pos ha, List.filter_cons_of_pos ha]
      refine (mergeSort_cons_of_split trans total ih.symm (fun b hb => ?_) fun b hb => ?_).symm
      · simpa using hfront b (List.mem_filter.1 hb).1
      · exact hback b (List.mem_filter.1 hb).1
    · rw [List.filter_append, List.filter_cons_of_neg ha, List.filter_cons_of_neg ha, ih]

/-- A search for what only one element satisfies finds it in any order. -/
theorem find?_eq_of_perm {α : Type} {p : α → Bool} {as bs : List α} (h : as.Perm bs)
    (unique : ∀ a b, a ∈ as → b ∈ as → p a = true → p b = true → a = b) :
    as.find? p = bs.find? p := by
  cases ha : as.find? p with
  | none =>
    symm
    rw [List.find?_eq_none] at ha ⊢
    exact fun b hb => ha b (h.mem_iff.2 hb)
  | some a =>
    have hmem := List.mem_of_find?_eq_some ha
    have hpa := List.find?_some ha
    cases hb : bs.find? p with
    | none => exact absurd hpa (List.find?_eq_none.1 hb a (h.mem_iff.1 hmem))
    | some b =>
      have hmem' := h.mem_iff.2 (List.mem_of_find?_eq_some hb)
      rw [unique a b hmem hmem' hpa (List.find?_some hb)]

/-- A listener is found by its id in any order. -/
theorem lastListener?_eq_of_perm {ls ls' : List Listener} (hids : (ls.map Row.id).Nodup)
    (h : ls.Perm ls') : lastListener? ls = lastListener? ls' := by
  funext id
  refine find?_eq_of_perm (((List.reverse_perm ls).trans h).trans (List.reverse_perm ls').symm)
    fun a b ha hb hpa hpb => ?_
  refine List.inj_on_of_nodup_map hids (List.mem_reverse.1 ha) (List.mem_reverse.1 hb) ?_
  exact (eq_of_beq hpa).trans (eq_of_beq hpb).symm

/-! ## Sources that list in another order -/

/-- Two answers list the same rows, with distinct ids and in any order, or both fail alike. -/
inductive SameListing : Except StoreError (List ρ) → Except StoreError (List ρ) → Prop where
  | listed {as bs : List ρ} (hids : (as.map Row.id).Nodup) (h : as.Perm bs) :
      SameListing (.ok as) (.ok bs)
  | failed (e : StoreError) : SameListing (.error e) (.error e)

/-- Two sources answer alike, save for the order in which they list the routes of a listener. -/
structure RouteSource.Alike (a b : RouteSource) : Prop where
  streamRoutesOf : ∀ id, SameListing (a.streamRoutesOf id) (b.streamRoutesOf id)
  httpRoutesOf : ∀ id, SameListing (a.httpRoutesOf id) (b.httpRoutesOf id)
  domain? : a.domain? = b.domain?
  sshPort? : a.sshPort? = b.sshPort?

section Alike

variable {a b : RouteSource} {ls ls' : List Listener}

/-- A stream route resolves by what a source finds, and by the listeners in any order. -/
theorem StreamRoute.resolve_eq_of_alike (hab : a.Alike b) (hids : (ls.map Row.id).Nodup)
    (hls : ls.Perm ls') (lead : String) (id : UInt32) :
    StreamRoute.resolve a ls lead id = StreamRoute.resolve b ls' lead id := by
  funext x
  have htarget : x.target? a ls = x.target? b ls' := by
    unfold StreamRoute.target?
    rw [lastListener?_eq_of_perm hids hls, hab.sshPort?]
  rw [resolve, resolve, htarget, hab.domain?]

/-- The routes of a stream listener resolve alike in any order. -/
theorem resolveStream_eq_of_alike (hab : a.Alike b) (hids : (ls.map Row.id).Nodup)
    (hls : ls.Perm ls') (lead : String) (l : Listener) :
    resolveStream a ls lead l = resolveStream b ls' lead l := by
  unfold resolveStream
  rw [StreamRoute.resolve_eq_of_alike hab hids hls]
  have hlisting := hab.streamRoutesOf l.id
  generalize a.streamRoutesOf l.id = ra at hlisting ⊢
  generalize b.streamRoutesOf l.id = rb at hlisting ⊢
  cases hlisting with
  | listed hids h => simp only [mergeSort_before_eq hids h]
  | failed e => rfl

/-- The routes of an http listener resolve alike in any order. -/
theorem resolveHttp_eq_of_alike (hab : a.Alike b) (l : Listener) :
    resolveHttp a l = resolveHttp b l := by
  have hresolve : HttpRoute.resolve a l.id = HttpRoute.resolve b l.id := by
    funext x
    rw [HttpRoute.resolve, HttpRoute.resolve, hab.domain?]
  unfold resolveHttp
  rw [hresolve]
  have hlisting := hab.httpRoutesOf l.id
  generalize a.httpRoutesOf l.id = ra at hlisting ⊢
  generalize b.httpRoutesOf l.id = rb at hlisting ⊢
  cases hlisting with
  | listed hids h => simp only [mergeSort_byId_eq hids h]
  | failed e => rfl

end Alike

/-! ## Whole configurations -/

section Stores

variable {store store' : Store}

/-- Stores with the same routing rows answer every question of the compiler alike. -/
theorem source_eq_of_sameRouting (hids : store.snapshot.DistinctIds)
    (h : store.snapshot.SameRouting store'.snapshot) :
    store.routing.source = store'.routing.source := by
  have hdomains : store.routing.domains = store'.routing.domains := Table.eq_of_perm h.domains
  have hsshPorts : store.routing.sshPorts = store'.routing.sshPorts :=
    Table.eq_of_perm h.sshPorts
  have hstreams : store.routing.streamRoutesOf = store'.routing.streamRoutesOf := by
    funext id
    exact mergeSort_before_eq (hids.streamRoutes.sublist (List.filter_sublist.map _))
      (h.streamRoutes.filter _)
  have hhttps : store.routing.httpRoutesOf = store'.routing.httpRoutesOf := by
    funext id
    exact mergeSort_byId_eq (hids.httpRoutes.sublist (List.filter_sublist.map _))
      (h.httpRoutes.filter _)
  unfold Routing.source
  rw [hdomains, hsshPorts, hstreams, hhttps]

/-- Stores with the same routing rows are compiled to the same configuration, or refused for the
same reason. -/
theorem build_eq_of_sameRouting (s : ProxySettings) (hids : store.snapshot.DistinctIds)
    (h : store.snapshot.SameRouting store'.snapshot) :
    build s store.routing = build s store'.routing := by
  have hlisteners : store.routing.listenersById = store'.routing.listenersById :=
    mergeSort_byId_eq hids.listeners h.listeners
  have hlength : store.routing.listeners.length = store'.routing.listeners.length :=
    h.listeners.length_eq
  have hstats : Stats.of store.routing = Stats.of store'.routing := by
    funext g c
    rw [Stats.of, Stats.of, hlength]
  rw [build, build, gather, gather, source_eq_of_sameRouting hids h, hlisteners, hstats]

/-- A store that names its routes the other way round is alike. -/
theorem alike_reversed (hids : store.snapshot.DistinctIds) :
    store.routing.source.Alike store.routing.source.reversed where
  streamRoutesOf id := by
    refine .listed ?_ (List.reverse_perm _).symm
    refine (((List.mergeSort_perm _ StreamRoute.before).map Row.id).nodup_iff).2 ?_
    exact hids.streamRoutes.sublist (List.filter_sublist.map _)
  httpRoutesOf id := by
    refine .listed ?_ (List.reverse_perm _).symm
    refine (((List.mergeSort_perm _ byId).map Row.id).nodup_iff).2 ?_
    exact hids.httpRoutes.sublist (List.filter_sublist.map _)
  domain? := rfl
  sshPort? := rfl

end Stores

/-- The configuration is a function of the set of routing rows. Stores with the same rows are
compiled to the same result, be it a configuration with its size and texts or an error, and with
the same reports. So are stores that are made of a snapshot or take one over, in whatever order it
lists its rows, and stores that rows were entered into in whatever order. The routes of a listener
resolve alike in whatever order a source lists them. -/
theorem build_of_sameRouting (s : ProxySettings) :
    (∀ store store' : Store, store.snapshot.DistinctIds →
      store.snapshot.SameRouting store'.snapshot →
        build s store.routing = build s store'.routing ∧
          preview s (.ok store.routing) = preview s (.ok store'.routing)) ∧
      (∀ t t' : Snapshot, t.DistinctIds → t.SameRouting t' → ∀ (store : Store) path path',
        build s (Store.ofSnapshot t path).routing = build s (Store.ofSnapshot t' path').routing ∧
          build s (store.apply t).routing = build s (store.apply t').routing) ∧
      (∀ (store : Store) (rows rows' : List RoutingRow), store.snapshot.DistinctIds →
        (Snapshot.ofRoutingRows rows).DistinctIds → rows.Perm rows' →
          build s (rows.foldl Store.upsert store).routing =
            build s (rows'.foldl Store.upsert store).routing) ∧
      ∀ (a b : RouteSource) (ls ls' : List Listener) (l : Listener), a.Alike b →
        (ls.map Row.id).Nodup → ls.Perm ls' →
          resolveStream a ls s.poolPrefix l = resolveStream b ls' s.poolPrefix l ∧
            resolveHttp a l = resolveHttp b l := by
  refine ⟨fun store store' hids h => ?_, fun t t' hids h store path path' => ?_,
    fun store rows rows' hstore hids h => ?_, fun a b ls ls' l hab hids hls => ?_⟩
  · have hbuild := build_eq_of_sameRouting s hids h
    exact ⟨hbuild, by rw [preview, preview, hbuild]⟩
  · obtain ⟨hdistinct, hsame⟩ := Store.sameRouting_ofSnapshot hids h path path'
    have hbuild := build_eq_of_sameRouting s hdistinct hsame
    -- Taking over a snapshot leaves the routing tables that a new store would have.
    exact ⟨hbuild, hbuild⟩
  · obtain ⟨hdistinct, hsame⟩ := Store.sameRouting_upserts hstore hids h
    exact build_eq_of_sameRouting s hdistinct hsame
  · exact ⟨resolveStream_eq_of_alike hab hids hls s.poolPrefix l, resolveHttp_eq_of_alike hab l⟩

/-- Two listeners share a port, and their routes share an index and a pool. -/
def twinListeners : Snapshot where
  listeners := [⟨3, 443, .stream, false, .blacklist, ""⟩, ⟨2, 443, .stream, true, .whitelist, ""⟩]
  domains := [⟨1, "a.example"⟩, ⟨4, "default"⟩]
  streamRoutes :=
    [{ id := 7, domainId := 1, listenId := 2, targetAddress := "192.0.2.1", targetPort := 443 },
      { id := 5, domainId := 4, listenId := 3, destination := .sshLocal, sshPortId := 9 }]
  httpRoutes := []
  sshPorts := [⟨9, 2222⟩, ⟨8, 22⟩]

/-- The rows of `twinListeners`, each table the other way round. -/
def twinListenersReversed : Snapshot where
  listeners := twinListeners.listeners.reverse
  domains := twinListeners.domains.reverse
  streamRoutes := twinListeners.streamRoutes.reverse
  sshPorts := twinListeners.sshPorts.reverse

/-- The rows of `twinListeners`, each entered by itself. -/
def twinRows : List RoutingRow :=
  twinListeners.listeners.map .listener ++ twinListeners.domains.map .domain ++
    twinListeners.streamRoutes.map .streamRoute ++ twinListeners.sshPorts.map .sshPort

/-- The tables of `twinListeners` may be listed and its rows entered the other way round, and so
may the routes of a listener be listed. -/
theorem build_of_sameRouting_twinListeners :
    build {} (Store.ofSnapshot twinListeners none).routing =
        build {} (Store.ofSnapshot twinListenersReversed none).routing ∧
      build {} (Store.empty.apply twinListeners).routing =
        build {} (Store.empty.apply twinListenersReversed).routing ∧
      build {} (twinRows.foldl Store.upsert Store.empty).routing =
        build {} (twinRows.reverse.foldl Store.upsert Store.empty).routing ∧
      ∀ l, resolveStream (Store.ofSnapshot twinListeners none).routing.source
          twinListeners.listeners "ffus_" l =
        resolveStream (Store.ofSnapshot twinListeners none).routing.source.reversed
          twinListeners.listeners.reverse "ffus_" l := by
  have hids : twinListeners.DistinctIds :=
    ⟨by decide, by decide, by decide, by decide, by decide⟩
  have hsame : twinListeners.SameRouting twinListenersReversed :=
    ⟨(List.reverse_perm _).symm, (List.reverse_perm _).symm, (List.reverse_perm _).symm, .refl _,
      (List.reverse_perm _).symm⟩
  obtain ⟨hstore, hstores⟩ := Store.sameRouting_ofSnapshot hids hsame none none
  obtain ⟨contents, snapshots, upserts, sources⟩ := build_of_sameRouting {}
  refine ⟨(contents _ _ hstore hstores).1, (snapshots _ _ hids hsame .empty none none).2,
    upserts .empty twinRows _ ⟨.nil, .nil, .nil, .nil, .nil⟩ ?_ (List.reverse_perm _).symm,
    fun l => (sources _ _ _ _ l (alike_reversed hstore) hids.listeners
      (List.reverse_perm _).symm).1⟩
  exact ⟨by decide, by decide, by decide, by decide, by decide⟩

end Portcullis
