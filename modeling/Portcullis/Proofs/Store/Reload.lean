import Portcullis.Store.Persist

/-!
# Reading the store's file again

What becomes of a live store whose file yields no snapshot.

* `Store.YieldsNothing` says that a file cannot be read, or holds something that is no snapshot.
* `Store.reload_of_yieldsNothing` is the main result: an error is answered and the store stays as
  it was, unless the file is missing.
* A missing file is taken for an empty snapshot, as at the start, and empties the live store:
  `Store.reload_missing_forgets` shows it on a store with one row.
-/

namespace Portcullis

/-- Taking over no rows leaves no rows. -/
theorem AccessList.rows_replace_nil {ε : Type} (list : AccessList ε) :
    (list.replace []).rows = [] := by
  simp [AccessList.replace, Table.filter]

namespace Store

/-- No snapshot can be read from a path. -/
def YieldsNothing (files : Files) (path : String) : Prop :=
  ∀ bytes, files.read path = .ok bytes → Snapshot.decode? bytes = none

variable {files : Files} {path : String}

theorem readSnapshot_missing (h : files.read path = .error .notFound) :
    (readSnapshot files path).1 = .ok .empty := by
  unfold readSnapshot
  rw [h]

/-- Where nothing can be read that is an error, unless the file is missing. -/
theorem readSnapshot_of_yieldsNothing (hnone : YieldsNothing files path)
    (hthere : files.read path ≠ .error .notFound) :
    ∃ e, (readSnapshot files path).1 = .error e := by
  unfold readSnapshot
  split
  · next bytes hread =>
    simp only [hnone bytes hread]
    exact ⟨_, rfl⟩
  · next hread => exact absurd hread hthere
  · exact ⟨_, rfl⟩

/-- An empty snapshot takes all rows away. -/
theorem snapshot_apply_empty (store : Store) : (store.apply .empty).snapshot = .empty := by
  simp only [apply, snapshot, Snapshot.empty, AccessList.rows_replace_nil]
  rfl

variable {store : Store}

/-- A store whose snapshot cannot be read stays as it is. -/
theorem reload_of_readSnapshot_error {e : StoreError} (hpath : store.path = some path)
    (h : (readSnapshot files path).1 = .error e) :
    (reload files store).1 = .error e ∧ (reload files store).2.1 = store := by
  rcases hread : readSnapshot files path with ⟨r, events⟩
  obtain rfl : r = .error e := by rw [← h, hread]
  simp [reload, hpath, hread]

/-- A store whose file is missing is emptied. -/
theorem reload_of_missing (hpath : store.path = some path)
    (h : files.read path = .error .notFound) :
    (reload files store).1 = .ok () ∧ (reload files store).2.1.snapshot = .empty := by
  have hempty := readSnapshot_missing h
  rcases hread : readSnapshot files path with ⟨r, events⟩
  obtain rfl : r = .ok .empty := by rw [← hempty, hread]
  simp [reload, hpath, hread, snapshot_apply_empty]

/-- A store whose file yields no snapshot stays as it is when the file is read again: every row of
it, and every counter, for whatever reason there is none. Only a file that is missing is taken
for an empty one. -/
theorem reload_of_yieldsNothing (hpath : store.path = some path)
    (hnone : YieldsNothing files path) :
    (files.read path ≠ .error .notFound →
        (∃ e, (reload files store).1 = .error e) ∧ (reload files store).2.1 = store) ∧
      (files.read path = .error .notFound →
        (reload files store).1 = .ok () ∧ (reload files store).2.1.snapshot = .empty) := by
  refine ⟨fun hthere => ?_, reload_of_missing hpath⟩
  obtain ⟨e, he⟩ := readSnapshot_of_yieldsNothing hnone hthere
  obtain ⟨herror, hkept⟩ := reload_of_readSnapshot_error hpath he
  exact ⟨⟨e, herror⟩, hkept⟩

/-- A store with one domain, kept in a file. -/
def oneDomain : Store :=
  ofSnapshot { domains := [⟨9, "kept"⟩] } (some "/state.json")

/-- The file is a directory, and the domain is kept. -/
theorem reload_directory_keeps :
    (∀ bytes, (Files.empty.makeDirs "/state.json").2.read "/state.json" = .ok bytes →
        Snapshot.decode? bytes = none) ∧
      (reload (Files.empty.makeDirs "/state.json").2 oneDomain).2.1 = oneDomain := by
  have hread : (Files.empty.makeDirs "/state.json").2.read "/state.json" =
      .error .isADirectory := by
    rfl
  have hnone : YieldsNothing (Files.empty.makeDirs "/state.json").2 "/state.json" := by
    intro bytes hbytes
    cases hread.symm.trans hbytes
  have hthere : (Files.empty.makeDirs "/state.json").2.read "/state.json" ≠ .error .notFound := by
    intro hmissing
    cases hread.symm.trans hmissing
  exact ⟨hnone, ((reload_of_yieldsNothing rfl hnone).1 hthere).2⟩

/-- The file is missing, and the domain is lost. -/
theorem reload_missing_forgets :
    (∀ bytes, Files.empty.read "/state.json" = .ok bytes → Snapshot.decode? bytes = none) ∧
      oneDomain.snapshot.domains = [⟨9, "kept"⟩] ∧
      (reload Files.empty oneDomain).2.1.snapshot.domains = [] := by
  have hread : Files.empty.read "/state.json" = .error .notFound := by
    rfl
  refine ⟨fun bytes hbytes => ?_, rfl, ?_⟩
  · cases hread.symm.trans hbytes
  · have hreload := reload_of_missing (rfl : oneDomain.path = some "/state.json") hread
    rw [hreload.2]
    rfl

end Store

end Portcullis
