import Portcullis.Proofs.Files.Places

/-!
# Operations that succeed

A path along which an operation has succeeded stays one along which operations succeed, as long as
no directory goes away.

* `Files.Walks` says that a path can be walked to the name of a file, whether or not the file is
  there; `walks_of_write` finds such paths.
* `Walks.find`, `Walks.write`, `Walks.remove` and `Walks.rename` say what operations on such a path
  do, from what stands at its place alone.
* `makeAlong_again` says that directories that have been made need not be made again.
-/

namespace Portcullis.Files

variable {t u : Files} {path : String} {content : List UInt8}

/-! ## Paths to files -/

/-- A path can be walked to the name of a file. -/
def Walks (t : Files) (path : String) : Prop :=
  ∃ r name, t.reach path = .ok r ∧ r.last = .name name ∧ r.slash = false ∧
    name.utf8ByteSize ≤ maxName

theorem Stay.trans {v : Files} (h : Stay t u) (h' : Stay u v) : Stay t v :=
  ⟨fun place hdir => h'.directory place (h.directory place hdir),
    h'.workingDir.trans h.workingDir⟩

theorem Stay.walks (h : Stay t u) (hwalk : t.Walks path) : u.Walks path := by
  obtain ⟨r, name, hr, hname⟩ := hwalk
  exact ⟨r, name, h.reach hr, hname⟩

/-- What has been written to can be walked to. -/
theorem walks_of_write (h : t.write path content = .ok u) : t.Walks path := by
  simp only [write, bind_eq_ok] at h
  obtain ⟨r, hr, h⟩ := h
  split at h
  · next name hname =>
    obtain ⟨hslash, h⟩ := guard_eq_ok.1 h
    obtain ⟨hshort, -⟩ := guard_eq_ok.1 h
    exact ⟨r, name, hr, hname, by simpa using hslash, Nat.le_of_not_lt hshort⟩
  · cases h

theorem ne_directory_of_contentAt? {place : Location} (h : t.contentAt? place = some content) :
    t.entryAt? place ≠ some .directory := by
  simp [contentAt?_eq_some_iff.1 h]

/-! ## What operations do on them -/

namespace Walks

theorem find (h : t.Walks path) :
    t.find path =
      match t.entryAt? (t.aim path) with
      | none => .error .notFound
      | some e => .ok (t.aim path, e) := by
  obtain ⟨r, name, hr, hname, hslash, hshort⟩ := h
  rw [← aim_of_reach hr hname]
  simp only [Files.find, hr, hname, bind, Except.bind, if_neg (Nat.not_lt.2 hshort)]
  rcases t.entryAt? (r.directory ++ [name]) with _ | _ | bytes
  · rfl
  · rfl
  · simp only [hslash]
    rfl

theorem find_of_file (h : t.Walks path) (hcontent : t.contentAt? (t.aim path) = some content) :
    t.find path = .ok (t.aim path, .file content) := by
  rw [h.find, contentAt?_eq_some_iff.1 hcontent]

theorem find_of_none (h : t.Walks path) (hnone : t.entryAt? (t.aim path) = none) :
    t.find path = .error .notFound := by
  rw [h.find, hnone]

theorem write (h : t.Walks path) (hfree : t.entryAt? (t.aim path) ≠ some .directory)
    (content : List UInt8) :
    t.write path content = .ok (t.put (t.aim path) (.file content)) := by
  obtain ⟨r, name, hr, hname, hslash, hshort⟩ := h
  rw [← aim_of_reach hr hname] at hfree ⊢
  simp only [Files.write, hr, hname, hslash, bind, Except.bind, if_neg (Nat.not_lt.2 hshort)]
  rcases hentry : t.entryAt? (r.directory ++ [name]) with _ | _ | bytes
  · rfl
  · exact absurd hentry hfree
  · rfl

theorem remove (h : t.Walks path) (hcontent : t.contentAt? (t.aim path) = some content) :
    t.remove path = .ok (t.cut (t.aim path)) := by
  obtain ⟨r, name, hr, hname, hslash, hshort⟩ := h
  rw [← aim_of_reach hr hname] at hcontent ⊢
  simp only [Files.remove, hr, hname, hslash, contentAt?_eq_some_iff.1 hcontent, bind, Except.bind,
    if_neg (Nat.not_lt.2 hshort)]
  rfl

/-- A file can be given any path at which no directory stands. -/
theorem rename {old new : String} (hrooted : t.Rooted) (hold : t.Walks old) (hnew : t.Walks new)
    (hcontent : t.contentAt? (t.aim old) = some content)
    (hfree : t.entryAt? (t.aim new) ≠ some .directory) : ∃ u, t.rename old new = .ok u := by
  have hfile := contentAt?_eq_some_iff.1 hcontent
  -- What stands above the file is a directory, so the new place does not.
  have hout : ((t.aim new).isPrefixOf (t.aim old) && t.aim new != t.aim old) = false := by
    by_contra habove
    rw [Bool.not_eq_false, Bool.and_eq_true, List.isPrefixOf_iff_prefix, bne_iff_ne] at habove
    exact hfree (hrooted.directory_of_prefix (by rw [hfile]; rfl) habove.1 habove.2)
  obtain ⟨s, source, hs, hsource, hsslash, hsshort⟩ := hold
  obtain ⟨d, target, hd, htarget, hdslash, hdshort⟩ := hnew
  rw [← aim_of_reach hs hsource, ← aim_of_reach hd htarget] at hout
  rw [← aim_of_reach hs hsource] at hfile
  rw [← aim_of_reach hd htarget] at hfree
  refine ⟨if s.directory ++ [source] = d.directory ++ [target] then t
    else t.move (s.directory ++ [source]) (d.directory ++ [target]), ?_⟩
  simp only [Files.rename, bind_eq_ok, hs, hd, Except.ok.injEq, exists_eq_left', hsource, htarget,
    hfile, guard_eq_ok, hsslash, hdslash, hout, hfree]
  refine ⟨Nat.not_lt.2 hsshort, Nat.not_lt.2 hdshort, Bool.false_ne_true, Bool.false_ne_true,
    not_false, ?_⟩
  split <;> rfl

end Walks

/-! ## Taking a file away -/

/-- Where a file is taken away nothing is left. -/
theorem entryAt?_cut_self (t : Files) {place : Location} (hplace : place ≠ []) :
    (t.cut place).entryAt? place = none := by
  rw [entryAt?_of_ne _ hplace, List.lookup_eq_none_iff]
  intro p hp
  rw [bne_iff_ne]
  rintro rfl
  have hout := (List.mem_filter.1 hp).2
  rw [Bool.not_eq_true', Bool.eq_false_iff, Ne, List.isPrefixOf_iff_prefix] at hout
  exact hout List.prefix_rfl

/-- A file that is taken away leaves all directories. -/
theorem Rooted.stay_cut (h : t.Rooted) {place : Location}
    (hfile : t.entryAt? place = some (.file content)) : Stay t (t.cut place) where
  directory := by
    intro q hq
    by_cases hroot : q = []
    · rw [hroot, entryAt?_root]
    · have hout : ¬place <+: q := by
        intro hbelow
        rw [h.not_below_file hfile (by rw [hq]; rfl) hbelow, hfile] at hq
        cases hq
      have hkept : (!place.isPrefixOf q) = true := by
        rw [Bool.not_eq_true', Bool.eq_false_iff, Ne, List.isPrefixOf_iff_prefix]
        exact hout
      rw [entryAt?_of_ne _ hroot] at hq ⊢
      exact (lookup_filter t.entries (fun p => !place.isPrefixOf p) hkept).trans hq
  workingDir := rfl

/-! ## Directories -/

/-- What leads to a directory still does. -/
theorem Stay.find (h : Stay t u) {place : Location}
    (hfind : t.find path = .ok (place, .directory)) : u.find path = .ok (place, .directory) := by
  simp only [Files.find, bind_eq_ok] at hfind ⊢
  obtain ⟨r, hr, hfind⟩ := hfind
  refine ⟨r, h.reach hr, ?_⟩
  split at hfind
  · exact hfind
  · exact hfind
  · exact hfind
  · obtain ⟨hshort, hfind⟩ := guard_eq_ok.1 hfind
    refine guard_eq_ok.2 ⟨hshort, ?_⟩
    split at hfind
    · cases hfind
    · next hdir =>
      rw [h.directory _ hdir]
      exact hfind
    · next e hno _ =>
      split at hfind
      · cases hfind
      · cases hfind
        exact (hno rfl).elim

theorem isDirectory_iff : t.isDirectory path ↔ ∃ place, t.find path = .ok (place, .directory) := by
  unfold isDirectory
  split
  · next place hfind => simp [hfind]
  · next hno => simpa using hno

theorem Stay.isDirectory (h : Stay t u) (hdir : t.isDirectory path) : u.isDirectory path := by
  obtain ⟨place, hfind⟩ := isDirectory_iff.1 hdir
  exact isDirectory_iff.2 ⟨place, h.find hfind⟩

/-- A directory that has been made is there. -/
theorem isDirectory_of_makeDir (h : t.makeDir path = .ok u) : u.isDirectory path := by
  simp only [makeDir, bind_eq_ok] at h
  obtain ⟨r, hr, h⟩ := h
  split at h
  · next name hname =>
    obtain ⟨hshort, h⟩ := guard_eq_ok.1 h
    split at h
    · next hnone =>
      cases h
      have hfree : t.entryAt? (r.directory ++ [name]) ≠ some .directory := by simp [hnone]
      have hr' := (stay_put t hfree .directory).reach hr
      refine isDirectory_iff.2 ⟨r.directory ++ [name], ?_⟩
      simp only [Files.find, bind_eq_ok, hr', Except.ok.injEq, exists_eq_left', hname]
      refine guard_eq_ok.2 ⟨hshort, ?_⟩
      rw [entryAt?_put t (List.concat_ne_nil name r.directory), if_pos rfl]
      rfl
    · cases h
  · cases h

/-- A directory that is there is not made again. -/
theorem makeDir_of_isDirectory (h : t.isDirectory path) :
    t.makeDir path = .error .alreadyExists := by
  obtain ⟨place, hfind⟩ := isDirectory_iff.1 h
  simp only [Files.find, bind_eq_ok] at hfind
  obtain ⟨r, hr, hfind⟩ := hfind
  simp only [makeDir, hr, bind, Except.bind]
  split at hfind
  · next hlast => rw [hlast]; rfl
  · next hlast => rw [hlast]; rfl
  · next hlast => rw [hlast]; rfl
  · next hlast =>
    obtain ⟨hshort, hfind⟩ := guard_eq_ok.1 hfind
    rw [hlast]
    simp only [if_neg hshort]
    split at hfind
    · cases hfind
    · next hdir => rw [hdir]; rfl
    · next hentry => rw [hentry]; rfl

/-- The first directory of a list is there if they could be made. -/
theorem isDirectory_of_makeAlong {above : List String} (hpath : path ≠ "")
    (h : t.makeAlong (path :: above) = (.ok (), u)) : u.isDirectory path := by
  have hsettle {t u : Files} {f : Fault}
      (h : (if t.isDirectory path then (.ok (), t) else (.error f, t) :
        Except Fault Unit × Files) = (.ok (), u)) : u.isDirectory path := by
    split at h
    · next hdir =>
      cases h
      exact hdir
    · cases h
  rw [makeAlong, if_neg hpath] at h
  dsimp only at h
  split at h
  · next hmake =>
    cases h
    exact isDirectory_of_makeDir hmake
  · split at h
    · cases h
    · split at h
      · next hmake =>
        cases h
        exact isDirectory_of_makeDir hmake
      · exact hsettle h
  · exact hsettle h

theorem makeAlong_of_isDirectory (above : List String) (h : t.isDirectory path) :
    t.makeAlong (path :: above) = (.ok (), t) := by
  rw [makeAlong]
  split
  · rfl
  · simp only [makeDir_of_isDirectory h, h, if_true]

/-- Directories that have been made, and are there still, need not be made again. -/
theorem makeAlong_again {paths : List String} (h : (t.makeAlong paths).1 = .ok ())
    (hstay : Stay (t.makeAlong paths).2 u) : u.makeAlong paths = (.ok (), u) := by
  cases paths with
  | nil => cases h
  | cons path above =>
    by_cases hpath : path = ""
    · rw [makeAlong, if_pos hpath]
    · have hmade : t.makeAlong (path :: above) = (.ok (), (t.makeAlong (path :: above)).2) :=
        Prod.ext h rfl
      exact makeAlong_of_isDirectory above
        (hstay.isDirectory (isDirectory_of_makeAlong hpath hmade))

end Portcullis.Files
