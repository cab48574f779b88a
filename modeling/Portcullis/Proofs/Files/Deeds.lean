import Portcullis.Files.Deed
import Portcullis.Proofs.Files.Sound

/-!
# Deeds leave a tree sound

Whatever is done to a tree of files, everything in it stands in a directory afterwards.

* `Rooted.filter` is about taking away: what is taken goes with everything below it.
* `eq_of_makeDir` and `rename_cases` invert what makes or moves an entry.  Where one is put, and
  where one moves to, is a directory, since a path was walked to it.
* `Sound.perform` is the main result: a deed leaves a sound tree sound, unless it takes the working
  directory away.
-/

namespace Portcullis.Files

variable {t u : Files} {place : Location} {path : String}

/-! ## Taking away -/

/-- Everything stands in a directory where an entry is kept only with those above it. -/
theorem Rooted.filter (h : t.Rooted) (keep : Location → Bool)
    (hkeep : ∀ q, keep q = true → keep q.dropLast = true) :
    Rooted { t with entries := t.entries.filter fun p => keep p.1 } := by
  intro q hq
  by_cases hroot : q = []
  · rw [hroot, List.dropLast_nil, entryAt?_root]
  rw [entryAt?_of_ne _ hroot, List.lookup_isSome_iff] at hq
  obtain ⟨p, hp, hkey⟩ := hq
  obtain ⟨hp, hkept⟩ := List.mem_filter.1 hp
  have heq : q = p.1 := by simpa using hkey
  have hold : (t.entryAt? q).isSome := by
    rw [entryAt?_of_ne _ hroot, List.lookup_isSome_iff]
    exact ⟨p, hp, hkey⟩
  have hparent := h q hold
  by_cases htop : q.dropLast = []
  · rw [htop, entryAt?_root]
  rw [entryAt?_of_ne _ htop] at hparent ⊢
  rw [lookup_filter _ keep (hkeep q (heq ▸ hkept)), hparent]

theorem Rooted.cut (h : t.Rooted) (place : Location) : (t.cut place).Rooted := by
  apply h.filter fun q => !place.isPrefixOf q
  intro q hq
  rw [Bool.not_eq_true', Bool.eq_false_iff, Ne, List.isPrefixOf_iff_prefix] at hq ⊢
  exact fun hbelow => hq (hbelow.trans (List.dropLast_prefix q))

theorem Rooted.clear (h : t.Rooted) (place : Location) : (t.clear place).Rooted := by
  apply h.filter fun q => !(place.isPrefixOf q && q != place)
  intro q hq
  by_contra hgone
  have hkept : place <+: q → q = place := by
    intro hthere
    simpa [List.isPrefixOf_iff_prefix.2 hthere] using hq
  have hbelow : place <+: q.dropLast ∧ q.dropLast ≠ place := by
    simpa [← List.isPrefixOf_iff_prefix] using hgone
  have hself := hkept (hbelow.1.trans (List.dropLast_prefix q))
  rw [← hself] at hbelow
  exact hbelow.2 ((List.dropLast_prefix q).eq_of_length_le hbelow.1.length_le)

theorem eq_of_remove (h : t.remove path = .ok u) : ∃ place, u = t.cut place := by
  simp only [remove, bind_eq_ok] at h
  obtain ⟨r, -, h⟩ := h
  split at h
  · obtain ⟨-, h⟩ := guard_eq_ok.1 h
    split at h
    · cases h
    · cases h
    · split at h
      · cases h
      · exact ⟨_, (Except.ok.inj h).symm⟩
  · cases h

theorem eq_of_removeDir (h : t.removeDir path = .ok u) : ∃ place, u = t.cut place := by
  simp only [removeDir, bind_eq_ok] at h
  obtain ⟨r, -, h⟩ := h
  split at h
  · cases h
  · cases h
  · cases h
  · obtain ⟨-, h⟩ := guard_eq_ok.1 h
    split at h
    · cases h
    · cases h
    · split at h
      · cases h
      · exact ⟨_, (Except.ok.inj h).symm⟩

theorem Rooted.removeAll (h : t.Rooted) (path : String) :
    (t.removeAll path).2.Rooted ∧ (t.removeAll path).2.workingDir = t.workingDir := by
  rw [Files.removeAll]
  split
  · exact ⟨h, rfl⟩
  · exact ⟨h, rfl⟩
  · next place _ =>
    have hclear := h.clear place
    dsimp only
    split
    · next u hu =>
      obtain ⟨inner, rfl⟩ := eq_of_removeDir hu
      exact ⟨hclear.cut inner, rfl⟩
    · exact ⟨hclear, rfl⟩
    · exact ⟨hclear, rfl⟩

/-! ## Making directories -/

theorem eq_of_makeDir (h : t.makeDir path = .ok u) :
    ∃ r name, t.reach path = .ok r ∧ t.entryAt? (r.directory ++ [name]) = none ∧
      u = t.put (r.directory ++ [name]) .directory := by
  simp only [makeDir, bind_eq_ok] at h
  obtain ⟨r, hr, h⟩ := h
  split at h
  · next name _ =>
    obtain ⟨-, h⟩ := guard_eq_ok.1 h
    split at h
    · next hnone => exact ⟨r, name, hr, hnone, (Except.ok.inj h).symm⟩
    · cases h
  · cases h

theorem Sound.makeDir (h : t.Sound) (hmake : t.makeDir path = .ok u) :
    u.Sound ∧ u.workingDir = t.workingDir := by
  obtain ⟨r, name, hr, hnone, rfl⟩ := eq_of_makeDir hmake
  exact ⟨h.put hr (by simp [hnone]) .directory, workingDir_put ..⟩

/-- What each directory that is made preserves is preserved when a list of them is made. -/
theorem makeAlong_preserves {P : Files → Prop}
    (hmake : ∀ t u path, P t → t.makeDir path = .ok u → P u) (ht : P t) (paths : List String) :
    P (t.makeAlong paths).2 := by
  induction paths generalizing t with
  | nil => exact ht
  | cons path above ih =>
    rw [Files.makeAlong]
    split
    · exact ht
    have hsettle : ∀ (t : Files) (f : Fault),
        (if t.isDirectory path then (.ok (), t) else (.error f, t) : Except Fault Unit × Files).2 =
          t := by
      intro t f
      split <;> rfl
    dsimp only
    split
    · next u hu => exact hmake _ _ _ ht hu
    · have habove := ih ht
      split
      · next hfailed =>
        rw [hfailed] at habove
        exact habove
      · next hdone =>
        rw [hdone] at habove
        split
        · next u hu => exact hmake _ _ _ habove hu
        · rw [hsettle]
          exact habove
    · rw [hsettle]
      exact ht

theorem Sound.makeAlong (h : t.Sound) (paths : List String) :
    (t.makeAlong paths).2.Sound ∧ (t.makeAlong paths).2.workingDir = t.workingDir := by
  refine makeAlong_preserves (P := fun u => u.Sound ∧ u.workingDir = t.workingDir) ?_ ⟨h, rfl⟩ paths
  rintro u v path ⟨hu, hdir⟩ hmake
  obtain ⟨hv, hdir'⟩ := hu.makeDir hmake
  exact ⟨hv, hdir'.trans hdir⟩

/-! ## Moving -/

/-- A rename that succeeds leaves the tree or moves an entry, and not into what it moves. -/
theorem rename_cases {old new : String} (h : t.rename old new = .ok u) :
    u = t ∨ ∃ s d source target, t.reach old = .ok s ∧ t.reach new = .ok d ∧
      u = t.move (s.directory ++ [source]) (d.directory ++ [target]) ∧
      ((∃ content, t.entryAt? (s.directory ++ [source]) = some (.file content)) ∨
        ¬ s.directory ++ [source] <+: d.directory) := by
  simp only [rename, bind_eq_ok] at h
  obtain ⟨s, hs, d, hd, h⟩ := h
  split at h
  · next source target _ _ =>
    obtain ⟨-, h⟩ := guard_eq_ok.1 h
    split at h
    · next moved hmoved =>
      obtain ⟨-, h⟩ := guard_eq_ok.1 h
      split at h
      · simp only [guard_eq_ok] at h
        obtain ⟨-, -, -, h⟩ := h
        split at h
        · exact .inl (Except.ok.inj h).symm
        · exact .inr ⟨s, d, source, target, hs, hd, (Except.ok.inj h).symm, .inl ⟨_, hmoved⟩⟩
      · simp only [guard_eq_ok] at h
        obtain ⟨hout, -, h⟩ := h
        split at h
        · exact .inl (Except.ok.inj h).symm
        · next hne =>
          have hapart : ¬ s.directory ++ [source] <+: d.directory := by
            intro hbelow
            apply hout
            simp [List.isPrefixOf_iff_prefix.2 (hbelow.trans (List.prefix_append _ [target])), hne]
          have hmove : t.move (s.directory ++ [source]) (d.directory ++ [target]) = u := by
            split at h
            · cases h
            · split at h
              · cases h
              · exact Except.ok.inj h
            · exact Except.ok.inj h
          exact .inr ⟨s, d, source, target, hs, hd, hmove.symm, .inr hapart⟩
    · cases h
  · cases h

theorem Sound.rooted_rename (h : t.Sound) {old new : String} (hrename : t.rename old new = .ok u) :
    u.Rooted := by
  rcases rename_cases hrename with rfl | ⟨s, d, source, target, -, hd, rfl, hout⟩
  · exact h.parent
  · have hdir := h.reach hd
    apply h.parent.move (List.concat_ne_nil source _) (List.concat_ne_nil target _)
    · rw [List.dropLast_concat]
      exact hdir
    · rw [List.dropLast_concat]
      rcases hout with ⟨content, hfile⟩ | hapart
      · intro hbelow
        have hself := h.parent.not_below_file hfile (by rw [hdir]; rfl) hbelow
        rw [hself, hfile] at hdir
        cases hdir
      · exact hapart

/-! ## Deeds -/

/-- An operation that fails leaves the tree. -/
theorem exists_attempt (act : Files → Except Fault Files) (t : Files) :
    ∃ u, (Disk.attempt act t).2 = u ∧ (u = t ∨ act t = .ok u) := by
  rw [Disk.attempt]
  cases h : act t with
  | error f => exact ⟨t, rfl, .inl rfl⟩
  | ok u => exact ⟨u, rfl, .inr rfl⟩

/-- A deed leaves everything in a directory, and the name of the working directory. -/
theorem Sound.rooted_perform (h : t.Sound) (d : Deed) :
    (t.perform d).2.Rooted ∧ (t.perform d).2.workingDir = t.workingDir := by
  cases d with
  | write path content =>
    obtain ⟨u, hu, rfl | hwrite⟩ := exists_attempt (·.write path content) t <;> rw [perform, hu]
    · exact ⟨h.parent, rfl⟩
    · obtain ⟨r, name, -, -, -, rfl⟩ := eq_of_write hwrite
      exact ⟨(h.write hwrite).parent, workingDir_put ..⟩
  | makeDirs path =>
    obtain ⟨hsound, hdir⟩ := h.makeAlong (Path.ancestors path)
    exact ⟨hsound.parent, hdir⟩
  | remove path =>
    obtain ⟨u, hu, rfl | hremove⟩ := exists_attempt (·.remove path) t <;> rw [perform, hu]
    · exact ⟨h.parent, rfl⟩
    · obtain ⟨place, rfl⟩ := eq_of_remove hremove
      exact ⟨h.parent.cut place, rfl⟩
  | removeAll path => exact h.parent.removeAll path
  | rename source target =>
    obtain ⟨u, hu, rfl | hrename⟩ := exists_attempt (·.rename source target) t <;>
      rw [perform, hu]
    · exact ⟨h.parent, rfl⟩
    · refine ⟨h.rooted_rename hrename, ?_⟩
      rcases rename_cases hrename with rfl | ⟨_, _, _, _, -, -, rfl, -⟩ <;> rfl

/-- A deed leaves a sound tree sound, unless it takes the working directory away. -/
theorem Sound.perform (h : t.Sound) (d : Deed)
    (hstays : (t.perform d).2.entryAt? t.workingDir = some .directory) :
    (t.perform d).2.Sound := by
  obtain ⟨hrooted, hdir⟩ := h.rooted_perform d
  exact ⟨hrooted, by rw [hdir]; exact hstays⟩

end Portcullis.Files
