import Portcullis.Proofs.Files.Deeds

/-!
# The places that paths lead to

There are no links, so the place that a path leads to can be read off the path, whatever stands
there.  What an operation does can then be said place by place.

* `Files.aim` reads the place off a path, and `aim_of_reach` says that a walk of the path that
  succeeds ends there.
* `Path.IsPlain` says that a path starts at the root and never leads up.  Two plain paths that lead
  to one place have the same components (`same_of_aim_eq`), other paths need not.
* `Files.Holds` says that a path can be walked to a file with some content; `read_eq_ok_iff` says
  that this is what a read finds.
* `ChangedAt` says that all directories are left, and all files but those of some places.
* `ChangedAt.makeAlong`, `ChangedAt.write` and `ChangedAt.rename` are the operations of a writer
  that stages a content and puts it in place.
-/

namespace Portcullis

/-- One step from a place, taken without looking. -/
def Location.step (here : Location) : String → Location
  | "." => here
  | ".." => here.dropLast
  | s => here ++ [s]

namespace Files

variable {t u v : Files} {path : String} {place : Location} {content : List UInt8}

/-- The place that a path leads to if it leads anywhere. -/
def aim (t : Files) (path : String) : Location :=
  ((Path.segments path).filter (· != "")).foldl Location.step (t.start path)

/-- The content of the file at a place. -/
def contentAt? (t : Files) (place : Location) : Option (List UInt8) :=
  match t.entryAt? place with
  | some (.file content) => some content
  | _ => none

theorem contentAt?_eq_some_iff :
    t.contentAt? place = some content ↔ t.entryAt? place = some (.file content) := by
  unfold contentAt?
  split
  · rename_i hfile
    simp [hfile]
  · rename_i hno
    constructor
    · nofun
    · intro hfile
      exact absurd hfile (hno content)

/-! ## Walking -/

/-- Directories that are passed are those of the path. -/
theorem eq_of_descend {here d : Location} {steps : List String}
    (h : t.descend here steps = .ok d) : d = steps.foldl Location.step here := by
  fun_induction Files.descend t here steps with
  | case1 => exact (Except.ok.inj h).symm
  | case2 _ _ ih => exact ih h
  | case3 _ _ ih => exact ih h
  | case4 => cases h
  | case5 => cases h
  | case6 => cases h
  | case7 here s r hdot hup _ _ ih =>
    rw [List.foldl_cons, Location.step.eq_3 _ _ hdot hup]
    exact ih h

theorem step_of_lastStep {s name : String} (h : lastStep s = .name name) (here : Location) :
    Location.step here s = here ++ [name] := by
  unfold lastStep at h
  split at h
  · cases h
  · cases h
  · next hdot hup =>
    cases h
    exact Location.step.eq_3 _ _ hdot hup

/-- A path that ends in a name leads to its place. -/
theorem aim_of_reach {r : Reach} {name : String} (h : t.reach path = .ok r)
    (hname : r.last = .name name) : r.directory ++ [name] = t.aim path := by
  unfold reach at h
  split at h
  · cases h
  split at h
  · cases h
  split at h
  · cases h
  dsimp only at h
  split at h
  · cases h
    cases hname
  · next s hlast =>
    rcases hd : t.descend (t.start path) ((Path.segments path).filter (· != "")).dropLast with f | d
    · rw [start] at hd
      rw [hd] at h
      cases h
    · have hsteps := List.dropLast_append_getLast? _ (Option.mem_def.2 hlast)
      rw [aim, ← hsteps, List.foldl_append, ← eq_of_descend hd, List.foldl_cons, List.foldl_nil]
      rw [start] at hd
      rw [hd] at h
      cases h
      exact (step_of_lastStep hname d).symm

/-- A path leads to a file with some content. -/
structure Holds (t : Files) (path : String) (content : List UInt8) : Prop where
  walk : ∃ r name, t.reach path = .ok r ∧ r.last = .name name ∧ r.slash = false ∧
    name.utf8ByteSize ≤ maxName
  contentAt? : t.contentAt? (t.aim path) = some content

/-- A path at which a file is found leads to the file. -/
theorem holds_of_find (h : t.find path = .ok (place, .file content)) : t.Holds path content := by
  simp only [find, bind_eq_ok] at h
  obtain ⟨r, hr, hfind⟩ := h
  split at hfind
  · cases hfind
  · cases hfind
  · cases hfind
  · next name hname =>
    obtain ⟨hshort, hfind⟩ := guard_eq_ok.1 hfind
    split at hfind
    · cases hfind
    · cases hfind
    · next e _ hentry =>
      obtain ⟨hslash, hfound⟩ : ¬r.slash = true ∧ e = .file content := by
        split at hfind
        · cases hfind
        · next hslash =>
          cases hfind
          exact ⟨hslash, rfl⟩
      refine ⟨⟨r, name, hr, hname, by simpa using hslash, Nat.le_of_not_lt hshort⟩, ?_⟩
      rw [← aim_of_reach hr hname, contentAt?_eq_some_iff, hentry, hfound]

/-- What a read finds is the content of the file that the path leads to. -/
theorem read_eq_ok_iff : t.read path = .ok content ↔ t.Holds path content := by
  constructor
  · intro h
    simp only [read, bind_eq_ok] at h
    obtain ⟨⟨place, e⟩, hfind, hread⟩ := h
    cases e with
    | directory => cases hread
    | file found =>
      cases hread
      exact holds_of_find hfind
  · rintro ⟨⟨r, name, hr, hname, hslash, hshort⟩, hcontent⟩
    rw [← aim_of_reach hr hname, contentAt?_eq_some_iff] at hcontent
    exact read_of_reach hr hname hslash hshort hcontent

/-! ## Plain paths -/

end Files

namespace Path

/-- A path from the root that never leads up. -/
def IsPlain (path : String) : Prop :=
  isAbsolute path = true ∧ ".." ∉ segments path

instance (path : String) : Decidable (IsPlain path) :=
  inferInstanceAs (Decidable (_ ∧ _))

/-- The names that a plain path passes. -/
def names (path : String) : List String :=
  (segments path).filter fun s => !isIdle s

/-- Before the first slash of an absolute path stands nothing. -/
theorem segments_of_isAbsolute {path : String} (h : isAbsolute path = true) :
    ∃ rest, segments path = "" :: rest := by
  obtain ⟨cs, hcs⟩ : ∃ cs, path.toList = '/' :: cs := by
    unfold isAbsolute at h
    cases hlist : path.toList with
    | nil => simp [hlist] at h
    | cons c cs =>
      simp [hlist] at h
      exact ⟨cs, by rw [h]⟩
  refine ⟨(cs.splitOn '/').map String.ofList, ?_⟩
  rw [segments, hcs]
  simp [List.splitOn, List.splitOnP_cons_eq_if_modifyHead]

/-- The components of a plain path are the root and its names. -/
theorem components_of_isPlain {path : String} (h : IsPlain path) :
    components path = .root :: (names path).map .name := by
  obtain ⟨rest, hrest⟩ := segments_of_isAbsolute h.1
  have hname : ∀ s ∈ rest.filter fun s => !isIdle s, componentOf s = .name s := by
    intro s hs
    have hmem : s ∈ segments path := hrest ▸ List.mem_cons_of_mem _ (List.mem_of_mem_filter hs)
    have hup : s ≠ ".." := fun heq => h.2 (heq ▸ hmem)
    rw [componentOf, if_neg (by simpa using hup)]
  rw [components, split, hrest]
  simp only [h.1, if_true]
  rw [List.map_congr_left hname, names, hrest]
  rfl

end Path

/-- Steps that never lead up lead down, idle ones apart. -/
theorem Location.foldl_step {steps : List String} (h : ".." ∉ steps) (here : Location) :
    steps.foldl Location.step here = here ++ steps.filter (· != ".") := by
  induction steps generalizing here with
  | nil => simp
  | cons s rest ih =>
    rw [List.mem_cons, not_or] at h
    rw [List.foldl_cons, ih h.2, List.filter_cons]
    by_cases hdot : s = "."
    · subst hdot
      rfl
    · rw [Location.step.eq_3 _ _ hdot (Ne.symm h.1), if_pos (by simpa using hdot)]
      simp

namespace Files

variable {t u v : Files} {path : String} {place : Location} {content : List UInt8}

/-- A plain path leads to the place of its names. -/
theorem aim_of_isPlain (t : Files) (h : Path.IsPlain path) : t.aim path = Path.names path := by
  have hup : ".." ∉ (Path.segments path).filter (· != "") := fun hmem =>
    h.2 (List.mem_of_mem_filter hmem)
  rw [aim, start, if_pos h.1, Location.foldl_step hup, List.nil_append, List.filter_filter,
    Path.names]
  refine List.filter_congr fun s _ => ?_
  rw [Path.isIdle, Bool.not_or, Bool.and_comm]
  rfl

/-- Plain paths that lead to one place are the same. -/
theorem same_of_aim_eq {a b : String} (ha : Path.IsPlain a) (hb : Path.IsPlain b)
    (h : t.aim a = t.aim b) : Path.same a b = true := by
  rw [aim_of_isPlain t ha, aim_of_isPlain t hb] at h
  rw [Path.same, Path.components_of_isPlain ha, Path.components_of_isPlain hb, h,
    beq_self_eq_true]

/-- Other paths are told apart by their components, and may still lead to one place. -/
example : Path.same "/srv/conf/all.conf" "/srv/conf/../conf/all.conf" = false ∧
    Files.empty.aim "/srv/conf/all.conf" = Files.empty.aim "/srv/conf/../conf/all.conf" := by
  decide

/-! ## Moving a file -/

section Move

variable {source target : Location}

theorem ne_root_of_file (h : t.entryAt? place = some (.file content)) : place ≠ [] := by
  rintro rfl
  rw [entryAt?_root] at h
  cases h

/-- A file that moves is there afterwards. -/
theorem entryAt?_move_self (hfile : t.entryAt? source = some (.file content))
    (htarget : target ≠ []) : (t.move source target).entryAt? target = some (.file content) := by
  have hmoved := entryAt?_move_target t (ne_root_of_file hfile) htarget []
  rwa [List.append_nil, List.append_nil, hfile] at hmoved

/-- Where a file moves away nothing is left. -/
theorem entryAt?_move_source (h : t.Rooted) (hfile : t.entryAt? source = some (.file content))
    (hfree : t.entryAt? target ≠ some .directory) (hne : source ≠ target) :
    (t.move source target).entryAt? source = none := by
  have hthere : (t.entryAt? source).isSome := by rw [hfile]; rfl
  have hout : ¬target <+: source := fun hbelow =>
    hfree (h.directory_of_prefix hthere hbelow hne.symm)
  rw [← Option.not_isSome_iff_eq_none]
  intro hleft
  exact (of_entryAt?_move hleft (ne_root_of_file hfile) hout).2 List.prefix_rfl

end Move

/-! ## What operations change -/

/-- A sound tree with the directories of another, and with its files except at some places. -/
structure ChangedAt (places : List Location) (t u : Files) : Prop where
  sound : u.Sound
  stay : Stay t u
  contentAt? : ∀ place, place ∉ places → u.contentAt? place = t.contentAt? place

theorem Stay.aim (h : Stay t u) (path : String) : u.aim path = t.aim path := by
  rw [Files.aim, Files.aim, start, start, h.workingDir]

namespace ChangedAt

variable {places more : List Location}

theorem refl (h : t.Sound) : ChangedAt [] t t :=
  ⟨h, ⟨fun _ hdir => hdir, rfl⟩, fun _ _ => rfl⟩

theorem trans (h : ChangedAt places t u) (h' : ChangedAt more u v) :
    ChangedAt (places ++ more) t v where
  sound := h'.sound
  stay := ⟨fun q hq => h'.stay.directory q (h.stay.directory q hq),
    h'.stay.workingDir.trans h.stay.workingDir⟩
  contentAt? q hq := by
    rw [List.mem_append, not_or] at hq
    rw [h'.contentAt? q hq.2, h.contentAt? q hq.1]

theorem mono (h : ChangedAt places t u) (hsub : places ⊆ more) : ChangedAt more t u :=
  ⟨h.sound, h.stay, fun q hq => h.contentAt? q fun hmem => hq (hsub hmem)⟩

/-- A path still leads to what it led to, unless the content of its place was changed. -/
theorem holds (h : ChangedAt places t u) (hold : t.Holds path content)
    (hapart : t.aim path ∉ places) : u.Holds path content where
  walk := by
    obtain ⟨r, name, hr, hwalk⟩ := hold.walk
    exact ⟨r, name, h.stay.reach hr, hwalk⟩
  contentAt? := by
    rw [h.stay.aim, h.contentAt? _ hapart, hold.contentAt?]

/-- What is put in place of no directory changes its place. -/
theorem put (h : t.Sound) {r : Reach} {name : String} (hr : t.reach path = .ok r)
    (hplace : t.entryAt? (r.directory ++ [name]) ≠ some .directory) (e : Entry) :
    ChangedAt [r.directory ++ [name]] t (t.put (r.directory ++ [name]) e) where
  sound := h.put hr hplace e
  stay := stay_put t hplace e
  contentAt? q hq := by
    rw [List.mem_singleton] at hq
    rw [Files.contentAt?, entryAt?_put t (List.concat_ne_nil name r.directory), if_neg hq,
      Files.contentAt?]

/-- A write changes the content of the place that the path leads to. -/
theorem write (h : t.Sound) (hwrite : t.write path content = .ok u) :
    ChangedAt [t.aim path] t u ∧ u.contentAt? (t.aim path) = some content := by
  obtain ⟨r, name, hr, hname, hfree, rfl⟩ := eq_of_write hwrite
  rw [← aim_of_reach hr hname, contentAt?_eq_some_iff,
    entryAt?_put t (List.concat_ne_nil name r.directory), if_pos rfl]
  exact ⟨put h hr hfree _, rfl⟩

/-- A directory that is made changes no file. -/
theorem makeDir (h : t.Sound) (hmake : t.makeDir path = .ok u) : ChangedAt [] t u := by
  obtain ⟨r, name, hr, hnone, rfl⟩ := eq_of_makeDir hmake
  have hput := put h hr (by rw [hnone]; nofun) .directory
  refine ⟨hput.sound, hput.stay, fun q _ => ?_⟩
  by_cases hq : q = r.directory ++ [name]
  · rw [Files.contentAt?, Files.contentAt?, hq, hnone,
      entryAt?_put t (List.concat_ne_nil name r.directory), if_pos rfl]
  · exact hput.contentAt? q (List.mem_singleton.not.2 hq)

theorem makeAlong (h : t.Sound) (paths : List String) :
    ChangedAt [] t (t.makeAlong paths).2 :=
  makeAlong_preserves (P := ChangedAt [] t) (fun _ _ _ hu hmake => hu.trans (makeDir hu.sound hmake))
    (refl h) paths

/-- A file that moves changes the places that it leaves and comes to. -/
theorem move (h : t.Sound) {d : Reach} {source : Location} {name : String}
    (hd : t.reach path = .ok d) (hfile : t.entryAt? source = some (.file content))
    (hfree : t.entryAt? (d.directory ++ [name]) ≠ some .directory) :
    ChangedAt [source, d.directory ++ [name]] t (t.move source (d.directory ++ [name])) where
  sound := h.move hd hfile hfree
  stay := h.parent.stay_move hfile hfree
  contentAt? q hq := by
    have htarget := entryAt?_move_self hfile (List.concat_ne_nil name d.directory)
    rw [List.mem_pair, not_or] at hq
    ext c
    rw [contentAt?_eq_some_iff, contentAt?_eq_some_iff]
    constructor
    · intro hu
      have habove : ¬d.directory ++ [name] <+: q := fun hbelow =>
        hq.2 ((h.move hd hfile hfree).parent.not_below_file htarget (by rw [hu]; rfl) hbelow)
      obtain ⟨hold, hapart⟩ := of_entryAt?_move (by rw [hu]; rfl) (ne_root_of_file hu) habove
      obtain ⟨e, he⟩ := Option.isSome_iff_exists.1 hold
      rw [entryAt?_move_of_apart he hapart habove] at hu
      rw [he, hu]
    · intro ht
      refine entryAt?_move_of_apart ht (fun hbelow => ?_) fun hbelow => ?_
      · exact hq.1 (h.parent.not_below_file hfile (by rw [ht]; rfl) hbelow)
      · exact hfree (h.parent.directory_of_prefix (by rw [ht]; rfl) hbelow (Ne.symm hq.2))

end ChangedAt

theorem aim_of_rename {old new : String} (h : t.rename old new = .ok u) (path : String) :
    u.aim path = t.aim path := by
  rcases rename_cases h with rfl | ⟨_, _, _, _, -, -, rfl, -⟩ <;> rfl

/-- What is renamed is there, at the place that its path leads to. -/
theorem reach_of_rename {old new : String} (h : t.rename old new = .ok u) :
    ∃ s name, t.reach old = .ok s ∧ s.last = .name name ∧ s.directory ++ [name] = t.aim old ∧
      (t.entryAt? (t.aim old)).isSome := by
  simp only [Files.rename, bind_eq_ok] at h
  obtain ⟨s, hs, d, -, h⟩ := h
  split at h
  · next source target hsource _ =>
    obtain ⟨-, h⟩ := guard_eq_ok.1 h
    refine ⟨s, source, hs, hsource, aim_of_reach hs hsource, ?_⟩
    rw [← aim_of_reach hs hsource]
    split at h
    · next moved hmoved => rw [hmoved]; rfl
    · cases h
  · cases h

/-- A file is renamed: the new path leads to its content, and nothing is left at the old one. -/
theorem ChangedAt.rename (h : t.Sound) {old new : String}
    (hcontent : t.contentAt? (t.aim old) = some content) (hrename : t.rename old new = .ok u) :
    ChangedAt [t.aim old, t.aim new] t u ∧ u.Holds new content ∧
      (t.aim old ≠ t.aim new → u.entryAt? (t.aim old) = none) := by
  obtain ⟨s, source, hs, hsource, haim, -⟩ := reach_of_rename hrename
  have hfile := contentAt?_eq_some_iff.1 hcontent
  rw [← haim] at hfile
  obtain ⟨d, target, hd, htarget, hslash, hshort, hfree, hu⟩ :=
    eq_of_rename hs hsource hfile hrename
  have haim' := aim_of_reach hd htarget
  rw [haim] at hfile
  by_cases hsame : t.aim old = t.aim new
  · rw [haim, haim', if_pos hsame] at hu
    subst hu
    refine ⟨⟨h, (refl h).stay, fun _ _ => rfl⟩, ⟨⟨d, target, hd, htarget, hslash, hshort⟩, ?_⟩,
      fun hne => absurd hsame hne⟩
    rw [← hsame, hcontent]
  · rw [haim, haim', if_neg hsame] at hu
    subst hu
    have hmove := move h hd hfile hfree
    have hthere := entryAt?_move_self hfile (List.concat_ne_nil target d.directory)
    rw [haim'] at hmove hthere hfree
    refine ⟨hmove, ⟨⟨d, target, hmove.stay.reach hd, htarget, hslash, hshort⟩, ?_⟩, fun hne =>
      entryAt?_move_source h.parent hfile hfree hne⟩
    rw [hmove.stay.aim, contentAt?_eq_some_iff, hthere]

end Files

end Portcullis
