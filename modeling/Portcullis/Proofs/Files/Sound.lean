import Mathlib.Data.List.Infix
import Portcullis.Files.Tree

/-!
# Trees that hang together

In a tree of files everything stands in a directory.  Where that holds, a file that is written
under one path and renamed to another is read under the other path.

* `Files.Sound` says that everything stands in a directory, and that the working directory is one.
* `Stay` says that all directories of a tree stay, so that paths lead where they did (`Stay.reach`).
* `eq_of_write` and `eq_of_rename` invert the two operations, and `Sound.write` and `Sound.move` say
  that they keep a tree sound.  `Rooted.move` is about all moves, also of directories.
* `Sound.read_rename` reads what was written and renamed.
-/

namespace Portcullis.Files

variable {t u : Files} {place : Location}

/-- Everything stands in a directory. -/
def Rooted (t : Files) : Prop :=
  ∀ place, (t.entryAt? place).isSome → t.entryAt? place.dropLast = some .directory

/-- Everything stands in a directory, and the working directory is one. -/
structure Sound (t : Files) : Prop where
  parent : t.Rooted
  workingDir : t.entryAt? t.workingDir = some .directory

@[simp] theorem entryAt?_root (t : Files) : t.entryAt? [] = some .directory := by
  rw [entryAt?, if_pos rfl]

theorem entryAt?_of_ne (t : Files) (h : place ≠ []) :
    t.entryAt? place = t.entries.lookup place := by
  rw [entryAt?, if_neg h]

theorem sound_empty : empty.Sound where
  parent := by
    intro place h
    by_cases hplace : place = []
    · rw [hplace, List.dropLast_nil, entryAt?_root]
    · rw [entryAt?_of_ne _ hplace] at h
      cases h
  workingDir := entryAt?_root _

namespace Rooted

/-- What stands above anything is a directory. -/
theorem directory_of_prefix (h : t.Rooted) {q : Location} (hplace : (t.entryAt? place).isSome)
    (hbelow : q <+: place) (hne : q ≠ place) : t.entryAt? q = some .directory := by
  obtain ⟨rest, rfl⟩ := hbelow
  induction rest using List.reverseRecOn with
  | nil => simp at hne
  | append_singleton rest name ih =>
    have hparent := h _ hplace
    rw [← List.append_assoc, List.dropLast_concat] at hparent
    by_cases hrest : rest = []
    · rw [hrest, List.append_nil] at hparent
      exact hparent
    · exact ih (by rw [hparent]; rfl) (by simpa using hrest)

/-- Nothing stands below a file. -/
theorem not_below_file (h : t.Rooted) {content : List UInt8} {q : Location}
    (hfile : t.entryAt? place = some (.file content)) (hq : (t.entryAt? q).isSome)
    (hbelow : place <+: q) : q = place := by
  by_contra hne
  have hdir := h.directory_of_prefix hq hbelow (Ne.symm hne)
  rw [hfile] at hdir
  cases hdir

end Rooted

/-! ## Walking -/

theorem Sound.descend (h : t.Sound) {here d : Location} {steps : List String}
    (hhere : t.entryAt? here = some .directory) (hd : t.descend here steps = .ok d) :
    t.entryAt? d = some .directory := by
  fun_induction Files.descend t here steps with
  | case1 => cases hd; exact hhere
  | case2 _ _ ih => exact ih hhere hd
  | case3 here _ ih => exact ih (h.parent here (by rw [hhere]; rfl)) hd
  | case4 => cases hd
  | case5 => cases hd
  | case6 => cases hd
  | case7 _ _ _ _ _ _ hdir ih => exact ih hdir hd

/-- All directories of a tree are directories of another. -/
structure Stay (t u : Files) : Prop where
  directory : ∀ place, t.entryAt? place = some .directory → u.entryAt? place = some .directory
  workingDir : u.workingDir = t.workingDir

/-- A way through directories stays as long as they do. -/
theorem Stay.descend (h : Stay t u) {here d : Location} {steps : List String}
    (hd : t.descend here steps = .ok d) : u.descend here steps = .ok d := by
  fun_induction Files.descend t here steps with
  | case1 => cases hd; rfl
  | case2 _ _ ih => rw [Files.descend]; exact ih hd
  | case3 here _ ih => rw [Files.descend]; exact ih hd
  | case4 => cases hd
  | case5 => cases hd
  | case6 => cases hd
  | case7 here s r hdot hup hname hdir ih =>
    rw [Files.descend.eq_4 _ _ _ _ hdot hup, if_neg hname]
    simp only [h.directory _ hdir]
    exact ih hd

/-- Where a path starts. -/
def start (t : Files) (path : String) : Location :=
  if Path.isAbsolute path then [] else t.workingDir

/-- A path says what is walked: nothing, which ends alike in every tree, or some steps from where
it starts. -/
theorem reach_cases (path : String) :
    (∃ answer : Except Fault Reach, (∀ r, answer = .ok r → r.directory = []) ∧
      ∀ t : Files, t.reach path = answer) ∨
    ∃ steps last slash, ∀ t : Files,
      t.reach path = (t.descend (t.start path) steps).map fun d => ⟨d, last, slash⟩ := by
  by_cases hempty : path = ""
  · exact .inl ⟨.error .notFound, nofun, fun t => by rw [reach, if_pos hempty]⟩
  by_cases hnul : '\x00' ∈ path.toList
  · exact .inl ⟨.error .nulInName, nofun, fun t => by rw [reach, if_neg hempty, if_pos hnul]⟩
  by_cases hlong : maxPath ≤ path.utf8ByteSize
  · exact .inl ⟨.error .nameTooLong, nofun, fun t => by
      rw [reach, if_neg hempty, if_neg hnul, if_pos hlong]⟩
  cases hlast : ((Path.segments path).filter (· != "")).getLast? with
  | none =>
    refine .inl ⟨.ok ⟨[], .root, path.toList.getLast? == some '/'⟩, ?_, fun t => ?_⟩
    · rintro r ⟨⟩
      rfl
    · simp only [reach, if_neg hempty, if_neg hnul, if_neg hlong, hlast]
  | some s =>
    refine .inr ⟨((Path.segments path).filter (· != "")).dropLast, lastStep s,
      path.toList.getLast? == some '/', fun t => ?_⟩
    simp only [reach, if_neg hempty, if_neg hnul, if_neg hlong, hlast, start]

/-- In a sound tree the last step of a path starts from a directory. -/
theorem Sound.reach (h : t.Sound) {path : String} {r : Reach} (hr : t.reach path = .ok r) :
    t.entryAt? r.directory = some .directory := by
  rcases reach_cases path with ⟨answer, hroot, hreach⟩ | ⟨steps, last, slash, hreach⟩
  · rw [hroot r ((hreach t).symm.trans hr)]
    exact entryAt?_root t
  · rw [hreach] at hr
    have hstart : t.entryAt? (t.start path) = some .directory := by
      rw [start]
      split
      · exact entryAt?_root t
      · exact h.workingDir
    cases hd : t.descend (t.start path) steps with
    | error f => rw [hd] at hr; cases hr
    | ok d =>
      rw [hd] at hr
      cases hr
      exact h.descend hstart hd

/-- Where directories stay, paths lead where they led. -/
theorem Stay.reach (h : Stay t u) {path : String} {r : Reach} (hr : t.reach path = .ok r) :
    u.reach path = .ok r := by
  rcases reach_cases path with ⟨answer, -, hreach⟩ | ⟨steps, last, slash, hreach⟩
  · rw [hreach, ← hreach t, hr]
  · rw [hreach] at hr ⊢
    cases hd : t.descend (t.start path) steps with
    | error f => rw [hd] at hr; cases hr
    | ok d =>
      rw [hd] at hr
      have hstart : u.start path = t.start path := by rw [start, start, h.workingDir]
      rw [hstart, h.descend hd]
      exact hr

/-! ## Operations that may fail -/

section Fallible

variable {ε α β : Type} {e : ε} {b : β}

theorem bind_eq_ok {x : Except ε α} {f : α → Except ε β} :
    (x >>= f) = .ok b ↔ ∃ a, x = .ok a ∧ f a = .ok b := by
  cases x <;> simp [bind, Except.bind]

/-- An operation that succeeds has passed its guards. -/
theorem guard_eq_ok {p : Prop} [Decidable p] {f : α → Except ε β} {x : Except ε β} :
    (if p then throw e >>= f else x) = .ok b ↔ ¬ p ∧ x = .ok b := by
  by_cases hp : p <;> simp [hp, throw, throwThe, MonadExceptOf.throw, bind, Except.bind]

end Fallible

/-! ## Writing -/

/-- An entry that is put in place of others is found. -/
theorem lookup_map_put {entries : List (Location × Entry)} (e : Entry)
    (h : (entries.lookup place).isSome) :
    (entries.map fun p => if p.1 = place then (place, e) else p).lookup place = some e := by
  induction entries with
  | nil => cases h
  | cons p rest ih =>
    by_cases hp : p.1 = place
    · simp [hp]
    · have hne : (place == p.1) = false := by simpa using Ne.symm hp
      rw [List.lookup_cons, hne] at h
      rw [List.map_cons, if_neg hp, List.lookup_cons, hne]
      exact ih h

theorem lookup_map_put_of_ne (entries : List (Location × Entry)) (e : Entry) {q : Location}
    (hq : q ≠ place) : (entries.map fun p => if p.1 = place then (place, e) else p).lookup q =
      entries.lookup q := by
  induction entries with
  | nil => rfl
  | cons p rest ih =>
    by_cases hp : p.1 = place
    · have hne : (q == place) = false := by simpa using hq
      rw [List.map_cons, if_pos hp, List.lookup_cons, List.lookup_cons, hp, hne]
      exact ih
    · rw [List.map_cons, if_neg hp, List.lookup_cons, List.lookup_cons, ih]

/-- An entry stands where it was put, and the others where they stood. -/
theorem entryAt?_put (t : Files) (h : place ≠ []) (e : Entry) (q : Location) :
    (t.put place e).entryAt? q = if q = place then some e else t.entryAt? q := by
  by_cases hroot : q = []
  · subst hroot
    rw [if_neg (Ne.symm h), entryAt?_root, entryAt?_root]
  rw [entryAt?_of_ne _ hroot, entryAt?_of_ne _ hroot, put]
  split
  · next hthere =>
    split
    · next heq => rw [heq]; exact lookup_map_put e hthere
    · next hne => exact lookup_map_put_of_ne _ e hne
  · next hmissing =>
    have hnone := Option.not_isSome_iff_eq_none.1 hmissing
    rw [List.lookup_append]
    split
    · next heq => simp [heq, hnone]
    · next hne =>
      have hskip : (q == place) = false := by simpa using hne
      simp [List.lookup_cons, hskip]

theorem workingDir_put (t : Files) (place : Location) (e : Entry) :
    (t.put place e).workingDir = t.workingDir := by
  rw [put]
  split <;> rfl

/-- A write puts a file at the place that the path leads to, which is no directory. -/
theorem eq_of_write {path : String} {content : List UInt8} (h : t.write path content = .ok u) :
    ∃ r name, t.reach path = .ok r ∧ r.last = .name name ∧
      t.entryAt? (r.directory ++ [name]) ≠ some .directory ∧
      u = t.put (r.directory ++ [name]) (.file content) := by
  simp only [write, bind_eq_ok] at h
  obtain ⟨r, hr, h⟩ := h
  split at h
  · next name hlast =>
    simp only [guard_eq_ok] at h
    obtain ⟨-, -, h⟩ := h
    split at h
    · cases h
    · next hno => exact ⟨r, name, hr, hlast, hno, (Except.ok.inj h).symm⟩
  · cases h

/-- What is put in place of no directory leaves all directories. -/
theorem stay_put (t : Files) (hplace : t.entryAt? place ≠ some .directory) (e : Entry) :
    Stay t (t.put place e) where
  directory := by
    intro q hq
    have hne : place ≠ [] := fun h => hplace (h ▸ entryAt?_root t)
    rw [entryAt?_put t hne, if_neg]
    · exact hq
    · rintro rfl
      exact hplace hq
  workingDir := t.workingDir_put place e

/-- What stands in a tree where directories stay stands in one of them. -/
theorem Sound.of_stay (h : t.Sound) (hstay : Stay t u)
    (hnew : ∀ q, (u.entryAt? q).isSome → (t.entryAt? q).isSome ∨
      t.entryAt? q.dropLast = some .directory) : u.Sound where
  parent := by
    intro q hq
    apply hstay.directory
    rcases hnew q hq with hold | hparent
    · exact h.parent q hold
    · exact hparent
  workingDir := by
    rw [hstay.workingDir]
    exact hstay.directory _ h.workingDir

/-- What is put at the end of a path stands in a directory. -/
theorem Sound.put (h : t.Sound) {path name : String} {r : Reach} (hr : t.reach path = .ok r)
    (hplace : t.entryAt? (r.directory ++ [name]) ≠ some .directory) (e : Entry) :
    (t.put (r.directory ++ [name]) e).Sound := by
  apply h.of_stay (stay_put t hplace e)
  intro q hq
  rw [entryAt?_put t (by simp)] at hq
  split at hq
  · next heq =>
    right
    rw [heq, List.dropLast_concat]
    exact h.reach hr
  · exact .inl hq

theorem Sound.write (h : t.Sound) {path : String} {content : List UInt8}
    (hw : t.write path content = .ok u) : u.Sound := by
  obtain ⟨r, name, hr, -, hfile, rfl⟩ := eq_of_write hw
  exact h.put hr hfile _

/-! ## Moving a file -/

theorem lookup_filter (entries : List (Location × Entry)) (keep : Location → Bool) {q : Location}
    (hq : keep q = true) : (entries.filter fun p => keep p.1).lookup q = entries.lookup q := by
  induction entries with
  | nil => rfl
  | cons p rest ih =>
    rw [List.filter_cons]
    split
    · rw [List.lookup_cons, List.lookup_cons, ih]
    · next hdrop =>
      have hne : (q == p.1) = false := by
        have : q ≠ p.1 := fun h => hdrop (h ▸ hq)
        simpa using this
      rw [List.lookup_cons, hne, ih]

/-- What a move takes along. -/
def carried (t : Files) (source target : Location) : List (Location × Entry) :=
  t.entries.filterMap fun p =>
    if source.isPrefixOf p.1 then some (target ++ p.1.drop source.length, p.2) else none

theorem entries_move (t : Files) (source target : Location) :
    (t.move source target).entries =
      ((t.entries.filter fun p => !target.isPrefixOf p.1).filter fun p => !source.isPrefixOf p.1) ++
        t.carried source target :=
  rfl

variable {source target : Location}

/-- Below the target stands what stood below the source. -/
theorem lookup_carried (t : Files) (source target below : Location) :
    (t.carried source target).lookup (target ++ below) = t.entries.lookup (source ++ below) := by
  rw [carried]
  induction t.entries with
  | nil => rfl
  | cons p rest ih =>
    rw [List.filterMap_cons, List.lookup_cons]
    by_cases hbelow : source <+: p.1
    · rw [if_pos (List.isPrefixOf_iff_prefix.2 hbelow)]
      obtain ⟨more, hmore⟩ := hbelow
      have hkeys : (target ++ below == target ++ p.1.drop source.length) =
          (source ++ below == p.1) := by
        rw [← hmore, List.drop_left, Bool.eq_iff_iff]
        simp
      rw [List.lookup_cons, hkeys, ih]
    · have hskip : (source ++ below == p.1) = false := by
        have : source ++ below ≠ p.1 := fun h => hbelow (h ▸ List.prefix_append _ _)
        simpa using this
      rw [if_neg (by simpa [List.isPrefixOf_iff_prefix] using hbelow), hskip]
      exact ih

theorem entryAt?_move_target (t : Files) (hsource : source ≠ []) (htarget : target ≠ [])
    (below : Location) :
    (t.move source target).entryAt? (target ++ below) = t.entryAt? (source ++ below) := by
  have hgone : ((t.entries.filter fun p => !target.isPrefixOf p.1).filter
      fun p => !source.isPrefixOf p.1).lookup (target ++ below) = none := by
    rw [List.lookup_eq_none_iff]
    intro p hp
    have hapart := (List.mem_filter.1 (List.mem_filter.1 hp).1).2
    by_contra hsame
    have heq : target ++ below = p.1 := by simpa using hsame
    rw [← heq, List.isPrefixOf_iff_prefix.2 (List.prefix_append _ _)] at hapart
    cases hapart
  rw [entryAt?_of_ne _ (by simp [htarget]), entryAt?_of_ne _ (by simp [hsource]), entries_move,
    List.lookup_append, hgone, Option.none_or, lookup_carried]

/-- What stands apart from source and target stays. -/
theorem entryAt?_move_of_apart {q : Location} {e : Entry} (hq : t.entryAt? q = some e)
    (hsource : ¬ source <+: q) (htarget : ¬ target <+: q) :
    (t.move source target).entryAt? q = some e := by
  by_cases hroot : q = []
  · rw [hroot, entryAt?_root] at hq ⊢
    exact hq
  rw [entryAt?_of_ne _ hroot] at hq ⊢
  rw [entries_move, List.lookup_append,
    lookup_filter _ (fun place => !source.isPrefixOf place)
      (by simpa [← List.isPrefixOf_iff_prefix] using hsource),
    lookup_filter _ (fun place => !target.isPrefixOf place)
      (by simpa [← List.isPrefixOf_iff_prefix] using htarget), hq]
  rfl

/-- What stands apart from the target stood there before, apart from the source. -/
theorem of_entryAt?_move {q : Location} (hq : ((t.move source target).entryAt? q).isSome)
    (hroot : q ≠ []) (htarget : ¬ target <+: q) :
    (t.entryAt? q).isSome ∧ ¬ source <+: q := by
  rw [entryAt?_of_ne _ hroot, List.lookup_isSome_iff, entries_move] at hq
  obtain ⟨p, hp, hkey⟩ := hq
  have heq : q = p.1 := by simpa using hkey
  rcases List.mem_append.1 hp with hold | hmoved
  · obtain ⟨hold, hsource⟩ := List.mem_filter.1 hold
    rw [entryAt?_of_ne _ hroot, List.lookup_isSome_iff]
    exact ⟨⟨p, (List.mem_filter.1 hold).1, hkey⟩, by
      simpa [heq, ← List.isPrefixOf_iff_prefix] using hsource⟩
  · obtain ⟨x, -, hx⟩ := List.mem_filterMap.1 hmoved
    split at hx
    · cases hx
      exact absurd (heq ▸ List.prefix_append _ _) htarget
    · cases hx

/-- Everything still stands in a directory after a move that does not lead into what it moves. -/
theorem Rooted.move (h : t.Rooted) (hsource : source ≠ []) (htarget : target ≠ [])
    (hparent : t.entryAt? target.dropLast = some .directory) (hout : ¬ source <+: target.dropLast) :
    (t.move source target).Rooted := by
  intro q hq
  by_cases hroot : q = []
  · rw [hroot, List.dropLast_nil, entryAt?_root]
  by_cases hbelow : target <+: q
  · obtain ⟨below, rfl⟩ := hbelow
    rcases below.eq_nil_or_concat' with rfl | ⟨up, name, rfl⟩
    · rw [List.append_nil]
      apply entryAt?_move_of_apart hparent hout
      intro hself
      have := hself.length_le
      rw [List.length_dropLast] at this
      have := List.length_pos_iff.2 htarget
      omega
    · rw [entryAt?_move_target t hsource htarget, ← List.append_assoc] at hq
      have hup := h _ hq
      rw [List.dropLast_concat] at hup
      rw [← List.append_assoc, List.dropLast_concat, entryAt?_move_target t hsource htarget]
      exact hup
  · obtain ⟨hold, hapart⟩ := of_entryAt?_move hq hroot hbelow
    exact entryAt?_move_of_apart (h q hold) (fun hs => hapart (hs.trans (List.dropLast_prefix q)))
      fun ht => hbelow (ht.trans (List.dropLast_prefix q))

/-- A file that moves leaves all directories. -/
theorem Rooted.stay_move (h : t.Rooted) {content : List UInt8}
    (hfile : t.entryAt? source = some (.file content))
    (hfree : t.entryAt? target ≠ some .directory) : Stay t (t.move source target) where
  directory := by
    intro q hq
    apply entryAt?_move_of_apart hq
    · intro hbelow
      have heq := h.not_below_file hfile (by rw [hq]; rfl) hbelow
      rw [heq, hfile] at hq
      cases hq
    · intro hbelow
      by_cases heq : target = q
      · exact hfree (heq ▸ hq)
      · exact hfree (h.directory_of_prefix (by rw [hq]; rfl) hbelow heq)
  workingDir := rfl

/-- A file that moves to the end of a path stands in a directory. -/
theorem Sound.move (h : t.Sound) {path name : String} {d : Reach} (hd : t.reach path = .ok d)
    {content : List UInt8} (hfile : t.entryAt? source = some (.file content))
    (hfree : t.entryAt? (d.directory ++ [name]) ≠ some .directory) :
    (t.move source (d.directory ++ [name])).Sound where
  parent := by
    have hdir := h.reach hd
    have hsource : source ≠ [] := by
      intro hroot
      rw [hroot, entryAt?_root] at hfile
      cases hfile
    apply h.parent.move hsource (by simp)
    · rw [List.dropLast_concat]
      exact hdir
    · rw [List.dropLast_concat]
      intro hbelow
      have heq := h.parent.not_below_file hfile (by rw [hdir]; rfl) hbelow
      rw [heq, hfile] at hdir
      cases hdir
  workingDir := (h.parent.stay_move hfile hfree).directory _ h.workingDir

/-! ## Writing and renaming -/

/-- A file is renamed to a place that is no directory. -/
theorem eq_of_rename {old new : String} {s : Reach} {name : String} {content : List UInt8}
    (hs : t.reach old = .ok s) (hname : s.last = .name name)
    (hfile : t.entryAt? (s.directory ++ [name]) = some (.file content))
    (h : t.rename old new = .ok u) :
    ∃ d target, t.reach new = .ok d ∧ d.last = .name target ∧ d.slash = false ∧
      target.utf8ByteSize ≤ maxName ∧ t.entryAt? (d.directory ++ [target]) ≠ some .directory ∧
      u = if s.directory ++ [name] = d.directory ++ [target] then t
        else t.move (s.directory ++ [name]) (d.directory ++ [target]) := by
  simp only [rename, bind_eq_ok, hs, Except.ok.injEq, exists_eq_left'] at h
  obtain ⟨d, hd, h⟩ := h
  cases htarget : d.last with
  | name target =>
    simp only [hname, htarget, hfile, guard_eq_ok] at h
    obtain ⟨-, hlong, hslash, -, hfree, h⟩ := h
    refine ⟨d, target, hd, htarget, ?_, Nat.le_of_not_lt hlong, hfree, ?_⟩
    · cases hends : d.slash
      · rfl
      · simp [hends] at hslash
    · split at h <;> split <;> first | contradiction | exact (Except.ok.inj h).symm
  | root => simp only [hname, htarget] at h; cases h
  | here => simp only [hname, htarget] at h; cases h
  | up => simp only [hname, htarget] at h; cases h

/-- A path that ends in the name of a file leads to the file. -/
theorem read_of_reach {path name : String} {r : Reach} {content : List UInt8}
    (hr : t.reach path = .ok r) (hname : r.last = .name name) (hslash : r.slash = false)
    (hshort : name.utf8ByteSize ≤ maxName)
    (hfile : t.entryAt? (r.directory ++ [name]) = some (.file content)) :
    t.read path = .ok content := by
  have hfind : t.find path = .ok (r.directory ++ [name], .file content) := by
    simp only [find, hr, hname, hfile, hslash, bind, Except.bind, pure, Except.pure,
      if_neg (Nat.not_lt.2 hshort)]
    rfl
  rw [read, hfind]
  rfl

/-- In a sound tree, what is written under one path and renamed to another is read under the
other, and the tree stays sound. -/
theorem Sound.read_rename (h : t.Sound) {v : Files} {old new : String} {content : List UInt8}
    (hwrite : t.write old content = .ok u) (hrename : u.rename old new = .ok v) :
    v.read new = .ok content ∧ v.Sound := by
  have hu : u.Sound := h.write hwrite
  obtain ⟨s, name, hs, hname, hfree, rfl⟩ := eq_of_write hwrite
  have hfile : (t.put (s.directory ++ [name]) (.file content)).entryAt? (s.directory ++ [name]) =
      some (.file content) := by
    rw [entryAt?_put t (by simp), if_pos rfl]
  obtain ⟨d, target, hd, htarget, hslash, hshort, hfree, rfl⟩ :=
    eq_of_rename ((stay_put t hfree _).reach hs) hname hfile hrename
  split
  · next hsame => exact ⟨read_of_reach hd htarget hslash hshort (hsame ▸ hfile), hu⟩
  · have hmoved := entryAt?_move_target (t.put (s.directory ++ [name]) (.file content))
      (List.concat_ne_nil name s.directory) (List.concat_ne_nil target d.directory) []
    rw [List.append_nil, List.append_nil, hfile] at hmoved
    exact ⟨read_of_reach ((hu.parent.stay_move hfile hfree).reach hd) htarget hslash hshort hmoved,
      hu.move hd hfile hfree⟩

end Portcullis.Files
