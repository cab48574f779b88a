import Portcullis.Proofs.Files.Staged

/-!
# Disks with a plan of faults

`Trial` is a disk that keeps files by path and ends its operations the way a plan says, so that
any pattern of faults can be played.  A failed write leaves the first byte of the content.  A
failed rename ends the plan: what comes after it is clean-up.

It is a lawful disk, and forgiving whatever the two targets are (`Trial.forgiving`).
-/

namespace Portcullis

/-- Files by path, and how the next operations end. Those beyond the plan succeed. -/
structure Trial where
  files : String → Option (List UInt8)
  plan : List (Option Fault)

namespace Trial

/-- Gives a file a content, or takes it away. -/
def set (t : Trial) (path : String) (content : Option (List UInt8)) : Trial :=
  { t with files := fun p => if p = path then content else t.files p }

/-- How an operation ends that the plan has a say in, with what it does where it succeeds and
where it fails. -/
def play (t : Trial) (done failed : Trial → Trial) : Except Fault Unit × Trial :=
  match t.plan with
  | some f :: rest => (.error f, failed { t with plan := rest })
  | none :: rest => (.ok (), done { t with plan := rest })
  | [] => (.ok (), done t)

instance : Disk Trial where
  read t path :=
    match t.files path with
    | some bytes => .ok bytes
    | none => .error .notFound
  makeDirs _ t := t.play id id
  write path bytes t := t.play (·.set path (some bytes)) (·.set path (some (bytes.take 1)))
  rename source target t :=
    match t.files source with
    | none => (.error .notFound, t)
    | some bytes =>
      t.play (fun t => (t.set source none).set target (some bytes)) (fun t => { t with plan := [] })
  remove path t :=
    match t.files path with
    | none => (.error .notFound, t)
    | some _ => (.ok (), t.set path none)

instance : Browsable Trial where
  isPresent t path := (t.files path).isSome
  isFile t path := (t.files path).isSome

/-! ## Its laws -/

@[simp] theorem files_set_self (t : Trial) (path : String) (content : Option (List UInt8)) :
    (t.set path content).files path = content :=
  if_pos rfl

theorem files_set_of_ne (t : Trial) {path other : String} (h : other ≠ path)
    (content : Option (List UInt8)) : (t.set path content).files other = t.files other :=
  if_neg h

/-- An operation in the plan ends in one of two ways. -/
theorem play_cases (t : Trial) (done failed : Trial → Trial) :
    (∃ rest, t.play done failed = (.ok (), done { t with plan := rest })) ∨
      ∃ f rest, t.play done failed = (.error f, failed { t with plan := rest }) := by
  unfold play
  split
  · next f rest hplan => exact Or.inr ⟨f, rest, rfl⟩
  · next rest hplan => exact Or.inl ⟨rest, rfl⟩
  · exact Or.inl ⟨t.plan, rfl⟩

/-- With no plan left operations succeed. -/
theorem play_of_nil {t : Trial} (h : t.plan = []) (done failed : Trial → Trial) :
    t.play done failed = (.ok (), done t) := by
  rw [play, h]

/-- The rename of a file that is there is up to the plan. -/
theorem rename_of_some {t : Trial} {source target : String} {bytes : List UInt8}
    (h : t.files source = some bytes) :
    Disk.rename source target t =
      t.play (fun t => (t.set source none).set target (some bytes))
        (fun t => { t with plan := [] }) := by
  show (match t.files source with | none => _ | some bytes => _) = _
  rw [h]

theorem rename_of_none {t : Trial} {source : String} (h : t.files source = none)
    (target : String) : Disk.rename source target t = (.error .notFound, t) := by
  show (match t.files source with | none => _ | some bytes => _) = _
  rw [h]

theorem remove_of_some {t : Trial} {path : String} {bytes : List UInt8}
    (h : t.files path = some bytes) : Disk.remove path t = (.ok (), t.set path none) := by
  show (match t.files path with | none => _ | some _ => _) = _
  rw [h]

theorem remove_of_none {t : Trial} {path : String} (h : t.files path = none) :
    Disk.remove path t = (.error .notFound, t) := by
  show (match t.files path with | none => _ | some _ => _) = _
  rw [h]

/-- Whatever becomes of a rename, it moves a content or changes nothing. -/
theorem rename_cases (t : Trial) (source target : String) :
    (∃ bytes rest, t.files source = some bytes ∧ Disk.rename source target t =
        (.ok (), ({ t with plan := rest }.set source none).set target (some bytes))) ∨
      ∃ f rest, Disk.rename source target t = (.error f, { t with plan := rest }) := by
  cases hsource : t.files source with
  | none => exact Or.inr ⟨.notFound, t.plan, rename_of_none hsource target⟩
  | some bytes =>
    rw [rename_of_some hsource]
    rcases t.play_cases (fun t => (t.set source none).set target (some bytes))
      (fun t => { t with plan := [] }) with ⟨rest, hplay⟩ | ⟨f, rest, hplay⟩
    · exact Or.inl ⟨bytes, rest, rfl, hplay⟩
    · exact Or.inr ⟨f, [], hplay⟩

/-- Whatever becomes of a removal, the file is gone and no other is. -/
theorem remove_cases (t : Trial) (path : String) :
    (Disk.remove path t).2 = t.set path none ∧ Disk.Removed (Disk.remove path t).1 := by
  cases hpath : t.files path with
  | none =>
    have hset : t.set path none = t := by
      have hfiles : (fun p => if p = path then none else t.files p) = t.files := by
        funext p
        by_cases hp : p = path
        · rw [if_pos hp, hp, hpath]
        · rw [if_neg hp]
      rw [set, hfiles]
    rw [remove_of_none hpath, hset]
    exact ⟨rfl, Or.inr rfl⟩
  | some bytes =>
    rw [remove_of_some hpath]
    exact ⟨rfl, Or.inl rfl⟩

instance : LawfulDisk Trial where
  File := String
  fileAt := id
  content? t := t.files
  read_present t path bytes h := by
    show (match t.files path with | some bytes => _ | none => _) = _
    rw [show t.files path = some bytes from h]
  read_absent t path h := by
    refine ⟨.notFound, ?_⟩
    show (match t.files path with | some bytes => _ | none => _) = _
    rw [show t.files path = none from h]
  makeDirs_content t path := by
    show (t.play id id).2.files = t.files
    rcases t.play_cases id id with ⟨rest, h⟩ | ⟨f, rest, h⟩ <;> rw [h] <;> rfl
  write_ok t path bytes h := by
    show (t.play _ _).2.files path = some bytes
    change (t.play _ _).1 = .ok () at h
    rcases t.play_cases (·.set path (some bytes)) (·.set path (some (bytes.take 1))) with
      ⟨rest, hplay⟩ | ⟨f, rest, hplay⟩
    · rw [hplay]
      exact files_set_self _ _ _
    · rw [hplay] at h
      cases h
  write_other t path bytes g hg := by
    show (t.play _ _).2.files g = t.files g
    rcases t.play_cases (·.set path (some bytes)) (·.set path (some (bytes.take 1))) with
      ⟨rest, hplay⟩ | ⟨f, rest, hplay⟩ <;> rw [hplay] <;> exact files_set_of_ne _ hg _
  rename_target t source target _ _ h := by
    rcases t.rename_cases source target with ⟨bytes, rest, hsource, hrename⟩ | ⟨f, rest, hrename⟩
    · rw [hrename]
      exact (files_set_self _ _ _).trans hsource.symm
    · rw [hrename] at h
      cases h
  rename_source t source target _ hne h := by
    rcases t.rename_cases source target with ⟨bytes, rest, hsource, hrename⟩ | ⟨f, rest, hrename⟩
    · rw [hrename]
      exact (files_set_of_ne _ hne _).trans (files_set_self _ _ _)
    · rw [hrename] at h
      cases h
  rename_other t source target g _ hsource htarget := by
    rcases t.rename_cases source target with ⟨bytes, rest, _, hrename⟩ | ⟨f, rest, hrename⟩
    · rw [hrename]
      exact (files_set_of_ne _ htarget _).trans (files_set_of_ne _ hsource _)
    · rw [hrename]
  rename_error t source target e h := by
    rcases t.rename_cases source target with ⟨bytes, rest, _, hrename⟩ | ⟨f, rest, hrename⟩
    · rw [hrename] at h
      cases h
    · rw [hrename]
  remove_ok t path _ := by
    rw [(t.remove_cases path).1]
    exact files_set_self _ _ _
  remove_notFound t path _ := by
    rw [(t.remove_cases path).1]
    exact files_set_self _ _ _
  remove_other t path g hg := by
    rw [(t.remove_cases path).1]
    exact files_set_of_ne _ hg _

/-! ## It is forgiving -/

/-- With no plan left every target can be restored. -/
theorem restorable {t : Trial} (hplan : t.plan = []) (target : String) : Restorable target t := by
  have hroom : Staged.makeRoom target t = (.ok (), t) := by
    unfold Staged.makeRoom
    cases Path.parent? target with
    | none => rfl
    | some parent =>
      show ((t.play id id).1.mapError _, (t.play id id).2) = (.ok (), t)
      rw [play_of_nil hplan]
      rfl
  have hwrite : ∀ bytes, Disk.write (Staged.draftOf target) bytes t =
      (.ok (), t.set (Staged.draftOf target) (some bytes)) := by
    intro bytes
    exact play_of_nil hplan _ _
  refine ⟨by rw [hroom], fun bytes => ?_, fun bytes => ?_, (t.remove_cases target).2⟩
  · rw [hroom, hwrite]
  · have hdraft : (t.set (Staged.draftOf target) (some bytes)).files (Staged.draftOf target) =
        some bytes := files_set_self _ _ _
    have hplan' : (t.set (Staged.draftOf target) (some bytes)).plan = [] := hplan
    rw [hroom, hwrite, rename_of_some hdraft, play_of_nil hplan']

/-- A failed rename is the last fault, so all that is taken for granted holds. -/
theorem forgiving (first second : String) : Forgiving Trial first second where
  discards _ _ t := (t.remove_cases _).2
  rollsBack t e hdraft herror := by
    obtain ⟨bytes, hbytes⟩ : ∃ bytes, t.files (Staged.draftOf second) = some bytes :=
      Option.isSome_iff_exists.mp hdraft
    rw [rename_of_some hbytes] at herror ⊢
    apply restorable
    rw [(remove_cases _ _).1]
    rcases t.play_cases (fun t => (t.set _ none).set second (some bytes))
      (fun t => { t with plan := [] }) with ⟨rest, hplay⟩ | ⟨f, rest, hplay⟩
    · rw [hplay] at herror
      cases herror
    · rw [hplay]
      rfl

end Trial

end Portcullis
