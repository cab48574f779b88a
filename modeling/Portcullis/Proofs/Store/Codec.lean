import Mathlib.Data.List.Nodup
import Portcullis.Proofs.Json.RoundTrip
import Portcullis.Store.Persist

/-!
# Snapshots are read as they were written

Every snapshot, whatever its texts and numbers, is read from its own bytes again.

* `Slots.ofDatum?_object` fills the fields of a record that writes each name once.
* `Inverts decode encode` says that a decoder reads what an encoder wrote.  Numbers do over their
  whole range, values with a name, optional values and lists do, and so does each row.
* `Snapshot.decode?_encode` carries this from data to bytes.
-/

namespace Portcullis

open Datum
open Portcullis.Json (Plain)

/-! ## Records -/

namespace Slots

/-- The member of a name, where no name occurs twice. -/
theorem unique?_object {ms : List (String × Datum)} (h : (ms.map Prod.fst).Nodup)
    (name : String) :
    unique? (ms.map fun (name, d) => (some name, d)) name = some (ms.lookup name) := by
  induction ms with
  | nil => rfl
  | cons m ms ih =>
    obtain ⟨key, d⟩ := m
    obtain ⟨hnew, hrest⟩ := List.nodup_cons.1 h
    by_cases hkey : key = name
    · have hnone : (ms.map fun (name, d) => (some name, d)).filter
          (fun m => m.1 == some name) = [] := by
        rw [List.filter_eq_nil_iff]
        intro m hm heq
        obtain ⟨⟨k, e⟩, hmem, rfl⟩ := List.mem_map.1 hm
        have hk : k = name := by simpa using heq
        exact hnew (List.mem_map.2 ⟨(k, e), hmem, hk.trans hkey.symm⟩)
      simp only [unique?, List.map_cons, List.filter_cons, hkey, beq_self_eq_true, if_true, hnone,
        List.lookup_cons]
    · have hskip : (some key == some name) = false := by simpa using hkey
      have hlook : (name == key) = false := by simpa using fun h => hkey h.symm
      have hih := ih hrest
      simp only [unique?, List.map_cons, List.filter_cons, hskip, List.lookup_cons, hlook]
      exact hih

/-- The fields that members fill by their names. -/
def ofMembers (ms : List (String × Datum)) : Slots := fun name =>
  ms.lookup name

/-- A record whose names occur once fills each field by its member. -/
theorem ofDatum?_object (dialect : Dialect) (names : List String) {ms : List (String × Datum)}
    (h : (ms.map Prod.fst).Nodup) :
    Slots.ofDatum? dialect names (.object ms) = some (ofMembers ms) := by
  have hnamed : (ms.map fun (name, d) => (some name, d)).any (·.1.isNone) = false := by
    simp
  rw [Datum.object, Slots.ofDatum?, hnamed]
  simp [unique?_object h]
  rfl

@[simp] theorem require_ofMembers (ms : List (String × Datum)) (name : String)
    (decode : Datum → Option α) :
    (ofMembers ms).require name decode = (ms.lookup name).bind decode :=
  rfl

@[simp] theorem fallback_ofMembers (ms : List (String × Datum)) (name : String) (default : α)
    (decode : Datum → Option α) :
    (ofMembers ms).fallback name default decode = (ms.lookup name).elim (some default) decode := by
  rw [fallback, ofMembers]
  cases ms.lookup name <;> rfl

@[simp] theorem optional_ofMembers (ms : List (String × Datum)) (name : String)
    (decode : Datum → Option α) :
    (ofMembers ms).optional name decode =
      (ms.lookup name).elim (some none) (Datum.nullable decode) :=
  fallback_ofMembers ms name none _

end Slots

/-! ## Values -/

/-- A decoder reads what an encoder wrote. -/
def Inverts (decode : Datum → Option α) (encode : α → Datum) : Prop :=
  ∀ a, decode (encode a) = some a

namespace Inverts

variable {α : Type} {decode : Datum → Option α} {encode : α → Datum}

theorem list (h : Inverts decode encode) :
    Inverts (list? decode) fun as => .list (as.map encode) := by
  intro as
  show (as.map encode).mapM decode = some as
  induction as with
  | nil => rfl
  | cons a as ih => simp [h a, ih]

theorem nullable (h : Inverts decode encode) (hnull : ∀ a, encode a ≠ .null) :
    Inverts (Datum.nullable decode) (.ofOption encode) := by
  intro o
  cases o with
  | none => rfl
  | some a =>
    have hcase : Datum.nullable decode (encode a) = (decode (encode a)).map some := by
      cases hd : encode a with
      | null => exact absurd hd (hnull a)
      | _ => rfl
    rw [Datum.ofOption, hcase, h a]
    rfl

end Inverts

@[simp] theorem flag?_flag (b : Bool) : flag? (.flag b) = some b :=
  rfl

@[simp] theorem text?_text (s : String) : text? (.text s) = some s :=
  rfl

theorem whole?_whole {n least most : Int} (h : least ≤ n ∧ n ≤ most) :
    (Datum.whole n).whole? least most = some n := by
  simp [whole?, h]

@[simp] theorem u16?_toNat (n : UInt16) : u16? (.whole n.toNat) = some n := by
  have hlt := n.toNat_lt
  rw [u16?, whole?_whole (by omega)]
  simp

@[simp] theorem u32?_count32 (n : UInt32) : u32? (count32 n) = some n := by
  have hlt := n.toNat_lt
  rw [u32?, count32, whole?_whole (by omega)]
  simp

@[simp] theorem u64?_count64 (n : UInt64) : u64? (count64 n) = some n := by
  have hlt := n.toNat_lt
  rw [u64?, count64, whole?_whole (by omega)]
  simp

/-- Every signed number of 32 bits is within the bounds that it is read with. -/
@[simp] theorem whole?_toInt (n : Int32) :
    (Datum.whole n.toInt).whole? (-2147483648) 2147483647 = some n.toInt :=
  whole?_whole ⟨n.le_toInt, Int.le_of_lt_add_one n.toInt_lt⟩

/-- A key that occurs once leads to its value. -/
theorem lookup_of_mem {ps : List (String × α)} (h : (ps.map Prod.fst).Nodup) {key : String}
    {a : α} (hmem : (key, a) ∈ ps) : ps.lookup key = some a := by
  induction ps with
  | nil => cases hmem
  | cons p ps ih =>
    obtain ⟨hnew, hrest⟩ := List.nodup_cons.1 h
    rcases List.mem_cons.1 hmem with rfl | hlater
    · simp
    · have hne : (key == p.1) = false := by
        have : p.1 ≠ key := fun heq => hnew (heq ▸ List.mem_map_of_mem (f := Prod.fst) hlater)
        simpa using this.symm
      rw [List.lookup_cons, hne]
      exact ih hrest hlater

/-- A value with a name of its own is read from its name. -/
theorem choice?_named [DecidableEq α] {names : Names α} (hnames : (names.map Prod.fst).Nodup)
    (hall : ∀ a, a ∈ names.map Prod.snd) :
    Inverts (Dialect.json.choice? names) (named names) := by
  intro a
  obtain ⟨p, hp, rfl⟩ := List.mem_map.1 (hall a)
  have hfound : (names.find? fun q => q.2 = p.2).isSome := by
    rw [List.find?_isSome]
    exact ⟨p, hp, by simp⟩
  obtain ⟨q, hq⟩ := Option.isSome_iff_exists.1 hfound
  have hvalue : q.2 = p.2 := by simpa using List.find?_some hq
  show names.lookup (nameOf names p.2) = some p.2
  rw [nameOf, hq, ← hvalue]
  exact lookup_of_mem hnames (List.mem_of_find?_eq_some hq)

theorem ListenKind.choice?_named : Inverts (Dialect.json.choice? names) (named names) :=
  Portcullis.choice?_named (by decide) fun k => by cases k <;> decide

theorem CheckMode.choice?_named : Inverts (Dialect.json.choice? names) (named names) :=
  Portcullis.choice?_named (by decide) fun m => by cases m <;> decide

theorem Destination.choice?_named : Inverts (Dialect.json.choice? names) (named names) :=
  Portcullis.choice?_named (by decide) fun d => by cases d <;> decide

theorem TunnelDirection.choice?_named : Inverts (Dialect.json.choice? names) (named names) :=
  Portcullis.choice?_named (by decide) fun d => by cases d <;> decide

theorem Balancing.choice?_named : Inverts (Dialect.json.choice? names) (named names) :=
  Portcullis.choice?_named (by decide) fun b => by cases b <;> decide

/-! ## Rows

Each row is read from its own datum.  The fields are taken outermost first, so that none is looked
at twice. -/

theorem Listener.ofDatum?_toDatum : Inverts Listener.ofDatum? Listener.toDatum := by
  intro l
  rw [ofDatum?, toDatum, Slots.ofDatum?_object .json fields (by simp)]
  dsimp only [Option.bind_eq_bind, Option.pure_def]
  simp [↓Option.bind_eq_some_iff, -Bool.exists_bool, List.lookup_cons,
    ListenKind.choice?_named l.kind, CheckMode.choice?_named l.mode]

theorem Domain.ofDatum?_toDatum : Inverts Domain.ofDatum? Domain.toDatum := by
  intro d
  rw [ofDatum?, toDatum, Slots.ofDatum?_object .json fields (by simp)]
  dsimp only [Option.bind_eq_bind, Option.pure_def]
  simp [↓Option.bind_eq_some_iff, -Bool.exists_bool, List.lookup_cons]

theorem StreamRoute.ofDatum?_toDatum : Inverts StreamRoute.ofDatum? StreamRoute.toDatum := by
  intro r
  rw [ofDatum?, toDatum, Slots.ofDatum?_object .json fields (by simp)]
  dsimp only [Option.bind_eq_bind, Option.pure_def]
  simp [↓Option.bind_eq_some_iff, -Bool.exists_bool, List.lookup_cons,
    Destination.choice?_named r.destination, Balancing.choice?_named r.balancing,
    TunnelDirection.choice?_named r.tunnel]

theorem HttpRoute.ofDatum?_toDatum : Inverts HttpRoute.ofDatum? HttpRoute.toDatum := by
  intro r
  rw [ofDatum?, toDatum, Slots.ofDatum?_object .json fields (by simp)]
  dsimp only [Option.bind_eq_bind, Option.pure_def]
  simp [↓Option.bind_eq_some_iff, -Bool.exists_bool, List.lookup_cons]

theorem SshPort.ofDatum?_toDatum : Inverts SshPort.ofDatum? SshPort.toDatum := by
  intro p
  rw [ofDatum?, toDatum, Slots.ofDatum?_object .json fields (by simp)]
  dsimp only [Option.bind_eq_bind, Option.pure_def]
  simp [↓Option.bind_eq_some_iff, -Bool.exists_bool, List.lookup_cons]

theorem BlockRow.ofDatum?_toDatum : Inverts BlockRow.ofDatum? BlockRow.toDatum := by
  intro r
  have hnullable : Inverts (Datum.nullable u32?) (.ofOption count32) :=
    .nullable u32?_count32 fun _ => Datum.noConfusion
  have hlocation := hnullable r.details.locationId
  rw [ofDatum?, toDatum, Slots.ofDatum?_object .json fields (by simp)]
  dsimp only [Option.bind_eq_bind, Option.pure_def]
  simp [↓Option.bind_eq_some_iff, -Bool.exists_bool, List.lookup_cons, hlocation]

theorem AllowRow.ofDatum?_toDatum : Inverts AllowRow.ofDatum? AllowRow.toDatum := by
  intro r
  rw [ofDatum?, toDatum, Slots.ofDatum?_object .json fields (by simp)]
  dsimp only [Option.bind_eq_bind, Option.pure_def]
  simp [↓Option.bind_eq_some_iff, -Bool.exists_bool, List.lookup_cons]

/-! ## Rows hold what printing keeps -/

theorem plain_count32 (n : UInt32) : Plain (count32 n) := .whole _

theorem plain_count64 (n : UInt64) : Plain (count64 n) := .whole _

theorem plain_named [DecidableEq α] (names : Names α) (a : α) : Plain (named names a) := .text _

theorem plain_ofOption {encode : α → Datum} (h : ∀ a, Plain (encode a)) (o : Option α) :
    Plain (.ofOption encode o) := by
  cases o with
  | none => exact .null
  | some a => exact h a

theorem Listener.plain_toDatum (l : Listener) : Plain l.toDatum :=
  .object _ (by simp [plain_count32, plain_named, Plain.whole, Plain.flag, Plain.text])

theorem Domain.plain_toDatum (d : Domain) : Plain d.toDatum :=
  .object _ (by simp [plain_count32, Plain.text])

theorem StreamRoute.plain_toDatum (r : StreamRoute) : Plain r.toDatum :=
  .object _ (by simp [plain_count32, plain_named, Plain.whole, Plain.flag, Plain.text])

theorem HttpRoute.plain_toDatum (r : HttpRoute) : Plain r.toDatum :=
  .object _ (by simp [plain_count32])

theorem SshPort.plain_toDatum (p : SshPort) : Plain p.toDatum :=
  .object _ (by simp [plain_count32, Plain.whole])

theorem BlockRow.plain_toDatum (r : BlockRow) : Plain r.toDatum :=
  .object _ (by simp [plain_count32, plain_count64, plain_ofOption plain_count32, Plain.flag,
    Plain.text])

theorem AllowRow.plain_toDatum (r : AllowRow) : Plain r.toDatum :=
  .object _ (by simp [plain_count32, plain_count64, Plain.flag, Plain.text])

/-- The rows of a table make a plain list, if each is plain. -/
theorem plain_list {encode : ρ → Datum} (h : ∀ r, Plain (encode r)) (rows : List ρ) :
    Plain (.list (rows.map encode)) := by
  apply Plain.list
  intro d hd
  obtain ⟨r, -, rfl⟩ := List.mem_map.1 hd
  exact h r

/-! ## Snapshots -/

namespace Snapshot

theorem ofDatum?_toDatum : Inverts Snapshot.ofDatum? Snapshot.toDatum := by
  intro s
  rw [ofDatum?, toDatum, Slots.ofDatum?_object .json fields (by simp)]
  simp [List.lookup_cons, Listener.ofDatum?_toDatum.list s.listeners,
    Domain.ofDatum?_toDatum.list s.domains, StreamRoute.ofDatum?_toDatum.list s.streamRoutes,
    HttpRoute.ofDatum?_toDatum.list s.httpRoutes, SshPort.ofDatum?_toDatum.list s.sshPorts,
    BlockRow.ofDatum?_toDatum.list s.blacklist, AllowRow.ofDatum?_toDatum.list s.whitelist]

theorem plain_toDatum (s : Snapshot) : Plain s.toDatum :=
  .object _ (by
    simp [plain_list Listener.plain_toDatum, plain_list Domain.plain_toDatum,
      plain_list StreamRoute.plain_toDatum, plain_list HttpRoute.plain_toDatum,
      plain_list SshPort.plain_toDatum, plain_list BlockRow.plain_toDatum,
      plain_list AllowRow.plain_toDatum])

/-- A snapshot is read from its own bytes. -/
theorem decode?_encode (s : Snapshot) : decode? s.encode = some s := by
  rw [decode?, encode, Text.Utf8.decode_encode, Json.read?_print .indented s.plain_toDatum]
  exact ofDatum?_toDatum s

end Snapshot

end Portcullis
