import Portcullis.Proofs.Keys
import Portcullis.Proofs.Proxy.Made
import Mathlib.Data.List.Basic

/-!
# Insertions that happen once and as a whole

A configuration is put together by calls that may be refused. A refused call changes nothing, and
what an accepted one has bound stays bound as it is.

* `Calls.leave` is what a call leaves behind and `Calls.accepted` are the calls of a run that
  succeed; `Calls.leaveAll_accepted` says that the others need not have been made.
* `Map.Call.on_eq_ok_iff` says which calls of a map succeed and what they write,
  `Map.built_induction` carries what each of them keeps through a run, and
  `Map.writtenOnce_built` says what a map is after any calls.
* `addNew` adds an element by its key, and `firsts` is what many such additions come to.
* `Block.leave_eq` says what a call adds to a block, `Block.built_eq` what a block holds after any
  calls, and `Block.writtenOnce_built` what follows from it.
* `Config.block_built` takes the calls of a configuration apart, block by block.

`insertions_writtenOnce` is about all of them.
-/

namespace Portcullis.Proxy

/-! ## Calls that may be refused -/

namespace Calls

variable {σ κ : Type} (answer : κ → σ → Except Rejection σ)

/-- What a call leaves behind: a refused one leaves all as it was. -/
def leave (s : σ) (call : κ) : σ :=
  match answer call s with
  | .ok s' => s'
  | .error _ => s

/-- What some calls leave behind. -/
def leaveAll (s : σ) (calls : List κ) : σ :=
  calls.foldl (leave answer) s

/-- The calls of a run that succeed, in the order in which they are made. -/
def accepted (s : σ) : List κ → List κ
  | [] => []
  | call :: rest =>
    if (answer call s).isOk then call :: accepted (leave answer s call) rest else accepted s rest

variable {answer}

theorem leave_of_ok {s s' : σ} {call : κ} (h : answer call s = .ok s') :
    leave answer s call = s' := by
  rw [leave, h]

theorem leave_of_error {s : σ} {call : κ} {r : Rejection} (h : answer call s = .error r) :
    leave answer s call = s := by
  rw [leave, h]

theorem leave_of_not_isOk {s : σ} {call : κ} (h : ¬ (answer call s).isOk) :
    leave answer s call = s := by
  cases hanswer : answer call s with
  | ok s' => exact absurd (by rw [hanswer]; rfl) h
  | error r => exact leave_of_error hanswer

theorem leaveAll_snoc (s : σ) (calls : List κ) (call : κ) :
    leaveAll answer s (calls ++ [call]) = leave answer (leaveAll answer s calls) call := by
  rw [leaveAll, List.foldl_append, List.foldl_cons, List.foldl_nil, leaveAll]

theorem accepted_snoc (s : σ) (calls : List κ) (call : κ) :
    accepted answer s (calls ++ [call]) =
      accepted answer s calls ++
        if (answer call (leaveAll answer s calls)).isOk then [call] else [] := by
  induction calls generalizing s with
  | nil => rfl
  | cons first rest ih =>
    rw [List.cons_append, accepted, accepted]
    by_cases hfirst : (answer first s).isOk
    · rw [if_pos hfirst, if_pos hfirst, ih, List.cons_append]
      rfl
    · have hleave : leaveAll answer s (first :: rest) = leaveAll answer s rest := by
        rw [leaveAll, List.foldl_cons, leave_of_not_isOk hfirst, leaveAll]
      rw [if_neg hfirst, if_neg hfirst, ih, hleave]

/-- The calls that are refused need not have been made. -/
theorem leaveAll_accepted (s : σ) (calls : List κ) :
    leaveAll answer s (accepted answer s calls) = leaveAll answer s calls := by
  induction calls generalizing s with
  | nil => rfl
  | cons first rest ih =>
    rw [accepted]
    split
    · rw [leaveAll, leaveAll, List.foldl_cons, List.foldl_cons]
      exact ih _
    · next hfirst =>
      rw [ih, leaveAll, leaveAll, List.foldl_cons, leave_of_not_isOk hfirst]

end Calls

/-! ## Calls of a map -/

/-- A call that binds a key of a map, or its default value. -/
inductive Map.Call where
  | entry (key value : String)
  | fallback (value : String)
  deriving DecidableEq, Repr

namespace Map

namespace Call

/-- The key that a call is to bind. -/
def key : Call → String
  | .entry key _ => key
  | .fallback _ => defaultKey

/-- The value that a call is to bind its key to. -/
def value : Call → String
  | .entry _ value => value
  | .fallback value => value

def on : Call → Map → Except Rejection Map
  | .entry key value, m => m.addEntry key value
  | .fallback value, m => m.setDefault value

end Call

/-- A map after some calls, from the one that binds nothing. -/
def built (input output : String) (calls : List Call) : Map :=
  Calls.leaveAll Call.on (between input output) calls

/-- The calls of a map that succeed. -/
def accepted (input output : String) (calls : List Call) : List Call :=
  Calls.accepted Call.on (between input output) calls

/-- The map with one binding more. -/
def bind (m : Map) (key value : String) : Map :=
  if key = defaultKey then { m with fallback := some value }
  else { m with entries := m.entries ++ [(key, value)] }

variable {m : Map} {key value : String}

theorem entries_bind :
    (m.bind key value).entries =
      m.entries ++ if key = defaultKey then [] else [(key, value)] := by
  unfold bind
  split
  · exact (List.append_nil _).symm
  · rfl

/-- A new binding is found under its key, and the others where they were. -/
theorem get?_bind (hnew : m.get? key = none) (k : String) :
    (m.bind key value).get? k = (m.get? k).or (if key = k then some value else none) := by
  unfold get? at *
  unfold bind
  by_cases hkey : key = defaultKey
  · rw [if_pos hkey] at hnew
    by_cases hk : k = defaultKey
    · simp [hkey, hk, hnew]
    · simp [hkey, hk, Ne.symm hk]
  · by_cases hk : k = defaultKey
    · simp [hkey, hk]
    · by_cases hsame : key = k
      · subst hsame
        simp [hkey, List.lookup_append]
      · have hother : [(key, value)].lookup k = none := by
          simp [List.lookup_cons, beq_eq_false_iff_ne.mpr (Ne.symm hsame)]
        simp [hkey, hk, hsame, List.lookup_append, hother]

theorem size_bind (hnew : m.get? key = none) : (m.bind key value).size = m.size + 1 := by
  unfold get? at hnew
  unfold bind size
  by_cases hkey : key = defaultKey
  · rw [if_pos hkey] at hnew
    simp [hkey, hnew]
  · simp [hkey]
    omega

/-- A call succeeds where it binds a key that is not empty and is free, and then it binds it. -/
theorem Call.on_eq_ok_iff {call : Call} {m' : Map} :
    call.on m = .ok m' ↔
      call.key ≠ "" ∧ m.get? call.key = none ∧ m' = m.bind call.key call.value := by
  have hdefault (value : String) : m.setDefault value = .ok m' ↔
      m.get? defaultKey = none ∧ m' = m.bind defaultKey value := by
    unfold setDefault get? bind
    cases m.fallback <;> simp [eq_comm]
  cases call with
  | fallback value =>
    have hne : defaultKey ≠ "" := by decide
    simpa [Call.on, Call.key, Call.value, hne] using hdefault value
  | entry key value =>
    show m.addEntry key value = .ok m' ↔
      key ≠ "" ∧ m.get? key = none ∧ m' = m.bind key value
    unfold addEntry
    by_cases hkey : key = defaultKey
    · have hne : key ≠ "" := by
        rw [hkey]
        decide
      rw [if_pos hkey, hkey, hdefault]
      simp [← hkey, hne]
    · by_cases hempty : key = ""
      · simp [hempty, defaultKey]
      · unfold get? bind
        rw [if_neg hkey, if_neg hempty, if_neg hkey, if_neg hkey]
        cases m.entries.lookup key <;> simp [hempty, eq_comm]

theorem Call.isOk_on_iff {call : Call} :
    (call.on m).isOk ↔ call.key ≠ "" ∧ m.get? call.key = none := by
  have hok : (call.on m).isOk ↔ ∃ m', call.on m = .ok m' := by
    cases call.on m <;> simp [Except.isOk, Except.toBool]
  rw [hok]
  simp only [Call.on_eq_ok_iff, exists_and_left, exists_eq, and_true]

/-! ## What a map is after any calls -/

section Run

variable (input output : String) (calls : List Call)

/-- A call that succeeds binds its key, and a refused one changes nothing. -/
theorem built_snoc (call : Call) :
    (call.key ≠ "" ∧ (built input output calls).get? call.key = none ∧
        built input output (calls ++ [call]) =
          (built input output calls).bind call.key call.value ∧
        accepted input output (calls ++ [call]) = accepted input output calls ++ [call]) ∨
      (¬ (call.key ≠ "" ∧ (built input output calls).get? call.key = none) ∧
        built input output (calls ++ [call]) = built input output calls ∧
        accepted input output (calls ++ [call]) = accepted input output calls) := by
  have hbuilt : built input output (calls ++ [call]) =
      Calls.leave Call.on (built input output calls) call := Calls.leaveAll_snoc _ calls call
  have haccepted : accepted input output (calls ++ [call]) =
      accepted input output calls ++
        if (call.on (built input output calls)).isOk then [call] else [] :=
    Calls.accepted_snoc _ calls call
  rw [hbuilt, haccepted]
  by_cases hok : (call.on (built input output calls)).isOk
  · obtain ⟨hempty, hfree⟩ := Call.isOk_on_iff.mp hok
    exact .inl ⟨hempty, hfree,
      Calls.leave_of_ok (Call.on_eq_ok_iff.mpr ⟨hempty, hfree, rfl⟩), by rw [if_pos hok]⟩
  · refine .inr ⟨fun h => hok (Call.isOk_on_iff.mpr h), Calls.leave_of_not_isOk hok, ?_⟩
    rw [if_neg hok, List.append_nil]

/-- What holds of a map after some calls that bind each key once. The default value is that of
`defaultKey`, whichever call has set it. -/
structure WrittenOnce : Prop where
  named : (built input output calls).input = input ∧ (built input output calls).output = output
  /-- A key has the value of the first call that succeeded for it. -/
  bound (key : String) : (built input output calls).get? key =
    ((accepted input output calls).find? (·.key == key)).map (·.value)
  /-- No entry is for the reserved key or for the empty one. -/
  literal : ∀ e ∈ (built input output calls).entries, e.1 ≠ defaultKey ∧ e.1 ≠ ""
  /-- Entries come in the order of the calls that bound them. -/
  ordered : (built input output calls).entries =
    ((accepted input output calls).filter (·.key ≠ defaultKey)).map fun c => (c.key, c.value)
  counted : (built input output calls).size = (accepted input output calls).length
  /-- A call succeeds exactly if it is the first one for a key that is not empty. -/
  first (call : Call) : (call.on (built input output calls)).isOk ↔
    call.key ≠ "" ∧ ∀ c ∈ calls, c.key ≠ call.key
  /-- A refused call changes nothing. -/
  refused (call : Call) (r : Rejection) : call.on (built input output calls) = .error r →
    built input output (calls ++ [call]) = built input output calls
  /-- The calls that succeed would have made the same map alone. -/
  enough : built input output (accepted input output calls) = built input output calls

/-- What holds at the start, and stays when a free key is bound, holds of a map and of the calls
that made it. -/
theorem built_induction {P : Map → List Call → Prop} (start : P (between input output) [])
    (step : ∀ m done call, call.key ≠ "" → m.get? call.key = none → P m done →
      P (m.bind call.key call.value) (done ++ [call])) :
    P (built input output calls) (accepted input output calls) := by
  induction calls using List.reverseRecOn with
  | nil => exact start
  | append_singleton calls call ih =>
    rcases built_snoc input output calls call with ⟨hempty, hfree, hbuilt, haccepted⟩ |
      ⟨-, hbuilt, haccepted⟩
    · rw [hbuilt, haccepted]
      exact step _ _ call hempty hfree ih
    · rw [hbuilt, haccepted]
      exact ih

theorem get?_built (key : String) : (built input output calls).get? key =
    ((accepted input output calls).find? (·.key == key)).map (·.value) := by
  refine built_induction input output calls
    (P := fun m done => m.get? key = (done.find? (·.key == key)).map (·.value)) ?_ ?_
  · simp [get?, between]
  · intro m done call _ hfree ih
    rw [get?_bind hfree, ih, List.find?_append, Option.map_or]
    by_cases hkey : call.key = key <;> simp [hkey]

theorem entries_built : (built input output calls).entries =
    ((accepted input output calls).filter (·.key ≠ defaultKey)).map fun c => (c.key, c.value) := by
  refine built_induction input output calls
    (P := fun m done =>
      m.entries = (done.filter (·.key ≠ defaultKey)).map fun c => (c.key, c.value)) rfl ?_
  intro m done call _ _ ih
  rw [entries_bind, ih, List.filter_append, List.map_append]
  by_cases hkey : call.key = defaultKey <;> simp [hkey]

theorem size_built :
    (built input output calls).size = (accepted input output calls).length := by
  refine built_induction input output calls (P := fun m done => m.size = done.length) rfl ?_
  intro m done call _ hfree ih
  rw [size_bind hfree, ih, List.length_append, List.length_singleton]

/-- No call succeeds for the empty key. -/
theorem key_ne_empty_of_accepted : ∀ c ∈ accepted input output calls, c.key ≠ "" := by
  refine built_induction input output calls (P := fun _ done => ∀ c ∈ done, c.key ≠ "")
    (List.forall_mem_nil _) ?_
  intro m done call hempty _ ih
  rw [List.forall_mem_append, List.forall_mem_singleton]
  exact ⟨ih, hempty⟩

theorem ends_built :
    (built input output calls).input = input ∧ (built input output calls).output = output := by
  refine built_induction input output calls
    (P := fun m _ => m.input = input ∧ m.output = output) ⟨rfl, rfl⟩ ?_
  intro m done call _ _ ih
  rw [bind]
  split <;> exact ih

/-- A key is free as long as no call has been made for it. -/
theorem get?_built_eq_none_iff {key : String} (hkey : key ≠ "") :
    (built input output calls).get? key = none ↔ ∀ c ∈ calls, c.key ≠ key := by
  induction calls using List.reverseRecOn with
  | nil => simp [built, Calls.leaveAll, get?, between]
  | append_singleton calls call ih =>
    rw [List.forall_mem_append, List.forall_mem_singleton, ← ih]
    rcases built_snoc input output calls call with ⟨-, hfree, hbuilt, -⟩ | ⟨hrefused, hbuilt, -⟩
    · rw [hbuilt, get?_bind hfree, Option.or_eq_none_iff]
      simp
    · rw [hbuilt]
      refine ⟨fun hfree => ⟨hfree, ?_⟩, And.left⟩
      rintro rfl
      exact hrefused ⟨hkey, hfree⟩

/-- A call that succeeds is the first one for its key. -/
theorem isOk_on_built_iff (call : Call) :
    (call.on (built input output calls)).isOk ↔
      call.key ≠ "" ∧ ∀ c ∈ calls, c.key ≠ call.key := by
  rw [Call.isOk_on_iff]
  exact and_congr_right fun hkey => get?_built_eq_none_iff input output calls hkey

theorem writtenOnce_built : WrittenOnce input output calls where
  named := ends_built input output calls
  bound := get?_built input output calls
  literal := by
    intro e he
    rw [entries_built, List.mem_map] at he
    obtain ⟨call, hcall, rfl⟩ := he
    obtain ⟨hmem, hkey⟩ := List.mem_filter.mp hcall
    exact ⟨by simpa using hkey, key_ne_empty_of_accepted input output calls call hmem⟩
  ordered := entries_built input output calls
  counted := size_built input output calls
  first := isOk_on_built_iff input output calls
  refused call r h := (Calls.leaveAll_snoc _ calls call).trans (Calls.leave_of_error h)
  enough := Calls.leaveAll_accepted (between input output) calls

end Run

end Map

/-! ## What is kept by its key -/

section ByKey

variable {α : Type} (key : α → String)

/-- Adds an element at the end, unless its key is taken. -/
def addNew (as : List α) (a : α) : List α :=
  if (as.find? (key · == key a)).isSome then as else as ++ [a]

/-- Of each key the first element. -/
def firsts (as : List α) : List α :=
  as.foldl (addNew key) []

variable {key}

theorem firsts_append (as bs : List α) :
    firsts key (as ++ bs) = bs.foldl (addNew key) (firsts key as) :=
  List.foldl_append

theorem firsts_snoc (as : List α) (a : α) :
    firsts key (as ++ [a]) = addNew key (firsts key as) a :=
  firsts_append as [a]

theorem find?_addNew (as : List α) (a : α) (k : String) :
    (addNew key as a).find? (key · == k) =
      (as.find? (key · == k)).or ([a].find? (key · == k)) := by
  unfold addNew
  split
  · next hfound =>
    by_cases hk : key a = k
    · subst hk
      obtain ⟨b, hb⟩ := Option.isSome_iff_exists.mp hfound
      rw [hb, Option.some_or]
    · rw [List.find?_cons_of_neg (by simpa using hk), List.find?_nil, Option.or_none]
  · rw [List.find?_append]

theorem find?_firsts (as : List α) (k : String) :
    (firsts key as).find? (key · == k) = as.find? (key · == k) := by
  induction as using List.reverseRecOn with
  | nil => rfl
  | append_singleton as a ih => rw [firsts_snoc, find?_addNew, ih, List.find?_append]

theorem keys_firsts (as : List α) : (firsts key as).map key = (as.map key).eraseDups := by
  induction as using List.reverseRecOn with
  | nil => rfl
  | append_singleton as a ih =>
    have hfound : ((firsts key as).find? (key · == key a)).isSome ↔ key a ∈ as.map key := by
      rw [find?_firsts]
      simp
    rw [firsts_snoc, addNew, List.map_append, List.map_singleton, eraseDups_snoc]
    by_cases hmem : key a ∈ as.map key
    · rw [if_pos (hfound.mpr hmem), if_pos hmem, ih]
    · rw [if_neg fun h => hmem (hfound.mp h), if_neg hmem, List.map_append, ih,
        List.map_singleton]

end ByKey

/-! ## Calls of a block -/

/-- A call that adds a piece to a block. -/
inductive Block.Call where
  | directive (name value : String)
  | pool (p : Pool)
  | map (m : Map)
  | server (s : Server)
  deriving DecidableEq, Repr

namespace Block

namespace Call

def on : Call → Block → Except Rejection Block
  | .directive name value, b => b.addVariable name value
  | .pool p, b => (b.addPool p).map Prod.snd
  | .map m, b => b.addMap m
  | .server s, b => b.addServer s

/-- The directive that a call brings, if it has a name. -/
def directive? : Call → Option Directive
  | .directive name value => (Directive.make name value).toOption
  | _ => none

/-- The pool that a call brings, if it has a name. -/
def pool? : Call → Option Pool
  | .pool p => if p.name = "" then none else some p
  | _ => none

def map? : Call → Option Map
  | .map m => some m
  | _ => none

/-- The server that a call brings, if it passes its check. -/
def server? : Call → Option Server
  | .server s => if s.check.isOk then some s else none
  | _ => none

end Call

/-- A block after some calls, from the one without pieces. -/
def built (kind : BlockKind) (calls : List Call) : Block :=
  Calls.leaveAll Call.on (empty kind) calls

/-- A call adds the piece that it brings, and changes nothing if it brings none. -/
theorem leave_eq (b : Block) (call : Call) :
    Calls.leave Call.on b call =
      { b with
        vars := b.vars ++ call.directive?.toList
        pools := call.pool?.toList.foldl (addNew (·.name)) b.pools
        maps := call.map?.toList.foldl (addNew (·.output)) b.maps
        servers := b.servers ++ call.server?.toList } := by
  cases call with
  | directive name value =>
    cases hmade : Directive.make name value <;>
      simp [Calls.leave, Call.on, addVariable, hmade, Except.map, Call.directive?, Call.pool?,
        Call.map?, Call.server?, Except.toOption]
  | pool p =>
    by_cases hname : p.name = ""
    · simp [Calls.leave, Call.on, addPool, hname, Except.map, Call.directive?, Call.pool?,
        Call.map?, Call.server?]
    · cases hfound : b.pools.find? (·.name == p.name) <;>
        simp [Calls.leave, Call.on, addPool, Block.pool?, hname, hfound, Except.map,
          Call.directive?, Call.pool?, Call.map?, Call.server?, addNew]
  | map m =>
    cases hfound : b.maps.find? (·.output == m.output) <;>
      simp [Calls.leave, Call.on, addMap, Block.map?, hfound, Call.directive?, Call.pool?,
        Call.map?, Call.server?, addNew]
  | server s =>
    cases hcheck : s.check <;>
      simp [Calls.leave, Call.on, addServer, hcheck, Except.map, Call.directive?, Call.pool?,
        Call.map?, Call.server?, Except.isOk, Except.toBool]

/-- What the calls of a block have brought into it: of two pools of one name and of two maps of
one variable the first, and of the other pieces all. -/
theorem built_eq (kind : BlockKind) (calls : List Call) :
    built kind calls =
      { kind
        vars := calls.filterMap Call.directive?
        pools := firsts (·.name) (calls.filterMap Call.pool?)
        maps := firsts (·.output) (calls.filterMap Call.map?)
        servers := calls.filterMap Call.server? } := by
  have hone {α : Type} (f : Call → Option α) (call : Call) :
      [call].filterMap f = (f call).toList := by
    cases h : f call <;> simp [h]
  induction calls using List.reverseRecOn with
  | nil => rfl
  | append_singleton calls call ih =>
    have hbuilt : built kind (calls ++ [call]) = Calls.leave Call.on (built kind calls) call :=
      Calls.leaveAll_snoc _ calls call
    rw [hbuilt, ih, leave_eq]
    simp only [List.filterMap_append, hone, firsts_append]

/-- What holds of a block after some calls that bring pieces into it. -/
structure WrittenOnce (b : Block) (calls : List Call) : Prop where
  vars : b.vars = calls.filterMap Call.directive?
  /-- A pool is the first that was brought under its name, and stays as it was then. -/
  pool (name : String) : b.pool? name = (calls.filterMap Call.pool?).find? (·.name == name)
  names : b.pools.map (·.name) = ((calls.filterMap Call.pool?).map (·.name)).eraseDups
  /-- Where the name of a pool is taken, the call succeeds and changes nothing. -/
  second (p q : Pool) : b.pool? p.name = some q → b.addPool p = .ok (false, b)
  map (output : String) : b.map? output = (calls.filterMap Call.map?).find? (·.output == output)
  outputs : (b.maps.map (·.output)).Nodup
  servers : b.servers = calls.filterMap Call.server?
  ports : ∀ s ∈ b.servers, 1 ≤ s.port ∧ s.port ≤ 65535

theorem Call.name_ne_empty {call : Call} {p : Pool} (h : call.pool? = some p) : p.name ≠ "" := by
  cases call with
  | pool q =>
    obtain ⟨hname, rfl⟩ : q.name ≠ "" ∧ q = p := by simpa [pool?] using h
    exact hname
  | directive name value => cases h
  | map m => cases h
  | server s => cases h

/-- The port of a server that passes its check is in range. -/
theorem Call.port_inRange {call : Call} {s : Server} (h : call.server? = some s) :
    1 ≤ s.port ∧ s.port ≤ 65535 := by
  cases call with
  | server t =>
    obtain ⟨hcheck, rfl⟩ : t.check.isOk ∧ t = s := by simpa [server?] using h
    by_contra hport
    rw [Server.check, if_pos hport] at hcheck
    cases hcheck
  | directive name value => cases h
  | pool p => cases h
  | map m => cases h

theorem writtenOnce_built (kind : BlockKind) (calls : List Call) :
    (built kind calls).WrittenOnce calls := by
  rw [built_eq]
  exact
    { vars := rfl
      pool := fun name => find?_firsts _ name
      names := keys_firsts _
      second := by
        intro p q hfound
        have hname : p.name ≠ "" := by
          rw [Block.pool?, find?_firsts] at hfound
          obtain ⟨call, -, hcall⟩ := List.mem_filterMap.mp (List.mem_of_find?_eq_some hfound)
          have hq : q.name = p.name := by simpa using List.find?_some hfound
          exact hq ▸ Call.name_ne_empty hcall
        rw [addPool, if_neg hname, hfound]
      map := fun output => find?_firsts _ output
      outputs := by
        rw [keys_firsts]
        exact nodup_eraseDups _
      servers := rfl
      ports := by
        intro s hs
        obtain ⟨call, -, hcall⟩ := List.mem_filterMap.mp hs
        exact Call.port_inRange hcall }

end Block

/-! ## Calls of a configuration -/

/-- A call on the block of a kind. -/
structure Config.Call where
  kind : BlockKind
  call : Block.Call
  deriving DecidableEq, Repr

namespace Config

def Call.on (k : Call) (c : Config) : Except Rejection Config :=
  (k.call.on (c.block k.kind)).map (c.withBlock k.kind)

/-- A configuration after some calls, from the empty one. -/
def built (calls : List Call) : Config :=
  Calls.leaveAll Call.on empty calls

/-- The calls on the block of a kind. -/
def callsOf (kind : BlockKind) (calls : List Call) : List Block.Call :=
  (calls.filter (·.kind = kind)).map (·.call)

theorem block_withBlock (c : Config) (kind kind' : BlockKind) (b : Block) :
    (c.withBlock kind b).block kind' = if kind = kind' then b else c.block kind' := by
  cases kind <;> cases kind' <;> rfl

theorem callsOf_snoc (kind : BlockKind) (calls : List Call) (k : Call) :
    callsOf kind (calls ++ [k]) = callsOf kind calls ++ if k.kind = kind then [k.call] else [] := by
  rw [callsOf, List.filter_append, List.map_append, callsOf]
  by_cases hkind : k.kind = kind <;> simp [hkind]

/-- A call leaves its own block as it leaves that block alone, and the other as it was. -/
theorem block_leave (c : Config) (k : Call) (kind : BlockKind) :
    (Calls.leave Call.on c k).block kind =
      if k.kind = kind then Calls.leave Block.Call.on (c.block kind) k.call
      else c.block kind := by
  unfold Calls.leave Call.on
  split_ifs with hkind
  · subst hkind
    cases k.call.on (c.block k.kind) with
    | ok b => exact (block_withBlock c k.kind k.kind b).trans (if_pos rfl)
    | error r => rfl
  · cases k.call.on (c.block k.kind) with
    | ok b => exact (block_withBlock c k.kind kind b).trans (if_neg hkind)
    | error r => rfl

/-- The block of a kind is what the calls on it have made, whatever came between them. -/
theorem block_built (calls : List Call) (kind : BlockKind) :
    (built calls).block kind = Block.built kind (callsOf kind calls) := by
  induction calls using List.reverseRecOn with
  | nil => cases kind <;> rfl
  | append_singleton calls k ih =>
    have hbuilt : built (calls ++ [k]) = Calls.leave Call.on (built calls) k :=
      Calls.leaveAll_snoc _ calls k
    rw [hbuilt, block_leave, ih, callsOf_snoc]
    by_cases hkind : k.kind = kind
    · rw [if_pos hkind, if_pos hkind]
      exact (Calls.leaveAll_snoc _ _ k.call).symm
    · rw [if_neg hkind, if_neg hkind, List.append_nil]

/-- What holds of a configuration after some calls on its blocks. -/
structure WrittenOnce (calls : List Call) : Prop where
  /-- A refused call changes nothing. -/
  refused (k : Call) (r : Rejection) : k.on (built calls) = .error r →
    built (calls ++ [k]) = built calls
  /-- A block is what the calls on it make alone. -/
  apart (kind : BlockKind) : (built calls).block kind = Block.built kind (callsOf kind calls)
  blocks (kind : BlockKind) : ((built calls).block kind).WrittenOnce (callsOf kind calls)

theorem writtenOnce_built (calls : List Call) : WrittenOnce calls where
  refused k r h := (Calls.leaveAll_snoc _ calls k).trans (Calls.leave_of_error h)
  apart := block_built calls
  blocks kind := by
    rw [block_built]
    exact Block.writtenOnce_built kind (callsOf kind calls)

end Config

/-! ## The whole -/

/-- Insertions into a map, and those into the two blocks of a configuration, happen once and as a
whole, after whatever calls, accepted or refused. -/
theorem insertions_writtenOnce :
    (∀ (input output : String) (calls : List Map.Call), Map.WrittenOnce input output calls) ∧
      ∀ calls : List Config.Call, Config.WrittenOnce calls :=
  ⟨Map.writtenOnce_built, Config.writtenOnce_built⟩

end Portcullis.Proxy
