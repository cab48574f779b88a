import Mathlib.Data.List.Induction
import Portcullis.Compile.Emission

/-!
# The map that bindings ask for

The bindings of a port enter one map, one after the other, and the first that contradicts those
before it is refused.

* A binding is a catch-all if it is marked as one, or if its domain is named like the key that
  stands for every other name.  The others are named bindings.
* `Map.bindAll_eq_ok_iff` says when all bindings are accepted, `Compatible`, and gives the map
  they make, `Map.holding`.
* `Map.valueFor?_holding` reads a name in that map: the named binding of the name decides, and
  without one the catch-all.
-/

namespace Portcullis

open Portcullis.Proxy

namespace StreamBinding

/-- Whether a binding stands for every name that no other binding of the port has. -/
def isCatchAll (b : StreamBinding) : Bool :=
  b.isDefault || b.domain.name == defaultKey

/-- The entry that a named binding asks for. -/
def entry (b : StreamBinding) : String × String :=
  (b.domain.name, b.pool)

/-- The catch-alls among some bindings. -/
def catchAlls (bs : List StreamBinding) : List StreamBinding :=
  bs.filter isCatchAll

/-- The named bindings among some bindings. -/
def allNamed (bs : List StreamBinding) : List StreamBinding :=
  bs.filter fun b => !b.isCatchAll

/-- The named bindings of one name. -/
def namedBy (name : String) (bs : List StreamBinding) : List StreamBinding :=
  (allNamed bs).filter fun b => b.domain.name == name

/-- Bindings that do not contradict each other: one catch-all at most, and no name twice. -/
structure Compatible (bs : List StreamBinding) : Prop where
  one_catchAll : (catchAlls bs).length ≤ 1
  nodup_names : ((allNamed bs).map fun b => b.domain.name).Nodup
  names_ne : ∀ b ∈ allNamed bs, b.domain.name ≠ ""

/-! ## One more binding -/

theorem allNamed_snoc_catchAll {b : StreamBinding} (hb : b.isCatchAll = true)
    (bs : List StreamBinding) : allNamed (bs ++ [b]) = allNamed bs := by
  simp [allNamed, hb]

theorem allNamed_snoc_named {b : StreamBinding} (hb : b.isCatchAll = false)
    (bs : List StreamBinding) : allNamed (bs ++ [b]) = allNamed bs ++ [b] := by
  simp [allNamed, hb]

theorem catchAlls_snoc_catchAll {b : StreamBinding} (hb : b.isCatchAll = true)
    (bs : List StreamBinding) : catchAlls (bs ++ [b]) = catchAlls bs ++ [b] := by
  simp [catchAlls, hb]

theorem catchAlls_snoc_named {b : StreamBinding} (hb : b.isCatchAll = false)
    (bs : List StreamBinding) : catchAlls (bs ++ [b]) = catchAlls bs := by
  simp [catchAlls, hb]

theorem compatible_nil : Compatible [] := ⟨by simp [catchAlls], by simp [allNamed], by simp [allNamed]⟩

/-- One more catch-all is compatible where it is the only one. -/
theorem compatible_snoc_catchAll {b : StreamBinding} (hb : b.isCatchAll = true)
    {bs : List StreamBinding} :
    Compatible (bs ++ [b]) ↔ Compatible bs ∧ catchAlls bs = [] := by
  have hnamed := allNamed_snoc_catchAll hb bs
  have hcatch := catchAlls_snoc_catchAll hb bs
  constructor
  · rintro ⟨hlen, hnodup, hne⟩
    rw [hcatch, List.length_append, List.length_singleton] at hlen
    rw [hnamed] at hnodup hne
    exact ⟨⟨by omega, hnodup, hne⟩, List.eq_nil_of_length_eq_zero (by omega)⟩
  · rintro ⟨⟨_, hnodup, hne⟩, hnil⟩
    refine ⟨?_, ?_, ?_⟩
    · rw [hcatch, hnil]
      simp
    · rw [hnamed]
      exact hnodup
    · rw [hnamed]
      exact hne

/-- One more named binding is compatible where it has a name that no other has. -/
theorem compatible_snoc_named {b : StreamBinding} (hb : b.isCatchAll = false)
    {bs : List StreamBinding} :
    Compatible (bs ++ [b]) ↔
      Compatible bs ∧ b.domain.name ≠ "" ∧ ∀ c ∈ allNamed bs, c.domain.name ≠ b.domain.name := by
  have hnamed := allNamed_snoc_named hb bs
  have hcatch := catchAlls_snoc_named hb bs
  constructor
  · rintro ⟨hlen, hnodup, hne⟩
    rw [hcatch] at hlen
    rw [hnamed] at hnodup hne
    rw [List.map_append, List.nodup_append] at hnodup
    refine ⟨⟨hlen, hnodup.1, fun c hc => hne c (by simp [hc])⟩, hne b (by simp), ?_⟩
    intro c hc
    exact hnodup.2.2 _ (List.mem_map.2 ⟨c, hc, rfl⟩) _ (by simp)
  · rintro ⟨⟨hlen, hnodup, hne⟩, hb', hnew⟩
    refine ⟨?_, ?_, ?_⟩
    · rw [hcatch]
      exact hlen
    · rw [hnamed, List.map_append, List.nodup_append]
      refine ⟨hnodup, by simp, ?_⟩
      intro x hx y hy
      obtain ⟨c, hc, rfl⟩ := List.mem_map.1 hx
      rw [List.map_singleton, List.mem_singleton] at hy
      rw [hy]
      exact hnew c hc
    · rw [hnamed]
      intro c hc
      rcases List.mem_append.1 hc with hc | hc
      · exact hne c hc
      · rw [List.mem_singleton.1 hc]
        exact hb'

end StreamBinding

open StreamBinding

namespace Proxy.Map

/-- The map with all bindings of a list, or the reason why one of them is refused. -/
def bindAll (m : Map) (bs : List StreamBinding) : Except Rejection Map :=
  bs.foldlM (fun m b => b.bind m) m

/-- The map that compatible bindings ask for. -/
def holding (input output : String) (bs : List StreamBinding) : Map where
  input := input
  output := output
  entries := (allNamed bs).map entry
  fallback := (catchAlls bs).head?.map (·.pool)

/-! ## Binding -/

/-- A catch-all is bound as the default value, marked as one or not. -/
theorem bind_catchAll {b : StreamBinding} (hb : b.isCatchAll = true) (m : Map) :
    b.bind m = m.setDefault b.pool := by
  unfold StreamBinding.bind addEntry
  split
  · rfl
  · rename_i hdef
    have hname : b.domain.name = defaultKey := by
      simpa [isCatchAll, hdef] using hb
    rw [if_pos hname]

/-- A named binding is bound under its name. -/
theorem bind_named {b : StreamBinding} (hb : b.isCatchAll = false) (m : Map) :
    b.bind m =
      if b.domain.name = "" then .error (.empty "map key")
      else
        match m.entries.lookup b.domain.name with
        | some existing => .error (.duplicateKey m.output b.domain.name existing)
        | none => .ok { m with entries := m.entries ++ [b.entry] } := by
  have hparts : b.isDefault = false ∧ b.domain.name ≠ defaultKey := by
    simpa [isCatchAll] using hb
  simp only [StreamBinding.bind, hparts.1, addEntry, hparts.2, if_false, Bool.false_eq_true]
  rfl

/-- A catch-all is accepted unless there is one already. -/
theorem bind_catchAll_eq_ok_iff {b : StreamBinding} (hb : b.isCatchAll = true) {m m' : Map} :
    b.bind m = .ok m' ↔ m.fallback = none ∧ m' = { m with fallback := some b.pool } := by
  rw [bind_catchAll hb, setDefault]
  cases m.fallback with
  | none => simp [eq_comm]
  | some v => simp

/-- A named binding is accepted if it has a name and the name is new. -/
theorem bind_named_eq_ok_iff {b : StreamBinding} (hb : b.isCatchAll = false) {m m' : Map} :
    b.bind m = .ok m' ↔
      b.domain.name ≠ "" ∧ m.entries.lookup b.domain.name = none ∧
        m' = { m with entries := m.entries ++ [b.entry] } := by
  rw [bind_named hb]
  by_cases hname : b.domain.name = ""
  · simp [hname]
  · rw [if_neg hname]
    cases m.entries.lookup b.domain.name with
    | none => simp [hname, eq_comm]
    | some v => simp

/-! ## Lookup -/

theorem lookup_map_entry (name : String) (bs : List StreamBinding) :
    (bs.map entry).lookup name =
      ((bs.filter fun b => b.domain.name == name).head?).map (·.pool) := by
  induction bs with
  | nil => rfl
  | cons b rest ih =>
    by_cases hb : b.domain.name = name
    · simp [entry, hb]
    · have hb' : (name == b.domain.name) = false := by simpa using fun h => hb h.symm
      simpa [entry, List.lookup_cons, hb, hb'] using ih

theorem lookup_map_entry_eq_none_iff (name : String) (bs : List StreamBinding) :
    (bs.map entry).lookup name = none ↔ ∀ b ∈ bs, b.domain.name ≠ name := by
  rw [lookup_map_entry, Option.map_eq_none_iff, List.head?_eq_none_iff, List.filter_eq_nil_iff]
  simp

/-- The named binding of a name decides, and without one the catch-all. -/
theorem valueFor?_holding (input output name : String) (bs : List StreamBinding) :
    (holding input output bs).valueFor? name =
      ((namedBy name bs ++ catchAlls bs).head?).map (·.pool) := by
  rw [valueFor?, holding, lookup_map_entry]
  show ((namedBy name bs).head?.map _).or _ = _
  cases namedBy name bs with
  | nil => simp
  | cons b rest => simp

end Proxy.Map

/-! ## Binding all -/

/-- One more binding is tried on the map of those before it. -/
theorem Proxy.Map.bindAll_snoc (m₀ : Map) (bs : List StreamBinding) (b : StreamBinding) :
    m₀.bindAll (bs ++ [b]) = m₀.bindAll bs >>= b.bind := by
  simp [bindAll, List.foldlM_append]

theorem Proxy.Map.bindAll_snoc_eq_ok_iff (m₀ : Map) (bs : List StreamBinding)
    (b : StreamBinding) (m : Map) :
    m₀.bindAll (bs ++ [b]) = .ok m ↔ ∃ m', m₀.bindAll bs = .ok m' ∧ b.bind m' = .ok m := by
  rw [bindAll_snoc]
  cases m₀.bindAll bs with
  | error e => simp [Bind.bind, Except.bind]
  | ok m' => simp [Bind.bind, Except.bind]

/-- All bindings are accepted exactly if they are compatible, and they make one map. -/
theorem Proxy.Map.bindAll_eq_ok_iff (input output : String) (bs : List StreamBinding)
    (m : Map) :
    (between input output).bindAll bs = .ok m ↔
      Compatible bs ∧ m = holding input output bs := by
  induction bs using List.reverseRecOn generalizing m with
  | nil =>
    simp [bindAll, compatible_nil, pure, Except.pure, between, holding, allNamed, catchAlls, eq_comm]
  | append_singleton bs b ih =>
    -- The map before the last binding is known, so only that binding's own step is left.
    have hlast : (between input output).bindAll (bs ++ [b]) = .ok m ↔
        Compatible bs ∧ b.bind (holding input output bs) = .ok m := by
      rw [bindAll_snoc_eq_ok_iff]
      constructor
      · rintro ⟨m', hm', hb⟩
        obtain ⟨hcompat, rfl⟩ := (ih m').1 hm'
        exact ⟨hcompat, hb⟩
      · rintro ⟨hcompat, hb⟩
        exact ⟨_, (ih _).2 ⟨hcompat, rfl⟩, hb⟩
    rw [hlast]
    cases hb : b.isCatchAll with
    | true =>
      rw [bind_catchAll_eq_ok_iff hb, compatible_snoc_catchAll hb, and_assoc]
      simp only [holding, allNamed_snoc_catchAll hb, catchAlls_snoc_catchAll hb,
        Option.map_eq_none_iff, List.head?_eq_none_iff]
      refine and_congr_right fun _ => and_congr_right fun hnil => ?_
      simp [hnil]
    | false =>
      rw [bind_named_eq_ok_iff hb, compatible_snoc_named hb, and_assoc, and_assoc]
      simp only [holding, allNamed_snoc_named hb, catchAlls_snoc_named hb, List.map_append,
        List.map_singleton]
      rw [lookup_map_entry_eq_none_iff]

end Portcullis
