import Mathlib.Data.List.Induction
import Mathlib.Data.List.Nodup

/-!
# Lists whose elements have distinct keys

* `find?_key_eq_some_iff` and `filter_key_eq_singleton`: where no two elements have one key, a key
  finds its element and no other.
* `eraseDups_snoc` and `nodup_eraseDups`: the first occurrences in a list, one element more at a
  time.
* `map_foldl_eq_eraseDups`: what is gathered by key has its keys in the order of their first
  occurrences.
-/

namespace Portcullis

section Keys

variable {α κ : Type} {f : α → κ} {as : List α}

/-- A search by key finds the element that has it. -/
theorem find?_key_eq_some_iff [BEq κ] [LawfulBEq κ] (hkeys : (as.map f).Nodup) {k : κ} {a : α} :
    as.find? (f · == k) = some a ↔ a ∈ as ∧ f a = k := by
  constructor
  · intro h
    exact ⟨List.mem_of_find?_eq_some h, by simpa using List.find?_some h⟩
  · rintro ⟨ha, rfl⟩
    cases hfind : as.find? (f · == f a) with
    | none => exact absurd (List.find?_eq_none.1 hfind a ha) (by simp)
    | some b =>
      have hb : f b = f a := by simpa using List.find?_some hfind
      rw [List.inj_on_of_nodup_map hkeys (List.mem_of_find?_eq_some hfind) ha hb]

/-- A selection by the key of an element leaves that element alone. -/
theorem filter_key_eq_singleton [DecidableEq κ] (hkeys : (as.map f).Nodup) {a : α}
    (ha : a ∈ as) : as.filter (f · = f a) = [a] := by
  have hnodup : (as.filter (f · = f a)).Nodup := (List.Nodup.of_map f hkeys).filter _
  refine List.perm_singleton.1 ((List.perm_ext_iff_of_nodup hnodup (List.nodup_singleton a)).2 ?_)
  intro b
  rw [List.mem_singleton, List.mem_filter, decide_eq_true_eq]
  constructor
  · rintro ⟨hb, hkey⟩
    exact List.inj_on_of_nodup_map hkeys hb ha hkey
  · rintro rfl
    exact ⟨ha, rfl⟩

end Keys

section FirstOccurrences

variable {α : Type} [BEq α] [LawfulBEq α]

/-- One more element is a first occurrence where it did not occur before. -/
theorem eraseDups_snoc (as : List α) (a : α) :
    (as ++ [a]).eraseDups = if a ∈ as then as.eraseDups else as.eraseDups ++ [a] := by
  have hone : [a].eraseDups = [a] := by
    rw [List.eraseDups_cons]
    rfl
  rw [List.eraseDups_append]
  by_cases hmem : a ∈ as
  · simp [List.removeAll, hmem]
  · simp [List.removeAll, hmem, hone]

theorem nodup_eraseDups (as : List α) : as.eraseDups.Nodup := by
  induction as using List.reverseRecOn with
  | nil => exact List.nodup_nil
  | append_singleton as a ih =>
    rw [eraseDups_snoc]
    split
    · exact ih
    · rename_i hnew
      refine List.nodup_append.2 ⟨ih, List.nodup_singleton a, ?_⟩
      intro x hx y hy
      rw [List.mem_singleton.1 hy]
      rintro rfl
      exact hnew (List.mem_eraseDups.1 hx)

/-- What is gathered by key comes in the order in which keys first occur, if each item adds its key
where it is new, or nothing. -/
theorem map_foldl_eq_eraseDups {γ ι : Type} {f : γ → α} {k : ι → α} {step : List γ → ι → List γ}
    {keep : ι → Bool}
    (hkept : ∀ gs i, keep i = true →
      (step gs i).map f = if k i ∈ gs.map f then gs.map f else gs.map f ++ [k i])
    (hleft : ∀ gs i, keep i = false → (step gs i).map f = gs.map f) (is : List ι) :
    (is.foldl step []).map f = ((is.filter keep).map k).eraseDups := by
  induction is using List.reverseRecOn with
  | nil => rfl
  | append_singleton is i ih =>
    rw [List.foldl_append, List.foldl_cons, List.foldl_nil, List.filter_append, List.map_append]
    cases hkeep : keep i with
    | false => simpa [hkeep, hleft _ _ hkeep] using ih
    | true =>
      have hone : ([i].filter keep).map k = [k i] := by simp [hkeep]
      rw [hone, eraseDups_snoc, hkept _ _ hkeep, ih]
      simp only [List.mem_eraseDups]

end FirstOccurrences

end Portcullis
