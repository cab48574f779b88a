import Portcullis.Proofs.Text.Decimal
import Portcullis.Proxy.Render
import Mathlib.Data.List.Basic

/-!
# Lines that tell where they end

What stands in a line of a rendered block can be read off the line, and so can where the line ends,
whatever follows it.  So two texts with the same lines come from the same pieces.

* `append_cons_inj` is the principle: a text without certain characters, before one of them.
* `flatMap_append_inj` carries telling apart from the elements of a list to the list.
* `spell` is a line of tokens, quoted where need be, and `spell_append_inj` reads it.
* `Directive.line_append_inj` reads a directive, whose value is written as it is.
-/

namespace Portcullis.Proxy

open Portcullis.Text

/-- What holds of the characters of a text is decided along the text.  The priority keeps an
instance for all characters from running through every one of them. -/
instance (priority := high) decidableForallMemChars {p : Char → Prop} [DecidablePred p]
    (cs : List Char) : Decidable (∀ c ∈ cs, p c) :=
  List.decidableBAll p cs

/-! ## Telling texts apart -/

/-- Two texts without certain characters, each before such a character, are the same if what they
begin is the same. -/
theorem append_cons_inj {stop : Char → Bool} {as bs x y : List Char} {s t : Char}
    (ha : ∀ c ∈ as, stop c = false) (hb : ∀ c ∈ bs, stop c = false) (hs : stop s = true)
    (ht : stop t = true) (h : as ++ s :: x = bs ++ t :: y) : as = bs ∧ s = t ∧ x = y := by
  induction as generalizing bs with
  | nil =>
    cases bs with
    | nil => exact ⟨rfl, List.cons.inj h⟩
    | cons b bs =>
      obtain ⟨rfl, -⟩ := List.cons.inj h
      exact absurd hs (by simp [hb s List.mem_cons_self])
  | cons a as ih =>
    cases bs with
    | nil =>
      obtain ⟨rfl, -⟩ := List.cons.inj h
      exact absurd ht (by simp [ha a List.mem_cons_self])
    | cons b bs =>
      obtain ⟨rfl, hrest⟩ := List.cons.inj h
      obtain ⟨rfl, hend⟩ := ih (fun c hc => ha c (List.mem_cons_of_mem _ hc))
        (fun c hc => hb c (List.mem_cons_of_mem _ hc)) hrest
      exact ⟨rfl, hend⟩

/-- Lists are told apart by texts that tell their elements apart and where they end, if what comes
after the lists does not look like one more element. -/
theorem flatMap_append_inj {α : Type} {P : α → Prop} {f : α → List Char}
    (hf : ∀ a b x y, P a → P b → f a ++ x = f b ++ y → a = b ∧ x = y) {as bs : List α}
    {x y : List Char} (ha : ∀ a ∈ as, P a) (hb : ∀ b ∈ bs, P b)
    (hx : ∀ a z, P a → f a ++ z ≠ x) (hy : ∀ a z, P a → f a ++ z ≠ y)
    (h : as.flatMap f ++ x = bs.flatMap f ++ y) : as = bs ∧ x = y := by
  induction as generalizing bs with
  | nil =>
    cases bs with
    | nil => exact ⟨rfl, h⟩
    | cons b bs =>
      rw [List.flatMap_cons, List.append_assoc] at h
      exact absurd h.symm (hx b _ (hb b List.mem_cons_self))
  | cons a as ih =>
    cases bs with
    | nil =>
      rw [List.flatMap_cons, List.append_assoc] at h
      exact absurd h (hy a _ (ha a List.mem_cons_self))
    | cons b bs =>
      rw [List.flatMap_cons, List.flatMap_cons, List.append_assoc, List.append_assoc] at h
      obtain ⟨rfl, hrest⟩ := hf a b _ _ (ha a List.mem_cons_self) (hb b List.mem_cons_self) h
      obtain ⟨rfl, hend⟩ := ih (fun c hc => ha c (List.mem_cons_of_mem _ hc))
        (fun c hc => hb c (List.mem_cons_of_mem _ hc)) hrest
      exact ⟨rfl, hend⟩

/-- Texts with a character between them, behind that character. -/
theorem cons_intercalate (c : Char) {ls : List (List Char)} (hne : ls ≠ []) :
    c :: [c].intercalate ls = ls.flatMap (c :: ·) := by
  induction ls with
  | nil => exact absurd rfl hne
  | cons l rest ih =>
    cases rest with
    | nil => simp [List.intercalate]
    | cons m ms =>
      have htail := ih (List.cons_ne_nil m ms)
      rw [List.flatMap_cons, ← htail]
      simp [List.intercalate]

/-! ## Tokens -/

/-- A token that is written as it is: it is not empty, and holds no character that would end it or
start another kind of token. -/
def IsPlain (t : String) : Prop :=
  needsQuotes t = false

instance (t : String) : Decidable (IsPlain t) :=
  inferInstanceAs (Decidable (_ = _))

theorem IsPlain.quoted_eq {t : String} (h : IsPlain t) : quoted t = t := by
  rw [IsPlain] at h
  rw [quoted, h]
  rfl

theorem isPlain_iff {t : String} : IsPlain t ↔ t ≠ "" ∧ ∀ c ∈ t.toList, isSpecial c = false := by
  simp [IsPlain, needsQuotes]

theorem IsPlain.notSpecial {t : String} (h : IsPlain t) : ∀ c ∈ t.toList, isSpecial c = false :=
  (isPlain_iff.mp h).2

/-- A plain token begins with a character that is not special. -/
theorem IsPlain.exists_cons {t : String} (h : IsPlain t) :
    ∃ c rest, t.toList = c :: rest ∧ isSpecial c = false := by
  obtain ⟨hne, hall⟩ := isPlain_iff.mp h
  cases hchars : t.toList with
  | nil => exact absurd (String.toList_eq_nil_iff.mp hchars) hne
  | cons c rest => exact ⟨c, rest, rfl, hall c (hchars ▸ List.mem_cons_self)⟩

/-- What stands between quotes tells where the closing quote is. -/
theorem flatMap_quotedChar_inj {as bs x y : List Char}
    (h : as.flatMap quotedChar ++ '"' :: x = bs.flatMap quotedChar ++ '"' :: y) :
    as = bs ∧ x = y := by
  have hchar : ∀ a b x y, True → True → quotedChar a ++ x = quotedChar b ++ y → a = b ∧ x = y := by
    intro a b x y _ _ hab
    by_cases ha : (a == '\\' || a == '"') = true <;> by_cases hb : (b == '\\' || b == '"') = true <;>
      simp only [quotedChar, ha, hb, if_true, Bool.false_eq_true, if_false, List.cons_append,
        List.nil_append, List.cons.injEq] at hab
    · exact hab.2
    · exact absurd hab.1 (by rintro rfl; simp at hb)
    · exact absurd hab.1 (by rintro rfl; simp at ha)
    · exact hab
  have hquote : ∀ a z w, True → quotedChar a ++ z ≠ '"' :: w := by
    intro a z w _ hab
    by_cases ha : (a == '\\' || a == '"') = true <;>
      simp only [quotedChar, ha, if_true, Bool.false_eq_true, if_false, List.cons_append,
        List.nil_append, List.cons.injEq] at hab
    · exact absurd hab.1 (by decide)
    · exact ha (by simp [hab.1])
  obtain ⟨rfl, hend⟩ := flatMap_append_inj hchar (fun _ _ => trivial) (fun _ _ => trivial)
    (fun a z _ => hquote a z x trivial) (fun a z _ => hquote a z y trivial) h
  exact ⟨rfl, (List.cons.inj hend).2⟩

/-- A token in the form in which it is written begins with a quote or is plain. -/
theorem quoted_cases (t : String) :
    (IsPlain t ∧ quoted t = t) ∨
      (quoted t).toList = '"' :: (t.toList.flatMap quotedChar ++ ['"']) := by
  cases hneeds : needsQuotes t with
  | false => exact Or.inl ⟨hneeds, IsPlain.quoted_eq hneeds⟩
  | true =>
    right
    simp [quoted, hneeds]

/-- A plain token does not look like one in quotes. -/
theorem IsPlain.append_ne {t : String} (h : IsPlain t) (x y : List Char) :
    t.toList ++ x ≠ '"' :: y := by
  obtain ⟨c, rest, hchars, hc⟩ := h.exists_cons
  intro heq
  rw [hchars, List.cons_append, List.cons.injEq] at heq
  rw [heq.1] at hc
  exact absurd hc (by decide)

/-- A token can be read off the text that begins with it, if a special character follows. -/
theorem quoted_append_inj {t u : String} {s s' : Char} {x y : List Char}
    (hs : isSpecial s = true) (hs' : isSpecial s' = true)
    (h : (quoted t).toList ++ s :: x = (quoted u).toList ++ s' :: y) : t = u ∧ s = s' ∧ x = y := by
  rcases quoted_cases t with ⟨ht, hqt⟩ | hqt <;> rcases quoted_cases u with ⟨hu, hqu⟩ | hqu
  · rw [hqt, hqu] at h
    obtain ⟨hchars, hend⟩ := append_cons_inj ht.notSpecial hu.notSpecial hs hs' h
    exact ⟨String.toList_inj.mp hchars, hend⟩
  · rw [hqt, hqu] at h
    exact absurd h (ht.append_ne _ _)
  · rw [hqt, hqu] at h
    exact absurd h.symm (hu.append_ne _ _)
  · rw [hqt, hqu, List.cons_append, List.cons_append, List.append_assoc, List.append_assoc] at h
    obtain ⟨hchars, hend⟩ := flatMap_quotedChar_inj (List.cons.inj h).2
    exact ⟨String.toList_inj.mp hchars, List.cons.inj hend⟩

/-! ## Lines of tokens -/

/-- The further tokens of a line. -/
def spellMore (ts : List String) : List Char :=
  ts.flatMap fun t => ' ' :: (quoted t).toList

/-- A line of tokens, ended by a semicolon. -/
def spell (t : String) (ts : List String) : List Char :=
  (quoted t).toList ++ spellMore ts ++ [';']

/-- After a token comes a blank or the semicolon. -/
theorem spellMore_eq_cons (ts : List String) (x : List Char) :
    ∃ s rest, isSpecial s = true ∧ spellMore ts ++ ';' :: x = s :: rest := by
  cases ts with
  | nil => exact ⟨';', x, rfl, rfl⟩
  | cons t ts => exact ⟨' ', _, rfl, rfl⟩

theorem spellMore_append_inj {ts us : List String} {x y : List Char}
    (h : spellMore ts ++ ';' :: x = spellMore us ++ ';' :: y) : ts = us ∧ x = y := by
  induction ts generalizing us with
  | nil =>
    cases us with
    | nil => exact ⟨rfl, (List.cons.inj h).2⟩
    | cons u us => cases (List.cons.inj h).1
  | cons t ts ih =>
    cases us with
    | nil => cases (List.cons.inj h).1
    | cons u us =>
      obtain ⟨s, rest, hs, hrest⟩ := spellMore_eq_cons ts x
      obtain ⟨s', rest', hs', hrest'⟩ := spellMore_eq_cons us y
      have htail : (quoted t).toList ++ (spellMore ts ++ ';' :: x) =
          (quoted u).toList ++ (spellMore us ++ ';' :: y) := by
        simpa [spellMore] using h
      rw [hrest, hrest'] at htail
      obtain ⟨rfl, rfl, rfl⟩ := quoted_append_inj hs hs' htail
      obtain ⟨rfl, hend⟩ := ih (hrest.trans hrest'.symm)
      exact ⟨rfl, hend⟩

/-- The first token of a line stands before a special character. -/
theorem spell_append (t : String) (ts : List String) (x : List Char) :
    ∃ s rest, isSpecial s = true ∧ spell t ts ++ x = (quoted t).toList ++ s :: rest := by
  obtain ⟨s, rest, hs, hrest⟩ := spellMore_eq_cons ts x
  refine ⟨s, rest, hs, ?_⟩
  rw [spell, List.append_assoc, List.append_assoc, List.singleton_append, hrest]

/-- The tokens of a line can be read off the line. -/
theorem spell_append_inj {t u : String} {ts us : List String} {x y : List Char}
    (h : spell t ts ++ x = spell u us ++ y) : t = u ∧ ts = us ∧ x = y := by
  obtain ⟨s, rest, hs, hrest⟩ := spellMore_eq_cons ts x
  obtain ⟨s', rest', hs', hrest'⟩ := spellMore_eq_cons us y
  have hwhole : (quoted t).toList ++ (spellMore ts ++ ';' :: x) =
      (quoted u).toList ++ (spellMore us ++ ';' :: y) := by
    simpa [spell] using h
  rw [hrest, hrest'] at hwhole
  obtain ⟨rfl, rfl, rfl⟩ := quoted_append_inj hs hs' hwhole
  obtain ⟨rfl, rfl⟩ := spellMore_append_inj (hrest.trans hrest'.symm)
  exact ⟨rfl, rfl, rfl⟩

/-! ## Directives -/

/-- The characters that end a line or open a block or close one. -/
def endsLine (c : Char) : Bool :=
  c == ';' || c == '\x7b' || c == '\x7d'

theorem IsPlain.endsNoLine {t : String} (h : IsPlain t) : ∀ c ∈ t.toList, endsLine c = false := by
  intro c hc
  have hspecial := h.notSpecial c hc
  by_contra hends
  simp only [endsLine, Bool.not_eq_false, Bool.or_eq_true, beq_iff_eq] at hends
  rcases hends with (rfl | rfl) | rfl <;> exact absurd hspecial (by decide)

/-- A directive with a plain name whose value does not end the line. -/
structure Directive.Tidy (d : Directive) : Prop where
  name : IsPlain d.name
  value : ∀ c ∈ d.value.toList, endsLine c = false

/-- What a directive's line says after the name. -/
def Directive.more (d : Directive) : List Char :=
  if d.value = "" then [';'] else ' ' :: (d.value.toList ++ [';'])

theorem Directive.toList_line (d : Directive) : d.line.toList = d.name.toList ++ d.more := by
  unfold Directive.line Directive.more
  split <;> simp

theorem Directive.more_eq_cons (d : Directive) (x : List Char) :
    ∃ s rest, isSpecial s = true ∧ d.more ++ x = s :: rest := by
  unfold Directive.more
  split
  · exact ⟨';', x, rfl, rfl⟩
  · exact ⟨' ', _, rfl, rfl⟩

/-- A directive's name stands before a special character. -/
theorem Directive.line_append (d : Directive) (x : List Char) :
    ∃ s rest, isSpecial s = true ∧ d.line.toList ++ x = d.name.toList ++ s :: rest := by
  obtain ⟨s, rest, hs, hrest⟩ := d.more_eq_cons x
  refine ⟨s, rest, hs, ?_⟩
  rw [d.toList_line, List.append_assoc, hrest]

/-- A directive can be read off its line. -/
theorem Directive.line_append_inj {d e : Directive} {x y : List Char} (hd : d.Tidy) (he : e.Tidy)
    (h : d.line.toList ++ x = e.line.toList ++ y) : d = e ∧ x = y := by
  obtain ⟨name, value⟩ := d
  obtain ⟨name', value'⟩ := e
  rw [Directive.toList_line, Directive.toList_line, List.append_assoc, List.append_assoc] at h
  obtain ⟨s, rest, hs, hrest⟩ := Directive.more_eq_cons ⟨name, value⟩ x
  obtain ⟨s', rest', hs', hrest'⟩ := Directive.more_eq_cons ⟨name', value'⟩ y
  rw [hrest, hrest'] at h
  obtain ⟨hname, rfl, rfl⟩ := append_cons_inj hd.name.notSpecial he.name.notSpecial hs hs' h
  obtain rfl : name = name' := String.toList_inj.mp hname
  have hmore : Directive.more ⟨name, value⟩ ++ x = Directive.more ⟨name, value'⟩ ++ y :=
    hrest.trans hrest'.symm
  simp only [Directive.more] at hmore
  split at hmore <;> split at hmore
  · next hv hv' =>
    rw [hv, hv']
    exact ⟨rfl, (List.cons.inj hmore).2⟩
  · cases (List.cons.inj hmore).1
  · cases (List.cons.inj hmore).1
  · rw [List.cons_append, List.cons_append, List.append_assoc, List.append_assoc] at hmore
    obtain ⟨hvalue, -, hend⟩ :=
      append_cons_inj hd.value he.value rfl rfl (List.cons.inj hmore).2
    obtain rfl : value = value' := String.toList_inj.mp hvalue
    exact ⟨rfl, hend⟩

end Portcullis.Proxy
