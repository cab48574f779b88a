import Portcullis.Proofs.Proxy.Line
import Mathlib.Data.List.Basic

/-!
# Rows of a block

The lines within pools, maps and servers, kind by kind.

* `LineCode` is a kind of line from which can be read what it was made of.  The lines of one kind
  in a row can be read as long as what comes after them begins with another word
  (`LineCode.rows_append_inj`).
* `Leads` says with which word a text goes on.
* `directiveCode` and the codes after it are the kinds of lines that there are.
-/

namespace Portcullis.Proxy

open Portcullis.Text

/-! ## Rows -/

/-- Lines one after the other. -/
def chars (lines : List String) : List Char :=
  lines.flatMap fun l => l.toList ++ ['\n']

theorem toList_unlines (lines : List String) : (unlines lines).toList = chars lines :=
  String.toList_ofList

/-- A line on a level. -/
def row (level : Nat) (line : String) : List Char :=
  List.replicate (4 * level) ' ' ++ (line.toList ++ ['\n'])

theorem chars_map_indent (level : Nat) (lines : List String) :
    chars (lines.map (indent level)) = lines.flatMap (row level) := by
  simp only [chars, List.flatMap_map, indent, String.toList_ofList, List.append_assoc]
  rfl

theorem chars_braced (head : String) (inner : List String) :
    chars (braced head inner) =
      row 1 (head ++ " \x7b") ++ inner.flatMap (row 2) ++ row 1 "\x7d" := by
  rw [← chars_map_indent]
  simp [chars, row, braced, indent]

/-- A text begins with a row of a level whose first token is a given one. -/
def Leads (level : Nat) (word : String) (x : List Char) : Prop :=
  ∃ s rest, isSpecial s = true ∧
    x = List.replicate (4 * level) ' ' ++ ((quoted word).toList ++ s :: rest)

theorem Leads.unique {level : Nat} {word word' : String} {x : List Char} (h : Leads level word x)
    (h' : Leads level word' x) : word = word' := by
  obtain ⟨s, rest, hs, rfl⟩ := h
  obtain ⟨s', rest', hs', heq⟩ := h'
  exact (quoted_append_inj hs hs' (List.append_cancel_left heq)).1

/-- The end of a block is no row of it. -/
theorem not_leads_close (word : String) (x : List Char) : ¬Leads 2 word (row 1 "\x7d" ++ x) := by
  rintro ⟨s, rest, hs, heq⟩
  simp [row, List.replicate_succ] at heq

/-! ## Kinds of lines -/

/-- A kind of line from which can be read what it was made of, whatever follows. It begins with a
token, by which it can be told from other lines. -/
structure LineCode (α : Type) where
  line : α → String
  word : α → String
  ok : α → Prop
  line_append : ∀ a x, ok a →
    ∃ s rest, isSpecial s = true ∧ (line a).toList ++ x = (quoted (word a)).toList ++ s :: rest
  line_append_inj : ∀ a b x y, ok a → ok b →
    (line a).toList ++ x = (line b).toList ++ y → a = b ∧ x = y

namespace LineCode

variable {α : Type} (k : LineCode α)

/-- Lines of this kind, one after the other. -/
def rows (as : List α) : List Char :=
  as.flatMap fun a => row 2 (k.line a)

variable {k}

theorem leads_row {a : α} (h : k.ok a) (x : List Char) : Leads 2 (k.word a) (row 2 (k.line a) ++ x) := by
  obtain ⟨s, rest, hs, hrest⟩ := k.line_append a ('\n' :: x) h
  refine ⟨s, rest, hs, ?_⟩
  rw [row, List.append_assoc, List.append_assoc, List.singleton_append, hrest]

theorem row_append_inj {a b : α} {x y : List Char} (ha : k.ok a) (hb : k.ok b)
    (h : row 2 (k.line a) ++ x = row 2 (k.line b) ++ y) : a = b ∧ x = y := by
  simp only [row, List.append_assoc, List.singleton_append] at h
  obtain ⟨rfl, hend⟩ := k.line_append_inj a b _ _ ha hb (List.append_cancel_left h)
  exact ⟨rfl, (List.cons.inj hend).2⟩

/-- What begins with rows of a kind begins with one of their tokens, unless there are none. -/
theorem word_of_leads_rows {as : List α} {w : String} {x : List Char} (ha : ∀ a ∈ as, k.ok a)
    (h : Leads 2 w (k.rows as ++ x)) : (∃ a ∈ as, w = k.word a) ∨ Leads 2 w x := by
  cases as with
  | nil => exact Or.inr h
  | cons a as =>
    rw [rows, List.flatMap_cons, List.append_assoc] at h
    exact Or.inl ⟨a, List.mem_cons_self, h.unique (leads_row (ha a List.mem_cons_self) _)⟩

/-- What begins with the last rows of a block begins with one of their tokens. -/
theorem word_of_leads_last {as : List α} {w : String} {x : List Char} (ha : ∀ a ∈ as, k.ok a)
    (h : Leads 2 w (k.rows as ++ (row 1 "\x7d" ++ x))) : ∃ a ∈ as, w = k.word a :=
  (word_of_leads_rows ha h).resolve_right (not_leads_close w x)

/-- Rows of a kind can be read off the text that begins with them, if it goes on with another
token. -/
theorem rows_append_inj {as bs : List α} {x y : List Char} (ha : ∀ a ∈ as, k.ok a)
    (hb : ∀ b ∈ bs, k.ok b) (hx : ∀ a, k.ok a → ¬Leads 2 (k.word a) x)
    (hy : ∀ a, k.ok a → ¬Leads 2 (k.word a) y) (h : k.rows as ++ x = k.rows bs ++ y) :
    as = bs ∧ x = y := by
  refine flatMap_append_inj (fun a b x y ha hb => row_append_inj ha hb) ha hb
    (fun a z ha hz => hx a ha ?_) (fun a z ha hz => hy a ha ?_) h
  · rw [← hz]
    exact leads_row ha z
  · rw [← hz]
    exact leads_row ha z

/-- Lines of tokens, which tell what they were made of. -/
def spelt (line : α → String) (word : α → String) (args : α → List String) (ok : α → Prop)
    (hline : ∀ a, ok a → (line a).toList = spell (word a) (args a))
    (hargs : ∀ a b, ok a → ok b → word a = word b → args a = args b → a = b) : LineCode α where
  line := line
  word := word
  ok := ok
  line_append a x ha := by
    rw [hline a ha]
    exact spell_append (word a) (args a) x
  line_append_inj a b x y ha hb h := by
    rw [hline a ha, hline b hb] at h
    obtain ⟨hword, hrest, hend⟩ := spell_append_inj h
    exact ⟨hargs a b ha hb hword hrest, hend⟩

end LineCode

/-- The names of directives that stand for other lines of a block. -/
def reserved : List String :=
  ["server", "server_name", "error_page"]

/-- Directives within a pool or a server. -/
def directiveCode : LineCode Directive where
  line := Directive.line
  word := Directive.name
  ok d := d.Tidy ∧ d.name ∉ reserved
  line_append d x hd := by
    rw [hd.1.name.quoted_eq]
    exact d.line_append x
  line_append_inj _ _ _ _ hd he h := Directive.line_append_inj hd.1 he.1 h

/-- Targets of a pool. -/
def targetCode : LineCode String :=
  .spelt (fun t => "server " ++ t ++ ";") (fun _ => "server") (fun t => [t]) IsPlain
    (fun t ht => by
      have hserver : quoted "server" = "server" := by decide
      simp [spell, spellMore, hserver, ht.quoted_eq])
    (fun _ _ _ _ _ hargs => (List.cons.inj hargs).1)

/-- Entries of a map. -/
def entryCode : LineCode (String × String) :=
  .spelt (fun e => quoted e.1 ++ " " ++ quoted e.2 ++ ";") Prod.fst (fun e => [e.2])
    (fun e => e.1 ≠ defaultKey) (fun e _ => by simp [spell, spellMore])
    (fun _ _ _ _ hkey hvalue => Prod.ext hkey (List.cons.inj hvalue).1)

/-- Default values of a map. -/
def fallbackCode : LineCode String :=
  .spelt (fun v => "default " ++ quoted v ++ ";") (fun _ => defaultKey) (fun v => [v])
    (fun _ => True)
    (fun v _ => by
      have hdefault : quoted defaultKey = "default" := by decide
      simp [spell, spellMore, hdefault])
    (fun _ _ _ _ _ hvalue => (List.cons.inj hvalue).1)

/-- Names of a server. -/
def serverNameCode : LineCode String :=
  .spelt (fun n => "server_name " ++ quoted n ++ ";") (fun _ => "server_name") (fun n => [n])
    (fun _ => True)
    (fun n _ => by
      have hname : quoted "server_name" = "server_name" := by decide
      simp [spell, spellMore, hname])
    (fun _ _ _ _ _ hname => (List.cons.inj hname).1)

theorem not_isSpecial_of_isDigit {c : Char} (h : c.isDigit = true) : isSpecial c = false := by
  have hval : 48 ≤ c.val ∧ c.val ≤ 57 := by simpa [Char.isDigit] using h
  have hrange : 48 ≤ c.toNat ∧ c.toNat ≤ 57 := hval
  by_contra hspecial
  simp only [isSpecial, isBlank, Bool.not_eq_false, Bool.or_eq_true, Bool.and_eq_true,
    decide_eq_true_eq, beq_iff_eq] at hspecial
  rcases hspecial with (((((h | rfl) | rfl) | rfl) | rfl) | rfl) | rfl
  · omega
  all_goals exact absurd hrange (by decide)

theorem isPlain_ofNat (n : Nat) : IsPlain (Decimal.ofNat n) := by
  refine isPlain_iff.mpr ⟨?_, fun c hc => not_isSpecial_of_isDigit ?_⟩
  · intro h
    exact Decimal.digits_ne_nil n (String.ofList_eq_empty_iff.mp h)
  · rw [Decimal.ofNat, String.toList_ofList] at hc
    exact Decimal.isDigit_of_mem_digits hc

theorem isPlain_ofInt (n : Int) : IsPlain (Decimal.ofInt n) := by
  have hnumeral := isPlain_iff.mp (isPlain_ofNat n.natAbs)
  unfold Decimal.ofInt
  split
  · refine isPlain_iff.mpr ⟨by simp, fun c hc => ?_⟩
    rw [String.toList_append, List.mem_append] at hc
    rcases hc with hc | hc
    · obtain rfl : c = '-' := by simpa using hc
      decide
    · exact hnumeral.2 c hc
  · exact isPlain_iff.mpr hnumeral

/-- The first line of a server: its port, and whether it is the default server. -/
def listenCode : LineCode (Int × Bool) :=
  .spelt (fun l => "listen " ++ Decimal.ofInt l.1 ++ (if l.2 then " default_server;" else ";"))
    (fun _ => "listen")
    (fun l => Decimal.ofInt l.1 :: if l.2 then ["default_server"] else []) (fun _ => True)
    (fun l _ => by
      have hlisten : quoted "listen" = "listen" := by decide
      have hflag : quoted "default_server" = "default_server" := by decide
      cases hl : l.2 <;> simp [spell, spellMore, hlisten, hflag, (isPlain_ofInt l.1).quoted_eq])
    (fun l l' _ _ _ hargs => by
      obtain ⟨hport, hflag⟩ := List.cons.inj hargs
      refine Prod.ext (Decimal.ofInt_injective hport) ?_
      cases hl : l.2 <;> cases hl' : l'.2 <;> simp [hl, hl'] at hflag ⊢)

/-- Plain tokens with blanks between them, behind another blank. -/
theorem spellMore_eq_intercalate {ts : List String} (hne : ts ≠ []) (hts : ∀ t ∈ ts, IsPlain t) :
    spellMore ts = ' ' :: (" ".intercalate ts).toList := by
  have hmap : ts.map String.toList ≠ [] := List.map_eq_nil_iff.not.mpr hne
  rw [String.toList_intercalate, show " ".toList = [' '] from rfl, cons_intercalate ' ' hmap,
    List.flatMap_map]
  exact List.flatMap_congr fun t ht => by rw [(hts t ht).quoted_eq]

/-- Pages of a server, each for some codes. -/
def errorPageCode : LineCode ErrorPage :=
  .spelt ErrorPage.line (fun _ => "error_page")
    (fun p => p.codes.map (fun c => Decimal.ofNat c.toNat) ++ [p.uri]) (fun p => p.codes ≠ [])
    (fun p hp => by
      have hpage : quoted "error_page" = "error_page" := by decide
      have hcodes : ∀ t ∈ p.codes.map fun c => Decimal.ofNat c.toNat, IsPlain t := by
        intro t ht
        obtain ⟨c, -, rfl⟩ := List.mem_map.mp ht
        exact isPlain_ofNat c.toNat
      have hmore := spellMore_eq_intercalate (List.map_eq_nil_iff.not.mpr hp) hcodes
      rw [spell, spellMore, List.flatMap_append, ← spellMore, hmore, hpage]
      simp [ErrorPage.line])
    (fun p q _ _ _ hargs => by
      obtain ⟨hcodes, huri⟩ := List.append_inj' hargs rfl
      have hinjective : Function.Injective fun c : UInt16 => Decimal.ofNat c.toNat :=
        fun c d hcd => UInt16.toNat_inj.mp (Decimal.ofNat_injective hcd)
      obtain ⟨codes, uri⟩ := p
      obtain ⟨codes', uri'⟩ := q
      obtain rfl : codes = codes' := hinjective.list_map hcodes
      obtain rfl : uri = uri' := (List.cons.inj huri).1
      rfl)

end Portcullis.Proxy
