import Portcullis.Proofs.Proxy.Line
import Mathlib.Data.List.Basic

/-!
# The grammar in which the proxy reads

Blanks separate tokens, a semicolon ends a directive, and braces open and close blocks.  A number
sign where a token could start begins a comment, which goes to the end of the line.  A token may
stand in double quotes, and a backslash makes the character after it literal.

* `Grammar.scan` splits a text into tokens, character by character, and `Grammar.Reader` puts
  tokens together to clauses.
* `Grammar.LexesTo` says what a part of a text contributes when it is read on its own.
* `Clause.read_tokens` says that the tokens of clauses give the clauses back.
* `IsBare.spells` and `spells_quoted` say which tokens are read as they are, and `lexesTo_bareLine`
  reads a line of them.
-/

namespace Portcullis.Proxy

open Portcullis.Text

namespace Grammar

/-! ## Tokens -/

inductive Token where
  | word (text : String)
  | semicolon
  | opening
  | closing
  deriving DecidableEq, Repr

/-- What the reader of characters is in the middle of, with the characters of its token so far. -/
inductive Mode where
  | between
  | bare (seen : List Char)
  | escaped (seen : List Char)
  | quoted (seen : List Char)
  | quotedEscaped (seen : List Char)
  | comment
  deriving DecidableEq, Repr

/-- The characters that end a bare token. -/
def separates (c : Char) : Bool :=
  isBlank c || c == ';' || c == '\x7b' || c == '\x7d'

/-- The token that a character is by itself, if it is one. -/
def mark : Char → List Token
  | ';' => [.semicolon]
  | '\x7b' => [.opening]
  | '\x7d' => [.closing]
  | _ => []

@[simp] theorem mark_semicolon : mark ';' = [.semicolon] := rfl

@[simp] theorem mark_opening : mark '\x7b' = [.opening] := rfl

@[simp] theorem mark_closing : mark '\x7d' = [.closing] := rfl

@[simp] theorem mark_space : mark ' ' = [] := rfl

/-- Reads one character. -/
def Mode.step : Mode → Char → Mode × List Token
  | .between, c =>
    if separates c then (.between, mark c)
    else if c = '#' then (.comment, [])
    else if c = '"' then (.quoted [], [])
    else if c = '\\' then (.escaped [], [])
    else (.bare [c], [])
  | .bare seen, c =>
    if separates c then (.between, .word (String.ofList seen) :: mark c)
    else if c = '\\' then (.escaped seen, [])
    else (.bare (seen ++ [c]), [])
  | .escaped seen, c => (.bare (seen ++ [c]), [])
  | .quoted seen, c =>
    if c = '"' then (.between, [.word (String.ofList seen)])
    else if c = '\\' then (.quotedEscaped seen, [])
    else (.quoted (seen ++ [c]), [])
  | .quotedEscaped seen, c => (.quoted (seen ++ [c]), [])
  | .comment, c => (if c = '\n' then .between else .comment, [])

/-- Reads characters, and gives the tokens that came to their end. -/
def scan (m : Mode) : List Char → Mode × List Token
  | [] => (m, [])
  | c :: cs => ((scan (m.step c).1 cs).1, (m.step c).2 ++ (scan (m.step c).1 cs).2)

/-- The tokens of a text, which may end between tokens or in a comment. -/
def tokens? (text : String) : Option (List Token) :=
  match scan .between text.toList with
  | (.between, ts) | (.comment, ts) => some ts
  | _ => none

/-! ## Clauses -/

/-- A directive, or a block with what stands between its braces. -/
inductive Clause where
  | line (name : String) (args : List String)
  | block (name : String) (args : List String) (inner : List Clause)

/-- What has been read: the tokens of the clause that has been begun, the clauses before it, and for
each open block, from the inside, how it was opened and what came before it. -/
structure Reader where
  words : List String
  clauses : List Clause
  outer : List (String × List String × List Clause)

/-- Reads one token. -/
def Reader.step (r : Reader) : Token → Option Reader
  | .word t => some { r with words := r.words ++ [t] }
  | .semicolon =>
    match r.words with
    | [] => none
    | name :: args => some { r with words := [], clauses := r.clauses ++ [.line name args] }
  | .opening =>
    match r.words with
    | [] => none
    | name :: args => some ⟨[], [], (name, args, r.clauses) :: r.outer⟩
  | .closing =>
    match r.words, r.outer with
    | [], (name, args, before) :: outer =>
      some ⟨[], before ++ [.block name args r.clauses], outer⟩
    | _, _ => none

/-- The clauses that tokens make, if the last one is finished and no block is open. -/
def clauses? (ts : List Token) : Option (List Clause) :=
  match ts.foldlM Reader.step ⟨[], [], []⟩ with
  | some ⟨[], clauses, []⟩ => some clauses
  | _ => none

/-- The clauses of a text. -/
def read? (text : String) : Option (List Clause) :=
  (tokens? text).bind clauses?

mutual

/-- The tokens of a clause. -/
def Clause.tokens : Clause → List Token
  | .line name args => (name :: args).map .word ++ [.semicolon]
  | .block name args inner =>
    (name :: args).map .word ++ .opening :: (Clause.tokensOf inner ++ [.closing])

/-- The tokens of clauses one after the other. -/
def Clause.tokensOf : List Clause → List Token
  | [] => []
  | k :: ks => k.tokens ++ Clause.tokensOf ks

end

/-! ## Clauses from tokens -/

theorem Clause.tokensOf_append (ks ls : List Clause) :
    tokensOf (ks ++ ls) = tokensOf ks ++ tokensOf ls := by
  induction ks with
  | nil => rw [List.nil_append, tokensOf, List.nil_append]
  | cons k ks ih => rw [List.cons_append, tokensOf, tokensOf, ih, List.append_assoc]

theorem Reader.read_words (ts : List String) (r : Reader) :
    (ts.map Token.word).foldlM Reader.step r = some { r with words := r.words ++ ts } := by
  induction ts generalizing r with
  | nil => rw [List.append_nil]; rfl
  | cons t ts ih =>
    rw [List.map_cons, List.foldlM_cons]
    refine (ih { r with words := r.words ++ [t] }).trans ?_
    rw [List.append_assoc, List.singleton_append]

mutual

/-- The tokens of a clause give the clause back. -/
theorem Clause.read_tokens (k : Clause) (before : List Clause)
    (outer : List (String × List String × List Clause)) :
    k.tokens.foldlM Reader.step ⟨[], before, outer⟩ = some ⟨[], before ++ [k], outer⟩ := by
  cases k with
  | line name args =>
    rw [Clause.tokens, List.foldlM_append, Reader.read_words]
    rfl
  | block name args inner =>
    have hinner := Clause.read_tokensOf inner [] ((name, args, before) :: outer)
    rw [Clause.tokens, List.foldlM_append, Reader.read_words]
    show ((Clause.tokensOf inner ++ [Token.closing]).foldlM Reader.step
      ⟨[], [], (name, args, before) :: outer⟩) = _
    rw [List.foldlM_append, hinner]
    rfl

theorem Clause.read_tokensOf (ks : List Clause) (before : List Clause)
    (outer : List (String × List String × List Clause)) :
    (Clause.tokensOf ks).foldlM Reader.step ⟨[], before, outer⟩ =
      some ⟨[], before ++ ks, outer⟩ := by
  cases ks with
  | nil => rw [Clause.tokensOf, List.append_nil]; rfl
  | cons k ks =>
    have hfirst := Clause.read_tokens k before outer
    have hrest := Clause.read_tokensOf ks (before ++ [k]) outer
    rw [Clause.tokensOf, List.foldlM_append, hfirst]
    refine hrest.trans ?_
    rw [List.append_assoc, List.singleton_append]

end

theorem clauses?_tokensOf (ks : List Clause) : clauses? (Clause.tokensOf ks) = some ks := by
  rw [clauses?, Clause.read_tokensOf, List.nil_append]

/-! ## Parts of a text -/

theorem scan_append (m : Mode) (as bs : List Char) :
    scan m (as ++ bs) = ((scan (scan m as).1 bs).1, (scan m as).2 ++ (scan (scan m as).1 bs).2) := by
  induction as generalizing m with
  | nil => rfl
  | cons a as ih => rw [List.cons_append, scan, scan, ih, List.append_assoc]

/-- A part that begins and ends between tokens, and the tokens that it contributes. -/
def LexesTo (cs : List Char) (ts : List Token) : Prop :=
  scan .between cs = (.between, ts)

instance (cs : List Char) (ts : List Token) : Decidable (LexesTo cs ts) :=
  inferInstanceAs (Decidable (_ = _))

theorem LexesTo.nil : LexesTo [] [] :=
  rfl

theorem LexesTo.append {as bs : List Char} {ts us : List Token} (h : LexesTo as ts)
    (h' : LexesTo bs us) : LexesTo (as ++ bs) (ts ++ us) := by
  rw [LexesTo] at h h' ⊢
  rw [scan_append, h, h']

theorem LexesTo.flatMap {α : Type} {f : α → List Char} {g : α → List Token} {as : List α}
    (h : ∀ a ∈ as, LexesTo (f a) (g a)) : LexesTo (as.flatMap f) (as.flatMap g) := by
  induction as with
  | nil => exact .nil
  | cons a as ih =>
    obtain ⟨ha, hrest⟩ := List.forall_mem_cons.mp h
    exact ha.append (ih hrest)

/-- A separator between tokens. -/
theorem lexesTo_separator {c : Char} (h : separates c = true) : LexesTo [c] (mark c) := by
  simp [LexesTo, scan, Mode.step, h]

theorem lexesTo_blanks (n : Nat) : LexesTo (List.replicate n ' ') [] := by
  induction n with
  | zero => exact .nil
  | succ n ih => exact (lexesTo_separator (by decide)).append ih

/-- A comment up to the end of its line. -/
theorem scan_comment {cs : List Char} (h : '\n' ∉ cs) : scan .comment cs = (.comment, []) := by
  induction cs with
  | nil => rfl
  | cons c cs ih =>
    have hc : c ≠ '\n' := fun heq => h (heq ▸ List.mem_cons_self)
    simp [scan, Mode.step, hc, ih fun hmem => h (List.mem_cons_of_mem _ hmem)]

theorem lexesTo_comment {cs : List Char} (h : '\n' ∉ cs) : LexesTo ('#' :: cs ++ ['\n']) [] := by
  have hfirst : scan .between ['#'] = (.comment, []) := by decide
  rw [LexesTo, List.cons_append, ← List.singleton_append, scan_append, hfirst, scan_append,
    scan_comment h]
  decide

/-! ## Bare tokens -/

/-- The characters that go on with a bare token. -/
def isInner (c : Char) : Bool :=
  !separates c && c != '\\'

/-- A token that is read as it stands: one that begins neither a comment nor quotes, and holds
neither separators nor backslashes. -/
def IsBare (t : String) : Prop :=
  t ≠ "" ∧ (∀ c ∈ t.toList, isInner c = true) ∧ t.toList.head? ≠ some '#' ∧
    t.toList.head? ≠ some '"'

instance (t : String) : Decidable (IsBare t) :=
  inferInstanceAs (Decidable (_ ∧ _))

theorem IsBare.inner {t : String} (h : IsBare t) : ∀ c ∈ t.toList, isInner c = true :=
  h.2.1

/-- A bare token goes on with any text without separators and backslashes. -/
theorem IsBare.append {t u : String} (h : IsBare t) (hu : ∀ c ∈ u.toList, isInner c = true) :
    IsBare (t ++ u) := by
  obtain ⟨hne, hinner, hcomment, hquote⟩ := h
  have hhead : (t ++ u).toList.head? = t.toList.head? := by
    cases hchars : t.toList with
    | nil => exact absurd (String.toList_eq_nil_iff.mp hchars) hne
    | cons c cs => simp [hchars]
  refine ⟨fun hempty => hne ?_, fun c hc => ?_, hhead ▸ hcomment, hhead ▸ hquote⟩
  · exact (String.append_eq_empty_iff.mp hempty).1
  · rw [String.toList_append, List.mem_append] at hc
    exact hc.elim (hinner c) (hu c)

/-- A text is read as a token, whatever ends it. -/
def Spells (cs : List Char) (t : String) : Prop :=
  ∀ c, separates c = true → LexesTo (cs ++ [c]) (.word t :: mark c)

theorem scan_bare {cs : List Char} (h : ∀ c ∈ cs, isInner c = true) (seen : List Char) :
    scan (.bare seen) cs = (.bare (seen ++ cs), []) := by
  induction cs generalizing seen with
  | nil => rw [List.append_nil]; rfl
  | cons c cs ih =>
    obtain ⟨hc, hrest⟩ := List.forall_mem_cons.mp h
    have hstep : Mode.step (.bare seen) c = (.bare (seen ++ [c]), []) := by
      simp only [isInner, Bool.and_eq_true, Bool.not_eq_true', bne_iff_ne] at hc
      simp [Mode.step, hc.1, hc.2]
    rw [scan, hstep, ih hrest, List.append_assoc, List.singleton_append, List.nil_append]

theorem IsBare.spells {t : String} (h : IsBare t) : Spells t.toList t := by
  intro s hs
  obtain ⟨hne, hinner, hcomment, hquote⟩ := h
  cases hchars : t.toList with
  | nil => exact absurd (String.toList_eq_nil_iff.mp hchars) hne
  | cons c cs =>
    rw [hchars, List.head?_cons] at hcomment hquote
    obtain ⟨hc, hrest⟩ := List.forall_mem_cons.mp (hchars ▸ hinner)
    have hfirst : Mode.step .between c = (.bare [c], []) := by
      simp only [isInner, Bool.and_eq_true, Bool.not_eq_true', bne_iff_ne] at hc
      have hhash : c ≠ '#' := fun heq => hcomment (congrArg some heq)
      have hmark : c ≠ '"' := fun heq => hquote (congrArg some heq)
      simp [Mode.step, hc.1, hc.2, hhash, hmark]
    rw [LexesTo, List.cons_append, scan, hfirst, scan_append, scan_bare hrest]
    simp [scan, Mode.step, hs, ← hchars]

/-! ## Tokens in quotes -/

/-- A token that is read as it is after it was put in quotes where need be: a backslash stays
literal only between quotes. -/
def IsQuotable (t : String) : Prop :=
  needsQuotes t = true ∨ '\\' ∉ t.toList

instance (t : String) : Decidable (IsQuotable t) :=
  inferInstanceAs (Decidable (_ ∨ _))

theorem IsBare.isQuotable {t : String} (h : IsBare t) : IsQuotable t :=
  Or.inr fun hback => absurd (h.inner '\\' hback) (by decide)

theorem scan_quoted (cs seen : List Char) :
    scan (.quoted seen) (cs.flatMap quotedChar) = (.quoted (seen ++ cs), []) := by
  induction cs generalizing seen with
  | nil => rw [List.append_nil]; rfl
  | cons c cs ih =>
    have hchar : scan (.quoted seen) (quotedChar c) = (.quoted (seen ++ [c]), []) := by
      unfold quotedChar
      split
      · rfl
      · next hc =>
        simp only [Bool.or_eq_true, beq_iff_eq, not_or] at hc
        simp [scan, Mode.step, hc.1, hc.2]
    rw [List.flatMap_cons, scan_append, hchar, ih, List.append_assoc, List.singleton_append,
      List.nil_append]

theorem isBare_of_isPlain {t : String} (h : IsPlain t) (hback : '\\' ∉ t.toList) : IsBare t := by
  obtain ⟨hne, hspecial⟩ := isPlain_iff.mp h
  have hhead : ∀ c, isSpecial c = true → t.toList.head? ≠ some c := by
    intro c hc heq
    have hplain := hspecial c (List.mem_of_head? heq)
    rw [hc] at hplain
    cases hplain
  refine ⟨hne, fun c hc => ?_, hhead '#' rfl, hhead '"' rfl⟩
  have hc' := hspecial c hc
  simp only [isSpecial, Bool.or_eq_false_iff] at hc'
  have hbackslash : c ≠ '\\' := fun heq => hback (heq ▸ hc)
  simp [isInner, separates, hc', hbackslash]

theorem spells_quoted {t : String} (h : IsQuotable t) : Spells (quoted t).toList t := by
  cases hneeds : needsQuotes t with
  | false =>
    rw [IsPlain.quoted_eq hneeds]
    have hback : '\\' ∉ t.toList := h.resolve_left (by simp [hneeds])
    exact (isBare_of_isPlain hneeds hback).spells
  | true =>
    intro s hs
    have hform : (quoted t).toList = ['"'] ++ t.toList.flatMap quotedChar ++ ['"'] := by
      simp [quoted, hneeds]
    have hopen : scan .between ['"'] = (.quoted [], []) := by decide
    have htoken : LexesTo (quoted t).toList [.word t] := by
      rw [LexesTo, hform, scan_append, scan_append, hopen, scan_quoted]
      simp [scan, Mode.step]
    exact htoken.append (lexesTo_separator hs)

/-! ## Lines -/

/-- Bare tokens with blanks between them, before a separator. -/
theorem lexesTo_bareLine {t : String} {ts : List String} (ht : IsBare t)
    (hts : ∀ u ∈ ts, IsBare u) {c : Char} (hc : separates c = true) :
    LexesTo (t.toList ++ ts.flatMap (fun u => ' ' :: u.toList) ++ [c])
      ((t :: ts).map Token.word ++ mark c) := by
  induction ts generalizing t with
  | nil =>
    rw [List.flatMap_nil, List.append_nil]
    exact ht.spells c hc
  | cons u us ih =>
    obtain ⟨hu, hus⟩ := List.forall_mem_cons.mp hts
    have hfirst : LexesTo (t.toList ++ [' ']) [.word t] := ht.spells ' ' (by decide)
    have hline := hfirst.append (ih hu hus)
    simpa [List.append_assoc] using hline

end Grammar

end Portcullis.Proxy
