import Portcullis.Json.Printer
import Portcullis.Json.Reader
import Portcullis.Proofs.Text.Decimal
import Portcullis.Proofs.Text.Utf8

/-!
# JSON is read as it was written

A datum without decimal fractions and without unreadable texts is read from its own JSON text
again, in either layout.

* `Plain` says which data these are.
* `printAt_list` and `printAt_object` say what is printed of lists and records.
* `literal_quoted` and `number_ofInt`: strings and whole numbers are read as they were written,
  whatever follows them.
* `value_printAt` says so of all plain data, and `read?_print` of whole documents.
-/

namespace Portcullis.Json

open Portcullis.Text

/-- Data that printing keeps: whole numbers, texts, and what is made of them. -/
inductive Plain : Datum → Prop where
  | null : Plain .null
  | flag (b : Bool) : Plain (.flag b)
  | whole (n : Int) : Plain (.whole n)
  | text (s : String) : Plain (.text s)
  | list (ds : List Datum) (h : ∀ d ∈ ds, Plain d) : Plain (.list ds)
  | object (ms : List (String × Datum)) (h : ∀ m ∈ ms, Plain m.2) : Plain (.object ms)

/-! ## What is printed -/

theorem printAt_list (layout : Layout) (level : Nat) (ds : List Datum) :
    printAt layout level (.list ds) =
      layout.bracket level '[' ']' (printItems layout (level + 1) ds) := rfl

/-- A member of a record as it is printed. -/
def memberText (layout : Layout) (level : Nat) (m : String × Datum) : List Char :=
  quoted m.1 ++ layout.colon ++ printAt layout level m.2

theorem printMembers_object (layout : Layout) (level : Nat) (ms : List (String × Datum)) :
    printMembers layout level (ms.map fun (name, d) => (some name, d)) =
      ms.map (memberText layout level) := by
  induction ms with
  | nil => rfl
  | cons m ms ih =>
    rw [List.map_cons, printMembers, ih]
    rfl

theorem printAt_object (layout : Layout) (level : Nat) (ms : List (String × Datum)) :
    printAt layout level (.object ms) =
      layout.bracket level '\x7b' '\x7d' (ms.map (memberText layout (level + 1))) := by
  rw [Datum.object, printAt, printMembers_object]

/-! ## Reading without fuel -/

theorem value_zero (s : Scan) : value 0 s = none := by
  rw [value]

theorem items_zero (s : Scan) : items 0 s = none := by
  rw [items]

theorem members_zero (s : Scan) : members 0 s = none := by
  rw [members]

/-! ## Blanks -/

/-- Blanks at the front do not count. -/
theorem skipSpace_append {blanks : List Char} (h : ∀ c ∈ blanks, isSpace (some c) = true)
    (s : Scan) : skipSpace (blanks.map some ++ s) = skipSpace s := by
  induction blanks with
  | nil => rfl
  | cons c cs ih =>
    obtain ⟨hc, hcs⟩ := List.forall_mem_cons.1 h
    rw [List.map_cons, List.cons_append, skipSpace, List.dropWhile_cons, hc]
    exact ih hcs

theorem skipSpace_cons {c : Char} (h : isSpace (some c) = false) (s : Scan) :
    skipSpace (some c :: s) = some c :: s := by
  rw [skipSpace, List.dropWhile_cons, h]
  rfl

/-- What stands between the parts of a text are blanks. -/
theorem isSpace_of_mem_gap {layout : Layout} {level : Nat} {c : Char}
    (h : c ∈ layout.gap level) : isSpace (some c) = true := by
  cases layout with
  | compact => cases h
  | indented =>
    rcases List.mem_cons.1 h with rfl | hblank
    · rfl
    · rw [List.eq_of_mem_replicate hblank]
      rfl

theorem skipSpace_gap (layout : Layout) (level : Nat) (s : Scan) :
    skipSpace ((layout.gap level).map some ++ s) = skipSpace s :=
  skipSpace_append (fun _ => isSpace_of_mem_gap) s

/-! ## Strings -/

/-- What a character of a string is written as: itself, or its code. -/
def pieceOf (c : Char) : Piece :=
  if c.toNat < 0x20 ∧ c ∉ ['\x08', '\x0c', '\n', '\r', '\t'] then .unit c.toNat else .char c

theorem hexDigit?_hexDigit {n : Nat} (h : n < 16) : hexDigit? (some (hexDigit n)) = some n := by
  have hall : ∀ n < 16, hexDigit? (some (hexDigit n)) = some n := by decide
  exact hall n h

/-- One character of a string is read as it was written. -/
theorem pieces_escape (c : Char) (s : Scan) :
    pieces ((escape c).map some ++ s) =
      (pieces s).map fun found => (pieceOf c :: found.1, found.2) := by
  -- An escape of one letter stands for one of the characters that are written so.
  have hletter : ∀ e : Char, e ≠ 'u' → escaped? e = some c → pieceOf c = .char c →
      pieces (some '\\' :: some e :: s) =
        (pieces s).map fun found => (pieceOf c :: found.1, found.2) := by
    intro e hu he hpiece
    rw [pieces.eq_3 e s (fun _ _ _ _ _ _ heq => hu heq), he, hpiece]
    cases pieces s <;> rfl
  by_cases hspecial : c ∈ ['"', '\\', '\x08', '\x0c', '\n', '\r', '\t']
  · simp only [List.mem_cons, List.not_mem_nil, or_false] at hspecial
    rcases hspecial with rfl | rfl | rfl | rfl | rfl | rfl | rfl
    · exact hletter '"' (by decide) rfl rfl
    · exact hletter '\\' (by decide) rfl rfl
    · exact hletter 'b' (by decide) rfl rfl
    · exact hletter 'f' (by decide) rfl rfl
    · exact hletter 'n' (by decide) rfl rfl
    · exact hletter 'r' (by decide) rfl rfl
    · exact hletter 't' (by decide) rfl rfl
  · simp only [List.mem_cons, List.not_mem_nil, or_false, not_or] at hspecial
    obtain ⟨hquote, hslash, hb, hf, hn, hr, ht⟩ := hspecial
    simp only [escape, beq_iff_eq, if_neg hquote, if_neg hslash, if_neg hb, if_neg hf, if_neg hn,
      if_neg hr, if_neg ht]
    by_cases hcontrol : c.toNat < 0x20
    · have hpiece : pieceOf c = .unit c.toNat := if_pos ⟨hcontrol, by simp [hb, hf, hn, hr, ht]⟩
      have hunit : hexUnit? (some '0') (some '0') (some (hexDigit (c.toNat / 16)))
          (some (hexDigit (c.toNat % 16))) = some c.toNat := by
        have hzero : hexDigit? (some '0') = some 0 := by decide
        simp only [hexUnit?, hzero, hexDigit?_hexDigit (show c.toNat / 16 < 16 by omega),
          hexDigit?_hexDigit (Nat.mod_lt c.toNat (show 16 > 0 by decide)), bind, Option.bind, pure,
          Option.some.injEq]
        omega
      rw [if_pos hcontrol, hpiece]
      simp only [List.map_cons, List.map_nil, List.cons_append, List.nil_append]
      rw [pieces, hunit]
      cases pieces s <;> rfl
    · have hpiece : pieceOf c = .char c := if_neg fun h => hcontrol h.1
      rw [if_neg hcontrol, hpiece]
      simp only [List.map_cons, List.map_nil, List.cons_append, List.nil_append]
      rw [pieces.eq_4 c s hquote (fun _ _ _ _ _ _ => hslash) (fun _ _ _ => hslash), if_neg]
      · cases pieces s <;> rfl
      · simp [hslash, hcontrol]

theorem pieces_quoted (cs : List Char) (s : Scan) :
    pieces ((cs.flatMap escape ++ ['"']).map some ++ s) = some (cs.map pieceOf, s) := by
  induction cs with
  | nil => exact pieces.eq_1 s
  | cons c cs ih =>
    rw [List.flatMap_cons, List.append_assoc, List.map_append, List.append_assoc, pieces_escape, ih]
    rfl

/-- The pieces of a text make the text up. -/
theorem assemble_pieceOf (cs : List Char) : assemble (cs.map pieceOf) = some cs := by
  induction cs with
  | nil => rfl
  | cons c cs ih =>
    rw [List.map_cons, pieceOf]
    split
    · next h =>
      have hhigh : isHighSurrogate c.toNat = false := by
        simp only [isHighSurrogate, Bool.and_eq_false_iff, decide_eq_false_iff_not]
        omega
      have hlow : isLowSurrogate c.toNat = false := by
        simp only [isLowSurrogate, Bool.and_eq_false_iff, decide_eq_false_iff_not]
        omega
      rw [assemble.eq_def]
      simp [hhigh, hlow, ih, Char.ofNat_toNat]
    · rw [assemble, ih]
      rfl

/-- A string is read as it was written. -/
theorem literal_quoted (t : String) (s : Scan) :
    literal ((t.toList.flatMap escape ++ ['"']).map some ++ s) = some (some t, s) := by
  simp only [literal, pieces_quoted, Option.map_some, assemble_pieceOf, String.ofList_toList]

/-! ## Numbers -/

/-- Nothing follows that could go on a number. -/
def Ends (s : Scan) : Prop :=
  ∀ c, s.head? = some (some c) → c.isDigit = false ∧ c ≠ '.' ∧ c ≠ 'e' ∧ c ≠ 'E'

namespace Ends

variable {s : Scan}

theorem nil : Ends [] :=
  fun _ h => nomatch h

theorem cons {c : Char} (hdigit : c.isDigit = false) (hpoint : c ≠ '.') (he : c ≠ 'e')
    (hE : c ≠ 'E') (s : Scan) : Ends (some c :: s) := by
  intro d hd
  obtain rfl : c = d := Option.some.inj (Option.some.inj hd)
  exact ⟨hdigit, hpoint, he, hE⟩

theorem digitRun (h : Ends s) : digitRun s = ([], s) := by
  match s with
  | [] => rfl
  | none :: r => rfl
  | some c :: r =>
    rw [Json.digitRun, (h c rfl).1]
    rfl

theorem fraction (h : Ends s) : fraction s = some ([], s) := by
  unfold Json.fraction
  split
  · next r => exact absurd rfl (h '.' rfl).2.1
  · rfl

theorem exponent (h : Ends s) : exponent s = some ([], s) := by
  have he : ∀ r, s ≠ some 'e' :: r := by
    rintro r rfl
    exact (h 'e' rfl).2.2.1 rfl
  have hE : ∀ r, s ≠ some 'E' :: r := by
    rintro r rfl
    exact (h 'E' rfl).2.2.2 rfl
  exact exponent.eq_7 s (fun _ => he _) (fun _ => hE _) (fun _ => he _) (fun _ => hE _)
    (fun _ => he _) (fun _ => hE _)

end Ends

theorem digitRun_append {ds : List Char} (h : ∀ c ∈ ds, c.isDigit = true) {s : Scan}
    (hs : Ends s) : digitRun (ds.map some ++ s) = (ds, s) := by
  induction ds with
  | nil => exact hs.digitRun
  | cons c cs ih =>
    obtain ⟨hc, hcs⟩ := List.forall_mem_cons.1 h
    rw [List.map_cons, List.cons_append, digitRun, if_pos hc, ih hcs]

/-- Only the numeral of zero starts with a zero. -/
theorem head?_digits {n : Nat} (hn : 0 < n) : (Decimal.digits n).head? ≠ some '0' := by
  induction n using Decimal.digits.induct with
  | case1 n hlt =>
    have hall : ∀ k < 10, 0 < k → Decimal.digit k ≠ '0' := by decide
    rw [Decimal.digits, if_pos hlt, List.head?_cons]
    intro hzero
    exact hall n hlt hn (Option.some.inj hzero)
  | case2 n hle ih =>
    obtain ⟨d, ds, hds⟩ := List.exists_cons_of_ne_nil (Decimal.digits_ne_nil (n / 10))
    rw [Decimal.digits, if_neg hle, hds]
    have hfront := ih (by omega)
    rw [hds] at hfront
    exact hfront

/-- A numeral is read as it was written. -/
theorem wholePart_digits (n : Nat) {s : Scan} (hs : Ends s) :
    wholePart ((Decimal.digits n).map some ++ s) = some (Decimal.digits n, s) := by
  cases n with
  | zero =>
    rw [Decimal.digits, if_pos (by decide)]
    rfl
  | succ n =>
    have hhead := head?_digits (Nat.succ_pos n)
    obtain ⟨d, ds, hds⟩ := List.exists_cons_of_ne_nil (Decimal.digits_ne_nil (n + 1))
    have hrun := digitRun_append (fun _ => Decimal.isDigit_of_mem_digits (n := n + 1)) hs
    rw [hds] at hhead hrun ⊢
    rw [wholePart.eq_2, hrun]
    rintro r hzero
    obtain ⟨hd, -⟩ := List.cons.inj hzero
    exact hhead (congrArg some (Option.some.inj hd))

/-- A whole number is read as it was written. -/
theorem number_ofInt (n : Int) {s : Scan} (hs : Ends s) :
    number ((Decimal.ofInt n).toList.map some ++ s) = some (.whole n, s) := by
  have hwhole := wholePart_digits n.natAbs hs
  have hvalue := Decimal.value_digits n.natAbs
  by_cases hn : n < 0
  · have htext : (Decimal.ofInt n).toList = '-' :: Decimal.digits n.natAbs := by
      simp [Decimal.ofInt, Decimal.ofNat, hn]
    have hsign : sign (some '-' :: ((Decimal.digits n.natAbs).map some ++ s)) =
        (true, (Decimal.digits n.natAbs).map some ++ s) := rfl
    have hzero : (n.natAbs == 0) = false := by
      rw [beq_eq_false_iff_ne]
      omega
    rw [htext, List.map_cons, List.cons_append, number, hsign]
    simp only [hwhole, hs.fraction, hs.exponent, hvalue, hzero, bind, Option.bind, pure]
    simp only [List.isEmpty_nil, Bool.and_self, Bool.and_false, Bool.not_false, if_true]
    rw [show (-(n.natAbs : Int)) = n by omega]
  · have htext : (Decimal.ofInt n).toList = Decimal.digits n.natAbs := by
      simp [Decimal.ofInt, Decimal.ofNat, hn]
    have hsign : sign ((Decimal.digits n.natAbs).map some ++ s) =
        (false, (Decimal.digits n.natAbs).map some ++ s) := by
      obtain ⟨d, ds, hds⟩ := List.exists_cons_of_ne_nil (Decimal.digits_ne_nil n.natAbs)
      have hdigit : d.isDigit = true :=
        Decimal.isDigit_of_mem_digits (n := n.natAbs) (hds ▸ List.mem_cons_self)
      rw [hds, List.map_cons, List.cons_append, sign.eq_2]
      rintro r hminus
      obtain ⟨hd, -⟩ := List.cons.inj hminus
      obtain rfl := Option.some.inj hd
      cases hdigit
    rw [htext, number, hsign]
    simp only [hwhole, hs.fraction, hs.exponent, hvalue, bind, Option.bind, pure]
    simp only [List.isEmpty_nil, Bool.and_self, Bool.false_and, Bool.not_false, Bool.false_eq_true,
      if_true, if_false]
    rw [show (n.natAbs : Int) = n by omega]

/-! ## Values -/

/-- A value begins with a character that is no blank and closes nothing. -/
structure Opens (c : Char) : Prop where
  solid : isSpace (some c) = false
  bracket : c ≠ ']'

theorem quoted_eq (s : String) : quoted s = '"' :: (s.toList.flatMap escape ++ ['"']) := rfl

theorem exists_bracket (layout : Layout) (level : Nat) (left right : Char)
    (parts : List (List Char)) : ∃ cs, layout.bracket level left right parts = left :: cs := by
  cases parts with
  | nil => exact ⟨_, rfl⟩
  | cons p ps => exact ⟨_, by rw [Layout.bracket]; rfl⟩

/-- A number begins with a digit or a minus sign. -/
def OpensNumber (c : Char) : Prop :=
  c = '-' ∨ c.isDigit = true

namespace OpensNumber

variable {c : Char}

theorem ne (h : OpensNumber c) {d : Char} (hminus : d ≠ '-') (hdigit : d.isDigit = false) :
    c ≠ d := by
  rintro rfl
  rcases h with hc | hc
  · exact hminus hc
  · rw [hc] at hdigit
    cases hdigit

theorem opens (h : OpensNumber c) : Opens c where
  solid := by
    simp [isSpace, h.ne (d := ' ') (by decide) (by decide), h.ne (d := '\n') (by decide) (by decide),
      h.ne (d := '\r') (by decide) (by decide), h.ne (d := '\t') (by decide) (by decide)]
  bracket := h.ne (by decide) (by decide)

theorem value_eq (h : OpensNumber c) (fuel : Nat) (s : Scan) :
    value (fuel + 1) (some c :: s) = number (some c :: s) := by
  have hne : ∀ {d : Char} {r r' : Scan}, some c :: r = some d :: r' → d ≠ '-' →
      d.isDigit = true := by
    intro d r r' heq hminus
    obtain rfl := Option.some.inj (List.cons.inj heq).1
    exact h.resolve_left hminus
  rw [value, skipSpace_cons h.opens.solid]
  split
  · next heq => cases hne heq (by decide)
  · next heq => cases hne heq (by decide)
  · next heq => cases hne heq (by decide)
  · next heq => cases hne heq (by decide)
  · next heq => cases hne heq (by decide)
  · next heq => cases hne heq (by decide)
  · rfl

end OpensNumber

theorem exists_ofInt (n : Int) :
    ∃ c cs, (Decimal.ofInt n).toList = c :: cs ∧ OpensNumber c := by
  obtain ⟨d, ds, hds⟩ := List.exists_cons_of_ne_nil (Decimal.digits_ne_nil n.natAbs)
  have hdigit : d.isDigit = true :=
    Decimal.isDigit_of_mem_digits (n := n.natAbs) (hds ▸ List.mem_cons_self)
  by_cases hn : n < 0
  · exact ⟨'-', d :: ds, by simp [Decimal.ofInt, Decimal.ofNat, hn, hds], Or.inl rfl⟩
  · exact ⟨d, ds, by simp [Decimal.ofInt, Decimal.ofNat, hn, hds], Or.inr hdigit⟩

theorem exists_printAt {d : Datum} (h : Plain d) (layout : Layout) (level : Nat) :
    ∃ c cs, printAt layout level d = c :: cs ∧ Opens c := by
  cases h with
  | null => exact ⟨'n', _, rfl, by decide, by decide⟩
  | flag b =>
    cases b with
    | true => exact ⟨'t', _, rfl, by decide, by decide⟩
    | false => exact ⟨'f', _, rfl, by decide, by decide⟩
  | whole n =>
    obtain ⟨c, cs, htext, hc⟩ := exists_ofInt n
    exact ⟨c, cs, by rw [printAt, htext], hc.opens⟩
  | text s => exact ⟨'"', _, rfl, by decide, by decide⟩
  | list ds =>
    obtain ⟨cs, hcs⟩ := exists_bracket layout level '[' ']' (printItems layout (level + 1) ds)
    exact ⟨'[', cs, by rw [printAt_list, hcs], by decide, by decide⟩
  | object ms =>
    obtain ⟨cs, hcs⟩ : ∃ cs, printAt layout level (.object ms) = '\x7b' :: cs := by
      rw [printAt_object]
      exact exists_bracket layout level '\x7b' '\x7d' _
    exact ⟨'\x7b', cs, hcs, by decide, by decide⟩

/-! ## Lists and records -/

/-- Parts of a text, each behind a comma. -/
def commaFront (layout : Layout) (level : Nat) (parts : List (List Char)) : List Char :=
  parts.flatMap fun p => ',' :: (layout.gap level ++ p)

theorem bracket_eq (layout : Layout) (level : Nat) (left right : Char) (p : List Char)
    (ps : List (List Char)) :
    layout.bracket level left right (p :: ps) =
      left :: (layout.gap (level + 1) ++ (p ++ commaFront layout (level + 1) ps ++
        (layout.gap level ++ [right]))) := by
  simp [Layout.bracket, commaFront]

/-- What stands behind the last part of a list or a record. -/
def closing (layout : Layout) (level : Nat) (right : Char) (s : Scan) : Scan :=
  (layout.gap level).map some ++ some right :: s

theorem Ends.closing {right : Char} (h : right = ']' ∨ right = '\x7d') (layout : Layout)
    (level : Nat) (s : Scan) : Ends (closing layout level right s) := by
  cases layout with
  | compact =>
    show Ends (some right :: s)
    rcases h with rfl | rfl
    · exact .cons (by decide) (by decide) (by decide) (by decide) s
    · exact .cons (by decide) (by decide) (by decide) (by decide) s
  | indented => exact .cons (by decide) (by decide) (by decide) (by decide) _

theorem skipSpace_closing {right : Char} (h : isSpace (some right) = false) (layout : Layout)
    (level : Nat) (s : Scan) : skipSpace (closing layout level right s) = some right :: s := by
  rw [closing, skipSpace_gap, skipSpace_cons h]

theorem value_blanks {blanks : List Char} (h : ∀ c ∈ blanks, isSpace (some c) = true)
    (fuel : Nat) (s : Scan) : value fuel (blanks.map some ++ s) = value fuel s := by
  cases fuel with
  | zero => rw [value_zero, value_zero]
  | succ fuel => rw [value, value, skipSpace_append h]

theorem items_gap (layout : Layout) (level fuel : Nat) (s : Scan) :
    items fuel ((layout.gap level).map some ++ s) = items fuel s := by
  cases fuel with
  | zero => rw [items_zero, items_zero]
  | succ fuel => rw [items, items, value_blanks fun _ => isSpace_of_mem_gap]

theorem members_gap (layout : Layout) (level fuel : Nat) (s : Scan) :
    members fuel ((layout.gap level).map some ++ s) = members fuel s := by
  cases fuel with
  | zero => rw [members_zero, members_zero]
  | succ fuel => rw [members, members, skipSpace_gap]

/-- A datum is read from its text on a level, whatever follows it that does not go on a number. -/
def ReadsBack (layout : Layout) (d : Datum) : Prop :=
  ∀ level fuel s, 2 * (printAt layout level d).length ≤ fuel → Ends s →
    value fuel ((printAt layout level d).map some ++ s) = some (d, s)

variable {layout : Layout} (level outer fuel : Nat)

/-- The items of a list are read as they were written. -/
theorem items_printItems {d : Datum} {ds : List Datum} (h : ∀ x ∈ d :: ds, ReadsBack layout x)
    (s : Scan)
    (hfuel : 2 * (printAt layout level d ++
      commaFront layout level (printItems layout level ds)).length < fuel) :
    items fuel ((printAt layout level d ++
        commaFront layout level (printItems layout level ds)).map some ++
      closing layout outer ']' s) = some (d :: ds, s) := by
  induction ds generalizing d fuel with
  | nil =>
    obtain ⟨fuel, rfl⟩ : ∃ f, fuel = f + 1 := ⟨fuel - 1, by omega⟩
    have hread := h d List.mem_cons_self level fuel (closing layout outer ']' s)
      (by simp [commaFront, printItems] at hfuel; omega) (.closing (Or.inl rfl) _ _ _)
    simp only [printItems, commaFront, List.flatMap_nil, List.append_nil] at hread ⊢
    rw [items, hread]
    simp only [bind, Option.bind, skipSpace_closing (show isSpace (some ']') = false from rfl)]
    rfl
  | cons e ds ih =>
    obtain ⟨fuel, rfl⟩ : ∃ f, fuel = f + 1 := ⟨fuel - 1, by omega⟩
    have htext : commaFront layout level (printItems layout level (e :: ds)) =
        ',' :: (layout.gap level ++ (printAt layout level e ++
          commaFront layout level (printItems layout level ds))) := by
      simp [printItems, commaFront]
    rw [htext] at hfuel ⊢
    simp only [List.length_append, List.length_cons] at hfuel
    have hread := h d List.mem_cons_self level fuel
      (some ',' :: ((layout.gap level).map some ++ ((printAt layout level e ++
        commaFront layout level (printItems layout level ds)).map some ++
          closing layout outer ']' s)))
      (by omega) (.cons (by decide) (by decide) (by decide) (by decide) _)
    have hrest := ih fuel (d := e) (fun x hx => h x (List.mem_cons_of_mem _ hx))
      (by rw [List.length_append]; omega)
    have hscan : (printAt layout level d ++ ',' :: (layout.gap level ++ (printAt layout level e ++
          commaFront layout level (printItems layout level ds)))).map some ++
          closing layout outer ']' s =
        (printAt layout level d).map some ++ some ',' :: ((layout.gap level).map some ++
          ((printAt layout level e ++ commaFront layout level
            (printItems layout level ds)).map some ++ closing layout outer ']' s)) := by
      simp
    rw [hscan, items, hread]
    simp only [bind, Option.bind, skipSpace_cons (show isSpace (some ',') = false from rfl),
      items_gap, hrest]
    rfl

/-- The name of a member is read, and what stands behind its colon is the value. -/
theorem members_memberText (layout : Layout) (level fuel : Nat) (m : String × Datum) (s : Scan) :
    members (fuel + 1) ((memberText layout level m).map some ++ s) = (do
      let (d, s) ← value fuel ((printAt layout level m.2).map some ++ s)
      match skipSpace s with
      | some '\x7d' :: r => return ([(some m.1, d)], r)
      | some ',' :: r =>
        let (ms, rest) ← members fuel r
        return ((some m.1, d) :: ms, rest)
      | _ => none) := by
  obtain ⟨blanks, hcolon, hblanks⟩ : ∃ blanks, layout.colon = ':' :: blanks ∧
      ∀ c ∈ blanks, isSpace (some c) = true := by
    cases layout with
    | compact => exact ⟨[], rfl, by simp⟩
    | indented => exact ⟨[' '], rfl, by simp [isSpace]⟩
  have htext : (memberText layout level m).map some ++ s =
      some '"' :: ((m.1.toList.flatMap escape ++ ['"']).map some ++ (some ':' ::
        (blanks.map some ++ ((printAt layout level m.2).map some ++ s)))) := by
    simp [memberText, quoted, hcolon]
  rw [← value_blanks hblanks, htext, members,
    skipSpace_cons (show isSpace (some '"') = false from rfl)]
  simp only [literal_quoted]
  rfl

/-- The members of a record are read as they were written. -/
theorem members_memberTexts {m : String × Datum} {ms : List (String × Datum)}
    (h : ∀ x ∈ m :: ms, ReadsBack layout x.2) (s : Scan)
    (hfuel : 2 * (memberText layout level m ++
      commaFront layout level (ms.map (memberText layout level))).length < fuel) :
    members fuel ((memberText layout level m ++
        commaFront layout level (ms.map (memberText layout level))).map some ++
      closing layout outer '\x7d' s) =
      some ((m :: ms).map fun (name, d) => (some name, d), s) := by
  have hlength : ∀ m : String × Datum,
      (printAt layout level m.2).length < (memberText layout level m).length := by
    intro m
    simp only [memberText, quoted, List.length_append, List.length_cons]
    omega
  induction ms generalizing m fuel with
  | nil =>
    obtain ⟨fuel, rfl⟩ : ∃ f, fuel = f + 1 := ⟨fuel - 1, by omega⟩
    simp only [List.map_nil, commaFront, List.flatMap_nil, List.append_nil] at hfuel ⊢
    have hshort := hlength m
    have hread := h m List.mem_cons_self level fuel (closing layout outer '\x7d' s) (by omega)
      (.closing (Or.inr rfl) _ _ _)
    rw [members_memberText, hread]
    simp only [bind, Option.bind, skipSpace_closing (show isSpace (some '\x7d') = false from rfl)]
    rfl
  | cons e ms ih =>
    obtain ⟨fuel, rfl⟩ : ∃ f, fuel = f + 1 := ⟨fuel - 1, by omega⟩
    have hshort := hlength m
    have htext : commaFront layout level ((e :: ms).map (memberText layout level)) =
        ',' :: (layout.gap level ++ (memberText layout level e ++
          commaFront layout level (ms.map (memberText layout level)))) := by
      simp [commaFront]
    rw [htext] at hfuel ⊢
    simp only [List.length_append, List.length_cons] at hfuel
    have hread := h m List.mem_cons_self level fuel
      (some ',' :: ((layout.gap level).map some ++ ((memberText layout level e ++
        commaFront layout level (ms.map (memberText layout level))).map some ++
          closing layout outer '\x7d' s)))
      (by omega) (.cons (by decide) (by decide) (by decide) (by decide) _)
    have hrest := ih fuel (m := e) (fun x hx => h x (List.mem_cons_of_mem _ hx))
      (by rw [List.length_append]; omega)
    have hscan : (memberText layout level m ++ ',' :: (layout.gap level ++
          (memberText layout level e ++
            commaFront layout level (ms.map (memberText layout level))))).map some ++
          closing layout outer '\x7d' s =
        (memberText layout level m).map some ++ some ',' :: ((layout.gap level).map some ++
          ((memberText layout level e ++ commaFront layout level
            (ms.map (memberText layout level))).map some ++ closing layout outer '\x7d' s)) := by
      simp
    rw [hscan, members_memberText, hread]
    simp only [bind, Option.bind, skipSpace_cons (show isSpace (some ',') = false from rfl),
      members_gap, hrest]
    rfl

theorem value_bracket (fuel : Nat) (s : Scan) :
    value (fuel + 1) (some '[' :: s) =
      match skipSpace s with
      | some ']' :: r => some (.list [], r)
      | r => (items fuel r).map fun (ds, rest) => (.list ds, rest) := by
  rw [value, skipSpace_cons rfl]
  rfl

theorem value_brace (fuel : Nat) (s : Scan) :
    value (fuel + 1) (some '\x7b' :: s) =
      match skipSpace s with
      | some '\x7d' :: r => some (.record false [], r)
      | r => (members fuel r).map fun (ms, rest) => (.record false ms, rest) := by
  rw [value, skipSpace_cons rfl]
  rfl

/-- A printed list or record with anything in it, and what follows. -/
theorem scan_bracket (layout : Layout) (level : Nat) (left right : Char) (p : List Char)
    (ps : List (List Char)) (s : Scan) :
    (layout.bracket level left right (p :: ps)).map some ++ s =
      some left :: ((layout.gap (level + 1)).map some ++
        ((p ++ commaFront layout (level + 1) ps).map some ++ closing layout level right s)) := by
  simp [bracket_eq, closing]

theorem length_bracket (layout : Layout) (level : Nat) (left right : Char) (p : List Char)
    (ps : List (List Char)) :
    (p ++ commaFront layout (level + 1) ps).length + 1 <
      (layout.bracket level left right (p :: ps)).length := by
  simp [bracket_eq]
  omega

namespace ReadsBack

theorem null : ReadsBack layout .null := by
  intro level fuel s hfuel hs
  obtain ⟨fuel, rfl⟩ : ∃ f, fuel = f + 1 := ⟨fuel - 1, by simp [printAt] at hfuel; omega⟩
  rfl

theorem flag (b : Bool) : ReadsBack layout (.flag b) := by
  intro level fuel s hfuel hs
  obtain ⟨fuel, rfl⟩ : ∃ f, fuel = f + 1 :=
    ⟨fuel - 1, by cases b <;> simp [printAt] at hfuel <;> omega⟩
  cases b <;> rfl

theorem whole (n : Int) : ReadsBack layout (.whole n) := by
  intro level fuel s hfuel hs
  obtain ⟨c, cs, htext, hc⟩ := exists_ofInt n
  have hread := number_ofInt n hs
  rw [printAt] at hfuel ⊢
  rw [htext] at hfuel hread ⊢
  obtain ⟨fuel, rfl⟩ : ∃ f, fuel = f + 1 :=
    ⟨fuel - 1, by rw [List.length_cons] at hfuel; omega⟩
  rw [List.map_cons, List.cons_append] at hread ⊢
  rw [hc.value_eq, hread]

theorem text (t : String) : ReadsBack layout (.text t) := by
  intro level fuel s hfuel hs
  obtain ⟨fuel, rfl⟩ : ∃ f, fuel = f + 1 :=
    ⟨fuel - 1, by simp [printAt, quoted] at hfuel; omega⟩
  have hscan : (printAt layout level (.text t)).map some ++ s =
      some '"' :: ((t.toList.flatMap escape ++ ['"']).map some ++ s) := rfl
  rw [hscan, value, skipSpace_cons rfl]
  simp only [literal_quoted, Option.map_some, Option.elim_some]

/-- A list is read where its items are, which start with no bracket that ends it. -/
theorem list {ds : List Datum} (hplain : ∀ d ∈ ds, Plain d) (h : ∀ d ∈ ds, ReadsBack layout d) :
    ReadsBack layout (.list ds) := by
  intro level fuel s hfuel hs
  rw [printAt_list] at hfuel ⊢
  cases ds with
  | nil =>
    obtain ⟨fuel, rfl⟩ : ∃ f, fuel = f + 1 :=
      ⟨fuel - 1, by simp [printItems, Layout.bracket] at hfuel; omega⟩
    rfl
  | cons d ds =>
    rw [printItems] at hfuel ⊢
    have hlength := length_bracket layout level '[' ']' (printAt layout (level + 1) d)
      (printItems layout (level + 1) ds)
    obtain ⟨fuel, rfl⟩ : ∃ f, fuel = f + 1 := ⟨fuel - 1, by omega⟩
    have hread := items_printItems (level + 1) level fuel h s (by omega)
    obtain ⟨c, cs, hcs, hc⟩ := exists_printAt (hplain d List.mem_cons_self) layout (level + 1)
    rw [scan_bracket, value_bracket, skipSpace_gap]
    rw [hcs, List.cons_append, List.map_cons, List.cons_append] at hread ⊢
    rw [skipSpace_cons hc.solid]
    split
    · next heq => exact absurd (Option.some.inj (List.cons.inj heq).1) hc.bracket
    · rw [hread]
      rfl

/-- A record is read where its values are. -/
theorem object {ms : List (String × Datum)} (h : ∀ m ∈ ms, ReadsBack layout m.2) :
    ReadsBack layout (.object ms) := by
  intro level fuel s hfuel hs
  rw [printAt_object] at hfuel ⊢
  cases ms with
  | nil =>
    obtain ⟨fuel, rfl⟩ : ∃ f, fuel = f + 1 :=
      ⟨fuel - 1, by simp [Layout.bracket] at hfuel; omega⟩
    rfl
  | cons m ms =>
    rw [List.map_cons] at hfuel ⊢
    have hlength := length_bracket layout level '\x7b' '\x7d' (memberText layout (level + 1) m)
      (ms.map (memberText layout (level + 1)))
    obtain ⟨fuel, rfl⟩ : ∃ f, fuel = f + 1 := ⟨fuel - 1, by omega⟩
    have hread := members_memberTexts (level + 1) level fuel h s (by omega)
    obtain ⟨cs, hcs⟩ : ∃ cs, memberText layout (level + 1) m = '"' :: cs := ⟨_, rfl⟩
    rw [scan_bracket, value_brace, skipSpace_gap]
    rw [hcs, List.cons_append, List.map_cons, List.cons_append] at hread ⊢
    rw [skipSpace_cons rfl]
    split
    · next heq => exact absurd (Option.some.inj (List.cons.inj heq).1) (by decide)
    · rw [hread]
      rfl

end ReadsBack

/-- A plain datum is read as it was written. -/
theorem value_printAt (layout : Layout) {d : Datum} (h : Plain d) : ReadsBack layout d := by
  induction h with
  | null => exact .null
  | flag b => exact .flag b
  | whole n => exact .whole n
  | text t => exact .text t
  | list ds hds ih => exact .list hds ih
  | object ms hms ih => exact .object ih

/-- The text of a plain datum is read as that datum. -/
theorem read?_print (layout : Layout) {d : Datum} (h : Plain d) :
    read? (Scan.ofString (print layout d)) = some d := by
  have hread := value_printAt layout h 0 (2 * (Scan.ofString (print layout d)).length + 2) []
    (by simp [Scan.ofString, print]) .nil
  have hscan : Scan.ofString (print layout d) = (printAt layout 0 d).map some := by
    rw [Scan.ofString, print, String.toList_ofList]
  rw [List.append_nil, ← hscan] at hread
  simp only [read?, hread, bind, Option.bind]
  rfl

end Portcullis.Json
