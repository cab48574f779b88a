import Portcullis.Text.Blank

/-!
# Texts in TOML

The four ways to write a text: between quotes or apostrophes, on one line or, in threes, across
lines.

* Between quotes a backslash starts an escape; between apostrophes everything stands for itself.
* A text across lines loses a line break right after its opening, ends its lines with a bare line
  feed, and may hold up to two of its own marks before the closing three.
* Each reader starts after the opening marks and gives the text with what follows it.
-/

namespace Portcullis.Toml

/-- A character that may stand for itself: a tab, or no control character. -/
def isPlain (c : Char) : Bool :=
  c == '\t' || (' ' ≤ c && c != '\x7f')

/-- The blanks that may stand within a line. -/
def isSpace (c : Char) : Bool :=
  c == ' ' || c == '\t'

def skipSpace (s : List Char) : List Char :=
  s.dropWhile isSpace

/-- What follows a line break at the front. -/
def lineBreak? : List Char → Option (List Char)
  | '\n' :: r => some r
  | '\r' :: '\n' :: r => some r
  | _ => none

/-- Leaves out blanks and line breaks. -/
def skipLines : List Char → List Char
  | ' ' :: r => skipLines r
  | '\t' :: r => skipLines r
  | '\n' :: r => skipLines r
  | '\r' :: '\n' :: r => skipLines r
  | s => s

theorem length_skipSpace (s : List Char) : (skipSpace s).length ≤ s.length :=
  (List.dropWhile_sublist isSpace).length_le

theorem length_lineBreak? {s r : List Char} (h : lineBreak? s = some r) :
    r.length < s.length := by
  unfold lineBreak? at h
  split at h
  · cases h
    exact Nat.lt_succ_self _
  · cases h
    exact Nat.lt_add_of_pos_right Nat.two_pos
  · cases h

theorem length_skipLines (s : List Char) : (skipLines s).length ≤ s.length := by
  fun_induction skipLines s with
  | case1 r ih | case2 r ih | case3 r ih =>
    exact Nat.le_trans ih (Nat.le_succ _)
  | case4 r ih =>
    exact Nat.le_trans ih (Nat.le_add_right _ 2)
  | case5 => exact Nat.le_refl _

/-! ## Escapes -/

def hexValue (c : Char) : Nat :=
  if c.isDigit then c.toNat - 48 else if 'a' ≤ c then c.toNat - 87 else c.toNat - 55

def isHexDigit (c : Char) : Bool :=
  c.isDigit || ('a' ≤ c && c ≤ 'f') || ('A' ≤ c && c ≤ 'F')

/-- The character whose code point is written in a number of hexadecimal digits. -/
def codePoint? (width : Nat) (s : List Char) : Option Char :=
  let ds := s.take width
  let n := ds.foldl (fun n c => 16 * n + hexValue c) 0
  if ds.length = width ∧ ds.all isHexDigit ∧ n.isValidChar then some (Char.ofNat n) else none

/-- The character that an escape stands for, and how much of the text after the backslash the
escape takes. -/
def escape? : List Char → Option (Char × Nat)
  | 'b' :: _ => some ('\x08', 1)
  | 'f' :: _ => some ('\x0c', 1)
  | 'n' :: _ => some ('\n', 1)
  | 'r' :: _ => some ('\r', 1)
  | 't' :: _ => some ('\t', 1)
  | '"' :: _ => some ('"', 1)
  | '\\' :: _ => some ('\\', 1)
  | 'u' :: r => (codePoint? 4 r).map (·, 5)
  | 'U' :: r => (codePoint? 8 r).map (·, 9)
  | _ => none

/-- What follows a backslash that hides a line break with the blanks around it. -/
def hiddenBreak? (s : List Char) : Option (List Char) :=
  (lineBreak? (skipSpace s)).map skipLines

theorem length_hiddenBreak? {s r : List Char} (h : hiddenBreak? s = some r) :
    r.length < s.length := by
  obtain ⟨u, hu, rfl⟩ := Option.map_eq_some_iff.1 h
  have h₁ := length_lineBreak? hu
  have h₂ := length_skipSpace s
  have h₃ := length_skipLines u
  omega

/-! ## Texts on one line -/

/-- A text between quotes. -/
def basic (s : List Char) : Option (List Char × List Char) :=
  match s with
  | [] => none
  | c :: r =>
    if c == '"' then some ([], r)
    else if c == '\\' then do
      let (e, n) ← escape? r
      let (cs, rest) ← basic (r.drop n)
      return (e :: cs, rest)
    else if isPlain c then do
      let (cs, rest) ← basic r
      return (c :: cs, rest)
    else none
termination_by s.length
decreasing_by
  · simp only [List.length_drop, List.length_cons]; omega
  · simp

/-- A text between apostrophes. -/
def literal : List Char → Option (List Char × List Char)
  | [] => none
  | c :: r =>
    if c == '\'' then some ([], r)
    else if isPlain c then do
      let (cs, rest) ← literal r
      return (c :: cs, rest)
    else none

/-! ## Texts across lines -/

/-- The end of a text whose closing marks have been passed: up to two more marks belong to it. -/
def closing (mark : Char) (r : List Char) : List Char × List Char :=
  let more := (r.takeWhile (· == mark)).take 2
  (more, r.drop more.length)

/-- A text between quotes in threes, from within. -/
def basicBlock (s : List Char) : Option (List Char × List Char) :=
  match s with
  | [] => none
  | '"' :: '"' :: '"' :: r => some (closing '"' r)
  | c :: r =>
    if c == '\\' then
      match h : hiddenBreak? r with
      | some r =>
        have := length_hiddenBreak? h
        basicBlock r
      | none => do
        let (e, n) ← escape? r
        let (cs, rest) ← basicBlock (r.drop n)
        return (e :: cs, rest)
    else if isPlain c then do
      let (cs, rest) ← basicBlock r
      return (c :: cs, rest)
    else
      match h : lineBreak? (c :: r) with
      | some r =>
        have := length_lineBreak? h
        do
          let (cs, rest) ← basicBlock r
          return ('\n' :: cs, rest)
      | none => none
termination_by s.length
decreasing_by
  · simp_all; omega
  · simp only [List.length_drop, List.length_cons]; omega
  · simp
  · simp_all

/-- A text between apostrophes in threes, from within. -/
def literalBlock : List Char → Option (List Char × List Char)
  | [] => none
  | '\'' :: '\'' :: '\'' :: r => some (closing '\'' r)
  | '\r' :: '\n' :: r => do
    let (cs, rest) ← literalBlock r
    return ('\n' :: cs, rest)
  | c :: r =>
    if isPlain c || c == '\n' then do
      let (cs, rest) ← literalBlock r
      return (c :: cs, rest)
    else none

/-- Leaves out a line break at the front. -/
def dropBreak (s : List Char) : List Char :=
  (lineBreak? s).getD s

/-- A text of any kind, from its opening marks on. -/
def quoted : List Char → Option (List Char × List Char)
  | '"' :: '"' :: '"' :: r => basicBlock (dropBreak r)
  | '"' :: r => basic r
  | '\'' :: '\'' :: '\'' :: r => literalBlock (dropBreak r)
  | '\'' :: r => literal r
  | _ => none

end Portcullis.Toml
