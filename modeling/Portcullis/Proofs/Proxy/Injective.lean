import Portcullis.Proofs.Proxy.Made
import Portcullis.Proofs.Proxy.Row
import Mathlib.Data.List.Basic

/-!
# The text of a block tells the block

Two blocks with the same text are the same: nothing is lost when a block is written down.

* `Block.Tidy` are the blocks whose names are plain and whose directives say nothing that would end them.
  Map keys, map values, server names and addresses of pages may be any.
* `Piece.chars_append_inj` reads a pool, a map or a server off the text that begins with it.
* `Block.render_injective` is the main result.
-/

namespace Portcullis.Proxy

open Portcullis.Text

/-! ## Pools -/

/-- A pool with plain names. -/
structure Pool.Tidy (p : Pool) : Prop where
  name : IsPlain p.name
  directives : ∀ d ∈ p.directives, d.Tidy ∧ d.name ∉ reserved
  targets : ∀ t ∈ p.targets, IsPlain t

/-- What follows a word in an opening line. -/
theorem row_one_append (head : String) (x : List Char) :
    row 1 head ++ x = List.replicate 4 ' ' ++ (head.toList ++ '\n' :: x) := by
  simp [row]

theorem Pool.chars_append (p : Pool) (x : List Char) :
    chars p.lines ++ x = List.replicate 4 ' ' ++ ("upstream".toList ++ ' ' :: (p.name.toList ++
      ' ' :: '\x7b' :: '\n' :: (directiveCode.rows p.directives ++ (targetCode.rows p.targets ++
        (row 1 "\x7d" ++ x))))) := by
  rw [lines, chars_braced, List.append_assoc, List.append_assoc, row_one_append,
    List.flatMap_append, List.flatMap_map, List.flatMap_map, List.append_assoc]
  simp [LineCode.rows, directiveCode, targetCode, LineCode.spelt]

theorem Pool.chars_append_inj {p q : Pool} {x y : List Char} (hp : p.Tidy) (hq : q.Tidy)
    (h : chars p.lines ++ x = chars q.lines ++ y) : p = q ∧ x = y := by
  obtain ⟨name, directives, targets⟩ := p
  obtain ⟨name', directives', targets'⟩ := q
  rw [chars_append, chars_append] at h
  have hafter := (List.cons.inj (List.append_cancel_left (List.append_cancel_left h))).2
  obtain ⟨hname, -, hinner⟩ :=
    append_cons_inj hp.name.notSpecial hq.name.notSpecial rfl rfl hafter
  have hbody := (List.cons.inj (List.cons.inj hinner).2).2
  -- After the directives comes a target or the end.
  have hother : ∀ {ts : List String} {z : List Char}, (∀ t ∈ ts, IsPlain t) →
      ∀ d, directiveCode.ok d → ¬Leads 2 d.name (targetCode.rows ts ++ (row 1 "\x7d" ++ z)) := by
    intro ts z hts d hd hleads
    obtain ⟨t, -, hword⟩ := LineCode.word_of_leads_last (k := targetCode) hts hleads
    exact hd.2 (by rw [hword]; simp [targetCode, LineCode.spelt, reserved])
  obtain ⟨rfl, htargets⟩ := LineCode.rows_append_inj (k := directiveCode) hp.directives
    hq.directives (hother hp.targets) (hother hq.targets) hbody
  obtain ⟨rfl, hend⟩ := LineCode.rows_append_inj (k := targetCode) hp.targets hq.targets
    (fun _ _ => not_leads_close _ _) (fun _ _ => not_leads_close _ _) htargets
  obtain rfl : name = name' := String.toList_inj.mp hname
  exact ⟨rfl, List.append_cancel_left hend⟩

/-! ## Maps -/

/-- A map between plain variables, whose entries leave the reserved key alone. -/
structure Map.Tidy (m : Map) : Prop where
  input : IsPlain m.input
  output : IsPlain m.output
  keys : ∀ e ∈ m.entries, e.1 ≠ defaultKey

theorem Map.chars_append (m : Map) (x : List Char) :
    chars m.lines ++ x = List.replicate 4 ' ' ++ ("map".toList ++ ' ' :: (m.input.toList ++
      ' ' :: (m.output.toList ++ ' ' :: '\x7b' :: '\n' :: (entryCode.rows m.entries ++
        (fallbackCode.rows m.fallback.toList ++ (row 1 "\x7d" ++ x)))))) := by
  rw [lines, chars_braced, List.append_assoc, List.append_assoc, row_one_append,
    List.flatMap_append, List.flatMap_map, List.flatMap_map, List.append_assoc]
  simp [LineCode.rows, entryCode, fallbackCode, LineCode.spelt]

theorem Map.chars_append_inj {m n : Map} {x y : List Char} (hm : m.Tidy) (hn : n.Tidy)
    (h : chars m.lines ++ x = chars n.lines ++ y) : m = n ∧ x = y := by
  obtain ⟨input, output, entries, fallback⟩ := m
  obtain ⟨input', output', entries', fallback'⟩ := n
  rw [chars_append, chars_append] at h
  have hafter := (List.cons.inj (List.append_cancel_left (List.append_cancel_left h))).2
  obtain ⟨hinput, -, hmore⟩ :=
    append_cons_inj hm.input.notSpecial hn.input.notSpecial rfl rfl hafter
  obtain ⟨houtput, -, hinner⟩ :=
    append_cons_inj hm.output.notSpecial hn.output.notSpecial rfl rfl hmore
  have hbody := (List.cons.inj (List.cons.inj hinner).2).2
  -- After the entries comes the default value or the end.
  have hother : ∀ {vs : List String} {z : List Char} (e : String × String), entryCode.ok e →
      ¬Leads 2 e.1 (fallbackCode.rows vs ++ (row 1 "\x7d" ++ z)) := by
    intro vs z e he hleads
    obtain ⟨v, -, hword⟩ :=
      LineCode.word_of_leads_last (k := fallbackCode) (fun _ _ => trivial) hleads
    exact he hword
  obtain ⟨rfl, hfallback⟩ := LineCode.rows_append_inj (k := entryCode) hm.keys hn.keys hother hother
    hbody
  obtain ⟨hvalue, hend⟩ := LineCode.rows_append_inj (k := fallbackCode) (fun _ _ => trivial)
    (fun _ _ => trivial) (fun _ _ => not_leads_close _ _) (fun _ _ => not_leads_close _ _) hfallback
  obtain rfl : input = input' := String.toList_inj.mp hinput
  obtain rfl : output = output' := String.toList_inj.mp houtput
  obtain rfl : fallback = fallback' := by simpa using congrArg List.head? hvalue
  exact ⟨rfl, List.append_cancel_left hend⟩

/-! ## Servers -/

/-- A server with plain directives, whose error pages are for some codes. -/
structure Server.Tidy (s : Server) : Prop where
  directives : ∀ d ∈ s.directives, d.Tidy ∧ d.name ∉ reserved
  codes : ∀ p ∈ s.errorPages, p.codes ≠ []

theorem Server.chars_append (s : Server) (x : List Char) :
    chars s.lines ++ x = List.replicate 4 ' ' ++ ("server".toList ++ ' ' :: '\x7b' :: '\n' ::
      (row 2 (listenCode.line (s.port, s.isDefault)) ++ (serverNameCode.rows s.name.toList ++
        (directiveCode.rows s.directives ++ (errorPageCode.rows s.errorPages ++
          (row 1 "\x7d" ++ x)))))) := by
  rw [lines, chars_braced, List.append_assoc, List.append_assoc, row_one_append]
  simp [LineCode.rows, listenCode, serverNameCode, directiveCode, errorPageCode, LineCode.spelt,
    List.flatMap_map]

/-- After the directives of a server comes an error page or the end. -/
theorem not_leads_directive {ps : List ErrorPage} {d : Directive} {x : List Char}
    (hps : ∀ p ∈ ps, p.codes ≠ []) (hd : directiveCode.ok d) :
    ¬Leads 2 d.name (errorPageCode.rows ps ++ (row 1 "\x7d" ++ x)) := by
  intro hleads
  obtain ⟨p, -, hword⟩ := LineCode.word_of_leads_last (k := errorPageCode) hps hleads
  exact hd.2 (by rw [hword]; simp [errorPageCode, LineCode.spelt, reserved])

/-- After the name of a server comes a directive, an error page or the end. -/
theorem not_leads_serverName {ds : List Directive} {ps : List ErrorPage} {x : List Char}
    (hds : ∀ d ∈ ds, d.Tidy ∧ d.name ∉ reserved) (hps : ∀ p ∈ ps, p.codes ≠ []) :
    ¬Leads 2 "server_name" (directiveCode.rows ds ++ (errorPageCode.rows ps ++
      (row 1 "\x7d" ++ x))) := by
  intro hleads
  rcases LineCode.word_of_leads_rows (k := directiveCode) hds hleads with ⟨d, hd, hword⟩ | hrest
  · exact (hds d hd).2 (by rw [show d.name = _ from hword.symm]; simp [reserved])
  · obtain ⟨p, -, hpage⟩ := LineCode.word_of_leads_last (k := errorPageCode) hps hrest
    exact absurd hpage (by decide : "server_name" ≠ "error_page")

theorem Server.chars_append_inj {s t : Server} {x y : List Char} (hs : s.Tidy) (ht : t.Tidy)
    (h : chars s.lines ++ x = chars t.lines ++ y) : s = t ∧ x = y := by
  obtain ⟨port, isDefault, name, directives, errorPages⟩ := s
  obtain ⟨port', isDefault', name', directives', errorPages'⟩ := t
  rw [chars_append, chars_append] at h
  have hafter := (List.cons.inj (List.append_cancel_left (List.append_cancel_left h))).2
  have hbody := (List.cons.inj (List.cons.inj hafter).2).2
  obtain ⟨hlisten, hnames⟩ := LineCode.row_append_inj (k := listenCode) trivial trivial hbody
  obtain ⟨rfl, rfl⟩ := Prod.mk.inj hlisten
  obtain ⟨hname, hmore⟩ := LineCode.rows_append_inj (k := serverNameCode) (fun _ _ => trivial)
    (fun _ _ => trivial) (fun _ _ => not_leads_serverName hs.directives hs.codes)
    (fun _ _ => not_leads_serverName ht.directives ht.codes) hnames
  obtain ⟨rfl, hrest⟩ := LineCode.rows_append_inj (k := directiveCode) hs.directives ht.directives
    (fun _ => not_leads_directive hs.codes) (fun _ => not_leads_directive ht.codes) hmore
  obtain ⟨rfl, hend⟩ := LineCode.rows_append_inj (k := errorPageCode) hs.codes ht.codes
    (fun _ _ => not_leads_close _ _) (fun _ _ => not_leads_close _ _) hrest
  obtain rfl : name = name' := by simpa using congrArg List.head? hname
  exact ⟨rfl, List.append_cancel_left hend⟩

/-! ## Pieces of any kind -/

/-- A pool, a map or a server. -/
inductive Piece where
  | pool (p : Pool)
  | map (m : Map)
  | server (s : Server)

namespace Piece

def lines : Piece → List String
  | pool p => p.lines
  | map m => m.lines
  | server s => s.lines

def Tidy : Piece → Prop
  | pool p => p.Tidy
  | map m => m.Tidy
  | server s => s.Tidy

/-- The word that a piece opens with. -/
def word : Piece → String
  | pool _ => "upstream"
  | map _ => "map"
  | server _ => "server"

theorem chars_eq_word (p : Piece) (x : List Char) :
    ∃ rest, chars p.lines ++ x = List.replicate 4 ' ' ++ (p.word.toList ++ ' ' :: rest) := by
  cases p with
  | pool p => exact ⟨_, p.chars_append x⟩
  | map m => exact ⟨_, m.chars_append x⟩
  | server s => exact ⟨_, s.chars_append x⟩

theorem isPlain_word (p : Piece) : IsPlain p.word := by
  cases p with
  | pool => exact (by decide : IsPlain "upstream")
  | map => exact (by decide : IsPlain "map")
  | server => exact (by decide : IsPlain "server")

/-- A piece can be read off the text that begins with it. -/
theorem chars_append_inj {p q : Piece} {x y : List Char} (hp : p.Tidy) (hq : q.Tidy)
    (h : chars p.lines ++ x = chars q.lines ++ y) : p = q ∧ x = y := by
  obtain ⟨rest, hrest⟩ := p.chars_eq_word x
  obtain ⟨rest', hrest'⟩ := q.chars_eq_word y
  have hword : p.word = q.word := by
    have hheads := List.append_cancel_left (hrest.symm.trans (h.trans hrest'))
    exact String.toList_inj.mp (append_cons_inj p.isPlain_word.notSpecial q.isPlain_word.notSpecial
      rfl rfl hheads).1
  cases p with
  | pool p =>
    cases q with
    | pool q =>
      obtain ⟨rfl, hend⟩ := Pool.chars_append_inj hp hq h
      exact ⟨rfl, hend⟩
    | map | server => exact absurd hword (by simp [word])
  | map m =>
    cases q with
    | map n =>
      obtain ⟨rfl, hend⟩ := Map.chars_append_inj hp hq h
      exact ⟨rfl, hend⟩
    | pool | server => exact absurd hword (by simp [word])
  | server s =>
    cases q with
    | server t =>
      obtain ⟨rfl, hend⟩ := Server.chars_append_inj hp hq h
      exact ⟨rfl, hend⟩
    | pool | map => exact absurd hword (by simp [word])

/-- A piece opens a block before it ends a line. -/
theorem opens {p : Piece} (hp : p.Tidy) (x : List Char) :
    ∃ front rest, (∀ c ∈ front, endsLine c = false) ∧
      chars p.lines ++ x = List.replicate 4 ' ' ++ (front ++ '\x7b' :: rest) := by
  have hblank : endsLine ' ' = false := by decide
  cases p with
  | pool p =>
    refine ⟨"upstream".toList ++ ' ' :: (p.name.toList ++ [' ']), _, ?_,
      (p.chars_append x).trans (by simp; rfl)⟩
    simp only [List.forall_mem_append, List.forall_mem_cons]
    exact ⟨by decide, hblank, hp.name.endsNoLine, by decide⟩
  | map m =>
    refine ⟨"map".toList ++ ' ' :: (m.input.toList ++ ' ' :: (m.output.toList ++ [' '])), _, ?_,
      (m.chars_append x).trans (by simp; rfl)⟩
    simp only [List.forall_mem_append, List.forall_mem_cons]
    exact ⟨by decide, hblank, hp.input.endsNoLine, hblank, hp.output.endsNoLine, by decide⟩
  | server s =>
    exact ⟨"server ".toList, _, by decide, (s.chars_append x).trans (by simp; rfl)⟩

/-- Pieces behind others, each after an empty line. -/
def further (ps : List Piece) : List Char :=
  ps.flatMap fun p => '\n' :: chars p.lines

theorem further_append_inj {ps qs : List Piece} {x y : List Char} (hp : ∀ p ∈ ps, p.Tidy)
    (hq : ∀ q ∈ qs, q.Tidy) (h : further ps ++ '\x7d' :: x = further qs ++ '\x7d' :: y) :
    ps = qs := by
  refine (flatMap_append_inj (P := Tidy) (fun p q x y hp hq hpq => ?_) hp hq ?_ ?_ h).1
  · exact chars_append_inj hp hq (List.cons.inj hpq).2
  · exact fun _ _ _ heq => absurd (List.cons.inj heq).1 (by decide)
  · exact fun _ _ _ heq => absurd (List.cons.inj heq).1 (by decide)

end Piece

/-! ## Blocks -/

/-- The block's own directives, as they are written. -/
def varRows (ds : List Directive) : List Char :=
  ds.flatMap fun d => row 1 d.line

theorem chars_vars (ds : List Directive) :
    chars (ds.map fun d => indent 1 d.line) = varRows ds := by
  rw [varRows, ← List.flatMap_map, ← chars_map_indent, List.map_map]
  rfl

/-- A directive ends its line before it opens a block. -/
theorem Directive.Tidy.ends {d : Directive} (h : d.Tidy) (x : List Char) :
    ∃ front rest, (∀ c ∈ front, endsLine c = false) ∧
      row 1 d.line ++ x = List.replicate 4 ' ' ++ (front ++ ';' :: rest) := by
  rw [row_one_append, d.toList_line, List.append_assoc]
  unfold Directive.more
  split
  · exact ⟨d.name.toList, _, h.name.endsNoLine, rfl⟩
  · refine ⟨d.name.toList ++ ' ' :: d.value.toList, _, ?_, by simp; rfl⟩
    simp only [List.forall_mem_append, List.forall_mem_cons]
    exact ⟨h.name.endsNoLine, by decide, h.value⟩

theorem row_one_append_inj {d e : Directive} {x y : List Char} (hd : d.Tidy) (he : e.Tidy)
    (h : row 1 d.line ++ x = row 1 e.line ++ y) : d = e ∧ x = y := by
  rw [row_one_append, row_one_append] at h
  obtain ⟨rfl, hend⟩ := Directive.line_append_inj hd he (List.append_cancel_left h)
  exact ⟨rfl, (List.cons.inj hend).2⟩

/-- The block's own directives can be read off, where no blank follows. -/
theorem varRows_append_inj {ds es : List Directive} {s t : Char} {x y : List Char}
    (hd : ∀ d ∈ ds, d.Tidy) (he : ∀ e ∈ es, e.Tidy) (hs : s ≠ ' ') (ht : t ≠ ' ')
    (h : varRows ds ++ s :: x = varRows es ++ t :: y) : ds = es ∧ s :: x = t :: y := by
  refine flatMap_append_inj (P := Directive.Tidy) (fun d e x y hd he => row_one_append_inj hd he)
    hd he (fun d z _ hz => ?_) (fun d z _ hz => ?_) h
  · rw [row_one_append] at hz
    exact hs (List.cons.inj hz).1.symm
  · rw [row_one_append] at hz
    exact ht (List.cons.inj hz).1.symm

namespace Block

/-- A block with plain names, whose directives say nothing that would end them. -/
structure Tidy (b : Block) : Prop where
  vars : ∀ d ∈ b.vars, d.Tidy
  pools : ∀ p ∈ b.pools, p.Tidy
  maps : ∀ m ∈ b.maps, IsPlain m.input ∧ IsPlain m.output
  directives : ∀ s ∈ b.servers, ∀ d ∈ s.directives, d.Tidy ∧ d.name ∉ reserved

def pieces (b : Block) : List Piece :=
  b.pools.map .pool ++ b.maps.map .map ++ b.servers.map .server

theorem tidy_of_mem_pieces {b : Block} (h : b.Tidy) (hc : b.Checked) : ∀ p ∈ b.pieces, p.Tidy := by
  intro p hp
  simp only [pieces, List.mem_append, List.mem_map] at hp
  rcases hp with (⟨p, hp, rfl⟩ | ⟨m, hm, rfl⟩) | ⟨s, hs, rfl⟩
  · exact h.pools p hp
  · exact ⟨(h.maps m hm).1, (h.maps m hm).2, hc.keys m hm⟩
  · exact ⟨h.directives s hs, hc.codes s hs⟩

/-- The pieces of a block tell its pools, maps and servers. -/
theorem eq_of_pieces_eq {b b' : Block} (hkind : b.kind = b'.kind) (hvars : b.vars = b'.vars)
    (h : b.pieces = b'.pieces) : b = b' := by
  have hpools : b.pools = b'.pools := by
    simpa [pieces, List.filterMap_append, List.filterMap_map, Function.comp_def] using
      congrArg (List.filterMap fun p => match p with | .pool p => some p | _ => none) h
  have hmaps : b.maps = b'.maps := by
    simpa [pieces, List.filterMap_append, List.filterMap_map, Function.comp_def] using
      congrArg (List.filterMap fun p => match p with | .map m => some m | _ => none) h
  have hservers : b.servers = b'.servers := by
    simpa [pieces, List.filterMap_append, List.filterMap_map, Function.comp_def] using
      congrArg (List.filterMap fun p => match p with | .server s => some s | _ => none) h
  cases b
  cases b'
  simp_all

theorem parts_eq (b : Block) :
    b.parts = (if b.vars.isEmpty then [] else [b.vars.map fun d => indent 1 d.line]) ++
      b.pieces.map Piece.lines := by
  simp [parts, pieces, Function.comp_def, Piece.lines]

/-- Parts with empty lines between them. -/
theorem chars_intersperse (part : List String) (parts : List (List String)) :
    chars ((part :: parts).intersperse [""]).flatten =
      chars part ++ parts.flatMap fun p => '\n' :: chars p := by
  induction parts generalizing part with
  | nil => simp [chars]
  | cons next rest ih =>
    rw [List.intersperse_cons_cons, List.flatten_cons, List.flatten_cons, List.flatMap_cons]
    rw [← List.append_assoc, chars, List.flatMap_append, ← chars, ← chars, ih]
    simp [chars]

/-- What stands between the braces of a block with directives and pieces. -/
def body : List Directive → List Piece → List Char
  | [], [] => []
  | [], p :: ps => chars p.lines ++ Piece.further ps
  | d :: ds, ps => varRows (d :: ds) ++ Piece.further ps

theorem chars_parts (b : Block) :
    chars (b.parts.intersperse [""]).flatten = body b.vars b.pieces := by
  rw [parts_eq]
  cases b.vars with
  | nil =>
    cases b.pieces with
    | nil => rfl
    | cons p ps =>
      rw [List.isEmpty_nil, if_pos rfl, List.nil_append, List.map_cons, chars_intersperse,
        List.flatMap_map]
      rfl
  | cons d ds =>
    rw [List.isEmpty_cons, if_neg Bool.false_ne_true, List.singleton_append, chars_intersperse,
      List.flatMap_map, chars_vars]
    rfl

theorem toList_render (b : Block) :
    b.render.toList = header.toList ++ '\n' :: (b.kind.name.toList ++ ' ' :: '\x7b' :: '\n' ::
      (body b.vars b.pieces ++ ['\x7d', '\n'])) := by
  rw [render, toList_unlines, lines, ← chars_parts]
  simp [chars]

/-- No blank stands after the block's own directives. -/
theorem further_eq_cons (ps : List Piece) :
    ∃ s rest, s ≠ ' ' ∧ Piece.further ps ++ ['\x7d', '\n'] = s :: rest := by
  cases ps with
  | nil => exact ⟨'\x7d', ['\n'], by decide, rfl⟩
  | cons p ps => exact ⟨'\n', _, by decide, rfl⟩

/-- A block without directives of its own has not the text of one that has some. -/
theorem body_nil_append_ne {ps : List Piece} {d : Directive} (hp : ∀ p ∈ ps, p.Tidy) (hd : d.Tidy)
    (x : List Char) : body [] ps ++ ['\x7d', '\n'] ≠ row 1 d.line ++ x := by
  obtain ⟨front, rest, hfront, hrow⟩ := hd.ends x
  rw [hrow]
  intro heq
  cases ps with
  | nil => cases (List.cons.inj heq).1
  | cons p ps =>
    obtain ⟨front', rest', hfront', hpiece⟩ :=
      Piece.opens (hp p List.mem_cons_self) (Piece.further ps ++ ['\x7d', '\n'])
    rw [body, List.append_assoc, hpiece] at heq
    have hends := append_cons_inj hfront' hfront rfl rfl (List.append_cancel_left heq)
    exact absurd hends.2.1 (by decide)

/-- Without directives, pieces open with a blank where there are any. -/
theorem body_nil_append_cons_ne {p : Piece} {ps : List Piece} (hp : p.Tidy) (x : List Char) :
    body [] (p :: ps) ++ x ≠ body [] [] ++ ['\x7d', '\n'] := by
  obtain ⟨front, rest, -, hpiece⟩ := Piece.opens hp (Piece.further ps ++ x)
  rw [body, body, List.append_assoc, hpiece]
  intro h
  cases (List.cons.inj h).1

theorem body_nil_append_inj {ps qs : List Piece} (hp : ∀ p ∈ ps, p.Tidy) (hq : ∀ q ∈ qs, q.Tidy)
    (h : body [] ps ++ ['\x7d', '\n'] = body [] qs ++ ['\x7d', '\n']) : ps = qs := by
  cases ps with
  | nil =>
    cases qs with
    | nil => rfl
    | cons q qs => exact absurd h.symm (body_nil_append_cons_ne (hq q List.mem_cons_self) _)
  | cons p ps =>
    cases qs with
    | nil => exact absurd h (body_nil_append_cons_ne (hp p List.mem_cons_self) _)
    | cons q qs =>
      obtain ⟨hpTidy, hps⟩ := List.forall_mem_cons.mp hp
      obtain ⟨hqTidy, hqs⟩ := List.forall_mem_cons.mp hq
      rw [body, body, List.append_assoc, List.append_assoc] at h
      obtain ⟨rfl, hrest⟩ := Piece.chars_append_inj hpTidy hqTidy h
      exact congrArg _ (Piece.further_append_inj hps hqs hrest)

/-- What stands between the braces tells the directives and the pieces. -/
theorem body_append_inj {ds es : List Directive} {ps qs : List Piece} (hd : ∀ d ∈ ds, d.Tidy)
    (he : ∀ e ∈ es, e.Tidy) (hp : ∀ p ∈ ps, p.Tidy) (hq : ∀ q ∈ qs, q.Tidy)
    (h : body ds ps ++ ['\x7d', '\n'] = body es qs ++ ['\x7d', '\n']) : ds = es ∧ ps = qs := by
  cases ds with
  | nil =>
    cases es with
    | nil => exact ⟨rfl, body_nil_append_inj hp hq h⟩
    | cons e es =>
      refine absurd h ?_
      rw [body, varRows, List.flatMap_cons, List.append_assoc, List.append_assoc]
      exact body_nil_append_ne hp (he e List.mem_cons_self) _
  | cons d ds =>
    cases es with
    | nil =>
      refine absurd h.symm ?_
      rw [body, varRows, List.flatMap_cons, List.append_assoc, List.append_assoc]
      exact body_nil_append_ne hq (hd d List.mem_cons_self) _
    | cons e es =>
      obtain ⟨s, rest, hs, hrest⟩ := further_eq_cons ps
      obtain ⟨s', rest', hs', hrest'⟩ := further_eq_cons qs
      rw [body, body, List.append_assoc, List.append_assoc, hrest, hrest'] at h
      obtain ⟨hvars, hmore⟩ := varRows_append_inj hd he hs hs' h
      exact ⟨hvars, Piece.further_append_inj hp hq (hrest.trans (hmore.trans hrest'.symm))⟩

/-- Two blocks that were put together from plain names, and have the same text, are the same. -/
theorem render_injective {b b' : Block} (hb : b.Made) (hb' : b'.Made) (h : b.Tidy) (h' : b'.Tidy)
    (heq : b.render = b'.render) : b = b' := by
  have hchars := congrArg String.toList heq
  rw [toList_render, toList_render] at hchars
  have hblock := (List.cons.inj (List.append_cancel_left hchars)).2
  have hplain : ∀ kind : BlockKind, ∀ c ∈ kind.name.toList, isSpecial c = false := by
    intro kind
    cases kind <;> decide
  obtain ⟨hkind, -, hinner⟩ := append_cons_inj (hplain b.kind) (hplain b'.kind) rfl rfl hblock
  have hname : b.kind.name = b'.kind.name := String.toList_inj.mp hkind
  obtain ⟨hvars, hpieces⟩ := body_append_inj h.vars h'.vars
    (tidy_of_mem_pieces h hb.checked) (tidy_of_mem_pieces h' hb'.checked)
    (List.cons.inj (List.cons.inj hinner).2).2
  refine eq_of_pieces_eq ?_ hvars hpieces
  cases hb : b.kind <;> cases hb' : b'.kind <;> simp [hb, hb', BlockKind.name] at hname ⊢

/-- A pool with a balancing directive, still without targets. -/
def oddPool : Pool :=
  (Pool.named "p").balanced (some "least_conn")

/-- A map with a key of two lines. -/
def oddMap : Map :=
  ⟨"$in", "$out", [("a b", "p"), ("say \"hi\";\n", "\\p")], some ""⟩

/-- A server with an empty name and a page for two codes. -/
def oddServer : Server :=
  ⟨443, true, some "", [⟨"set", "$x  1"⟩], [⟨[500, 502], "/bad gateway"⟩]⟩

/-- A block of these pieces, whose pool may have targets. -/
def oddBlock (targets : List String) : Block :=
  ⟨.stream, [⟨"js_import", "x.js"⟩], [{ oddPool with targets := targets }], [oddMap], [oddServer]⟩

theorem made_oddMap : oddMap.Made := by
  have hone : (Map.between "$in" "$out").addEntry "a b" "p" =
      .ok ⟨"$in", "$out", [("a b", "p")], none⟩ := by decide
  have htwo : Map.addEntry ⟨"$in", "$out", [("a b", "p")], none⟩ "say \"hi\";\n" "\\p" =
      .ok { oddMap with fallback := none } := by decide
  exact .setDefault (.addEntry (.addEntry (.between "$in" "$out") hone) htwo) rfl

theorem made_oddBlock {targets : List String} : (oddBlock targets).Made := by
  have hvars : (empty .stream).addVariable "js_import" "x.js" =
      .ok ⟨.stream, [⟨"js_import", "x.js"⟩], [], [], []⟩ := by decide
  have hpools : Block.addPool ⟨.stream, [⟨"js_import", "x.js"⟩], [], [], []⟩
      { oddPool with targets := targets } =
      .ok (true, { oddBlock targets with maps := [], servers := [] }) := rfl
  have hmaps : Block.addMap { oddBlock targets with maps := [], servers := [] } oddMap =
      .ok { oddBlock targets with servers := [] } := rfl
  have hservers : Block.addServer { oddBlock targets with servers := [] } oddServer =
      .ok (oddBlock targets) := rfl
  exact .addServer (.addMap (.addPool (.addVariable (.empty .stream) hvars) hpools) made_oddMap
    hmaps) hservers

theorem tidy_oddBlock {targets : List String} (h : ∀ t ∈ targets, IsPlain t) :
    (oddBlock targets).Tidy where
  vars := by
    simp only [oddBlock, List.forall_mem_singleton]
    exact ⟨by decide, by decide⟩
  pools := by
    simp only [oddBlock, List.forall_mem_singleton]
    refine ⟨(by decide : IsPlain "p"), ?_, h⟩
    intro d hd
    obtain rfl : d = ⟨"least_conn", ""⟩ := List.mem_singleton.mp hd
    exact ⟨⟨by decide, by decide⟩, by decide⟩
  maps := by
    simp only [oddBlock, oddMap, List.forall_mem_singleton]
    exact ⟨by decide, by decide⟩
  directives := by
    simp only [oddBlock, oddServer, List.forall_mem_singleton]
    exact ⟨⟨by decide, by decide⟩, by decide⟩

/-- A target that is added to a pool in the block or before makes one text and one block. -/
theorem render_injective_lateTarget :
    ((oddBlock []).addTarget "p" "10.0.0.1:1").render = (oddBlock ["10.0.0.1:1"]).render ∧
      (oddBlock []).addTarget "p" "10.0.0.1:1" = oddBlock ["10.0.0.1:1"] := by
  have hplain : ∀ t ∈ ["10.0.0.1:1"], IsPlain t := by decide
  have htext : ((oddBlock []).addTarget "p" "10.0.0.1:1").render =
      (oddBlock ["10.0.0.1:1"]).render := rfl
  have htidy : ((oddBlock []).addTarget "p" "10.0.0.1:1").Tidy := tidy_oddBlock hplain
  exact ⟨htext, render_injective (.addTarget made_oddBlock "p" "10.0.0.1:1") made_oddBlock htidy
    (tidy_oddBlock hplain) htext⟩

end Block

end Portcullis.Proxy
