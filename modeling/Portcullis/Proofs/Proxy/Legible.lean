import Portcullis.Proofs.Proxy.Grammar
import Portcullis.Proofs.Proxy.Injective
import Mathlib.Data.List.Basic

/-!
# What the proxy reads in a block

The text of a block, read by the rules of the grammar, is the block, as long as the tokens that are
written as they are can be read as they are.

* `Block.clause` is a block as the grammar knows it, with one clause for each piece.
* `Block.Legible` says which tokens have to be bare.  Map keys, map values, server names and
  addresses of pages may be any that `IsQuotable` lets through.
* `Block.read?_render` is the main result.
-/

namespace Portcullis.Proxy

open Portcullis.Text
open Grammar

/-! ## Pieces as clauses -/

/-- The tokens of a directive's value. -/
def Directive.args (d : Directive) : List String :=
  if d.value = "" then [] else (d.value.toList.splitOn ' ').map String.ofList

def Directive.clause (d : Directive) : Clause :=
  .line d.name d.args

def Pool.clause (p : Pool) : Clause :=
  .block "upstream" [p.name]
    (p.directives.map Directive.clause ++ p.targets.map fun t => .line "server" [t])

def Map.clause (m : Map) : Clause :=
  .block "map" [m.input, m.output]
    (m.entries.map (fun e => .line e.1 [e.2]) ++
      m.fallback.toList.map fun v => .line defaultKey [v])

def ErrorPage.clause (p : ErrorPage) : Clause :=
  .line "error_page" (p.codes.map (fun c => Decimal.ofNat c.toNat) ++ [p.uri])

def Server.clause (s : Server) : Clause :=
  .block "server" []
    (.line "listen" (Decimal.ofInt s.port :: if s.isDefault then ["default_server"] else []) ::
      s.name.toList.map (fun name => .line "server_name" [name]) ++
      s.directives.map Directive.clause ++ s.errorPages.map ErrorPage.clause)

def Block.clause (b : Block) : Clause :=
  .block b.kind.name []
    (b.vars.map Directive.clause ++ b.pools.map Pool.clause ++ b.maps.map Map.clause ++
      b.servers.map Server.clause)

/-! ## Lines -/

/-- A directive whose name and whose tokens are bare. -/
structure Directive.Legible (d : Directive) : Prop where
  name : IsBare d.name
  args : ∀ a ∈ d.args, IsBare a

theorem Directive.toList_line_args (d : Directive) :
    d.line.toList = d.name.toList ++ d.args.flatMap (fun a => ' ' :: a.toList) ++ [';'] := by
  rw [d.toList_line, Directive.more, Directive.args]
  split
  · rw [List.flatMap_nil, List.append_nil]
  · have hvalue := cons_intercalate ' ' (List.splitOn_ne_nil ' ' d.value.toList)
    rw [List.intercalate_splitOn] at hvalue
    rw [List.flatMap_map, List.append_assoc]
    simp only [String.toList_ofList]
    rw [← hvalue, List.cons_append]

theorem Directive.Legible.lexesTo {d : Directive} (h : d.Legible) :
    LexesTo d.line.toList d.clause.tokens := by
  rw [d.toList_line_args, Directive.clause, Clause.tokens]
  exact lexesTo_bareLine h.name h.args (by decide)

/-- A directive of bare tokens. -/
theorem Directive.legible_of_tokens {name : String} {ts : List String} (hname : IsBare name)
    (hts : ∀ t ∈ ts, IsBare t) : Directive.Legible ⟨name, " ".intercalate ts⟩ := by
  refine ⟨hname, fun a ha => ?_⟩
  unfold args at ha
  split at ha
  · cases ha
  · next hvalue =>
    have hne : ts.map String.toList ≠ [] := by
      intro hnil
      rw [List.map_eq_nil_iff.mp hnil] at hvalue
      exact hvalue rfl
    have hblank : ∀ l ∈ ts.map String.toList, ' ' ∉ l := by
      intro l hl hmem
      obtain ⟨t, ht, rfl⟩ := List.mem_map.mp hl
      exact absurd ((hts t ht).inner ' ' hmem) (by decide)
    rw [String.toList_intercalate, show " ".toList = [' '] from rfl,
      List.splitOn_intercalate ' ' hblank hne, List.map_map] at ha
    obtain ⟨t, ht, rfl⟩ := List.mem_map.mp ha
    simpa using hts t ht

theorem Directive.legible_of_token {name t : String} (hname : IsBare name) (ht : IsBare t) :
    Directive.Legible ⟨name, t⟩ :=
  legible_of_tokens hname (List.forall_mem_singleton.mpr ht)

theorem lexesTo_target {t : String} (h : IsBare t) :
    LexesTo ("server " ++ t ++ ";").toList (Clause.line "server" [t]).tokens := by
  have hargs : ∀ u ∈ [t], IsBare u := by simpa using h
  have hline := lexesTo_bareLine (t := "server") (by decide) hargs (by decide : separates ';' = true)
  simpa [Clause.tokens] using hline

theorem lexesTo_entry {k v : String} (hk : IsQuotable k) (hv : IsQuotable v) :
    LexesTo (quoted k ++ " " ++ quoted v ++ ";").toList (Clause.line k [v]).tokens := by
  have hline := (spells_quoted hk ' ' (by decide)).append (spells_quoted hv ';' (by decide))
  simpa [Clause.tokens] using hline

/-- A word that stands for itself, before a token in quotes. -/
theorem lexesTo_named {word : String} (hword : IsBare word) {v : String} (hv : IsQuotable v) :
    LexesTo (word.toList ++ ' ' :: ((quoted v).toList ++ [';']))
      (Clause.line word [v]).tokens := by
  have hline := (hword.spells ' ' (by decide)).append (spells_quoted hv ';' (by decide))
  simpa [Clause.tokens] using hline

theorem isBare_ofNat (n : Nat) : IsBare (Decimal.ofNat n) := by
  refine isBare_of_isPlain (isPlain_ofNat n) fun h => ?_
  rw [Decimal.ofNat, String.toList_ofList] at h
  exact absurd (Decimal.isDigit_of_mem_digits h) (by decide)

theorem isBare_ofInt (n : Int) : IsBare (Decimal.ofInt n) := by
  unfold Decimal.ofInt
  split
  · exact IsBare.append (by decide) (isBare_ofNat n.natAbs).inner
  · exact isBare_ofNat n.natAbs

theorem lexesTo_listen (s : Server) :
    LexesTo ("listen " ++ Decimal.ofInt s.port ++
        (if s.isDefault then " default_server;" else ";")).toList
      (Clause.line "listen"
        (Decimal.ofInt s.port :: if s.isDefault then ["default_server"] else [])).tokens := by
  have hargs : ∀ u ∈ Decimal.ofInt s.port :: (if s.isDefault then ["default_server"] else []),
      IsBare u := by
    rw [List.forall_mem_cons]
    refine ⟨isBare_ofInt s.port, ?_⟩
    split
    · exact List.forall_mem_singleton.mpr (by decide)
    · exact nofun
  have hline := lexesTo_bareLine (t := "listen") (by decide) hargs (by decide : separates ';' = true)
  cases hdefault : s.isDefault <;> simpa [hdefault, Clause.tokens] using hline

theorem ErrorPage.lexesTo_line {p : ErrorPage} (hcodes : p.codes ≠ []) (huri : IsQuotable p.uri) :
    LexesTo p.line.toList p.clause.tokens := by
  have hbare : ∀ t ∈ p.codes.map fun c => Decimal.ofNat c.toNat, IsBare t := by
    intro t ht
    obtain ⟨c, -, rfl⟩ := List.mem_map.mp ht
    exact isBare_ofNat c.toNat
  have hne : (p.codes.map fun c => (Decimal.ofNat c.toNat).toList) ≠ [] :=
    List.map_eq_nil_iff.not.mpr hcodes
  have hline := (lexesTo_bareLine (t := "error_page") (by decide) hbare
    (by decide : separates ' ' = true)).append (spells_quoted huri ';' (by decide))
  rw [List.flatMap_map, ← List.flatMap_map (fun c : UInt16 => (Decimal.ofNat c.toNat).toList),
    ← cons_intercalate ' ' hne] at hline
  simpa [ErrorPage.line, ErrorPage.clause, Clause.tokens, Function.comp_def] using hline

/-! ## Rows -/

theorem lexesTo_row (level : Nat) {line : String} {ts : List Token} (h : LexesTo line.toList ts) :
    LexesTo (row level line) ts := by
  have hrow := (lexesTo_blanks (4 * level)).append
    (h.append (lexesTo_separator (by decide : separates '\n' = true)))
  simpa [row, mark] using hrow

/-- Rows that are clauses, one for each element of a list. -/
theorem lexesTo_rows {α : Type} {line : α → String} {clause : α → Clause} {as : List α}
    (h : ∀ a ∈ as, LexesTo (line a).toList (clause a).tokens) :
    LexesTo ((as.map line).flatMap (row 2)) (Clause.tokensOf (as.map clause)) := by
  induction as with
  | nil => exact .nil
  | cons a as ih =>
    obtain ⟨ha, hrest⟩ := List.forall_mem_cons.mp h
    exact (lexesTo_row 2 ha).append (ih hrest)

/-- A block of rows, opened by bare tokens. -/
theorem lexesTo_braced {head name : String} {args : List String} {inner : List String}
    {ks : List Clause} (hname : IsBare name) (hargs : ∀ a ∈ args, IsBare a)
    (hhead : head.toList = name.toList ++ args.flatMap fun a => ' ' :: a.toList)
    (hinner : LexesTo (inner.flatMap (row 2)) (Clause.tokensOf ks)) :
    LexesTo (chars (braced head inner)) (Clause.block name args ks).tokens := by
  have hopen : LexesTo (head ++ " \x7b").toList ((name :: args).map .word ++ [.opening]) := by
    have hwords := (lexesTo_bareLine hname hargs (by decide : separates ' ' = true)).append
      (lexesTo_separator (by decide : separates '\x7b' = true))
    simpa [hhead] using hwords
  have hclose : LexesTo "\x7d".toList [.closing] := by decide
  have hblock := (lexesTo_row 1 hopen).append (hinner.append (lexesTo_row 1 hclose))
  rw [chars_braced]
  simpa [Clause.tokens] using hblock

/-! ## Pieces -/

/-- A pool of bare tokens. -/
structure Pool.Legible (p : Pool) : Prop where
  name : IsBare p.name
  directives : ∀ d ∈ p.directives, d.Legible
  targets : ∀ t ∈ p.targets, IsBare t

/-- A map between bare variables, whose keys and values can be read after they were quoted. -/
structure Map.Legible (m : Map) : Prop where
  input : IsBare m.input
  output : IsBare m.output
  entries : ∀ e ∈ m.entries, IsQuotable e.1 ∧ IsQuotable e.2
  fallback : ∀ v ∈ m.fallback, IsQuotable v

/-- A server of legible directives, whose name and pages can be read after they were quoted. -/
structure Server.Legible (s : Server) : Prop where
  name : ∀ n ∈ s.name, IsQuotable n
  directives : ∀ d ∈ s.directives, d.Legible
  errorPages : ∀ p ∈ s.errorPages, p.codes ≠ [] ∧ IsQuotable p.uri

theorem Pool.Legible.lexesTo {p : Pool} (h : p.Legible) : LexesTo (chars p.lines) p.clause.tokens := by
  refine lexesTo_braced (by decide) (by simpa using h.name) (by simp) ?_
  rw [List.flatMap_append, Clause.tokensOf_append]
  exact (lexesTo_rows fun d hd => (h.directives d hd).lexesTo).append
    (lexesTo_rows fun t ht => lexesTo_target (h.targets t ht))

theorem Map.Legible.lexesTo {m : Map} (h : m.Legible) : LexesTo (chars m.lines) m.clause.tokens := by
  refine lexesTo_braced (by decide) (by simpa using ⟨h.input, h.output⟩) (by simp) ?_
  rw [List.flatMap_append, Clause.tokensOf_append]
  refine (lexesTo_rows fun e he => lexesTo_entry (h.entries e he).1 (h.entries e he).2).append
    (lexesTo_rows fun v hv => ?_)
  have hvalue : IsQuotable v := h.fallback v (Option.mem_toList.mp hv)
  simpa [defaultKey] using lexesTo_named (by decide : IsBare defaultKey) hvalue

theorem Server.Legible.lexesTo {s : Server} (h : s.Legible) :
    LexesTo (chars s.lines) s.clause.tokens := by
  refine lexesTo_braced (by decide) nofun (by simp) ?_
  rw [List.flatMap_append, List.flatMap_append, Clause.tokensOf_append, Clause.tokensOf_append,
    List.flatMap_cons, Clause.tokensOf]
  refine (((lexesTo_row 2 (lexesTo_listen s)).append (lexesTo_rows fun n hn => ?_)).append
    (lexesTo_rows fun d hd => (h.directives d hd).lexesTo)).append
    (lexesTo_rows fun p hp => ErrorPage.lexesTo_line (h.errorPages p hp).1 (h.errorPages p hp).2)
  have hname : IsQuotable n := h.name n (Option.mem_toList.mp hn)
  simpa using lexesTo_named (by decide : IsBare "server_name") hname

def Piece.clause : Piece → Clause
  | .pool p => p.clause
  | .map m => m.clause
  | .server s => s.clause

def Piece.Legible : Piece → Prop
  | .pool p => p.Legible
  | .map m => m.Legible
  | .server s => s.Legible

theorem Piece.Legible.lexesTo {p : Piece} (h : p.Legible) :
    LexesTo (chars p.lines) p.clause.tokens := by
  cases p with
  | pool p => exact Pool.Legible.lexesTo h
  | map m => exact Map.Legible.lexesTo h
  | server s => exact Server.Legible.lexesTo h

/-- Pieces that are read as certain clauses, be these their own or not. -/
theorem lexesTo_further {ps : List Piece} {k : Piece → Clause}
    (h : ∀ p ∈ ps, LexesTo (chars p.lines) (k p).tokens) :
    LexesTo (Piece.further ps) (Clause.tokensOf (ps.map k)) := by
  induction ps with
  | nil => exact .nil
  | cons p ps ih =>
    obtain ⟨hp, hrest⟩ := List.forall_mem_cons.mp h
    have hfirst := (lexesTo_separator (by decide : separates '\n' = true)).append hp
    exact hfirst.append (ih hrest)

/-! ## Blocks -/

/-- A block of legible pieces. -/
structure Block.Legible (b : Block) : Prop where
  vars : ∀ d ∈ b.vars, d.Legible
  pools : ∀ p ∈ b.pools, p.Legible
  maps : ∀ m ∈ b.maps, m.Legible
  servers : ∀ s ∈ b.servers, s.Legible

theorem Block.legible_of_mem_pieces {b : Block} (h : b.Legible) : ∀ p ∈ b.pieces, p.Legible := by
  intro p hp
  simp only [pieces, List.mem_append, List.mem_map] at hp
  rcases hp with (⟨p, hp, rfl⟩ | ⟨m, hm, rfl⟩) | ⟨s, hs, rfl⟩
  · exact h.pools p hp
  · exact h.maps m hm
  · exact h.servers s hs

theorem lexesTo_varRows {ds : List Directive} (h : ∀ d ∈ ds, d.Legible) :
    LexesTo (varRows ds) (Clause.tokensOf (ds.map Directive.clause)) := by
  induction ds with
  | nil => exact .nil
  | cons d ds ih =>
    obtain ⟨hd, hrest⟩ := List.forall_mem_cons.mp h
    exact (lexesTo_row 1 hd.lexesTo).append (ih hrest)

theorem lexesTo_body {ds : List Directive} {ps : List Piece} {k : Piece → Clause}
    (hds : ∀ d ∈ ds, d.Legible) (hps : ∀ p ∈ ps, LexesTo (chars p.lines) (k p).tokens) :
    LexesTo (Block.body ds ps) (Clause.tokensOf (ds.map Directive.clause ++ ps.map k)) := by
  rw [Clause.tokensOf_append]
  cases ds with
  | nil =>
    cases ps with
    | nil => exact .nil
    | cons p ps =>
      obtain ⟨hp, hrest⟩ := List.forall_mem_cons.mp hps
      exact hp.append (lexesTo_further hrest)
  | cons d ds => exact (lexesTo_varRows hds).append (lexesTo_further hps)

/-- What the proxy reads of a block is what it reads of the pieces. -/
theorem Block.read?_of_lexesTo {b : Block} {k : Piece → Clause} (hvars : ∀ d ∈ b.vars, d.Legible)
    (hpieces : ∀ p ∈ b.pieces, LexesTo (chars p.lines) (k p).tokens) :
    read? b.render =
      some [.block b.kind.name [] (b.vars.map Directive.clause ++ b.pieces.map k)] := by
  have hheader : LexesTo (header.toList ++ ['\n']) [] :=
    lexesTo_comment (by decide : '\n' ∉ header.toList.tail)
  have hname : IsBare b.kind.name := by
    cases b.kind <;> decide
  have hbrace : LexesTo ['\x7b', '\n'] [.opening] := by decide
  have hopen : LexesTo (b.kind.name.toList ++ [' '] ++ ['\x7b', '\n'])
      [.word b.kind.name, .opening] :=
    (hname.spells ' ' (by decide)).append hbrace
  have hbody := lexesTo_body hvars hpieces
  have hclose : LexesTo ['\x7d', '\n'] [.closing] := by decide
  have htokens : LexesTo b.render.toList (Clause.tokensOf
      [.block b.kind.name [] (b.vars.map Directive.clause ++ b.pieces.map k)]) := by
    have hall := hheader.append (hopen.append (hbody.append hclose))
    rw [toList_render]
    simpa [Clause.tokensOf, Clause.tokens] using hall
  rw [LexesTo] at htokens
  rw [read?, tokens?, htokens, Option.bind_some, clauses?_tokensOf]

theorem Block.clause_eq (b : Block) :
    b.clause = .block b.kind.name []
      (b.vars.map Directive.clause ++ b.pieces.map Piece.clause) := by
  simp [Block.clause, pieces, Piece.clause, Function.comp_def]

/-- The proxy reads a legible block as what it is. -/
theorem Block.read?_render {b : Block} (h : b.Legible) : read? b.render = some [b.clause] := by
  rw [b.clause_eq]
  exact read?_of_lexesTo h.vars fun p hp => (legible_of_mem_pieces h p hp).lexesTo

end Portcullis.Proxy
