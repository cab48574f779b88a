import Portcullis.Proofs.Proxy.Legible
import Portcullis.Proofs.Routing.Wiring
import Mathlib

/-!
# What the proxy reads of the rows

The names and addresses of routing rows enter the stream file, some of them in quotes and some as
they are.  This module says for which rows the proxy reads the block that was built.

* `Routing.Legible` are the rows for which it does: aliases and addresses that are written as they
  are must not hold what ends a token, and domain names no backslash that nothing puts in quotes.
* `stream_legible` carries this from the rows to the pieces of the block.
* `preview_reads` is the main result.

An alias with a blank makes two tokens of a pool's name, while the map still names the pool by one:
`preview_reads_notSpaced`.
-/

namespace Portcullis

open Portcullis.Text
open Portcullis.Proxy
open Portcullis.Proxy.Grammar
open StreamBinding

/-! ## Texts that are bare tokens -/

theorem isBare_poolName {lead aliasName : String} (hlead : IsBare lead)
    (halias : ∀ c ∈ aliasName.toList, isInner c = true) (id : UInt32) :
    IsBare (poolName lead aliasName id) := by
  have hid : IsBare (idText id) := isBare_ofNat id.toNat
  have hunderscore : IsBare "_" := by decide
  unfold poolName
  split
  · exact hlead.append hid.inner
  · exact ((hlead.append halias).append hunderscore.inner).append hid.inner

theorem isBare_hostPort {host : String} (h : IsBare host) (port : Nat) :
    IsBare (hostPort host port) := by
  have hport := isBare_ofNat port
  have hopen : IsBare "[" := by decide
  have hclose : IsBare "]:" := by decide
  have hcolon : IsBare ":" := by decide
  unfold hostPort
  split
  · exact ((hopen.append h.inner).append hclose.inner).append hport.inner
  · exact (h.append hcolon.inner).append hport.inner

theorem isBare_localPort (port : Int) : IsBare (localPort port) :=
  IsBare.append (by decide) (isBare_ofInt port).inner

theorem isBare_portVariable (port : Int32) : IsBare (portVariable port) :=
  IsBare.append (by decide) (isBare_ofInt port.toInt).inner

/-! ## Rows -/

/-- Settings whose texts in the stream file are bare tokens. -/
structure ProxySettings.Plain (s : ProxySettings) : Prop where
  script : IsBare s.script
  accessHook : IsBare s.accessHook
  poolPrefix : IsBare s.poolPrefix
  listenIdVariable : IsBare s.listenIdVariable

/-- Rows that, as far as routes bind them, hold nothing that the proxy would misread. -/
structure Routing.Legible (r : Routing) (lead : String) : Prop where
  aliases : ∀ x ∈ r.boundRoutes lead, ∀ c ∈ x.route.aliasName.toList, isInner c = true
  addresses : ∀ x ∈ r.boundRoutes lead, x.route.destination = .backend →
    IsBare (trim x.route.targetAddress)
  domains : ∀ x ∈ r.boundRoutes lead, x.binding.isCatchAll = false →
    IsQuotable x.binding.domain.name

/-- A binding whose texts are read as they are. -/
structure StreamBinding.Legible (b : StreamBinding) : Prop where
  pool : IsBare b.pool
  target : IsBare b.target
  domain : b.isCatchAll = false → IsQuotable b.domain.name

/-- A route leads to a bare token, if its address is one. -/
theorem Routing.isBare_targetOf? {r : Routing} {x : StreamRoute} {t : String}
    (haddress : x.destination = .backend → IsBare (trim x.targetAddress))
    (h : r.targetOf? x = some t) : IsBare t := by
  unfold targetOf? at h
  split at h
  · next hdest =>
    split at h
    · cases h
    · obtain rfl := Option.some.inj h
      exact isBare_hostPort (haddress hdest) x.targetPort.toNat
  · obtain ⟨l, -, rfl⟩ := Option.map_eq_some_iff.mp h
    exact isBare_localPort _
  all_goals
    obtain ⟨p, -, rfl⟩ := Option.map_eq_some_iff.mp h
    exact isBare_localPort _

/-- What legible rows bind is legible. -/
theorem Routing.Legible.binding {r : Routing} {lead : String} (h : r.Legible lead)
    (hlead : IsBare lead) {b : StreamBinding}
    (hb : b ∈ (r.streamGroups lead).flatMap (·.bindings)) : b.Legible := by
  rw [flatMap_bindings_streamGroups] at hb
  obtain ⟨x, hx, rfl⟩ := List.mem_map.mp hb
  obtain ⟨l, -, -, hof⟩ := mem_boundRoutes_iff.mp hx
  obtain ⟨d, t, -, htarget, hbinding⟩ := bindingOf?_eq_some_iff.mp (mem_boundRoutesOf_iff.mp hof).2
  refine ⟨?_, ?_, h.domains x hx⟩
  · rw [hbinding]
    exact isBare_poolName hlead (h.aliases x hx) d.id
  · rw [hbinding]
    exact isBare_targetOf? (h.addresses x hx) htarget

/-! ## Pieces -/

theorem StreamBinding.legible_freshPool {b : StreamBinding} (hb : b.Legible) :
    b.freshPool.Legible := by
  have hbalancing : ∀ name ∈ b.balancing.directive?, IsBare name := by
    cases b.balancing <;> simp [Balancing.directive?] <;> decide
  rw [freshPool_eq]
  refine ⟨hb.pool, fun d hd => ?_, List.forall_mem_nil _⟩
  obtain ⟨name, hname, rfl⟩ := List.mem_map.mp hd
  exact ⟨hbalancing name (Option.mem_toList.mp hname), List.forall_mem_nil _⟩

theorem Proxy.Pool.Legible.addTarget {p : Pool} (hp : p.Legible) {t : String} (ht : IsBare t) :
    (p.addTarget t).Legible := by
  refine ⟨by simpa using hp.name, ?_, fun u hu => ?_⟩
  · unfold Pool.addTarget
    split <;> exact hp.directives
  · rcases Pool.mem_targets_addTarget.mp hu with hu | rfl
    · exact hp.targets u hu
    · exact ht

/-- A binding keeps pools legible. -/
theorem StreamBinding.legible_enlist {ps : List Pool} {b : StreamBinding}
    (hps : ∀ p ∈ ps, p.Legible) (hb : b.Legible) : ∀ p ∈ enlist ps b, p.Legible := by
  have hall : ∀ p ∈ (if (ps.find? (·.name == b.pool)).isSome then ps else ps ++ [b.freshPool]),
      p.Legible := by
    split
    · exact hps
    · rw [List.forall_mem_append, List.forall_mem_singleton]
      exact ⟨hps, legible_freshPool hb⟩
  intro q hq
  obtain ⟨p, hp, rfl⟩ := List.mem_map.mp hq
  split
  · exact (hall p hp).addTarget hb.target
  · exact hall p hp

theorem StreamBinding.legible_foldl_enlist {bs : List StreamBinding} (hbs : ∀ b ∈ bs, b.Legible) :
    ∀ p ∈ bs.foldl enlist [], p.Legible := by
  induction bs using List.reverseRecOn with
  | nil => exact nofun
  | append_singleton bs b ih =>
    rw [List.forall_mem_append, List.forall_mem_singleton] at hbs
    rw [List.foldl_append]
    exact legible_enlist (ih hbs.1) hbs.2

theorem StreamGroup.legible_map {g : StreamGroup} (h : ∀ b ∈ g.bindings, b.Legible) :
    g.map.Legible where
  input := (by decide : IsBare serverNameVariable)
  output := isBare_portVariable g.port
  entries e he := by
    obtain ⟨b, hb, rfl⟩ := List.mem_map.mp he
    obtain ⟨hmem, hnamed⟩ := List.mem_filter.mp hb
    exact ⟨(h b hmem).domain (by simpa using hnamed), (h b hmem).pool.isQuotable⟩
  fallback v hv := by
    obtain ⟨b, hb, rfl⟩ := Option.map_eq_some_iff.mp hv
    exact (h b (List.mem_of_mem_filter (List.mem_of_head? hb))).pool.isQuotable

theorem StreamGroup.legible_server {s : ProxySettings} (hs : s.Plain) (g : StreamGroup) :
    (g.server s).Legible where
  name := nofun
  directives d hd := by
    simp only [StreamGroup.server, List.mem_cons, List.not_mem_nil, or_false] at hd
    rcases hd with rfl | rfl | rfl | rfl
    · have hid : IsBare (idText g.listenerId) := isBare_ofNat _
      have hargs : ∀ t ∈ [s.listenIdVariable, idText g.listenerId], IsBare t := by
        simpa using ⟨hs.listenIdVariable, hid⟩
      exact Directive.legible_of_tokens (by decide) hargs
    · exact Directive.legible_of_token (by decide) hs.accessHook
    · exact Directive.legible_of_token (by decide) (isBare_portVariable g.port)
    · exact Directive.legible_of_token (by decide) (by decide)
  errorPages := nofun

/-- Of its own the stream block has the script at most. -/
theorem emitStream_vars {s : ProxySettings} {gs : List StreamGroup} {b : Block}
    (h : emitStream s (Block.empty .stream) gs = (b, .ok ())) :
    b.kind = .stream ∧ ∀ d ∈ b.vars, d = ⟨"js_import", s.script⟩ := by
  unfold emitStream at h
  split at h
  · cases h
    exact ⟨rfl, nofun⟩
  · split at h
    · cases h
    · next b₁ hscript =>
      obtain ⟨d, hd, rfl⟩ := addVariable_eq_ok_iff.mp hscript
      obtain ⟨-, rfl⟩ := emitEach_stream_ok h
      refine ⟨rfl, fun e he => ?_⟩
      obtain rfl : e = d := List.mem_singleton.mp he
      unfold Directive.make at hd
      split at hd
      · cases hd
      · exact (Except.ok.inj hd).symm

/-- The stream block of legible rows is legible. -/
theorem stream_legible {s : ProxySettings} {r : Routing} {c : Config} {stats : Stats}
    (hs : s.Plain) (hr : r.Legible s.poolPrefix) (h : (build s r).1 = .ok (c, stats)) :
    c.stream.Legible where
  vars d hd := by
    rw [(emitStream_vars (build_ok h).1).2 d hd]
    exact Directive.legible_of_token (by decide) hs.script
  pools := by
    rw [streamPools_eq h]
    exact legible_foldl_enlist fun b hb => hr.binding hs.poolPrefix hb
  maps m hm := by
    rw [streamMaps_eq h] at hm
    obtain ⟨g, hg, rfl⟩ := List.mem_map.mp hm
    exact StreamGroup.legible_map fun b hb => hr.binding hs.poolPrefix
      (Routing.mem_flatMap_bindings_iff.mpr ⟨g, hg, hb⟩)
  servers v hv := by
    rw [streamServers_eq h] at hv
    obtain ⟨g, -, rfl⟩ := List.mem_map.mp hv
    exact g.legible_server hs

/-- Of legible rows, and with settings that are plain tokens, the proxy reads one stream block whose
pools, maps and servers are those that were built, token for token. -/
theorem preview_reads {s : ProxySettings} {r : Routing} {out : Compiled} (hs : s.Plain)
    (hr : r.Legible s.poolPrefix) (h : (preview s (.ok r)).1 = .ok out) :
    ∃ c stats, (build s r).1 = .ok (c, stats) ∧ out = .of s c stats ∧ c.stream.kind = .stream ∧
      read? out.stream = some [c.stream.clause] := by
  obtain ⟨c, stats, hbuild, rfl⟩ := preview_eq_ok_iff.mp h
  exact ⟨c, stats, hbuild, rfl, (emitStream_vars (build_ok hbuild).1).1,
    Block.read?_render (stream_legible hs hr hbuild)⟩

/-! ## Runs -/

/-- A route with an alias to an address with a port. -/
def oddRoute : StreamRoute :=
  { id := 1, domainId := 1, listenId := 1, destination := .backend, aliasName := "web",
    targetAddress := " backend.internal ", targetPort := 8443 }

/-- A domain whose name holds all that the grammar knows, behind an alias and an address that hold
none of it. -/
def oddDomain : Routing where
  listeners := [⟨1, 443, .stream, false, .blacklist, ""⟩]
  domains := .ofList [⟨1, "a \\; \"b\" #\n"⟩]
  streamRoutes := [oddRoute]

/-- What the route binds. -/
def oddBinding : StreamBinding :=
  ⟨1, ⟨1, "a \\; \"b\" #\n"⟩, "ffus_web_1", "backend.internal:8443", .none, false⟩

theorem bindingOf?_oddRoute : oddDomain.bindingOf? "ffus_" oddRoute = some oddBinding := by
  decide +kernel

theorem streamGroups_oddDomain : oddDomain.streamGroups "ffus_" = [⟨443, 1, [oddBinding]⟩] := by
  have hroutes : oddDomain.streamRoutesOf 1 = [oddRoute] := by cbv
  have hlisteners : oddDomain.listenersById = [⟨1, 443, .stream, false, .blacklist, ""⟩] := by cbv
  rw [Routing.streamGroups, hlisteners, List.foldl_cons, List.foldl_nil, Routing.withStream]
  simp only [Routing.bindingsOf, hroutes, List.filterMap_cons, List.filterMap_nil,
    bindingOf?_oddRoute]
  rfl

theorem boundRoutes_oddDomain {x : BoundRoute} (h : x ∈ oddDomain.boundRoutes "ffus_") :
    x = ⟨oddRoute, oddBinding⟩ := by
  obtain ⟨l, -, -, hx⟩ := Routing.mem_boundRoutes_iff.mp h
  obtain ⟨hroute, hbinding⟩ := Routing.mem_boundRoutesOf_iff.mp hx
  have hmem : x.route ∈ oddDomain.streamRoutes :=
    List.mem_of_mem_filter ((List.mem_mergeSort).mp hroute)
  have hsame : x.route = oddRoute := List.mem_singleton.mp hmem
  rw [hsame, bindingOf?_oddRoute] at hbinding
  obtain ⟨route, binding⟩ := x
  rw [show route = oddRoute from hsame, Option.some.inj hbinding]

theorem legible_oddDomain : oddDomain.Legible "ffus_" := by
  have htrim : trim oddRoute.targetAddress = "backend.internal" := by decide
  have haddress : IsBare "backend.internal" := by decide
  have halias : IsBare "web" := by decide
  refine ⟨fun x hx => ?_, fun x hx _ => ?_, fun x hx _ => Or.inl ?_⟩
  · rw [boundRoutes_oddDomain hx]
    exact halias.inner
  · rw [boundRoutes_oddDomain hx, htrim]
    exact haddress
  · rw [boundRoutes_oddDomain hx]
    decide

theorem plain_default : ProxySettings.Plain {} :=
  ⟨by decide, by decide, by decide, by decide⟩

/-- The name of the domain stays one token. -/
theorem preview_reads_oddDomain :
    ∃ out c stats, (preview {} (.ok oddDomain)).1 = .ok out ∧
      (build {} oddDomain).1 = .ok (c, stats) ∧ read? out.stream = some [c.stream.clause] ∧
      c.stream.maps.map Map.entries = [[("a \\; \"b\" #\n", "ffus_web_1")]] := by
  obtain ⟨c, stats, h⟩ : ∃ c stats, (build {} oddDomain).1 = .ok (c, stats) :=
    exists_build_of_streams (by decide) streamGroups_oddDomain (by decide)
  have hpreview := preview_eq_ok_iff.mpr ⟨c, stats, h, rfl⟩
  obtain ⟨c', stats', hbuild, -, -, hread⟩ := preview_reads plain_default legible_oddDomain hpreview
  obtain ⟨rfl, rfl⟩ := Prod.mk.inj (Except.ok.inj (hbuild.symm.trans h))
  refine ⟨_, c', stats', hpreview, hbuild, hread, ?_⟩
  rw [(emitStream_ok (build_ok h).1).2.2.1, show ProxySettings.poolPrefix {} = "ffus_" from rfl,
    streamGroups_oddDomain]
  decide

/-- An alias of two words. -/
def spacedAlias : Routing where
  listeners := [⟨1, 443, .stream, false, .blacklist, ""⟩]
  domains := .ofList [⟨1, "a.example"⟩]
  sshPorts := .ofList [⟨5, 2202⟩]
  streamRoutes :=
    [{ id := 1, domainId := 1, listenId := 1, destination := .sshLocal, sshPortId := 5,
       aliasName := "a b" }]

theorem streamGroups_spacedAlias : spacedAlias.streamGroups "ffus_" =
    [⟨443, 1, [⟨1, ⟨1, "a.example"⟩, "ffus_a b_1", "127.0.0.1:2202", .none, false⟩]⟩] := by cbv

/-- The pool of the alias. -/
def spacedPool : Pool :=
  ⟨"ffus_a b_1", [], ["127.0.0.1:2202"]⟩

/-- The map of the alias names the pool by one token, in quotes. -/
def spacedMap : Map :=
  ⟨serverNameVariable, "$ffstream443", [("a.example", "ffus_a b_1")], none⟩

/-- The server of the port. -/
def spacedServer : Server :=
  StreamGroup.server {} ⟨443, 1, []⟩

def spacedBlock : Block :=
  ⟨.stream, [⟨"js_import", "/opt/app/nginx/dist/njs.js"⟩], [spacedPool], [spacedMap],
    [spacedServer]⟩

theorem stream_spacedAlias {c : Config} {stats : Stats}
    (h : (build {} spacedAlias).1 = .ok (c, stats)) : c.stream = spacedBlock := by
  have hemit := (build_ok h).1
  rw [show ProxySettings.poolPrefix {} = "ffus_" from rfl, streamGroups_spacedAlias] at hemit
  refine (congrArg Prod.fst hemit).symm.trans ?_
  decide +kernel

/-- What the proxy reads of the pieces: the pool is opened with two names. -/
def spacedClause : Piece → Clause
  | .pool _ => .block "upstream" ["ffus_a", "b_1"] [.line "server" ["127.0.0.1:2202"]]
  | p => p.clause

theorem lexesTo_spacedPool : LexesTo (chars (Piece.pool spacedPool).lines)
    (spacedClause (.pool spacedPool)).tokens := by
  have hnames : ∀ a ∈ ["ffus_a", "b_1"], IsBare a := by decide
  have htarget : ∀ t ∈ ["127.0.0.1:2202"], IsBare t := by decide
  exact lexesTo_braced (by decide) hnames (by decide)
    (lexesTo_rows fun t ht => lexesTo_target (htarget t ht))

theorem legible_spacedMap : spacedMap.Legible :=
  ⟨by decide, by decide, by decide, nofun⟩

theorem read?_spacedBlock : read? spacedBlock.render =
    some [.block "stream" [] (spacedBlock.vars.map Directive.clause ++
      spacedBlock.pieces.map spacedClause)] := by
  refine Block.read?_of_lexesTo (List.forall_mem_singleton.mpr ?_) fun p hp => ?_
  · exact Directive.legible_of_token (by decide) plain_default.script
  · obtain rfl | rfl | rfl : p = .pool spacedPool ∨ p = .map spacedMap ∨ p = .server spacedServer :=
      by simpa [Block.pieces, spacedBlock] using hp
    · exact lexesTo_spacedPool
    · exact legible_spacedMap.lexesTo
    · exact (StreamGroup.legible_server plain_default _).lexesTo

/-- The proxy reads two names of the pool, none of which the map gives. -/
theorem preview_reads_notSpaced :
    ∃ out c stats, (preview {} (.ok spacedAlias)).1 = .ok out ∧
      (build {} spacedAlias).1 = .ok (c, stats) ∧ read? out.stream ≠ some [c.stream.clause] := by
  obtain ⟨c, stats, h⟩ : ∃ c stats, (build {} spacedAlias).1 = .ok (c, stats) :=
    exists_build_of_streams (by decide) streamGroups_spacedAlias (by decide)
  refine ⟨_, c, stats, preview_eq_ok_iff.mpr ⟨c, stats, h, rfl⟩, h, ?_⟩
  show read? c.stream.render ≠ _
  rw [stream_spacedAlias h, read?_spacedBlock]
  intro heq
  simp [Block.clause, Block.pieces, spacedBlock, spacedPool, spacedClause, Pool.clause] at heq

end Portcullis
