import Portcullis.Proofs.Net.Numeral

/-!
# The canonical form of an address

An address is read from its canonical form again, so the canonical form of a canonical form is that
form itself.

* `ipv4_text`: four octets are read as they were written.
* `groupRun_colonText` and `ipv6_text`: so are groups between colons, and groups around the one
  `::` that stands for the longest run of zeros.
* `canonical?_of_canonical?` is the main result.
-/

namespace Portcullis.Net

open Portcullis.Text

/-! ## Characters of an address -/

/-- A digit is a character of the ranges that digits come from. -/
theorem range_of_digitOf? {base d : Nat} {c : Char} (h : digitOf? base c = some d) :
    48 ≤ c.toNat ∧ c.toNat ≤ 57 ∨ 97 ≤ c.toNat ∧ c.toNat ≤ 102 ∨ 65 ≤ c.toNat ∧ c.toNat ≤ 70 := by
  have hle : ∀ a b : Char, a ≤ b ↔ a.toNat ≤ b.toNat := fun a b => Iff.rfl
  simp only [digitOf?, Bool.and_eq_true, decide_eq_true_eq, hle] at h
  by_cases hdecimal : '0'.toNat ≤ c.toNat ∧ c.toNat ≤ '9'.toNat
  · exact Or.inl hdecimal
  by_cases hlower : 'a'.toNat ≤ c.toNat ∧ c.toNat ≤ 'f'.toNat
  · exact Or.inr (Or.inl hlower)
  by_cases hupper : 'A'.toNat ≤ c.toNat ∧ c.toNat ≤ 'F'.toNat
  · exact Or.inr (Or.inr hupper)
  · rw [if_neg hdecimal, if_neg hlower, if_neg hupper, if_neg (Nat.lt_irrefl base)] at h
    cases h

theorem isBlank_of_digitOf? {base d : Nat} {c : Char} (h : digitOf? base c = some d) :
    isBlank c = false := by
  have hrange := range_of_digitOf? h
  simp only [isBlank, Bool.or_eq_false_iff, Bool.and_eq_false_iff, decide_eq_false_iff_not,
    beq_eq_false_iff_ne]
  omega

theorem ne_point_of_digitOf? {base d : Nat} {c : Char} (h : digitOf? base c = some d) :
    c ≠ '.' := by
  rintro rfl
  have hrange := range_of_digitOf? h
  have hpoint : '.'.toNat = 46 := rfl
  omega

/-! ## Four octets -/

theorem toList_text (ip : Ipv4) :
    ip.text.toList = Decimal.digits ip.a.toNat ++ '.' :: (Decimal.digits ip.b.toNat ++
      '.' :: (Decimal.digits ip.c.toNat ++ '.' :: Decimal.digits ip.d.toNat)) := by
  simp [Ipv4.text, Decimal.ofNat]

/-- Four octets are read as they were written. -/
theorem ipv4_text (ip : Ipv4) {rest : List Char} (hrest : NoDigit 10 rest) :
    ipv4 (ip.text.toList ++ rest) = some (ip, rest) := by
  have hexpect : ∀ cs, expect '.' ('.' :: cs) = some cs := fun _ => rfl
  simp only [toList_text, ipv4, List.append_assoc, List.cons_append, bind, Option.bind,
    octet_digits _ (NoDigit.point _ _), octet_digits _ hrest, hexpect]
  rfl

/-- Four octets need a point. -/
theorem ipv4_of_no_point {cs : List Char} (h : '.' ∉ cs) : ipv4 cs = none := by
  unfold ipv4
  cases hoctet : octet cs with
  | none => rfl
  | some found =>
    obtain ⟨a, rest⟩ := found
    have hrest : rest = (digitSpan 10 cs).2 := by
      unfold octet at hoctet
      simp only at hoctet
      split at hoctet
      · cases hoctet
      · split at hoctet
        · exact (congrArg Prod.snd (Option.some.inj hoctet)).symm
        · cases hoctet
    obtain ⟨front, hfront⟩ := exists_of_digitSpan 10 cs
    rw [← hrest] at hfront
    cases rest with
    | nil => rfl
    | cons c rest =>
      have hne : c ≠ '.' := by
        rintro rfl
        exact h (hfront ▸ List.mem_append_right _ List.mem_cons_self)
      have hexpect : expect '.' (c :: rest) = none := by simp [expect, hne]
      simp only [bind, Option.bind, hexpect]

/-! ## Groups -/

/-- Groups, each behind a colon. -/
def colonFront (gs : List UInt16) : List Char :=
  gs.flatMap fun g => ':' :: hexDigits g.toNat

theorem toList_colonText_cons (g : UInt16) (gs : List UInt16) :
    (colonText (g :: gs)).toList = hexDigits g.toNat ++ colonFront gs := by
  simp only [colonText, String.toList_intercalate, List.map_cons, String.toList_ofList]
  induction gs generalizing g with
  | nil => simp [colonFront, List.intercalate]
  | cons g' gs ih =>
    have hfront : colonFront (g' :: gs) = ':' :: (hexDigits g'.toNat ++ colonFront gs) := rfl
    rw [hfront, ← ih g']
    simp [List.intercalate]

theorem mem_colonFront {gs : List UInt16} {c : Char} (h : c ∈ colonFront gs) :
    c = ':' ∨ ∃ d, digitOf? 16 c = some d := by
  obtain ⟨g, -, hc⟩ := List.mem_flatMap.1 h
  rcases List.mem_cons.1 hc with hcolon | hdigit
  · exact Or.inl hcolon
  · obtain ⟨ns, hns⟩ := numeral_hexDigits g.toNat
    exact Or.inr (hns.digit_of_mem hdigit)

theorem mem_colonText {gs : List UInt16} {c : Char} (h : c ∈ (colonText gs).toList) :
    c = ':' ∨ ∃ d, digitOf? 16 c = some d := by
  cases gs with
  | nil => cases h
  | cons g gs =>
    rw [toList_colonText_cons] at h
    rcases List.mem_append.1 h with hdigit | hfront
    · obtain ⟨ns, hns⟩ := numeral_hexDigits g.toNat
      exact Or.inr (hns.digit_of_mem hdigit)
    · exact mem_colonFront hfront

theorem point_notMem_colonText (gs : List UInt16) : '.' ∉ (colonText gs).toList := by
  intro h
  rcases mem_colonText h with hcolon | ⟨d, hd⟩
  · cases hcolon
  · exact ne_point_of_digitOf? hd rfl

/-- No further group follows: the text is at its end, or at a `::`. -/
inductive Stops : List Char → Prop where
  | done : Stops []
  | gap (rest : List Char) (h : '.' ∉ rest) : Stops (':' :: ':' :: rest)

namespace Stops

variable {rest : List Char}

theorem no_point (h : Stops rest) : '.' ∉ rest := by
  cases h with
  | done => exact List.not_mem_nil
  | gap rest h => simpa using h

theorem noDigit (h : Stops rest) (gs : List UInt16) : NoDigit 16 (colonFront gs ++ rest) := by
  cases gs with
  | nil =>
    cases h with
    | done => exact NoDigit.nil
    | gap => exact NoDigit.colon _ _
  | cons g gs => exact NoDigit.colon _ _

theorem noPoint_append (h : Stops rest) (gs : List UInt16) : '.' ∉ colonFront gs ++ rest := by
  intro hmem
  rcases List.mem_append.1 hmem with hfront | hrest
  · rcases mem_colonFront hfront with hcolon | ⟨d, hd⟩
    · cases hcolon
    · exact ne_point_of_digitOf? hd rfl
  · exact h.no_point hrest

end Stops

/-- One group is read, and the rest is read on. -/
theorem groupRun_group {first : Bool} {limit : Nat} {cs rest : List Char} {g : UInt16}
    (separated : List Char)
    (hseparated : (if first then some cs else expect ':' cs) = some separated)
    (hpoint : '.' ∉ separated) (hgroup : group separated = some (g, rest)) :
    groupRun first (limit + 1) cs =
      (g :: (groupRun false limit rest).1, (groupRun false limit rest).2) := by
  rw [groupRun]
  simp only [hseparated, Option.bind_eq_bind, Option.bind_some, ipv4_of_no_point hpoint, hgroup,
    ite_self]

/-- Nothing is read where no group stands. -/
theorem groupRun_stop {first : Bool} {limit : Nat} {cs : List Char}
    (hstop : ∀ separated, (if first then some cs else expect ':' cs) = some separated →
      ipv4 separated = none ∧ group separated = none) :
    groupRun first limit cs = ([], false, cs) := by
  cases limit with
  | zero => rfl
  | succ limit =>
    rw [groupRun]
    cases hseparated : (if first then some cs else expect ':' cs) with
    | none => simp
    | some separated =>
      obtain ⟨hipv4, hgroup⟩ := hstop separated hseparated
      simp only [Option.bind_eq_bind, Option.bind_some, hipv4, hgroup, ite_self]

/-- Groups behind colons are read as they were written, up to where they stop. -/
theorem groupRun_colonFront {gs : List UInt16} {limit : Nat} {rest : List Char}
    (hlimit : gs.length ≤ limit) (hrest : Stops rest) :
    groupRun false limit (colonFront gs ++ rest) = (gs, false, rest) := by
  induction gs generalizing limit with
  | nil =>
    apply groupRun_stop
    intro separated hseparated
    cases hrest with
    | done => cases hseparated
    | gap rest hpoint =>
      obtain rfl : ':' :: rest = separated := Option.some.inj hseparated
      exact ⟨ipv4_of_no_point (by simpa using hpoint), group_of_noDigit (NoDigit.colon _ _)⟩
  | cons g gs ih =>
    obtain ⟨limit, rfl⟩ : ∃ l, limit = l + 1 := ⟨limit - 1, by simp at hlimit; omega⟩
    have htext : colonFront (g :: gs) ++ rest =
        ':' :: (hexDigits g.toNat ++ (colonFront gs ++ rest)) := by
      simp [colonFront]
    have hpoint := hrest.noPoint_append (g :: gs)
    rw [htext] at hpoint ⊢
    rw [groupRun_group (hexDigits g.toNat ++ (colonFront gs ++ rest)) rfl
      (fun h => hpoint (List.mem_cons_of_mem _ h)) (group_hexDigits g (hrest.noDigit gs)),
      ih (by simpa using hlimit)]

/-- Groups between colons are read as they were written, up to where they stop. -/
theorem groupRun_colonText (gs : List UInt16) {limit : Nat} {rest : List Char}
    (hlimit : gs.length ≤ limit) (hrest : Stops rest) :
    groupRun true limit ((colonText gs).toList ++ rest) = (gs, false, rest) := by
  cases gs with
  | nil =>
    apply groupRun_stop
    intro separated hseparated
    obtain rfl : rest = separated := Option.some.inj hseparated
    exact ⟨ipv4_of_no_point hrest.no_point, group_of_noDigit (hrest.noDigit [])⟩
  | cons g gs =>
    obtain ⟨limit, rfl⟩ : ∃ l, limit = l + 1 := ⟨limit - 1, by simp at hlimit; omega⟩
    rw [toList_colonText_cons, List.append_assoc]
    have hpoint : '.' ∉ hexDigits g.toNat ++ (colonFront gs ++ rest) := by
      intro hmem
      rcases List.mem_append.1 hmem with hdigit | hmore
      · obtain ⟨ns, hns⟩ := numeral_hexDigits g.toNat
        obtain ⟨d, hd⟩ := hns.digit_of_mem hdigit
        exact ne_point_of_digitOf? hd rfl
      · exact hrest.noPoint_append gs hmore
    rw [groupRun_group (hexDigits g.toNat ++ (colonFront gs ++ rest)) rfl hpoint
      (group_hexDigits g (hrest.noDigit gs)),
      groupRun_colonFront (by simpa using hlimit) hrest]

/-! ## Runs of zeros -/

theorem take_zeroRun (gs : List UInt16) :
    gs.take (zeroRun gs) = List.replicate (zeroRun gs) 0 ∧ zeroRun gs ≤ gs.length := by
  unfold zeroRun
  induction gs with
  | nil => simp
  | cons g gs ih =>
    rw [List.takeWhile_cons]
    by_cases hg : g = 0
    · subst hg
      simp [List.replicate_succ, ih.1, ih.2]
    · simp [hg]

/-- The longest run of zeros is one of zeros, and lies within the groups. -/
theorem longestZeroRun_spec (gs : List UInt16) :
    (gs.drop (longestZeroRun gs).1).take (longestZeroRun gs).2 =
        List.replicate (longestZeroRun gs).2 0 ∧
      (longestZeroRun gs).1 + (longestZeroRun gs).2 ≤ gs.length := by
  induction gs with
  | nil => simp [longestZeroRun]
  | cons g gs ih =>
    obtain ⟨hzeros, hlength⟩ := take_zeroRun (g :: gs)
    rw [longestZeroRun]
    simp only
    split
    · exact ⟨by simpa using hzeros, by simpa using hlength⟩
    · refine ⟨by simpa using ih.1, ?_⟩
      simp only [List.length_cons]
      omega

theorem groups_around_zeros (gs : List UInt16) :
    gs.take (longestZeroRun gs).1 ++ List.replicate (longestZeroRun gs).2 0 ++
      gs.drop ((longestZeroRun gs).1 + (longestZeroRun gs).2) = gs := by
  rw [← (longestZeroRun_spec gs).1, List.append_assoc, ← List.drop_drop, List.take_append_drop,
    List.take_append_drop]

/-! ## Eight groups -/

theorem ofGroups?_groups (ip : Ipv6) : Ipv6.ofGroups? ip.groups = some ip :=
  dif_pos ip.size

/-- The halves of a group make the group up. -/
theorem group_of_halves (x : UInt16) :
    (x >>> 8).toUInt8.toUInt16 <<< 8 ||| x.toUInt8.toUInt16 = x := by
  have hx : x.toNat < 65536 := x.toNat_lt
  have height : UInt16.toNat 8 % 16 = 8 := rfl
  have hhigh : (x.toNat >>> 8 % 2 ^ 8) <<< 8 % 2 ^ 16 = (x.toNat / 256) <<< 8 := by
    rw [Nat.shiftRight_eq_div_pow, Nat.shiftLeft_eq, Nat.shiftLeft_eq]
    omega
  apply UInt16.toNat_inj.1
  rw [UInt16.toNat_or, UInt16.toNat_shiftLeft, UInt8.toNat_toUInt16, UInt16.toNat_toUInt8,
    UInt16.toNat_shiftRight, UInt8.toNat_toUInt16, UInt16.toNat_toUInt8, height, hhigh,
    ← Nat.shiftLeft_add_eq_or_of_lt (Nat.mod_lt _ (by decide)), Nat.shiftLeft_eq]
  omega

/-- Groups that are written without a gap are read as they were written. -/
theorem ipv6_colonText (ip : Ipv6) : ipv6 (colonText ip.groups).toList = some (ip, []) := by
  have hrun := groupRun_colonText ip.groups (Nat.le_of_eq ip.size) Stops.done
  rw [List.append_nil] at hrun
  unfold ipv6
  simp only [hrun, ip.size, ofGroups?_groups]
  rfl

/-- Groups around a gap are read with the zeros that it stands for. -/
theorem ipv6_gap (ip : Ipv6) {front back : List UInt16} {zeros : Nat} (hzeros : 1 < zeros)
    (hgroups : front ++ List.replicate zeros 0 ++ back = ip.groups) :
    ipv6 ((colonText front).toList ++ ':' :: ':' :: (colonText back).toList) = some (ip, []) := by
  have hlength := congrArg List.length hgroups
  simp only [List.length_append, List.length_replicate, ip.size] at hlength
  have hfits : front.length ≤ 8 := by omega
  have hfront := groupRun_colonText front hfits (Stops.gap _ (point_notMem_colonText back))
  have hrest : back.length ≤ 7 - front.length := by omega
  have hback := groupRun_colonText back hrest Stops.done
  rw [List.append_nil] at hback
  have hshort : (front.length == 8) = false := by
    rw [beq_eq_false_iff_ne]
    omega
  have hrest : 8 - front.length - back.length = zeros := by omega
  unfold ipv6
  simp only [hfront, hshort, bind, Option.bind]
  simp only [expect, beq_self_eq_true, if_true, hback, hrest, hgroups, ofGroups?_groups]
  rfl

/-- An IPv4 address behind the prefix of mapped addresses is read as the address it stands for. -/
theorem ipv6_mapped (v4 : Ipv4) (ip : Ipv6) (h : [0, 0, 0, 0, 0, 0xFFFF] ++ v4.groups = ip.groups) :
    ipv6 ("::ffff:".toList ++ v4.text.toList) = some (ip, []) := by
  have hnone : ∀ cs, groupRun true 8 (':' :: cs) = ([], false, ':' :: cs) := by
    intro cs
    apply groupRun_stop
    intro separated hseparated
    obtain rfl : ':' :: cs = separated := Option.some.inj hseparated
    refine ⟨?_, group_of_noDigit (NoDigit.colon _ _)⟩
    simp [ipv4, octet_of_noDigit (NoDigit.colon _ _)]
  have hffff : ['f', 'f', 'f', 'f'] = hexDigits (0xFFFF : UInt16).toNat := by
    simp [hexDigits]
  have htail : groupRun false 6 (':' :: v4.text.toList) = (v4.groups, true, []) := by
    have hread := ipv4_text v4 NoDigit.nil
    rw [List.append_nil] at hread
    rw [groupRun]
    simp [expect, hread]
  have hrun : groupRun true 7 ('f' :: 'f' :: 'f' :: 'f' :: ':' :: v4.text.toList) =
      (0xFFFF :: v4.groups, true, []) := by
    have hf : NoDigit 10 ('f' :: 'f' :: 'f' :: 'f' :: ':' :: v4.text.toList) :=
      NoDigit.cons (by decide) _
    have hgroup := group_hexDigits 0xFFFF (NoDigit.colon _ v4.text.toList)
    rw [← hffff] at hgroup
    rw [groupRun]
    simp only [if_true, Option.bind_eq_bind, Option.bind_some]
    rw [show group ('f' :: 'f' :: 'f' :: 'f' :: ':' :: v4.text.toList) = _ from hgroup]
    simp [ipv4, octet_of_noDigit hf, htail]
  have htext : "::ffff:".toList ++ v4.text.toList =
      ':' :: ':' :: 'f' :: 'f' :: 'f' :: 'f' :: ':' :: v4.text.toList := rfl
  rw [htext]
  unfold ipv6
  simp only [hnone, bind, Option.bind]
  simp only [expect, beq_self_eq_true, if_true, List.length_nil, Nat.sub_zero, hrun]
  have hall : [] ++ List.replicate (8 - 0 - (0xFFFF :: v4.groups).length) 0 ++
      0xFFFF :: v4.groups = ip.groups := h
  rw [hall, ofGroups?_groups]
  rfl

theorem mapped?_eq_some {ip : Ipv6} {v4 : Ipv4} (h : ip.mapped? = some v4) :
    [0, 0, 0, 0, 0, 0xFFFF] ++ v4.groups = ip.groups := by
  unfold Ipv6.mapped? at h
  split at h
  · next x y hgroups =>
    obtain rfl := Option.some.inj h
    rw [hgroups, Ipv4.groups, group_of_halves, group_of_halves]
    rfl
  · cases h

/-- An IPv6 address is read from its text. -/
theorem ipv6_text (ip : Ipv6) : ipv6 ip.text.toList = some (ip, []) := by
  unfold Ipv6.text
  cases hmapped : ip.mapped? with
  | some v4 =>
    simp only [String.toList_append]
    exact ipv6_mapped v4 ip (mapped?_eq_some hmapped)
  | none =>
    simp only
    split
    · next hlong =>
      rw [String.toList_append, String.toList_append, List.append_assoc]
      exact ipv6_gap ip hlong (groups_around_zeros ip.groups)
    · exact ipv6_colonText ip

/-! ## Addresses -/

/-- An IPv6 address is not taken for four octets. -/
theorem ipv4_text_v6 (ip : Ipv6) : ipv4 ip.text.toList = none := by
  unfold Ipv6.text
  cases ip.mapped? with
  | some v4 =>
    have hnone : octet ("::ffff:" ++ v4.text).toList = none := by
      rw [String.toList_append]
      exact octet_of_noDigit (NoDigit.colon _ _)
    simp only [ipv4, hnone, bind, Option.bind]
  | none =>
    simp only
    apply ipv4_of_no_point
    split
    · simp only [String.toList_append, List.mem_append, not_or]
      exact ⟨⟨point_notMem_colonText _, by decide⟩, point_notMem_colonText _⟩
    · exact point_notMem_colonText _

/-- An address is read from its text. -/
theorem Address.read?_text (a : Address) : Address.read? a.text = some a := by
  unfold Address.read? whole? address
  cases a with
  | v4 ip =>
    have hread := ipv4_text ip NoDigit.nil
    rw [List.append_nil] at hread
    simp only [Address.text, hread]
  | v6 ip => simp only [Address.text, ipv4_text_v6, ipv6_text, Option.map_some]

/-! ## Blanks -/

theorem isBlank_of_mem_digits {n : Nat} {c : Char} (h : c ∈ Decimal.digits n) :
    isBlank c = false := by
  obtain ⟨ns, hns⟩ := numeral_digits n
  obtain ⟨d, hd⟩ := hns.digit_of_mem h
  exact isBlank_of_digitOf? hd

theorem isBlank_of_mem_ipv4 {ip : Ipv4} {c : Char} (h : c ∈ ip.text.toList) :
    isBlank c = false := by
  simp only [toList_text, List.mem_append, List.mem_cons] at h
  rcases h with ha | rfl | hb | rfl | hc | rfl | hd
  · exact isBlank_of_mem_digits ha
  · decide
  · exact isBlank_of_mem_digits hb
  · decide
  · exact isBlank_of_mem_digits hc
  · decide
  · exact isBlank_of_mem_digits hd

theorem isBlank_of_mem_colonText {gs : List UInt16} {c : Char} (h : c ∈ (colonText gs).toList) :
    isBlank c = false := by
  rcases mem_colonText h with rfl | ⟨d, hd⟩
  · decide
  · exact isBlank_of_digitOf? hd

theorem isBlank_of_all {cs : List Char} (h : (cs.all fun c => !isBlank c) = true) {c : Char}
    (hc : c ∈ cs) : isBlank c = false := by
  simpa using List.all_eq_true.1 h c hc

/-- No blank stands in the text of an address. -/
theorem isBlank_of_mem_text {a : Address} {c : Char} (h : c ∈ a.text.toList) :
    isBlank c = false := by
  cases a with
  | v4 ip => exact isBlank_of_mem_ipv4 h
  | v6 ip =>
    simp only [Address.text, Ipv6.text] at h
    cases hmapped : ip.mapped? with
    | some v4 =>
      simp only [hmapped, String.toList_append, List.mem_append] at h
      rcases h with hfront | hv4
      · exact isBlank_of_all (by decide) hfront
      · exact isBlank_of_mem_ipv4 hv4
    | none =>
      simp only [hmapped] at h
      split at h
      · simp only [String.toList_append, List.mem_append] at h
        rcases h with (hfront | hgap) | hback
        · exact isBlank_of_mem_colonText hfront
        · exact isBlank_of_all (by decide) hgap
        · exact isBlank_of_mem_colonText hback
      · exact isBlank_of_mem_colonText h

theorem trimStart_of_noBlank {cs : List Char} (h : ∀ c ∈ cs, isBlank c = false) :
    trimStart cs = cs := by
  cases cs with
  | nil => rfl
  | cons c cs =>
    rw [trimStart, List.dropWhile_cons, h c List.mem_cons_self]
    rfl

theorem trim_of_noBlank {s : String} (h : ∀ c ∈ s.toList, isBlank c = false) : trim s = s := by
  have hback : ∀ c ∈ s.toList.reverse, isBlank c = false := fun c hc => h c (List.mem_reverse.1 hc)
  rw [trim, trimChars, trimStart_of_noBlank h, trimStart_of_noBlank hback, List.reverse_reverse,
    String.ofList_toList]

/-- The canonical form of a canonical form is that form. -/
theorem canonical?_of_canonical? {raw s : String} (h : canonical? raw = some s) :
    canonical? s = some s := by
  obtain ⟨a, -, rfl⟩ := Option.map_eq_some_iff.1 h
  rw [canonical?, trim_of_noBlank fun _ => isBlank_of_mem_text, Address.read?_text, Option.map_some]

end Portcullis.Net
