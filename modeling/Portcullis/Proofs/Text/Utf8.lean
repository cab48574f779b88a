import Portcullis.Text.Utf8

/-!
# Reading back what was written

The bytes of a text are read as that text again.

* `Utf8.front?_encodeChar`: the bytes of a character are read as that character, whatever comes
  after them.
* `Utf8.decode_encode` and `Utf8.decode?_encode`: so the bytes of a text are read as its
  characters, one by one.
* `Utf8.eq_encode_of_decode?`: no other bytes are read as that text.
-/

namespace Portcullis.Text.Utf8

/-! ## The parts of one character -/

theorem tail?_ofNat {n : Nat} (h : n < 64) : tail? (UInt8.ofNat (n + 0x80)) = some n := by
  have hnat : (UInt8.ofNat (n + 0x80)).toNat = n + 0x80 := by
    rw [UInt8.toNat_ofNat']
    omega
  unfold tail?
  rw [if_pos]
  · rw [hnat, Nat.add_sub_cancel]
  · simp only [Bool.and_eq_true, decide_eq_true_eq, UInt8.le_iff_toNat_le, hnat]
    exact ⟨Nat.le_add_left _ _, show n + 128 ≤ 191 by omega⟩

theorem charAt?_toNat {c : Char} {least : Nat} (h : least ≤ c.val.toNat) :
    charAt? least c.val.toNat = some c := by
  have hvalid : c.val.toNat.isValidChar := c.valid
  unfold charAt?
  rw [dif_pos ⟨h, hvalid⟩]
  rfl

/-- No code point lies beyond the last plane. -/
theorem val_toNat_lt (c : Char) : c.val.toNat < 0x110000 := by
  have hvalid : c.val.toNat.isValidChar := c.valid
  unfold Nat.isValidChar at hvalid
  omega

/-! ## One character

A leading byte falls in the range of its length, and the payloads of the bytes make up the code
point. -/

theorem front?_one {n : Nat} (h : n < 0x80) (rest : List UInt8) :
    front? (UInt8.ofNat n :: rest) = (charAt? 0 n).map (·, 1) := by
  have hnat : (UInt8.ofNat n).toNat = n := by
    rw [UInt8.toNat_ofNat']
    omega
  have hlow : UInt8.ofNat n < 0x80 := by
    rw [UInt8.lt_iff_toNat_lt, hnat]
    exact h
  unfold front?
  simp only [if_pos hlow, hnat]

theorem front?_two {p q : Nat} (hleast : 2 ≤ p) (hp : p < 32) (hq : q < 64) (rest : List UInt8) :
    front? (UInt8.ofNat (p + 0xC0) :: UInt8.ofNat (q + 0x80) :: rest) =
      (charAt? 0x80 (p * 64 + q)).map (·, 2) := by
  have hnat : (UInt8.ofNat (p + 0xC0)).toNat = p + 0xC0 := by
    rw [UInt8.toNat_ofNat']
    omega
  have hrange : ¬UInt8.ofNat (p + 0xC0) < 0x80 ∧
      (0xC2 ≤ UInt8.ofNat (p + 0xC0) ∧ UInt8.ofNat (p + 0xC0) ≤ 0xDF) := by
    simp only [UInt8.lt_iff_toNat_lt, UInt8.le_iff_toNat_le, hnat, UInt8.reduceToNat]
    omega
  obtain ⟨hlow, hlead⟩ := hrange
  unfold front?
  simp only [if_neg hlow, hlead, decide_true, Bool.and_self, if_true, tail?_ofNat hq, hnat,
    Nat.add_sub_cancel]
  rfl

theorem front?_three {p q r : Nat} (hp : p < 16) (hq : q < 64) (hr : r < 64)
    (rest : List UInt8) :
    front? (UInt8.ofNat (p + 0xE0) :: UInt8.ofNat (q + 0x80) :: UInt8.ofNat (r + 0x80) :: rest) =
      (charAt? 0x800 ((p * 64 + q) * 64 + r)).map (·, 3) := by
  have hnat : (UInt8.ofNat (p + 0xE0)).toNat = p + 0xE0 := by
    rw [UInt8.toNat_ofNat']
    omega
  have hrange : ¬UInt8.ofNat (p + 0xE0) < 0x80 ∧ ¬UInt8.ofNat (p + 0xE0) ≤ 0xDF ∧
      (0xE0 ≤ UInt8.ofNat (p + 0xE0) ∧ UInt8.ofNat (p + 0xE0) ≤ 0xEF) := by
    simp only [UInt8.lt_iff_toNat_lt, UInt8.le_iff_toNat_le, hnat, UInt8.reduceToNat]
    omega
  obtain ⟨hlow, htwo, hlead⟩ := hrange
  unfold front?
  simp only [if_neg hlow, htwo, decide_false, Bool.and_false, Bool.false_eq_true, if_false, hlead,
    decide_true, Bool.and_self, if_true, tail?_ofNat hq, tail?_ofNat hr, hnat, Nat.add_sub_cancel]
  rfl

theorem front?_four {p q r t : Nat} (hp : p < 5) (hq : q < 64) (hr : r < 64) (ht : t < 64)
    (rest : List UInt8) :
    front? (UInt8.ofNat (p + 0xF0) :: UInt8.ofNat (q + 0x80) :: UInt8.ofNat (r + 0x80) ::
        UInt8.ofNat (t + 0x80) :: rest) =
      (charAt? 0x10000 (((p * 64 + q) * 64 + r) * 64 + t)).map (·, 4) := by
  have hnat : (UInt8.ofNat (p + 0xF0)).toNat = p + 0xF0 := by
    rw [UInt8.toNat_ofNat']
    omega
  have hrange : ¬UInt8.ofNat (p + 0xF0) < 0x80 ∧ ¬UInt8.ofNat (p + 0xF0) ≤ 0xDF ∧
      ¬UInt8.ofNat (p + 0xF0) ≤ 0xEF ∧
      (0xF0 ≤ UInt8.ofNat (p + 0xF0) ∧ UInt8.ofNat (p + 0xF0) ≤ 0xF4) := by
    simp only [UInt8.lt_iff_toNat_lt, UInt8.le_iff_toNat_le, hnat, UInt8.reduceToNat]
    omega
  obtain ⟨hlow, htwo, hthree, hlead⟩ := hrange
  unfold front?
  simp only [if_neg hlow, htwo, hthree, decide_false, Bool.and_false, Bool.false_eq_true,
    if_false, hlead, decide_true, Bool.and_self, if_true, tail?_ofNat hq, tail?_ofNat hr,
    tail?_ofNat ht, hnat, Nat.add_sub_cancel]
  rfl

/-- The bytes of a character are read as that character. -/
theorem front?_encodeChar (c : Char) (rest : List UInt8) :
    front? (String.utf8EncodeChar c ++ rest) = some (c, (String.utf8EncodeChar c).length) := by
  have hlt := val_toNat_lt c
  unfold String.utf8EncodeChar
  simp only []
  split
  · next h =>
    show front? (UInt8.ofNat c.val.toNat :: rest) = some (c, 1)
    rw [front?_one (show c.val.toNat < 128 by omega), charAt?_toNat (Nat.zero_le _)]
    rfl
  · split
    · next hone htwo =>
      have hsum : c.val.toNat / 64 % 32 * 64 + c.val.toNat % 64 = c.val.toNat := by omega
      show front? (UInt8.ofNat (c.val.toNat / 64 % 32 + 192) ::
        UInt8.ofNat (c.val.toNat % 64 + 128) :: rest) = some (c, 2)
      rw [front?_two (by omega) (by omega) (by omega), hsum,
        charAt?_toNat (show 128 ≤ c.val.toNat by omega)]
      rfl
    · split
      · next hone htwo hthree =>
        have hsum : (c.val.toNat / 4096 % 16 * 64 + c.val.toNat / 64 % 64) * 64 +
            c.val.toNat % 64 = c.val.toNat := by omega
        show front? (UInt8.ofNat (c.val.toNat / 4096 % 16 + 224) ::
          UInt8.ofNat (c.val.toNat / 64 % 64 + 128) ::
          UInt8.ofNat (c.val.toNat % 64 + 128) :: rest) = some (c, 3)
        rw [front?_three (by omega) (by omega) (by omega), hsum,
          charAt?_toNat (show 2048 ≤ c.val.toNat by omega)]
        rfl
      · next hone htwo hthree =>
        have hsum : ((c.val.toNat / 262144 % 8 * 64 + c.val.toNat / 4096 % 64) * 64 +
            c.val.toNat / 64 % 64) * 64 + c.val.toNat % 64 = c.val.toNat := by omega
        show front? (UInt8.ofNat (c.val.toNat / 262144 % 8 + 240) ::
          UInt8.ofNat (c.val.toNat / 4096 % 64 + 128) ::
          UInt8.ofNat (c.val.toNat / 64 % 64 + 128) ::
          UInt8.ofNat (c.val.toNat % 64 + 128) :: rest) = some (c, 4)
        rw [front?_four (by omega) (by omega) (by omega) (by omega), hsum,
          charAt?_toNat (show 65536 ≤ c.val.toNat by omega)]
        rfl

/-! ## Whole texts -/

/-- What is left to list of an array, after the bytes that are listed already. -/
theorem toList_loop (bytes : ByteArray) (i : Nat) (done : List UInt8) :
    ByteArray.toList.loop bytes i done = done.reverse ++ bytes.data.toList.drop i := by
  induction i, done using ByteArray.toList.loop.induct bytes with
  | case1 i done h ih =>
    have hi : i < bytes.data.toList.length := h
    have hget : bytes.get! i = bytes.data.toList[i] := getElem!_pos bytes.data i h
    rw [ByteArray.toList.loop, if_pos h, ih, List.drop_eq_getElem_cons hi, hget,
      List.reverse_cons, List.append_assoc]
    rfl
  | case2 i done h =>
    have hi : bytes.data.toList.length ≤ i := Nat.le_of_not_lt h
    rw [ByteArray.toList.loop, if_neg h, List.drop_eq_nil_of_le hi, List.append_nil]

/-- The bytes of a text, character by character. -/
theorem encode_eq (s : String) : encode s = s.toList.flatMap String.utf8EncodeChar := by
  unfold encode
  rw [String.toUTF8_eq_toByteArray, ← String.utf8Encode_toList, List.utf8Encode,
    ByteArray.toList, toList_loop, List.toList_data_toByteArray]
  rfl

/-- A text is read as its characters, without stray bytes. -/
theorem decode_encode (s : String) : decode (encode s) = Scan.ofString s := by
  rw [encode_eq]
  show _ = s.toList.map some
  induction s.toList with
  | nil => rw [List.flatMap_nil, decode, List.map_nil]
  | cons c cs ih =>
    rw [List.flatMap_cons, List.map_cons, ← ih]
    have hfront := front?_encodeChar c (cs.flatMap String.utf8EncodeChar)
    obtain ⟨b, r, hbytes⟩ := List.exists_cons_of_ne_nil (String.utf8EncodeChar_ne_nil (c := c))
    rw [hbytes, List.cons_append] at hfront ⊢
    rw [decode]
    simp only [hfront]
    rw [List.length_cons, Nat.add_sub_cancel, List.drop_left]

theorem decode?_encode (s : String) : decode? (encode s) = some s := by
  have hall : (s.toList.map some).mapM id = some s.toList := by
    induction s.toList with
    | nil => rfl
    | cons c cs ih => simp [ih]
  unfold decode?
  rw [decode_encode, Scan.ofString, hall, Option.map_some, String.ofList_toList]

/-! ## Back to bytes

Each text has one encoding only, so what was read as a text are the bytes of that text. -/

theorem toNat_of_tail? {b : UInt8} {n : Nat} (h : tail? b = some n) :
    b.toNat = n + 0x80 ∧ n < 64 := by
  unfold tail? at h
  split at h
  · next hrange =>
    simp only [Bool.and_eq_true, decide_eq_true_eq, UInt8.le_iff_toNat_le,
      UInt8.reduceToNat] at hrange
    obtain rfl := Option.some.inj h
    omega
  · cases h

theorem toNat_of_charAt? {least n : Nat} {c : Char} (h : charAt? least n = some c) :
    c.val.toNat = n ∧ least ≤ n := by
  unfold charAt? at h
  by_cases hn : least ≤ n ∧ n.isValidChar
  · rw [dif_pos hn] at h
    obtain rfl := Option.some.inj h
    exact ⟨rfl, hn.1⟩
  · rw [dif_neg hn] at h
    cases h

theorem ofNat_of_toNat {b : UInt8} {n : Nat} (h : b.toNat = n) : UInt8.ofNat n = b := by
  rw [← h, UInt8.ofNat_toNat]

section Lengths

variable {c : Char} {a b d e : UInt8} {x y z : Nat}

theorem encodeChar_one (ha : a.toNat < 0x80) (hc : charAt? 0 a.toNat = some c) :
    String.utf8EncodeChar c = [a] := by
  obtain ⟨hval, -⟩ := toNat_of_charAt? hc
  unfold String.utf8EncodeChar
  simp only []
  rw [if_pos (show c.val.toNat ≤ 127 by omega)]
  exact congrArg (fun b => [b]) (ofNat_of_toNat hval.symm)

theorem encodeChar_two (ha : 0xC2 ≤ a.toNat ∧ a.toNat ≤ 0xDF) (hb : tail? b = some x)
    (hc : charAt? 0x80 ((a.toNat - 0xC0) * 64 + x) = some c) :
    String.utf8EncodeChar c = [a, b] := by
  obtain ⟨hval, hleast⟩ := toNat_of_charAt? hc
  obtain ⟨hb, hx⟩ := toNat_of_tail? hb
  have h₀ : a.toNat = c.val.toNat / 64 % 32 + 192 := by omega
  have h₁ : b.toNat = c.val.toNat % 64 + 128 := by omega
  unfold String.utf8EncodeChar
  simp only []
  rw [if_neg (show ¬c.val.toNat ≤ 127 by omega), if_pos (show c.val.toNat ≤ 2047 by omega)]
  show [UInt8.ofNat (c.val.toNat / 64 % 32 + 192), UInt8.ofNat (c.val.toNat % 64 + 128)] = _
  rw [ofNat_of_toNat h₀, ofNat_of_toNat h₁]

theorem encodeChar_three (ha : 0xE0 ≤ a.toNat ∧ a.toNat ≤ 0xEF) (hb : tail? b = some x)
    (hd : tail? d = some y)
    (hc : charAt? 0x800 (((a.toNat - 0xE0) * 64 + x) * 64 + y) = some c) :
    String.utf8EncodeChar c = [a, b, d] := by
  obtain ⟨hval, hleast⟩ := toNat_of_charAt? hc
  obtain ⟨hb, hx⟩ := toNat_of_tail? hb
  obtain ⟨hd, hy⟩ := toNat_of_tail? hd
  have h₀ : a.toNat = c.val.toNat / 4096 % 16 + 224 := by omega
  have h₁ : b.toNat = c.val.toNat / 64 % 64 + 128 := by omega
  have h₂ : d.toNat = c.val.toNat % 64 + 128 := by omega
  unfold String.utf8EncodeChar
  simp only []
  rw [if_neg (show ¬c.val.toNat ≤ 127 by omega), if_neg (show ¬c.val.toNat ≤ 2047 by omega),
    if_pos (show c.val.toNat ≤ 65535 by omega)]
  show [UInt8.ofNat (c.val.toNat / 4096 % 16 + 224), UInt8.ofNat (c.val.toNat / 64 % 64 + 128),
    UInt8.ofNat (c.val.toNat % 64 + 128)] = _
  rw [ofNat_of_toNat h₀, ofNat_of_toNat h₁, ofNat_of_toNat h₂]

theorem encodeChar_four (ha : 0xF0 ≤ a.toNat ∧ a.toNat ≤ 0xF4) (hb : tail? b = some x)
    (hd : tail? d = some y) (he : tail? e = some z)
    (hc : charAt? 0x10000 ((((a.toNat - 0xF0) * 64 + x) * 64 + y) * 64 + z) = some c) :
    String.utf8EncodeChar c = [a, b, d, e] := by
  obtain ⟨hval, hleast⟩ := toNat_of_charAt? hc
  obtain ⟨hb, hx⟩ := toNat_of_tail? hb
  obtain ⟨hd, hy⟩ := toNat_of_tail? hd
  obtain ⟨he, hz⟩ := toNat_of_tail? he
  have h₀ : a.toNat = c.val.toNat / 262144 % 8 + 240 := by omega
  have h₁ : b.toNat = c.val.toNat / 4096 % 64 + 128 := by omega
  have h₂ : d.toNat = c.val.toNat / 64 % 64 + 128 := by omega
  have h₃ : e.toNat = c.val.toNat % 64 + 128 := by omega
  unfold String.utf8EncodeChar
  simp only []
  rw [if_neg (show ¬c.val.toNat ≤ 127 by omega), if_neg (show ¬c.val.toNat ≤ 2047 by omega),
    if_neg (show ¬c.val.toNat ≤ 65535 by omega)]
  show [UInt8.ofNat (c.val.toNat / 262144 % 8 + 240), UInt8.ofNat (c.val.toNat / 4096 % 64 + 128),
    UInt8.ofNat (c.val.toNat / 64 % 64 + 128), UInt8.ofNat (c.val.toNat % 64 + 128)] = _
  rw [ofNat_of_toNat h₀, ofNat_of_toNat h₁, ofNat_of_toNat h₂, ofNat_of_toNat h₃]

end Lengths

/-- A character is read from its own bytes. -/
theorem eq_of_front? {bytes : List UInt8} {c : Char} {n : Nat} (h : front? bytes = some (c, n)) :
    ∃ rest, bytes = String.utf8EncodeChar c ++ rest ∧ n = (String.utf8EncodeChar c).length := by
  unfold front? at h
  split at h
  · cases h
  · next a r =>
    simp only [UInt8.lt_iff_toNat_lt, UInt8.le_iff_toNat_le, UInt8.reduceToNat, Bool.and_eq_true,
      decide_eq_true_eq] at h
    split at h
    · next ha =>
      obtain ⟨c', hc, heq⟩ := Option.map_eq_some_iff.mp h
      cases heq
      rw [encodeChar_one ha hc]
      exact ⟨r, rfl, rfl⟩
    split at h
    · next hlow ha =>
      split at h
      · next b r =>
        simp only [bind, Option.bind_eq_some_iff, Option.map_eq_some_iff] at h
        obtain ⟨x, hx, c', hc, heq⟩ := h
        cases heq
        rw [encodeChar_two ha hx hc]
        exact ⟨r, rfl, rfl⟩
      · cases h
    split at h
    · next hlow htwo ha =>
      split at h
      · next b d r =>
        simp only [bind, Option.bind_eq_some_iff, Option.map_eq_some_iff] at h
        obtain ⟨x, hx, y, hy, c', hc, heq⟩ := h
        cases heq
        rw [encodeChar_three ha hx hy hc]
        exact ⟨r, rfl, rfl⟩
      · cases h
    split at h
    · next hlow htwo hthree ha =>
      split at h
      · next b d e r =>
        simp only [bind, Option.bind_eq_some_iff, Option.map_eq_some_iff] at h
        obtain ⟨x, hx, y, hy, z, hz, c', hc, heq⟩ := h
        cases heq
        rw [encodeChar_four ha hx hy hz hc]
        exact ⟨r, rfl, rfl⟩
      · cases h
    · cases h

/-- What is read without stray bytes are the bytes of what was read. -/
theorem eq_of_decode {bytes : List UInt8} {cs : List Char}
    (h : (decode bytes).mapM id = some cs) : bytes = cs.flatMap String.utf8EncodeChar := by
  induction bytes using decode.induct generalizing cs with
  | case1 =>
    rw [decode] at h
    cases h
    rfl
  | case2 b r c n hfront ih =>
    rw [decode] at h
    simp only [hfront, List.mapM_cons, id, bind, Option.bind_some, Option.bind_eq_some_iff] at h
    obtain ⟨cs', hcs', heq⟩ := h
    cases heq
    obtain ⟨rest, hbytes, rfl⟩ := eq_of_front? hfront
    obtain ⟨b', r', hchar⟩ := List.exists_cons_of_ne_nil (String.utf8EncodeChar_ne_nil (c := c))
    rw [hchar, List.cons_append] at hbytes
    obtain ⟨rfl, rfl⟩ := List.cons.inj hbytes
    rw [hchar, List.length_cons, Nat.add_sub_cancel, List.drop_left] at ih hcs'
    rw [List.flatMap_cons, hchar, List.cons_append, ← ih hcs']
  | case3 b r hfront ih =>
    rw [decode] at h
    simp only [hfront, List.mapM_cons, id, bind, Option.bind_none] at h
    cases h

/-- Bytes that are read as a text are the bytes of that text. -/
theorem eq_encode_of_decode? {bytes : List UInt8} {s : String} (h : decode? bytes = some s) :
    bytes = encode s := by
  obtain ⟨cs, hcs, rfl⟩ := Option.map_eq_some_iff.mp h
  rw [encode_eq, String.toList_ofList]
  exact eq_of_decode hcs

end Portcullis.Text.Utf8
