import ProcedureCall.Text.Octets

/-!
# Text as octets and back

The octets of a text are those of its characters (`toOctets_eq`), and where they are read, each
character comes back and the rest is read on (`charactersAfter_encoded`). So a text that is written
as octets is read as it was (`ofOctets_toOctets`).
-/

namespace ProcedureCall.Text

/-! ### The octets of a text -/

theorem byteArray_toList_loop (bytes : ByteArray) (i : Nat) (r : List UInt8) :
    ByteArray.toList.loop bytes i r = r.reverse ++ bytes.data.toList.drop i := by
  fun_induction ByteArray.toList.loop bytes i r with
  | case1 i r h ih =>
    have hi : i < bytes.data.toList.length := by simpa using h
    rw [ih, List.drop_eq_getElem_cons hi]
    simp [ByteArray.get!, h]
  | case2 i r h =>
    rw [List.drop_eq_nil_of_le (by simpa using Nat.le_of_not_lt h)]
    simp

/-- The octets of a text are those of its characters. -/
theorem toOctets_eq (s : List Char) : toOctets s = s.flatMap String.utf8EncodeChar := by
  unfold toOctets ByteArray.toList
  rw [byteArray_toList_loop]
  change (String.ofList s).toByteArray.data.toList.drop 0 = _
  rw [String.toByteArray_ofList, List.drop_zero, List.utf8Encode, List.toList_data_toByteArray]

/-! ### Reading them -/

/-- An octet that begins a character of several octets begins to read it. -/
theorem charactersAfter_first {p : Partial} {byte : Nat} (hbyte : byte < 256)
    (h : firstOctet byte = some (.inr p)) (rest : List UInt8) :
    charactersAfter none (UInt8.ofNat byte :: rest) = charactersAfter (some p) rest := by
  rw [charactersAfter]
  simp only [UInt8.toNat_ofNat', Nat.mod_eq_of_lt hbyte, h]

/-- An octet within the bounds goes on where more than one is missing. -/
theorem charactersAfter_next {missing low high bits b : Nat} (hb : b < 64) (hlow : low ≤ b + 0x80)
    (hhigh : b + 0x80 ≤ high) (rest : List UInt8) :
    charactersAfter (some ⟨missing + 2, low, high, bits⟩) (UInt8.ofNat (b + 0x80) :: rest) =
      charactersAfter (some ⟨missing + 1, 0x80, 0xBF, 64 * bits + b⟩) rest := by
  have hoctet : (UInt8.ofNat (b + 0x80)).toNat = b + 0x80 := by
    rw [UInt8.toNat_ofNat', Nat.mod_eq_of_lt (by omega)]
  rw [charactersAfter]
  dsimp only
  rw [hoctet, if_pos ⟨hlow, hhigh⟩, if_neg (by omega), show (b + 0x80) % 64 = b by omega]
  rfl

/-- The last octet that is missing makes the character. -/
theorem charactersAfter_last {low high bits b : Nat} (hb : b < 64) (hlow : low ≤ b + 0x80)
    (hhigh : b + 0x80 ≤ high) (rest : List UInt8) :
    charactersAfter (some ⟨1, low, high, bits⟩) (UInt8.ofNat (b + 0x80) :: rest) =
      some (Char.ofNat (64 * bits + b)) :: charactersAfter none rest := by
  have hoctet : (UInt8.ofNat (b + 0x80)).toNat = b + 0x80 := by
    rw [UInt8.toNat_ofNat', Nat.mod_eq_of_lt (by omega)]
  rw [charactersAfter]
  dsimp only
  rw [hoctet, if_pos ⟨hlow, hhigh⟩, if_pos (Nat.le_refl 1), show (b + 0x80) % 64 = b by omega]

/-- Two octets of a code point that needs two. -/
theorem charactersAfter_two {v : Nat} (hlow : 0x80 ≤ v) (hhigh : v < 0x800) (rest : List UInt8) :
    charactersAfter none
        (UInt8.ofNat (v / 64 % 0x20 + 0xC0) :: UInt8.ofNat (v % 0x40 + 0x80) :: rest) =
      some (Char.ofNat v) :: charactersAfter none rest := by
  have hfirst : firstOctet (v / 64 % 0x20 + 0xC0) = some (.inr ⟨1, 0x80, 0xBF, v / 64⟩) := by
    unfold firstOctet
    rw [if_neg (by omega), if_neg (by omega), if_pos (by omega),
      show v / 64 % 0x20 + 0xC0 - 0xC0 = v / 64 by omega]
  rw [charactersAfter_first (by omega) hfirst,
    charactersAfter_last (by omega) (by omega) (by omega),
    show 64 * (v / 64) + v % 0x40 = v by omega]

/-- What the first of three octets begins, and that the second one is within its bounds. The
surrogates are left out by the bound of the second octet. -/
theorem exists_firstOctet_three {v : Nat} (hlow : 0x800 ≤ v) (hhigh : v < 0x10000)
    (hvalid : v < 0xD800 ∨ 0xDFFF < v) :
    ∃ low high, firstOctet (v / 4096 % 0x10 + 0xE0) = some (.inr ⟨2, low, high, v / 4096⟩) ∧
      low ≤ v / 64 % 0x40 + 0x80 ∧ v / 64 % 0x40 + 0x80 ≤ high := by
  unfold firstOctet
  rw [if_neg (by omega), if_neg (by omega), if_neg (by omega)]
  by_cases hzero : v / 4096 = 0
  · exact ⟨0xA0, 0xBF, by rw [if_pos (by omega), hzero], by omega, by omega⟩
  · by_cases hthirteen : v / 4096 = 13
    · exact ⟨0x80, 0x9F, by rw [if_neg (by omega), if_pos (by omega), hthirteen], by omega,
        by omega⟩
    · refine ⟨0x80, 0xBF, ?_, by omega, by omega⟩
      rw [if_neg (by omega), if_neg (by omega), if_pos (by omega),
        show v / 4096 % 0x10 + 0xE0 - 0xE0 = v / 4096 by omega]

theorem charactersAfter_three {v : Nat} (hlow : 0x800 ≤ v) (hhigh : v < 0x10000)
    (hvalid : v < 0xD800 ∨ 0xDFFF < v) (rest : List UInt8) :
    charactersAfter none
        (UInt8.ofNat (v / 4096 % 0x10 + 0xE0) :: UInt8.ofNat (v / 64 % 0x40 + 0x80) ::
          UInt8.ofNat (v % 0x40 + 0x80) :: rest) =
      some (Char.ofNat v) :: charactersAfter none rest := by
  obtain ⟨low, high, hfirst, hsecond, hsecond'⟩ := exists_firstOctet_three hlow hhigh hvalid
  rw [charactersAfter_first (by omega) hfirst,
    charactersAfter_next (by omega) hsecond hsecond',
    charactersAfter_last (by omega) (by omega) (by omega),
    show 64 * (64 * (v / 4096) + v / 64 % 0x40) + v % 0x40 = v by omega]

/-- What the first of four octets begins, and that the second one is within its bounds. -/
theorem exists_firstOctet_four {v : Nat} (hlow : 0x10000 ≤ v) (hhigh : v < 0x110000) :
    ∃ low high, firstOctet (v / 262144 % 0x08 + 0xF0) = some (.inr ⟨3, low, high, v / 262144⟩) ∧
      low ≤ v / 4096 % 0x40 + 0x80 ∧ v / 4096 % 0x40 + 0x80 ≤ high := by
  unfold firstOctet
  rw [if_neg (by omega), if_neg (by omega), if_neg (by omega), if_neg (by omega),
    if_neg (by omega), if_neg (by omega)]
  by_cases hzero : v / 262144 = 0
  · exact ⟨0x90, 0xBF, by rw [if_pos (by omega), hzero], by omega, by omega⟩
  · by_cases hfour : v / 262144 = 4
    · exact ⟨0x80, 0x8F, by rw [if_neg (by omega), if_neg (by omega), if_pos (by omega), hfour],
        by omega, by omega⟩
    · refine ⟨0x80, 0xBF, ?_, by omega, by omega⟩
      rw [if_neg (by omega), if_pos (by omega),
        show v / 262144 % 0x08 + 0xF0 - 0xF0 = v / 262144 by omega]

theorem charactersAfter_four {v : Nat} (hlow : 0x10000 ≤ v) (hhigh : v < 0x110000)
    (rest : List UInt8) :
    charactersAfter none
        (UInt8.ofNat (v / 262144 % 0x08 + 0xF0) :: UInt8.ofNat (v / 4096 % 0x40 + 0x80) ::
          UInt8.ofNat (v / 64 % 0x40 + 0x80) :: UInt8.ofNat (v % 0x40 + 0x80) :: rest) =
      some (Char.ofNat v) :: charactersAfter none rest := by
  obtain ⟨low, high, hfirst, hsecond, hsecond'⟩ := exists_firstOctet_four hlow hhigh
  rw [charactersAfter_first (by omega) hfirst,
    charactersAfter_next (by omega) hsecond hsecond',
    charactersAfter_next (by omega) (by omega) (by omega),
    charactersAfter_last (by omega) (by omega) (by omega),
    show 64 * (64 * (64 * (v / 262144) + v / 4096 % 0x40) + v / 64 % 0x40) + v % 0x40 = v by omega]

/-- One octet of a code point that needs no more. -/
theorem charactersAfter_one {v : Nat} (hv : v < 0x80) (rest : List UInt8) :
    charactersAfter none (UInt8.ofNat v :: rest) =
      some (Char.ofNat v) :: charactersAfter none rest := by
  have hoctet : (UInt8.ofNat v).toNat = v := by rw [UInt8.toNat_ofNat', Nat.mod_eq_of_lt (by omega)]
  have hfirst : firstOctet v = some (.inl (Char.ofNat v)) := if_pos hv
  rw [charactersAfter]
  simp only [hoctet, hfirst]

/-- The octets of a character are read as that character. -/
theorem charactersAfter_encoded (c : Char) (rest : List UInt8) :
    charactersAfter none (String.utf8EncodeChar c ++ rest) =
      some c :: charactersAfter none rest := by
  have hvalid : c.val.toNat < 0xD800 ∨ 0xDFFF < c.val.toNat ∧ c.val.toNat < 0x110000 := c.valid
  have hchar : some (Char.ofNat c.val.toNat) :: charactersAfter none rest =
      some c :: charactersAfter none rest := by
    rw [show Char.ofNat c.val.toNat = c from Char.ofNat_toNat c]
  -- how many octets there are goes by the bounds of the code point
  fun_cases String.utf8EncodeChar c with
  | case1 v hone => exact (charactersAfter_one (v := c.val.toNat) (by omega) rest).trans hchar
  | case2 v hone htwo => exact (charactersAfter_two (by omega) (by omega) rest).trans hchar
  | case3 v hone htwo hthree =>
    exact (charactersAfter_three (by omega) (by omega) (by omega) rest).trans hchar
  | case4 v hone htwo hthree =>
    exact (charactersAfter_four (by omega) (by omega) rest).trans hchar

/-- A text written as octets is read as it was. -/
theorem characters_toOctets (s : List Char) : characters (toOctets s) = s.map some := by
  rw [toOctets_eq, characters]
  induction s with
  | nil => rfl
  | cons c s ih => rw [List.flatMap_cons, charactersAfter_encoded, ih, List.map_cons]

theorem ofOctets_toOctets (s : List Char) : ofOctets (toOctets s) = s := by
  rw [ofOctets, characters_toOctets, List.map_map]
  exact List.map_id s

end ProcedureCall.Text
