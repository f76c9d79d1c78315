import HostMonitor.Text.Utf8

namespace HostMonitor.Text

theorem toList_byteArray_loop (bs : ByteArray) (i : Nat) (r : List UInt8) :
    ByteArray.toList.loop bs i r = r.reverse ++ bs.data.toList.drop i := by
  induction i, r using ByteArray.toList.loop.induct bs with
  | case1 i r inside ih =>
    have inside' : i < bs.data.toList.length := inside
    rw [ByteArray.toList.loop, if_pos inside, ih, List.drop_eq_getElem_cons inside']
    have byte : bs.get! i = bs.data.toList[i] := getElem!_pos bs.data i inside
    simp [byte]
  | case2 i r outside =>
    have outside' : bs.data.toList.length ≤ i := Nat.le_of_not_lt outside
    rw [ByteArray.toList.loop, if_neg outside, List.drop_eq_nil_of_le outside', List.append_nil]

theorem toList_byteArray (bs : ByteArray) : bs.toList = bs.data.toList :=
  toList_byteArray_loop bs 0 []

theorem bytes_eq (s : String) : bytes s = s.toList.flatMap String.utf8EncodeChar := by
  have encoded : s.toUTF8 = (s.toList.flatMap String.utf8EncodeChar).toByteArray :=
    String.utf8Encode_toList.symm
  rw [bytes, encoded, toList_byteArray, List.data_toByteArray]

variable {b : UInt8} {bs : List UInt8} {code owed : Nat} {low high : UInt8}

theorem continuation?_eq : continuation? b =
    if b.toNat < 0x80 then some (0, 0x80, 0xbf)
    else if 0xc2 ≤ b.toNat ∧ b.toNat ≤ 0xdf then some (1, 0x80, 0xbf)
    else if b.toNat = 0xe0 then some (2, 0xa0, 0xbf)
    else if b.toNat = 0xed then some (2, 0x80, 0x9f)
    else if 0xe1 ≤ b.toNat ∧ b.toNat ≤ 0xef then some (2, 0x80, 0xbf)
    else if b.toNat = 0xf0 then some (3, 0x90, 0xbf)
    else if 0xf1 ≤ b.toNat ∧ b.toNat ≤ 0xf3 then some (3, 0x80, 0xbf)
    else if b.toNat = 0xf4 then some (3, 0x80, 0x8f)
    else none := by
  simp only [continuation?, UInt8.lt_iff_toNat_lt, UInt8.le_iff_toNat_le, Bool.and_eq_true,
    decide_eq_true_eq, beq_iff_eq, ← UInt8.toNat_inj]
  rfl

theorem continuation?_one (small : b.toNat < 0x80) : continuation? b = some (0, 0x80, 0xbf) :=
  if_pos small

theorem continuation?_two (least : 0xc2 ≤ b.toNat) (most : b.toNat ≤ 0xdf) :
    continuation? b = some (1, 0x80, 0xbf) := by
  rw [continuation?_eq, if_neg (by omega), if_pos ⟨least, most⟩]

/-- The second byte is bounded so that no shorter sequence has the same payload, and none has a
surrogate. -/
theorem continuation?_three (least : 0xe0 ≤ b.toNat) (most : b.toNat ≤ 0xef) :
    ∃ low high, continuation? b = some (2, low, high) ∧
      (low = 0x80 ∨ low = 0xa0 ∧ b.toNat = 0xe0) ∧
      (high = 0xbf ∨ high = 0x9f ∧ b.toNat = 0xed) := by
  rw [continuation?_eq, if_neg (by omega), if_neg (by omega)]
  by_cases first : b.toNat = 0xe0
  · rw [if_pos first]
    exact ⟨_, _, rfl, .inr ⟨rfl, first⟩, .inl rfl⟩
  rw [if_neg first]
  by_cases surrogate : b.toNat = 0xed
  · rw [if_pos surrogate]
    exact ⟨_, _, rfl, .inl rfl, .inr ⟨rfl, surrogate⟩⟩
  · rw [if_neg surrogate, if_pos (by omega)]
    exact ⟨_, _, rfl, .inl rfl, .inl rfl⟩

theorem continuation?_four (least : 0xf0 ≤ b.toNat) (most : b.toNat ≤ 0xf4) :
    ∃ low high, continuation? b = some (3, low, high) ∧
      (low = 0x80 ∨ low = 0x90 ∧ b.toNat = 0xf0) ∧
      (high = 0xbf ∨ high = 0x8f ∧ b.toNat = 0xf4) := by
  rw [continuation?_eq, if_neg (by omega), if_neg (by omega), if_neg (by omega),
    if_neg (by omega), if_neg (by omega)]
  by_cases first : b.toNat = 0xf0
  · rw [if_pos first]
    exact ⟨_, _, rfl, .inr ⟨rfl, first⟩, .inl rfl⟩
  rw [if_neg first]
  by_cases last : b.toNat = 0xf4
  · rw [if_neg (by omega), if_pos last]
    exact ⟨_, _, rfl, .inl rfl, .inr ⟨rfl, last⟩⟩
  · rw [if_pos (by omega)]
    exact ⟨_, _, rfl, .inl rfl, .inl rfl⟩

theorem decodeFrom_lead {n : Nat} (many : continuation? b = some (n + 1, low, high)) :
    decodeFrom .start (b :: bs) =
      decodeFrom (.inside (leadBits (n + 1) b) (n + 1) low high) bs := by
  simp [decodeFrom, Utf8State.lead, many]

variable {n : Nat}

theorem toNat_byte (small : n < 0x100) : (UInt8.ofNat n).toNat = n :=
  UInt8.toNat_ofNat_of_lt' small

theorem toNat_tail : (UInt8.ofNat (n % 64 + 128)).toNat = n % 64 + 128 := toNat_byte (by omega)

theorem decodeFrom_second (least : low.toNat ≤ n % 64 + 128) (most : n % 64 + 128 ≤ high.toNat) :
    decodeFrom (.inside code (owed + 2) low high) (.ofNat (n % 64 + 128) :: bs) =
      decodeFrom (.inside (code * 64 + n % 64) (owed + 1) 0x80 0xbf) bs := by
  have payload : (n % 64 + 128) % 64 = n % 64 := by omega
  rw [decodeFrom, if_pos (by simp only [UInt8.le_iff_toNat_le, toNat_tail]; simp [least, most]),
    if_neg (by omega), toNat_tail, payload]
  rfl

theorem decodeFrom_further :
    decodeFrom (.inside code (owed + 2) 0x80 0xbf) (.ofNat (n % 64 + 128) :: bs) =
      decodeFrom (.inside (code * 64 + n % 64) (owed + 1) 0x80 0xbf) bs :=
  decodeFrom_second (Nat.le_add_left 128 _) (show n % 64 + 128 ≤ 191 by omega)

theorem decodeFrom_last :
    decodeFrom (.inside code 1 0x80 0xbf) (.ofNat (n % 64 + 128) :: bs) =
      Char.ofNat (code * 64 + n % 64) :: decodeFrom .start bs := by
  have most : n % 64 + 128 ≤ 191 := by omega
  have payload : (n % 64 + 128) % 64 = n % 64 := by omega
  rw [decodeFrom, if_pos (by simp only [UInt8.le_iff_toNat_le, toNat_tail]; simp [most]),
    if_pos (by omega), toNat_tail, payload]

theorem decodeFrom_one (most : n ≤ 0x7f) :
    decodeFrom .start (UInt8.ofNat n :: bs) = Char.ofNat n :: decodeFrom .start bs := by
  have lead : (UInt8.ofNat n).toNat = n := toNat_byte (by omega)
  simp only [decodeFrom, Utf8State.lead, continuation?_one (b := .ofNat n) (by omega), lead]
  rfl

theorem decodeFrom_two (least : 0x80 ≤ n) (most : n ≤ 0x7ff) :
    decodeFrom .start (.ofNat (n / 64 % 32 + 192) :: .ofNat (n % 64 + 128) :: bs) =
      Char.ofNat n :: decodeFrom .start bs := by
  have lead : (UInt8.ofNat (n / 64 % 32 + 192)).toNat = n / 64 % 32 + 192 := toNat_byte (by omega)
  have payload : leadBits 1 (.ofNat (n / 64 % 32 + 192)) = n / 64 := by
    simp only [leadBits, lead]
    omega
  have code : n / 64 * 64 + n % 64 = n := by omega
  rw [decodeFrom_lead (continuation?_two (by omega) (by omega)), decodeFrom_last, payload, code]

theorem decodeFrom_three (least : 0x800 ≤ n) (most : n ≤ 0xffff)
    (valid : n < 0xd800 ∨ 0xdfff < n) :
    decodeFrom .start (.ofNat (n / 4096 % 16 + 224) :: .ofNat (n / 64 % 64 + 128) ::
      .ofNat (n % 64 + 128) :: bs) = Char.ofNat n :: decodeFrom .start bs := by
  have lead : (UInt8.ofNat (n / 4096 % 16 + 224)).toNat = n / 4096 % 16 + 224 :=
    toNat_byte (by omega)
  have payload : leadBits 2 (.ofNat (n / 4096 % 16 + 224)) = n / 4096 := by
    simp only [leadBits, lead]
    omega
  have code : (n / 4096 * 64 + n / 64 % 64) * 64 + n % 64 = n := by omega
  obtain ⟨low, high, many, lows, highs⟩ :=
    continuation?_three (b := .ofNat (n / 4096 % 16 + 224)) (by omega) (by omega)
  rw [lead] at lows highs
  have above : low.toNat ≤ n / 64 % 64 + 128 := by
    rcases lows with rfl | ⟨rfl, first⟩
    · exact Nat.le_add_left 128 _
    · show 160 ≤ _
      omega
  have below : n / 64 % 64 + 128 ≤ high.toNat := by
    rcases highs with rfl | ⟨rfl, surrogate⟩
    · show _ ≤ 191
      omega
    · show _ ≤ 159
      omega
  rw [decodeFrom_lead many, decodeFrom_second above below, decodeFrom_last, payload, code]

theorem decodeFrom_four (least : 0x10000 ≤ n) (most : n < 0x110000) :
    decodeFrom .start (.ofNat (n / 262144 % 8 + 240) :: .ofNat (n / 4096 % 64 + 128) ::
      .ofNat (n / 64 % 64 + 128) :: .ofNat (n % 64 + 128) :: bs) =
      Char.ofNat n :: decodeFrom .start bs := by
  have lead : (UInt8.ofNat (n / 262144 % 8 + 240)).toNat = n / 262144 % 8 + 240 :=
    toNat_byte (by omega)
  have payload : leadBits 3 (.ofNat (n / 262144 % 8 + 240)) = n / 262144 := by
    simp only [leadBits, lead]
    omega
  have code : ((n / 262144 * 64 + n / 4096 % 64) * 64 + n / 64 % 64) * 64 + n % 64 = n := by omega
  obtain ⟨low, high, many, lows, highs⟩ :=
    continuation?_four (b := .ofNat (n / 262144 % 8 + 240)) (by omega) (by omega)
  rw [lead] at lows highs
  have above : low.toNat ≤ n / 4096 % 64 + 128 := by
    rcases lows with rfl | ⟨rfl, first⟩
    · exact Nat.le_add_left 128 _
    · show 144 ≤ _
      omega
  have below : n / 4096 % 64 + 128 ≤ high.toNat := by
    rcases highs with rfl | ⟨rfl, last⟩
    · show _ ≤ 191
      omega
    · show _ ≤ 143
      omega
  rw [decodeFrom_lead many, decodeFrom_second above below, decodeFrom_further, decodeFrom_last,
    payload, code]

theorem decodeFrom_utf8EncodeChar (c : Char) :
    decodeFrom .start (String.utf8EncodeChar c ++ bs) = c :: decodeFrom .start bs := by
  have valid : c.val.toNat < 0xd800 ∨ 0xdfff < c.val.toNat ∧ c.val.toNat < 0x110000 := c.valid
  have whole : Char.ofNat c.val.toNat = c := Char.ofNat_toNat c
  simp only [String.utf8EncodeChar]
  generalize c.val.toNat = n at valid whole
  subst whole
  by_cases one : n ≤ 0x7f
  · rw [if_pos one]
    exact decodeFrom_one one
  by_cases two : n ≤ 0x7ff
  · rw [if_neg one, if_pos two]
    exact decodeFrom_two (by omega) two
  by_cases three : n ≤ 0xffff
  · rw [if_neg one, if_neg two, if_pos three]
    exact decodeFrom_three (by omega) three (by omega)
  · rw [if_neg one, if_neg two, if_neg three]
    exact decodeFrom_four (by omega) (by omega)

theorem decodeFrom_bytes (s : String) : decodeFrom .start (bytes s) = s.toList := by
  rw [bytes_eq]
  induction s.toList with
  | nil => rfl
  | cons c cs ih => rw [List.flatMap_cons, decodeFrom_utf8EncodeChar, ih]

theorem decode?_bytes (s : String) : decode? (bytes s) = some s := by
  simp [decode?, decodeLossy, decodeFrom_bytes]

end HostMonitor.Text
