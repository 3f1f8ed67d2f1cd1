import ReviewDiff.Text.Utf8

/-!
# Encoding and decoding

The bytes of a text are read back as the text. A character is written as a lead byte, which says how
many bytes follow, and bytes with six bits each; strict decoding takes exactly these bytes off the
front again. Zero bytes come from the character zero only.
-/

set_option autoImplicit false

namespace ReviewDiff.Utf8

theorem byte_toNat {n : Nat} (h : n < 256) : (UInt8.ofNat n).toNat = n := by
  rw [UInt8.toNat_ofNat']
  exact Nat.mod_eq_of_lt h

def follower (n : Nat) : UInt8 := UInt8.ofNat (n % 64 + 128)

theorem follower_toNat (n : Nat) : (follower n).toNat = n % 64 + 128 :=
  byte_toNat (by omega)

@[simp] theorem isContinuation_follower (n : Nat) : isContinuation (follower n) = true := by
  have hn := follower_toNat n
  simp only [isContinuation, Bool.and_eq_true, decide_eq_true_eq, UInt8.le_iff_toNat_le, hn]
  constructor
  · change 128 ≤ n % 64 + 128
    omega
  · change n % 64 + 128 ≤ 191
    omega

@[simp] theorem payload_follower (n : Nat) : payload (follower n) = n % 64 := by
  rw [payload, follower_toNat]
  omega

/-- The byte behind a lead byte may be any continuation, but for four lead bytes. -/
theorem isSecond_follower {lead n : Nat} (hlead : lead < 256) (hE0 : lead = 0xE0 → 32 ≤ n % 64)
    (hED : lead = 0xED → n % 64 < 32) (hF0 : lead = 0xF0 → 16 ≤ n % 64)
    (hF4 : lead = 0xF4 → n % 64 < 16) : isSecond (UInt8.ofNat lead) (follower n) = true := by
  have hn := follower_toNat n
  have heq (m : UInt8) : UInt8.ofNat lead = m ↔ lead = m.toNat := by
    rw [← UInt8.toNat_inj, byte_toNat hlead]
  simp only [isSecond, secondRange, heq]
  repeat' split
  all_goals
    simp only [Bool.and_eq_true, decide_eq_true_eq, UInt8.le_iff_toNat_le, hn]
    simp at *
    omega

theorem sequence_ofNat {n : Nat} (h : n < 256) (rest : Bytes) : sequence (UInt8.ofNat n) rest =
    if n < 0x80 then .char (Char.ofNat n) 1
    else if n < 0xC2 then .bad 1 .invalidStart
    else if n < 0xE0 then twoBytes (UInt8.ofNat n) rest
    else if n < 0xF0 then threeBytes (UInt8.ofNat n) rest
    else if n < 0xF5 then fourBytes (UInt8.ofNat n) rest
    else .bad 1 .invalidStart := by
  simp [sequence, UInt8.lt_iff_toNat_lt, byte_toNat h]

theorem encodeChar_eq (c : Char) : String.utf8EncodeChar c =
    if c.toNat ≤ 0x7F then [UInt8.ofNat c.toNat]
    else if c.toNat ≤ 0x7FF then [UInt8.ofNat (c.toNat / 64 % 32 + 192), follower c.toNat]
    else if c.toNat ≤ 0xFFFF then
      [UInt8.ofNat (c.toNat / 4096 % 16 + 224), follower (c.toNat / 64), follower c.toNat]
    else [UInt8.ofNat (c.toNat / 262144 % 8 + 240), follower (c.toNat / 4096),
      follower (c.toNat / 64), follower c.toNat] :=
  rfl

theorem code_valid (c : Char) : c.toNat < 0xD800 ∨ 0xDFFF < c.toNat ∧ c.toNat < 0x110000 :=
  c.valid

theorem char_of_code (c : Char) {n : Nat} (h : n = c.toNat) : Char.ofNat n = c := by
  rw [h, Char.ofNat_toNat]

/-- The bytes of a character are the sequence that is read from them, whatever follows. -/
theorem sequence_encodeChar (c : Char) (rest : Bytes) :
    ∃ lead followers, String.utf8EncodeChar c = lead :: followers ∧
      sequence lead (followers ++ rest) = .char c (followers.length + 1) := by
  have hvalid := code_valid c
  rw [encodeChar_eq]
  by_cases h1 : c.toNat ≤ 0x7F
  · refine ⟨_, _, if_pos h1, ?_⟩
    rw [sequence_ofNat (by omega), if_pos (by omega), Char.ofNat_toNat]
    rfl
  rw [if_neg h1]
  by_cases h2 : c.toNat ≤ 0x7FF
  · refine ⟨_, _, if_pos h2, ?_⟩
    rw [sequence_ofNat (by omega), if_neg (by omega), if_neg (by omega), if_pos (by omega)]
    simp only [twoBytes, List.cons_append, isContinuation_follower, if_true, payload_follower]
    rw [byte_toNat (by omega), char_of_code c (by omega)]
    rfl
  rw [if_neg h2]
  by_cases h3 : c.toNat ≤ 0xFFFF
  · refine ⟨_, _, if_pos h3, ?_⟩
    have hsecond : isSecond (UInt8.ofNat (c.toNat / 4096 % 16 + 224)) (follower (c.toNat / 64)) =
        true := by
      apply isSecond_follower <;> omega
    rw [sequence_ofNat (by omega), if_neg (by omega), if_neg (by omega), if_neg (by omega),
      if_pos (by omega)]
    simp only [threeBytes, List.cons_append, hsecond, isContinuation_follower, Bool.not_true,
      if_true, payload_follower]
    rw [byte_toNat (by omega), char_of_code c (by omega)]
    rfl
  · refine ⟨_, _, if_neg h3, ?_⟩
    have hsecond : isSecond (UInt8.ofNat (c.toNat / 262144 % 8 + 240))
        (follower (c.toNat / 4096)) = true := by
      apply isSecond_follower <;> omega
    rw [sequence_ofNat (by omega), if_neg (by omega), if_neg (by omega), if_neg (by omega),
      if_neg (by omega), if_pos (by omega)]
    simp only [fourBytes, List.cons_append, hsecond, isContinuation_follower, Bool.not_true,
      if_true, payload_follower]
    rw [byte_toNat (by omega), char_of_code c (by omega)]
    rfl

theorem decodeFrom_skip (offset : Nat) (followers rest : Bytes) :
    decodeFrom offset followers.length (followers ++ rest) =
      decodeFrom (offset + followers.length) 0 rest := by
  induction followers generalizing offset with
  | nil => rfl
  | cons b followers ih =>
    rw [List.length_cons, List.cons_append, decodeFrom, ih]
    congr 1
    omega

theorem encode_cons (c : Char) (text : List Char) :
    encode (c :: text) = String.utf8EncodeChar c ++ encode text := List.flatMap_cons

theorem sequence_front {c : Char} {lead : UInt8} {followers : Bytes}
    (h : String.utf8EncodeChar c = lead :: followers) (rest : Bytes) :
    sequence lead (followers ++ rest) = .char c (followers.length + 1) := by
  obtain ⟨lead', followers', hchar, hsequence⟩ := sequence_encodeChar c rest
  rw [h] at hchar
  cases hchar
  exact hsequence

theorem decodeFrom_encodeChar (offset : Nat) (c : Char) (rest : Bytes) :
    decodeFrom offset 0 (String.utf8EncodeChar c ++ rest) =
      (decodeFrom (offset + (String.utf8EncodeChar c).length) 0 rest).map (c :: ·) := by
  obtain ⟨lead, followers, hchar, hsequence⟩ := sequence_encodeChar c rest
  rw [hchar, List.cons_append, decodeFrom, hsequence]
  simp only [Nat.add_sub_cancel, List.length_cons]
  rw [decodeFrom_skip, Nat.add_right_comm, Nat.add_assoc]

/-- An encoded text at the front is read first, and what follows it behind. -/
theorem decodeFrom_append (offset : Nat) (text : List Char) (rest : Bytes) :
    decodeFrom offset 0 (encode text ++ rest) =
      (decodeFrom (offset + (encode text).length) 0 rest).map (text ++ ·) := by
  induction text generalizing offset with
  | nil =>
    change decodeFrom offset 0 rest = (decodeFrom offset 0 rest).map id
    rw [Except.map_id, id]
  | cons c text ih =>
    rw [encode_cons, List.append_assoc, decodeFrom_encodeChar, ih, List.length_append,
      Nat.add_assoc]
    cases decodeFrom (offset + ((String.utf8EncodeChar c).length + (encode text).length)) 0 rest <;>
      rfl

theorem decodeFrom_encode (offset : Nat) (text : List Char) :
    decodeFrom offset 0 (encode text) = .ok text := by
  have hread := decodeFrom_append offset text []
  rw [List.append_nil, decodeFrom, Except.map, List.append_nil] at hread
  exact hread

@[simp] theorem decode_encode (text : List Char) : decode (encode text) = .ok text :=
  decodeFrom_encode 0 text

theorem byte_ne_zero {n : Nat} (h : n < 256) (hpos : 0 < n) : 0 ≠ UInt8.ofNat n := by
  intro hzero
  have hn := congrArg UInt8.toNat hzero
  rw [byte_toNat h, UInt8.toNat_zero] at hn
  omega

theorem zero_ne_follower (n : Nat) : 0 ≠ follower n :=
  byte_ne_zero (by omega) (by omega)

theorem zero_not_mem_encodeChar {c : Char} (h : c ≠ Char.ofNat 0) :
    0 ∉ String.utf8EncodeChar c := by
  have hpos : c.toNat ≠ 0 := fun hzero => h (char_of_code c hzero.symm).symm
  have hvalid := code_valid c
  rw [encodeChar_eq]
  split
  · have hlead := byte_ne_zero (n := c.toNat) (by omega) (by omega)
    simp [hlead]
  split
  · have hlead := byte_ne_zero (n := c.toNat / 64 % 32 + 192) (by omega) (by omega)
    simp only [List.mem_cons, List.not_mem_nil, hlead, zero_ne_follower, or_self, not_false_eq_true]
  split
  · have hlead := byte_ne_zero (n := c.toNat / 4096 % 16 + 224) (by omega) (by omega)
    simp only [List.mem_cons, List.not_mem_nil, hlead, zero_ne_follower, or_self, not_false_eq_true]
  · have hlead := byte_ne_zero (n := c.toNat / 262144 % 8 + 240) (by omega) (by omega)
    simp only [List.mem_cons, List.not_mem_nil, hlead, zero_ne_follower, or_self, not_false_eq_true]

theorem zero_not_mem_encode {text : List Char} (h : Char.ofNat 0 ∉ text) : 0 ∉ encode text := by
  intro hzero
  obtain ⟨c, hc, hbyte⟩ := List.mem_flatMap.mp hzero
  apply zero_not_mem_encodeChar _ hbyte
  rintro rfl
  exact h hc

end ReviewDiff.Utf8
