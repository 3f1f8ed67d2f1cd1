import Mathlib.Data.List.Forall2
import Mathlib.Order.Bounds.Defs
import ReviewDiff.Fault
import ReviewDiff.Proofs.Text.Encoding
import ReviewDiff.Repository.Content

/-!
# Well-formed bytes

Bytes are well formed when they can be cut into sequences, each of which follows one of nine forms:
a range for its lead byte and one for each byte behind it. Four of the forms narrow the range of the
second byte, so that no character has two sequences and a surrogate has none. Decoding takes the
well-formed bytes and no others, and it stops where nothing longer is well formed. What a file holds
is shown as text when its bytes are well formed and hold no zero byte.
-/

set_option autoImplicit false

namespace ReviewDiff

namespace Utf8

/-- The range of a byte behind the lead byte, where the lead byte does not narrow it. -/
def tailRange : Nat × Nat := (0x80, 0xBF)

def forms : List (List (Nat × Nat)) :=
  [[(0x00, 0x7F)],
    [(0xC2, 0xDF), tailRange],
    [(0xE0, 0xE0), (0xA0, 0xBF), tailRange],
    [(0xE1, 0xEC), tailRange, tailRange],
    [(0xED, 0xED), (0x80, 0x9F), tailRange],
    [(0xEE, 0xEF), tailRange, tailRange],
    [(0xF0, 0xF0), (0x90, 0xBF), tailRange, tailRange],
    [(0xF1, 0xF3), tailRange, tailRange, tailRange],
    [(0xF4, 0xF4), (0x80, 0x8F), tailRange, tailRange]]

def InRange (b : UInt8) (range : Nat × Nat) : Prop := range.1 ≤ b.toNat ∧ b.toNat ≤ range.2

def IsSequence (bytes : Bytes) : Prop := ∃ form ∈ forms, List.Forall₂ InRange bytes form

/-- The bytes are sequences, one after the other. -/
def WellFormed (bytes : Bytes) : Prop :=
  ∃ sequences : List Bytes, (∀ s ∈ sequences, IsSequence s) ∧ sequences.flatten = bytes

theorem exists_char {n : Nat} (h : n < 0xD800 ∨ 0xDFFF < n ∧ n < 0x110000) :
    ∃ c : Char, c.toNat = n := ⟨Char.ofNatAux n h, rfl⟩

theorem byte_eq {n : Nat} {b : UInt8} (h : n = b.toNat) : UInt8.ofNat n = b := by
  rw [h, UInt8.ofNat_toNat]

theorem follower_eq {n : Nat} {b : UInt8} (hb : InRange b tailRange)
    (h : n % 64 = b.toNat % 64) : follower n = b := by
  obtain ⟨hlow, hhigh⟩ : 0x80 ≤ b.toNat ∧ b.toNat ≤ 0xBF := hb
  exact byte_eq (by omega)

theorem encode_one {bytes : Bytes} (h : List.Forall₂ InRange bytes [(0x00, 0x7F)]) :
    ∃ c : Char, String.utf8EncodeChar c = bytes := by
  obtain _ | ⟨⟨-, ha⟩, _ | _⟩ := h
  obtain ⟨c, hc⟩ := exists_char (.inl (Nat.lt_of_le_of_lt ha (by decide)))
  refine ⟨c, ?_⟩
  rw [encodeChar_eq, hc, if_pos ha, byte_eq rfl]

theorem encode_two {bytes : Bytes} (h : List.Forall₂ InRange bytes [(0xC2, 0xDF), tailRange]) :
    ∃ c : Char, String.utf8EncodeChar c = bytes := by
  obtain _ | @⟨a, _, _, _, ha, _ | @⟨b, _, _, _, hb, _ | _⟩⟩ := h
  simp only [InRange] at ha
  obtain ⟨c, hc⟩ := exists_char (n := a.toNat % 32 * 64 + b.toNat % 64) (by omega)
  refine ⟨c, ?_⟩
  rw [encodeChar_eq, hc, if_neg (by omega), if_pos (by omega), @byte_eq _ a (by omega),
    follower_eq hb (by omega)]

theorem encode_three {bytes : Bytes} {lead second : Nat × Nat}
    (h : List.Forall₂ InRange bytes [lead, second, tailRange])
    (hlead : 0xE0 ≤ lead.1 ∧ lead.2 ≤ 0xEF) (hsecond : 0x80 ≤ second.1 ∧ second.2 ≤ 0xBF)
    (hshort : lead.1 = 0xE0 → 0xA0 ≤ second.1)
    (hsurrogate : lead.1 ≤ 0xED → 0xED ≤ lead.2 → second.2 ≤ 0x9F) :
    ∃ c : Char, String.utf8EncodeChar c = bytes := by
  obtain _ | @⟨a, _, _, _, ha, _ | @⟨b, _, _, _, hb, _ | @⟨c, _, _, _, hc, _ | _⟩⟩⟩ := h
  simp only [InRange] at ha hb
  have htail : InRange b tailRange := ⟨Nat.le_trans hsecond.1 hb.1, Nat.le_trans hb.2 hsecond.2⟩
  obtain ⟨char, hchar⟩ := exists_char
    (n := a.toNat % 16 * 4096 + b.toNat % 64 * 64 + c.toNat % 64) (by omega)
  refine ⟨char, ?_⟩
  rw [encodeChar_eq, hchar, if_neg (by omega), if_neg (by omega), if_pos (by omega),
    @byte_eq _ a (by omega), follower_eq htail (by omega), follower_eq hc (by omega)]

theorem encode_four {bytes : Bytes} {lead second : Nat × Nat}
    (h : List.Forall₂ InRange bytes [lead, second, tailRange, tailRange])
    (hlead : 0xF0 ≤ lead.1 ∧ lead.2 ≤ 0xF4) (hsecond : 0x80 ≤ second.1 ∧ second.2 ≤ 0xBF)
    (hshort : lead.1 = 0xF0 → 0x90 ≤ second.1) (hlast : lead.2 = 0xF4 → second.2 ≤ 0x8F) :
    ∃ c : Char, String.utf8EncodeChar c = bytes := by
  obtain _ | @⟨a, _, _, _, ha, _ | @⟨b, _, _, _, hb, _ | @⟨c, _, _, _, hc, _ |
    @⟨d, _, _, _, hd, _ | _⟩⟩⟩⟩ := h
  simp only [InRange] at ha hb
  have htail : InRange b tailRange := ⟨Nat.le_trans hsecond.1 hb.1, Nat.le_trans hb.2 hsecond.2⟩
  obtain ⟨char, hchar⟩ := exists_char
    (n := a.toNat % 8 * 262144 + b.toNat % 64 * 4096 + c.toNat % 64 * 64 + d.toNat % 64) (by omega)
  refine ⟨char, ?_⟩
  rw [encodeChar_eq, hchar, if_neg (by omega), if_neg (by omega), if_neg (by omega),
    @byte_eq _ a (by omega), follower_eq htail (by omega), follower_eq hc (by omega),
    follower_eq hd (by omega)]

theorem IsSequence.encodes {bytes : Bytes} (h : IsSequence bytes) :
    ∃ c : Char, String.utf8EncodeChar c = bytes := by
  obtain ⟨form, hform, hrange⟩ := h
  simp only [forms, List.mem_cons, List.not_mem_nil, or_false] at hform
  rcases hform with rfl | rfl | rfl | rfl | rfl | rfl | rfl | rfl | rfl
  · exact encode_one hrange
  · exact encode_two hrange
  · exact encode_three hrange (by decide) (by decide) (by decide) (by decide)
  · exact encode_three hrange (by decide) (by decide) (by decide) (by decide)
  · exact encode_three hrange (by decide) (by decide) (by decide) (by decide)
  · exact encode_three hrange (by decide) (by decide) (by decide) (by decide)
  · exact encode_four hrange (by decide) (by decide) (by decide) (by decide)
  · exact encode_four hrange (by decide) (by decide) (by decide) (by decide)
  · exact encode_four hrange (by decide) (by decide) (by decide) (by decide)

/-- The range that a lead byte leaves to the second byte, in numbers. -/
def secondOf (lead : UInt8) : Nat × Nat :=
  ((secondRange lead).1.toNat, (secondRange lead).2.toNat)

theorem inRange_tail {b : UInt8} (h : isContinuation b = true) : InRange b tailRange := by
  simpa [InRange, tailRange, isContinuation, UInt8.le_iff_toNat_le] using h

theorem inRange_second {lead b : UInt8} (h : isSecond lead b = true) :
    InRange b (secondOf lead) := by
  simpa [InRange, secondOf, isSecond, UInt8.le_iff_toNat_le] using h

theorem secondOf_eq (lead : UInt8) : secondOf lead =
    if lead.toNat = 0xE0 then (0xA0, 0xBF)
    else if lead.toNat = 0xED then (0x80, 0x9F)
    else if lead.toNat = 0xF0 then (0x90, 0xBF)
    else if lead.toNat = 0xF4 then (0x80, 0x8F)
    else tailRange := by
  have hnumber (n : Nat) {m : UInt8} (h : lead ≠ m) (hm : m.toNat = n) : ¬ lead.toNat = n :=
    fun hlead => h (UInt8.toNat_inj.mp (hlead.trans hm.symm))
  by_cases hE0 : lead = 0xE0
  · subst hE0
    rfl
  by_cases hED : lead = 0xED
  · subst hED
    rfl
  by_cases hF0 : lead = 0xF0
  · subst hF0
    rfl
  by_cases hF4 : lead = 0xF4
  · subst hF4
    rfl
  rw [if_neg (hnumber 0xE0 hE0 rfl), if_neg (hnumber 0xED hED rfl), if_neg (hnumber 0xF0 hF0 rfl),
    if_neg (hnumber 0xF4 hF4 rfl)]
  simp only [secondOf, secondRange, hE0, hED, hF0, hF4, if_false]
  rfl

theorem three_form {lead : UInt8} (h : 0xE0 ≤ lead.toNat ∧ lead.toNat ≤ 0xEF) :
    ∃ range, InRange lead range ∧ [range, secondOf lead, tailRange] ∈ forms := by
  rw [secondOf_eq]
  by_cases hE0 : lead.toNat = 0xE0
  · exact ⟨(0xE0, 0xE0), by simp [InRange, hE0], by simp [forms, hE0]⟩
  by_cases hED : lead.toNat = 0xED
  · exact ⟨(0xED, 0xED), by simp [InRange, hED], by simp [forms, hED]⟩
  rw [if_neg hE0, if_neg hED, if_neg (by omega), if_neg (by omega)]
  by_cases hlow : lead.toNat < 0xED
  · exact ⟨(0xE1, 0xEC), by simp only [InRange]; omega, by simp [forms]⟩
  · exact ⟨(0xEE, 0xEF), by simp only [InRange]; omega, by simp [forms]⟩

theorem four_form {lead : UInt8} (h : 0xF0 ≤ lead.toNat ∧ lead.toNat ≤ 0xF4) :
    ∃ range, InRange lead range ∧ [range, secondOf lead, tailRange, tailRange] ∈ forms := by
  rw [secondOf_eq, if_neg (by omega), if_neg (by omega)]
  by_cases hF0 : lead.toNat = 0xF0
  · exact ⟨(0xF0, 0xF0), by simp [InRange, hF0], by simp [forms, hF0]⟩
  by_cases hF4 : lead.toNat = 0xF4
  · exact ⟨(0xF4, 0xF4), by simp [InRange, hF4], by simp [forms, hF4]⟩
  rw [if_neg hF0, if_neg hF4]
  exact ⟨(0xF1, 0xF3), by simp only [InRange]; omega, by simp [forms]⟩

def ReadsFront (lead : UInt8) (rest : Bytes) (width : Nat) : Prop :=
  ∃ followers later, rest = followers ++ later ∧ width = followers.length + 1 ∧
    IsSequence (lead :: followers)

theorem readsFront_two {lead : UInt8} {rest : Bytes} {c : Char} {width : Nat}
    (hlead : InRange lead (0xC2, 0xDF)) (h : twoBytes lead rest = .char c width) :
    ReadsFront lead rest width := by
  fun_cases twoBytes lead rest with
  | case2 a later ha =>
    rw [twoBytes, if_pos ha] at h
    cases h
    exact ⟨[a], later, rfl, rfl, _, by simp [forms], .cons hlead (.cons (inRange_tail ha) .nil)⟩
  | case1 | case3 => simp_all [twoBytes]

theorem readsFront_three {lead : UInt8} {rest : Bytes} {c : Char} {width : Nat}
    (hlead : 0xE0 ≤ lead.toNat ∧ lead.toNat ≤ 0xEF) (h : threeBytes lead rest = .char c width) :
    ReadsFront lead rest width := by
  obtain ⟨range, hrange, hform⟩ := three_form hlead
  fun_cases threeBytes lead rest with
  | case4 a ha b later hb =>
    have hsecond : isSecond lead a = true := by simpa using ha
    simp only [threeBytes, hsecond, hb, Bool.not_true, if_true] at h
    cases h
    exact ⟨[a, b], later, rfl, rfl, _, hform,
      .cons hrange (.cons (inRange_second hsecond) (.cons (inRange_tail hb) .nil))⟩
  | case1 | case2 | case3 | case5 => simp_all [threeBytes]

theorem readsFront_four {lead : UInt8} {rest : Bytes} {c : Char} {width : Nat}
    (hlead : 0xF0 ≤ lead.toNat ∧ lead.toNat ≤ 0xF4) (h : fourBytes lead rest = .char c width) :
    ReadsFront lead rest width := by
  obtain ⟨range, hrange, hform⟩ := four_form hlead
  fun_cases fourBytes lead rest with
  | case6 a ha b hb d later hd =>
    have hsecond : isSecond lead a = true := by simpa using ha
    have htail : isContinuation b = true := by simpa using hb
    simp only [fourBytes, hsecond, htail, hd, Bool.not_true, if_true] at h
    cases h
    exact ⟨[a, b, d], later, rfl, rfl, _, hform,
      .cons hrange (.cons (inRange_second hsecond) (.cons (inRange_tail htail)
        (.cons (inRange_tail hd) .nil)))⟩
  | case1 | case2 | case3 | case4 | case5 | case7 => simp_all [fourBytes]

theorem readsFront_sequence {lead : UInt8} {rest : Bytes} {c : Char} {width : Nat}
    (h : sequence lead rest = .char c width) : ReadsFront lead rest width := by
  have hnumber := sequence_ofNat lead.toNat_lt rest
  rw [UInt8.ofNat_toNat, h] at hnumber
  split at hnumber
  · cases hnumber
    refine ⟨[], rest, rfl, rfl, [(0x00, 0x7F)], by simp [forms], .cons ⟨?_, ?_⟩ .nil⟩
    · exact Nat.zero_le _
    · exact Nat.le_of_lt_succ ‹_›
  split at hnumber
  · cases hnumber
  split at hnumber
  · exact readsFront_two ⟨Nat.le_of_not_lt ‹_›, Nat.le_of_lt_succ ‹_›⟩ hnumber.symm
  split at hnumber
  · exact readsFront_three ⟨Nat.le_of_not_lt ‹_›, Nat.le_of_lt_succ ‹_›⟩ hnumber.symm
  split at hnumber
  · exact readsFront_four ⟨Nat.le_of_not_lt ‹_›, Nat.le_of_lt_succ ‹_›⟩ hnumber.symm
  · cases hnumber

theorem sequence_char {lead : UInt8} {rest : Bytes} {c : Char} {width : Nat}
    (h : sequence lead rest = .char c width) :
    ∃ followers later, rest = followers ++ later ∧ String.utf8EncodeChar c = lead :: followers := by
  obtain ⟨followers, later, rfl, -, hform⟩ := readsFront_sequence h
  obtain ⟨c', hc'⟩ := hform.encodes
  have hread := sequence_front hc' later
  rw [h] at hread
  cases hread
  exact ⟨followers, later, rfl, hc'⟩

theorem isSequence_encodeChar (c : Char) : IsSequence (String.utf8EncodeChar c) := by
  obtain ⟨lead, followers, hchar, hsequence⟩ := sequence_encodeChar c []
  obtain ⟨front, later, hrest, hwidth, hform⟩ := readsFront_sequence hsequence
  rw [List.append_nil] at hrest
  have hlater : later = [] := by
    have hlength := congrArg List.length hrest
    rw [List.length_append] at hlength
    exact List.length_eq_zero_iff.mp (by omega)
  rw [hchar, hrest, hlater, List.append_nil]
  exact hform

theorem wellFormed_iff (bytes : Bytes) : WellFormed bytes ↔ ∃ text, encode text = bytes := by
  constructor
  · rintro ⟨sequences, hsequences, rfl⟩
    induction sequences with
    | nil => exact ⟨[], rfl⟩
    | cons s rest ih =>
      obtain ⟨c, hc⟩ := (hsequences s List.mem_cons_self).encodes
      obtain ⟨text, htext⟩ := ih fun t ht => hsequences t (List.mem_cons_of_mem s ht)
      refine ⟨c :: text, ?_⟩
      rw [encode_cons, hc, htext, List.flatten_cons]
  · rintro ⟨text, rfl⟩
    refine ⟨text.map String.utf8EncodeChar, ?_, rfl⟩
    intro s hs
    obtain ⟨c, -, rfl⟩ := List.mem_map.mp hs
    exact isSequence_encodeChar c

/-- A byte string is the encoding of characters, or goes on behind one with bytes that start no
sequence, and is read up to there. -/
theorem decodeFrom_cases (offset : Nat) (bytes : Bytes) :
    (∃ text, bytes = encode text ∧ decodeFrom offset 0 bytes = .ok text) ∨
      ∃ text lead rest length reason, bytes = encode text ++ lead :: rest ∧
        sequence lead rest = .bad length reason ∧
        decodeFrom offset 0 bytes = .error ⟨offset + (encode text).length,
          offset + (encode text).length + length, lead, reason⟩ := by
  induction hlen : bytes.length using Nat.strongRecOn generalizing offset bytes with
  | ind n ih =>
    cases bytes with
    | nil => exact .inl ⟨[], rfl, rfl⟩
    | cons lead rest =>
      cases hsequence : sequence lead rest with
      | bad length reason =>
        refine .inr ⟨[], lead, rest, length, reason, rfl, hsequence, ?_⟩
        rw [decodeFrom, hsequence]
        rfl
      | char c width =>
        obtain ⟨followers, later, rfl, hc⟩ := sequence_char hsequence
        have hbytes : lead :: (followers ++ later) = String.utf8EncodeChar c ++ later := by
          rw [hc, List.cons_append]
        have hshorter : later.length < n := by
          rw [← hlen, List.length_cons, List.length_append]
          omega
        rw [hbytes, decodeFrom_encodeChar]
        rcases ih _ hshorter (offset + (String.utf8EncodeChar c).length) later rfl with
          ⟨text, rfl, hread⟩ | ⟨text, lead', rest', length, reason, rfl, hbad, hread⟩
        · refine .inl ⟨c :: text, rfl, ?_⟩
          rw [hread]
          rfl
        · refine .inr ⟨c :: text, lead', rest', length, reason, ?_, hbad, ?_⟩
          · rw [encode_cons, List.append_assoc]
          · rw [hread, encode_cons, List.length_append, Nat.add_assoc offset]
            rfl

theorem decodeFrom_ok {offset : Nat} {bytes : Bytes} {text : List Char}
    (h : decodeFrom offset 0 bytes = .ok text) : encode text = bytes := by
  rcases decodeFrom_cases offset bytes with ⟨text', rfl, hread⟩ | ⟨_, _, _, _, _, -, -, hread⟩
  · rw [hread] at h
    cases h
    rfl
  · rw [hread] at h
    cases h

theorem bad_front {lead : UInt8} {rest : Bytes} {length : Nat} {reason : Reason}
    (h : sequence lead rest = .bad length reason) (k : Nat) :
    ¬ WellFormed (lead :: rest.take k) := by
  rw [wellFormed_iff]
  rintro ⟨text, htext⟩
  cases text with
  | nil => cases htext
  | cons c text =>
    obtain ⟨first, followers, hchar, -⟩ := sequence_encodeChar c []
    rw [encode_cons, hchar, List.cons_append] at htext
    obtain ⟨rfl, htake⟩ := List.cons.inj htext
    have hread := sequence_front hchar (encode text ++ rest.drop k)
    rw [← List.append_assoc, htake, List.take_append_drop, h] at hread
    cases hread

theorem wellFormed_behind {text : List Char} {rest : Bytes}
    (h : WellFormed (encode text ++ rest)) : WellFormed rest := by
  obtain ⟨whole, hwhole⟩ := (wellFormed_iff _).mp h
  have hread := decode_encode whole
  rw [hwhole, decode, decodeFrom_append] at hread
  cases hrest : decodeFrom (0 + (encode text).length) 0 rest with
  | error m =>
    rw [hrest] at hread
    cases hread
  | ok later => exact (wellFormed_iff _).mpr ⟨later, decodeFrom_ok hrest⟩

theorem decode_error {bytes : Bytes} {m : Malformed} (h : decode bytes = .error m) :
    IsGreatest {n | n ≤ bytes.length ∧ WellFormed (bytes.take n)} m.start := by
  rcases decodeFrom_cases 0 bytes with
    ⟨text, -, hread⟩ | ⟨text, lead, rest, length, reason, rfl, hbad, hread⟩
  · rw [decode, hread] at h
    cases h
  rw [decode, hread] at h
  cases h
  simp only [Nat.zero_add]
  constructor
  · refine ⟨?_, (wellFormed_iff _).mpr ⟨text, ?_⟩⟩
    · rw [List.length_append]
      exact Nat.le_add_right _ _
    · rw [List.take_left]
  · rintro n ⟨-, hformed⟩
    by_contra hlonger
    obtain ⟨k, rfl⟩ := Nat.exists_eq_add_of_lt (Nat.lt_of_not_le hlonger)
    rw [Nat.add_assoc, List.take_length_add_append, List.take_succ_cons] at hformed
    exact bad_front hbad k (wellFormed_behind hformed)

theorem decode_ok_iff (bytes : Bytes) : (∃ text, decode bytes = .ok text) ↔ WellFormed bytes := by
  rw [wellFormed_iff]
  constructor
  · rintro ⟨text, htext⟩
    exact ⟨text, decodeFrom_ok htext⟩
  · rintro ⟨text, rfl⟩
    exact ⟨text, decode_encode text⟩

end Utf8

theorem decodeText_ok {bytes : Bytes} {text : String} :
    decodeText bytes = .ok text ↔ Utf8.decode bytes = .ok text.toList := by
  rw [decodeText, Utf8.decodeText]
  cases h : Utf8.decode bytes with
  | error m => simp [Except.map]
  | ok chars =>
    simp only [Except.map, Except.ok.injEq]
    constructor
    · rintro rfl
      exact String.toList_ofList.symm
    · rintro rfl
      exact String.ofList_toList

theorem decodeText_error {bytes : Bytes} {e : Fault} (h : decodeText bytes = .error e) :
    ∃ m, e = .notText m ∧ Utf8.decode bytes = .error m := by
  rw [decodeText, Utf8.decodeText] at h
  cases hread : Utf8.decode bytes with
  | error m =>
    rw [hread] at h
    cases h
    exact ⟨m, rfl, rfl⟩
  | ok chars =>
    rw [hread] at h
    cases h

theorem classify_text {bytes : Bytes} {text : String} (hzero : 0 ∉ bytes)
    (h : decodeText bytes = .ok text) :
    Content.classify (some bytes) = .present (LineRecord.split text) := by
  simp [Content.classify, Content.ofBytes, hzero, decodeText_ok.mp h, Points.ofString]

theorem classify_binary {bytes : Bytes} (h : 0 ∈ bytes ∨ ¬ Utf8.WellFormed bytes) :
    Content.classify (some bytes) = .binary bytes.length (blobId bytes) := by
  rw [Content.classify, Content.ofBytes, Content.ofBinary]
  by_cases hzero : 0 ∈ bytes
  · simp [hzero]
  · have hformed := h.resolve_left hzero
    rw [← Utf8.decode_ok_iff] at hformed
    cases hread : Utf8.decode bytes with
    | ok text => exact absurd ⟨text, hread⟩ hformed
    | error m => simp [hzero]

/-- Bytes are decoded if and only if they are well formed, and into the text that they encode. What
keeps other bytes from it is told with the length of their longest well-formed front. Well-formed
bytes without a zero byte are shown as the lines of their text, and all others by their number and
digest. -/
theorem content_wellFormed (bytes : Bytes) :
    ((∃ text, decodeText bytes = .ok text) ↔ Utf8.WellFormed bytes) ∧
      (∀ text, decodeText bytes = .ok text → Utf8.encodeText text = bytes) ∧
      (∀ text, decodeText (Utf8.encodeText text) = .ok text) ∧
      (∀ e, decodeText bytes = .error e → ∃ m, e = .notText m ∧
        IsGreatest {n | n ≤ bytes.length ∧ Utf8.WellFormed (bytes.take n)} m.start) ∧
      (Content.classify (some bytes) = .binary bytes.length (blobId bytes) ↔
        0 ∈ bytes ∨ ¬ Utf8.WellFormed bytes) ∧
      (0 ∉ bytes → Utf8.WellFormed bytes → ∃ text, decodeText bytes = .ok text ∧
        Content.classify (some bytes) = .present (LineRecord.split text)) := by
  have hdecoded : (∃ text, decodeText bytes = .ok text) ↔ Utf8.WellFormed bytes := by
    rw [← Utf8.decode_ok_iff]
    constructor
    · rintro ⟨text, htext⟩
      exact ⟨_, decodeText_ok.mp htext⟩
    · rintro ⟨text, htext⟩
      refine ⟨String.ofList text, decodeText_ok.mpr ?_⟩
      rw [htext, String.toList_ofList]
  have htext (hzero : 0 ∉ bytes) (hformed : Utf8.WellFormed bytes) :
      ∃ text, decodeText bytes = .ok text ∧
        Content.classify (some bytes) = .present (LineRecord.split text) := by
    obtain ⟨text, hread⟩ := hdecoded.mpr hformed
    exact ⟨text, hread, classify_text hzero hread⟩
  refine ⟨hdecoded, ?_, ?_, ?_, ⟨?_, classify_binary⟩, htext⟩
  · intro text h
    exact Utf8.decodeFrom_ok (decodeText_ok.mp h)
  · intro text
    exact decodeText_ok.mpr (Utf8.decode_encode _)
  · intro e h
    obtain ⟨m, rfl, hread⟩ := decodeText_error h
    exact ⟨m, rfl, Utf8.decode_error hread⟩
  · intro h
    by_contra hnot
    rw [not_or, not_not] at hnot
    obtain ⟨text, -, hpresent⟩ := htext hnot.1 hnot.2
    rw [hpresent] at h
    cases h

-- A surrogate in three bytes ends what is well formed, as a lead byte without its second does.
example : decodeText [0x61, 0xED, 0xA0, 0x80] =
    .error (.notText ⟨1, 2, 0xED, .invalidContinuation⟩) := by decide

end ReviewDiff
