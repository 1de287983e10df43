import JujuMigration.Text.Utf8
/-! Decoding and encoding undo each other: a text is decoded from its encoding, and bytes that can be decoded are the
encoding of what they are decoded to. Both follow from what the decoder does with a single character. -/

namespace JujuMigration.Utf8

theorem toNat_ofNat_of_valid {n : Nat} (h : n.isValidChar) : (Char.ofNat n).val.toNat = n := by
  rw [Char.ofNat, dif_pos h]
  rfl

theorem byte_toNat {n : Nat} (h : n < 256) : (UInt8.ofNat n).toNat = n := by
  rw [UInt8.toNat_ofNat', Nat.mod_eq_of_lt h]

theorem byte_ext {n : Nat} {b : UInt8} (h : n = b.toNat) : UInt8.ofNat n = b := by
  rw [h, UInt8.ofNat_toNat]

/-! ### Single bytes -/

section

variable (done : Text) (pos : Nat) (b : UInt8) (bs : Bytes)

theorem decodeFrom_ascii (h : b.toNat < 128) :
    decodeFrom done pos none (b :: bs) = decodeFrom (Char.ofNat b.toNat :: done) (pos + 1) none bs := by
  rw [decodeFrom, if_pos (UInt8.lt_iff_toNat_lt.2 h)]

theorem decodeFrom_lead {p : Pending} (h : 128 ≤ b.toNat) (hp : Pending.ofLead? pos b = some p) :
    decodeFrom done pos none (b :: bs) = decodeFrom done (pos + 1) (some p) bs := by
  rw [decodeFrom, if_neg (fun hb => Nat.not_lt.2 h (UInt8.lt_iff_toNat_lt.1 hb)), hp]

theorem decodeFrom_last {p : Pending} (hlow : p.low.toNat ≤ b.toNat) (hhigh : b.toNat ≤ p.high.toNat)
    (hm : p.missing = 1) :
    decodeFrom done pos (some p) (b :: bs) =
      decodeFrom (Char.ofNat (p.value * 64 + (b.toNat - 0x80)) :: done) (pos + 1) none bs := by
  rw [decodeFrom, if_pos ⟨UInt8.le_iff_toNat_le.2 hlow, UInt8.le_iff_toNat_le.2 hhigh⟩]
  simp only [hm, Nat.le_refl, if_true]

theorem decodeFrom_next {p : Pending} (hlow : p.low.toNat ≤ b.toNat) (hhigh : b.toNat ≤ p.high.toNat)
    (hm : 1 < p.missing) :
    decodeFrom done pos (some p) (b :: bs) = decodeFrom done (pos + 1)
      (some ⟨p.start, p.lead, p.seen + 1, p.value * 64 + (b.toNat - 0x80), p.missing - 1, 0x80, 0xBF⟩) bs := by
  rw [decodeFrom, if_pos ⟨UInt8.le_iff_toNat_le.2 hlow, UInt8.le_iff_toNat_le.2 hhigh⟩]
  simp only [if_neg (Nat.not_le.2 hm)]

/-- What a lead byte announces, in numbers. -/
theorem ofLead?_two (h : 0xC2 ≤ b.toNat) (h' : b.toNat < 0xE0) :
    Pending.ofLead? pos b = some ⟨pos, b, 1, b.toNat - 0xC0, 1, 0x80, 0xBF⟩ := by
  rw [Pending.ofLead?, if_neg (fun hb => Nat.not_lt.2 h (UInt8.lt_iff_toNat_lt.1 hb)),
    if_pos (UInt8.lt_iff_toNat_lt.2 h')]

theorem ofLead?_three (h : 0xE0 ≤ b.toNat) (h' : b.toNat < 0xF0) :
    Pending.ofLead? pos b = some ⟨pos, b, 1, b.toNat - 0xE0, 2, if b = 0xE0 then 0xA0 else 0x80,
      if b = 0xED then 0x9F else 0xBF⟩ := by
  rw [Pending.ofLead?, if_neg (fun hb => by have := UInt8.lt_iff_toNat_lt.1 hb; simp at this; omega),
    if_neg (fun hb => Nat.not_lt.2 h (UInt8.lt_iff_toNat_lt.1 hb)), if_pos (UInt8.lt_iff_toNat_lt.2 h')]

theorem ofLead?_four (h : 0xF0 ≤ b.toNat) (h' : b.toNat < 0xF5) :
    Pending.ofLead? pos b = some ⟨pos, b, 1, b.toNat - 0xF0, 3, if b = 0xF0 then 0x90 else 0x80,
      if b = 0xF4 then 0x8F else 0xBF⟩ := by
  rw [Pending.ofLead?, if_neg (fun hb => by have := UInt8.lt_iff_toNat_lt.1 hb; simp at this; omega),
    if_neg (fun hb => by have := UInt8.lt_iff_toNat_lt.1 hb; simp at this; omega),
    if_neg (fun hb => Nat.not_lt.2 h (UInt8.lt_iff_toNat_lt.1 hb)), if_pos (UInt8.lt_iff_toNat_lt.2 h')]

theorem ofLead?_eq_none (h : b.toNat < 0xC2 ∨ 0xF5 ≤ b.toNat) : Pending.ofLead? pos b = none := by
  unfold Pending.ofLead?
  simp only [UInt8.lt_iff_toNat_lt]
  rcases h with h | h
  · rw [if_pos (by simpa using h)]
  · rw [if_neg (by simp; omega), if_neg (by simp; omega), if_neg (by simp; omega), if_neg (by simp; omega)]

end

theorem toNat_ite (b k x y : UInt8) :
    (if b = k then x else y).toNat = if b.toNat = k.toNat then x.toNat else y.toNat := by
  simp only [← UInt8.toNat_inj]
  split <;> rfl

/-! ### Sequences of bytes -/

section

variable (done : Text) (pos : Nat) (bs : Bytes) {b0 b1 b2 b3 : UInt8} {v : Nat}

theorem decodeFrom_two (h0 : 0xC2 ≤ b0.toNat) (h0' : b0.toNat < 0xE0) (h1 : 0x80 ≤ b1.toNat) (h1' : b1.toNat ≤ 0xBF)
    (hv : v = (b0.toNat - 0xC0) * 64 + (b1.toNat - 0x80)) :
    decodeFrom done pos none (b0 :: b1 :: bs) = decodeFrom (Char.ofNat v :: done) (pos + 2) none bs := by
  rw [hv, decodeFrom_lead _ _ _ _ (by omega) (ofLead?_two _ _ h0 h0'),
    decodeFrom_last _ _ _ _ (by exact h1) (by exact h1') rfl]

theorem decodeFrom_three (h0 : 0xE0 ≤ b0.toNat) (h0' : b0.toNat < 0xF0)
    (h1 : (if b0.toNat = 0xE0 then 0xA0 else 0x80) ≤ b1.toNat)
    (h1' : b1.toNat ≤ if b0.toNat = 0xED then 0x9F else 0xBF) (h2 : 0x80 ≤ b2.toNat) (h2' : b2.toNat ≤ 0xBF)
    (hv : v = ((b0.toNat - 0xE0) * 64 + (b1.toNat - 0x80)) * 64 + (b2.toNat - 0x80)) :
    decodeFrom done pos none (b0 :: b1 :: b2 :: bs) = decodeFrom (Char.ofNat v :: done) (pos + 3) none bs := by
  rw [hv, decodeFrom_lead _ _ _ _ (by omega) (ofLead?_three _ _ h0 h0'),
    decodeFrom_next _ _ _ _ (by rw [toNat_ite]; exact h1) (by rw [toNat_ite]; exact h1') (by simp),
    decodeFrom_last _ _ _ _ (by exact h2) (by exact h2') rfl]

theorem decodeFrom_four (h0 : 0xF0 ≤ b0.toNat) (h0' : b0.toNat < 0xF5)
    (h1 : (if b0.toNat = 0xF0 then 0x90 else 0x80) ≤ b1.toNat)
    (h1' : b1.toNat ≤ if b0.toNat = 0xF4 then 0x8F else 0xBF) (h2 : 0x80 ≤ b2.toNat) (h2' : b2.toNat ≤ 0xBF)
    (h3 : 0x80 ≤ b3.toNat) (h3' : b3.toNat ≤ 0xBF)
    (hv : v = (((b0.toNat - 0xF0) * 64 + (b1.toNat - 0x80)) * 64 + (b2.toNat - 0x80)) * 64 + (b3.toNat - 0x80)) :
    decodeFrom done pos none (b0 :: b1 :: b2 :: b3 :: bs) = decodeFrom (Char.ofNat v :: done) (pos + 4) none bs := by
  rw [hv, decodeFrom_lead _ _ _ _ (by omega) (ofLead?_four _ _ h0 h0'),
    decodeFrom_next _ _ _ _ (by rw [toNat_ite]; exact h1) (by rw [toNat_ite]; exact h1') (by simp),
    decodeFrom_next _ _ _ _ (by exact h2) (by exact h2') (by simp),
    decodeFrom_last _ _ _ _ (by exact h3) (by exact h3') rfl]

end

/-- The decoder takes the encoding of a character for the character. -/
theorem decodeFrom_encodeChar (done : Text) (pos : Nat) (c : Char) (bs : Bytes) :
    ∃ pos', decodeFrom done pos none (String.utf8EncodeChar c ++ bs) = decodeFrom (c :: done) pos' none bs := by
  have hc : Char.ofNat c.val.toNat = c := Char.ofNat_toNat c
  have hv : c.val.toNat.isValidChar := c.valid
  unfold String.utf8EncodeChar
  generalize c.val.toNat = v at hc hv
  subst hc
  simp only
  have hmax : v < 0x110000 := by rcases hv with hv | hv <;> omega
  split
  · refine ⟨pos + 1, ?_⟩
    rw [List.singleton_append, decodeFrom_ascii _ _ _ _ (by rw [byte_toNat] <;> omega), byte_toNat (by omega)]
  split
  · have h0 := byte_toNat (n := v / 64 % 32 + 0xC0) (by omega)
    have h1 := byte_toNat (n := v % 64 + 0x80) (by omega)
    exact ⟨pos + 2, decodeFrom_two _ _ _ (by omega) (by omega) (by omega) (by omega) (by omega)⟩
  split
  · have h0 := byte_toNat (n := v / 4096 % 16 + 0xE0) (by omega)
    have h1 := byte_toNat (n := v / 64 % 64 + 0x80) (by omega)
    have h2 := byte_toNat (n := v % 64 + 0x80) (by omega)
    refine ⟨pos + 3, decodeFrom_three _ _ _ (by omega) (by omega) ?_ ?_ (by omega) (by omega) (by omega)⟩
    · split <;> omega
    -- Surrogates have no encoding.
    · rcases hv with hv | hv <;> split <;> omega
  · have h0 := byte_toNat (n := v / 262144 % 8 + 0xF0) (by omega)
    have h1 := byte_toNat (n := v / 4096 % 64 + 0x80) (by omega)
    have h2 := byte_toNat (n := v / 64 % 64 + 0x80) (by omega)
    have h3 := byte_toNat (n := v % 64 + 0x80) (by omega)
    refine ⟨pos + 4, decodeFrom_four _ _ _ (by omega) (by omega) ?_ ?_ (by omega) (by omega) (by omega) (by omega)
      (by omega)⟩
    · split <;> omega
    · split <;> omega

/-! ### Texts -/

theorem decodeFrom_encode (s : Text) (done : Text) (pos : Nat) :
    decodeFrom done pos none (encode s) = .ok (done.reverse ++ s) := by
  induction s generalizing done pos with
  | nil => simp [encode, decodeFrom]
  | cons c s ih =>
      obtain ⟨pos', h⟩ := decodeFrom_encodeChar done pos c (encode s)
      rw [encode, List.flatMap_cons, ← encode, h, ih]
      simp

/-- A text is decoded from its encoding. -/
theorem decode_encode (s : Text) : decode (encode s) = .ok s := decodeFrom_encode s [] 0

/-! ### Bytes that can be decoded -/

theorem exists_last {done s : Text} {pos : Nat} {p : Pending} {bs : Bytes}
    (h : decodeFrom done pos (some p) bs = .ok s) (hm : p.missing = 1) :
    ∃ b rest, bs = b :: rest ∧ p.low.toNat ≤ b.toNat ∧ b.toNat ≤ p.high.toNat ∧
      decodeFrom (Char.ofNat (p.value * 64 + (b.toNat - 0x80)) :: done) (pos + 1) none rest = .ok s := by
  cases bs with
  | nil => simp [decodeFrom] at h
  | cons b rest =>
      by_cases hb : p.low ≤ b ∧ b ≤ p.high
      · have hlow := UInt8.le_iff_toNat_le.1 hb.1
        have hhigh := UInt8.le_iff_toNat_le.1 hb.2
        exact ⟨b, rest, rfl, hlow, hhigh, by rw [← decodeFrom_last _ _ _ _ hlow hhigh hm, h]⟩
      · simp [decodeFrom, hb] at h

theorem exists_next {done s : Text} {pos : Nat} {p : Pending} {bs : Bytes}
    (h : decodeFrom done pos (some p) bs = .ok s) (hm : 1 < p.missing) :
    ∃ b rest, bs = b :: rest ∧ p.low.toNat ≤ b.toNat ∧ b.toNat ≤ p.high.toNat ∧
      decodeFrom done (pos + 1)
        (some ⟨p.start, p.lead, p.seen + 1, p.value * 64 + (b.toNat - 0x80), p.missing - 1, 0x80, 0xBF⟩) rest =
          .ok s := by
  cases bs with
  | nil => simp [decodeFrom] at h
  | cons b rest =>
      by_cases hb : p.low ≤ b ∧ b ≤ p.high
      · have hlow := UInt8.le_iff_toNat_le.1 hb.1
        have hhigh := UInt8.le_iff_toNat_le.1 hb.2
        exact ⟨b, rest, rfl, hlow, hhigh, by rw [← decodeFrom_next _ _ _ _ hlow hhigh hm, h]⟩
      · simp [decodeFrom, hb] at h

section

variable {b0 b1 b2 b3 : UInt8} {v : Nat}

theorem encodeChar_one (h : b0.toNat < 128) : String.utf8EncodeChar (Char.ofNat b0.toNat) = [b0] := by
  have hv := toNat_ofNat_of_valid (n := b0.toNat) (.inl (by omega))
  rw [String.utf8EncodeChar, hv]
  rw [if_pos (by omega), byte_ext rfl]

theorem encodeChar_two (h0 : 0xC2 ≤ b0.toNat) (h0' : b0.toNat < 0xE0) (h1 : 0x80 ≤ b1.toNat) (h1' : b1.toNat ≤ 0xBF)
    (hv : v = (b0.toNat - 0xC0) * 64 + (b1.toNat - 0x80)) : String.utf8EncodeChar (Char.ofNat v) = [b0, b1] := by
  have hval := toNat_ofNat_of_valid (n := v) (.inl (by omega))
  rw [String.utf8EncodeChar, hval]
  rw [if_neg (by omega), if_pos (by omega), byte_ext (b := b0) (by omega), byte_ext (b := b1) (by omega)]

theorem encodeChar_three (h0 : 0xE0 ≤ b0.toNat) (h0' : b0.toNat < 0xF0)
    (h1 : (if b0.toNat = 0xE0 then 0xA0 else 0x80) ≤ b1.toNat)
    (h1' : b1.toNat ≤ if b0.toNat = 0xED then 0x9F else 0xBF) (h2 : 0x80 ≤ b2.toNat) (h2' : b2.toNat ≤ 0xBF)
    (hv : v = ((b0.toNat - 0xE0) * 64 + (b1.toNat - 0x80)) * 64 + (b2.toNat - 0x80)) :
    String.utf8EncodeChar (Char.ofNat v) = [b0, b1, b2] := by
  have hvalid : v.isValidChar := by
    unfold Nat.isValidChar
    split at h1 <;> split at h1' <;> omega
  have hval := toNat_ofNat_of_valid hvalid
  rw [String.utf8EncodeChar, hval]
  have hlow : 0x7FF < v := by split at h1 <;> omega
  have hhigh : b1.toNat ≤ 0xBF := by split at h1' <;> omega
  have hlow' : 0x80 ≤ b1.toNat := by split at h1 <;> omega
  rw [if_neg (by omega), if_neg (by omega), if_pos (by omega), byte_ext (b := b0) (by omega),
    byte_ext (b := b1) (by omega), byte_ext (b := b2) (by omega)]

theorem encodeChar_four (h0 : 0xF0 ≤ b0.toNat) (h0' : b0.toNat < 0xF5)
    (h1 : (if b0.toNat = 0xF0 then 0x90 else 0x80) ≤ b1.toNat)
    (h1' : b1.toNat ≤ if b0.toNat = 0xF4 then 0x8F else 0xBF) (h2 : 0x80 ≤ b2.toNat) (h2' : b2.toNat ≤ 0xBF)
    (h3 : 0x80 ≤ b3.toNat) (h3' : b3.toNat ≤ 0xBF)
    (hv : v = (((b0.toNat - 0xF0) * 64 + (b1.toNat - 0x80)) * 64 + (b2.toNat - 0x80)) * 64 + (b3.toNat - 0x80)) :
    String.utf8EncodeChar (Char.ofNat v) = [b0, b1, b2, b3] := by
  have hlow : 0xFFFF < v := by split at h1 <;> omega
  have hhigh : b1.toNat ≤ 0xBF := by split at h1' <;> omega
  have hlow' : 0x80 ≤ b1.toNat := by split at h1 <;> omega
  have hmax : v < 0x110000 := by split at h1' <;> omega
  have hval := toNat_ofNat_of_valid (n := v) (.inr ⟨by omega, by omega⟩)
  rw [String.utf8EncodeChar, hval]
  rw [if_neg (by omega), if_neg (by omega), if_neg (by omega), byte_ext (b := b0) (by omega),
    byte_ext (b := b1) (by omega), byte_ext (b := b2) (by omega), byte_ext (b := b3) (by omega)]

end

/-- The bytes that can be decoded begin with the encoding of a character. -/
theorem encodeChar_of_decodeFrom {done s : Text} {pos : Nat} {b : UInt8} {bs : Bytes}
    (h : decodeFrom done pos none (b :: bs) = .ok s) :
    ∃ c rest pos', b :: bs = String.utf8EncodeChar c ++ rest ∧ decodeFrom (c :: done) pos' none rest = .ok s := by
  by_cases hb : b.toNat < 128
  · rw [decodeFrom_ascii _ _ _ _ hb] at h
    exact ⟨_, bs, _, by rw [encodeChar_one hb]; rfl, h⟩
  by_cases hrange : b.toNat < 0xC2 ∨ 0xF5 ≤ b.toNat
  · rw [decodeFrom, if_neg (fun h => hb (UInt8.lt_iff_toNat_lt.1 h)), ofLead?_eq_none pos b hrange] at h
    cases h
  by_cases h2 : b.toNat < 0xE0
  · rw [decodeFrom_lead _ _ _ _ (by omega) (ofLead?_two _ _ (by omega) h2)] at h
    obtain ⟨b1, rest, rfl, hl1, hh1, h⟩ := exists_last h rfl
    refine ⟨_, rest, _, ?_, h⟩
    rw [encodeChar_two (by omega) h2 hl1 hh1 rfl]
    rfl
  by_cases h3 : b.toNat < 0xF0
  · rw [decodeFrom_lead _ _ _ _ (by omega) (ofLead?_three _ _ (by omega) h3)] at h
    obtain ⟨b1, rest, rfl, hl1, hh1, h⟩ := exists_next h (by simp)
    obtain ⟨b2, rest, rfl, hl2, hh2, h⟩ := exists_last h rfl
    rw [toNat_ite] at hl1 hh1
    refine ⟨_, rest, _, ?_, h⟩
    rw [encodeChar_three (by omega) h3 hl1 hh1 hl2 hh2 rfl]
    rfl
  · rw [decodeFrom_lead _ _ _ _ (by omega) (ofLead?_four _ _ (by omega) (by omega))] at h
    obtain ⟨b1, rest, rfl, hl1, hh1, h⟩ := exists_next h (by simp)
    obtain ⟨b2, rest, rfl, hl2, hh2, h⟩ := exists_next h (by simp)
    obtain ⟨b3, rest, rfl, hl3, hh3, h⟩ := exists_last h rfl
    rw [toNat_ite] at hl1 hh1
    refine ⟨_, rest, _, ?_, h⟩
    rw [encodeChar_four (by omega) (by omega) hl1 hh1 hl2 hh2 hl3 hh3 rfl]
    rfl

theorem encode_of_decodeFrom {done s : Text} {pos : Nat} {bs : Bytes} (h : decodeFrom done pos none bs = .ok s) :
    ∃ t, s = done.reverse ++ t ∧ encode t = bs := by
  cases bs with
  | nil =>
      rw [decodeFrom] at h
      exact ⟨[], by rw [← Except.ok.inj h, List.append_nil], rfl⟩
  | cons b bs =>
      obtain ⟨c, rest, pos', hb, h⟩ := encodeChar_of_decodeFrom h
      have : rest.length < (b :: bs).length := by
        have hc := String.length_utf8EncodeChar c
        have := c.utf8Size_pos
        rw [hb, List.length_append]
        omega
      obtain ⟨t, rfl, ht⟩ := encode_of_decodeFrom h
      exact ⟨c :: t, by simp, by rw [encode, List.flatMap_cons, ← encode, ht, hb]⟩
termination_by bs.length

/-- Bytes that can be decoded are the encoding of their text. -/
theorem encode_decode {bytes : Bytes} {s : Text} (h : decode bytes = .ok s) : encode s = bytes := by
  obtain ⟨t, rfl, ht⟩ := encode_of_decodeFrom h
  exact ht

end JujuMigration.Utf8
