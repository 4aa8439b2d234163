/-
  Recordwise.Proofs.Text.Utf8
  ───────────────────────────
  **Which bytes are UTF-8.**

  Bytes that decode are the encoding of what they decode to: the range of the
  second byte of a character leaves no overlong form and no surrogate.  With
  `decode_encode`, decoding succeeds exactly on the encodings of texts.  Main
  statements:

      encode_of_decodeFrom — bytes that decode are an encoding
      decode_eq_ok_iff     — and the other way round
-/
import Recordwise.Text.Utf8

namespace Recordwise.Text.Utf8

/-! ## §1. The characters of one to four bytes. -/

theorem ofNat_of_toNat {b : UInt8} {n : Nat} (h : b.toNat = n) : UInt8.ofNat n = b := by
  rw [← h, UInt8.ofNat_toNat]

theorem toNat_ofNat_of_valid {n : Nat} (h : n < 0xD800 ∨ 0xDFFF < n ∧ n < 0x110000) :
    (Char.ofNat n).toNat = n := by
  rw [Char.ofNat, dif_pos h]
  rfl

/-- The three kinds of a first byte of several. -/
theorem lead?_cases {b : Nat} {l : Lead} (h : lead? b = some l) :
    (∃ n, 2 ≤ n ∧ n < 32 ∧ b = 0xC0 + n ∧ l = ⟨0, n, 0x80, 0xBF⟩) ∨
      (∃ n, n < 16 ∧ b = 0xE0 + n ∧
        l = ⟨1, n, if n = 0 then 0xA0 else 0x80, if n = 13 then 0x9F else 0xBF⟩) ∨
      ∃ n, n < 5 ∧ b = 0xF0 + n ∧
        l = ⟨2, n, if n = 0 then 0x90 else 0x80, if n = 4 then 0x8F else 0xBF⟩ := by
  by_cases two : 0xC2 ≤ b ∧ b ≤ 0xDF
  · obtain ⟨n, rfl⟩ : ∃ n, b = 0xC0 + n := ⟨b - 0xC0, by omega⟩
    rw [lead?_two (by omega) (by omega)] at h
    exact .inl ⟨n, by omega, by omega, rfl, (Option.some.inj h).symm⟩
  by_cases three : 0xE0 ≤ b ∧ b ≤ 0xEF
  · obtain ⟨n, rfl⟩ : ∃ n, b = 0xE0 + n := ⟨b - 0xE0, by omega⟩
    rw [lead?_three (by omega)] at h
    exact .inr (.inl ⟨n, by omega, rfl, (Option.some.inj h).symm⟩)
  by_cases four : 0xF0 ≤ b ∧ b ≤ 0xF4
  · obtain ⟨n, rfl⟩ : ∃ n, b = 0xF0 + n := ⟨b - 0xF0, by omega⟩
    rw [lead?_four (by omega)] at h
    exact .inr (.inr ⟨n, by omega, rfl, (Option.some.inj h).symm⟩)
  · unfold lead? at h
    rw [if_neg two, if_neg three, if_neg four] at h
    cases h

theorem encodeChar_one {b : UInt8} (h : b.toNat < 0x80) :
    encodeChar (Char.ofNat b.toNat) = [b] := by
  have same := toNat_ofNat_of_valid (n := b.toNat) (by omega)
  unfold encodeChar
  simp only [same]
  rw [if_pos h, UInt8.ofNat_toNat]

theorem encodeChar_two {b₀ b₁ : UInt8} {n : Nat} (lead : b₀.toNat = 0xC0 + n) (lo : 2 ≤ n)
    (hi : n < 32) (second : 0x80 ≤ b₁.toNat ∧ b₁.toNat ≤ 0xBF) :
    encodeChar (Char.ofNat (n * 64 + (b₁.toNat - 0x80))) = [b₀, b₁] := by
  have same := toNat_ofNat_of_valid (n := n * 64 + (b₁.toNat - 0x80)) (by omega)
  unfold encodeChar
  simp only [same]
  rw [if_neg (by omega), if_pos (by omega), ofNat_of_toNat (b := b₀) (by omega),
    ofNat_of_toNat (b := b₁) (by omega)]

theorem encodeChar_three {b₀ b₁ b₂ : UInt8} {n : Nat} (lead : b₀.toNat = 0xE0 + n) (hi : n < 16)
    (second : (if n = 0 then 0xA0 else 0x80) ≤ b₁.toNat ∧
      b₁.toNat ≤ if n = 13 then 0x9F else 0xBF)
    (third : 0x80 ≤ b₂.toNat ∧ b₂.toNat ≤ 0xBF) :
    encodeChar (Char.ofNat ((n * 64 + (b₁.toNat - 0x80)) * 64 + (b₂.toNat - 0x80))) =
      [b₀, b₁, b₂] := by
  have range : 0x80 ≤ b₁.toNat ∧ b₁.toNat ≤ 0xBF := by split at second <;> split at second <;> omega
  -- no overlong form and no surrogate
  have low : n = 0 → 0xA0 ≤ b₁.toNat := by intro h; rw [if_pos h] at second; exact second.1
  have top : n = 13 → b₁.toNat ≤ 0x9F := by intro h; rw [if_pos h] at second; exact second.2
  have same := toNat_ofNat_of_valid
    (n := (n * 64 + (b₁.toNat - 0x80)) * 64 + (b₂.toNat - 0x80)) (by omega)
  unfold encodeChar
  simp only [same]
  rw [if_neg (by omega), if_neg (by omega), if_pos (by omega),
    ofNat_of_toNat (b := b₀) (by omega), ofNat_of_toNat (b := b₁) (by omega),
    ofNat_of_toNat (b := b₂) (by omega)]

theorem encodeChar_four {b₀ b₁ b₂ b₃ : UInt8} {n : Nat} (lead : b₀.toNat = 0xF0 + n) (hi : n < 5)
    (second : (if n = 0 then 0x90 else 0x80) ≤ b₁.toNat ∧
      b₁.toNat ≤ if n = 4 then 0x8F else 0xBF)
    (third : 0x80 ≤ b₂.toNat ∧ b₂.toNat ≤ 0xBF) (fourth : 0x80 ≤ b₃.toNat ∧ b₃.toNat ≤ 0xBF) :
    encodeChar (Char.ofNat (((n * 64 + (b₁.toNat - 0x80)) * 64 + (b₂.toNat - 0x80)) * 64 +
      (b₃.toNat - 0x80))) = [b₀, b₁, b₂, b₃] := by
  have range : 0x80 ≤ b₁.toNat ∧ b₁.toNat ≤ 0xBF := by split at second <;> split at second <;> omega
  -- no overlong form and nothing beyond the last code point
  have low : n = 0 → 0x90 ≤ b₁.toNat := by intro h; rw [if_pos h] at second; exact second.1
  have top : n = 4 → b₁.toNat ≤ 0x8F := by intro h; rw [if_pos h] at second; exact second.2
  have same := toNat_ofNat_of_valid
    (n := ((n * 64 + (b₁.toNat - 0x80)) * 64 + (b₂.toNat - 0x80)) * 64 + (b₃.toNat - 0x80))
    (by omega)
  unfold encodeChar
  simp only [same]
  rw [if_neg (by omega), if_neg (by omega), if_neg (by omega),
    ofNat_of_toNat (b := b₀) (by omega), ofNat_of_toNat (b := b₁) (by omega),
    ofNat_of_toNat (b := b₂) (by omega), ofNat_of_toNat (b := b₃) (by omega)]

/-! ## §2. Whole texts. -/

theorem isContinuation_iff {n : Nat} : isContinuation n = true ↔ 0x80 ≤ n ∧ n ≤ 0xBF := by
  simp [isContinuation]

/-- Bytes that decode begin with the bytes of a character. -/
theorem decodeFrom_cons {skipped : Nat} {b₀ : UInt8} {r₀ : List UInt8} {cs : List Char}
    (h : decodeFrom skipped (b₀ :: r₀) = .ok cs) :
    ∃ c ds k rest, b₀ :: r₀ = encodeChar c ++ rest ∧ decodeFrom k rest = .ok ds ∧ cs = c :: ds ∧
      rest.length ≤ r₀.length := by
  have goesOn {k : Nat} {c : Char} {front rest : List UInt8} (same : encodeChar c = front)
      (shorter : rest.length ≤ r₀.length) (whole : b₀ :: r₀ = front ++ rest)
      (read : (decodeFrom k rest).map (c :: ·) = .ok cs) :
      ∃ c ds k rest, b₀ :: r₀ = encodeChar c ++ rest ∧ decodeFrom k rest = .ok ds ∧
        cs = c :: ds ∧ rest.length ≤ r₀.length := by
    cases hd : decodeFrom k rest with
    | error f => rw [hd] at read; cases read
    | ok ds =>
        rw [hd] at read
        cases read
        exact ⟨c, ds, k, rest, by rw [same, whole], hd, rfl, shorter⟩
  rw [decodeFrom.eq_def] at h
  dsimp only at h
  split at h
  · rename_i ascii
    exact goesOn (encodeChar_one ascii) (Nat.le_refl _) rfl h
  split at h
  · cases h
  rename_i l found
  split at h
  · cases h
  rename_i b₁ r₁
  split at h
  · cases h
  rename_i inRange
  -- how many bytes follow says which kind of first byte it is
  rcases lead?_cases found with ⟨n, lo, hi, lead, rfl⟩ | ⟨n, hi, lead, rfl⟩ | ⟨n, hi, lead, rfl⟩
  · rw [if_pos rfl] at h
    exact goesOn (encodeChar_two lead lo hi (by simpa using inRange)) (by simp) rfl h
  all_goals
    rw [if_neg (by simp)] at h
    split at h
    · cases h
    rename_i b₂ r₂
    split at h
    · cases h
    rename_i third
    rw [Bool.not_eq_false, isContinuation_iff] at third
  · rw [if_pos rfl] at h
    exact goesOn (encodeChar_three lead hi (by simpa using inRange) third) (by simp; omega) rfl h
  · rw [if_neg (by simp)] at h
    split at h
    · cases h
    rename_i b₃ r₃
    split at h
    · cases h
    rename_i fourth
    rw [Bool.not_eq_false, isContinuation_iff] at fourth
    exact goesOn (encodeChar_four lead hi (by simpa using inRange) third fourth) (by simp; omega)
      rfl h

/-- **Bytes that decode are an encoding.** -/
theorem encode_of_decodeFrom {skipped : Nat} {bytes : List UInt8} {cs : List Char}
    (h : decodeFrom skipped bytes = .ok cs) : encode cs = bytes := by
  match bytes with
  | [] => cases h; rfl
  | b :: r =>
      obtain ⟨c, ds, k, rest, whole, read, rfl, shorter⟩ := decodeFrom_cons h
      have others : encode ds = rest := encode_of_decodeFrom read
      rw [whole, ← others]
      rfl
termination_by bytes.length

/-- **Decoding succeeds exactly on the encodings of texts.** -/
theorem decode_eq_ok_iff {bytes : List UInt8} {cs : List Char} :
    decode bytes = .ok cs ↔ bytes = encode cs := by
  constructor
  · exact fun h => (encode_of_decodeFrom h).symm
  · rintro rfl
    exact decode_encode cs

end Recordwise.Text.Utf8
