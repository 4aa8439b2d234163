/-
  Recordwise.Text.Utf8
  ────────────────────
  **UTF-8, with the place where a byte sequence stops being valid.**

  `decode` reads bytes into characters.  The first byte of a character
  decides how many bytes follow it and which values the second may have;
  overlong forms, surrogates and values beyond the last code point are
  excluded by that second byte alone.  A fault says how many valid bytes
  precede it and how many bytes are at fault, or that the input ends inside
  a character.  Main statement:

      decode_encode — the bytes of a text decode to the text
-/

namespace Recordwise.Text.Utf8

/-! ## §1. Encoding. -/

/-- The bytes of one character. -/
def encodeChar (c : Char) : List UInt8 :=
  let n := c.toNat
  if n < 0x80 then [UInt8.ofNat n]
  else if n < 0x800 then [UInt8.ofNat (0xC0 + n / 64), UInt8.ofNat (0x80 + n % 64)]
  else if n < 0x10000 then
    [UInt8.ofNat (0xE0 + n / 4096), UInt8.ofNat (0x80 + n / 64 % 64),
      UInt8.ofNat (0x80 + n % 64)]
  else
    [UInt8.ofNat (0xF0 + n / 262144), UInt8.ofNat (0x80 + n / 4096 % 64),
      UInt8.ofNat (0x80 + n / 64 % 64), UInt8.ofNat (0x80 + n % 64)]

/-- The bytes of a text. -/
def encode (cs : List Char) : List UInt8 := cs.flatMap encodeChar

/-! ## §2. Decoding. -/

/-- Where and how a byte sequence stops being valid. -/
structure Fault where
  /-- The number of valid bytes before the fault. -/
  validUpTo : Nat
  /-- The number of bytes at fault; `none` when the input ends inside a
  character. -/
  length? : Option Nat
  deriving Repr, DecidableEq

/-- What the first byte of a character of several bytes promises. -/
structure Lead where
  /-- The number of bytes after the second one. -/
  more : Nat
  /-- The first byte's share of the code point. -/
  high : Nat
  /-- The least value of the second byte. -/
  low : Nat
  /-- The greatest value of the second byte. -/
  top : Nat
  deriving Repr, DecidableEq

/-- The promise of a first byte of a character of several bytes. -/
def lead? (b : Nat) : Option Lead :=
  if 0xC2 ≤ b ∧ b ≤ 0xDF then some ⟨0, b - 0xC0, 0x80, 0xBF⟩
  else if 0xE0 ≤ b ∧ b ≤ 0xEF then
    some ⟨1, b - 0xE0, if b = 0xE0 then 0xA0 else 0x80, if b = 0xED then 0x9F else 0xBF⟩
  else if 0xF0 ≤ b ∧ b ≤ 0xF4 then
    some ⟨2, b - 0xF0, if b = 0xF0 then 0x90 else 0x80, if b = 0xF4 then 0x8F else 0xBF⟩
  else none

/-- Whether a byte continues a character. -/
def isContinuation (b : Nat) : Bool := 0x80 ≤ b && b ≤ 0xBF

/-- Read bytes that `skipped` valid ones precede. -/
def decodeFrom (skipped : Nat) : List UInt8 → Except Fault (List Char)
  | [] => .ok []
  | b₀ :: r₀ =>
    if b₀.toNat < 0x80 then (decodeFrom (skipped + 1) r₀).map (Char.ofNat b₀.toNat :: ·)
    else match lead? b₀.toNat with
    | none => .error ⟨skipped, some 1⟩
    | some l =>
      -- the lead byte narrows the range of the second byte only
      match r₀ with
      | [] => .error ⟨skipped, none⟩
      | b₁ :: r₁ =>
        if b₁.toNat < l.low ∨ l.top < b₁.toNat then .error ⟨skipped, some 1⟩
        else
          let n₁ := l.high * 64 + (b₁.toNat - 0x80)
          if l.more = 0 then (decodeFrom (skipped + 2) r₁).map (Char.ofNat n₁ :: ·)
          else match r₁ with
          | [] => .error ⟨skipped, none⟩
          | b₂ :: r₂ =>
            if isContinuation b₂.toNat = false then .error ⟨skipped, some 2⟩
            else
              let n₂ := n₁ * 64 + (b₂.toNat - 0x80)
              if l.more = 1 then (decodeFrom (skipped + 3) r₂).map (Char.ofNat n₂ :: ·)
              else match r₂ with
              | [] => .error ⟨skipped, none⟩
              | b₃ :: r₃ =>
                if isContinuation b₃.toNat = false then .error ⟨skipped, some 3⟩
                else
                  let n₃ := n₂ * 64 + (b₃.toNat - 0x80)
                  (decodeFrom (skipped + 4) r₃).map (Char.ofNat n₃ :: ·)

/-- Read bytes as characters. -/
def decode (bytes : List UInt8) : Except Fault (List Char) := decodeFrom 0 bytes

/-- How a fault is reported. -/
def Fault.message (f : Fault) : String :=
  match f.length? with
  | some n =>
    "invalid utf-8 sequence of " ++ Nat.repr n ++ " bytes from index " ++ Nat.repr f.validUpTo
  | none => "incomplete utf-8 byte sequence from index " ++ Nat.repr f.validUpTo

/-! ## §3. Encoded texts decode. -/

theorem toNat_ofNat_lt {n : Nat} (h : n < 256) : (UInt8.ofNat n).toNat = n := by
  rw [UInt8.toNat_ofNat']; omega

theorem lead?_two {n : Nat} (lo : 2 ≤ n) (hi : n < 32) :
    lead? (0xC0 + n) = some ⟨0, n, 0x80, 0xBF⟩ := by
  have high : 0xC0 + n - 0xC0 = n := by omega
  unfold lead?
  rw [if_pos (by omega), high]

theorem lead?_three {n : Nat} (hi : n < 16) :
    lead? (0xE0 + n) =
      some ⟨1, n, if n = 0 then 0xA0 else 0x80, if n = 13 then 0x9F else 0xBF⟩ := by
  have high : 0xE0 + n - 0xE0 = n := by omega
  have low : (0xE0 + n = 0xE0) = (n = 0) := by simp only [eq_iff_iff]; omega
  have top : (0xE0 + n = 0xED) = (n = 13) := by simp only [eq_iff_iff]; omega
  unfold lead?
  rw [if_neg (by omega), if_pos (by omega)]
  simp only [high, low, top]

theorem lead?_four {n : Nat} (hi : n < 5) :
    lead? (0xF0 + n) =
      some ⟨2, n, if n = 0 then 0x90 else 0x80, if n = 4 then 0x8F else 0xBF⟩ := by
  have high : 0xF0 + n - 0xF0 = n := by omega
  have low : (0xF0 + n = 0xF0) = (n = 0) := by simp only [eq_iff_iff]; omega
  have top : (0xF0 + n = 0xF4) = (n = 4) := by simp only [eq_iff_iff]; omega
  unfold lead?
  rw [if_neg (by omega), if_neg (by omega), if_pos (by omega)]
  simp only [high, low, top]

theorem isContinuation_add {n : Nat} (h : n < 64) : isContinuation (0x80 + n) = true := by
  simp only [isContinuation, Bool.and_eq_true, decide_eq_true_eq]; omega

/-- The bytes of a character, with more behind them, decode to the
character. -/
theorem decodeFrom_encodeChar_append (skipped : Nat) (c : Char) (bytes : List UInt8) :
    decodeFrom skipped (encodeChar c ++ bytes) =
      (decodeFrom (skipped + (encodeChar c).length) bytes).map (c :: ·) := by
  have valid : c.toNat < 0xD800 ∨ 0xDFFF < c.toNat ∧ c.toNat < 0x110000 := c.valid
  have self : Char.ofNat c.toNat = c := Char.ofNat_toNat c
  unfold encodeChar
  generalize c.toNat = n at valid self
  dsimp only
  split
  · -- one byte
    simp only [List.cons_append, List.nil_append, decodeFrom, List.length_cons, List.length_nil]
    rw [toNat_ofNat_lt (by omega), if_pos (by omega), self]
  split
  · -- two bytes
    simp only [List.cons_append, List.nil_append, decodeFrom, List.length_cons, List.length_nil]
    rw [toNat_ofNat_lt (by omega), if_neg (by omega), lead?_two (by omega) (by omega),
      toNat_ofNat_lt (by omega)]
    simp only []
    rw [if_neg (by omega), if_pos trivial,
      show n / 64 * 64 + (0x80 + n % 64 - 0x80) = n by omega, self]
  split
  · -- three bytes; surrogates are no characters
    simp only [List.cons_append, List.nil_append, decodeFrom, List.length_cons, List.length_nil]
    rw [toNat_ofNat_lt (by omega), if_neg (by omega), lead?_three (by omega),
      toNat_ofNat_lt (by omega), toNat_ofNat_lt (by omega)]
    simp only [isContinuation_add (n := n % 64) (by omega)]
    rw [if_neg (by split <;> split <;> omega), if_neg (by decide), if_neg (by decide),
      if_pos trivial, show (n / 4096 * 64 + (0x80 + n / 64 % 64 - 0x80)) * 64
        + (0x80 + n % 64 - 0x80) = n by omega, self]
  · -- four bytes
    simp only [List.cons_append, List.nil_append, decodeFrom, List.length_cons, List.length_nil]
    rw [toNat_ofNat_lt (by omega), if_neg (by omega), lead?_four (by omega),
      toNat_ofNat_lt (by omega), toNat_ofNat_lt (by omega), toNat_ofNat_lt (by omega)]
    simp only [isContinuation_add (n := n % 64) (by omega),
      isContinuation_add (n := n / 64 % 64) (by omega)]
    rw [if_neg (by split <;> split <;> omega), if_neg (by decide), if_neg (by decide),
      if_neg (by decide), if_neg (by decide),
      show ((n / 262144 * 64 + (0x80 + n / 4096 % 64 - 0x80)) * 64
        + (0x80 + n / 64 % 64 - 0x80)) * 64 + (0x80 + n % 64 - 0x80) = n by omega, self]

theorem decodeFrom_encode (skipped : Nat) (cs : List Char) :
    decodeFrom skipped (encode cs) = .ok cs := by
  induction cs generalizing skipped with
  | nil => rfl
  | cons c cs ih =>
    show decodeFrom skipped (encodeChar c ++ encode cs) = .ok (c :: cs)
    rw [decodeFrom_encodeChar_append, ih]
    rfl

/-- **The bytes of a text decode to the text.** -/
theorem decode_encode (cs : List Char) : decode (encode cs) = .ok cs := decodeFrom_encode 0 cs

end Recordwise.Text.Utf8
