import Mathlib.Data.List.Lex
import Mathlib.Data.String.Basic

/-!
# The order of texts is the order of their bytes

In UTF-8 a character is a leading byte and the last digits of its code point to the base 64, one to
a continuation byte. The leading byte tells how many digits follow and holds the digits before them,
so a smaller character has a byte that is smaller where the two forms part. Texts that are compared
by their characters are therefore compared by their bytes.
-/

namespace FilterGateway.Text

/-- The bytes of a text in UTF-8. -/
def bytes (s : String) : List UInt8 :=
  s.toUTF8.data.toList

theorem bytes_eq (s : String) : bytes s = s.toList.flatMap String.utf8EncodeChar := by
  rw [bytes, String.toUTF8, ← String.utf8Encode_toList, List.utf8Encode]
  simp

/-! ### One character -/

/-- The last `k` digits of `v` to the base 64, as continuation bytes. -/
def continuation : Nat → Nat → List UInt8
  | 0, _ => []
  | k + 1, v => UInt8.ofNat (v / 64 ^ k % 64 + 128) :: continuation k v

/-- How many continuation bytes a code point has. -/
def continued (v : Nat) : Nat :=
  if v ≤ 127 then 0 else if v ≤ 2047 then 1 else if v ≤ 65535 then 2 else 3

/-- The leading byte of a code point. -/
def leading (v : Nat) : Nat :=
  if v ≤ 127 then v else if v ≤ 2047 then v / 64 + 192
  else if v ≤ 65535 then v / 4096 + 224 else v / 262144 + 240

theorem toNat_val_lt (c : Char) : c.val.toNat < 1114112 := by
  have hvalid := c.valid
  unfold UInt32.isValidChar Nat.isValidChar at hvalid
  omega

theorem utf8EncodeChar_eq (c : Char) :
    String.utf8EncodeChar c =
      UInt8.ofNat (leading c.val.toNat) :: continuation (continued c.val.toNat) c.val.toNat := by
  have hlt := toNat_val_lt c
  simp only [String.utf8EncodeChar, leading, continued]
  split_ifs
  · rfl
  · rw [Nat.mod_eq_of_lt (show c.val.toNat / 64 < 32 by omega)]
    simp [continuation]
  · rw [Nat.mod_eq_of_lt (show c.val.toNat / 4096 < 16 by omega)]
    simp [continuation]
  · rw [Nat.mod_eq_of_lt (show c.val.toNat / 262144 < 8 by omega)]
    simp [continuation]

theorem leading_lt {v : Nat} (h : v < 1114112) : leading v < 256 := by
  unfold leading
  split_ifs <;> omega

theorem leading_lt_or_eq {m n : Nat} (h : m < n) :
    leading m < leading n ∨
      leading m = leading n ∧ continued m = continued n ∧
        m % 64 ^ continued n < n % 64 ^ continued n := by
  unfold leading continued
  split_ifs <;> omega

theorem ofNat_lt_ofNat {m n : Nat} (h : m < n) (hn : n < 256) : UInt8.ofNat m < UInt8.ofNat n := by
  rw [UInt8.lt_iff_toNat_lt, UInt8.toNat_ofNat', UInt8.toNat_ofNat']
  omega

theorem continuation_append_lt {k m n : Nat} (h : m % 64 ^ k < n % 64 ^ k) (u v : List UInt8) :
    continuation k m ++ u < continuation k n ++ v := by
  induction k with
  | zero =>
    simp [Nat.mod_one] at h
  | succ k ih =>
    rw [pow_succ, Nat.mod_mul, Nat.mod_mul] at h
    simp only [continuation, List.cons_append, List.cons_lt_cons_iff]
    have hpos : 0 < 64 ^ k := Nat.pow_pos (by decide)
    have hm := Nat.mod_lt m hpos
    have hn := Nat.mod_lt n hpos
    -- The first digits decide, unless they are equal; a larger first digit cannot be made up for.
    rcases Nat.lt_trichotomy (m / 64 ^ k % 64) (n / 64 ^ k % 64) with hlt | heq | hgt
    · exact Or.inl (ofNat_lt_ofNat (by omega) (by omega))
    · rw [heq] at h
      exact Or.inr ⟨by rw [heq], ih (by omega)⟩
    · have := Nat.mul_le_mul_left (64 ^ k) (Nat.succ_le_of_lt hgt)
      rw [Nat.mul_succ] at this
      omega

theorem utf8EncodeChar_append_lt {c d : Char} (h : c < d) (u v : List UInt8) :
    String.utf8EncodeChar c ++ u < String.utf8EncodeChar d ++ v := by
  rw [utf8EncodeChar_eq, utf8EncodeChar_eq, List.cons_append, List.cons_append,
    List.cons_lt_cons_iff]
  rcases leading_lt_or_eq (show c.val.toNat < d.val.toNat from h) with hlt | ⟨heq, hk, hrest⟩
  · exact Or.inl (ofNat_lt_ofNat hlt (leading_lt (toNat_val_lt d)))
  · rw [heq, hk]
    exact Or.inr ⟨rfl, continuation_append_lt hrest u v⟩

/-! ### Texts -/

theorem flatMap_utf8EncodeChar_lt {cs ds : List Char} (h : cs < ds) :
    cs.flatMap String.utf8EncodeChar < ds.flatMap String.utf8EncodeChar := by
  induction h with
  | @nil d ds =>
    obtain ⟨byte, rest, heq⟩ := List.exists_cons_of_ne_nil (String.utf8EncodeChar_ne_nil (c := d))
    simp [heq]
  | @rel c cs d ds hlt =>
    simpa only [List.flatMap_cons] using utf8EncodeChar_append_lt hlt _ _
  | cons _ ih =>
    simpa only [List.flatMap_cons] using List.append_left_lt ih

/-- A text comes before another one exactly when its bytes do. -/
theorem bytes_lt_bytes_iff {s t : String} : bytes s < bytes t ↔ s < t := by
  have hmono : ∀ {s t : String}, s < t → bytes s < bytes t := by
    intro s t h
    rw [bytes_eq, bytes_eq]
    exact flatMap_utf8EncodeChar_lt (String.lt_iff_toList_lt.mp h)
  refine ⟨fun hbytes => ?_, hmono⟩
  rcases lt_trichotomy s t with hlt | rfl | hgt
  · exact hlt
  · exact absurd hbytes (List.lt_irrefl _)
  · exact absurd hbytes (List.lt_asymm (hmono hgt))

end FilterGateway.Text
