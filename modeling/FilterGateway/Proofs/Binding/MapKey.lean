import FilterGateway.Shape.Key
import FilterGateway.Proofs.Binding.Reading
import Mathlib.Tactic.IntervalCases

/-!
# Keys of maps, read and written

A text is the only one for the key that it is read as: an integer is read from its decimal digits
alone, without a leading zero, a fraction or an exponent, and with a sign only when it is negative.
So two keys of an object are two keys of the map, and each entry is written where it was read.
-/

namespace FilterGateway

open FilterGateway.Decimal

theorem digitChar_of_isDigit {c : Char} (h : c.isDigit = true) :
    Nat.digitChar (c.toNat - '0'.toNat) = c := by
  have hbounds : 48 ≤ c.toNat ∧ c.toNat ≤ 57 := by
    simpa [Char.isDigit, UInt32.le_iff_toNat_le] using h
  obtain ⟨hlow, hhigh⟩ := hbounds
  have hchar : c = Char.ofNat c.toNat := (Char.ofNat_toNat c).symm
  generalize c.toNat = n at hlow hhigh hchar
  subst hchar
  interval_cases n <;> rfl

theorem digit_lt_ten {c : Char} (h : c.isDigit = true) : c.toNat - '0'.toNat < 10 := by
  have hbounds : 48 ≤ c.toNat ∧ c.toNat ≤ 57 := by
    simpa [Char.isDigit, UInt32.le_iff_toNat_le] using h
  have hzero : '0'.toNat = 48 := rfl
  omega

theorem toDigits_boundedDigits {bound start n : Nat} {cs : List Char} (hstart : 0 < start)
    (h : boundedDigits bound start cs = (n, [])) :
    Nat.toDigits 10 n = Nat.toDigits 10 start ++ cs := by
  induction cs generalizing start with
  | nil =>
    obtain rfl : start = n := congrArg Prod.fst h
    simp
  | cons c cs ih =>
    rw [boundedDigits] at h
    split at h
    case isTrue hdigit =>
      obtain ⟨hdigit, -⟩ := Bool.and_eq_true_iff.mp hdigit
      have hlt := digit_lt_ten hdigit
      rw [ih (by omega) h, ← Nat.toDigits_append_toDigits (by omega) hstart hlt,
        Nat.toDigits_of_lt_base hlt, digitChar_of_isDigit hdigit, List.append_assoc,
        List.singleton_append]
    case isFalse => cases h

theorem toDigits_boundedDigits_zero {bound n : Nat} {c : Char} {cs : List Char}
    (hzero : c = '0' → cs = []) (h : boundedDigits bound 0 (c :: cs) = (n, [])) :
    Nat.toDigits 10 n = c :: cs := by
  rw [boundedDigits] at h
  split at h
  case isTrue hdigit =>
    obtain ⟨hdigit, -⟩ := Bool.and_eq_true_iff.mp hdigit
    have hlt := digit_lt_ten hdigit
    rw [Nat.mul_zero, Nat.zero_add] at h
    by_cases hvalue : c.toNat - '0'.toNat = 0
    · have hc : c = '0' := by
        rw [← digitChar_of_isDigit hdigit, hvalue]
        rfl
      obtain rfl := hzero hc
      obtain rfl : c.toNat - '0'.toNat = n := congrArg Prod.fst h
      rw [Nat.toDigits_of_lt_base hlt, digitChar_of_isDigit hdigit]
    · rw [toDigits_boundedDigits (by omega) h, Nat.toDigits_of_lt_base hlt,
        digitChar_of_isDigit hdigit, List.singleton_append]
  case isFalse => cases h

namespace KeyNumber

theorem noDigit_ne_ok {α : Type} (key rest : List Char) (a : α) : noDigit key rest ≠ .ok a := by
  rw [noDigit.eq_def]
  split <;> exact fun h => by cases h

theorem toDigits_whole {key body : List Char} {draft : Draft}
    (h : whole key body = .ok (draft, [])) (hint : draft.isDouble = false) :
    Nat.toDigits 10 draft.significand = body := by
  rw [whole.eq_def] at h
  split at h
  case h_1 c rest =>
    split at h
    · cases h
    · -- After a single zero there would be something left.
      have hrest := congrArg Prod.snd (Except.ok.inj h)
      exact absurd hrest (List.cons_ne_nil _ _)
  case h_2 c rest hzero =>
    split at h
    case isTrue =>
      rcases hread : boundedDigits significandBound 0 (c :: rest) with ⟨n, left⟩
      rw [hread] at h
      obtain ⟨rfl, hrest⟩ := Prod.mk.inj (Except.ok.inj h)
      have hsurplus : left.takeWhile Char.isDigit = [] := by simpa using hint
      have hleft : left = [] := by
        rw [← List.takeWhile_append_dropWhile (p := Char.isDigit) (l := left), hsurplus, hrest]
        rfl
      refine toDigits_boundedDigits_zero (fun hc => ?_) (hleft ▸ hread)
      cases rest with
      | nil => rfl
      | cons d rest => exact absurd rfl (hzero d rest (by rw [hc]))
    case isFalse => exact absurd h (noDigit_ne_ok _ _ _)
  case h_3 => exact absurd h (noDigit_ne_ok _ _ _)

theorem fraction_eq_ok {key rest rest' : List Char} {draft draft' : Draft}
    (h : fraction key draft rest = .ok (draft', rest')) (hint : draft'.isDouble = false) :
    draft' = draft ∧ rest' = rest := by
  rw [fraction.eq_def] at h
  split at h
  case h_1 digits =>
    split at h
    case isTrue =>
      obtain ⟨rfl, -⟩ := Prod.mk.inj (Except.ok.inj h)
      cases hint
    case isFalse => exact absurd h (noDigit_ne_ok _ _ _)
  case h_2 =>
    obtain ⟨rfl, rfl⟩ := Prod.mk.inj (Except.ok.inj h)
    exact ⟨rfl, rfl⟩

theorem power_eq_ok {key rest rest' : List Char} {draft draft' : Draft}
    (h : power key draft rest = .ok (draft', rest')) (hint : draft'.isDouble = false) :
    draft' = draft ∧ rest' = rest := by
  rw [power.eq_def] at h
  split at h
  case h_1 exponent | h_2 exponent =>
    rcases sign exponent with ⟨negative, digits⟩
    dsimp only at h
    split at h
    case isTrue =>
      rcases boundedDigits exponentBound 0 digits with ⟨n, left⟩
      split at h
      · split at h
        · cases h
        · obtain ⟨rfl, -⟩ := Prod.mk.inj (Except.ok.inj h)
          cases hint
      · obtain ⟨rfl, -⟩ := Prod.mk.inj (Except.ok.inj h)
        cases hint
    case isFalse => exact absurd h (noDigit_ne_ok _ _ _)
  case h_3 =>
    obtain ⟨rfl, rfl⟩ := Prod.mk.inj (Except.ok.inj h)
    exact ⟨rfl, rfl⟩

theorem value?_eq_int {negative : Bool} {draft : Draft} {n : Int}
    (h : value? negative draft = some (.int n)) :
    draft.isDouble = false ∧ (negative = true → 0 < draft.significand) ∧
      n = if negative then -(draft.significand : Int) else draft.significand := by
  have hvalue : value? negative draft =
      if draft.isDouble ∨ (negative ∧ ¬((if negative then -(draft.significand : Int) else
          draft.significand) < 0 ∧ IntWidth.i64.admits (if negative then -(draft.significand : Int)
          else draft.significand))) then
        (Scientific.toFloatByStep? ⟨negative, draft.significand, draft.exponent⟩).map .float
      else some (.int (if negative then -(draft.significand : Int) else draft.significand)) := rfl
  rw [hvalue] at h
  by_cases hdouble : draft.isDouble ∨ (negative ∧ ¬((if negative then -(draft.significand : Int)
      else draft.significand) < 0 ∧ IntWidth.i64.admits (if negative then -(draft.significand : Int)
      else draft.significand)))
  · rw [if_pos hdouble] at h
    obtain ⟨x, -, heq⟩ := Option.map_eq_some_iff.mp h
    cases heq
  · rw [if_neg hdouble] at h
    obtain ⟨hint, hsign⟩ := not_or.mp hdouble
    refine ⟨by simpa using hint, fun hnegative => ?_, (Json.int.inj (Option.some.inj h)).symm⟩
    by_contra hzero
    refine hsign ⟨hnegative, fun hadmits => ?_⟩
    have hlt := hadmits.1
    rw [if_pos hnegative] at hlt
    omega

theorem number_eq_int {key : List Char} {n : Int} (h : number key = .ok (.int n, [])) :
    ∃ (negative : Bool) (body : List Char) (draft : Draft),
      key = (if negative then '-' :: body else body) ∧ whole key body = .ok (draft, []) ∧
        value? negative draft = some (.int n) := by
  rw [number.eq_def] at h
  split at h
  case h_1 negative body hsign =>
    have hkey : key = (if negative then '-' :: body else body) := by
      split at hsign <;> obtain ⟨rfl, rfl⟩ := Prod.mk.inj hsign <;> rfl
    obtain ⟨⟨wholes, left⟩, hwhole, h⟩ := bind_eq_ok_iff.mp h
    obtain ⟨⟨fractions, left'⟩, hfraction, h⟩ := bind_eq_ok_iff.mp h
    obtain ⟨⟨draft, rest⟩, hpower, h⟩ := bind_eq_ok_iff.mp h
    rcases hvalue : value? negative draft with _ | value <;> simp only [hvalue] at h
    · cases h
    · obtain ⟨rfl, rfl⟩ := Prod.mk.inj (Except.ok.inj h)
      obtain ⟨hint, -, -⟩ := value?_eq_int hvalue
      obtain ⟨rfl, rfl⟩ := power_eq_ok hpower hint
      obtain ⟨rfl, rfl⟩ := fraction_eq_ok hfraction hint
      exact ⟨negative, body, draft, hkey, hwhole, hvalue⟩

theorem toString_of_number {key : List Char} {n : Int} (h : number key = .ok (.int n, [])) :
    toString n = String.ofList key := by
  obtain ⟨negative, body, draft, hkey, hwhole, hvalue⟩ := number_eq_int h
  obtain ⟨hint, hpositive, rfl⟩ := value?_eq_int hvalue
  have hdigits := toDigits_whole hwhole hint
  rw [Int.toString_eq_repr, Int.repr_eq_if]
  cases negative with
  | false =>
    have hkey : key = body := hkey
    simp [hkey, hdigits, Nat.repr_eq_ofList_toDigits]
  | true =>
    have hkey : key = '-' :: body := hkey
    have hneg : ¬(0 ≤ -(draft.significand : Int)) := by
      have := hpositive rfl
      omega
    have htext : "-" ++ String.ofList body = String.ofList ('-' :: body) := by
      rw [String.ofList_cons]
      rfl
    simp only [if_true, hneg, if_false, Int.neg_neg, Int.toNat_natCast,
      Nat.repr_eq_ofList_toDigits, hdigits, hkey, htext]

end KeyNumber

theorem Ranged.val_of_ofInt? {w : IntWidth} {n : Int} {a : Ranged w} (h : ofInt? w n = some a) :
    a.val = n := by
  rw [ofInt?] at h
  split at h
  · obtain rfl := Option.some.inj h
    rfl
  · cases h

namespace KeyShape

theorem toString_of_decodeInt {w : IntWidth} {key : String} {n : Ranged w}
    (h : decodeInt w key = .ok n) : toString n.val = key := by
  rw [decodeInt] at h
  dsimp only at h
  split at h
  · cases h
  obtain ⟨⟨value, rest⟩, hnumber, h⟩ := bind_eq_ok_iff.mp h
  split at h
  case h_1 m hvalue =>
    obtain rfl : value = .int m := hvalue
    split at h
    case h_1 read hn =>
      split at h
      case isTrue hrest =>
        obtain rfl := Except.ok.inj h
        obtain rfl : rest = [] := List.isEmpty_iff.mp hrest
        rw [Ranged.val_of_ofInt? hn, KeyNumber.toString_of_number hnumber, String.ofList_toList]
      case isFalse => cases h
    case h_2 => cases h
  case h_2 => cases h

/-- A text that is read as a key is the text that the key is written as. -/
theorem encode_of_decode (k : KeyShape) {text : String} {key : k.Value}
    (h : k.decode text = .ok key) : k.encode key = .ok text := by
  cases k with
  | text =>
    obtain rfl := Except.ok.inj h
    rfl
  | int w => exact congrArg Except.ok (toString_of_decodeInt h)
  | pair => cases h

end KeyShape

end FilterGateway
