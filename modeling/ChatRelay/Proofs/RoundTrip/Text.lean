import ChatRelay.Text.Base64
import ChatRelay.Text.Numeral
import ChatRelay.Text.Utf8
import ChatRelay.Uuid
import Mathlib.Data.Nat.Init

/-! Texts that read back as what was written: the bytes of a text, base64, numerals and identifiers. -/

/-! ### Bytes of a text -/

namespace ChatRelay.Text.Utf8

theorem bytes_ofList (cs : List Char) :
    bytes (String.ofList cs) = cs.flatMap String.utf8EncodeChar := by
  rw [bytes, String.toByteArray_ofList, List.utf8Encode]
  simp

theorem toByteArray_bytes (s : String) : (bytes s).toByteArray = s.toByteArray := by
  apply ByteArray.ext
  apply Array.toList_inj.1
  simp [bytes]

theorem string?_bytes (s : String) : string? (bytes s) = some s := by
  rw [string?, toByteArray_bytes]
  unfold String.fromUTF8?
  rw [dif_pos s.isValidUTF8]
  rfl

theorem bytes_eq_flatMap (s : String) : bytes s = s.toList.flatMap String.utf8EncodeChar := by
  rw [← bytes_ofList, String.ofList_toList]

theorem utf8EncodeChar_of_lt {c : Char} (h : c.toNat < 128) :
    String.utf8EncodeChar c = [UInt8.ofNat c.toNat] := by
  unfold String.utf8EncodeChar
  exact if_pos (Nat.le_of_lt_succ h)

theorem le_of_mem_utf8EncodeChar {c : Char} (h : 128 ≤ c.toNat) {b : UInt8}
    (hb : b ∈ String.utf8EncodeChar c) : 128 ≤ b.toNat := by
  have hLow : ¬ c.val.toNat ≤ 127 := by
    have : c.val.toNat = c.toNat := rfl
    omega
  unfold String.utf8EncodeChar at hb
  simp only [hLow, if_false] at hb
  split at hb
  · simp only [List.mem_cons, List.not_mem_nil, or_false] at hb
    rcases hb with rfl | rfl <;> simp <;> omega
  · split at hb
    · simp only [List.mem_cons, List.not_mem_nil, or_false] at hb
      rcases hb with rfl | rfl | rfl <;> simp <;> omega
    · simp only [List.mem_cons, List.not_mem_nil, or_false] at hb
      rcases hb with rfl | rfl | rfl | rfl <;> simp <;> omega

end ChatRelay.Text.Utf8

/-! ### Base64 -/

namespace ChatRelay.Text.Base64

theorem Alphabet.value?_digit (a : Alphabet) {n : Nat} (h : n < 64) : a.value? (a.digit n) = some n := by
  have hAll : ∀ a ∈ [standard, urlSafe], ∀ n : Fin 64, a.value? (a.digit n) = some n.val := by decide
  exact hAll a (by cases a <;> simp) ⟨n, h⟩

theorem Alphabet.value?_padding (a : Alphabet) : a.value? '=' = none := by
  cases a <;> decide

theorem Alphabet.digit_ne_padding (a : Alphabet) {n : Nat} (h : n < 64) : a.digit n ≠ '=' := by
  intro hEq
  have hValue := a.value?_digit h
  rw [hEq, a.value?_padding] at hValue
  simp at hValue

theorem ofNat_eq {n : Nat} {b : UInt8} (h : n = b.toNat) : UInt8.ofNat n = b := by
  rw [h, UInt8.ofNat_toNat]

/-- Four digits read back as the three bytes that they were written for. -/
theorem Alphabet.group?_group (a : Alphabet) (x y z : UInt8) :
    a.group? (a.group x y z).1 (a.group x y z).2.1 (a.group x y z).2.2.1 (a.group x y z).2.2.2 =
      some (x, y, z) := by
  have hx := x.toNat_lt
  have hy := y.toNat_lt
  have hz := z.toNat_lt
  simp only [group, group?, a.value?_digit (show x.toNat / 4 < 64 by omega),
    a.value?_digit (show x.toNat % 4 * 16 + y.toNat / 16 < 64 by omega),
    a.value?_digit (show y.toNat % 16 * 4 + z.toNat / 64 < 64 by omega),
    a.value?_digit (show z.toNat % 64 < 64 by omega)]
  rw [ofNat_eq (b := x) (by omega), ofNat_eq (b := y) (by omega), ofNat_eq (b := z) (by omega)]

theorem Alphabet.group?_padding (a : Alphabet) (c d e : Char) : a.group? c d e '=' = none := by
  unfold group?
  rw [a.value?_padding]
  split
  · simp_all
  · rfl

theorem Alphabet.single?_tail (a : Alphabet) (x : UInt8) :
    a.single? (a.digit (x.toNat / 4)) (a.digit (x.toNat % 4 * 16)) = some [x] := by
  have hx := x.toNat_lt
  simp only [single?, a.value?_digit (show x.toNat / 4 < 64 by omega),
    a.value?_digit (show x.toNat % 4 * 16 < 64 by omega)]
  rw [if_pos (by omega), ofNat_eq (b := x) (by omega)]

theorem Alphabet.double?_tail (a : Alphabet) (x y : UInt8) :
    a.double? (a.digit (x.toNat / 4)) (a.digit (x.toNat % 4 * 16 + y.toNat / 16))
      (a.digit (y.toNat % 16 * 4)) = some [x, y] := by
  have hx := x.toNat_lt
  have hy := y.toNat_lt
  simp only [double?, a.value?_digit (show x.toNat / 4 < 64 by omega),
    a.value?_digit (show x.toNat % 4 * 16 + y.toNat / 16 < 64 by omega),
    a.value?_digit (show y.toNat % 16 * 4 < 64 by omega)]
  rw [if_pos (by omega), ofNat_eq (b := x) (by omega), ofNat_eq (b := y) (by omega)]

/-- A last group reads back, after the bytes before it. -/
theorem decodeOnto_tail (a : Alphabet) (out bytes : List UInt8) (h : bytes.length < 3) :
    decodeOnto a out (a.tail bytes) = some (out.reverse ++ bytes) := by
  match bytes, h with
  | [], _ => rfl
  | [x], _ =>
    have hLast := a.single?_tail x
    cases a with
    | standard =>
      simp [Alphabet.tail, Alphabet.padding, decodeOnto, Alphabet.group?_padding, Alphabet.tail?, hLast]
    | urlSafe =>
      simp [Alphabet.tail, Alphabet.padding, decodeOnto, Alphabet.tail?, hLast]
  | [x, y], _ =>
    have hLast := a.double?_tail x y
    have hDigit := a.digit_ne_padding (n := y.toNat % 16 * 4) (by omega)
    cases a with
    | standard =>
      simp [Alphabet.tail, Alphabet.padding, List.replicate, decodeOnto, Alphabet.group?_padding,
        Alphabet.tail?, hDigit, hLast]
    | urlSafe =>
      simp [Alphabet.tail, Alphabet.padding, decodeOnto, Alphabet.tail?, hLast]

theorem decodeOnto_encodeOnto (a : Alphabet) (chars : List Char) (bytes : List UInt8) :
    ∃ more, encodeOnto a chars bytes = chars.reverse ++ more ∧
      ∀ out, decodeOnto a out more = some (out.reverse ++ bytes) := by
  fun_induction encodeOnto a chars bytes with
  | case1 chars x y z rest c d e f hGroup ih =>
    obtain ⟨more, hMore, hRead⟩ := ih
    refine ⟨c :: d :: e :: f :: more, by rw [hMore]; simp, fun out => ?_⟩
    have hBack := a.group?_group x y z
    rw [hGroup] at hBack
    simp only [decodeOnto, hBack]
    rw [hRead]
    simp
  | case2 chars rest hShort =>
    refine ⟨a.tail rest, rfl, fun out => decodeOnto_tail a out rest ?_⟩
    match rest, hShort with
    | [], _ | [_], _ | [_, _], _ => simp
    | x :: y :: z :: rest, hShort => exact absurd rfl (hShort x y z rest)

theorem decode?_encode (a : Alphabet) (bytes : List UInt8) :
    decode? a (encode a bytes) = some bytes := by
  obtain ⟨more, hMore, hRead⟩ := decodeOnto_encodeOnto a [] bytes
  rw [decode?, encode, String.toList_ofList, hMore]
  exact hRead []

end ChatRelay.Text.Base64

/-! ### Numerals -/

namespace ChatRelay.Text.Numeral

theorem digit?_of_isDigit {c : Char} (h : c.isDigit) : digit? c = some (c.toNat - 48) := by
  rw [Char.isDigit_iff_toNat] at h
  exact if_pos h

theorem le_ofDigitChars (cs : List Char) (n : Nat) : n ≤ Nat.ofDigitChars 10 cs n := by
  induction cs generalizing n with
  | nil => simp
  | cons c cs ih =>
    rw [Nat.ofDigitChars_cons]
    exact Nat.le_trans (by omega) (ih _)

/-- Digits are read as the number that they denote, if it is in range. -/
theorem digits_eq_ok (bound : Nat) (excess : NumeralError) {cs : List Char} {n : Nat}
    (hDigits : ∀ c ∈ cs, c.isDigit) (hBound : Nat.ofDigitChars 10 cs n ≤ bound) :
    digits bound excess n cs = .ok (Nat.ofDigitChars 10 cs n) := by
  induction cs generalizing n with
  | nil => simp [digits]
  | cons c cs ih =>
    have hValue : n * 10 + (c.toNat - 48) = 10 * n + (c.toNat - '0'.toNat) := by
      rw [Nat.mul_comm]
      rfl
    rw [Nat.ofDigitChars_cons] at hBound ⊢
    have hStep := Nat.le_trans (le_ofDigitChars cs _) hBound
    rw [digits, digit?_of_isDigit (hDigits c List.mem_cons_self)]
    simp only
    rw [hValue, if_neg (Nat.not_lt.2 hStep)]
    exact ih (fun d hd => hDigits d (List.mem_cons_of_mem c hd)) hBound

theorem magnitude_toDigits (bound : Nat) {n : Nat} (excess : NumeralError) (h : n ≤ bound) :
    magnitude bound excess (Nat.toDigits 10 n) = .ok n := by
  have hDigits : ∀ c ∈ Nat.toDigits 10 n, c.isDigit := fun c hc =>
    Nat.isDigit_of_mem_toDigits (by decide) (by decide) hc
  have hRead := digits_eq_ok bound excess hDigits (n := 0) (by simpa using h)
  rw [Nat.ofDigitChars_ten_toDigits] at hRead
  rw [magnitude.eq_def]
  split
  · rename_i hNil
    exact absurd hNil Nat.toDigits_ne_nil
  · exact hRead

theorem toDigits_eq_cons (n : Nat) : ∃ c cs, Nat.toDigits 10 n = c :: cs ∧ c.isDigit := by
  obtain ⟨c, cs, hCons⟩ := List.exists_cons_of_ne_nil (Nat.toDigits_ne_nil (b := 10) (n := n))
  refine ⟨c, cs, hCons, Nat.isDigit_of_mem_toDigits (b := 10) (n := n) (by decide) (by decide) ?_⟩
  rw [hCons]
  exact List.mem_cons_self

theorem head?_toDigits_ne {n : Nat} (h : 0 < n) : (Nat.toDigits 10 n).head? ≠ some '0' := by
  induction n using Nat.strong_induction_on with
  | _ n ih =>
    rw [Nat.toDigits_eq_if (by decide)]
    split
    · rename_i hSmall
      have hAll : ∀ k : Fin 10, 0 < k.val → k.val.digitChar ≠ '0' := by decide
      simpa using hAll ⟨n, hSmall⟩ h
    · have hHead := ih (n / 10) (by omega) (by omega)
      obtain ⟨c, cs, hCons, -⟩ := toDigits_eq_cons (n / 10)
      rw [hCons] at hHead ⊢
      exact hHead

theorem natural_toDigits {bound n : Nat} (h : n ≤ bound) :
    natural bound (Nat.toDigits 10 n) = .ok n := by
  obtain ⟨c, cs, hCons, hDigit⟩ := toDigits_eq_cons n
  have hRead := magnitude_toDigits bound .tooLarge h
  rw [hCons] at hRead ⊢
  unfold natural
  split
  · simp_all
  · simp_all
  · exact hRead

theorem toList_toString_of_nonneg {n : Int} (h : 0 ≤ n) :
    (toString n).toList = Nat.toDigits 10 n.toNat := by
  rw [Int.toString_eq_repr, Int.repr_eq_if, if_pos h, Nat.toList_repr]

theorem toList_toString_of_neg {n : Int} (h : n < 0) :
    (toString n).toList = '-' :: Nat.toDigits 10 (-n).toNat := by
  rw [Int.toString_eq_repr, Int.repr_eq_if, if_neg (by omega), String.toList_append, Nat.toList_repr]
  rfl

theorem int64_toString (n : Int64) : int64 (toString n.toInt).toList = .ok n := by
  have hLow := n.le_toInt
  have hHigh := n.toInt_lt
  have hSize : Int64.size / 2 = 2 ^ 63 := rfl
  by_cases hSign : 0 ≤ n.toInt
  · obtain ⟨c, cs, hCons, hDigit⟩ := toDigits_eq_cons n.toInt.toNat
    have hRead := magnitude_toDigits (Int64.size / 2 - 1) .tooLarge (n := n.toInt.toNat) (by omega)
    rw [toList_toString_of_nonneg hSign]
    rw [hCons] at hRead ⊢
    have hBack : Int64.ofNat n.toInt.toNat = n := by
      rw [← Int64.ofInt_eq_ofNat, Int.toNat_of_nonneg hSign, Int64.ofInt_toInt]
    unfold int64
    split
    · simp_all
    · simp_all
    · simp_all
    · rw [hRead]
      exact congrArg Except.ok hBack
  · have hRead := magnitude_toDigits (Int64.size / 2) .tooSmall (n := (-n.toInt).toNat) (by omega)
    have hBack : Int64.ofInt (-((-n.toInt).toNat : Int)) = n := by
      rw [Int.toNat_of_nonneg (by omega), Int.neg_neg, Int64.ofInt_toInt]
    rw [toList_toString_of_neg (by omega)]
    simp only [int64]
    rw [hRead]
    exact congrArg Except.ok hBack

end ChatRelay.Text.Numeral

/-! ### Identifiers -/

namespace ChatRelay.Uuid

theorem length_slice (u : Uuid) (first count : Nat) (h : first + count ≤ 32) :
    (u.slice first count).length = count := by
  rw [slice, List.length_map, List.length_take, List.length_drop, u.length_digits]
  omega

theorem mapM_value?_digit (ds : List (Fin 16)) :
    (ds.map Text.Hex.digit).mapM Text.Hex.value? = some ds := by
  induction ds with
  | nil => rfl
  | cons d ds ih =>
    rw [List.map_cons, List.mapM_cons, Text.Hex.value?_digit, ih]
    rfl

theorem slices_append (u : Uuid) :
    u.slice 0 8 ++ u.slice 8 4 ++ u.slice 12 4 ++ u.slice 16 4 ++ u.slice 20 12 =
      u.digits.map Text.Hex.digit := by
  have hJoin : ∀ first count more, u.slice first count ++ u.slice (first + count) more =
      u.slice first (count + more) := by
    intro first count more
    rw [slice, slice, slice, ← List.map_append, ← List.drop_drop, ← List.take_add]
  rw [hJoin 0 8 4, hJoin 0 12 4, hJoin 0 16 4, hJoin 0 20 12, slice, List.drop_zero,
    List.take_of_length_le (by simp [u.length_digits])]

/-- Five groups of the right lengths, joined by hyphens, are read without the hyphens. -/
theorem ofHyphened?_groups {a b c d e : List Char} (ha : a.length = 8) (hb : b.length = 4)
    (hc : c.length = 4) (hd : d.length = 4) (he : e.length = 12) :
    ofHyphened? (a ++ '-' :: b ++ '-' :: c ++ '-' :: d ++ '-' :: e) =
      ofPlain? (a ++ b ++ c ++ d ++ e) := by
  simp (disch := omega) [ofHyphened?, ha, hb, hc, hd, he, List.drop_append,
    List.drop_eq_nil_of_le, List.getElem?_append, List.getElem?_cons]

theorem ofString?_toString (u : Uuid) : ofString? u.toString = some u := by
  have h1 := u.length_slice 0 8 (by decide)
  have h2 := u.length_slice 8 4 (by decide)
  have h3 := u.length_slice 12 4 (by decide)
  have h4 := u.length_slice 16 4 (by decide)
  have h5 := u.length_slice 20 12 (by decide)
  have hLength : u.chars.length = 36 := by
    simp [chars, h1, h2, h3, h4, h5]
  rw [ofString?, toString, String.toList_ofList, ofChars?, if_neg (by omega), if_pos hLength, chars,
    ofHyphened?_groups h1 h2 h3 h4 h5, slices_append, ofPlain?, mapM_value?_digit]
  exact dif_pos u.length_digits

theorem toString_injective : Function.Injective toString := by
  intro u v h
  have hRead := ofString?_toString u
  rw [h, ofString?_toString] at hRead
  exact (Option.some.inj hRead).symm

end ChatRelay.Uuid
