import ChatRelay.Proofs.Grammar.Number
import ChatRelay.Proofs.RoundTrip.Text

/-! The grammar of unsigned numerals.  `IsUnsignedNumeral` says which texts denote which number: decimal
digits, with or without a plus sign in front.  A numeral is read as the number that it denotes if this is
in range, and nothing else is read: `natural_eq_ok`. -/

namespace ChatRelay.Text.Numeral

open Json (IsDigits)

theorem isDigit_of_digit? {c : Char} {d : Nat} (h : digit? c = some d) : c.isDigit := by
  rw [Char.isDigit_iff_toNat]
  unfold digit? at h
  split at h
  · assumption
  · simp at h

theorem of_digits_eq_ok {bound n m : Nat} {excess : NumeralError} {cs : List Char}
    (h : digits bound excess n cs = .ok m) (hBound : n ≤ bound) :
    (∀ c ∈ cs, c.isDigit) ∧ Nat.ofDigitChars 10 cs n = m ∧ m ≤ bound := by
  induction cs generalizing n with
  | nil =>
    obtain rfl : n = m := Except.ok.inj h
    simpa using hBound
  | cons c cs ih =>
    rw [digits] at h
    split at h
    · simp at h
    · rename_i d hd
      have hDigit := isDigit_of_digit? hd
      have hValue : d = c.toNat - 48 := Option.some.inj (hd.symm.trans (digit?_of_isDigit hDigit))
      split at h
      · simp at h
      · rename_i hFits
        obtain ⟨hDigits, rfl, hMost⟩ := ih h (Nat.not_lt.1 hFits)
        refine ⟨List.forall_mem_cons.2 ⟨hDigit, hDigits⟩, ?_, hMost⟩
        rw [Nat.ofDigitChars_cons, hValue, Nat.mul_comm]
        rfl

theorem magnitude_eq_ok {bound n : Nat} {excess : NumeralError} {cs : List Char} :
    magnitude bound excess cs = .ok n ↔ IsDigits cs ∧ Nat.ofDigitChars 10 cs 0 = n ∧ n ≤ bound := by
  cases cs with
  | nil => simp [magnitude, IsDigits]
  | cons c cs =>
    rw [magnitude.eq_2 _ _ _ (by simp)]
    constructor
    · intro h
      obtain ⟨hDigits, hValue⟩ := of_digits_eq_ok h (Nat.zero_le bound)
      exact ⟨⟨by simp, hDigits⟩, hValue⟩
    · rintro ⟨⟨-, hDigits⟩, rfl, hBound⟩
      exact digits_eq_ok bound excess hDigits hBound

/-- Decimal digits that denote `n`, with or without a plus sign in front. -/
def IsUnsignedNumeral (cs : List Char) (n : Nat) : Prop :=
  ∃ ds, (cs = ds ∨ cs = '+' :: ds) ∧ IsDigits ds ∧ Nat.ofDigitChars 10 ds 0 = n

/-- Behind a plus sign, or where there is none, an unsigned numeral is digits. -/
theorem natural_eq_ok {bound n : Nat} {cs : List Char} :
    natural bound cs = .ok n ↔ IsUnsignedNumeral cs n ∧ n ≤ bound := by
  unfold natural
  split
  · simp [IsUnsignedNumeral, IsDigits]
  · rename_i ds
    rw [magnitude_eq_ok, ← and_assoc]
    refine and_congr_left fun _ => ⟨fun h => ⟨ds, .inr rfl, h⟩, ?_⟩
    rintro ⟨es, rfl | h, hDigits⟩
    · exact absurd (hDigits.1.2 '+' List.mem_cons_self) (by decide)
    · obtain ⟨-, rfl⟩ := List.cons.inj h
      exact hDigits
  · rename_i hSign
    rw [magnitude_eq_ok, ← and_assoc]
    refine and_congr_left fun _ => ⟨fun h => ⟨cs, .inl rfl, h⟩, ?_⟩
    rintro ⟨ds, rfl | rfl, hDigits⟩
    · exact hDigits
    · exact absurd rfl (hSign ds)

/-- An unsigned numeral without a sign is digits that denote its value. -/
theorem natural_eq_ok_iff {bound n : Nat} {cs : List Char} (hSign : cs.head? ≠ some '+')
    (hBound : n ≤ bound) : natural bound cs = .ok n ↔ IsDigits cs ∧ Nat.ofDigitChars 10 cs 0 = n := by
  rw [natural_eq_ok, and_iff_left hBound]
  constructor
  · rintro ⟨ds, rfl | rfl, hDigits⟩
    · exact hDigits
    · simp at hSign
  · exact fun h => ⟨cs, .inl rfl, h⟩

end ChatRelay.Text.Numeral
