import ChatRelay.Proofs.RoundTrip.Json

/-! JSON numbers by their parts.  A numeral is a whole number, a fraction and an exponent, with or without a
minus sign in front.  The scanner reads it in phases.  Each phase has its language, which is what may follow
it until the number is complete: `language_cons_iff` takes one character off a language, and
`language_iff_run?` takes them all.  So the phases accept the numerals and nothing else:
`isNumber_iff_isNumeral`. -/

namespace ChatRelay.Json

/-! ### Numerals -/

def AllDigits (cs : List Char) : Prop := ∀ c ∈ cs, c.isDigit

def IsDigits (cs : List Char) : Prop := cs ≠ [] ∧ AllDigits cs

/-- Zero, or digits of which the first is no zero. -/
def IsWhole (cs : List Char) : Prop := cs = ['0'] ∨ IsDigits cs ∧ cs.head? ≠ some '0'

/-- Nothing, or a point with digits after it. -/
def IsFraction (cs : List Char) : Prop := cs = [] ∨ ∃ ds, IsDigits ds ∧ cs = '.' :: ds

/-- The power of an exponent: digits, with or without a sign in front. -/
def IsPower (cs : List Char) : Prop :=
  IsDigits cs ∨ ∃ sign ds, (sign = '+' ∨ sign = '-') ∧ IsDigits ds ∧ cs = sign :: ds

/-- Nothing, or a mark with a power after it. -/
def IsExponent (cs : List Char) : Prop :=
  cs = [] ∨ ∃ mark power, (mark = 'e' ∨ mark = 'E') ∧ IsPower power ∧ cs = mark :: power

def IsUnsigned (cs : List Char) : Prop :=
  ∃ whole fraction exponent, IsWhole whole ∧ IsFraction fraction ∧ IsExponent exponent ∧
    cs = whole ++ (fraction ++ exponent)

/-- A number as JSON spells it. -/
def IsNumeral (literal : List Char) : Prop :=
  IsUnsigned literal ∨ ∃ cs, IsUnsigned cs ∧ literal = '-' :: cs

theorem allDigits_cons {c : Char} {cs : List Char} :
    AllDigits (c :: cs) ↔ c.isDigit ∧ AllDigits cs := List.forall_mem_cons

theorem isDigits_cons {c : Char} {cs : List Char} :
    IsDigits (c :: cs) ↔ c.isDigit ∧ AllDigits cs := by
  rw [IsDigits, allDigits_cons]
  exact and_iff_right (List.cons_ne_nil c cs)

theorem isExponent_cons {c : Char} {cs : List Char} :
    IsExponent (c :: cs) ↔ (c = 'e' ∨ c = 'E') ∧ IsPower cs := by
  constructor
  · rintro (h | ⟨mark, power, hMark, hPower, h⟩)
    · simp at h
    · obtain ⟨rfl, rfl⟩ := List.cons.inj h
      exact ⟨hMark, hPower⟩
  · rintro ⟨hMark, hPower⟩
    exact .inr ⟨c, cs, hMark, hPower, rfl⟩

/-! ### What may follow a phase -/

namespace NumberPhase

/-- Digits, and then an exponent. -/
def Fractional (cs : List Char) : Prop :=
  ∃ ds exponent, AllDigits ds ∧ IsExponent exponent ∧ cs = ds ++ exponent

/-- A fraction and an exponent, each if it is there. -/
def Trailing (cs : List Char) : Prop :=
  ∃ fraction exponent, IsFraction fraction ∧ IsExponent exponent ∧ cs = fraction ++ exponent

/-- What may follow a phase until the number is complete. -/
def Language : NumberPhase → List Char → Prop
  | sign, cs => IsUnsigned cs
  | zero, cs => Trailing cs
  | whole, cs => ∃ ds rest, AllDigits ds ∧ Trailing rest ∧ cs = ds ++ rest
  | point, cs => ∃ d rest, d.isDigit ∧ Fractional rest ∧ cs = d :: rest
  | fraction, cs => Fractional cs
  | mark, cs => IsPower cs
  | markSign, cs => IsDigits cs
  | exponent, cs => AllDigits cs

theorem fractional_cons {c : Char} {cs : List Char} :
    Fractional (c :: cs) ↔ c.isDigit ∧ Fractional cs ∨ IsExponent (c :: cs) := by
  constructor
  · rintro ⟨ds, exponent, hDigits, hExponent, h⟩
    cases ds with
    | nil =>
      rw [List.nil_append] at h
      exact .inr (h ▸ hExponent)
    | cons d ds =>
      obtain ⟨rfl, rfl⟩ := List.cons.inj h
      obtain ⟨hDigit, hDigits⟩ := allDigits_cons.1 hDigits
      exact .inl ⟨hDigit, ds, exponent, hDigits, hExponent, rfl⟩
  · rintro (⟨hDigit, ds, exponent, hDigits, hExponent, rfl⟩ | hExponent)
    · exact ⟨c :: ds, exponent, allDigits_cons.2 ⟨hDigit, hDigits⟩, hExponent, rfl⟩
    · exact ⟨[], c :: cs, by simp [AllDigits], hExponent, rfl⟩

theorem trailing_cons {c : Char} {cs : List Char} :
    Trailing (c :: cs) ↔ c = '.' ∧ point.Language cs ∨ IsExponent (c :: cs) := by
  constructor
  · rintro ⟨fraction, exponent, rfl | ⟨ds, hDigits, rfl⟩, hExponent, h⟩
    · rw [List.nil_append] at h
      exact .inr (h ▸ hExponent)
    · obtain ⟨rfl, rfl⟩ := List.cons.inj h
      obtain ⟨hSome, hDigits⟩ := hDigits
      obtain ⟨d, ds, rfl⟩ := List.exists_cons_of_ne_nil hSome
      obtain ⟨hDigit, hDigits⟩ := allDigits_cons.1 hDigits
      exact .inl ⟨rfl, d, ds ++ exponent, hDigit, ⟨ds, exponent, hDigits, hExponent, rfl⟩, rfl⟩
  · rintro (⟨rfl, d, rest, hDigit, ⟨ds, exponent, hDigits, hExponent, rfl⟩, rfl⟩ | hExponent)
    · exact ⟨'.' :: d :: ds, exponent, .inr ⟨d :: ds, isDigits_cons.2 ⟨hDigit, hDigits⟩, rfl⟩,
        hExponent, rfl⟩
    · exact ⟨[], c :: cs, .inl rfl, hExponent, rfl⟩

theorem whole_language_cons {c : Char} {cs : List Char} :
    whole.Language (c :: cs) ↔ c.isDigit ∧ whole.Language cs ∨ Trailing (c :: cs) := by
  constructor
  · rintro ⟨ds, rest, hDigits, hRest, h⟩
    cases ds with
    | nil =>
      rw [List.nil_append] at h
      exact .inr (h ▸ hRest)
    | cons d ds =>
      obtain ⟨rfl, rfl⟩ := List.cons.inj h
      obtain ⟨hDigit, hDigits⟩ := allDigits_cons.1 hDigits
      exact .inl ⟨hDigit, ds, rest, hDigits, hRest, rfl⟩
  · rintro (⟨hDigit, ds, rest, hDigits, hRest, rfl⟩ | hRest)
    · exact ⟨c :: ds, rest, allDigits_cons.2 ⟨hDigit, hDigits⟩, hRest, rfl⟩
    · exact ⟨[], c :: cs, by simp [AllDigits], hRest, rfl⟩

theorem isUnsigned_cons {c : Char} {cs : List Char} :
    IsUnsigned (c :: cs) ↔
      c = '0' ∧ Trailing cs ∨ c ≠ '0' ∧ c.isDigit ∧ whole.Language cs := by
  constructor
  · rintro ⟨_, fraction, exponent, rfl | ⟨hDigits, hHead⟩, hFraction, hExponent, h⟩
    · obtain ⟨rfl, rfl⟩ := List.cons.inj h
      exact .inl ⟨rfl, fraction, exponent, hFraction, hExponent, rfl⟩
    · obtain ⟨hSome, hDigits⟩ := hDigits
      obtain ⟨d, ds, rfl⟩ := List.exists_cons_of_ne_nil hSome
      obtain ⟨rfl, rfl⟩ := List.cons.inj h
      obtain ⟨hDigit, hDigits⟩ := allDigits_cons.1 hDigits
      exact .inr ⟨by simpa using hHead, hDigit, ds, fraction ++ exponent, hDigits,
        ⟨fraction, exponent, hFraction, hExponent, rfl⟩, rfl⟩
  · rintro (⟨rfl, fraction, exponent, hFraction, hExponent, rfl⟩ |
      ⟨hZero, hDigit, ds, _, hDigits, ⟨fraction, exponent, hFraction, hExponent, rfl⟩, rfl⟩)
    · exact ⟨['0'], fraction, exponent, .inl rfl, hFraction, hExponent, rfl⟩
    · exact ⟨c :: ds, fraction, exponent,
        .inr ⟨isDigits_cons.2 ⟨hDigit, hDigits⟩, by simpa using hZero⟩, hFraction, hExponent, rfl⟩

theorem isPower_cons {c : Char} {cs : List Char} :
    IsPower (c :: cs) ↔ c.isDigit ∧ AllDigits cs ∨ (c = '+' ∨ c = '-') ∧ IsDigits cs := by
  rw [IsPower, isDigits_cons]
  refine or_congr_right ⟨?_, fun ⟨hSign, hDigits⟩ => ⟨c, cs, hSign, hDigits, rfl⟩⟩
  rintro ⟨sign, ds, hSign, hDigits, h⟩
  obtain ⟨rfl, rfl⟩ := List.cons.inj h
  exact ⟨hSign, hDigits⟩

theorem language_nil (p : NumberPhase) : p.Language [] ↔ p.complete := by
  have hFractional : Fractional [] := ⟨[], [], by simp [AllDigits], .inl rfl, rfl⟩
  have hTrailing : Trailing [] := ⟨[], [], .inl rfl, .inl rfl, rfl⟩
  have hUnsigned : ¬ IsUnsigned [] := by
    rintro ⟨_, _, _, rfl | ⟨⟨hSome, -⟩, -⟩, -, -, h⟩
    · simp at h
    · exact hSome (List.append_eq_nil_iff.1 h.symm).1
  cases p with
  | whole => simpa [Language, complete] using ⟨by simp [AllDigits], hTrailing⟩
  | _ => simp [Language, complete, hFractional, hTrailing, hUnsigned, IsPower, IsDigits, AllDigits]

/-- A choice made for a character, by cases. -/
theorem exists_ite_iff {α : Type} {P : Prop} [Decidable P] {a : α} {o : Option α} {L : α → Prop} :
    (∃ q, (if P then some a else o) = some q ∧ L q) ↔ P ∧ L a ∨ ¬ P ∧ ∃ q, o = some q ∧ L q := by
  by_cases h : P <;> simp [h]

/-- One character of a language takes its phase to the next one. -/
theorem language_cons_iff (p : NumberPhase) (c : Char) (cs : List Char) :
    p.Language (c :: cs) ↔ ∃ q, p.next? c = some q ∧ q.Language cs := by
  -- no mark and no sign is a digit, so that at most one choice is open
  have hPoint : c = '.' → ¬ c.isDigit := by rintro rfl; decide
  have hMark : c = 'e' ∨ c = 'E' → ¬ c.isDigit ∧ c ≠ '.' := by rintro (rfl | rfl) <;> decide
  have hSign : c = '+' ∨ c = '-' → ¬ c.isDigit := by rintro (rfl | rfl) <;> decide
  have hZero : c = '0' → c.isDigit := by rintro rfl; decide
  cases p with
  | sign =>
    rw [Language, isUnsigned_cons]
    simp only [next?, exists_ite_iff, Language]
    grind
  | zero =>
    rw [Language, trailing_cons, isExponent_cons]
    simp only [next?, exists_ite_iff, Language]
    grind
  | whole =>
    rw [whole_language_cons, trailing_cons, isExponent_cons]
    simp only [next?, exists_ite_iff, Language]
    grind
  | point =>
    have hCons : point.Language (c :: cs) ↔ c.isDigit ∧ Fractional cs := by
      simp [Language]
    rw [hCons]
    simp only [next?, exists_ite_iff, Language]
    grind
  | fraction =>
    rw [Language, fractional_cons, isExponent_cons]
    simp only [next?, exists_ite_iff, Language]
    grind
  | mark =>
    rw [Language, isPower_cons]
    simp only [next?, exists_ite_iff, Language]
    grind
  | markSign =>
    rw [Language, isDigits_cons]
    simp only [next?, exists_ite_iff, Language]
    grind
  | exponent =>
    rw [Language, allDigits_cons]
    simp only [next?, exists_ite_iff, Language]
    grind

theorem language_iff_run? (p : NumberPhase) (cs : List Char) :
    p.Language cs ↔ ∃ q, p.run? cs = some q ∧ q.complete := by
  induction cs generalizing p with
  | nil => simp [language_nil, run?]
  | cons c cs ih =>
    rw [language_cons_iff, run?]
    cases p.next? c with
    | none => simp
    | some q => simpa using ih q

end NumberPhase

/-- The scanner's numbers are the numerals. -/
theorem isNumber_iff_isNumeral (literal : List Char) : IsNumber literal ↔ IsNumeral literal := by
  have hRun : ∀ cs, (∃ p : NumberPhase, p.complete ∧ NumberPhase.sign.run? cs = some p) ↔
      IsUnsigned cs := by
    intro cs
    rw [show IsUnsigned cs ↔ _ from NumberPhase.language_iff_run? .sign cs]
    simp only [and_comm]
  rw [IsNumber, hRun]
  by_cases hSign : literal.head? = some '-'
  · obtain ⟨cs, rfl⟩ := List.head?_eq_some_iff.1 hSign
    have hNone : ¬ IsUnsigned ('-' :: cs) := by
      rw [NumberPhase.isUnsigned_cons]
      simp
    simp [IsNumeral, hNone]
  · have hNone : ¬ ∃ cs, IsUnsigned cs ∧ literal = '-' :: cs := by
      rintro ⟨cs, -, rfl⟩
      exact hSign rfl
    simp [IsNumeral, hSign, hNone]

end ChatRelay.Json
