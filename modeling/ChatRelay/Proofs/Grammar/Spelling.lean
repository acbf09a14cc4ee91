import ChatRelay.Proofs.Grammar.Base64
import Mathlib.Data.Nat.Digits.Lemmas

/-! What base64 texts in the standard alphabet mean, said without reading or writing one.  The digits of a
text and the bytes that it spells are one number in base 64 and in base 256, but for two zero bits behind it
for each `=`: `IsSpelling`.  The number and the count of the bytes leave one text for them, so a text is
decoded just to the bytes that it spells: `decode?_eq_some_iff_spells`.  A text that spells nothing has a
`Fault`, and no other has one: `decode?_eq_none_iff`. -/

namespace ChatRelay.Text.Base64

/-! ### Letters and numbers -/

/-- The digits of the standard alphabet, in the order of their values. -/
def letters : List Char :=
  "ABCDEFGHIJKLMNOPQRSTUVWXYZabcdefghijklmnopqrstuvwxyz0123456789+/".toList

theorem length_letters : letters.length = 64 := by
  decide

/-- The letter for `n`. -/
def letter (n : Fin 64) : Char := letters.get (n.cast length_letters.symm)

theorem mem_letters_iff {c : Char} : c ∈ letters ↔ ∃ n, letter n = c := by
  rw [List.mem_iff_get]
  exact ⟨fun ⟨n, h⟩ => ⟨n.cast length_letters, h⟩, fun ⟨n, h⟩ => ⟨n.cast length_letters.symm, h⟩⟩

theorem digit_eq_letter (n : Fin 64) : Alphabet.standard.digit n = letter n := by
  have hAll : ∀ n : Fin 64, Alphabet.standard.digit n = letter n := by decide +kernel
  exact hAll n

theorem letter_injective : Function.Injective letter := by
  intro m n h
  have hValue := Alphabet.standard.value?_digit m.isLt
  rw [digit_eq_letter, h, ← digit_eq_letter, Alphabet.standard.value?_digit n.isLt] at hValue
  exact Fin.ext (Option.some.inj hValue).symm

theorem letter_ne_padding (n : Fin 64) : letter n ≠ '=' := by
  rw [← digit_eq_letter]
  exact Alphabet.standard.digit_ne_padding n.isLt

/-- The number with these digits in base `b`, of which the first counts most. -/
def number (b : Nat) (ds : List Nat) : Nat := Nat.ofDigits b ds.reverse

theorem number_nil (b : Nat) : number b [] = 0 := rfl

theorem number_cons (b d : Nat) (ds : List Nat) :
    number b (d :: ds) = d * b ^ ds.length + number b ds := by
  rw [number, List.reverse_cons, Nat.ofDigits_append, Nat.ofDigits_singleton, List.length_reverse]
  rw [number, Nat.add_comm, Nat.mul_comm]

theorem val_lt_of_mem (digits : List (Fin 64)) : ∀ d ∈ (digits.map Fin.val).reverse, d < 64 := by
  intro d hd
  obtain ⟨n, -, rfl⟩ := List.mem_map.1 (List.mem_reverse.1 hd)
  exact n.isLt

theorem exists_number_eq {k m : Nat} (h : m < 256 ^ k) :
    ∃ bytes : List UInt8, bytes.length = k ∧ number 256 (bytes.map UInt8.toNat) = m := by
  let ds := Nat.digitsAppend 256 k m
  have hBack : (ds.map UInt8.ofNat).map UInt8.toNat = ds := by
    rw [List.map_map]
    refine (List.map_congr_left fun d hd => ?_).trans (List.map_id ds)
    exact UInt8.toNat_ofNat_of_lt' (Nat.lt_of_mem_digitsAppend (by decide) k d hd)
  refine ⟨(ds.map UInt8.ofNat).reverse, ?_, ?_⟩
  · rw [List.length_reverse, List.length_map]
    exact Nat.length_digitsAppend (by decide) k h
  · rw [number, List.map_reverse, List.reverse_reverse, hBack]
    exact (Nat.setInvOn_digitsAppend_ofDigits (by decide) k).2 h

/-! ### Spellings -/

/-- The digits, with `padding` marks behind them, spell the bytes.  A group of four is three bytes, where a
mark stands for a digit and for a byte that are not there.  The digits and the bytes are one number, but for two
zero bits for each mark. -/
structure IsSpelling (digits : List (Fin 64)) (padding : Nat) (bytes : List UInt8) : Prop where
  padding_lt : padding < 3
  groups : ∃ n, digits.length + padding = 4 * n ∧ bytes.length + padding = 3 * n
  number_eq : number 64 (digits.map Fin.val) = number 256 (bytes.map UInt8.toNat) * 4 ^ padding

/-- The letters of the digits, and the padding. -/
def written (digits : List (Fin 64)) (padding : Nat) : List Char :=
  digits.map letter ++ List.replicate padding '='

/-- The text spells the bytes. -/
def Spells (cs : List Char) (bytes : List UInt8) : Prop :=
  ∃ digits padding, cs = written digits padding ∧ IsSpelling digits padding bytes

/-- Whole groups have as many bits in digits as in bytes, with two more for each mark. -/
theorem pow_eq_of_groups {digits bytes padding n : Nat} (hDigits : digits + padding = 4 * n)
    (hBytes : bytes + padding = 3 * n) : 64 ^ digits = 256 ^ bytes * 4 ^ padding := by
  have hBits : 6 * digits = 8 * bytes + 2 * padding := by omega
  calc 64 ^ digits = 2 ^ (6 * digits) := by rw [pow_mul]; rfl
    _ = 2 ^ (8 * bytes) * 2 ^ (2 * padding) := by rw [hBits, pow_add]
    _ = 256 ^ bytes * 4 ^ padding := by rw [pow_mul, pow_mul]; rfl

variable {digits digits' : List (Fin 64)} {padding padding' : Nat} {bytes : List UInt8}

namespace IsSpelling

/-- Four digits and three bytes of one number may stand in front of a spelling. -/
theorem group (h : IsSpelling digits padding bytes) {i j k l : Fin 64} {x y z : UInt8}
    (hGroup : ((i.val * 64 + j.val) * 64 + k.val) * 64 + l.val =
      (x.toNat * 256 + y.toNat) * 256 + z.toNat) :
    IsSpelling (i :: j :: k :: l :: digits) padding (x :: y :: z :: bytes) where
  padding_lt := h.padding_lt
  groups := by
    obtain ⟨n, hDigits, hBytes⟩ := h.groups
    exact ⟨n + 1, by simp only [List.length_cons]; omega, by simp only [List.length_cons]; omega⟩
  number_eq := by
    have hRest := h.number_eq
    obtain ⟨n, hDigits, hBytes⟩ := h.groups
    have hPower := pow_eq_of_groups hDigits hBytes
    simp only [List.map_cons, number_cons, List.length_cons, List.length_map, pow_succ] at hRest ⊢
    calc _ = (((i.val * 64 + j.val) * 64 + k.val) * 64 + l.val) * 64 ^ digits.length +
          number 64 (digits.map Fin.val) := by ring
      _ = ((x.toNat * 256 + y.toNat) * 256 + z.toNat) * (256 ^ bytes.length * 4 ^ padding) +
          number 256 (bytes.map UInt8.toNat) * 4 ^ padding := by rw [hGroup, hPower, hRest]
      _ = _ := by ring

/-- The count of the bytes leaves one padding, and with the number one list of digits. -/
theorem unique (h : IsSpelling digits padding bytes) (h' : IsSpelling digits' padding' bytes) :
    digits = digits' ∧ padding = padding' := by
  obtain ⟨n, hDigits, hBytes⟩ := h.groups
  obtain ⟨n', hDigits', hBytes'⟩ := h'.groups
  have hLess := h.padding_lt
  have hLess' := h'.padding_lt
  -- Both fill up the same count of bytes to a multiple of three, and neither is a whole group.
  obtain rfl : padding = padding' := by omega
  refine ⟨?_, rfl⟩
  have hNumber : number 64 (digits.map Fin.val) = number 64 (digits'.map Fin.val) := by
    rw [h.number_eq, h'.number_eq]
  have hSame := Nat.ofDigits_inj_of_len_eq (by decide) (by simp; omega) (val_lt_of_mem digits)
    (val_lt_of_mem digits') hNumber
  exact List.map_injective_iff.2 Fin.val_injective (List.reverse_injective hSame)

end IsSpelling

theorem Spells.unique {cs cs' : List Char} {bytes : List UInt8} (h : Spells cs bytes)
    (h' : Spells cs' bytes) : cs = cs' := by
  obtain ⟨digits, padding, rfl, hSpelling⟩ := h
  obtain ⟨digits', padding', rfl, hSpelling'⟩ := h'
  obtain ⟨rfl, rfl⟩ := hSpelling.unique hSpelling'
  rfl

/-! ### What is written -/

theorem written_cons (n : Fin 64) (digits : List (Fin 64)) (padding : Nat) :
    written (n :: digits) padding = letter n :: written digits padding := rfl

theorem spells_tail {bytes : List UInt8} (h : bytes.length < 3) :
    Spells (Alphabet.standard.tail bytes) bytes := by
  match bytes, h with
  | [], _ => exact ⟨[], 0, rfl, by decide, ⟨0, rfl, rfl⟩, rfl⟩
  | [x], _ =>
    have hx := x.toNat_lt
    let i : Fin 64 := ⟨x.toNat / 4, by omega⟩
    let j : Fin 64 := ⟨x.toNat % 4 * 16, by omega⟩
    refine ⟨[i, j], 2, ?_, by decide, ⟨1, rfl, rfl⟩, ?_⟩
    · rw [written_cons, written_cons, ← digit_eq_letter, ← digit_eq_letter]
      rfl
    · simp only [List.map_cons, List.map_nil, number_cons, number_nil, List.length_cons,
        List.length_nil, i, j]
      omega
  | [x, y], _ =>
    have hx := x.toNat_lt
    have hy := y.toNat_lt
    let i : Fin 64 := ⟨x.toNat / 4, by omega⟩
    let j : Fin 64 := ⟨x.toNat % 4 * 16 + y.toNat / 16, by omega⟩
    let k : Fin 64 := ⟨y.toNat % 16 * 4, by omega⟩
    refine ⟨[i, j, k], 1, ?_, by decide, ⟨1, rfl, rfl⟩, ?_⟩
    · rw [written_cons, written_cons, written_cons, ← digit_eq_letter, ← digit_eq_letter,
        ← digit_eq_letter]
      rfl
    · simp only [List.map_cons, List.map_nil, number_cons, number_nil, List.length_cons,
        List.length_nil, i, j, k]
      omega

theorem exists_encodeOnto (chars : List Char) (bytes : List UInt8) :
    ∃ cs, encodeOnto .standard chars bytes = chars.reverse ++ cs ∧ Spells cs bytes := by
  fun_induction encodeOnto .standard chars bytes with
  | case1 chars x y z rest c d e f hGroup ih =>
    obtain ⟨cs, hWritten, digits, padding, rfl, hSpelling⟩ := ih
    have hx := x.toNat_lt
    have hy := y.toNat_lt
    have hz := z.toNat_lt
    let i : Fin 64 := ⟨x.toNat / 4, by omega⟩
    let j : Fin 64 := ⟨x.toNat % 4 * 16 + y.toNat / 16, by omega⟩
    let k : Fin 64 := ⟨y.toNat % 16 * 4 + z.toNat / 64, by omega⟩
    let l : Fin 64 := ⟨z.toNat % 64, by omega⟩
    have hLetters : (c, d, e, f) = (letter i, letter j, letter k, letter l) := by
      rw [← hGroup, ← digit_eq_letter, ← digit_eq_letter, ← digit_eq_letter, ← digit_eq_letter]
      rfl
    simp only [Prod.mk.injEq] at hLetters
    obtain ⟨rfl, rfl, rfl, rfl⟩ := hLetters
    refine ⟨written (i :: j :: k :: l :: digits) padding, by rw [hWritten]; simp [written_cons],
      _, _, rfl, hSpelling.group ?_⟩
    simp only [i, j, k, l]
    omega
  | case2 chars rest hShort =>
    refine ⟨Alphabet.standard.tail rest, rfl, spells_tail ?_⟩
    rcases rest with _ | ⟨x, _ | ⟨y, _ | ⟨z, rest⟩⟩⟩
    · simp
    · simp
    · simp
    · exact absurd rfl (hShort x y z rest)

theorem spells_encode (bytes : List UInt8) : Spells (encode .standard bytes).toList bytes := by
  obtain ⟨cs, hWritten, hSpells⟩ := exists_encodeOnto [] bytes
  rw [encode, String.toList_ofList, hWritten]
  exact hSpells

/-- A text is decoded just to the bytes that it spells. -/
theorem decode?_eq_some_iff_spells {s : String} {bytes : List UInt8} :
    decode? .standard s = some bytes ↔ Spells s.toList bytes := by
  rw [decode?_eq_some_iff]
  constructor
  · rintro rfl
    exact spells_encode bytes
  · exact fun h => String.toList_inj.1 (h.unique (spells_encode bytes))

/-! ### Faults -/

/-- What is wrong with a text that spells nothing. -/
inductive Fault (cs : List Char) : Prop
  /-- A character that is no letter, such as a line break. -/
  | foreign (c : Char) (hMem : c ∈ cs) (hLetter : c ∉ letters) (hPadding : c ≠ '=')
  /-- Padding before the end. -/
  | inside (before after : List Char) (c : Char) (hText : cs = before ++ '=' :: after)
      (hMem : c ∈ after) (hPadding : c ≠ '=')
  /-- Padding that does not fill up the last group: too little, or too much. -/
  | padding (digits : List (Fin 64)) (padding : Nat) (hText : cs = written digits padding)
      (hCount : ¬ (padding < 3 ∧ 4 ∣ digits.length + padding))
  /-- A bit behind the last byte that is not zero. -/
  | bits (digits : List (Fin 64)) (padding : Nat) (hText : cs = written digits padding)
      (hBits : ¬ 4 ^ padding ∣ number 64 (digits.map Fin.val))

theorem mem_written {c : Char} (h : c ∈ written digits padding) : c ∈ letters ∨ c = '=' := by
  rcases List.mem_append.1 h with h | h
  · obtain ⟨n, -, rfl⟩ := List.mem_map.1 h
    exact .inl (mem_letters_iff.2 ⟨n, rfl⟩)
  · exact .inr (List.eq_of_mem_replicate h)

theorem eq_of_mem_behind_padding {before after : List Char}
    (h : written digits padding = before ++ '=' :: after) {c : Char} (hc : c ∈ after) : c = '=' := by
  induction digits generalizing before with
  | nil =>
    have hMem : c ∈ before ++ '=' :: after := by simp [hc]
    rw [← h] at hMem
    exact List.eq_of_mem_replicate hMem
  | cons n digits ih =>
    rw [written_cons] at h
    cases before with
    | nil => exact absurd (List.cons.inj h).1 (letter_ne_padding n)
    | cons b before => exact ih (List.cons.inj h).2

theorem written_inj (h : written digits padding = written digits' padding') :
    digits = digits' ∧ padding = padding' := by
  induction digits generalizing digits' with
  | nil =>
    cases digits' with
    | nil => simpa [written] using h
    | cons n digits' =>
      have hMem : letter n ∈ written [] padding := h ▸ List.mem_cons_self
      exact absurd (List.eq_of_mem_replicate hMem) (letter_ne_padding n)
  | cons n digits ih =>
    cases digits' with
    | nil =>
      have hMem : letter n ∈ written [] padding' := h ▸ List.mem_cons_self
      exact absurd (List.eq_of_mem_replicate hMem) (letter_ne_padding n)
    | cons n' digits' =>
      obtain ⟨hHead, hTail⟩ := List.cons.inj h
      obtain ⟨rfl, rfl⟩ := ih hTail
      exact ⟨by rw [letter_injective hHead], rfl⟩

theorem Fault.not_spells {cs : List Char} (h : Fault cs) (bytes : List UInt8) : ¬ Spells cs bytes := by
  rintro ⟨digits, padding, rfl, hSpelling⟩
  cases h with
  | foreign c hMem hLetter hPadding =>
    rcases mem_written hMem with h | h
    · exact hLetter h
    · exact hPadding h
  | inside before after c hText hMem hPadding => exact hPadding (eq_of_mem_behind_padding hText hMem)
  | padding digits' padding' hText hCount =>
    obtain ⟨rfl, rfl⟩ := written_inj hText
    obtain ⟨n, hDigits, -⟩ := hSpelling.groups
    exact hCount ⟨hSpelling.padding_lt, n, hDigits⟩
  | bits digits' padding' hText hBits =>
    obtain ⟨rfl, rfl⟩ := written_inj hText
    exact hBits ⟨_, hSpelling.number_eq.trans (Nat.mul_comm _ _)⟩

/-- Letters and padding are digits with padding behind them, or some padding is not at the end. -/
theorem written_or_inside {cs : List Char} (h : ∀ c ∈ cs, c ∈ letters ∨ c = '=') :
    (∃ digits padding, cs = written digits padding) ∨
      ∃ before after c, cs = before ++ '=' :: after ∧ c ∈ after ∧ c ≠ '=' := by
  induction cs with
  | nil => exact .inl ⟨[], 0, rfl⟩
  | cons c cs ih =>
    obtain ⟨hc, hcs⟩ := List.forall_mem_cons.1 h
    rcases hc with hc | rfl
    · obtain ⟨n, rfl⟩ := mem_letters_iff.1 hc
      rcases ih hcs with ⟨digits, padding, rfl⟩ | ⟨before, after, c, rfl, hMem, hPadding⟩
      · exact .inl ⟨n :: digits, padding, rfl⟩
      · exact .inr ⟨letter n :: before, after, c, rfl, hMem, hPadding⟩
    · by_cases hEnd : ∀ c ∈ cs, c = '='
      · refine .inl ⟨[], cs.length + 1, ?_⟩
        rw [List.eq_replicate_of_mem hEnd, List.length_replicate]
        rfl
      · obtain ⟨c, hMem, hPadding⟩ : ∃ c ∈ cs, c ≠ '=' := by simpa using hEnd
        exact .inr ⟨[], cs, c, rfl, hMem, hPadding⟩

/-- Digits with the right padding and zero bits behind the last byte spell some bytes. -/
theorem exists_isSpelling (hLess : padding < 3) (hCount : 4 ∣ digits.length + padding)
    (hBits : 4 ^ padding ∣ number 64 (digits.map Fin.val)) :
    ∃ bytes, IsSpelling digits padding bytes := by
  obtain ⟨n, hDigits⟩ := hCount
  obtain ⟨m, hNumber⟩ := hBits
  have hBytes : 3 * n - padding + padding = 3 * n := by omega
  -- The digits have two bits for each mark and those of the bytes, so without the two the number fits.
  have hMost : 4 ^ padding * m < 4 ^ padding * 256 ^ (3 * n - padding) := by
    rw [← hNumber, Nat.mul_comm, ← pow_eq_of_groups hDigits hBytes]
    have hLt := Nat.ofDigits_lt_base_pow_length (b := 64) (by decide) (val_lt_of_mem digits)
    rwa [List.length_reverse, List.length_map] at hLt
  obtain ⟨bytes, hLength, rfl⟩ := exists_number_eq (Nat.lt_of_mul_lt_mul_left hMost)
  exact ⟨bytes, hLess, ⟨n, hDigits, by rw [hLength, hBytes]⟩, by rw [hNumber, Nat.mul_comm]⟩

theorem fault_of_not_spells {cs : List Char} (h : ∀ bytes, ¬ Spells cs bytes) : Fault cs := by
  by_cases hAll : ∀ c ∈ cs, c ∈ letters ∨ c = '='
  · rcases written_or_inside hAll with ⟨digits, padding, rfl⟩ | ⟨before, after, c, hText, hMem, hPadding⟩
    · by_cases hCount : padding < 3 ∧ 4 ∣ digits.length + padding
      · refine .bits digits padding rfl fun hBits => ?_
        obtain ⟨bytes, hSpelling⟩ := exists_isSpelling hCount.1 hCount.2 hBits
        exact h bytes ⟨digits, padding, rfl, hSpelling⟩
      · exact .padding digits padding rfl hCount
    · exact .inside before after c hText hMem hPadding
  · obtain ⟨c, hMem, hNot⟩ : ∃ c ∈ cs, ¬ (c ∈ letters ∨ c = '=') := by simpa using hAll
    exact .foreign c hMem (fun h => hNot (.inl h)) fun h => hNot (.inr h)

/-- A text is decoded to nothing just if it has a fault. -/
theorem decode?_eq_none_iff {s : String} : decode? .standard s = none ↔ Fault s.toList := by
  rw [Option.eq_none_iff_forall_ne_some]
  simp only [ne_eq, decode?_eq_some_iff_spells]
  exact ⟨fault_of_not_spells, Fault.not_spells⟩

end ChatRelay.Text.Base64
