import ChatRelay.Proofs.RoundTrip.Json

/-! The grammar of a JSON text between its quotes.  Bytes there stand for other bytes: a plain byte for
itself, a backslash with a letter for one character, a backslash with a code unit for one character, and
two code units that are the halves of a surrogate pair for one character together.  The scanner reads such
bytes and no others, if what they stand for is to be Unicode: `scans_iff_unescapes`. -/

namespace ChatRelay.Text.Utf8

theorem bytes_of_string? {bs : List UInt8} {s : String} (h : string? bs = some s) : bs = bytes s := by
  rw [string?, String.fromUTF8?] at h
  split at h
  · obtain rfl := Option.some.inj h
    simp [bytes, String.fromUTF8]
  · simp at h

end ChatRelay.Text.Utf8

namespace ChatRelay.Json

/-! ### Bytes between quotes -/

/-- Four hexadecimal digits, and the code unit that they denote. -/
inductive IsUnit : List UInt8 → Nat → Prop
  | digits {w x y z : UInt8} {a b c d : Fin 16}
      (hw : Text.Hex.value? (Char.ofNat w.toNat) = some a)
      (hx : Text.Hex.value? (Char.ofNat x.toNat) = some b)
      (hy : Text.Hex.value? (Char.ofNat y.toNat) = some c)
      (hz : Text.Hex.value? (Char.ofNat z.toNat) = some d) :
      IsUnit [w, x, y, z] ((((0 * 16 + a) * 16 + b) * 16 + c) * 16 + d)

/-- The first half of a surrogate pair. -/
def IsHigh (n : Nat) : Prop := 0xD800 ≤ n ∧ n < 0xDC00

/-- The second half of a surrogate pair. -/
def IsLow (n : Nat) : Prop := 0xDC00 ≤ n ∧ n < 0xE000

/-- The UTF-8 bytes of a character, by its number. -/
def charBytes (n : Nat) : List UInt8 := String.utf8EncodeChar (Char.ofNat n)

/-- Bytes between quotes, and the bytes that they stand for. -/
inductive Unescapes : List UInt8 → List UInt8 → Prop
  | nil : Unescapes [] []
  | plain {b : UInt8} {body bytes : List UInt8} (hPlain : IsPlain b) (hRest : Unescapes body bytes) :
      Unescapes (b :: body) (b :: bytes)
  | letter {b : UInt8} {n : Nat} {body bytes : List UInt8}
      (hLetter : TextScan.letter? (Char.ofNat b.toNat) = some n) (hRest : Unescapes body bytes) :
      Unescapes (0x5C :: b :: body) (charBytes n ++ bytes)
  | unit {digits : List UInt8} {n : Nat} {body bytes : List UInt8} (hUnit : IsUnit digits n)
      (hHigh : ¬ IsHigh n) (hLow : ¬ IsLow n) (hRest : Unescapes body bytes) :
      Unescapes (0x5C :: 0x75 :: (digits ++ body)) (charBytes n ++ bytes)
  | pair {first second : List UInt8} {high low : Nat} {body bytes : List UInt8}
      (hFirst : IsUnit first high) (hHigh : IsHigh high) (hSecond : IsUnit second low)
      (hLow : IsLow low) (hRest : Unescapes body bytes) :
      Unescapes (0x5C :: 0x75 :: (first ++ 0x5C :: 0x75 :: (second ++ body)))
        (charBytes (0x10000 + (high - 0xD800) * 0x400 + (low - 0xDC00)) ++ bytes)

/-! ### Scans of several bytes -/

namespace TextScan

/-- The scan after several bytes, none of which closes the text. -/
def run? (t : TextScan) : List UInt8 → Option TextScan
  | [] => some t
  | b :: bs =>
    if t.escape = .outside ∧ b = 0x22 then none
    else
      match t.step? b with
      | some t => t.run? bs
      | none => none

/-- The scan comes to an end between two characters. -/
def Scans (t : TextScan) (body : List UInt8) (u : TextScan) : Prop :=
  t.run? body = some u ∧ u.escape = .outside

theorem scans_nil {t u : TextScan} : t.Scans [] u ↔ t = u ∧ u.escape = .outside := by
  simp [Scans, run?]

theorem scans_cons {t u : TextScan} {b : UInt8} {body : List UInt8} :
    t.Scans (b :: body) u ↔
      ¬ (t.escape = .outside ∧ b = 0x22) ∧ ∃ t', t.step? b = some t' ∧ t'.Scans body u := by
  rw [Scans, run?]
  split
  · simp [*]
  · cases t.step? b <;> simp [*, Scans]

variable {t u : TextScan} {body : List UInt8}

/-- A byte that begins no escape. -/
theorem scans_plain {b : UInt8} (ht : t.escape = .outside) (hb : b ≠ 0x5C) :
    t.Scans (b :: body) u ↔ IsPlain b ∧ (t.push [b]).Scans body u := by
  have hSpace : b < 0x20 ↔ ¬ 0x20 ≤ b.toNat := by
    rw [UInt8.lt_iff_toNat_lt, Nat.not_le]
    rfl
  rw [scans_cons, step?, ht]
  by_cases hLow : b < 0x20
  · simp [hb, hLow, IsPlain, hSpace.1 hLow]
  · have hHigh : 0x20 ≤ b.toNat := Nat.not_lt.1 fun h => hLow (hSpace.2 (Nat.not_le.2 h))
    simp [hb, hLow, IsPlain, hHigh]

/-- The first byte that a scan inside an escape reads. -/
theorem scans_escaped (ht : t.escape ≠ .outside) :
    t.Scans body u ↔ ∃ b more, body = b :: more ∧ ∃ t', t.step? b = some t' ∧ t'.Scans more u := by
  cases body with
  | nil =>
    rw [scans_nil]
    refine ⟨?_, by simp⟩
    rintro ⟨rfl, hu⟩
    exact absurd hu ht
  | cons b body =>
    rw [scans_cons]
    constructor
    · rintro ⟨-, hStep⟩
      exact ⟨b, body, rfl, hStep⟩
    · rintro ⟨_, _, h, hStep⟩
      obtain ⟨rfl, rfl⟩ := List.cons.inj h
      exact ⟨fun h => ht h.1, hStep⟩

/-- A digit of a code unit, and after the fourth one the code unit. -/
theorem scans_digit {digits value : Nat} :
    { t with escape := .unit digits value }.Scans body u ↔
      ∃ b d more, body = b :: more ∧ Text.Hex.value? (Char.ofNat b.toNat) = some d ∧
        (if digits = 3 then t.pushUnit (value * 16 + d)
          else { t with escape := .unit (digits + 1) (value * 16 + d) }).Scans more u := by
  rw [scans_escaped (by simp)]
  simp only [step?, Option.map_eq_some_iff]
  constructor
  · rintro ⟨b, more, rfl, _, ⟨d, hDigit, rfl⟩, hMore⟩
    exact ⟨b, d, more, rfl, hDigit, hMore⟩
  · rintro ⟨b, d, more, rfl, hDigit, hMore⟩
    exact ⟨b, more, rfl, _, ⟨d, hDigit, rfl⟩, hMore⟩

theorem scans_unit :
    { t with escape := .unit 0 0 }.Scans body u ↔
      ∃ digits n more, body = digits ++ more ∧ IsUnit digits n ∧ (t.pushUnit n).Scans more u := by
  simp only [scans_digit, Nat.reduceAdd, Nat.reduceEqDiff, if_false, if_true]
  constructor
  · rintro ⟨w, a, _, rfl, hw, x, b, _, rfl, hx, y, c, _, rfl, hy, z, d, more, rfl, hz, hMore⟩
    exact ⟨[w, x, y, z], _, more, rfl, .digits hw hx hy hz, hMore⟩
  · rintro ⟨_, _, more, rfl, @⟨w, x, y, z, a, b, c, d, hw, hx, hy, hz⟩, hMore⟩
    exact ⟨w, a, _, rfl, hw, x, b, _, rfl, hx, y, c, _, rfl, hy, z, d, more, rfl, hz, hMore⟩

/-- A backslash begins a letter escape or a code unit. -/
theorem scans_escape (ht : t.escape = .outside) :
    t.Scans (0x5C :: body) u ↔
      (∃ b n more, body = b :: more ∧ letter? (Char.ofNat b.toNat) = some n ∧
        (t.pushChar n).Scans more u) ∨
      ∃ digits n more, body = 0x75 :: (digits ++ more) ∧ IsUnit digits n ∧
        (t.pushUnit n).Scans more u := by
  have hLetter : letter? (Char.ofNat (0x75 : UInt8).toNat) = none := rfl
  have hPush : ∀ n, { t with escape := .backslash }.pushChar n = t.pushChar n := fun _ => rfl
  have hFirst : t.Scans (0x5C :: body) u ↔ { t with escape := .backslash }.Scans body u := by
    rw [scans_cons]
    simp [step?, ht]
  rw [hFirst, scans_escaped (by simp)]
  simp only [step?]
  constructor
  · rintro ⟨b, more, rfl, t', hStep, hMore⟩
    split at hStep
    · rename_i hb
      subst hb
      obtain rfl := Option.some.inj hStep
      obtain ⟨digits, n, more, rfl, hUnit, hMore⟩ := scans_unit.1 hMore
      exact .inr ⟨digits, n, more, rfl, hUnit, hMore⟩
    · obtain ⟨n, hn, rfl⟩ := Option.map_eq_some_iff.1 hStep
      exact .inl ⟨b, n, more, rfl, hn, hMore⟩
  · rintro (⟨b, n, more, rfl, hn, hMore⟩ | ⟨digits, n, more, rfl, hUnit, hMore⟩)
    · have hb : b ≠ 0x75 := by
        rintro rfl
        rw [hLetter] at hn
        simp at hn
      exact ⟨b, more, rfl, t.pushChar n, by simp [hb, hn, hPush], hMore⟩
    · exact ⟨0x75, digits ++ more, rfl, _, if_pos rfl, scans_unit.2 ⟨digits, n, more, rfl, hUnit, hMore⟩⟩

/-! ### Halves of surrogate pairs -/

theorem paired_of_push {bs : List UInt8} (h : (t.push bs).paired) : t.paired ∧ t.lead = none := by
  simpa [push, Option.isNone_iff_eq_none] using h

theorem paired_of_pushUnit {n : Nat} (h : (t.pushUnit n).paired) : t.paired := by
  unfold pushUnit at h
  split at h
  · have hPush : (t.push []).paired := h
    exact (paired_of_push hPush).1
  · split at h
    · split at h
      · exact (paired_of_push h).1
      · simp at h
    · exact (paired_of_push h).1

/-- A half that stands alone is never made good. -/
theorem paired_of_step? {b : UInt8} (hStep : t.step? b = some u) (hu : u.paired) : t.paired := by
  unfold step? at hStep
  split at hStep
  · split at hStep
    · obtain rfl := Option.some.inj hStep
      exact hu
    · split at hStep
      · simp at hStep
      · obtain rfl := Option.some.inj hStep
        exact (paired_of_push hu).1
  · split at hStep
    · obtain rfl := Option.some.inj hStep
      exact hu
    · obtain ⟨n, -, rfl⟩ := Option.map_eq_some_iff.1 hStep
      exact (paired_of_push hu).1
  · obtain ⟨d, -, rfl⟩ := Option.map_eq_some_iff.1 hStep
    dsimp only at hu
    split at hu
    · exact paired_of_pushUnit hu
    · exact hu

theorem Scans.paired (h : t.Scans body u) (hu : u.paired) : t.paired := by
  induction body generalizing t with
  | nil =>
    obtain ⟨rfl, -⟩ := scans_nil.1 h
    exact hu
  | cons b body ih =>
    obtain ⟨-, t', hStep, hMore⟩ := scans_cons.1 h
    exact paired_of_step? hStep (ih hMore)

/-! ### What a scan reads -/

variable {acc : List UInt8}

@[simp] theorem push_bytes (bs : List UInt8) :
    push { bytes := acc } bs = { bytes := bs.reverse ++ acc } := rfl

@[simp] theorem pushChar_bytes (n : Nat) :
    pushChar { bytes := acc } n = { bytes := (charBytes n).reverse ++ acc } := rfl

theorem pushUnit_char {n : Nat} (hHigh : ¬ IsHigh n) (hLow : ¬ IsLow n) :
    pushUnit { bytes := acc } n = { bytes := (charBytes n).reverse ++ acc } := by
  unfold IsHigh at hHigh
  unfold IsLow at hLow
  rw [pushUnit, if_neg hHigh, if_neg hLow, pushChar_bytes]

theorem pushUnit_high {n : Nat} (h : IsHigh n) :
    pushUnit { bytes := acc } n = { bytes := acc, lead := some n } := if_pos h

theorem pushUnit_low {n : Nat} (h : IsLow n) : (pushUnit { bytes := acc } n).paired = false := by
  unfold IsLow at h
  rw [pushUnit, if_neg (by omega), if_pos h]

theorem pushUnit_pair {high low : Nat} (h : IsLow low) :
    pushUnit { bytes := acc, lead := some high } low =
      { bytes := (charBytes (0x10000 + (high - 0xD800) * 0x400 + (low - 0xDC00))).reverse ++ acc } := by
  unfold IsLow at h
  rw [pushUnit, if_neg (by omega), if_pos h]
  rfl

theorem pushUnit_alone {high n : Nat} (h : ¬ IsLow n) :
    (pushUnit { bytes := acc, lead := some high } n).paired = false := by
  unfold IsLow at h
  rw [pushUnit, if_neg h]
  split <;> rfl

/-- A first half that waits is followed by its second half. -/
theorem Scans.pair {high : Nat} (h : Scans { bytes := acc, lead := some high } body u) (hu : u.paired)
    (hLead : u.lead = none) :
    ∃ second low more, body = 0x5C :: 0x75 :: (second ++ more) ∧ IsUnit second low ∧ IsLow low ∧
      Scans { bytes := (charBytes (0x10000 + (high - 0xD800) * 0x400 + (low - 0xDC00))).reverse ++ acc }
        more u := by
  cases body with
  | nil =>
    obtain ⟨rfl, -⟩ := scans_nil.1 h
    simp at hLead
  | cons b body =>
    by_cases hb : b = 0x5C
    · subst hb
      rcases (scans_escape rfl).1 h with ⟨b, n, more, -, -, hMore⟩ | ⟨second, low, more, rfl, hUnit, hMore⟩
      · exact absurd (paired_of_push (hMore.paired hu)).2 (by simp)
      · by_cases hLow : IsLow low
        · rw [pushUnit_pair hLow] at hMore
          exact ⟨second, low, more, rfl, hUnit, hLow, hMore⟩
        · have hPaired := hMore.paired hu
          rw [pushUnit_alone hLow] at hPaired
          simp at hPaired
    · obtain ⟨-, hMore⟩ := (scans_plain rfl hb).1 h
      exact absurd (paired_of_push (hMore.paired hu)).2 (by simp)

/-- What is scanned as Unicode stands for some bytes. -/
theorem Scans.unescapes (h : Scans { bytes := acc } body u) (hu : u.paired) (hLead : u.lead = none) :
    ∃ bytes, Unescapes body bytes ∧ u = { bytes := bytes.reverse ++ acc } := by
  -- by the length, since an escape takes several bytes at once
  induction hLength : body.length using Nat.strong_induction_on generalizing acc body with
  | _ n ih =>
  subst hLength
  cases body with
  | nil =>
    obtain ⟨rfl, -⟩ := scans_nil.1 h
    exact ⟨[], .nil, rfl⟩
  | cons b body =>
    simp only [List.length_cons] at ih
    by_cases hb : b = 0x5C
    · subst hb
      rcases (scans_escape rfl).1 h with ⟨b, n, more, rfl, hLetter, hMore⟩ |
        ⟨digits, n, more, rfl, hUnit, hMore⟩
      · rw [pushChar_bytes] at hMore
        simp only [List.length_cons] at ih
        obtain ⟨bytes, hBytes, rfl⟩ := ih more.length (by omega) hMore rfl
        exact ⟨charBytes n ++ bytes, .letter hLetter hBytes, by simp⟩
      simp only [List.length_cons, List.length_append] at ih
      by_cases hHigh : IsHigh n
      · rw [pushUnit_high hHigh] at hMore
        obtain ⟨second, low, more, rfl, hSecond, hLow, hMore⟩ := hMore.pair hu hLead
        simp only [List.length_cons, List.length_append] at ih
        obtain ⟨bytes, hBytes, rfl⟩ := ih more.length (by omega) hMore rfl
        exact ⟨_, .pair hUnit hHigh hSecond hLow hBytes, by simp⟩
      · by_cases hLow : IsLow n
        · have hPaired := hMore.paired hu
          rw [pushUnit_low hLow] at hPaired
          simp at hPaired
        · rw [pushUnit_char hHigh hLow] at hMore
          obtain ⟨bytes, hBytes, rfl⟩ := ih more.length (by omega) hMore rfl
          exact ⟨_, .unit hUnit hHigh hLow hBytes, by simp⟩
    · obtain ⟨hPlain, hMore⟩ := (scans_plain rfl hb).1 h
      rw [push_bytes] at hMore
      obtain ⟨bytes, hBytes, rfl⟩ := ih body.length (by omega) hMore rfl
      exact ⟨b :: bytes, .plain hPlain hBytes, by simp⟩

/-- Bytes that stand for others are scanned as these. -/
theorem scans_of_unescapes {bytes : List UInt8} (h : Unescapes body bytes) :
    Scans { bytes := acc } body { bytes := bytes.reverse ++ acc } := by
  induction h generalizing acc with
  | nil => exact scans_nil.2 ⟨rfl, rfl⟩
  | @plain b body bytes hPlain hRest ih =>
    refine (scans_plain rfl hPlain.2.1).2 ⟨hPlain, ?_⟩
    simpa using @ih (b :: acc)
  | @letter b n body bytes hLetter hRest ih =>
    refine (scans_escape rfl).2 (.inl ⟨b, n, body, rfl, hLetter, ?_⟩)
    simpa using @ih ((charBytes n).reverse ++ acc)
  | @unit digits n body bytes hUnit hHigh hLow hRest ih =>
    refine (scans_escape rfl).2 (.inr ⟨digits, n, body, rfl, hUnit, ?_⟩)
    rw [pushUnit_char hHigh hLow]
    simpa using @ih ((charBytes n).reverse ++ acc)
  | @pair first second high low body bytes hFirst hHigh hSecond hLow hRest ih =>
    refine (scans_escape rfl).2 (.inr ⟨first, high, _, rfl, hFirst, ?_⟩)
    rw [pushUnit_high hHigh]
    refine (scans_escape rfl).2 (.inr ⟨second, low, body, rfl, hSecond, ?_⟩)
    rw [pushUnit_pair hLow]
    simpa using ih

/-- The scanner reads as Unicode just the bytes that stand for the text. -/
theorem scans_iff_unescapes {s : String} :
    (∃ u, Scans {} body u ∧ u.finish = .unicode s) ↔ Unescapes body (Text.Utf8.bytes s) := by
  constructor
  · rintro ⟨u, hScans, hFinish⟩
    unfold finish at hFinish
    split at hFinish
    · simp at hFinish
    · rename_i hPaired
      split at hFinish
      · simp at hFinish
      · rename_i hLead
        split at hFinish
        · rename_i text hText
          obtain rfl : text = s := by simpa using hFinish
          obtain ⟨bytes, hBytes, rfl⟩ := hScans.unescapes (by simpa using hPaired) (by simpa using hLead)
          have hSame := Text.Utf8.bytes_of_string? hText
          simp only [List.append_nil, List.reverse_reverse] at hSame
          exact hSame ▸ hBytes
        · simp at hFinish
  · intro hBytes
    refine ⟨_, scans_of_unescapes hBytes, ?_⟩
    simp [finish, Text.Utf8.string?_bytes]

end TextScan

end ChatRelay.Json
