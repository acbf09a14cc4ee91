import ChatRelay.Proofs.RoundTrip.Text

/-! Base64 texts are canonical: a text is decoded only if it is the text that its bytes are encoded as.  A
digit has one value and a value one digit, so the digits of a group are those of its bytes; the last group
has just the digits and the padding that its bytes need, with no bits to spare. -/

namespace ChatRelay.Text.Base64

namespace Alphabet

/-- A character with a value is the digit for it. -/
theorem digit_of_value? (a : Alphabet) {c : Char} {n : Nat} (h : a.value? c = some n) :
    n < 64 ∧ a.digit n = c := by
  have hLe : ∀ {c d : Char}, c ≤ d ↔ c.toNat ≤ d.toNat := Iff.rfl
  unfold value? at h
  simp only [hLe, Char.reduceToNat] at h
  split at h
  · obtain rfl := Option.some.inj h
    refine ⟨by omega, ?_⟩
    rw [digit, if_pos (by omega), Nat.sub_add_cancel (by omega), Char.ofNat_toNat]
  split at h
  · obtain rfl := Option.some.inj h
    refine ⟨by omega, ?_⟩
    rw [digit, if_neg (by omega), if_pos (by omega), Nat.sub_add_cancel (by omega), Char.ofNat_toNat]
  split at h
  · obtain rfl := Option.some.inj h
    refine ⟨by omega, ?_⟩
    rw [digit, if_neg (by omega), if_neg (by omega), if_pos (by omega), Nat.add_sub_cancel,
      Char.ofNat_toNat]
  split at h
  · rename_i hc
    obtain rfl := Option.some.inj h
    exact ⟨by decide, hc.symm⟩
  split at h
  · rename_i hc
    obtain rfl := Option.some.inj h
    exact ⟨by decide, hc.symm⟩
  · simp at h

/-- Four digits are those of the three bytes that they are read as. -/
theorem group_of_group? (a : Alphabet) {c d e f : Char} {x y z : UInt8}
    (h : a.group? c d e f = some (x, y, z)) : a.group x y z = (c, d, e, f) := by
  unfold group? at h
  split at h
  · rename_i i j k l hi hj hk hl
    obtain ⟨hi, rfl⟩ := a.digit_of_value? hi
    obtain ⟨hj, rfl⟩ := a.digit_of_value? hj
    obtain ⟨hk, rfl⟩ := a.digit_of_value? hk
    obtain ⟨hl, rfl⟩ := a.digit_of_value? hl
    simp only [Option.some.injEq, Prod.mk.injEq] at h
    obtain ⟨rfl, rfl, rfl⟩ := h
    have hx : (UInt8.ofNat (i * 4 + j / 16)).toNat = i * 4 + j / 16 :=
      UInt8.toNat_ofNat_of_lt' (show _ < 256 by omega)
    have hy : (UInt8.ofNat (j % 16 * 16 + k / 4)).toNat = j % 16 * 16 + k / 4 :=
      UInt8.toNat_ofNat_of_lt' (show _ < 256 by omega)
    have hz : (UInt8.ofNat (k % 4 * 64 + l)).toNat = k % 4 * 64 + l :=
      UInt8.toNat_ofNat_of_lt' (show _ < 256 by omega)
    have h₁ : (i * 4 + j / 16) / 4 = i := by omega
    have h₂ : (i * 4 + j / 16) % 4 * 16 + (j % 16 * 16 + k / 4) / 16 = j := by omega
    have h₃ : (j % 16 * 16 + k / 4) % 16 * 4 + (k % 4 * 64 + l) / 64 = k := by omega
    have h₄ : (k % 4 * 64 + l) % 64 = l := by omega
    rw [group, hx, hy, hz, h₁, h₂, h₃, h₄]
  · simp at h

theorem tail_of_single? (a : Alphabet) {c d : Char} {bytes : List UInt8}
    (h : a.single? c d = some bytes) :
    bytes.length < 3 ∧ a.tail bytes = c :: d :: a.padding 2 := by
  unfold single? at h
  split at h
  · rename_i i j hi hj
    obtain ⟨hi, rfl⟩ := a.digit_of_value? hi
    obtain ⟨hj, rfl⟩ := a.digit_of_value? hj
    split at h
    · obtain rfl := Option.some.inj h
      have hx : (UInt8.ofNat (i * 4 + j / 16)).toNat = i * 4 + j / 16 :=
        UInt8.toNat_ofNat_of_lt' (show _ < 256 by omega)
      have h₁ : (i * 4 + j / 16) / 4 = i := by omega
      have h₂ : (i * 4 + j / 16) % 4 * 16 = j := by omega
      refine ⟨by simp, ?_⟩
      rw [tail, hx, h₁, h₂]
    · simp at h
  · simp at h

theorem tail_of_double? (a : Alphabet) {c d e : Char} {bytes : List UInt8}
    (h : a.double? c d e = some bytes) :
    bytes.length < 3 ∧ a.tail bytes = c :: d :: e :: a.padding 1 := by
  unfold double? at h
  split at h
  · rename_i i j k hi hj hk
    obtain ⟨hi, rfl⟩ := a.digit_of_value? hi
    obtain ⟨hj, rfl⟩ := a.digit_of_value? hj
    obtain ⟨hk, rfl⟩ := a.digit_of_value? hk
    split at h
    · obtain rfl := Option.some.inj h
      have hx : (UInt8.ofNat (i * 4 + j / 16)).toNat = i * 4 + j / 16 :=
        UInt8.toNat_ofNat_of_lt' (show _ < 256 by omega)
      have hy : (UInt8.ofNat (j % 16 * 16 + k / 4)).toNat = j % 16 * 16 + k / 4 :=
        UInt8.toNat_ofNat_of_lt' (show _ < 256 by omega)
      have h₁ : (i * 4 + j / 16) / 4 = i := by omega
      have h₂ : (i * 4 + j / 16) % 4 * 16 + (j % 16 * 16 + k / 4) / 16 = j := by omega
      have h₃ : (j % 16 * 16 + k / 4) % 16 * 4 = k := by omega
      refine ⟨by simp, ?_⟩
      rw [tail, hx, hy, h₁, h₂, h₃]
    · simp at h
  · simp at h

/-- A last group is written as it was read. -/
theorem tail_of_tail? (a : Alphabet) {cs : List Char} {bytes : List UInt8}
    (h : a.tail? cs = some bytes) : bytes.length < 3 ∧ a.tail bytes = cs := by
  unfold tail? at h
  split at h
  · obtain rfl := Option.some.inj h
    exact ⟨by decide, rfl⟩
  · simp at h
  · split at h
    · rename_i hPadding
      subst hPadding
      exact a.tail_of_single? h
    · split at h
      · simp at h
      · split at h
        · rename_i hPadding
          subst hPadding
          exact a.tail_of_double? h
        · simp at h

end Alphabet

theorem encodeOnto_short (a : Alphabet) (out : List Char) {bytes : List UInt8} (h : bytes.length < 3) :
    encodeOnto a out bytes = out.reverse ++ a.tail bytes := by
  match bytes, h with
  | [], _ | [_], _ | [_, _], _ => rfl

/-- Bytes read behind others are written as the text that they were read from. -/
theorem encodeOnto_of_decodeOnto (a : Alphabet) {out bytes : List UInt8} {cs : List Char}
    (h : decodeOnto a out cs = some bytes) :
    ∃ more, bytes = out.reverse ++ more ∧ ∀ chars, encodeOnto a chars more = chars.reverse ++ cs := by
  have hTail : ∀ {out : List UInt8} {cs}, (a.tail? cs).map (out.reverse ++ ·) = some bytes →
      ∃ more, bytes = out.reverse ++ more ∧
        ∀ chars, encodeOnto a chars more = chars.reverse ++ cs := by
    intro out cs h
    obtain ⟨more, hMore, rfl⟩ := Option.map_eq_some_iff.1 h
    obtain ⟨hShort, rfl⟩ := a.tail_of_tail? hMore
    exact ⟨more, rfl, fun chars => encodeOnto_short a chars hShort⟩
  fun_induction decodeOnto a out cs with
  | case1 out c d e f rest x y z hGroup ih =>
    obtain ⟨more, rfl, hMore⟩ := ih h
    refine ⟨x :: y :: z :: more, by simp, fun chars => ?_⟩
    rw [encodeOnto, a.group_of_group? hGroup]
    simp [hMore]
  | case2 out c d e f rest hGroup => exact hTail h
  | case3 out rest hRest => exact hTail h

/-- A text is decoded to just those bytes that it is written for. -/
theorem decode?_eq_some_iff (a : Alphabet) {s : String} {bytes : List UInt8} :
    decode? a s = some bytes ↔ s = encode a bytes := by
  constructor
  · intro h
    obtain ⟨more, rfl, hMore⟩ := encodeOnto_of_decodeOnto a h
    simp [encode, hMore]
  · rintro rfl
    exact decode?_encode a bytes

end ChatRelay.Text.Base64
