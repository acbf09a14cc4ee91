import ChatRelay.Json.Value
import ChatRelay.Proofs.RoundTrip.Text

/-! JSON values read back from their text.  The scanner takes the bytes of a token and is between two tokens
again, with that token read: `read?_token`, and `read?_number` for a number, which ends where the bytes
cannot go on with it.  The reader that expects a value takes its tokens: `run?_tokens`. -/

namespace ChatRelay.Json

open Text.Numeral

/-! ### Characters between quotes -/

/-- A byte that stands for itself between quotes. -/
def IsPlain (b : UInt8) : Prop := b ≠ 0x22 ∧ b ≠ 0x5C ∧ 0x20 ≤ b.toNat

theorem run?_plain (done : List Token) (acc bs rest : List UInt8) (h : ∀ b ∈ bs, IsPlain b) :
    Lexer.run? ⟨done, .text { bytes := acc }⟩ (bs ++ rest) =
      Lexer.run? ⟨done, .text { bytes := bs.reverse ++ acc }⟩ rest := by
  induction bs generalizing acc with
  | nil => rfl
  | cons b bs ih =>
    obtain ⟨hQuote, hSlash, hSpace⟩ := h b List.mem_cons_self
    have hStep : Lexer.step? ⟨done, .text { bytes := acc }⟩ b =
        some ⟨done, .text { bytes := b :: acc }⟩ := by
      have : ¬ b < 0x20 := by
        rw [UInt8.lt_iff_toNat_lt]
        exact Nat.not_lt.2 hSpace
      simp [Lexer.step?, TextScan.step?, TextScan.push, hQuote, hSlash, this]
    rw [List.cons_append, Lexer.run?, hStep]
    simp only
    rw [ih _ fun b' hb' => h b' (List.mem_cons_of_mem b hb'), List.reverse_cons, List.append_assoc]
    rfl

theorem isPlain_of_char {c : Char} (hQuote : c ≠ '"') (hSlash : c ≠ '\\') (hSpace : 0x20 ≤ c.toNat)
    {b : UInt8} (hb : b ∈ String.utf8EncodeChar c) : IsPlain b := by
  by_cases hWide : 128 ≤ c.toNat
  · have := Text.Utf8.le_of_mem_utf8EncodeChar hWide hb
    refine ⟨?_, ?_, by omega⟩ <;> rintro rfl <;> simp at this
  · rw [Text.Utf8.utf8EncodeChar_of_lt (by omega), List.mem_singleton] at hb
    have hNat : b.toNat = c.toNat := by
      rw [hb, UInt8.toNat_ofNat', Nat.mod_eq_of_lt (by omega)]
    refine ⟨?_, ?_, by omega⟩
    · rintro rfl
      exact hQuote (Char.toNat_inj.1 hNat.symm)
    · rintro rfl
      exact hSlash (Char.toNat_inj.1 hNat.symm)

theorem utf8EncodeChar_hexDigit {n : Nat} (h : n < 16) :
    ∃ b : UInt8, String.utf8EncodeChar (hexDigit n) = [b] ∧
      Text.Hex.value? (Char.ofNat b.toNat) = some (Fin.ofNat 16 n) := by
  have hAll : ∀ n : Fin 16, String.utf8EncodeChar (hexDigit n) = [UInt8.ofNat (hexDigit n).toNat] ∧
      Text.Hex.value? (Char.ofNat (UInt8.ofNat (hexDigit n).toNat).toNat) = some n := by decide
  obtain ⟨hBytes, hValue⟩ := hAll ⟨n, h⟩
  refine ⟨_, hBytes, hValue.trans ?_⟩
  simp [Fin.ofNat, Nat.mod_eq_of_lt h]

theorem step?_unit (done : List Token) {t : TextScan} {digits value : Nat} {b : UInt8} {d : Fin 16}
    (ht : t.escape = .unit digits value) (hd : Text.Hex.value? (Char.ofNat b.toNat) = some d) :
    Lexer.step? ⟨done, .text t⟩ b = some ⟨done, .text
      (if digits = 3 then t.pushUnit (value * 16 + d)
        else { t with escape := .unit (digits + 1) (value * 16 + d) })⟩ := by
  simp [Lexer.step?, TextScan.step?, ht, hd]

/-- An escape by number gives the character below the space. -/
theorem run?_unit (done : List Token) (acc rest : List UInt8) {c : Char} (h : c.toNat < 0x20) :
    Lexer.run? ⟨done, .text { bytes := acc }⟩
        (['\\', 'u', '0', '0', hexDigit (c.toNat / 16), hexDigit (c.toNat % 16)].flatMap
          String.utf8EncodeChar ++ rest) =
      Lexer.run? ⟨done, .text { bytes := (String.utf8EncodeChar c).reverse ++ acc }⟩ rest := by
  obtain ⟨high, hHigh, hHighValue⟩ := utf8EncodeChar_hexDigit (n := c.toNat / 16) (by omega)
  obtain ⟨low, hLow, hLowValue⟩ := utf8EncodeChar_hexDigit (n := c.toNat % 16) (by omega)
  have hValue : (0 * 16 + c.toNat / 16 % 16) * 16 + c.toNat % 16 % 16 = c.toNat := by omega
  have hUnit : TextScan.pushUnit { bytes := acc, escape := .unit 3 (0 * 16 + c.toNat / 16 % 16) }
      c.toNat = { bytes := (String.utf8EncodeChar c).reverse ++ acc } := by
    rw [TextScan.pushUnit, if_neg (by omega), if_neg (by omega), TextScan.pushChar, Char.ofNat_toNat]
    rfl
  simp only [List.flatMap_cons, hHigh, hLow, List.flatMap_nil, List.append_nil, List.append_assoc]
  -- the backslash, the letter and the two zeros compute
  change Lexer.run? ⟨done, .text { bytes := acc, escape := .unit 2 0 }⟩ (high :: low :: rest) = _
  rw [Lexer.run?, step?_unit done rfl hHighValue]
  simp only [Nat.reduceEqDiff, if_false]
  rw [Lexer.run?, step?_unit done rfl hLowValue]
  simp only [if_true, Fin.ofNat, hValue, hUnit]

theorem run?_escape (done : List Token) (acc rest : List UInt8) (c : Char) :
    Lexer.run? ⟨done, .text { bytes := acc }⟩ ((escape c).flatMap String.utf8EncodeChar ++ rest) =
      Lexer.run? ⟨done, .text { bytes := (String.utf8EncodeChar c).reverse ++ acc }⟩ rest := by
  unfold escape
  split
  · rfl
  · rfl
  · rfl
  · rfl
  · rfl
  · rfl
  · rfl
  · rename_i hQuote hSlash _ _ _ _ _
    split
    · rename_i hLow
      exact run?_unit done acc rest hLow
    · rename_i hSpace
      rw [List.flatMap_singleton, run?_plain]
      exact fun b => isPlain_of_char hQuote hSlash (by omega)
theorem run?_escapes (done : List Token) (acc rest : List UInt8) (cs : List Char) :
    Lexer.run? ⟨done, .text { bytes := acc }⟩
        ((cs.flatMap escape).flatMap String.utf8EncodeChar ++ rest) =
      Lexer.run? ⟨done, .text { bytes := (cs.flatMap String.utf8EncodeChar).reverse ++ acc }⟩
        rest := by
  induction cs generalizing acc with
  | nil => rfl
  | cons c cs ih =>
    rw [List.flatMap_cons, List.flatMap_append, List.append_assoc, run?_escape, ih, List.flatMap_cons,
      List.reverse_append, List.append_assoc]

/-! ### Numbers -/

/-- The phase after several characters. -/
def NumberPhase.run? (p : NumberPhase) : List Char → Option NumberPhase
  | [] => some p
  | c :: cs =>
    match p.next? c with
    | some q => q.run? cs
    | none => none

/-- The characters spell a number. -/
def IsNumber (literal : List Char) : Prop :=
  ∃ p : NumberPhase, p.complete ∧
    NumberPhase.sign.run? (if literal.head? = some '-' then literal.tail else literal) = some p

/-- A number goes on with a digit, a point, a mark or a sign. -/
theorem NumberPhase.mem_of_next? {p q : NumberPhase} {c : Char} (h : p.next? c = some q) :
    c.isDigit ∨ c ∈ ['.', 'e', 'E', '+', '-'] := by
  by_cases hZero : c = '0'
  · exact .inl (hZero ▸ rfl)
  · cases p <;> simp only [next?] at h <;> grind

theorem NumberPhase.lt_of_next? {p q : NumberPhase} {c : Char} (h : p.next? c = some q) :
    c.toNat < 128 := by
  rcases mem_of_next? h with hDigit | hMark
  · simp only [Char.isDigit, Bool.and_eq_true, decide_eq_true_eq, UInt32.le_iff_toNat_le] at hDigit
    have hTop : c.toNat ≤ 57 := hDigit.2
    omega
  · have hAll : ['.', 'e', 'E', '+', '-'].all (·.toNat < 128) := by decide
    simpa using List.all_eq_true.1 hAll c hMark

theorem NumberPhase.utf8EncodeChar_of_next? {p q : NumberPhase} {c : Char} (h : p.next? c = some q) :
    ∃ b : UInt8, String.utf8EncodeChar c = [b] ∧ Char.ofNat b.toNat = c := by
  have hLow := lt_of_next? h
  refine ⟨_, Text.Utf8.utf8EncodeChar_of_lt hLow, ?_⟩
  rw [UInt8.toNat_ofNat', Nat.mod_eq_of_lt (by omega), Char.ofNat_toNat]

theorem run?_literal (done : List Token) (rest : List UInt8) {literal cs : List Char}
    {p q : NumberPhase} (h : p.run? cs = some q) :
    Lexer.run? ⟨done, .number literal p⟩ (cs.flatMap String.utf8EncodeChar ++ rest) =
      Lexer.run? ⟨done, .number (cs.reverse ++ literal) q⟩ rest := by
  induction cs generalizing literal p with
  | nil =>
    obtain rfl : p = q := Option.some.inj h
    rfl
  | cons c cs ih =>
    rw [NumberPhase.run?] at h
    split at h
    · rename_i p' hNext
      obtain ⟨b, hBytes, hChar⟩ := NumberPhase.utf8EncodeChar_of_next? hNext
      have hStep : Lexer.step? ⟨done, .number literal p⟩ b =
          some ⟨done, .number (c :: literal) p'⟩ := by
        simp [Lexer.step?, hChar, hNext]
      rw [List.flatMap_cons, hBytes, List.append_assoc, List.singleton_append, Lexer.run?, hStep]
      simp only
      rw [ih h, List.reverse_cons, List.append_assoc, List.singleton_append]
    · simp at h

theorem NumberPhase.run?_whole {cs : List Char} (h : ∀ c ∈ cs, c.isDigit) :
    whole.run? cs = some whole := by
  induction cs with
  | nil => rfl
  | cons c cs ih =>
    rw [run?, next?, if_pos (h c List.mem_cons_self)]
    exact ih fun d hd => h d (List.mem_cons_of_mem c hd)

theorem NumberPhase.run?_toDigits (n : Nat) :
    ∃ p : NumberPhase, p.complete ∧ sign.run? (Nat.toDigits 10 n) = some p := by
  rcases Nat.eq_zero_or_pos n with rfl | hPos
  · exact ⟨zero, rfl, rfl⟩
  · have hDigits : ∀ c ∈ Nat.toDigits 10 n, c.isDigit := fun c hc =>
      Nat.isDigit_of_mem_toDigits (by decide) (by decide) hc
    have hHead := head?_toDigits_ne hPos
    obtain ⟨c, cs, hCons, hDigit⟩ := toDigits_eq_cons n
    rw [hCons] at hDigits hHead ⊢
    refine ⟨whole, rfl, ?_⟩
    rw [run?, next?, if_neg (by simpa using hHead), if_pos hDigit]
    exact run?_whole fun d hd => hDigits d (List.mem_cons_of_mem c hd)

theorem isNumber_toString (n : Int) : IsNumber (toString n).toList := by
  by_cases hSign : 0 ≤ n
  · obtain ⟨p, hp, hRun⟩ := NumberPhase.run?_toDigits n.toNat
    obtain ⟨c, cs, hCons, hDigit⟩ := toDigits_eq_cons n.toNat
    refine ⟨p, hp, ?_⟩
    rw [toList_toString_of_nonneg hSign, if_neg, hRun]
    rw [hCons]
    rintro hSigned
    obtain rfl : c = '-' := by simpa using hSigned
    simp at hDigit
  · obtain ⟨p, hp, hRun⟩ := NumberPhase.run?_toDigits (-n).toNat
    exact ⟨p, hp, by rw [toList_toString_of_neg (by omega)]; exact hRun⟩

/-! ### Tokens -/

/-- The tokens of some more bytes. -/
def Lexer.read? (l : Lexer) (bytes : List UInt8) : Option (List Token) :=
  match l.run? bytes with
  | some l => l.finish?
  | none => none

theorem read?_congr {l l' : Lexer} {bs bs' : List UInt8} (h : l.run? bs = l'.run? bs') :
    l.read? bs = l'.read? bs' := by
  rw [Lexer.read?, Lexer.read?, h]

/-- No number can go on with these bytes. -/
def Delimited (bytes : List UInt8) : Prop :=
  ∀ b ∈ bytes.head?, ∀ p : NumberPhase, p.next? (Char.ofNat b.toNat) = none

theorem delimited_nil : Delimited [] := by
  intro b hb
  simp at hb

theorem delimited_spell {t : Token} (h : t ∈ [.comma, .closeArray, .closeObject])
    (rest : List UInt8) : Delimited (t.spell.flatMap String.utf8EncodeChar ++ rest) := by
  have hAll : ([0x2C, 0x5D, 0x7D] : List UInt8).all fun b => [NumberPhase.sign, .zero, .whole, .point,
      .fraction, .mark, .markSign, .exponent].all fun p => p.next? (Char.ofNat b.toNat) = none := by
    decide
  have hPhase : ∀ p : NumberPhase, p ∈ [NumberPhase.sign, .zero, .whole, .point, .fraction, .mark,
      .markSign, .exponent] := by
    intro p
    cases p <;> simp
  intro b hb p
  refine of_decide_eq_true (List.all_eq_true.1 (List.all_eq_true.1 hAll b ?_) p (hPhase p))
  simp only [List.mem_cons, List.not_mem_nil, or_false] at h
  rcases h with rfl | rfl | rfl
  all_goals
    obtain rfl := Option.some.inj hb
    decide

theorem read?_finished (done : List Token) {rest : List UInt8} (h : Delimited rest)
    {literal : List Char} {p : NumberPhase} (hp : p.complete) :
    Lexer.read? ⟨done, .number literal p⟩ rest =
      Lexer.read? ⟨.number literal.reverse :: done, .between⟩ rest := by
  cases rest with
  | nil => simp [Lexer.read?, Lexer.run?, Lexer.finish?, hp]
  | cons b rest =>
    refine read?_congr ?_
    have hNext := h b rfl p
    simp only [Lexer.run?, Lexer.step?, hNext, hp, if_true]

theorem start?_of_next? (done : List Token) {b : UInt8} {c : Char} {p : NumberPhase}
    (hChar : Char.ofNat b.toNat = c) (hNext : NumberPhase.sign.next? c = some p) :
    Lexer.step? ⟨done, .between⟩ b = some ⟨done, .number [c] p⟩ := by
  change Lexer.start? done b = _
  unfold Lexer.start?
  rw [hChar]
  split
  case h_16 => rw [hNext]; rfl
  all_goals simp [NumberPhase.next?] at hNext

theorem read?_number (done : List Token) {rest : List UInt8} (h : Delimited rest)
    {literal : List Char} (hNumber : IsNumber literal) :
    Lexer.read? ⟨done, .between⟩ (literal.flatMap String.utf8EncodeChar ++ rest) =
      Lexer.read? ⟨.number literal :: done, .between⟩ rest := by
  obtain ⟨p, hp, hRun⟩ := hNumber
  match literal with
  | [] => simp [NumberPhase.run?] at hRun; subst hRun; simp [NumberPhase.complete] at hp
  | c :: cs =>
    by_cases hSign : c = '-'
    · subst hSign
      simp only [List.head?_cons, if_true, List.tail_cons] at hRun
      have hStart : Lexer.run? ⟨done, .between⟩ (('-' :: cs).flatMap String.utf8EncodeChar ++ rest) =
          Lexer.run? ⟨done, .number ['-'] .sign⟩ (cs.flatMap String.utf8EncodeChar ++ rest) := rfl
      rw [read?_congr (hStart.trans (run?_literal done rest hRun)), read?_finished done h hp]
      simp
    · simp only [List.head?_cons, Option.some.injEq, hSign, if_false] at hRun
      rw [NumberPhase.run?] at hRun
      split at hRun
      · rename_i q hNext
        obtain ⟨b, hBytes, hChar⟩ := NumberPhase.utf8EncodeChar_of_next? hNext
        have hStep := start?_of_next? done hChar hNext
        have hStart : Lexer.run? ⟨done, .between⟩ ((c :: cs).flatMap String.utf8EncodeChar ++ rest) =
            Lexer.run? ⟨done, .number [c] q⟩ (cs.flatMap String.utf8EncodeChar ++ rest) := by
          rw [List.flatMap_cons, hBytes, List.append_assoc, List.singleton_append, Lexer.run?, hStep]
        rw [read?_congr (hStart.trans (run?_literal done rest hRun)), read?_finished done h hp]
        simp
      · simp at hRun

theorem spell_unicode (s : String) :
    (Token.text (.unicode s)).spell = '"' :: (s.toList.flatMap escape ++ ['"']) := rfl

theorem read?_text (done : List Token) (rest : List UInt8) (s : Quoted) :
    Lexer.read? ⟨done, .between⟩ ((Token.text s).spell.flatMap String.utf8EncodeChar ++ rest) =
      Lexer.read? ⟨.text s :: done, .between⟩ rest := by
  refine read?_congr ?_
  cases s with
  | faultyAtEnd => rfl
  | faultyInside => rfl
  | unicode s =>
    have hQuote : String.utf8EncodeChar '"' = [0x22] := rfl
    have hSpell : (Token.text (.unicode s)).spell.flatMap String.utf8EncodeChar ++ rest =
        0x22 :: ((s.toList.flatMap escape).flatMap String.utf8EncodeChar ++ 0x22 :: rest) := by
      rw [spell_unicode, List.flatMap_cons, List.flatMap_append, hQuote, List.flatMap_singleton, hQuote,
        List.append_assoc, List.append_assoc]
      rfl
    have hOpen : Lexer.step? ⟨done, .between⟩ 0x22 = some ⟨done, .text { bytes := [] }⟩ := rfl
    have hClose : Lexer.step? ⟨done, .text { bytes := (Text.Utf8.bytes s).reverse ++ [] }⟩ 0x22 =
        some ⟨.text (.unicode s) :: done, .between⟩ := by
      simp [Lexer.step?, TextScan.finish, Text.Utf8.string?_bytes]
    rw [hSpell, Lexer.run?, hOpen]
    simp only
    rw [run?_escapes, ← Text.Utf8.bytes_eq_flatMap, Lexer.run?, hClose]

/-- A token that is no number reads back from its bytes, whatever follows them. -/
theorem read?_token (done : List Token) (rest : List UInt8) {t : Token}
    (h : ∀ literal, t ≠ .number literal) :
    Lexer.read? ⟨done, .between⟩ (t.spell.flatMap String.utf8EncodeChar ++ rest) =
      Lexer.read? ⟨t :: done, .between⟩ rest := by
  cases t with
  | number literal => exact absurd rfl (h literal)
  | text s => exact read?_text done rest s
  | bool value => cases value <;> rfl
  | _ => rfl

/-! ### Values -/

/-- The bytes of tokens. -/
def spellBytes (ts : List Token) : List UInt8 :=
  ts.flatMap fun t => t.spell.flatMap String.utf8EncodeChar

theorem spellBytes_cons (t : Token) (ts : List Token) :
    spellBytes (t :: ts) = t.spell.flatMap String.utf8EncodeChar ++ spellBytes ts := List.flatMap_cons

theorem spellBytes_append (ts us : List Token) :
    spellBytes (ts ++ us) = spellBytes ts ++ spellBytes us := List.flatMap_append

/-- Each number token spells a number. -/
def NumbersSpelled (ts : List Token) : Prop :=
  ∀ literal, Token.number literal ∈ ts → IsNumber literal

theorem NumbersSpelled.of_append {ts us : List Token} (h : NumbersSpelled (ts ++ us)) :
    NumbersSpelled ts ∧ NumbersSpelled us :=
  ⟨fun literal hl => h literal (List.mem_append_left us hl),
    fun literal hl => h literal (List.mem_append_right ts hl)⟩

theorem NumbersSpelled.of_cons {t : Token} {ts : List Token} (h : NumbersSpelled (t :: ts)) :
    NumbersSpelled ts :=
  fun literal hl => h literal (List.mem_cons_of_mem t hl)

theorem itemTokens_cons_cons (j k : Json) (items : List Json) :
    itemTokens (j :: k :: items) = j.tokens ++ .comma :: itemTokens (k :: items) := rfl

theorem memberTokens_cons_cons (key : Quoted) (j : Json) (m : Member) (members : List Member) :
    memberTokens ((key, j) :: m :: members) =
      .text key :: .colon :: j.tokens ++ .comma :: memberTokens (m :: members) := rfl

theorem mem_itemTokens_iff {items : List Json} {t : Token} (ht : t ≠ .comma) :
    t ∈ itemTokens items ↔ ∃ j ∈ items, t ∈ j.tokens := by
  induction items with
  | nil => simp [itemTokens]
  | cons j items ih =>
    cases items with
    | nil => simp [itemTokens]
    | cons k items => simp [itemTokens_cons_cons, ht, ih]

theorem mem_memberTokens_iff {members : List Member} {t : Token} (ht : t ≠ .comma) :
    t ∈ memberTokens members ↔ ∃ m ∈ members, t = .text m.1 ∨ t = .colon ∨ t ∈ m.2.tokens := by
  induction members with
  | nil => simp [memberTokens]
  | cons m members ih =>
    obtain ⟨key, j⟩ := m
    cases members with
    | nil => simp [memberTokens]
    | cons n members => simp [memberTokens_cons_cons, ht, ih, or_assoc]

mutual

theorem read?_tokens (done : List Token) : ∀ (j : Json) {rest : List UInt8},
    NumbersSpelled j.tokens → Delimited rest →
      Lexer.read? ⟨done, .between⟩ (spellBytes j.tokens ++ rest) =
        Lexer.read? ⟨j.tokens.reverse ++ done, .between⟩ rest
  | .null, rest, _, _ => read?_token done rest (t := .null) (by simp)
  | .bool value, rest, _, _ => by
    rw [tokens, spellBytes_cons, List.append_assoc, read?_token done _ (by simp)]
    rfl
  | .text s, rest, _, _ => by
    rw [tokens, spellBytes_cons, List.append_assoc, read?_token done _ (by simp)]
    rfl
  | .number literal, rest, hNumbers, hRest => by
    rw [tokens] at hNumbers ⊢
    rw [spellBytes_cons, List.append_assoc]
    exact read?_number done hRest (hNumbers literal List.mem_cons_self)
  | .array items, rest, hNumbers, hRest => by
    rw [tokens] at hNumbers ⊢
    have hItems := hNumbers.of_append.1.of_cons
    rw [spellBytes_append, spellBytes_cons, spellBytes_cons .closeArray]
    simp only [List.append_assoc]
    rw [read?_token done _ (by simp),
      read?_itemTokens _ items hItems (delimited_spell (by simp) _), read?_token _ _ (by simp)]
    simp [spellBytes]
  | .object members, rest, hNumbers, hRest => by
    rw [tokens] at hNumbers ⊢
    have hMembers := hNumbers.of_append.1.of_cons
    rw [spellBytes_append, spellBytes_cons, spellBytes_cons .closeObject]
    simp only [List.append_assoc]
    rw [read?_token done _ (by simp),
      read?_memberTokens _ members hMembers (delimited_spell (by simp) _), read?_token _ _ (by simp)]
    simp [spellBytes]

theorem read?_itemTokens (done : List Token) : ∀ (items : List Json) {rest : List UInt8},
    NumbersSpelled (itemTokens items) → Delimited rest →
      Lexer.read? ⟨done, .between⟩ (spellBytes (itemTokens items) ++ rest) =
        Lexer.read? ⟨(itemTokens items).reverse ++ done, .between⟩ rest
  | [], rest, _, _ => rfl
  | [j], rest, hNumbers, hRest => read?_tokens done j hNumbers hRest
  | j :: k :: items, rest, hNumbers, hRest => by
    rw [itemTokens_cons_cons] at hNumbers ⊢
    obtain ⟨hFirst, hOthers⟩ := hNumbers.of_append
    rw [spellBytes_append, spellBytes_cons, List.append_assoc, List.append_assoc,
      read?_tokens done j hFirst (delimited_spell (by simp) _), read?_token _ _ (by simp),
      read?_itemTokens _ (k :: items) hOthers.of_cons hRest]
    simp

theorem read?_memberTokens (done : List Token) : ∀ (members : List Member) {rest : List UInt8},
    NumbersSpelled (memberTokens members) → Delimited rest →
      Lexer.read? ⟨done, .between⟩ (spellBytes (memberTokens members) ++ rest) =
        Lexer.read? ⟨(memberTokens members).reverse ++ done, .between⟩ rest
  | [], rest, _, _ => rfl
  | [(key, j)], rest, hNumbers, hRest => by
    rw [memberTokens] at hNumbers ⊢
    rw [spellBytes_cons, spellBytes_cons, List.append_assoc, List.append_assoc,
      read?_token done _ (by simp), read?_token _ _ (by simp),
      read?_tokens _ j hNumbers.of_cons.of_cons hRest]
    simp
  | (key, j) :: m :: members, rest, hNumbers, hRest => by
    rw [memberTokens_cons_cons] at hNumbers ⊢
    obtain ⟨hFirst, hOthers⟩ := hNumbers.of_append
    rw [spellBytes_append, spellBytes_cons, spellBytes_cons, spellBytes_cons]
    simp only [List.append_assoc]
    rw [read?_token done _ (by simp), read?_token _ _ (by simp),
      read?_tokens _ j hFirst.of_cons.of_cons (delimited_spell (by simp) _),
      read?_token _ _ (by simp), read?_memberTokens _ (m :: members) hOthers.of_cons hRest]
    simp

end

theorem tokens?_spellBytes {j : Json} (h : NumbersSpelled j.tokens) :
    tokens? (spellBytes j.tokens) = some j.tokens := by
  have hRead := read?_tokens [] j h delimited_nil
  rw [List.append_nil, List.append_nil] at hRead
  change Lexer.read? {} (spellBytes j.tokens) = _
  rw [hRead]
  simp [Lexer.read?, Lexer.run?, Lexer.finish?]

/-! ### Reading tokens -/

theorem run?_itemOrClose (around : List Context) (j : Json) (ts : List Token) :
    (Reader.itemOrClose around).run? (j.tokens ++ ts) =
      (Reader.value (.item [] :: around)).run? (j.tokens ++ ts) := by
  cases j <;> rfl

theorem run?_openItems (around : List Context) (j : Json) (items : List Json) (ts : List Token) :
    (Reader.value around).run? (.openArray :: (itemTokens (j :: items) ++ ts)) =
      (Reader.value (.item [] :: around)).run? (itemTokens (j :: items) ++ ts) := by
  cases items with
  | nil => exact run?_itemOrClose around j ts
  | cons k items =>
    rw [itemTokens_cons_cons, List.append_assoc]
    exact run?_itemOrClose around j _

theorem run?_openMembers (around : List Context) (key : Quoted) (j : Json) (members : List Member)
    (ts : List Token) :
    (Reader.value around).run? (.openObject :: (memberTokens ((key, j) :: members) ++ ts)) =
      (Reader.key [] around).run? (memberTokens ((key, j) :: members) ++ ts) := by
  cases members <;> rfl

mutual

/-- A reader that expects a value takes the tokens of one. -/
theorem run?_tokens : ∀ (j : Json) (around : List Context) (ts : List Token),
    (Reader.value around).run? (j.tokens ++ ts) = (Reader.after j around).run? ts
  | .null, _, _ => rfl
  | .bool _, _, _ => rfl
  | .number _, _, _ => rfl
  | .text _, _, _ => rfl
  | .array [], _, _ => rfl
  | .array (j :: items), around, ts => by
    rw [tokens, List.append_assoc]
    exact (run?_openItems around j items _).trans
      (run?_itemTokens (j :: items) around [] ts (List.cons_ne_nil j items))
  | .object [], _, _ => rfl
  | .object ((key, j) :: members), around, ts => by
    rw [tokens, List.append_assoc]
    exact (run?_openMembers around key j members _).trans
      (run?_memberTokens ((key, j) :: members) around [] ts (List.cons_ne_nil _ members))

theorem run?_itemTokens : ∀ (items : List Json) (around : List Context) (before : List Json)
    (ts : List Token), items ≠ [] →
      (Reader.value (.item before :: around)).run? (itemTokens items ++ .closeArray :: ts) =
        (Reader.after (.array (before.reverse ++ items)) around).run? ts
  | [j], around, before, ts, _ => by
    rw [itemTokens, run?_tokens j]
    simp [Reader.run?, Reader.step?]
  | j :: k :: items, around, before, ts, _ => by
    have hItems := run?_itemTokens (k :: items) around (j :: before) ts (List.cons_ne_nil k items)
    rw [List.reverse_cons, List.append_assoc, List.singleton_append] at hItems
    rw [itemTokens_cons_cons, List.append_assoc, run?_tokens j]
    exact hItems

theorem run?_memberTokens : ∀ (members : List Member) (around : List Context)
    (before : List Member) (ts : List Token), members ≠ [] →
      (Reader.key before around).run? (memberTokens members ++ .closeObject :: ts) =
        (Reader.after (.object (before.reverse ++ members)) around).run? ts
  | [(key, j)], around, before, ts, _ => by
    have hValue := run?_tokens j (.member before key :: around) (.closeObject :: ts)
    rw [memberTokens]
    simp only [List.cons_append, Reader.run?, Reader.step?]
    rw [hValue]
    simp [Reader.run?, Reader.step?]
  | (key, j) :: m :: members, around, before, ts, _ => by
    have hValue := run?_tokens j (.member before key :: around)
      (.comma :: memberTokens (m :: members) ++ .closeObject :: ts)
    have hMembers := run?_memberTokens (m :: members) around ((key, j) :: before) ts
      (List.cons_ne_nil m members)
    rw [List.reverse_cons, List.append_assoc, List.singleton_append] at hMembers
    rw [memberTokens_cons_cons]
    simp only [List.cons_append, List.append_assoc, Reader.run?, Reader.step?] at hValue ⊢
    rw [hValue]
    exact hMembers

end

theorem ofTokens?_tokens (j : Json) : ofTokens? j.tokens = some j := by
  have hRun := run?_tokens j [] []
  rw [List.append_nil] at hRun
  rw [ofTokens?, hRun]
  rfl

/-- A value reads back from its text, if its numbers are spelled as numbers. -/
theorem parse?_render {j : Json} (h : NumbersSpelled j.tokens) :
    parse? (Text.Utf8.bytes j.render) = some j := by
  have hBytes : Text.Utf8.bytes j.render = spellBytes j.tokens := by
    rw [render, Text.Utf8.bytes_ofList, spellBytes, List.flatMap_assoc]
  rw [hBytes, parse?, tokens?_spellBytes h]
  exact ofTokens?_tokens j

end ChatRelay.Json
