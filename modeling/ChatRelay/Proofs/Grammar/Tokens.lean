import ChatRelay.Proofs.Grammar.Number
import ChatRelay.Proofs.Grammar.Text
import Mathlib.Data.List.Chain

/-! How tokens are laid out in bytes: each as it is spelled, with white space anywhere before, between and
after them.  A text may be spelled in several ways, since its characters may be escaped or not.  The
scanner reads tokens back from every layout of them, `tokens?_of_laid`, and the bytes that it reads are a
layout of their tokens, `laid_of_tokens?`. -/

namespace ChatRelay.Json

/-! ### Layouts -/

def IsSpace (b : UInt8) : Prop := b = 0x20 ∨ b = 0x09 ∨ b = 0x0A ∨ b = 0x0D

/-- The tokens that have only one spelling: punctuation and words. -/
def fixedTokens : List Token :=
  [.openArray, .closeArray, .openObject, .closeObject, .comma, .colon, .null, .bool true, .bool false]

/-- Bytes that spell a token. -/
inductive Spelled : List UInt8 → Token → Prop
  | fixed {t : Token} (hFixed : t ∈ fixedTokens) :
      Spelled (t.spell.flatMap String.utf8EncodeChar) t
  | number {literal : List Char} (hNumeral : IsNumeral literal) :
      Spelled (literal.flatMap String.utf8EncodeChar) (.number literal)
  | text {body : List UInt8} {s : String} (hBody : Unescapes body (Text.Utf8.bytes s)) :
      Spelled (0x22 :: (body ++ [0x22])) (.text (.unicode s))

/-- Bytes that spell tokens in turn, with white space anywhere between them. -/
inductive Laid : List UInt8 → List Token → Prop
  | nil : Laid [] []
  | space {b : UInt8} {raw : List UInt8} {ts : List Token} (hSpace : IsSpace b) (hRest : Laid raw ts) :
      Laid (b :: raw) ts
  | token {bytes raw : List UInt8} {t : Token} {ts : List Token} (hToken : Spelled bytes t)
      (hRest : Laid raw ts) : Laid (bytes ++ raw) (t :: ts)

/-- Texts of Unicode only. -/
def AllUnicode (ts : List Token) : Prop := ∀ q, Token.text q ∈ ts → ∃ s, q = .unicode s

theorem Laid.allUnicode {raw : List UInt8} {ts : List Token} (h : Laid raw ts) : AllUnicode ts := by
  induction h with
  | nil =>
    intro q hq
    simp at hq
  | space hSpace hRest ih => exact ih
  | token hToken hRest ih =>
    intro q hq
    rcases List.mem_cons.1 hq with rfl | hq
    · cases hToken with
      | fixed hFixed => simp [fixedTokens] at hFixed
      | @text body s hBody => exact ⟨s, rfl⟩
    · exact ih q hq

theorem Laid.numbersSpelled {raw : List UInt8} {ts : List Token} (h : Laid raw ts) :
    NumbersSpelled ts := by
  induction h with
  | nil =>
    intro literal hl
    simp at hl
  | space hSpace hRest ih => exact ih
  | token hToken hRest ih =>
    intro literal hl
    rcases List.mem_cons.1 hl with rfl | hl
    · cases hToken with
      | fixed hFixed => simp [fixedTokens] at hFixed
      | number hNumeral => exact (isNumber_iff_isNumeral literal).2 hNumeral
    · exact ih literal hl

/-! ### Tokens read from a layout -/

/-- No number directly after a number: their digits would run together. -/
def Apart (ts : List Token) : Prop :=
  ts.IsChain fun t u => ∀ m n, ¬ (t = .number m ∧ u = .number n)

theorem delimited_cons {b : UInt8} {rest : List UInt8} (hDigit : ¬ (Char.ofNat b.toNat).isDigit)
    (hMark : Char.ofNat b.toNat ∉ ['.', 'e', 'E', '+', '-']) : Delimited (b :: rest) := by
  intro c hc p
  obtain rfl : b = c := by simpa using hc
  by_contra hNext
  obtain ⟨q, hq⟩ := Option.ne_none_iff_exists'.1 hNext
  rcases NumberPhase.mem_of_next? hq with h | h
  · exact hDigit h
  · exact hMark h

theorem Laid.delimited {raw : List UInt8} {ts : List Token} (h : Laid raw ts)
    (hHead : ∀ t ∈ ts.head?, ∀ literal, t ≠ .number literal) : Delimited raw := by
  cases h with
  | nil => exact delimited_nil
  | space hSpace hRest =>
    rcases hSpace with rfl | rfl | rfl | rfl <;> exact delimited_cons (by decide) (by decide)
  | token hToken hRest =>
    cases hToken with
    | fixed hFixed =>
      simp only [fixedTokens, List.mem_cons, List.not_mem_nil, or_false] at hFixed
      rcases hFixed with rfl | rfl | rfl | rfl | rfl | rfl | rfl | rfl | rfl <;>
        exact delimited_cons (by decide) (by decide)
    | number hNumeral => exact absurd rfl (hHead _ rfl _)
    | text hBody => exact delimited_cons (by decide) (by decide)

theorem run?_scanned (done : List Token) {t u : TextScan} {body : List UInt8} (rest : List UInt8)
    (h : t.run? body = some u) :
    Lexer.run? ⟨done, .text t⟩ (body ++ rest) = Lexer.run? ⟨done, .text u⟩ rest := by
  induction body generalizing t with
  | nil =>
    obtain rfl : t = u := Option.some.inj h
    rfl
  | cons b body ih =>
    rw [TextScan.run?] at h
    split at h
    · simp at h
    · rename_i hQuote
      split at h
      · rename_i t' hStep
        have hLexer : Lexer.step? ⟨done, .text t⟩ b = some ⟨done, .text t'⟩ := by
          simp only [Lexer.step?]
          rw [if_neg hQuote, hStep]
          rfl
        rw [List.cons_append, Lexer.run?, hLexer]
        exact ih h
      · simp at h

theorem read?_spelled (done : List Token) {bytes rest : List UInt8} {t : Token} (h : Spelled bytes t)
    (hRest : ∀ literal, t = .number literal → Delimited rest) :
    Lexer.read? ⟨done, .between⟩ (bytes ++ rest) = Lexer.read? ⟨t :: done, .between⟩ rest := by
  cases h with
  | fixed hFixed =>
    refine read?_token done rest ?_
    rintro literal rfl
    simp [fixedTokens] at hFixed
  | @number literal hNumeral =>
    exact read?_number done (hRest literal rfl) ((isNumber_iff_isNumeral literal).2 hNumeral)
  | @text body s hBody =>
    obtain ⟨u, ⟨hRun, hOutside⟩, hFinish⟩ := TextScan.scans_iff_unescapes.2 hBody
    have hClose : Lexer.step? ⟨done, .text u⟩ 0x22 = some ⟨.text (.unicode s) :: done, .between⟩ := by
      simp [Lexer.step?, hOutside, hFinish]
    have hOpen : Lexer.step? ⟨done, .between⟩ 0x22 = some ⟨done, .text {}⟩ := rfl
    refine read?_congr ?_
    rw [List.cons_append, List.append_assoc, Lexer.run?, hOpen]
    simp only
    rw [run?_scanned done _ hRun, List.singleton_append, Lexer.run?, hClose]

theorem read?_laid {raw : List UInt8} {ts : List Token} (h : Laid raw ts) (hApart : Apart ts)
    (done : List Token) : Lexer.read? ⟨done, .between⟩ raw = some (done.reverse ++ ts) := by
  induction h generalizing done with
  | nil => simp [Lexer.read?, Lexer.run?, Lexer.finish?]
  | @space b raw ts hSpace hRest ih =>
    have hStep : Lexer.step? ⟨done, .between⟩ b = some ⟨done, .between⟩ := by
      rcases hSpace with rfl | rfl | rfl | rfl <;> rfl
    rw [← ih hApart done, Lexer.read?, Lexer.run?, hStep]
    rfl
  | @token bytes raw t ts hToken hRest ih =>
    obtain ⟨hNext, hApart⟩ := List.isChain_cons.1 hApart
    have hDelimited : ∀ literal, t = .number literal → Delimited raw := fun literal ht =>
      hRest.delimited fun u hu m hm => hNext u hu literal m ⟨ht, hm⟩
    rw [read?_spelled done hToken hDelimited, ih hApart, List.reverse_cons, List.append_assoc,
      List.singleton_append]

theorem tokens?_of_laid {raw : List UInt8} {ts : List Token} (h : Laid raw ts) (hApart : Apart ts) :
    tokens? raw = some ts :=
  read?_laid h hApart []

/-! ### Bytes that a token is read from -/

theorem byte_of_char {b : UInt8} {c : Char} (h : Char.ofNat b.toNat = c) : b = UInt8.ofNat c.toNat := by
  have hLow := b.toNat_lt
  have hValid : Nat.isValidChar b.toNat := .inl (by omega)
  have hSame : (Char.ofNat b.toNat).toNat = b.toNat := by
    rw [Char.ofNat, dif_pos hValid]
    rfl
  rw [← h, hSame, UInt8.ofNat_toNat]

theorem utf8EncodeChar_of_next? {p q : NumberPhase} {b : UInt8}
    (h : p.next? (Char.ofNat b.toNat) = some q) :
    String.utf8EncodeChar (Char.ofNat b.toNat) = [b] := by
  obtain ⟨b', hBytes, hChar⟩ := NumberPhase.utf8EncodeChar_of_next? h
  rw [hBytes, byte_of_char hChar, ← byte_of_char (b := b) rfl]

theorem read?_cons {l : Lexer} {b : UInt8} {raw : List UInt8} {ts : List Token}
    (h : l.read? (b :: raw) = some ts) : ∃ l', l.step? b = some l' ∧ l'.read? raw = some ts := by
  rw [Lexer.read?, Lexer.run?] at h
  cases hStep : l.step? b with
  | none => simp [hStep] at h
  | some l' =>
    rw [hStep] at h
    exact ⟨l', rfl, h⟩

section

variable {done : List Token} {raw : List UInt8} {ts : List Token}

/-- A word that is begun is read to its end. -/
theorem read?_word {rest : List UInt8} {t : Token}
    (h : Lexer.read? ⟨done, .word rest t⟩ raw = some ts) (hRest : rest ≠ []) :
    ∃ raw', raw = rest ++ raw' ∧ Lexer.read? ⟨t :: done, .between⟩ raw' = some ts := by
  induction rest generalizing raw with
  | nil => exact absurd rfl hRest
  | cons c rest ih =>
    cases raw with
    | nil => simp [Lexer.read?, Lexer.run?, Lexer.finish?] at h
    | cons b raw =>
      obtain ⟨l, hStep, hRead⟩ := read?_cons h
      cases rest with
      | nil =>
        obtain ⟨rfl, rfl⟩ : b = c ∧ _ = l := by simpa [Lexer.step?] using hStep
        exact ⟨raw, rfl, hRead⟩
      | cons d rest =>
        obtain ⟨rfl, rfl⟩ : b = c ∧ _ = l := by simpa [Lexer.step?] using hStep
        obtain ⟨raw', rfl, hAfter⟩ := ih hRead (List.cons_ne_nil d rest)
        exact ⟨raw', rfl, hAfter⟩

/-- A number that is begun is read to where it is complete. -/
theorem read?_literal {literal : List Char} {p : NumberPhase}
    (h : Lexer.read? ⟨done, .number literal p⟩ raw = some ts) :
    ∃ cs q raw', raw = cs.flatMap String.utf8EncodeChar ++ raw' ∧ p.run? cs = some q ∧ q.complete ∧
      Lexer.read? ⟨.number (literal.reverse ++ cs) :: done, .between⟩ raw' = some ts := by
  have hStop : ∀ raw, p.complete →
      Lexer.read? ⟨.number literal.reverse :: done, .between⟩ raw = some ts →
      ∃ cs q raw', raw = cs.flatMap String.utf8EncodeChar ++ raw' ∧ p.run? cs = some q ∧ q.complete ∧
        Lexer.read? ⟨.number (literal.reverse ++ cs) :: done, .between⟩ raw' = some ts :=
    fun raw hp hRead => ⟨[], p, raw, rfl, rfl, hp, by rwa [List.append_nil]⟩
  induction raw generalizing literal p with
  | nil =>
    by_cases hp : p.complete
    · refine hStop [] hp ?_
      simpa [Lexer.read?, Lexer.run?, Lexer.finish?, hp] using h
    · simp [Lexer.read?, Lexer.run?, Lexer.finish?, hp] at h
  | cons b raw ih =>
    obtain ⟨l, hStep, hRead⟩ := read?_cons h
    simp only [Lexer.step?] at hStep
    split at hStep
    · rename_i q hNext
      obtain rfl := Option.some.inj hStep
      obtain ⟨cs, q', raw', rfl, hRun, hComplete, hRead⟩ := ih hRead fun raw hp hRead =>
        ⟨[], q, raw, rfl, rfl, hp, by rwa [List.append_nil]⟩
      refine ⟨Char.ofNat b.toNat :: cs, q', raw', ?_, ?_, hComplete, ?_⟩
      · rw [List.flatMap_cons, utf8EncodeChar_of_next? hNext]
        rfl
      · rw [NumberPhase.run?, hNext]
        exact hRun
      · simpa using hRead
    · split at hStep
      · rename_i hp
        refine hStop (b :: raw) hp ?_
        rw [Lexer.read?, Lexer.run?]
        simp only [Lexer.step?, hStep]
        exact hRead
      · simp at hStep

/-- A text that is begun is read to its closing quote. -/
theorem read?_quoted {t : TextScan} (h : Lexer.read? ⟨done, .text t⟩ raw = some ts) :
    ∃ body u raw', raw = body ++ 0x22 :: raw' ∧ t.Scans body u ∧
      Lexer.read? ⟨.text u.finish :: done, .between⟩ raw' = some ts := by
  induction raw generalizing t with
  | nil => simp [Lexer.read?, Lexer.run?, Lexer.finish?] at h
  | cons b raw ih =>
    obtain ⟨l, hStep, hRead⟩ := read?_cons h
    simp only [Lexer.step?] at hStep
    split at hStep
    · rename_i hQuote
      obtain rfl := Option.some.inj hStep
      obtain ⟨hOutside, rfl⟩ := hQuote
      exact ⟨[], t, raw, rfl, TextScan.scans_nil.2 ⟨rfl, hOutside⟩, hRead⟩
    · rename_i hQuote
      obtain ⟨t', hScan, rfl⟩ := Option.map_eq_some_iff.1 hStep
      obtain ⟨body, u, raw', rfl, hMore, hRead⟩ := ih hRead
      exact ⟨b :: body, u, raw', rfl, TextScan.scans_cons.2 ⟨hQuote, t', hScan, hMore⟩, hRead⟩

/-- What a byte between two tokens begins. -/
inductive Begins (done : List Token) (b : UInt8) : Lexer → Prop
  | space (hSpace : IsSpace b) : Begins done b ⟨done, .between⟩
  | mark {t : Token} (hFixed : t ∈ fixedTokens) (hSpell : t.spell.flatMap String.utf8EncodeChar = [b]) :
      Begins done b ⟨t :: done, .between⟩
  | word {rest : List UInt8} {t : Token} (hFixed : t ∈ fixedTokens) (hRest : rest ≠ [])
      (hSpell : t.spell.flatMap String.utf8EncodeChar = b :: rest) :
      Begins done b ⟨done, .word rest t⟩
  | quote (hQuote : b = 0x22) : Begins done b ⟨done, .text {}⟩
  | minus (hMinus : b = 0x2D) : Begins done b ⟨done, .number ['-'] .sign⟩
  | digit {p : NumberPhase} (hNext : NumberPhase.sign.next? (Char.ofNat b.toNat) = some p) :
      Begins done b ⟨done, .number [Char.ofNat b.toNat] p⟩

theorem begins_of_start? {b : UInt8} {l : Lexer} (h : Lexer.start? done b = some l) :
    Begins done b l := by
  unfold Lexer.start? at h
  split at h
  all_goals rename_i hChar
  case h_1 | h_2 | h_3 | h_4 =>
    obtain rfl := Option.some.inj h
    obtain rfl := byte_of_char hChar
    exact .space (by simp [IsSpace])
  case h_5 | h_6 | h_7 | h_8 | h_9 | h_10 =>
    obtain rfl := Option.some.inj h
    obtain rfl := byte_of_char hChar
    exact .mark (by simp [fixedTokens]) rfl
  case h_11 =>
    obtain rfl := Option.some.inj h
    exact .quote (byte_of_char hChar)
  case h_12 | h_13 | h_14 =>
    obtain rfl := Option.some.inj h
    obtain rfl := byte_of_char hChar
    exact .word (by simp [fixedTokens]) (by simp) rfl
  case h_15 =>
    obtain rfl := Option.some.inj h
    exact .minus (byte_of_char hChar)
  case h_16 =>
    obtain ⟨p, hNext, rfl⟩ := Option.map_eq_some_iff.1 h
    exact .digit hNext

/-- The tokens read behind those in `done` are laid out in the bytes. -/
theorem laid_of_read? (h : Lexer.read? ⟨done, .between⟩ raw = some ts) (hUnicode : AllUnicode ts) :
    ∃ more, ts = done.reverse ++ more ∧ Laid raw more := by
  induction hLength : raw.length using Nat.strong_induction_on generalizing done raw with
  | _ n ih =>
  subst hLength
  -- what follows a token is laid out, so the token with it is
  have hToken : ∀ (bytes : List UInt8) {raw' : List UInt8} {t : Token}, raw = bytes ++ raw' → bytes ≠ [] →
      (t ∈ ts → Spelled bytes t) → Lexer.read? ⟨t :: done, .between⟩ raw' = some ts →
      ∃ more, ts = done.reverse ++ more ∧ Laid raw more := by
    rintro bytes raw' t rfl hSome hSpelled hRead
    have hShort : raw'.length < (bytes ++ raw').length := by
      have := List.length_pos_iff.2 hSome
      rw [List.length_append]
      omega
    obtain ⟨more, hMore, hLaid⟩ := ih raw'.length hShort hRead rfl
    rw [List.reverse_cons, List.append_assoc, List.singleton_append] at hMore
    exact ⟨t :: more, hMore, .token (hSpelled (by simp [hMore])) hLaid⟩
  cases raw with
  | nil =>
    obtain rfl : done.reverse = ts := by simpa [Lexer.read?, Lexer.run?, Lexer.finish?] using h
    exact ⟨[], (List.append_nil _).symm, .nil⟩
  | cons b raw =>
    obtain ⟨l, hStep, hRead⟩ := read?_cons h
    cases begins_of_start? hStep with
    | space hSpace =>
      obtain ⟨more, hMore, hLaid⟩ := ih raw.length (by simp) hRead rfl
      exact ⟨more, hMore, .space hSpace hLaid⟩
    | mark hFixed hSpell =>
      exact hToken [b] rfl (by simp) (fun _ => hSpell ▸ .fixed hFixed) hRead
    | @word rest t hFixed hRest hSpell =>
      obtain ⟨raw', rfl, hAfter⟩ := read?_word hRead hRest
      exact hToken (b :: rest) rfl (by simp) (fun _ => hSpell ▸ .fixed hFixed) hAfter
    | quote hQuote =>
      subst hQuote
      obtain ⟨body, u, raw', rfl, hScans, hAfter⟩ := read?_quoted hRead
      refine hToken (0x22 :: (body ++ [0x22])) (by simp) (by simp) (fun hMem => ?_) hAfter
      obtain ⟨s, hs⟩ := hUnicode _ hMem
      rw [hs]
      exact .text (TextScan.scans_iff_unescapes.1 ⟨u, hScans, hs⟩)
    | minus hMinus =>
      subst hMinus
      obtain ⟨cs, q, raw', rfl, hRun, hComplete, hAfter⟩ := read?_literal hRead
      have hNumeral : IsNumeral ('-' :: cs) :=
        .inr ⟨cs, (NumberPhase.language_iff_run? .sign cs).2 ⟨q, hRun, hComplete⟩, rfl⟩
      exact hToken (('-' :: cs).flatMap String.utf8EncodeChar) rfl (by simp)
        (fun _ => .number hNumeral) hAfter
    | @digit p hNext =>
      obtain ⟨cs, q, raw', rfl, hRun, hComplete, hAfter⟩ := read?_literal hRead
      have hRunAll : NumberPhase.sign.run? (Char.ofNat b.toNat :: cs) = some q := by
        rw [NumberPhase.run?, hNext]
        exact hRun
      have hNumeral : IsNumeral (Char.ofNat b.toNat :: cs) :=
        .inl ((NumberPhase.language_iff_run? .sign _).2 ⟨q, hRunAll, hComplete⟩)
      have hBytes : (Char.ofNat b.toNat :: cs).flatMap String.utf8EncodeChar =
          b :: cs.flatMap String.utf8EncodeChar := by
        rw [List.flatMap_cons, utf8EncodeChar_of_next? hNext]
        rfl
      exact hToken (b :: cs.flatMap String.utf8EncodeChar) rfl (by simp)
        (fun _ => hBytes ▸ .number hNumeral) hAfter

end

theorem laid_of_tokens? {raw : List UInt8} {ts : List Token} (h : tokens? raw = some ts)
    (hUnicode : AllUnicode ts) : Laid raw ts := by
  obtain ⟨more, rfl, hLaid⟩ := laid_of_read? h hUnicode
  exact hLaid

end ChatRelay.Json
