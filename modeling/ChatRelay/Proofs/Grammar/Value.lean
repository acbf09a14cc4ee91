import ChatRelay.Proofs.Grammar.Tokens

/-! The grammar of JSON texts.  Bytes are a text of a value if they lay out its tokens: `IsTextOf`.  A reader
keeps all that it has taken on its stack, `Reader.taken`, so that a value is read from its own tokens only,
`eq_tokens_of_ofTokens?`.  Hence bytes are a text of a value just if it is parsed from them and all of its
texts are Unicode: `isTextOf_iff`. -/

namespace ChatRelay.Json

/-- The bytes are a text of the value: they lay out its tokens. -/
def IsTextOf (raw : List UInt8) (j : Json) : Prop := Laid raw j.tokens

/-! ### What a reader has taken -/

/-- The tokens of items with a comma after each. -/
def itemsTaken (before : List Json) : List Token :=
  before.reverse.flatMap fun j => j.tokens ++ [.comma]

/-- The tokens of members with a comma after each. -/
def membersTaken (before : List Member) : List Token :=
  before.reverse.flatMap fun m => .text m.1 :: .colon :: (m.2.tokens ++ [.comma])

def Context.taken : Context → List Token
  | item before => .openArray :: itemsTaken before
  | member before key => .openObject :: (membersTaken before ++ [.text key, .colon])

def takenAround (around : List Context) : List Token := around.reverse.flatMap Context.taken

/-- The tokens that took a reader from its start to where it is. -/
def Reader.taken : Reader → List Token
  | .value around => takenAround around
  | .itemOrClose around => takenAround around ++ [.openArray]
  | .keyOrClose around => takenAround around ++ [.openObject]
  | .key before around => takenAround around ++ .openObject :: membersTaken before
  | .colon before k around => takenAround around ++ .openObject :: (membersTaken before ++ [.text k])
  | .after j around => takenAround around ++ j.tokens

@[simp] theorem takenAround_nil : takenAround [] = [] := rfl

@[simp] theorem takenAround_cons (c : Context) (around : List Context) :
    takenAround (c :: around) = takenAround around ++ c.taken := by
  simp [takenAround]

@[simp] theorem itemsTaken_nil : itemsTaken [] = [] := rfl

@[simp] theorem itemsTaken_cons (j : Json) (before : List Json) :
    itemsTaken (j :: before) = itemsTaken before ++ (j.tokens ++ [.comma]) := by
  simp [itemsTaken]

@[simp] theorem membersTaken_nil : membersTaken [] = [] := rfl

@[simp] theorem membersTaken_cons (m : Member) (before : List Member) :
    membersTaken (m :: before) =
      membersTaken before ++ .text m.1 :: .colon :: (m.2.tokens ++ [.comma]) := by
  simp [membersTaken]

/-- The last item stands without a comma. -/
theorem itemTokens_reverse (before : List Json) (j : Json) :
    itemTokens (before.reverse ++ [j]) = itemsTaken before ++ j.tokens := by
  have hAppend : ∀ items, itemTokens (items ++ [j]) =
      (items.flatMap fun j => j.tokens ++ [.comma]) ++ j.tokens := by
    intro items
    induction items with
    | nil => rfl
    | cons k items ih =>
      obtain ⟨l, more, hMore⟩ := List.exists_cons_of_ne_nil (List.append_ne_nil_of_right_ne_nil items
        (List.cons_ne_nil j []))
      rw [List.cons_append, hMore, itemTokens_cons_cons, ← hMore, ih]
      simp
  exact hAppend before.reverse

theorem memberTokens_reverse (before : List Member) (key : Quoted) (j : Json) :
    memberTokens (before.reverse ++ [(key, j)]) =
      membersTaken before ++ .text key :: .colon :: j.tokens := by
  have hAppend : ∀ members, memberTokens (members ++ [(key, j)]) =
      (members.flatMap fun m : Member => .text m.1 :: .colon :: (m.2.tokens ++ [.comma])) ++
        .text key :: .colon :: j.tokens := by
    intro members
    induction members with
    | nil => rfl
    | cons m members ih =>
      obtain ⟨l, more, hMore⟩ := List.exists_cons_of_ne_nil
        (List.append_ne_nil_of_right_ne_nil members (List.cons_ne_nil (key, j) []))
      rw [List.cons_append, hMore, memberTokens_cons_cons, ← hMore, ih]
      simp
  exact hAppend before.reverse

namespace Reader

theorem taken_begin? {around : List Context} {t : Token} {r : Reader}
    (h : begin? around t = some r) : r.taken = takenAround around ++ [t] := by
  cases t with
  | closeArray | closeObject | comma | colon => simp [begin?] at h
  | _ =>
    obtain rfl := Option.some.inj h
    simp [taken, tokens]

/-- A step takes its token. -/
theorem taken_step? {r r' : Reader} {t : Token} (h : r.step? t = some r') :
    r'.taken = r.taken ++ [t] := by
  unfold step? at h
  split at h
  case h_1 => exact taken_begin? h
  case h_3 => simpa [taken, Context.taken] using taken_begin? h
  case h_12 => simp at h
  all_goals
    obtain rfl := Option.some.inj h
    simp [taken, Context.taken, tokens, itemTokens, memberTokens, itemTokens_reverse,
      memberTokens_reverse]

theorem taken_run? {r r' : Reader} {ts : List Token} (h : r.run? ts = some r') :
    r'.taken = r.taken ++ ts := by
  induction ts generalizing r with
  | nil =>
    obtain rfl := Option.some.inj h
    rw [List.append_nil]
  | cons t ts ih =>
    rw [run?] at h
    split at h
    · rename_i r₁ hStep
      rw [ih h, taken_step? hStep, List.append_assoc, List.singleton_append]
    · simp at h

/-! ### Numbers among the tokens -/

theorem step?_number {r r' : Reader} {literal : List Char} (h : r.step? (.number literal) = some r') :
    ∃ around, r' = .after (.number literal) around := by
  cases r with
  | value around => exact ⟨around, (Option.some.inj h).symm⟩
  | itemOrClose around => exact ⟨.item [] :: around, (Option.some.inj h).symm⟩
  | keyOrClose | key | colon => simp [step?] at h
  | after j around => rcases around with _ | ⟨_ | _, _⟩ <;> simp [step?] at h

/-- Behind a value no number follows. -/
theorem not_step?_number (j : Json) (around : List Context) (literal : List Char) :
    (Reader.after j around).step? (.number literal) = none := by
  match around with
  | [] | .item _ :: _ | .member _ _ :: _ => rfl

/-- Between two numbers a reader takes another token. -/
theorem apart_of_run? {r r' : Reader} {ts : List Token} (h : r.run? ts = some r') : Apart ts := by
  induction ts generalizing r with
  | nil => exact .nil
  | cons t ts ih =>
    rw [run?] at h
    split at h
    · rename_i r₁ hStep
      refine List.isChain_cons.2 ⟨?_, ih h⟩
      rintro u hu m n ⟨rfl, rfl⟩
      obtain ⟨around, rfl⟩ := step?_number hStep
      obtain ⟨us, rfl⟩ := List.head?_eq_some_iff.1 hu
      rw [run?, not_step?_number] at h
      simp at h
    · simp at h

end Reader

/-! ### Texts of values -/

theorem apart_tokens (j : Json) : Apart j.tokens := by
  have hRead := run?_tokens j [] []
  rw [List.append_nil] at hRead
  exact Reader.apart_of_run? hRead

theorem eq_tokens_of_ofTokens? {ts : List Token} {j : Json} (h : ofTokens? ts = some j) :
    ts = j.tokens := by
  rw [ofTokens?] at h
  split at h
  · rename_i r hRun
    have hTaken := Reader.taken_run? hRun
    unfold Reader.finish? at h
    split at h
    · obtain rfl := Option.some.inj h
      simpa [Reader.taken] using hTaken.symm
    · simp at h
  · simp at h

theorem isTextOf_iff {raw : List UInt8} {j : Json} :
    IsTextOf raw j ↔ parse? raw = some j ∧ AllUnicode j.tokens := by
  constructor
  · intro hText
    refine ⟨?_, hText.allUnicode⟩
    rw [parse?, tokens?_of_laid hText (apart_tokens j)]
    exact ofTokens?_tokens j
  · rintro ⟨hParse, hUnicode⟩
    rw [parse?] at hParse
    split at hParse
    · rename_i ts hTokens
      obtain rfl := eq_tokens_of_ofTokens? hParse
      exact laid_of_tokens? hTokens hUnicode
    · simp at hParse

theorem IsTextOf.parse? {raw : List UInt8} {j : Json} (h : IsTextOf raw j) : parse? raw = some j :=
  (isTextOf_iff.1 h).1

end ChatRelay.Json
