import ChatRelay.Text.Blank
import Mathlib.Data.List.Forall2
import Mathlib.Data.List.TakeWhile

/-! Texts with white space around them, and words in any case.  Every text has white space around what `trim`
leaves of it, and a body without white space is what is left of every text that has it inside white space.  A
text is a word in lower case just if each of its letters is the word's, in lower or in upper case:
`map_toLower_eq_iff`. -/

namespace ChatRelay.Text

/-! ### White space around a text -/

/-- `cs` is `body` with white space around it, or none. -/
def IsPadded (cs body : List Char) : Prop :=
  ∃ before after, AllBlank before ∧ AllBlank after ∧ cs = before ++ body ++ after

theorem allBlank_takeWhile (cs : List Char) : AllBlank (cs.takeWhile isBlank) :=
  fun _ hc => List.mem_takeWhile_imp hc

theorem isPadded_trim (cs : List Char) : IsPadded cs (trim cs) := by
  let rest := cs.dropWhile isBlank
  refine ⟨cs.takeWhile isBlank, (rest.reverse.takeWhile isBlank).reverse, allBlank_takeWhile cs, ?_, ?_⟩
  · exact fun c hc => allBlank_takeWhile rest.reverse c (List.mem_reverse.1 hc)
  · rw [trim, List.append_assoc, ← List.reverse_append, List.takeWhile_append_dropWhile,
      List.reverse_reverse, List.takeWhile_append_dropWhile]

theorem dropWhile_isBlank {cs : List Char} (h : ∀ c ∈ cs, isBlank c = false) :
    cs.dropWhile isBlank = cs := by
  cases cs with
  | nil => rfl
  | cons c cs => simp [h c List.mem_cons_self]

theorem trim_of_isPadded {cs body : List Char} (hBody : ∀ c ∈ body, isBlank c = false)
    (h : IsPadded cs body) : trim cs = body := by
  obtain ⟨before, after, hBefore, hAfter, rfl⟩ := h
  have hEnd : (body ++ after).dropWhile isBlank = body ++ after ∨ body = [] := by
    cases body with
    | nil => exact .inr rfl
    | cons c cs => exact .inl (by simp [hBody c List.mem_cons_self])
  have hReverse : ∀ c ∈ after.reverse, isBlank c = true := fun c hc => hAfter c (List.mem_reverse.1 hc)
  rw [trim, List.append_assoc, List.dropWhile_append_of_pos hBefore]
  rcases hEnd with hEnd | rfl
  · rw [hEnd, List.reverse_append, List.dropWhile_append_of_pos hReverse,
      dropWhile_isBlank fun c hc => hBody c (List.mem_reverse.1 hc), List.reverse_reverse]
  · rw [List.nil_append, List.dropWhile_eq_nil_iff.2 hAfter]
    rfl

/-! ### Words in any case -/

/-- `cs` is the word, of which any letters may be in upper case. -/
def IsCased (word : String) (cs : List Char) : Prop :=
  List.Forall₂ (fun d c => c = d ∨ c = d.toUpper) word.toList cs

theorem IsCased.exists_of_mem {word : String} {cs : List Char} (h : IsCased word cs) {c : Char}
    (hc : c ∈ cs) : ∃ d ∈ word.toList, c = d ∨ c = d.toUpper := by
  unfold IsCased at h
  generalize word.toList = ds at h
  induction h with
  | nil => simp at hc
  | cons hHead hTail ih =>
    rcases List.mem_cons.1 hc with rfl | hc
    · exact ⟨_, List.mem_cons_self, hHead⟩
    · obtain ⟨d, hd, hCased⟩ := ih hc
      exact ⟨d, List.mem_cons_of_mem _ hd, hCased⟩

theorem toNat_toLower (c : Char) :
    c.toLower.toNat = if 65 ≤ c.toNat ∧ c.toNat ≤ 90 then c.toNat + 32 else c.toNat := by
  unfold Char.toLower
  split
  · rename_i h
    have hUpper : 65 ≤ c.toNat ∧ c.toNat ≤ 90 := h
    have hSum : (c.val + ('a'.val - 'A'.val)).toNat = c.toNat + 32 := by
      rw [UInt32.toNat_add]
      change (c.toNat + 32) % 2 ^ 32 = c.toNat + 32
      omega
    rw [if_pos hUpper]
    exact hSum
  · rename_i h
    exact (if_neg h).symm

theorem toNat_toUpper (c : Char) :
    c.toUpper.toNat = if 97 ≤ c.toNat ∧ c.toNat ≤ 122 then c.toNat - 32 else c.toNat := by
  unfold Char.toUpper
  split
  · rename_i h
    have hLower : 97 ≤ c.toNat ∧ c.toNat ≤ 122 := h
    have hDifference : (c.val + ('A'.val - 'a'.val)).toNat = c.toNat - 32 := by
      rw [UInt32.toNat_add]
      change (c.toNat + 4294967264) % 2 ^ 32 = c.toNat - 32
      omega
    rw [if_pos hLower]
    exact hDifference
  · rename_i h
    exact (if_neg h).symm

theorem toLower_eq_iff {c d : Char} (hd : d.toLower = d) :
    c.toLower = d ↔ c = d ∨ c = d.toUpper := by
  simp only [← Char.toNat_inj, toNat_toLower, toNat_toUpper] at hd ⊢
  split at hd
  · omega
  · split <;> split <;> omega

/-- In lower case a text is a word in lower case just if it is that word in any case. -/
theorem map_toLower_eq_iff {word : String} (hWord : ∀ d ∈ word.toList, d.toLower = d)
    {cs : List Char} : String.ofList (cs.map Char.toLower) = word ↔ IsCased word cs := by
  rw [← String.toList_inj, String.toList_ofList, IsCased]
  generalize word.toList = ds at hWord
  induction ds generalizing cs with
  | nil => simp
  | cons d ds ih =>
    obtain ⟨hd, hds⟩ := List.forall_mem_cons.1 hWord
    cases cs with
    | nil => simp
    | cons c cs => simp [toLower_eq_iff hd, ih hds]

end ChatRelay.Text
