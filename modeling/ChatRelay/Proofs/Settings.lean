import ChatRelay.Config
import ChatRelay.Proofs.Except
import ChatRelay.Proofs.Grammar.Numeral
import ChatRelay.Proofs.Grammar.Word
import Mathlib.Algebra.Group.Nat.Defs

/-! Which settings the variables say.  A setting has one name or two, and the first of them whose value is
not blank decides it: `IsFirst` tells which that is, and `Gives` what the setting then is.  A text is the value
as it stands.  A number is a numeral with white space around it, and a truth value a word in any case.
`Config.SaidBy` puts the eight settings together without a word on how they are read: the settings that are
read are those, and there are some just if no first value is malformed. -/

namespace ChatRelay

/-! ### First values -/

namespace Config

/-- The value under `key` is blank, or there is none. -/
def IsUnset (lookup : String → Option String) (key : String) : Prop :=
  ∀ value, lookup key = some value → Text.AllBlank value.toList

/-- `key` is the first of `keys` whose value is not blank, and `value` is what stands under it. -/
def IsFirst (lookup : String → Option String) (keys : List String) (key value : String) : Prop :=
  lookup key = some value ∧ ¬ Text.AllBlank value.toList ∧
    ∃ before after, keys = before ++ key :: after ∧ ∀ k ∈ before, IsUnset lookup k

/-- `lookup` without the values that are blank. -/
def withoutBlank (lookup : String → Option String) (key : String) : Option String :=
  (lookup key).filter fun value => ¬ Text.AllBlank value.toList

variable {lookup : String → Option String} {keys : List String} {key value : String}

theorem withoutBlank_eq_some_iff :
    withoutBlank lookup key = some value ↔ lookup key = some value ∧ ¬ Text.AllBlank value.toList := by
  simp [withoutBlank]

theorem isUnset_withoutBlank : IsUnset (withoutBlank lookup) key ↔ IsUnset lookup key := by
  simp only [IsUnset, withoutBlank_eq_some_iff]
  exact forall_congr' fun value => ⟨fun h hValue => Decidable.byContradiction fun hSet =>
    hSet (h ⟨hValue, hSet⟩), fun h hValue => h hValue.1⟩

theorem isFirst_withoutBlank :
    IsFirst (withoutBlank lookup) keys key value ↔ IsFirst lookup keys key value := by
  simp only [IsFirst, withoutBlank_eq_some_iff, isUnset_withoutBlank]
  tauto

/-- The value under one key, if it is not blank, with that key. -/
def set? (lookup : String → Option String) (key : String) : Option (String × String) :=
  match lookup key with
  | some value => if Text.AllBlank value.toList then none else some (key, value)
  | none => none

theorem set?_eq_some_iff {k : String} : set? lookup k = some (key, value) ↔
    k = key ∧ lookup key = some value ∧ ¬ Text.AllBlank value.toList := by
  unfold set?
  split
  · rename_i v hv
    split
    · rename_i hBlank
      simp only [reduceCtorEq, false_iff]
      rintro ⟨rfl, hValue, hSet⟩
      rw [hv, Option.some.injEq] at hValue
      exact hSet (hValue ▸ hBlank)
    · rename_i hSet
      simp only [Option.some.injEq, Prod.mk.injEq]
      constructor
      · rintro ⟨rfl, rfl⟩
        exact ⟨rfl, hv, hSet⟩
      · rintro ⟨rfl, hValue, -⟩
        exact ⟨rfl, Option.some.inj (hv.symm.trans hValue)⟩
  · rename_i hNone
    simp only [reduceCtorEq, false_iff]
    rintro ⟨rfl, hValue, -⟩
    simp [hNone] at hValue

theorem set?_eq_none_iff : set? lookup key = none ↔ IsUnset lookup key := by
  unfold set? IsUnset
  cases lookup key <;> simp

theorem firstSet_eq_some_iff :
    firstSet lookup keys = some (key, value) ↔ IsFirst lookup keys key value := by
  change keys.findSome? (set? lookup) = some (key, value) ↔ _
  simp only [List.findSome?_eq_some_iff, set?_eq_some_iff, set?_eq_none_iff, IsFirst]
  constructor
  · rintro ⟨before, k, after, rfl, ⟨rfl, hValue, hSet⟩, hBefore⟩
    exact ⟨hValue, hSet, before, after, rfl, hBefore⟩
  · rintro ⟨hValue, hSet, before, after, rfl, hBefore⟩
    exact ⟨before, key, after, rfl, ⟨rfl, hValue, hSet⟩, hBefore⟩

theorem firstSet_eq_none_iff : firstSet lookup keys = none ↔ ∀ key ∈ keys, IsUnset lookup key := by
  change keys.findSome? (set? lookup) = none ↔ _
  simp only [List.findSome?_eq_none_iff, set?_eq_none_iff]

/-! ### What values say -/

/-- The value is the text, as it stands. -/
def IsText (value text : String) : Prop := text = value

/-- The value is a numeral for `n`, which has at most `bits` bits. -/
def IsNumber (bits : Nat) (value : String) (n : Nat) : Prop :=
  ∃ body, Text.IsPadded value.toList body ∧ Text.Numeral.IsUnsignedNumeral body n ∧ n < 2 ^ bits

/-- The value is a numeral for `n`, which has at most `bits` bits and is not zero. -/
def IsPositive (bits : Nat) (value : String) (n : Nat) : Prop := IsNumber bits value n ∧ n ≠ 0

/-- The words for a truth value. -/
def words : Bool → List String
  | true => ["1", "true", "yes", "on"]
  | false => ["0", "false", "no", "off"]

/-- The value is a word for `b`, in any case. -/
def IsTruth (value : String) (b : Bool) : Prop :=
  ∃ body, Text.IsPadded value.toList body ∧ ∃ word ∈ words b, Text.IsCased word body

theorem isBlank_of_isUnsignedNumeral {body : List Char} {n : Nat}
    (h : Text.Numeral.IsUnsignedNumeral body n) {c : Char} (hc : c ∈ body) : Text.isBlank c = false := by
  have hDigit : ∀ {d : Char}, d.isDigit → Text.isBlank d = false := by
    intro d hd
    simp only [Char.isDigit_iff_toNat, Char.reduceToNat] at hd
    simp [Text.isBlank]
    omega
  obtain ⟨ds, rfl | rfl, hDigits, -⟩ := h
  · exact hDigit (hDigits.2 c hc)
  · rcases List.mem_cons.1 hc with rfl | hc
    · decide
    · exact hDigit (hDigits.2 c hc)

theorem natural_trim_eq_ok {bits n : Nat} :
    Text.Numeral.natural (2 ^ bits - 1) (Text.trim value.toList) = .ok n ↔ IsNumber bits value n := by
  have hBound : n ≤ 2 ^ bits - 1 ↔ n < 2 ^ bits := by
    have := Nat.two_pow_pos bits
    omega
  rw [Text.Numeral.natural_eq_ok, hBound]
  constructor
  · rintro ⟨hNumeral, hFits⟩
    exact ⟨_, Text.isPadded_trim _, hNumeral, hFits⟩
  · rintro ⟨body, hPadded, hNumeral, hFits⟩
    -- A numeral has no white space in it, so nothing but the numeral is left of the value.
    rw [Text.trim_of_isPadded (fun c hc => isBlank_of_isUnsignedNumeral hNumeral hc) hPadded]
    exact ⟨hNumeral, hFits⟩

theorem truth?_eq_some_iff {word : String} {b : Bool} : truth? word = some b ↔ word ∈ words b := by
  unfold truth?
  split
  all_goals cases b <;> simp_all [words]

/-- The letters of the words are in lower case, and no letter of them is white space in either case. -/
theorem letters_of_words {b : Bool} {word : String} (h : word ∈ words b) {d : Char}
    (hd : d ∈ word.toList) :
    d.toLower = d ∧ Text.isBlank d = false ∧ Text.isBlank d.toUpper = false := by
  have hAll : ∀ b, ∀ word ∈ words b, word.toList.all fun d =>
      d.toLower == d && !Text.isBlank d && !Text.isBlank d.toUpper := by
    decide
  simpa [and_assoc] using List.all_eq_true.1 (hAll b word h) d hd

theorem isBlank_of_isCased {b : Bool} {word : String} (hWord : word ∈ words b) {body : List Char}
    (h : Text.IsCased word body) {c : Char} (hc : c ∈ body) : Text.isBlank c = false := by
  obtain ⟨d, hd, rfl | rfl⟩ := h.exists_of_mem hc
  · exact (letters_of_words hWord hd).2.1
  · exact (letters_of_words hWord hd).2.2

theorem truth?_trim_eq_some_iff {b : Bool} :
    truth? (String.ofList ((Text.trim value.toList).map Char.toLower)) = some b ↔
      IsTruth value b := by
  rw [truth?_eq_some_iff]
  constructor
  · intro h
    have hCased := (Text.map_toLower_eq_iff fun d hd => (letters_of_words h hd).1).1 rfl
    exact ⟨_, Text.isPadded_trim _, _, h, hCased⟩
  · rintro ⟨body, hPadded, word, hWord, hCased⟩
    rw [Text.trim_of_isPadded (fun c hc => isBlank_of_isCased hWord hCased hc) hPadded,
      (Text.map_toLower_eq_iff fun d hd => (letters_of_words hWord hd).1).2 hCased]
    exact hWord

/-! ### Single settings -/

variable {α : Type} {means : String → α → Prop} {absent a : α}

/-- What a setting is: what the first value under `keys` says, or `absent` if there is none. -/
def Gives (lookup : String → Option String) (keys : List String) (means : String → α → Prop)
    (absent a : α) : Prop :=
  (∃ key value, IsFirst lookup keys key value ∧ means value a) ∨
    (∀ key ∈ keys, IsUnset lookup key) ∧ a = absent

/-- The first value under `keys` stands for something, if there is one. -/
def IsReadable (lookup : String → Option String) (keys : List String) (means : String → α → Prop) : Prop :=
  ∀ key value, IsFirst lookup keys key value → ∃ a, means value a

/-- The setting that follows from the first value, if there is one. -/
theorem gives_iff : Gives lookup keys means absent a ↔
    match firstSet lookup keys with
    | some (_, value) => means value a
    | none => a = absent := by
  split
  · rename_i key value hFirst
    have hSome : ∀ k v, IsFirst lookup keys k v ↔ k = key ∧ v = value := by
      simp [← firstSet_eq_some_iff, hFirst, eq_comm]
    have hSet : ¬ ∀ key ∈ keys, IsUnset lookup key := by
      simp [← firstSet_eq_none_iff, hFirst]
    simp [Gives, hSome, hSet]
  · rename_i hNone
    have hFirst : ∀ k v, ¬ IsFirst lookup keys k v := by
      simp [← firstSet_eq_some_iff, hNone]
    have hUnset := firstSet_eq_none_iff.1 hNone
    simp only [Gives, hFirst, false_and, exists_false, false_or]
    exact and_iff_right hUnset

theorem exists_gives_iff : (∃ a, Gives lookup keys means absent a) ↔ IsReadable lookup keys means := by
  simp only [gives_iff, IsReadable, ← firstSet_eq_some_iff]
  rcases firstSet lookup keys with _ | ⟨key, value⟩
  · simp
  · simp

theorem text_eq_iff {absent text : String} :
    Config.text lookup keys absent = text ↔ Gives lookup keys IsText absent text := by
  rw [gives_iff, Config.text]
  rcases firstSet lookup keys with _ | ⟨key, value⟩
  · exact eq_comm
  · exact eq_comm

theorem number_eq_ok_iff (bits : Nat) {absent n : Nat} :
    number lookup keys (2 ^ bits - 1) absent = .ok n ↔ Gives lookup keys (IsNumber bits) absent n := by
  rw [gives_iff, number]
  rcases firstSet lookup keys with _ | ⟨key, value⟩
  · simp [eq_comm]
  · simp only [← natural_trim_eq_ok]
    cases Text.Numeral.natural (2 ^ bits - 1) (Text.trim value.toList) <;> simp

theorem boolean_eq_ok_iff {b : Bool} :
    boolean lookup key = .ok b ↔ Gives lookup [key] IsTruth false b := by
  rw [gives_iff, boolean]
  rcases firstSet lookup [key] with _ | ⟨key, value⟩
  · simp [eq_comm]
  · simp only [← truth?_trim_eq_some_iff]
    cases truth? (String.ofList ((Text.trim value.toList).map Char.toLower)) <;> simp

theorem gives_isPositive_iff {bits absent n : Nat} (h : absent ≠ 0) :
    Gives lookup keys (IsPositive bits) absent n ↔
      Gives lookup keys (IsNumber bits) absent n ∧ n ≠ 0 := by
  simp only [gives_iff]
  split
  · rfl
  · exact ⟨fun hn => ⟨hn, hn ▸ h⟩, And.left⟩

/-! ### All settings -/

/-- The names of the settings.  Those of one setting stand together, in their order. -/
def names : List (List String) :=
  [["LANCHAT_HOST"], ["LANCHAT_PORT", "PORT"], ["LANCHAT_DB_PATH"],
    ["LANCHAT_JWT_SECRET", "MESSAGING_JWT_SECRET"], ["LANCHAT_OUTBOUND_QUEUE"],
    ["LANCHAT_HISTORY_LIMIT"], ["LANCHAT_HEARTBEAT_SECS"], ["LANCHAT_ERROR_ACKS"]]

/-- The settings are what the first values give. -/
structure SaidBy (lookup : String → Option String) (c : Config) : Prop where
  host : Gives lookup ["LANCHAT_HOST"] IsText "0.0.0.0" c.host
  port : Gives lookup ["LANCHAT_PORT", "PORT"] (IsNumber 16) 8081 c.port
  databasePath : Gives lookup ["LANCHAT_DB_PATH"] IsText "data/chat.db" c.databasePath
  secret : Gives lookup ["LANCHAT_JWT_SECRET", "MESSAGING_JWT_SECRET"] IsText "dev-secret-change-me" c.secret
  queueCapacity : Gives lookup ["LANCHAT_OUTBOUND_QUEUE"] (IsPositive 64) 256 c.queueCapacity
  historyLimit : Gives lookup ["LANCHAT_HISTORY_LIMIT"] (IsPositive 32) 100 c.historyLimit
  heartbeatSeconds : Gives lookup ["LANCHAT_HEARTBEAT_SECS"] (IsPositive 64) 15 c.heartbeatSeconds
  errorAcks : Gives lookup ["LANCHAT_ERROR_ACKS"] IsTruth false c.errorAcks

/-- No first value is malformed. -/
structure WellFormed (lookup : String → Option String) : Prop where
  port : IsReadable lookup ["LANCHAT_PORT", "PORT"] (IsNumber 16)
  queueCapacity : IsReadable lookup ["LANCHAT_OUTBOUND_QUEUE"] (IsPositive 64)
  historyLimit : IsReadable lookup ["LANCHAT_HISTORY_LIMIT"] (IsPositive 32)
  heartbeatSeconds : IsReadable lookup ["LANCHAT_HEARTBEAT_SECS"] (IsPositive 64)
  errorAcks : IsReadable lookup ["LANCHAT_ERROR_ACKS"] IsTruth

theorem requirePositive_eq_ok_iff {n : Nat} {u : Unit} : requirePositive key n = .ok u ↔ n ≠ 0 := by
  unfold requirePositive
  split <;> simp_all

theorem ofLookup_eq_ok_iff {c : Config} : ofLookup lookup = .ok c ↔ c.SaidBy lookup := by
  simp only [ofLookup, bind_eq_ok_iff, requirePositive_eq_ok_iff]
  constructor
  · rintro ⟨port, hPort, queue, hQueue, limit, hLimit, seconds, hSeconds, acks, hAcks,
      _, hQueue', _, hLimit', _, hSeconds', h⟩
    obtain rfl := Except.ok.inj h
    exact {
      host := text_eq_iff.1 rfl
      port := (number_eq_ok_iff 16).1 hPort
      databasePath := text_eq_iff.1 rfl
      secret := text_eq_iff.1 rfl
      queueCapacity := (gives_isPositive_iff (by decide)).2 ⟨(number_eq_ok_iff 64).1 hQueue, hQueue'⟩
      historyLimit := (gives_isPositive_iff (by decide)).2 ⟨(number_eq_ok_iff 32).1 hLimit, hLimit'⟩
      heartbeatSeconds :=
        (gives_isPositive_iff (by decide)).2 ⟨(number_eq_ok_iff 64).1 hSeconds, hSeconds'⟩
      errorAcks := boolean_eq_ok_iff.1 hAcks }
  · rintro ⟨hHost, hPort, hPath, hSecret, hQueue, hLimit, hSeconds, hAcks⟩
    obtain ⟨hQueue, hQueue'⟩ := (gives_isPositive_iff (by decide)).1 hQueue
    obtain ⟨hLimit, hLimit'⟩ := (gives_isPositive_iff (by decide)).1 hLimit
    obtain ⟨hSeconds, hSeconds'⟩ := (gives_isPositive_iff (by decide)).1 hSeconds
    refine ⟨_, (number_eq_ok_iff 16).2 hPort, _, (number_eq_ok_iff 64).2 hQueue,
      _, (number_eq_ok_iff 32).2 hLimit, _, (number_eq_ok_iff 64).2 hSeconds,
      _, boolean_eq_ok_iff.2 hAcks, (), hQueue', (), hLimit', (), hSeconds', ?_⟩
    rw [text_eq_iff.2 hHost, text_eq_iff.2 hPath, text_eq_iff.2 hSecret]
    rfl

theorem exists_saidBy_iff : (∃ c : Config, c.SaidBy lookup) ↔ WellFormed lookup := by
  constructor
  · rintro ⟨c, hHost, hPort, hPath, hSecret, hQueue, hLimit, hSeconds, hAcks⟩
    exact ⟨exists_gives_iff.1 ⟨_, hPort⟩, exists_gives_iff.1 ⟨_, hQueue⟩, exists_gives_iff.1 ⟨_, hLimit⟩,
      exists_gives_iff.1 ⟨_, hSeconds⟩, exists_gives_iff.1 ⟨_, hAcks⟩⟩
  · rintro ⟨hPort, hQueue, hLimit, hSeconds, hAcks⟩
    obtain ⟨port, hPort⟩ := exists_gives_iff.2 hPort
    obtain ⟨queue, hQueue⟩ := exists_gives_iff.2 hQueue
    obtain ⟨limit, hLimit⟩ := exists_gives_iff.2 hLimit
    obtain ⟨seconds, hSeconds⟩ := exists_gives_iff.2 hSeconds
    obtain ⟨acks, hAcks⟩ := exists_gives_iff.2 hAcks
    exact ⟨⟨_, port, _, _, queue, limit, seconds, acks⟩, text_eq_iff.1 rfl, hPort, text_eq_iff.1 rfl,
      text_eq_iff.1 rfl, hQueue, hLimit, hSeconds, hAcks⟩

/-! ### First values decide -/

variable {lookup' : String → Option String}

theorem firstSet_eq_of_isFirst
    (h : ∀ key value, IsFirst lookup keys key value ↔ IsFirst lookup' keys key value) :
    firstSet lookup keys = firstSet lookup' keys := by
  ext ⟨key, value⟩
  rw [firstSet_eq_some_iff, firstSet_eq_some_iff, h]

theorem ofLookup_eq_of_firstSet (h : ∀ keys ∈ names, firstSet lookup keys = firstSet lookup' keys) :
    ofLookup lookup = ofLookup lookup' := by
  simp only [names, List.forall_mem_cons, List.not_mem_nil, false_imp_iff, implies_true,
    and_true] at h
  simp only [ofLookup, text, number, boolean, h]

/-- A malformed value under the first name of the port is an error, whatever stands under the second. -/
theorem ofLookup_eq_error_of_port (hValue : lookup "LANCHAT_PORT" = some value)
    (hSet : ¬ Text.AllBlank value.toList) (hMalformed : ∀ n, ¬ IsNumber 16 value n) :
    ∃ cause, ofLookup lookup = .error (.numeral "LANCHAT_PORT" value cause) := by
  have hFirst : firstSet lookup ["LANCHAT_PORT", "PORT"] = some ("LANCHAT_PORT", value) :=
    firstSet_eq_some_iff.2 ⟨hValue, hSet, [], ["PORT"], rfl, by simp⟩
  cases hRead : Text.Numeral.natural (UInt16.size - 1) (Text.trim value.toList) with
  | ok n => exact absurd (natural_trim_eq_ok.1 hRead) (hMalformed n)
  | error cause =>
    have hPort : number lookup ["LANCHAT_PORT", "PORT"] (UInt16.size - 1) 8081 =
        .error (.numeral "LANCHAT_PORT" value cause) := by
      rw [number, hFirst]
      simp only [hRead]
    refine ⟨cause, ?_⟩
    -- The port is the first setting that can be malformed, so nothing stops before it.
    simp only [ofLookup, hPort]
    rfl

/-- The settings are decided by the first values that are not blank: without the blank values, and
whatever else stands under other names, the result is the same.  There are settings just if no first value
is malformed, they are what the first values give, and a malformed first choice is an error whether or not
there is a second. -/
theorem first_values_decide (lookup : String → Option String) :
    ofLookup (withoutBlank lookup) = ofLookup lookup ∧
    (∀ lookup', (∀ keys ∈ names, ∀ key value,
      IsFirst lookup keys key value ↔ IsFirst lookup' keys key value) →
        ofLookup lookup = ofLookup lookup') ∧
    ((∃ c, ofLookup lookup = .ok c) ↔ WellFormed lookup) ∧
    (∀ c, ofLookup lookup = .ok c ↔ c.SaidBy lookup) ∧
    ∀ value, lookup "LANCHAT_PORT" = some value → ¬ Text.AllBlank value.toList →
      (∀ n, ¬ IsNumber 16 value n) →
        ∃ cause, ofLookup lookup = .error (.numeral "LANCHAT_PORT" value cause) := by
  have hAgree : ∀ {lookup lookup'}, (∀ keys ∈ names, ∀ key value,
      IsFirst lookup keys key value ↔ IsFirst lookup' keys key value) →
        ofLookup lookup = ofLookup lookup' :=
    fun h => ofLookup_eq_of_firstSet fun keys hKeys => firstSet_eq_of_isFirst (h keys hKeys)
  refine ⟨hAgree fun _ _ _ _ => isFirst_withoutBlank, fun _ h => hAgree h, ?_,
    fun _ => ofLookup_eq_ok_iff, fun _ => ofLookup_eq_error_of_port⟩
  simp only [ofLookup_eq_ok_iff]
  exact exists_saidBy_iff

theorem first_values_decide_port :
    let lookup := fun key => [("LANCHAT_PORT", " eighty"), ("PORT", "9000")].lookup key
    let lookup' := fun key => [("LANCHAT_PORT", " eighty"), ("LANCHAT_HOST", "\t")].lookup key
    ofLookup lookup = ofLookup lookup' ∧
      ∃ cause, ofLookup lookup = .error (.numeral "LANCHAT_PORT" " eighty" cause) := by
  intro lookup lookup'
  have hFirst : ∀ keys ∈ names, firstSet lookup keys = firstSet lookup' keys := by
    decide
  have hMalformed : ∀ n, ¬ IsNumber 16 " eighty" n := by
    intro n h
    have hRead : Text.Numeral.natural (2 ^ 16 - 1) (Text.trim " eighty".toList) = .error .invalidDigit := by
      decide
    rw [← natural_trim_eq_ok, hRead] at h
    contradiction
  obtain ⟨-, hAgree, -, -, hPort⟩ := first_values_decide lookup
  refine ⟨hAgree lookup' fun keys hKeys key value => ?_, hPort " eighty" rfl (by decide) hMalformed⟩
  rw [← firstSet_eq_some_iff, ← firstSet_eq_some_iff, hFirst keys hKeys]

example : ofLookup (fun key => [("LANCHAT_HOST", " "), ("LANCHAT_PORT", ""), ("PORT", "\t+0080 "),
    ("LANCHAT_ERROR_ACKS", "yEs")].lookup key) = .ok { port := 80, errorAcks := true } := by
  decide

end Config

end ChatRelay
