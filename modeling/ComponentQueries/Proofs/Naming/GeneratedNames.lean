import ComponentQueries.Extraction
import Mathlib.Data.List.TakeWhile

/-! Generated names. The words of a label are found on either side of a separator by
themselves, so the type of the query stays in front of what the path contributes, and the hash
behind it. -/
namespace ComponentQueries

namespace Text

theorem decompose_append (left right : List Char) :
    decompose (left ++ right) = decompose left ++ decompose right :=
  List.flatMap_append

/-- ASCII characters are simple. -/
theorem decomposeChar_of_ascii {c : Char} (h : c.toNat < 0x80) : decomposeChar c = [c] := by
  have hSimple : c.toNat < 0xA0 := by omega
  simp [decomposeChar, hSimple]

section Classes

variable {c : Char}

theorem isUpper_iff_toNat : c.isUpper = true ↔ 65 ≤ c.toNat ∧ c.toNat ≤ 90 :=
  decide_eq_true_iff

theorem isLower_iff_toNat : c.isLower = true ↔ 97 ≤ c.toNat ∧ c.toNat ≤ 122 := by
  change (decide _ && decide _) = true ↔ _
  rw [Bool.and_eq_true, decide_eq_true_iff, decide_eq_true_iff]
  rfl

theorem isAlphanum_iff :
    c.isAlphanum = true ↔ c.isUpper = true ∨ c.isLower = true ∨ c.isDigit = true := by
  change (c.isUpper || c.isLower || c.isDigit) = true ↔ _
  rw [Bool.or_eq_true, Bool.or_eq_true, or_assoc]

/-- Letters and digits are ASCII here. -/
theorem toNat_lt_of_isAlphanum (h : c.isAlphanum = true) : c.toNat < 0x80 := by
  rw [isAlphanum_iff, isUpper_iff_toNat, isLower_iff_toNat] at h
  rcases h with h | h | h
  · omega
  · omega
  · have hDigit : c.toNat ≤ 57 := (Char.isDigit_iff_toNat.mp h).2
    omega

/-- A small letter becomes a capital, and all else stays. -/
theorem toUpper_cases :
    (c.isLower = true ∧ c.toUpper.isUpper = true) ∨ (c.isLower = false ∧ c.toUpper = c) := by
  unfold Char.toUpper
  split
  · next hLetter =>
      have hLower : 97 ≤ c.toNat ∧ c.toNat ≤ 122 := hLetter
      have hShift : (c.val + ('A'.val - 'a'.val)).toNat = (c.toNat + 4294967264) % 4294967296 :=
        UInt32.toNat_add _ _
      refine Or.inl ⟨isLower_iff_toNat.mpr hLower, isUpper_iff_toNat.mpr ?_⟩
      rw [Char.toNat, hShift]
      omega
  · next hOther =>
      refine Or.inr ⟨?_, rfl⟩
      rw [Bool.eq_false_iff]
      exact fun hLower => hOther (isLower_iff_toNat.mp hLower)

/-- A capital becomes a small letter, and all else stays. -/
theorem toLower_cases :
    (c.isUpper = true ∧ c.toLower.isLower = true) ∨ (c.isUpper = false ∧ c.toLower = c) := by
  unfold Char.toLower
  split
  · next hLetter =>
      have hUpper : 65 ≤ c.toNat ∧ c.toNat ≤ 90 := hLetter
      have hShift : (c.val + ('a'.val - 'A'.val)).toNat = (c.toNat + 32) % 4294967296 :=
        UInt32.toNat_add _ _
      refine Or.inl ⟨isUpper_iff_toNat.mpr hUpper, isLower_iff_toNat.mpr ?_⟩
      rw [Char.toNat, hShift]
      omega
  · next hOther =>
      refine Or.inr ⟨?_, rfl⟩
      rw [Bool.eq_false_iff]
      exact fun hUpper => hOther (isUpper_iff_toNat.mp hUpper)

/-- A digit has no case. -/
theorem cases_of_isDigit (h : c.isDigit = true) : c.toUpper = c ∧ c.toLower = c := by
  have hDigit : 48 ≤ c.toNat ∧ c.toNat ≤ 57 := Char.isDigit_iff_toNat.mp h
  constructor
  · refine (toUpper_cases.resolve_left fun hLower => ?_).2
    have := isLower_iff_toNat.mp hLower.1
    omega
  · refine (toLower_cases.resolve_left fun hUpper => ?_).2
    have := isUpper_iff_toNat.mp hUpper.1
    omega

/-- Letters stay letters in either case, and digits are kept. -/
theorem isAlphanum_toUpper (h : c.isAlphanum = true) : c.toUpper.isAlphanum = true := by
  rcases @toUpper_cases c with ⟨-, hUpper⟩ | ⟨-, hSame⟩
  · exact isAlphanum_iff.mpr (Or.inl hUpper)
  · rw [hSame, h]

theorem isAlphanum_toLower (h : c.isAlphanum = true) : c.toLower.isAlphanum = true := by
  rcases @toLower_cases c with ⟨-, hLower⟩ | ⟨-, hSame⟩
  · exact isAlphanum_iff.mpr (Or.inr (Or.inl hLower))
  · rw [hSame, h]

theorem isUpper_eq_false_of_isLower (h : c.isLower = true) : c.isUpper = false := by
  rw [isLower_iff_toNat] at h
  rw [← Bool.not_eq_true, isUpper_iff_toNat]
  omega

end Classes

end Text

namespace Naming

/-- The ASCII characters that are left of a text when marks are taken off its letters. -/
def folded (text : List Char) : List Char :=
  (Text.decompose text).filter (·.toNat < 0x80)

theorem folded_append (left right : List Char) :
    folded (left ++ right) = folded left ++ folded right := by
  simp [folded, Text.decompose_append]

/-- Characters of ASCII have no marks to be taken off. -/
theorem folded_cons_of_ascii {c : Char} (h : c.toNat < 0x80) (rest : List Char) :
    folded (c :: rest) = c :: folded rest := by
  simp [folded, Text.decompose, Text.decomposeChar_of_ascii h, h]

/-- Text of letters and digits is folded already. -/
theorem folded_of_isAlphanum {text : List Char} (h : ∀ c ∈ text, c.isAlphanum = true) :
    folded text = text := by
  induction text with
  | nil => rfl
  | cons c rest ih =>
      rw [List.forall_mem_cons] at h
      rw [folded_cons_of_ascii (Text.toNat_lt_of_isAlphanum h.1), ih h.2]

/-- Letters or digits at the beginning of a text. -/
def IsRun (run text : List Char) : Prop :=
  run <+: text ∧ ∀ c ∈ run, c.isAlphanum = true

/-- What is taken off the front of a text as long as it is alphanumeric is a run. -/
theorem isRun_takeWhile {wanted : Char → Bool}
    (h : ∀ c, wanted c = true → c.isAlphanum = true) (text : List Char) :
    IsRun (text.takeWhile wanted) text :=
  ⟨List.takeWhile_prefix _, fun c hc => h c (List.mem_takeWhile_imp hc)⟩

theorem IsRun.dropLast {run text : List Char} (h : IsRun run text) : IsRun run.dropLast text :=
  ⟨(List.dropLast_prefix _).trans h.1, fun c hc => h.2 c (List.dropLast_subset _ hc)⟩

/-- A word is a letter or a digit with a run behind it, and begins at each of these. -/
theorem firstWord_cases (c : Char) (rest : List Char) :
    (firstWord c rest = [] ∧ c.isAlphanum = false) ∨
      c.isAlphanum = true ∧ ∃ run, firstWord c rest = c :: run ∧ IsRun run rest := by
  have hCapitals : IsRun (rest.takeWhile Char.isUpper) rest :=
    isRun_takeWhile (fun _ h => Text.isAlphanum_iff.mpr (Or.inl h)) rest
  have hSmall : IsRun (rest.takeWhile Char.isLower) rest :=
    isRun_takeWhile (fun _ h => Text.isAlphanum_iff.mpr (Or.inr (Or.inl h))) rest
  have hDigits : IsRun (rest.takeWhile Char.isDigit) rest :=
    isRun_takeWhile (fun _ h => Text.isAlphanum_iff.mpr (Or.inr (Or.inr h))) rest
  unfold firstWord
  by_cases hUpper : c.isUpper = true
  · refine Or.inr ⟨Text.isAlphanum_iff.mpr (Or.inl hUpper), ?_⟩
    rw [if_pos hUpper]
    dsimp only
    split
    · next hNone =>
        have hRest := List.takeWhile_append_dropWhile (p := Char.isUpper) (l := rest)
        rw [hNone, List.nil_append] at hRest
        rw [hRest]
        exact ⟨_, rfl, hSmall⟩
    · split
      · exact ⟨_, rfl, hCapitals.dropLast⟩
      · exact ⟨_, rfl, hCapitals⟩
    · exact ⟨_, rfl, hCapitals⟩
  · rw [if_neg hUpper]
    by_cases hLower : c.isLower = true
    · rw [if_pos hLower]
      exact Or.inr ⟨Text.isAlphanum_iff.mpr (Or.inr (Or.inl hLower)), _, rfl, hSmall⟩
    · rw [if_neg hLower]
      by_cases hDigit : c.isDigit = true
      · rw [if_pos hDigit]
        exact Or.inr ⟨Text.isAlphanum_iff.mpr (Or.inr (Or.inr hDigit)), _, rfl, hDigits⟩
      · rw [if_neg hDigit]
        refine Or.inl ⟨rfl, ?_⟩
        rw [← Bool.not_eq_true, Text.isAlphanum_iff]
        simp [hUpper, hLower, hDigit]

/-- The words of a text that begins with no word are those of the rest. -/
theorem words_cons_of_not_isAlphanum {c : Char} (h : c.isAlphanum = false) (rest : List Char) :
    words (c :: rest) = words rest := by
  rcases firstWord_cases c rest with ⟨hNone, -⟩ | ⟨hWord, -⟩
  · rw [words, hNone]
  · rw [h] at hWord
    cases hWord

/-- The words of a text that begins with a word are the word and those behind it. -/
theorem words_cons_of_firstWord {c : Char} {rest run : List Char}
    (h : firstWord c rest = c :: run) :
    words (c :: rest) = (c :: run) :: words (rest.drop run.length) := by
  rw [words, h]
  simp

section Separator

variable {stop : Char}

/-- What is taken of a text ends at the first character that is not wanted, whatever comes
behind it. -/
theorem takeWhile_append_stop {wanted : Char → Bool} (h : wanted stop = false)
    (left right : List Char) :
    (left ++ stop :: right).takeWhile wanted = left.takeWhile wanted := by
  induction left with
  | nil => simp [h]
  | cons c rest ih => simp [List.takeWhile_cons, ih]

theorem dropWhile_append_stop {wanted : Char → Bool} (h : wanted stop = false)
    (left right : List Char) :
    (left ++ stop :: right).dropWhile wanted = left.dropWhile wanted ++ stop :: right := by
  induction left with
  | nil => simp [h]
  | cons c rest ih =>
      by_cases hWanted : wanted c = true
      · simp [hWanted, ih]
      · simp [hWanted]

/-- A word ends at a separator at the latest, and what is behind the separator has no
influence on it. -/
theorem firstWord_append (h : stop.isAlphanum = false) (c : Char) (rest right : List Char) :
    firstWord c (rest ++ stop :: right) = firstWord c rest := by
  have hStop : stop.isUpper = false ∧ stop.isLower = false ∧ stop.isDigit = false := by
    rw [← Bool.not_eq_true, Text.isAlphanum_iff] at h
    simpa using h
  obtain ⟨hUpper, hLower, hDigit⟩ := hStop
  unfold firstWord
  rw [takeWhile_append_stop hUpper, dropWhile_append_stop hUpper, takeWhile_append_stop hLower,
    takeWhile_append_stop hDigit]
  dsimp only
  cases hCapitals : rest.takeWhile Char.isUpper with
  | nil => simp only [takeWhile_append_stop hLower]
  | cons capital capitals =>
      -- The separator is no small letter, so it takes no capital away.
      cases hRest : rest.dropWhile Char.isUpper with
      | nil => simp [hLower]
      | cons next others => simp

/-- The words on either side of a separator are found by themselves. The induction takes one
word off the left side at a time. -/
theorem words_append_separator (h : stop.isAlphanum = false) (left right : List Char) :
    words (left ++ stop :: right) = words left ++ words right := by
  induction hLength : left.length using Nat.strong_induction_on generalizing left with
  | _ length ih =>
      subst hLength
      cases left with
      | nil =>
          rw [List.nil_append, words_cons_of_not_isAlphanum h, words, List.nil_append]
      | cons c rest =>
          rcases firstWord_cases c rest with ⟨-, hOther⟩ | ⟨-, run, hWord, hRun⟩
          · rw [List.cons_append, words_cons_of_not_isAlphanum hOther,
              words_cons_of_not_isAlphanum hOther, ih rest.length (by simp) rest rfl]
          · have hFits : run.length ≤ rest.length := hRun.1.length_le
            have hWord' := (firstWord_append h c rest right).trans hWord
            rw [List.cons_append, words_cons_of_firstWord hWord, words_cons_of_firstWord hWord',
              List.drop_append_of_le_length hFits, List.cons_append,
              ih _ (by rw [List.length_drop, List.length_cons]; omega) (rest.drop run.length) rfl]

end Separator

/-- Words consist of letters and digits. -/
theorem isAlphanum_of_mem_words {text word : List Char} (hWord : word ∈ words text) :
    ∀ c ∈ word, c.isAlphanum = true := by
  fun_induction words text with
  | case1 => cases hWord
  | case2 c rest hNone ih => exact ih hWord
  | case3 c rest hSome ih =>
      rcases List.mem_cons.mp hWord with rfl | hWord
      · rcases firstWord_cases c rest with ⟨hNone, -⟩ | ⟨hFirst, run, hRun, -, hAll⟩
        · exact absurd hNone hSome
        · rw [hRun]
          exact List.forall_mem_cons.mpr ⟨hFirst, hAll⟩
      · exact ih hWord

theorem isAlphanum_of_mem_capitalized {word : List Char} (h : ∀ c ∈ word, c.isAlphanum = true) :
    ∀ c ∈ capitalized word, c.isAlphanum = true := by
  cases word with
  | nil => exact h
  | cons first rest =>
      rw [List.forall_mem_cons] at h
      rw [capitalized, List.forall_mem_cons]
      refine ⟨Text.isAlphanum_toUpper h.1, fun c hc => ?_⟩
      obtain ⟨d, hd, rfl⟩ := List.mem_map.mp hc
      exact Text.isAlphanum_toLower (h.2 d hd)

/-- A text that is its own first word has no other. -/
theorem words_of_firstWord {c : Char} {rest : List Char} (h : firstWord c rest = c :: rest) :
    words (c :: rest) = [c :: rest] := by
  rw [words_cons_of_firstWord h, List.drop_length, words]

/-- A text of small letters only is one word. -/
theorem words_of_isLower {text : List Char} (hSome : text ≠ [])
    (h : ∀ c ∈ text, c.isLower = true) : words text = [text] := by
  cases text with
  | nil => exact absurd rfl hSome
  | cons c rest =>
      rw [List.forall_mem_cons] at h
      have hUpper := Text.isUpper_eq_false_of_isLower h.1
      have hRest : rest.takeWhile Char.isLower = rest := List.takeWhile_eq_self_iff.mpr h.2
      exact words_of_firstWord (by simp [firstWord, hUpper, h.1, hRest])

/-- A text of digits only is one word. -/
theorem words_of_isDigit {text : List Char} (hSome : text ≠ [])
    (h : ∀ c ∈ text, c.isDigit = true) : words text = [text] := by
  cases text with
  | nil => exact absurd rfl hSome
  | cons c rest =>
      rw [List.forall_mem_cons] at h
      have hRest : rest.takeWhile Char.isDigit = rest := List.takeWhile_eq_self_iff.mpr h.2
      have hCase : c.isUpper = false ∧ c.isLower = false := by
        have hDigit : 48 ≤ c.toNat ∧ c.toNat ≤ 57 := Char.isDigit_iff_toNat.mp h.1
        rw [← Bool.not_eq_true, ← Bool.not_eq_true, Text.isUpper_iff_toNat,
          Text.isLower_iff_toNat]
        omega
      exact words_of_firstWord (by simp [firstWord, hCase, h.1, hRest])

/-- What a path contributes to the names of the queries in its file. -/
def pathPart (path : String) : String :=
  String.ofList ((words (folded (slug path).toList)).flatMap capitalized)

/-- The part of a name that comes from the path has letters and digits only. -/
theorem isAlphanum_of_mem_pathPart (path : String) :
    ∀ c ∈ (pathPart path).toList, c.isAlphanum = true := by
  intro c hc
  rw [pathPart, String.toList_ofList, List.mem_flatMap] at hc
  obtain ⟨word, hWord, hc⟩ := hc
  exact isAlphanum_of_mem_capitalized (isAlphanum_of_mem_words hWord) c hc

/-- Decimal numbers as texts: one digit or more. -/
def IsDecimal (text : String) : Prop :=
  text ≠ "" ∧ ∀ c ∈ text.toList, c.isDigit = true

/-- Words of small letters: one letter or more. -/
def IsSmallWord (text : String) : Prop :=
  text ≠ "" ∧ ∀ c ∈ text.toList, c.isLower = true

/-- A number has no case. -/
theorem capitalized_of_isDecimal {hash : String} (h : IsDecimal hash) :
    capitalized hash.toList = hash.toList := by
  obtain ⟨-, hDigits⟩ := h
  cases hText : hash.toList with
  | nil => rfl
  | cons c rest =>
      rw [hText, List.forall_mem_cons] at hDigits
      have hRest : rest.map Char.toLower = rest.map id :=
        List.map_congr_left fun d hd => (Text.cases_of_isDigit (hDigits.2 d hd)).2
      rw [capitalized, (Text.cases_of_isDigit hDigits.1).1, hRest, List.map_id]

section Generated

variable {kind hash : String}

/-- The words of a label are those of its three parts. Marks are taken off the part in the
middle only, since the two others are ASCII. -/
theorem words_label (hKind : IsSmallWord kind) (hHash : IsDecimal hash) (middle : List Char) :
    words (folded (kind.toList ++ '-' :: middle ++ '-' :: hash.toList)) =
      kind.toList :: (words (folded middle) ++ [hash.toList]) := by
  have hKind' : folded kind.toList = kind.toList := folded_of_isAlphanum fun c hc =>
    Text.isAlphanum_iff.mpr (Or.inr (Or.inl (hKind.2 c hc)))
  have hHash' : folded hash.toList = hash.toList := folded_of_isAlphanum fun c hc =>
    Text.isAlphanum_iff.mpr (Or.inr (Or.inr (hHash.2 c hc)))
  have hDash (text : List Char) : folded ('-' :: text) = '-' :: folded text :=
    folded_cons_of_ascii (by decide) text
  have hSome (text : String) (h : text ≠ "") : text.toList ≠ [] := by simpa using h
  rw [List.append_assoc, folded_append, folded_append, hDash, hDash, hKind', hHash',
    List.cons_append, words_append_separator (by decide), words_append_separator (by decide),
    words_of_isLower (hSome kind hKind.1) hKind.2, words_of_isDigit (hSome hash hHash.1) hHash.2]
  rfl

/-- A generated name is the type of the query, what the path contributes, and the hash. -/
theorem generatedName_eq (hKind : IsSmallWord kind) (hHash : IsDecimal hash) (path : String) :
    generatedName kind path hash = kind ++ pathPart path ++ hash := by
  have hLower : kind.toList.map Char.toLower = kind.toList.map id :=
    List.map_congr_left fun c hc => by
      have hUpper := Text.isUpper_eq_false_of_isLower (hKind.2 c hc)
      exact (Text.toLower_cases.resolve_left fun h => by rw [hUpper] at h; cases h.1).2
  apply String.toList_injective
  have hName : (generatedName kind path hash).toList =
      camelCase (kind.toList ++ '-' :: (slug path).toList ++ '-' :: hash.toList) :=
    String.toList_ofList
  have hWords := words_label hKind hHash (slug path).toList
  unfold folded at hWords
  rw [hName, camelCase, hWords]
  simp [pathPart, hLower, folded, capitalized_of_isDecimal hHash]

/-- A generated name is a name, since it begins with a letter. -/
theorem isName_generatedName (hKind : IsSmallWord kind) (hHash : IsDecimal hash) (path : String) :
    GraphQL.isName (generatedName kind path hash).toList = true := by
  have hPart (c : Char) (h : c.isAlphanum = true) : GraphQL.isNamePart c = true := by
    rw [GraphQL.isNamePart, h, Bool.true_or]
  rw [generatedName_eq hKind hHash, String.toList_append, String.toList_append]
  cases hText : kind.toList with
  | nil => exact absurd (String.toList_eq_nil_iff.mp hText) hKind.1
  | cons first rest =>
      have hSmall := hKind.2
      rw [hText, List.forall_mem_cons] at hSmall
      have hAlpha : first.isAlpha = true := by
        change (first.isUpper || first.isLower) = true
        rw [hSmall.1, Bool.or_true]
      have hStart : GraphQL.isNameStart first = true := by
        rw [GraphQL.isNameStart, hAlpha, Bool.true_or]
      rw [List.cons_append, List.cons_append, GraphQL.isName, hStart, Bool.true_and,
        List.all_eq_true]
      intro c hc
      apply hPart
      rw [List.mem_append, List.mem_append] at hc
      rcases hc with (hc | hc) | hc
      · exact Text.isAlphanum_iff.mpr (Or.inr (Or.inl (hSmall.2 c hc)))
      · exact isAlphanum_of_mem_pathPart path c hc
      · exact Text.isAlphanum_iff.mpr (Or.inr (Or.inr (hHash.2 c hc)))

/-- A generated name holds at least the hash. -/
theorem generatedName_ne_empty (hKind : IsSmallWord kind) (hHash : IsDecimal hash)
    (path : String) : generatedName kind path hash ≠ "" := by
  intro hEmpty
  have hName := isName_generatedName hKind hHash path
  rw [hEmpty] at hName
  cases hName

end Generated

/-- The purposes of queries are written in small letters. -/
theorem isSmallWord_label (queryType : QueryType) : IsSmallWord queryType.label := by
  cases queryType with
  | page => exact ⟨by decide, by simp [QueryType.label]⟩
  | static => exact ⟨by decide, by simp [QueryType.label]⟩
  | config => exact ⟨by decide, by simp [QueryType.label]⟩

/-- The words for the types of queries differ in their first letters. -/
theorem eq_of_label_append {queryType queryType' : QueryType} {rest rest' : List Char}
    (h : queryType.label.toList ++ rest = queryType'.label.toList ++ rest') :
    queryType = queryType' := by
  have hFirst := congrArg List.head? h
  cases queryType <;> cases queryType' <;> simp [QueryType.label] at hFirst ⊢

/-- In the names of one file, neither the type of the query nor the hash is lost. -/
theorem generatedName_inj {queryType queryType' : QueryType} {hash hash' path : String}
    (hHash : IsDecimal hash) (hHash' : IsDecimal hash') :
    generatedName queryType.label path hash = generatedName queryType'.label path hash' ↔
      queryType = queryType' ∧ hash = hash' := by
  rw [generatedName_eq (isSmallWord_label _) hHash, generatedName_eq (isSmallWord_label _) hHash']
  constructor
  · intro h
    have hText := congrArg String.toList h
    simp only [String.toList_append, List.append_assoc] at hText
    obtain rfl := eq_of_label_append hText
    exact ⟨rfl, String.toList_injective
      (List.append_cancel_left (List.append_cancel_left hText))⟩
  · rintro ⟨rfl, rfl⟩
    rfl

/-- The hash of a text is a decimal number. -/
theorem isDecimal_fragmentHash (text : String) : IsDecimal (fragmentHash text) := by
  have hDigits : (fragmentHash text).toList =
      Nat.toDigits 10 (Digest.Sha256.leadingWord (Text.toBytes text)).toNat := by
    rw [fragmentHash, Nat.toString_eq_repr, Nat.toList_repr]
  constructor
  · intro hEmpty
    rw [hEmpty] at hDigits
    exact Nat.toDigits_ne_nil hDigits.symm
  · rw [hDigits]
    exact fun c hc => Nat.isDigit_of_mem_toDigits (by decide) (by decide) hc

end Naming

end ComponentQueries
