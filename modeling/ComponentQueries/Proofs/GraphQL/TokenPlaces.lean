import ComponentQueries.GraphQL.Token.Scan

/-! Where tokens and their faults are. No reader looks beyond the end of the text, so each of
its faults lies in the text or at its end. -/
namespace ComponentQueries.GraphQL

/-- A reading at the beginning of a text of a length goes no further than the text, neither by
the size of what it reads nor by the place of its fault. -/
def Reading.Within {α : Type} (size : α → Nat) (length : Nat) : Reading α → Prop
  | .ok result => size result ≤ length
  | .error (_, place) => place ≤ length

/-- What follows a reading that began later stays in the text, if the reading stays in what
was left of it. -/
theorem Reading.Within.later_bind {α β : Type} {size : α → Nat} {size' : β → Nat}
    {distance rest length : Nat} {reading : Reading α} {next : α → Reading β}
    (h : reading.Within size rest) (hRest : distance + rest ≤ length)
    (hNext : ∀ result, size result ≤ rest → (next result).Within size' length) :
    (Reading.later distance reading >>= next).Within size' length := by
  cases reading with
  | ok result => exact hNext result h
  | error fault =>
      obtain ⟨cause, place⟩ := fault
      have hPlace : place ≤ rest := h
      show distance + place ≤ length
      omega

/-- Digits are read off the front of the text, and a failure lies in it or at its end. -/
theorem readDigits_within (text : List Char) : (readDigits text).Within id text.length := by
  have hLength := (List.takeWhile_sublist Char.isDigit (l := text)).length_le
  unfold readDigits
  split
  · exact Nat.zero_le _
  · exact hLength

theorem readWhole_within (text : List Char) : (readWhole text).Within id text.length := by
  unfold readWhole
  split
  · split
    · simp [Reading.Within]
    · simp [Reading.Within]
  · exact readDigits_within text

theorem readFraction_within (text : List Char) : (readFraction text).Within id text.length := by
  unfold readFraction
  split
  · next rest =>
      refine (readDigits_within rest).later_bind (by simp; omega) fun count hCount => ?_
      show 1 + count ≤ rest.length + 1
      have hCount : count ≤ rest.length := hCount
      omega
  · exact Nat.zero_le _

/-- A sign that is there can be taken off. -/
theorem sign_le_length {text : List Char} {signs : Prop} [Decidable signs]
    (h : signs → text.head? ≠ none) : (if signs then 1 else 0) ≤ text.length := by
  split
  · next hSigns =>
      cases text with
      | nil => exact absurd rfl (h hSigns)
      | cons c rest => simp
  · exact Nat.zero_le _

theorem readExponent_within (text : List Char) : (readExponent text).Within id text.length := by
  unfold readExponent
  split
  · next c rest =>
      split
      · dsimp only
        have hSign : (if rest.head? = some '+' ∨ rest.head? = some '-' then 1 else 0) ≤
            rest.length := by
          refine sign_le_length fun hSigns hNone => ?_
          rw [hNone] at hSigns
          simp at hSigns
        generalize (if rest.head? = some '+' ∨ rest.head? = some '-' then 1 else 0) = sign at *
        refine (readDigits_within _).later_bind (by simp; omega) fun count hCount => ?_
        have hCount : count ≤ (rest.drop sign).length := hCount
        rw [List.length_drop] at hCount
        show 1 + sign + count ≤ rest.length + 1
        omega
      · exact Nat.zero_le _
  · exact Nat.zero_le _

/-- A number has its parts one behind the other, each within what the one before left. -/
theorem readNumber_within (text : List Char) : (readNumber text).Within Prod.snd text.length := by
  unfold readNumber
  dsimp only
  have hSign : (if text.head? = some '-' then 1 else 0) ≤ text.length := by
    refine sign_le_length fun hSigns hNone => ?_
    rw [hNone] at hSigns
    cases hSigns
  generalize (if text.head? = some '-' then 1 else 0) = sign at *
  refine (readWhole_within _).later_bind (by simp; omega) fun whole hWhole => ?_
  have hWhole : whole ≤ (text.drop sign).length := hWhole
  rw [List.length_drop] at hWhole
  refine (readFraction_within _).later_bind (by simp; omega) fun fraction hFraction => ?_
  have hFraction : fraction ≤ (text.drop (sign + whole)).length := hFraction
  rw [List.length_drop] at hFraction
  refine (readExponent_within _).later_bind (by simp; omega) fun exponent hExponent => ?_
  have hExponent : exponent ≤ (text.drop (sign + whole + fraction)).length := hExponent
  rw [List.length_drop] at hExponent
  have hSize : sign + whole + fraction + exponent ≤ text.length := by omega
  split
  · exact hSize
  · exact hSize

/-- An escape in braces looks at no more characters than there are. -/
theorem bracedEscape_size (point size : Nat) (text : List Char) :
    (bracedEscape point size text).2 ≤ size + text.length := by
  induction text generalizing point size with
  | nil => simp [bracedEscape]
  | cons c rest ih =>
      rw [bracedEscape]
      split
      · simp
      · split
        · split
          · simp
          · simp
        · split
          · next digit _ =>
              have hRest := ih (point * 16 + digit) (size + 1)
              rw [List.length_cons]
              omega
          · simp

/-- Four digits are four characters. -/
theorem fourHexDigits?_length {text : List Char} {value : Nat}
    (h : fourHexDigits? text = some value) : 4 ≤ text.length := by
  unfold fourHexDigits? at h
  split at h
  · simp
  · cases h

theorem fixedEscape?_size {rest : List Char} {c : Char} {more : Nat}
    (h : fixedEscape? rest = some (c, more)) : more ≤ rest.length := by
  obtain ⟨code, hCode, h⟩ := Option.bind_eq_some_iff.mp h
  have hFour := fourHexDigits?_length hCode
  rw [List.length_drop] at hFour
  split at h
  · cases h
    omega
  · split at h
    · obtain ⟨low, hLow, h⟩ := Option.bind_eq_some_iff.mp h
      have hEight := fourHexDigits?_length hLow
      rw [List.length_drop] at hEight
      split at h
      · simp only [Option.some.injEq, Prod.mk.injEq] at h
        omega
      · cases h
    · cases h

/-- An escape is not longer than the text behind its backslash. -/
theorem readEscape_size {rest : List Char} {c : Char} {more : Nat}
    (h : readEscape rest = .ok (c, more)) : more ≤ rest.length := by
  unfold readEscape at h
  dsimp only at h
  split at h
  · next digits =>
      have hSize := bracedEscape_size 0 3 digits
      split at h
      · next hEscape =>
          cases h
          rw [hEscape] at hSize
          simp only [List.length_cons] at hSize ⊢
          omega
      · cases h
  · split at h
    · next hEscape =>
        cases h
        exact fixedEscape?_size hEscape
    · cases h
  · split at h
    · cases h
      simp
    · cases h
  · cases h

/-- Characters in front of a reading add their number to its size. -/
theorem Reading.Within.later_size {α β : Type} {distance rest length : Nat}
    {reading : Reading (α × Nat)} (result : α → β) (h : reading.Within Prod.snd rest)
    (hRest : distance + rest ≤ length) :
    Reading.Within Prod.snd length (do
      let (value, size) ← Reading.later distance reading
      return (result value, distance + size)) := by
  refine h.later_bind hRest fun read hRead => ?_
  show distance + read.2 ≤ length
  omega

/-- A string ends in the text, or fails there. The induction follows its characters and escapes. -/
theorem readString_within (text : List Char) : (readString text).Within Prod.snd text.length := by
  fun_induction readString text with
  | case1 => exact Nat.zero_le _
  | case2 rest => simp [Reading.Within]
  | case3 => exact Nat.zero_le _
  | case4 => exact Nat.zero_le _
  | case5 rest value more hEscape _ _ ih =>
      have hMore := readEscape_size hEscape
      refine ih.later_size (value :: ·) ?_
      rw [List.length_drop, List.length_cons]
      omega
  | case6 c rest _ _ _ ih =>
      refine ih.later_size (c :: ·) ?_
      rw [List.length_cons]
      omega

/-- The same for a block string, in which only the closing quotes are looked for. -/
theorem readBlockString_within (text : List Char) :
    (readBlockString text).Within Prod.snd text.length := by
  fun_induction readBlockString text with
  | case1 => exact Nat.zero_le _
  | case2 rest => simp [Reading.Within]
  | case3 rest ih =>
      refine ih.later_size (ontoFirstLine BlockString.delimiter) ?_
      simp only [List.length_cons]
      omega
  | case4 rest ih =>
      refine ih.later_size ([] :: ·) ?_
      simp only [List.length_cons]
      omega
  | case5 c rest _ _ _ ih =>
      refine ih.later_size
        (fun lines => if c = '\n' ∨ c = '\r' then [] :: lines else ontoFirstLine [c] lines) ?_
      rw [List.length_cons]
      omega

/-- The number of characters of what stands at a place, the first of them included. -/
def Lexeme.size : Lexeme → Nat
  | ignored more => 1 + more
  | token _ _ more => 1 + more

theorem readDots_within (rest : List Char) :
    (readDots rest).Within Lexeme.size (1 + rest.length) := by
  unfold readDots
  split
  · simp [Reading.Within, Lexeme.size]
    omega
  · exact Nat.zero_le _
  · split
    · exact Nat.zero_le _
    · exact Nat.zero_le _

/-- Three quotes open a block string, and one quote opens a string. -/
theorem readQuoted_within (rest : List Char) :
    (readQuoted rest).Within Lexeme.size (1 + rest.length) := by
  unfold readQuoted
  split
  · next body =>
      have hLength : 1 + ('"' :: '"' :: body).length = 3 + body.length := by
        simp only [List.length_cons]
        omega
      refine (readBlockString_within body).later_bind (by omega) fun read hRead => ?_
      show 1 + (2 + read.2) ≤ _
      omega
  · refine (readString_within rest).later_bind (Nat.le_refl _) fun read hRead => ?_
    show 1 + read.2 ≤ 1 + rest.length
    omega

/-- What stands at a place, be it right or wrong, lies in the rest of the text. -/
theorem readLexeme_within (c : Char) (rest : List Char) :
    (readLexeme c rest).Within Lexeme.size (1 + rest.length) := by
  have hTaken (wanted : Char → Bool) : 1 + (rest.takeWhile wanted).length ≤ 1 + rest.length :=
    Nat.add_le_add_left (List.takeWhile_sublist wanted).length_le 1
  unfold readLexeme
  split
  · exact Nat.le_add_right 1 _
  · split
    · exact hTaken _
    · split
      · exact readDots_within rest
      · split
        · exact readQuoted_within rest
        · split
          · have hNumber := readNumber_within (c :: rest)
            cases hRead : readNumber (c :: rest) with
            | error fault =>
                rw [hRead] at hNumber
                have hPlace : fault.2 ≤ rest.length + 1 := hNumber
                show fault.2 ≤ 1 + rest.length
                omega
            | ok number =>
                rw [hRead] at hNumber
                have hSize : number.2 ≤ rest.length + 1 := hNumber
                show 1 + (number.2 - 1) ≤ 1 + rest.length
                omega
          · split
            · exact hTaken _
            · split
              · exact Nat.le_add_right 1 _
              · exact Nat.zero_le _

/-- What is left behind a token or an ignored part ends where the text ends. -/
theorem end_of_rest {c : Char} {rest : List Char} {more : Nat}
    (h : 1 + more ≤ 1 + rest.length) (offset : Nat) :
    offset + (1 + more) + (rest.drop more).length = offset + (c :: rest).length := by
  rw [List.length_drop, List.length_cons]
  omega

/-- Faults and tokens of a text lie in it or at its end. -/
theorem scanFrom_within (offset : Nat) (text : List Char) :
    match scanFrom offset text with
    | .ok tokens => ∀ token ∈ tokens, token.start ≤ offset + text.length
    | .error error => error.offset ≤ offset + text.length := by
  fun_induction scanFrom offset text with
  | case1 offset => simp
  | case2 offset c rest cause place hRead =>
      have hWithin := readLexeme_within c rest
      rw [hRead] at hWithin
      have hPlace : place ≤ 1 + rest.length := hWithin
      rw [List.length_cons]
      show offset + place ≤ offset + (rest.length + 1)
      omega
  | case3 offset c rest more hRead ih =>
      have hWithin := readLexeme_within c rest
      rw [hRead] at hWithin
      rwa [end_of_rest hWithin] at ih
  | case4 offset c rest kind value more hRead ih =>
      have hWithin := readLexeme_within c rest
      rw [hRead] at hWithin
      rw [end_of_rest hWithin] at ih
      cases hScan : scanFrom (offset + (1 + more)) (rest.drop more) with
      | error error =>
          rw [hScan] at ih
          exact ih
      | ok tokens =>
          rw [hScan] at ih
          exact List.forall_mem_cons.mpr ⟨Nat.le_add_right _ _, ih⟩

end ComponentQueries.GraphQL
