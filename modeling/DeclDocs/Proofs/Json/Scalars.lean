import DeclDocs.Json.Printer
import DeclDocs.Json.Reader

/-! # Strings and integers read back

The reader takes the text of a string back to the string, whatever its characters are and
whatever follows the closing quote (`Reader.stringBody_text`), and the text of an integer
back to the integer, if no more digits are written than the reader admits and what
follows could not continue a number (`Reader.scalar_int`).

A string is read unit by unit, and its units are put together at the end.  An escape
stands for one unit, so the step (`Reader.stringBody_escape`) is the same for a character
that is escaped and for one that is written as it is.
-/
namespace DeclDocs

namespace Decimal

theorem digitsValue_toDigits (n : Nat) : digitsValue (Nat.toDigits 10 n) = n :=
  Nat.ofDigitChars_eq_foldl.symm.trans (Nat.ofDigitChars_toDigits (by decide) (by decide))

/-- The digits of a positive number do not begin with a zero. -/
theorem head_toDigits_ne_zero {n : Nat} (hn : 0 < n) :
    ∃ c rest, Nat.toDigits 10 n = c :: rest ∧ c ≠ '0' := by
  induction n using Nat.strongRecOn with
  | ind n ih =>
    rw [Nat.toDigits_eq_if (by decide)]
    -- the first digit of a longer number is that of its tenth
    by_cases hsmall : n < 10
    · have hdigit : ∀ d : Nat, d < 10 → 0 < d → d.digitChar ≠ '0' := by decide
      exact ⟨_, [], if_pos hsmall, hdigit n hsmall hn⟩
    · obtain ⟨c, rest, hdigits, hc⟩ := ih (n / 10) (by omega) (by omega)
      exact ⟨c, rest ++ [(n % 10).digitChar], by rw [if_neg hsmall, hdigits]; rfl, hc⟩

end Decimal

namespace Json

open Reader (shortEscape)

/-- What is written for a character: a backslash and a letter, a backslash and the code of
a control character, or the character itself. -/
theorem escape_cases (c : Char) :
    (∃ letter, escape c = ['\\', letter] ∧ shortEscape letter = some c ∧ 0x20 ≤ letter.toNat) ∨
      (escape c = ['\\', 'u', '0', '0', hexDigit (c.toNat / 16), hexDigit (c.toNat % 16)] ∧
        c.toNat < 0x20) ∨
      (escape c = [c] ∧ c ≠ '"' ∧ c ≠ '\\' ∧ 0x20 ≤ c.toNat) := by
  unfold escape
  split
  next h => exact .inl ⟨'"', rfl, by rw [h]; rfl, by decide⟩
  next hquote =>
  split
  next h => exact .inl ⟨'\\', rfl, by rw [h]; rfl, by decide⟩
  next hbackslash =>
  split
  next h => exact .inl ⟨'n', rfl, by rw [h]; rfl, by decide⟩
  split
  next h => exact .inl ⟨'r', rfl, by rw [h]; rfl, by decide⟩
  split
  next h => exact .inl ⟨'t', rfl, by rw [h]; rfl, by decide⟩
  split
  next h => exact .inl ⟨'b', rfl, by rw [h]; rfl, by decide⟩
  split
  next h => exact .inl ⟨'f', rfl, by rw [h]; rfl, by decide⟩
  split
  next hcontrol => exact .inr (.inl ⟨rfl, hcontrol⟩)
  next hcontrol => exact .inr (.inr ⟨rfl, hquote, hbackslash, Nat.le_of_not_lt hcontrol⟩)

namespace Reader

/-! ## Strings -/

theorem not_isHigh_toNat (c : Char) : isHigh c.toNat = false := by
  have hvalid := c.valid
  simp only [isHigh, Bool.and_eq_false_iff, decide_eq_false_iff_not]
  rcases hvalid with h | h <;> (simp only [Char.toNat]; omega)

theorem not_isLow_toNat (c : Char) : isLow c.toNat = false := by
  have hvalid := c.valid
  simp only [isLow, Bool.and_eq_false_iff, decide_eq_false_iff_not]
  rcases hvalid with h | h <;> (simp only [Char.toNat]; omega)

theorem loneUnit_toNat (c : Char) : loneUnit c.toNat = c := by
  rw [loneUnit, not_isHigh_toNat, not_isLow_toNat]
  exact Char.ofNat_toNat c

theorem joinUnits_toNat_cons (c : Char) (units : List Nat) :
    joinUnits (c.toNat :: units) = c :: joinUnits units := by
  cases units with
  | nil => exact congrArg (· :: []) (loneUnit_toNat c)
  | cons unit rest =>
    rw [joinUnits, not_isHigh_toNat, loneUnit_toNat]
    rfl

/-- No character is half of a surrogate pair, so none is joined to the next one. -/
theorem joinUnits_map_toNat (text : List Char) : joinUnits (text.map Char.toNat) = text := by
  induction text with
  | nil => rfl
  | cons c rest ih => rw [List.map_cons, joinUnits_toNat_cons, ih]

theorem hexValue_hexDigit : ∀ n < 16, hexValue (hexDigit n) = some n := by
  decide

/-- One step of reading: what is written for a character is read as its unit. -/
theorem stringBody_escape (whole : List Char) (read : List Nat) (c next : Char)
    (rest : List Char) :
    stringBody whole read (escape c ++ next :: rest) =
      stringBody whole (c.toNat :: read) (next :: rest) := by
  rcases escape_cases c with ⟨letter, hc, hletter, -⟩ | ⟨hc, hcontrol⟩ |
    ⟨hc, hquote, hbackslash, hprintable⟩
  · have hu : letter ≠ 'u' := by
      rintro rfl
      cases hletter
    rw [hc]
    simp [stringBody, hletter, hu]
  · have hunit : codeUnit '0' '0' (hexDigit (c.toNat / 16)) (hexDigit (c.toNat % 16)) =
        some c.toNat := by
      have hzero : hexValue '0' = some 0 := rfl
      simp only [codeUnit, hzero, hexValue_hexDigit _ (show c.toNat / 16 < 16 by omega),
        hexValue_hexDigit _ (show c.toNat % 16 < 16 by omega)]
      show some _ = some _
      congr 1
      omega
    rw [hc]
    simp [stringBody, hunit]
  · rw [hc]
    simp [stringBody, hbackslash, Nat.not_lt.mpr hprintable]

theorem stringBody_flatMap_escape (whole : List Char) (read : List Nat) (text rest : List Char) :
    stringBody whole read (text.flatMap escape ++ '"' :: rest) =
      .ok (String.ofList (joinUnits (read.reverse ++ text.map Char.toNat)), rest) := by
  induction text generalizing read with
  | nil => simp [stringBody]
  | cons c more ih =>
    -- a step is about the character after the escape, and be it the closing quote
    obtain ⟨next, after, hafter⟩ : ∃ next after,
        more.flatMap escape ++ '"' :: rest = next :: after := by
      cases more.flatMap escape with
      | nil => exact ⟨'"', rest, rfl⟩
      | cons next after => exact ⟨next, after ++ '"' :: rest, rfl⟩
    rw [List.flatMap_cons, List.append_assoc, hafter, stringBody_escape, ← hafter, ih]
    simp

/-- **A string reads back.**  The reader takes what is written between the quotes back to
the text, whatever follows the closing quote. -/
theorem stringBody_text (whole : List Char) (text : String) (rest : List Char) :
    stringBody whole [] (text.toList.flatMap escape ++ '"' :: rest) = .ok (text, rest) := by
  rw [stringBody_flatMap_escape, List.reverse_nil, List.nil_append, joinUnits_map_toNat,
    String.ofList_toList]

/-! ## Integers -/

/-- Whether a text ends, or goes on with what may stand after a value. -/
def FollowsValue (rest : List Char) : Prop :=
  ∀ c ∈ rest.head?, c = ',' ∨ c = ']' ∨ c = '}'

theorem followsValue_nil : FollowsValue [] := by
  simp [FollowsValue]

theorem followsValue_cons {c : Char} {rest : List Char} (h : c = ',' ∨ c = ']' ∨ c = '}') :
    FollowsValue (c :: rest) := by
  simpa [FollowsValue] using h

theorem digits_toDigits (n : Nat) {rest : List Char} (h : FollowsValue rest) :
    digits (Nat.toDigits 10 n ++ rest) = (Nat.toDigits 10 n, rest) := by
  have hdigits : ∀ c ∈ Nat.toDigits 10 n, c.isDigit = true :=
    fun c hc => Nat.isDigit_of_mem_toDigits (by decide) (by decide) hc
  rw [digits, List.takeWhile_append_of_pos hdigits, List.dropWhile_append_of_pos hdigits]
  cases rest with
  | nil => simp
  | cons c after =>
    have hc : c.isDigit = false := by
      rcases h c rfl with rfl | rfl | rfl <;> rfl
    simp [hc]

theorem wholeDigits_toDigits (n : Nat) {rest : List Char} (h : FollowsValue rest) :
    wholeDigits (Nat.toDigits 10 n ++ rest) = some (Nat.toDigits 10 n, rest) := by
  rcases Nat.eq_zero_or_pos n with rfl | hn
  · rfl
  · obtain ⟨c, more, hdigits, hc⟩ := Decimal.head_toDigits_ne_zero hn
    have hdigit : c.isDigit = true :=
      Nat.isDigit_of_mem_toDigits (b := 10) (n := n) (by decide) (by decide)
        (by rw [hdigits]; exact List.mem_cons_self)
    have hread := digits_toDigits n h
    rw [hdigits] at hread ⊢
    rw [List.cons_append] at hread ⊢
    rw [wholeDigits, if_neg hc, if_pos hdigit, hread]

/-- No fraction and no exponent begin where a value may end. -/
theorem unsigned_toDigits (n digitLimit : Nat) (negative : Bool) {rest : List Char}
    (hlimit : Decimal.digitCount n ≤ digitLimit) (h : FollowsValue rest) :
    unsigned digitLimit negative (Nat.toDigits 10 n ++ rest) =
      .ok (some (.int (if negative then -(n : Int) else n), rest)) := by
  have hfraction : fractionDigits rest = ([], rest) := by
    cases rest with
    | nil => rfl
    | cons c after => rcases h c rfl with rfl | rfl | rfl <;> rfl
  have hexponent : exponent rest = (none, rest) := by
    cases rest with
    | nil => rfl
    | cons c after => rcases h c rfl with rfl | rfl | rfl <;> rfl
  have hshort : ¬ digitLimit < (Nat.toDigits 10 n).length := Nat.not_lt.mpr hlimit
  simp only [unsigned, wholeDigits_toDigits n h, hfraction, hexponent, if_neg hshort,
    Decimal.digitsValue_toDigits]

/-- Where a number begins there is no word, not even after a minus sign. -/
theorem words_of_isDigit {sign : List Char} (hsign : sign = [] ∨ sign = ['-']) {c : Char}
    (hc : c.isDigit = true) (rest : List Char) :
    (words.findSome? fun (word, value) =>
      (after? word.toList (sign ++ c :: rest)).map (value, ·)) = none := by
  have hne : ∀ d : Char, d.isDigit = false → d ≠ c := by
    rintro d hd rfl
    rw [hc] at hd
    cases hd
  rcases hsign with rfl | rfl <;> simp [words, after?, hne]

/-- The text of an integer: its digits, after a minus sign if it is negative. -/
theorem toList_toString_cases (value : Int) :
    ∃ c more, Nat.toDigits 10 value.natAbs = c :: more ∧ c.isDigit = true ∧
      ((0 ≤ value ∧ (toString value).toList = c :: more) ∨
        (value < 0 ∧ (toString value).toList = '-' :: c :: more)) := by
  obtain ⟨c, more, hmore⟩ := List.exists_cons_of_ne_nil (Nat.toDigits_ne_nil (n := value.natAbs)
    (b := 10))
  have hc : c.isDigit = true :=
    Nat.isDigit_of_mem_toDigits (b := 10) (n := value.natAbs) (by decide) (by decide)
      (by rw [hmore]; exact List.mem_cons_self)
  refine ⟨c, more, hmore, hc, ?_⟩
  rw [← hmore]
  cases value with
  | ofNat n => exact .inl ⟨Int.natCast_nonneg n, Nat.toList_repr⟩
  | negSucc n =>
    refine .inr ⟨Int.negSucc_lt_zero n, ?_⟩
    show ("-" ++ (n + 1).repr).toList = _
    rw [String.toList_append, Nat.toList_repr]
    rfl

/-- **An integer reads back**, whatever follows its text, unless that could continue it. -/
theorem scalar_int (digitLimit : Nat) (value : Int) {rest : List Char}
    (hlimit : Decimal.digitCount value.natAbs ≤ digitLimit) (h : FollowsValue rest) :
    scalar digitLimit ((toString value).toList ++ rest) = .ok (.int value, rest) := by
  obtain ⟨c, more, hmore, hc, htext⟩ := toList_toString_cases value
  have hread := fun negative => unsigned_toDigits value.natAbs digitLimit negative hlimit h
  rw [hmore, List.cons_append] at hread
  rcases htext with ⟨hsign, htext⟩ | ⟨hsign, htext⟩
  · have hminus : c ≠ '-' := by
      rintro rfl
      cases hc
    have hwords := words_of_isDigit (.inl rfl) hc (more ++ rest)
    have hvalue : ((value.natAbs : Nat) : Int) = value := by omega
    rw [List.nil_append] at hwords
    simp only [htext, List.cons_append, scalar, hwords]
    -- a digit is no minus sign
    split
    next _ heq =>
      cases heq
      exact absurd rfl hminus
    next =>
      rw [hread, if_neg Bool.false_ne_true, hvalue]
      rfl
  · have hwords := words_of_isDigit (.inr rfl) hc (more ++ rest)
    have hvalue : -((value.natAbs : Nat) : Int) = value := by omega
    simp only [List.cons_append, List.nil_append] at hwords
    simp only [htext, List.cons_append, scalar, hwords, hread, if_true, hvalue]
    rfl

end Reader
end Json
end DeclDocs
