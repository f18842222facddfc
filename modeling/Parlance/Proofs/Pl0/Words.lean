import Parlance.Proofs.Pl0.Lexing

/-!
# Keywords, names and numbers

Letters, digits and blank characters are different, so the first character tells whether a keyword
or a name may come next. A keyword comes next wherever it stands, for none of them begins another
one. A name is all letters from its place on if no keyword stands there, and a number all digits.
-/

namespace Parlance.Pl0

open Regex (Charset)

/-- What the rule for keywords takes. -/
abbrev Shape.keyword : Shape := .choice (keywords.map String.toList)

variable {chars rest piece : List Char} {c : Char} {keyword : String} {count : Nat}

/-! ## Characters -/

/-- The digits are those from zero to nine. -/
theorem digits_holds_iff : digits.holds c = true ↔ c.isDigit = true := by
  rw [Char.isDigit_iff_toNat]
  simp [digits, Charset.holds, Charset.lists, Regex.Member.holds, Regex.Folding.variants,
    Regex.lastOfPlane]

/-- Blank characters are not what can be seen of the basic ones. -/
theorem blanks_holds_eq_false (hlow : 0x21 ≤ c.toNat) (hhigh : c.toNat ≤ 0x84) :
    blanks.holds c = false := by
  have hrun : Unicode.runOf Unicode.blankRuns c.toNat = none := by
    simp only [Unicode.blankRuns, Unicode.runOf]
    rw [if_neg (by omega), if_neg (by omega), if_pos (by omega), if_neg (by omega)]
  simp [blanks, Charset.holds, Charset.lists, Regex.Member.holds, Regex.Property.holds,
    Unicode.isBlank, Unicode.inRuns, hrun]

/-- The small and the capital letters, by their code points. -/
theorem letters_holds_iff_toNat : letters.holds c = true ↔
    (0x61 ≤ c.toNat ∧ c.toNat ≤ 0x7a) ∨ (0x41 ≤ c.toNat ∧ c.toNat ≤ 0x5a) := by
  simp [letters, Charset.holds, Charset.lists, Regex.Member.holds, Regex.Folding.variants,
    Regex.lastOfPlane]

/-- The letters are the basic ones, small and capital. -/
theorem letters_holds_iff : letters.holds c = true ↔ c.isAlpha = true := by
  have halpha : c.isAlpha = (decide (c.val ≥ 'A'.val ∧ c.val ≤ 'Z'.val) ||
      (decide (c.val ≥ 'a'.val) && decide (c.val ≤ 'z'.val))) := rfl
  rw [letters_holds_iff_toNat, halpha]
  simp [UInt32.le_iff_toNat_le, or_comm]

/-- Letters are neither blank nor digits. -/
theorem letters_exclude (hc : letters.holds c = true) :
    blanks.holds c = false ∧ digits.holds c = false := by
  have hbounds := letters_holds_iff_toNat.1 hc
  refine ⟨blanks_holds_eq_false (by omega) (by omega), Bool.eq_false_iff.2 fun hdigit => ?_⟩
  have hdigits := (Char.isDigit_iff_toNat.1 (digits_holds_iff.1 hdigit)).2
  have hnine : '9'.toNat = 0x39 := rfl
  omega

/-- There is no run where a character comes first that is not in the set. -/
theorem Shape.taken_run_cons {set : Charset} :
    (run set).taken (c :: rest) = 0 ↔ set.holds c = false := by
  cases hc : set.holds c <;> simp [taken, hc]

/-! ## Keywords -/

/-- Keywords are made of letters, and none of them begins another one. -/
theorem keywords_spelled :
    (∀ keyword ∈ keywords, keyword.toList ≠ [] ∧ ∀ c ∈ keyword.toList, letters.holds c = true) ∧
    ∀ first ∈ keywords, ∀ second ∈ keywords, first.toList.isPrefixOf second.toList = true →
      first = second := by
  -- The letters are gone through as a list: there are finitely many characters, and the statement
  -- about them would be decided by all of them.
  have hletters : ∀ keyword ∈ keywords, keyword.toList.all letters.holds = true := by
    decide +kernel
  have hnonempty : ∀ keyword ∈ keywords, keyword.toList ≠ [] := by decide +kernel
  exact ⟨fun keyword hmem =>
    ⟨hnonempty keyword hmem, List.all_eq_true.1 (hletters keyword hmem)⟩, by decide +kernel⟩

/-- Where the rule for keywords takes something, that is a keyword. -/
theorem exists_keyword (h : Shape.keyword.taken rest ≠ 0) :
    ∃ keyword ∈ keywords, keyword.toList <+: rest ∧
      Shape.keyword.taken rest = keyword.toList.length := by
  rw [Shape.taken] at h ⊢
  cases hword : (keywords.map String.toList).find? fun word => word.isPrefixOf rest with
  | none => simp [hword] at h
  | some word =>
      obtain ⟨hmem, hstands⟩ := Shape.prefix_of_find? hword
      obtain ⟨keyword, hkeyword, rfl⟩ := List.mem_map.1 hmem
      exact ⟨keyword, hkeyword, hstands, rfl⟩

/-- The rule for keywords takes one that stands there. -/
theorem keywords_taken_eq (hmem : keyword ∈ keywords)
    (hstands : keyword.toList <+: rest) :
    Shape.keyword.taken rest = keyword.toList.length := by
  rw [Shape.taken]
  cases hword : (keywords.map String.toList).find? fun word => word.isPrefixOf rest with
  | none =>
      have hnot := List.find?_eq_none.1 hword keyword.toList (List.mem_map_of_mem hmem)
      exact (hnot (List.isPrefixOf_iff_prefix.2 hstands)).elim
  | some word =>
      obtain ⟨hword, hothers⟩ := Shape.prefix_of_find? hword
      obtain ⟨other, hother, rfl⟩ := List.mem_map.1 hword
      obtain hbegins | hbegins := List.prefix_or_prefix_of_prefix hothers hstands
      · cases keywords_spelled.2 other hother keyword hmem (List.isPrefixOf_iff_prefix.2 hbegins)
        rfl
      · cases keywords_spelled.2 keyword hmem other hother (List.isPrefixOf_iff_prefix.2 hbegins)
        rfl

/-- A keyword begins with a letter. -/
theorem letter_of_keyword (hmem : keyword ∈ keywords) (hstands : keyword.toList <+: c :: rest) :
    letters.holds c = true := by
  obtain ⟨hne, hletters⟩ := keywords_spelled.1 keyword hmem
  obtain ⟨d, others, htext⟩ := List.exists_cons_of_ne_nil hne
  rw [htext, List.cons_prefix_cons] at hstands
  refine hletters c ?_
  rw [htext, hstands.1]
  exact List.mem_cons_self

/-- No keyword stands where no letter comes first. -/
theorem keywords_taken_eq_zero (hc : letters.holds c = false) :
    Shape.keyword.taken (c :: rest) = 0 := by
  by_contra hne
  obtain ⟨keyword, hmem, hstands, -⟩ := exists_keyword hne
  rw [letter_of_keyword hmem hstands] at hc
  cases hc

/-- A keyword that stands there is the next piece. -/
theorem nextPiece?_keyword (hmem : keyword ∈ keywords) (hstands : keyword.toList <+: rest) :
    nextPiece? rest = some (some .keyword, keyword.toList.length) := by
  have htaken := keywords_taken_eq hmem hstands
  have hne : Shape.keyword.taken rest ≠ 0 := by
    rw [htaken]
    exact mt List.length_eq_zero_iff.1 (keywords_spelled.1 keyword hmem).1
  cases rest with
  | nil => exact (hne (Nat.le_zero.1 (Shape.keyword.taken_le []))).elim
  | cons c rest =>
      have hblank := (letters_exclude (letter_of_keyword hmem hstands)).1
      rw [nextPiece?, shapes, List.find?_cons_of_neg (by simp [Shape.taken_run_cons, hblank]),
        List.find?_cons_of_pos (by simpa using hne), Option.map_some, htaken]

/-! ## Names -/

/-- The next piece is a name if a letter comes next, and no keyword. -/
theorem nextPiece?_identifier_iff :
    nextPiece? (c :: rest) = some (some .identifier, count) ↔ letters.holds c = true ∧
      Shape.keyword.taken (c :: rest) = 0 ∧
      (Shape.run letters).taken (c :: rest) = count := by
  constructor
  · intro h
    obtain ⟨entry, hentry, heq⟩ := Option.map_eq_some_iff.1 h
    obtain ⟨hkind, hcount⟩ := Prod.mk.inj heq
    have hname : entry = (.run letters, some .identifier) := by
      have hmem := List.mem_of_find?_eq_some hentry
      simp only [shapes, List.mem_cons, List.not_mem_nil, or_false] at hmem
      rcases hmem with rfl | rfl | rfl | rfl | rfl | rfl <;> first | rfl | cases hkind
    subst hname
    have hletter : letters.holds c = true := by
      have hne := List.find?_some hentry
      simpa [Shape.taken_run_cons] using hne
    refine ⟨hletter, ?_, hcount⟩
    by_contra hkeyword
    have hblank := (letters_exclude hletter).1
    rw [shapes, List.find?_cons_of_neg (by simp [Shape.taken_run_cons, hblank]),
      List.find?_cons_of_pos (by simp [hkeyword])] at hentry
    cases hentry
  · rintro ⟨hletter, hkeyword, hcount⟩
    obtain ⟨hblank, hdigit⟩ := letters_exclude hletter
    have hname : (Shape.run letters).taken (c :: rest) ≠ 0 := by
      simp [Shape.taken_run_cons, hletter]
    rw [nextPiece?, shapes, List.find?_cons_of_neg (by simp [Shape.taken_run_cons, hblank]),
      List.find?_cons_of_neg (by simp [hkeyword]),
      List.find?_cons_of_neg (by simp [Shape.taken_run_cons, hdigit]),
      List.find?_cons_of_pos (by simp [hname]), Option.map_some, hcount]

/-- Letters where no keyword stands are a name, or the beginning of one. -/
theorem nextPiece?_of_letters (hpiece : piece ≠ []) (hletters : ∀ c ∈ piece, letters.holds c = true)
    (hnone : Shape.keyword.taken (piece ++ rest) = 0) :
    nextPiece? (piece ++ rest) =
      some (some .identifier, (piece ++ rest.takeWhile letters.holds).length) := by
  obtain ⟨c, others, rfl⟩ := List.exists_cons_of_ne_nil hpiece
  rw [List.cons_append, nextPiece?_identifier_iff, ← List.cons_append, Shape.taken,
    List.takeWhile_append_of_pos hletters]
  exact ⟨hletters c List.mem_cons_self, hnone, rfl⟩

/-- Where the next piece is a name, a letter comes next, and the name is all letters from there. -/
theorem name_of_nextPiece? (h : nextPiece? rest = some (some .identifier, count)) :
    ∃ c others, rest = c :: others ∧ letters.holds c = true ∧
      Shape.keyword.taken rest = 0 ∧
      (Shape.run letters).taken rest = count := by
  cases rest with
  | nil =>
      rw [nextPiece?_nil] at h
      cases h
  | cons c others => exact ⟨c, others, rfl, nextPiece?_identifier_iff.1 h⟩

/-- A name on its own is the next piece before anything that begins with no letter. -/
theorem IsLexeme.nextPiece?_name {name : String} (h : IsLexeme .identifier name)
    (hrest : ∀ c ∈ rest.head?, letters.holds c = false) :
    nextPiece? (name.toList ++ rest) = some (some .identifier, name.toList.length) := by
  cases rest with
  | nil => rwa [List.append_nil]
  | cons e others =>
      have he : letters.holds e = false := hrest e rfl
      obtain ⟨d, before, htext, hletter, hkeyword, hcount⟩ := name_of_nextPiece? h
      have hchars : name.toList ≠ [] := htext ▸ List.cons_ne_nil d before
      rw [htext, List.cons_append, nextPiece?_identifier_iff, ← List.cons_append, ← htext]
      refine ⟨hletter, ?_, ?_⟩
      · rw [Shape.taken_append hchars, hkeyword]
        rintro ⟨word, hmem, htail⟩
        obtain ⟨keyword, hkeyword, rfl⟩ := List.mem_map.1 hmem
        have hletter := (keywords_spelled.1 keyword hkeyword).2 e (List.mem_of_mem_tail htail)
        rw [he] at hletter
        cases hletter
      · rw [Shape.taken_append hchars (by simp [Shape.Continues, he]), hcount]

/-- What follows a name begins with no letter. -/
theorem not_letter_of_nextPiece?
    (h : nextPiece? (piece ++ rest) = some (some .identifier, piece.length)) :
    ∀ c ∈ rest.head?, letters.holds c = false := by
  intro c hc
  obtain ⟨others, rfl⟩ := List.head?_eq_some_iff.1 hc
  obtain ⟨_, _, -, -, -, hcount⟩ := name_of_nextPiece? h
  refine Bool.eq_false_iff.2 fun hletter => ?_
  rw [Shape.taken, List.takeWhile_append, List.takeWhile_cons, if_pos hletter] at hcount
  split at hcount
  · rw [List.length_append, List.length_cons] at hcount
    omega
  · rename_i hless
    exact hless hcount

/-! ## Numbers -/

/-- No keyword stands where a digit comes first. -/
theorem keywords_taken_digit (hc : digits.holds c = true) :
    Shape.keyword.taken (c :: rest) = 0 := by
  refine keywords_taken_eq_zero (Bool.eq_false_iff.2 fun hletter => ?_)
  rw [(letters_exclude hletter).2] at hc
  cases hc

/-- A text of digits is a number. -/
theorem nextPiece?_digits (hne : chars ≠ []) (h : ∀ c ∈ chars, c.isDigit = true) :
    nextPiece? chars = some (some .number, chars.length) := by
  have hdigits : chars.takeWhile digits.holds = chars :=
    List.takeWhile_eq_self_iff.2 fun c hmem => digits_holds_iff.2 (h c hmem)
  cases chars with
  | nil => exact (hne rfl).elim
  | cons c rest =>
      have hc := h c List.mem_cons_self
      have hbounds := Char.isDigit_iff_toNat.1 hc
      have hblank : blanks.holds c = false :=
        blanks_holds_eq_false (Nat.le_trans (by decide) hbounds.1)
          (Nat.le_trans hbounds.2 (by decide))
      have hentry : (shapes.find? fun entry => entry.1.taken (c :: rest) ≠ 0) =
          some (.run digits, some .number) := by
        rw [shapes, List.find?_cons_of_neg, List.find?_cons_of_neg, List.find?_cons_of_pos]
        · simp [Shape.taken, hdigits]
        · simp [keywords_taken_digit (digits_holds_iff.2 hc)]
        · simp [Shape.taken, hblank]
      rw [nextPiece?, hentry, Option.map_some, Shape.taken, hdigits]

/-- The digits of a number are a token. -/
theorem isLexeme_number (value : Nat) : IsLexeme .number (toString value) := by
  rw [IsLexeme, Nat.toString_eq_ofList_toDigits, String.toList_ofList]
  exact nextPiece?_digits Nat.toDigits_ne_nil fun c hmem =>
    Nat.isDigit_of_mem_toDigits (by omega) (by omega) hmem

end Parlance.Pl0
