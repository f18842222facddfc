import Parlance.Lexer.Patterns
import Parlance.Proofs.Regex.Descent

/-!
# Spans of common patterns

What a pattern matches in a text depends on the characters from the offset on, and it is told by
their number. An expression whose first way from every place is found by counting characters has the
span that is counted, and an expression that descends through a form of texts has the span of the
longest of them.
-/

namespace Parlance

/-! ## Sets of listed characters -/

namespace Regex

/-- A letter listed among others holds itself, wherever it lies. -/
theorem Member.letter_holds (d c : Char) :
    (Member.letter d.toNat).holds .exact c = decide (c = d) := by
  have hsame : (c.toNat == d.toNat) = decide (c = d) := by
    rw [Bool.eq_iff_iff, beq_iff_eq, decide_eq_true_iff, Char.toNat_inj]
  have hlisted : [c.toNat].contains d.toNat = (c.toNat == d.toNat) := by
    rw [Bool.eq_iff_iff, List.contains_iff_mem, List.mem_singleton, beq_iff_eq, eq_comm]
  show (if d.toNat ≤ lastOfPlane then [c.toNat].contains d.toNat else c.toNat == d.toNat) = _
  rw [hlisted, ite_self, hsame]

/-- The set of the characters that are listed, or of all others. -/
def Charset.listing (chars : List Char) (negated : Bool := false) : Charset :=
  ⟨chars.map fun c => .letter c.toNat, negated, .exact⟩

/-- A character is in the set of the listed ones if it is one of them. -/
theorem Charset.listing_holds (chars : List Char) (negated : Bool) (c : Char) :
    (listing chars negated).holds c = (decide (c ∈ chars) != negated) := by
  have hlists : (listing chars negated).lists c = decide (c ∈ chars) := by
    rcases chars with _ | ⟨d, _ | ⟨e, others⟩⟩
    · rfl
    · show [c.toNat].contains d.toNat = _
      rw [Bool.eq_iff_iff]
      simp [Char.toNat_inj, eq_comm]
    · show ((d :: e :: others).map fun c => Member.letter c.toNat).any (·.holds .exact c) = _
      simp only [List.any_map, Function.comp_def, Member.letter_holds]
      rw [Bool.eq_iff_iff]
      simp
  rw [holds, hlists]
  rfl

/-- The way of one character is a step behind it. -/
theorem ways_listing (chars : List Char) (cursor : Cursor) :
    (one (.listing chars)).ways cursor =
      if cursor.after.head?.any (· ∈ chars) then [cursor.next] else [] := by
  have hholds : (Charset.listing chars).holds = fun c => decide (c ∈ chars) := by
    funext c
    rw [Charset.listing_holds, Bool.bne_false]
  rw [ways, hholds]

end Regex

namespace Lexer.Patterns

open Regex (Cursor Descending Longest)

variable {regex : Regex}

/-- If the first way of a plain expression from the offset on takes so many characters, or there is
none, then so does the match. -/
theorem spanAt?_eq_of_first {text : String} {offset : Nat} {length? : Option Nat}
    (hplain : regex.isPlain = true)
    (hfirst : (regex.ways ((Cursor.atStart text.toList).forward offset)).head? =
      length?.map ((Cursor.atStart text.toList).forward offset).forward)
    (hle : ∀ length ∈ length?, length ≤ (text.toList.drop offset).length)
    (hnil : text.toList.drop offset = [] → length? = none) :
    spanAt? regex text offset = length?.map fun length => (offset, offset + length) := by
  let cursor := (Cursor.atStart text.toList).forward offset
  have hstart : (Cursor.atStart text.toList).Placed := rfl
  have hplaced : cursor.Placed := hstart.forward offset
  have hafter : cursor.after = text.toList.drop offset := Cursor.after_forward _ _
  have hmatch : regex.match? cursor = (length?.map cursor.forward).map fun stop => ⟨stop, []⟩ := by
    rw [Regex.match?_eq_ways hplain hplaced, hfirst]
  show (regex.match? cursor).map (fun found => (cursor.offset, found.stop.offset)) = _
  rw [hmatch]
  cases hlength : length? with
  | none => rfl
  | some length =>
      have hinside : offset ≤ text.toList.length := Nat.le_of_not_lt fun hbeyond => by
        rw [hnil (List.drop_of_length_le (Nat.le_of_lt hbeyond))] at hlength
        cases hlength
      have hoffset : cursor.offset = offset := by
        rw [Cursor.offset_forward]
        show 0 + min offset text.toList.length = offset
        omega
      simp only [Option.map_some, Cursor.offset_forward, hoffset, hafter,
        Nat.min_eq_left (hle length hlength)]

/-- From every place the expression matches as many characters as this count of what follows. -/
structure Counts (regex : Regex) (length? : List Char → Option Nat) : Prop where
  plain : regex.isPlain = true
  first : ∀ cursor, (regex.ways cursor).head? = (length? cursor.after).map cursor.forward
  le : ∀ chars, ∀ length ∈ length? chars, length ≤ chars.length
  nil : length? [] = none

/-- An expression that matches as many characters as are counted has the span from the offset on. -/
theorem Counts.spanAt?_eq {length? : List Char → Option Nat} (h : Counts regex length?)
    (text : String) (offset : Nat) :
    spanAt? regex text offset =
      (length? (text.toList.drop offset)).map fun length => (offset, offset + length) := by
  refine spanAt?_eq_of_first h.plain ?_ (h.le _) fun hnil => by rw [hnil, h.nil]
  rw [h.first, Cursor.after_forward]
  rfl

/-- What an expression matches, wherever in a text it is tried: the longest beginning of what
follows that has the form, and nothing where no beginning has it. -/
structure MatchesLongest (regex : Regex) (form : List Char → Prop) : Prop where
  span_iff : ∀ text offset start stop, spanAt? regex text offset = some (start, stop) ↔
    start = offset ∧
      ∃ taken, Longest form (text.toList.drop offset) taken ∧ stop = offset + taken.length
  span_none_iff : ∀ text offset, spanAt? regex text offset = none ↔
    ∀ taken, taken <+: text.toList.drop offset → ¬ form taken

/-- An expression that descends through a form of texts, none of which is empty, matches the longest
one. -/
theorem matchesLongest_of_descends {form : List Char → Prop} (hplain : regex.isPlain = true)
    (h : regex.Descends form) (hnil : ¬ form []) : MatchesLongest regex form := by
  have hspan (text : String) (offset : Nat) : ∃ lengths,
      Descending form (text.toList.drop offset) lengths ∧
        spanAt? regex text offset = lengths.head?.map fun length => (offset, offset + length) := by
    obtain ⟨lengths, hways, hlengths⟩ := h ((Cursor.atStart text.toList).forward offset)
    rw [Cursor.after_forward] at hlengths
    refine ⟨lengths, hlengths, spanAt?_eq_of_first hplain (by rw [hways, List.head?_map]) ?_ ?_⟩
    · exact fun length hlength => ((hlengths.mem_iff _).1 (List.mem_of_mem_head? hlength)).1
    · intro hend
      rw [hlengths.head?_eq_none_iff]
      intro taken hbegins hform
      have htaken : taken = [] := List.prefix_nil.1 (hend ▸ hbegins)
      exact hnil (htaken ▸ hform)
  constructor
  · intro text offset start stop
    obtain ⟨lengths, hlengths, heq⟩ := hspan text offset
    rw [heq, Option.map_eq_some_iff]
    simp only [hlengths.head?_eq_some_iff, Prod.mk.injEq]
    constructor
    · rintro ⟨length, ⟨taken, htaken, rfl⟩, rfl, rfl⟩
      exact ⟨rfl, taken, htaken, rfl⟩
    · rintro ⟨rfl, taken, htaken, rfl⟩
      exact ⟨_, ⟨taken, htaken, rfl⟩, rfl, rfl⟩
  · intro text offset
    obtain ⟨lengths, hlengths, heq⟩ := hspan text offset
    rw [heq, Option.map_eq_none_iff, hlengths.head?_eq_none_iff]

end Lexer.Patterns

end Parlance
