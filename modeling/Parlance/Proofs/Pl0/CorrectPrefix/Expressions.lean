import Parlance.Proofs.Pl0.ByLevel
import Parlance.Proofs.Pl0.CorrectPrefix.Steps

/-!
# The correct prefix of an expression

Expressions are parsed with one function for each level. The rules of the grammar are left-recursive
and the loops of the parser are not, so a term is first put as a factor and rounds of factors, and
an expression as a term and rounds of terms.
-/

namespace Parlance.Pl0.CorrectPrefix

open Scanner
open Supply (left)

variable {scope : Scope} {whole after : Language} {token : Token Kind} {first rest : Tokens}

/-- What an expression of the level takes in. -/
abbrev SpansExpr (level : Level) : Tokens → Tokens → Prop := Spans (Expr.Derives level)

/-! ## Rounds -/

/-- A term is a factor and rounds of factors. -/
theorem spans_term_iff (first rest : Tokens) :
    SpansExpr .term first rest ↔ ∃ middle, SpansExpr .factor first middle ∧
      Repeats ["*", "/"] (SpansExpr .factor) middle rest := by
  constructor
  · rintro ⟨h⟩
    generalize hlevel : Level.term = level at h
    induction h with
    | factor h => exact ⟨_, ⟨h⟩, .done⟩
    | product _ hmem hright ih _ =>
        obtain ⟨middle, hfirst, hrepeats⟩ := ih rfl
        exact ⟨middle, hfirst, hrepeats.concat rfl hmem ⟨hright⟩⟩
    | _ => cases hlevel
  · rintro ⟨middle, ⟨hfirst⟩, hrepeats⟩
    have hterm : SpansExpr .term first middle := ⟨.factor hfirst⟩
    clear hfirst
    induction hrepeats with
    | done => exact hterm
    | round hmem hleads _ ih =>
        obtain ⟨hleft⟩ := hterm
        obtain ⟨hright⟩ := hleads
        exact ih ⟨.product hleft hmem hright⟩

/-- An expression is a term and rounds of terms. -/
theorem spans_expression_iff (first rest : Tokens) :
    SpansExpr .expression first rest ↔ ∃ middle, SpansExpr .term first middle ∧
      Repeats ["+", "-"] (SpansExpr .term) middle rest := by
  constructor
  · rintro ⟨h⟩
    generalize hlevel : Level.expression = level at h
    induction h with
    | term h => exact ⟨_, ⟨h⟩, .done⟩
    | sum _ hmem hright ih _ =>
        obtain ⟨middle, hfirst, hrepeats⟩ := ih rfl
        exact ⟨middle, hfirst, hrepeats.concat rfl hmem ⟨hright⟩⟩
    | _ => cases hlevel
  · rintro ⟨middle, ⟨hfirst⟩, hrepeats⟩
    have hexpression : SpansExpr .expression first middle := ⟨.term hfirst⟩
    clear hfirst
    induction hrepeats with
    | done => exact hexpression
    | round hmem hleads _ ih =>
        obtain ⟨hleft⟩ := hexpression
        obtain ⟨hright⟩ := hleads
        exact ih ⟨.sum hleft hmem hright⟩

/-! ## Factors -/

/-- A factor begins with a sign, with a name or a number, or with a parenthesis. -/
theorem then_factor_cons_iff :
    Then (SpansExpr .factor) after (token :: rest) ↔
      token.text ∈ ["+", "-"] ∧ Then (SpansExpr .factor) after rest ∨
        (token.kind = .number ∨ token.kind = .identifier) ∧ after rest ∨
          token.text = "(" ∧ Then (SpansExpr .expression) (Next (·.text = ")") after) rest := by
  constructor
  · rintro ⟨⟨h⟩, hafter⟩
    cases h with
    | number hkind => exact .inr (.inl ⟨.inl hkind, hafter⟩)
    | name hkind => exact .inr (.inl ⟨.inr hkind, hafter⟩)
    | group htext hinner hclosing =>
        exact .inr (.inr ⟨htext, .intro ⟨hinner⟩ (.intro hclosing hafter)⟩)
    | plus htext h => exact .inl ⟨by simp [htext], .intro ⟨h⟩ hafter⟩
    | minus htext h => exact .inl ⟨by simp [htext], .intro ⟨h⟩ hafter⟩
  · rintro (⟨hmem, ⟨h⟩, hafter⟩ | ⟨hkind | hkind, hafter⟩ | ⟨htext, ⟨hinner⟩, hclosing, hafter⟩)
    · simp only [List.mem_cons, List.not_mem_nil, or_false] at hmem
      rcases hmem with htext | htext
      · exact .intro ⟨.plus htext h⟩ hafter
      · exact .intro ⟨.minus htext h⟩ hafter
    · exact .intro ⟨.number hkind⟩ hafter
    · exact .intro ⟨.name hkind⟩ hafter
    · exact .intro ⟨.group htext hinner hclosing⟩ hafter

/-- A factor is viable if what follows it is. -/
theorem Viable.factor (h : Viable after []) : Viable (Then (SpansExpr .factor) after) [] :=
  (h.kind (.inr rfl)).mono fun _ ⟨hkind, hafter⟩ => .intro ⟨.number hkind⟩ hafter

/-- An expression is viable if what follows it is. -/
theorem Viable.expression (h : Viable after []) : Viable (Then (SpansExpr .expression) after) [] :=
  h.factor.mono fun _ ⟨⟨hvalue⟩, hafter⟩ => .intro ⟨.term (.factor hvalue)⟩ hafter

/-! ## Parsing -/

/-- The rounds of a loop by level take in operands. -/
theorem joined_rounds (symbols : List String) (operand : Scan Kind Expr)
    (hmem : ∀ text ∈ symbols, text ∈ terminals) :
    Rounds symbols operand (ByLevel.joined symbols operand) := by
  intro value scanner (hinside : Inside scanner)
  cases hupcoming : scanner.upcoming with
  | error fault =>
      refine ⟨id, ?_⟩
      rw [ByLevel.joined_looksFirst.of_error hupcoming]
      exact .cut hupcoming rfl
  | ok token =>
      refine ⟨.binary token.text value, ?_⟩
      by_cases htext : token.text ∈ symbols
      · obtain ⟨rest, hahead⟩ := hinside.ahead_eq hupcoming
        have htakes := hinside.toReady.takes_terminal hahead (hmem _ htext)
        rw [ByLevel.joined_of_mem hupcoming htext, consumingThen, if_neg htakes.not_ends]
        exact .taken htakes htext
      · rw [ByLevel.joined_of_not_mem hupcoming htext]
        exact .declined hupcoming htext rfl

/-- The texts that continue an expression. -/
abbrev operatorTexts : List String := ["*", "/"] ++ ["+", "-"]

/-- Operands that symbols join are taken in as an operand and rounds of operands. -/
theorem Parses.chain {symbols : List String} {operand : Scan Kind Expr} {bound : Nat}
    {leads span : Tokens → Tokens → Prop} {fits narrower : Language → Prop}
    (hmem : ∀ text ∈ symbols, text ∈ terminals) (hoperand : Parses operand leads fits bound)
    (hspan : ∀ first rest, span first rest ↔
      ∃ middle, leads first middle ∧ Repeats symbols leads middle rest)
    (hfits : ∀ after, narrower after →
      Avoids symbols after ∧ fits (Then (Repeats symbols leads) after)) :
    Parses (ByLevel.chain symbols operand) span narrower bound :=
  .loop (joined_rounds symbols operand hmem) hoperand hspan hfits fun _ _ _ => id

/-- Terms are taken in, if factors are. -/
theorem Parses.term {factor : Scan Kind Expr} {bound : Nat}
    (h : Parses factor (SpansExpr .factor) (fun _ => True) bound) :
    Parses (ByLevel.termOf factor) (SpansExpr .term) (Avoids ["*", "/"]) bound :=
  .chain (by decide) h spans_term_iff fun _ hafter => ⟨hafter, trivial⟩

/-- Expressions are taken in, if factors are. -/
theorem Parses.expression {factor : Scan Kind Expr} {bound : Nat}
    (h : Parses factor (SpansExpr .factor) (fun _ => True) bound) :
    Parses (ByLevel.expressionOf factor) (SpansExpr .expression) (Avoids operatorTexts) bound := by
  refine .chain (by decide) h.term spans_expression_iff fun after hafter => ⟨?_, ?_⟩
  · exact hafter.mono (by decide)
  · exact Repeats.avoids (hafter.mono (by decide)) (by decide)

/-- A factor that begins with a name or a number is that. -/
theorem then_factor_name_iff (hproper : Proper token)
    (hkind : token.kind = .number ∨ token.kind = .identifier) :
    Then (SpansExpr .factor) after (token :: rest) ↔ after rest := by
  have hquoted := hproper hkind.symm
  rw [then_factor_cons_iff]
  refine ⟨?_, fun h => .inr (.inl ⟨hkind, h⟩)⟩
  rintro (⟨hmem, -⟩ | ⟨-, h⟩ | ⟨htext, -⟩)
  · exact (hquoted (operators_terminal _ (List.mem_append_right _ hmem))).elim
  · exact h
  · exact (hquoted (by rw [htext]; decide)).elim

/-- A factor that begins with a sign goes on with a factor. -/
theorem then_factor_sign_iff (hproper : Proper token) (hmem : token.text ∈ ["+", "-"]) :
    Then (SpansExpr .factor) after (token :: rest) ↔ Then (SpansExpr .factor) after rest := by
  rw [then_factor_cons_iff]
  refine ⟨?_, fun h => .inl ⟨hmem, h⟩⟩
  rintro (⟨-, h⟩ | ⟨hkind, -⟩ | ⟨htext, -⟩)
  · exact h
  · exact (hproper hkind.symm (operators_terminal _ (List.mem_append_right _ hmem))).elim
  · exact absurd (htext ▸ hmem) (by decide)

/-- A factor that begins with a parenthesis goes on with an expression and a second one. -/
theorem then_factor_group_iff (hproper : Proper token) (htext : token.text = "(") :
    Then (SpansExpr .factor) after (token :: rest) ↔
      Then (SpansExpr .expression) (Next (·.text = ")") after) rest := by
  rw [then_factor_cons_iff]
  refine ⟨?_, fun h => .inr (.inr ⟨htext, h⟩)⟩
  rintro (⟨hmem, -⟩ | ⟨hkind, -⟩ | ⟨-, h⟩)
  · exact absurd (htext ▸ hmem) (by decide)
  · exact (hproper hkind.symm (by rw [htext]; decide)).elim
  · exact h

/-- A factor without a sign is taken in, if expressions on fewer tokens are. -/
theorem unsigned_follows {inner : Scan Kind Expr} {scanner : Scanner Kind} {bound : Nat}
    (hinner : Parses inner (SpansExpr .expression) (Avoids operatorTexts) bound)
    (hviable : Viable after []) (hinside : Inside scanner)
    (hahead : scanner.ahead = token :: rest) (hlt : rest.length < bound)
    (hsign : token.text ∉ ["+", "-"]) :
    Follows (ByLevel.unsigned inner scope) scanner (Then (SpansExpr .factor) after) after := by
  refine Follows.current hinside hviable.factor fun next others later hnext hlater hinside' => ?_
  cases hahead.symm.trans hnext
  have hproper := hinside.proper token (by simp [hahead])
  by_cases hnumber : token.kind = .number
  · rw [if_pos hnumber]
    refine .consume hinside' (hinside'.toReady.takes_kind hlater (by rw [hnumber]; decide))
      fun last hlast => .pure hlast ?_ ?_
    · exact fun _ => (then_factor_name_iff hproper (.inl hnumber)).2
    · exact fun _ _ => (then_factor_name_iff hproper (.inl hnumber)).1
  rw [if_neg hnumber]
  by_cases hidentifier : token.kind = .identifier
  · rw [if_pos hidentifier]
    by_cases hdeclared : (scope.symbol? token.text).isNone = true
    · rw [if_pos hdeclared]
      exact .violate_bind hinside' rfl
    rw [if_neg hdeclared]
    refine .consume hinside' (hinside'.toReady.takes_kind hlater (by rw [hidentifier]; decide))
      fun last hlast => .pure hlast ?_ ?_
    · exact fun _ => (then_factor_name_iff hproper (.inr hidentifier)).2
    · exact fun _ _ => (then_factor_name_iff hproper (.inr hidentifier)).1
  rw [if_neg hidentifier]
  refine .word (by decide) hinside' hviable.factor hlater ?_ ?_
  · -- The whole of a group is an expression and the parenthesis that closes it.
    intro htext last hlast hrest
    refine Follows.of_iff ?_ fun _ => then_factor_group_iff hproper htext
    refine (hinner _ (hviable.quoted (by decide)) (Next.heads.avoids (by decide)) last hlast
      (by simpa [hrest] using hlt)).bind fun value final _ hfinal _ => ?_
    exact (Follows.consumeText hfinal (by decide) hviable).map
  · intro htext last hlast hlast'
    refine .fail hlast hviable.factor (.inl rfl) hlast' fun others hfactor => ?_
    rcases then_factor_cons_iff.1 hfactor with ⟨hmem, -⟩ | ⟨hkind, -⟩ | ⟨hgroup, -⟩
    · exact hsign hmem
    · exact hkind.elim hnumber hidentifier
    · exact htext hgroup

/-- Factors are taken in, if factors and expressions on fewer tokens are. -/
theorem Parses.factorWith {factor inner : Scan Kind Expr} {bound : Nat}
    (hfactor : Parses factor (SpansExpr .factor) (fun _ => True) bound)
    (hinner : Parses inner (SpansExpr .expression) (Avoids operatorTexts) bound) :
    Parses (ByLevel.factorWith factor inner scope) (SpansExpr .factor) (fun _ => True)
      (bound + 1) := by
  intro after hviable _ scanner (hinside : Inside scanner) hlt
  refine .looksFirst ByLevel.factorWith_looksFirst hinside hviable.factor
    fun token rest hahead => ?_
  have hproper := hinside.proper token (by simp [hahead])
  have hrest : rest.length < bound := by simpa [hahead] using hlt
  refine .word (by decide) hinside hviable.factor hahead ?_ ?_
  · intro htext later hlater hahead
    refine Follows.of_iff ?_ fun _ => then_factor_sign_iff hproper (by simp [htext])
    exact hfactor after hviable trivial later hlater (by simpa [hahead] using hrest)
  intro hplus later hlater hahead
  refine .word (by decide) hlater hviable.factor hahead ?_ ?_
  · intro htext later hlater hahead
    refine Follows.of_iff ?_ fun _ => then_factor_sign_iff hproper (by simp [htext])
    exact (hfactor after hviable trivial later hlater (by simpa [hahead] using hrest)).map
  intro hminus later hlater hahead
  exact unsigned_follows hinner hviable hlater hahead hrest (by simp [hplus, hminus])

/-- Factors are taken in. -/
theorem factor_parses (bound : Nat) :
    Parses (ByLevel.factor scope) (SpansExpr .factor) (fun _ => True) bound :=
  .recursive (fun _ _ h => h.factorWith h.expression) bound

/-- Expressions are taken in where no operator can follow. -/
theorem expression_parses (bound : Nat) :
    Parses (Pl0.expression scope) (SpansExpr .expression) (Avoids operatorTexts) bound := by
  rw [ByLevel.expression_eq]
  exact (factor_parses bound).expression

/-- An expression is taken in where no operator can follow. -/
theorem expression_follows (scope : Scope) {scanner : Scanner Kind} (hviable : Viable after [])
    (hafter : Avoids operatorTexts after) (hinside : Inside scanner) :
    Follows (Pl0.expression scope) scanner (Then (SpansExpr .expression) after) after :=
  Parses.follows expression_parses hviable hafter hinside

end Parlance.Pl0.CorrectPrefix
