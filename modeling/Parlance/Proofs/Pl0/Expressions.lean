import Parlance.Proofs.Pl0.Derivation
import Parlance.Proofs.Pl0.Reading
import Parlance.Proofs.Precedence.Engine

/-!
# Parsing expressions

The parser by precedence, with the operators of PL/0, derives expressions. Each of its limits stands
for a level of the grammar: the loop goes on through the levels up to that one, and stops in front
of an operator that belongs to none of them. Soundness keeps the level that has been reached so far,
and completeness is an induction on the derivation.
-/

namespace Parlance.Pl0

open Scanner Precedence

variable {scope : Scope} {limit : Limit} {level : Level} {reparse : Reparse Scope Kind Expr}
  {scanner start final : Scanner Kind} {left value result : Expr}

/-! ## Limits and levels -/

/-- The limit admits the operators that the level is put together with. -/
structure Level.Fits (level : Level) (limit : Limit) : Prop where
  product : limit.admits 1 = true ↔ level ≠ .factor
  sum : limit.admits 2 = true ↔ level = .expression

/-- An expression of the level is not continued by a token with this text. -/
structure Level.Stops (level : Level) (text : String) : Prop where
  product : level ≠ .factor → text ∉ ["*", "/"]
  sum : level = .expression → text ∉ ["+", "-"]

/-- What a sign stands before is a factor. -/
theorem factor_fits_upTo : Level.factor.Fits (.upTo 0) := ⟨by decide, by decide⟩

/-- On the right of a multiplication stands a factor. -/
theorem factor_fits_below : Level.factor.Fits (.below 1) := ⟨by decide, by decide⟩

/-- On the right of an addition stands a term. -/
theorem term_fits_below : Level.term.Fits (.below 2) := ⟨by decide, by decide⟩

/-- Without a limit everything is an expression. -/
theorem expression_fits_all : Level.expression.Fits .all := ⟨by decide, by decide⟩

/-- Nothing goes on with a factor. -/
theorem factor_stops (text : String) : Level.factor.Stops text :=
  ⟨fun h => (h rfl).elim, (nomatch ·)⟩

/-! ## Steps -/

/-- The operators between operands are found by their symbols. -/
theorem operators_tail_lookup_iff (text : String) (row : Row (Tail Scope Kind Expr)) :
    operators.tail.lookup text = some row ↔
      text ∈ ["*", "/"] ∧ arithmetic 1 ["*", "/"] = row ∨
        text ∈ ["+", "-"] ∧ arithmetic 2 ["+", "-"] = row := by
  simp only [operators, List.lookup_cons, List.lookup_nil, List.mem_cons, List.not_mem_nil,
    or_false]
  repeat' split
  all_goals simp_all

/-- The signs are found by their symbols. -/
theorem operators_before_lookup_iff (text : String) (row : Row UnaryAction) :
    operators.before.lookup text = some row ↔
      text = "+" ∧ sign "+" id = row ∨ text = "-" ∧ sign "-" .negate = row := by
  simp only [operators, List.lookup_cons, List.lookup_nil]
  repeat' split
  all_goals simp_all

/-- The loop stops in front of what continues no expression of the level. -/
theorem extend_stops_iff (hfits : level.Fits limit) :
    operators.extend reparse scope limit left scanner = .ok none final ↔
      final = scanner.look ∧ ∃ token, scanner.upcoming = .ok token ∧ level.Stops token.text := by
  rw [Grammar.extend_none_iff]
  refine and_congr_right fun _ => exists_congr fun token => and_congr_right fun _ => ?_
  constructor
  · intro h
    constructor
    · intro hlevel hmem
      have hadmits := h _ ((operators_tail_lookup_iff _ _).2 (.inl ⟨hmem, rfl⟩))
      exact Bool.eq_false_iff.1 hadmits (hfits.product.2 hlevel)
    · intro hlevel hmem
      have hadmits := h _ ((operators_tail_lookup_iff _ _).2 (.inr ⟨hmem, rfl⟩))
      exact Bool.eq_false_iff.1 hadmits (hfits.sum.2 hlevel)
  · intro h row hrow
    rcases (operators_tail_lookup_iff _ _).1 hrow with ⟨hmem, rfl⟩ | ⟨hmem, rfl⟩
    · exact Bool.eq_false_iff.2 fun hadmits => h.product (hfits.product.1 hadmits) hmem
    · exact Bool.eq_false_iff.2 fun hadmits => h.sum (hfits.sum.1 hadmits) hmem

/-- What continues an expression of the level: an operator with its right operand. -/
inductive Continues (reparse : Reparse Scope Kind Expr) (scope : Scope) (level : Level)
    (token : Token Kind) (taken : Scanner Kind) (right : Expr) (final : Scanner Kind) : Prop where
  | product : level ≠ .factor → token.text ∈ ["*", "/"] →
      reparse scope (.below 1) taken = .ok right final →
      Continues reparse scope level token taken right final
  | sum : level = .expression → token.text ∈ ["+", "-"] →
      reparse scope (.below 2) taken = .ok right final →
      Continues reparse scope level token taken right final

/-- A round of the loop takes in an operator and its right operand. -/
theorem extend_continues_iff (hfits : level.Fits limit) :
    operators.extend reparse scope limit left scanner = .ok (some result) final ↔
      ∃ token taken right, scanner.Takes token taken ∧
        Continues reparse scope level token taken right final ∧
        result = .binary token.text left right := by
  rw [Grammar.extend_some_iff]
  constructor
  · rintro ⟨token, row, taken, htakes, hrow, hadmits, haction⟩
    rcases (operators_tail_lookup_iff _ _).1 hrow with ⟨hmem, rfl⟩ | ⟨hmem, rfl⟩
    · obtain ⟨right, middle, hright, hcombine⟩ := haction
      cases hcombine
      exact ⟨token, taken, right, htakes, .product (hfits.product.1 hadmits) hmem hright, rfl⟩
    · obtain ⟨right, middle, hright, hcombine⟩ := haction
      cases hcombine
      exact ⟨token, taken, right, htakes, .sum (hfits.sum.1 hadmits) hmem hright, rfl⟩
  · rintro ⟨token, taken, right, htakes, hcontinues, rfl⟩
    cases hcontinues with
    | product hlevel hmem hright =>
        exact ⟨token, _, taken, htakes, (operators_tail_lookup_iff _ _).2 (.inl ⟨hmem, rfl⟩),
          hfits.product.2 hlevel, right, final, hright, rfl⟩
    | sum hlevel hmem hright =>
        exact ⟨token, _, taken, htakes, (operators_tail_lookup_iff _ _).2 (.inr ⟨hmem, rfl⟩),
          hfits.sum.2 hlevel, right, final, hright, rfl⟩

/-- What a factor without a sign is, from its first token on: a number, a name, or an expression in
parentheses. -/
inductive Primary (parser : Scope → Scan Kind Expr) (scope : Scope) (token : Token Kind)
    (taken : Scanner Kind) : Expr → Scanner Kind → Prop where
  | number : token.kind = .number →
      Primary parser scope token taken (.number (numberValue token.text)) taken
  | name : token.kind = .identifier → (scope.symbol? token.text).isSome = true →
      Primary parser scope token taken (.symbol token.text) taken
  | group {inner : Expr} {middle last : Scanner Kind} {closing : Token Kind} :
      token.kind ≠ .number → token.kind ≠ .identifier → token.text = "(" →
      parser scope taken = .ok inner middle → middle.Takes closing last → closing.text = ")" →
      Primary parser scope token taken inner last

/-- What an operand without a sign is parsed to is one, from the token that is taken first. -/
theorem factorWith_takes {parser : Scope → Scan Kind Expr}
    (h : factorWith parser scope scanner = .ok value final) :
    ∃ token taken, scanner.Takes token taken ∧ Primary parser scope token taken value final := by
  unfold factorWith at h
  obtain ⟨token, _, hcurrent, h⟩ := Rule.bind_ok_iff.1 h
  obtain ⟨hupcoming, rfl⟩ := current_ok_iff.1 hcurrent
  have htaken {text : String} {taken : Scanner Kind}
      (hconsume : consume scanner.look = .ok text taken) :
      text = token.text ∧ scanner.Takes token taken := by
    obtain ⟨first, htakes, rfl⟩ := consume_ok_iff.1 hconsume
    rw [look_takes_iff] at htakes
    cases hupcoming.symm.trans htakes.upcoming_eq
    exact ⟨rfl, htakes⟩
  cases hkind : token.kind
  case number =>
    simp only [hkind] at h
    obtain ⟨text, hconsume, rfl⟩ := Rule.map_ok_iff.1 h
    obtain ⟨rfl, htakes⟩ := htaken hconsume
    exact ⟨token, final, htakes, .number hkind⟩
  case identifier =>
    simp only [hkind] at h
    by_cases hdeclared : (scope.symbol? token.text).isNone = true
    · rw [if_pos hdeclared] at h
      obtain ⟨_, _, hfail, -⟩ := Rule.bind_ok_iff.1 h
      exact (fail_ne_ok hfail).elim
    · rw [if_neg hdeclared] at h
      obtain ⟨text, hconsume, rfl⟩ := Rule.map_ok_iff.1 h
      obtain ⟨-, htakes⟩ := htaken hconsume
      refine ⟨token, final, htakes, .name hkind ?_⟩
      rwa [← Option.not_isNone, Bool.not_eq_true', ← Bool.not_eq_true]
  -- A token of any other kind must be the parenthesis that opens a group.
  all_goals
    simp only [hkind] at h
    obtain ⟨_, taken, hopening, h⟩ := Rule.bind_ok_iff.1 h
    obtain ⟨inner, middle, hinner, h⟩ := Rule.bind_ok_iff.1 h
    obtain ⟨_, hclosing, rfl⟩ := Rule.map_ok_iff.1 h
    obtain ⟨-, first, htakes, htext⟩ := consumeText_ok_iff.1 hopening
    rw [look_takes_iff] at htakes
    cases hupcoming.symm.trans htakes.upcoming_eq
    obtain ⟨-, closing, hlast, hclosingText⟩ := consumeText_ok_iff.1 hclosing
    exact ⟨token, taken, htakes,
      .group (by simp [hkind]) (by simp [hkind]) htext hinner hlast hclosingText⟩

/-- What an operand without a sign is, from its first token on, is parsed to it. -/
theorem Primary.factorWith_ok {parser : Scope → Scan Kind Expr} {token : Token Kind}
    {taken : Scanner Kind} (hprimary : Primary parser scope token taken value final)
    (htakes : scanner.Takes token taken) :
    factorWith parser scope scanner = .ok value final := by
  have hconsume : consume scanner.look = .ok token.text taken :=
    consume_ok_iff.2 ⟨token, look_takes_iff.2 htakes, rfl⟩
  unfold factorWith
  refine Rule.bind_ok_iff.2 ⟨token, _, current_ok_iff.2 ⟨htakes.upcoming_eq, rfl⟩, ?_⟩
  cases hprimary with
  | number hkind =>
      simp only [hkind]
      exact Rule.map_ok_iff.2 ⟨token.text, hconsume, rfl⟩
  | name hkind hdeclared =>
      simp only [hkind]
      rw [if_neg (by rw [← Option.not_isSome, hdeclared]; decide)]
      exact Rule.map_ok_iff.2 ⟨token.text, hconsume, rfl⟩
  | group hnumber hidentifier htext hinner hlast hclosing =>
      have hopening {message : String} :
          consumeText "(" message scanner.look = .ok "(" taken :=
        consumeText_ok_iff.2 ⟨rfl, token, look_takes_iff.2 htakes, htext⟩
      have hclose {message : String} : consumeText ")" message _ = .ok ")" final :=
        consumeText_ok_iff.2 ⟨rfl, _, hlast, hclosing⟩
      cases hkind : token.kind
      case number => exact (hnumber hkind).elim
      case identifier => exact (hidentifier hkind).elim
      all_goals
        refine (Rule.bind_of_ok hopening _).trans ?_
        rw [Rule.bind_of_ok hinner, Rule.bind_of_ok hclose]
        rfl

/-- What an operand is, from its first token on: a sign with an operand, or one without a sign. -/
inductive Begins (reparse : Reparse Scope Kind Expr) (scope : Scope) (token : Token Kind)
    (taken : Scanner Kind) : Expr → Scanner Kind → Prop where
  | plus {inner : Expr} {last : Scanner Kind} : token.text = "+" →
      reparse scope (.upTo 0) taken = .ok inner last →
      Begins reparse scope token taken inner last
  | minus {inner : Expr} {last : Scanner Kind} : token.text = "-" →
      reparse scope (.upTo 0) taken = .ok inner last →
      Begins reparse scope token taken (.negate inner) last
  | primary {inner : Expr} {last : Scanner Kind} : token.text ∉ ["+", "-"] →
      Primary (reparse · .all) scope token taken inner last →
      Begins reparse scope token taken inner last

/-- Parsing an operand takes the first token of one. -/
theorem operand_begins_iff :
    operators.operand reparse scope scanner = .ok value final ↔
      ∃ token taken, scanner.Takes token taken ∧ Begins reparse scope token taken value final := by
  rw [Grammar.operand_ok_iff]
  constructor
  · rintro ⟨token, hupcoming, h⟩
    cases hrow : operators.before.lookup token.text with
    | none =>
        simp only [hrow] at h
        change factorWith (reparse · .all) scope scanner.look = _ at h
        obtain ⟨first, taken, htakes, hprimary⟩ := factorWith_takes h
        rw [look_takes_iff] at htakes
        cases hupcoming.symm.trans htakes.upcoming_eq
        refine ⟨token, taken, htakes, .primary (fun hmem => ?_) hprimary⟩
        have hsome (row) := (operators_before_lookup_iff token.text row).2
        simp only [hrow, List.mem_cons, List.not_mem_nil, or_false] at hsome hmem
        rcases hmem with hplus | hminus
        · cases hsome _ (.inl ⟨hplus, rfl⟩)
        · cases hsome _ (.inr ⟨hminus, rfl⟩)
    | some row =>
        simp only [hrow] at h
        obtain ⟨taken, inner, middle, htakes, hinner, haction⟩ := h
        rcases (operators_before_lookup_iff _ _).1 hrow with ⟨htext, rfl⟩ | ⟨htext, rfl⟩
        · cases haction
          exact ⟨token, taken, htakes, .plus htext hinner⟩
        · cases haction
          exact ⟨token, taken, htakes, .minus htext hinner⟩
  · rintro ⟨token, taken, htakes, hbegins⟩
    refine ⟨token, htakes.upcoming_eq, ?_⟩
    cases hbegins with
    | plus htext hinner =>
        rw [(operators_before_lookup_iff token.text _).2 (.inl ⟨htext, rfl⟩)]
        exact ⟨taken, _, _, htakes, hinner, rfl⟩
    | minus htext hinner =>
        rw [(operators_before_lookup_iff token.text _).2 (.inr ⟨htext, rfl⟩)]
        exact ⟨taken, _, _, htakes, hinner, rfl⟩
    | primary hsign hprimary =>
        have hrow : operators.before.lookup token.text = none := by
          refine Option.eq_none_iff_forall_ne_some.2 fun row hrow => hsign ?_
          rcases (operators_before_lookup_iff _ _).1 hrow with ⟨htext, -⟩ | ⟨htext, -⟩ <;>
            simp [htext]
        rw [hrow]
        exact hprimary.factorWith_ok (look_takes_iff.2 htakes)

/-! ## What is parsed is derived -/

/-- An expression of this level is given, with its names declared. -/
abbrev ExprGiven (level : Level) (scope : Scope) : Scanner Kind → Expr → Scanner Kind → Prop :=
  Gives (Expr.Derives level) (Expr.Resolves scope)

/-- A value is derived, and what comes next does not continue it. -/
def ExprGivenUpTo (level : Level) (scope : Scope) (start : Scanner Kind) (value : Expr)
    (final : Scanner Kind) : Prop :=
  ExprGiven level scope start value final ∧
    ∃ token, final.upcoming = .ok token ∧ level.Stops token.text

/-- What is derived on one level is derived on each level above. -/
structure Level.Within (lower upper : Level) : Prop where
  ofFactor : upper = .factor → lower = .factor
  ofExpression : lower = .expression → upper = .expression

/-- A level within a level within a third is within that. -/
theorem Level.Within.trans {lower middle upper : Level} (hfirst : lower.Within middle)
    (hsecond : middle.Within upper) : lower.Within upper :=
  ⟨fun h => hfirst.ofFactor (hsecond.ofFactor h),
    fun h => hsecond.ofExpression (hfirst.ofExpression h)⟩

/-- A derivation counts on every level above. -/
theorem Expr.Derives.lift {lower upper : Level} {first rest : Tokens}
    (h : Expr.Derives lower first value rest) (hlevels : lower.Within upper) :
    Expr.Derives upper first value rest := by
  cases lower <;> cases upper
  case factor.factor | term.term | expression.expression => exact h
  case factor.term => exact .factor h
  case factor.expression => exact .term (.factor h)
  case term.expression => exact .term h
  case term.factor => cases hlevels.ofFactor rfl
  case expression.factor => cases hlevels.ofFactor rfl
  case expression.term => cases hlevels.ofExpression rfl

/-- What the loop of a level has reached: a value of a level up to that one. -/
def ExprReached (level : Level) (scope : Scope) (start : Scanner Kind) (value : Expr)
    (middle : Scanner Kind) : Prop :=
  ∃ phase : Level, phase.Within level ∧ ExprGiven phase scope start value middle ∧
    (phase = .expression → ∀ token, middle.upcoming = .ok token → token.text ∉ ["*", "/"])

/-- An operand is a factor. -/
theorem Begins.parsed {token : Token Kind} {taken : Scanner Kind}
    (h : Begins reparse scope token taken value final) (htakes : scanner.Takes token taken)
    (hreparse : ∀ level limit inner after, level.Fits limit →
      reparse scope limit taken = .ok inner after → ExprGivenUpTo level scope taken inner after) :
    ExprGiven .factor scope scanner value final := by
  cases h with
  | plus htext hinner =>
      obtain ⟨hparsed, -⟩ := hreparse _ _ _ _ factor_fits_upTo hinner
      exact ⟨htakes.ahead_eq ▸ .plus htext hparsed.derives, hparsed.resolves,
        htakes.passes.trans hparsed.passes⟩
  | minus htext hinner =>
      obtain ⟨hparsed, -⟩ := hreparse _ _ _ _ factor_fits_upTo hinner
      exact ⟨htakes.ahead_eq ▸ .minus htext hparsed.derives, hparsed.resolves,
        htakes.passes.trans hparsed.passes⟩
  | primary hsign hprimary =>
      cases hprimary with
      | number hkind => exact ⟨htakes.ahead_eq ▸ .number hkind, trivial, htakes.passes⟩
      | name hkind hdeclared => exact ⟨htakes.ahead_eq ▸ .name hkind, hdeclared, htakes.passes⟩
      | group hnumber hidentifier htext hinner hlast hclosing =>
          obtain ⟨hparsed, -⟩ := hreparse _ _ _ _ expression_fits_all hinner
          exact ⟨htakes.ahead_eq ▸ .group htext (hlast.ahead_eq ▸ hparsed.derives) hclosing,
            hparsed.resolves, (htakes.passes.trans hparsed.passes).trans hlast.passes⟩

/-- A round of the loop keeps it that a value has been reached. -/
theorem Continues.reached {middle taken : Scanner Kind} {token : Token Kind} {right : Expr}
    (h : Continues reparse scope level token taken right final) (htakes : middle.Takes token taken)
    (hleft : ExprReached level scope start left middle)
    (hreparse : ∀ level limit inner after, level.Fits limit →
      reparse scope limit taken = .ok inner after → ExprGivenUpTo level scope taken inner after) :
    ExprReached level scope start (.binary token.text left right) final := by
  obtain ⟨phase, hwithin, hparsed, hnext⟩ := hleft
  have hderives := htakes.ahead_eq ▸ hparsed.derives
  cases h with
  | product hlevel hmem hright =>
      obtain ⟨hparsed', -⟩ := hreparse _ _ _ _ factor_fits_below hright
      -- A sum has been taken in up to its last product, so what has been reached is a term.
      have hphase : phase ≠ .expression := fun hphase =>
        hnext hphase token htakes.upcoming_eq hmem
      have hterm : phase.Within .term := ⟨(nomatch ·), fun h => (hphase h).elim⟩
      refine ⟨.term, ⟨fun h => (hlevel h).elim, (nomatch ·)⟩, ⟨?_, ?_, ?_⟩, (nomatch ·)⟩
      · exact .product (hderives.lift hterm) hmem hparsed'.derives
      · exact ⟨hparsed.resolves, hparsed'.resolves⟩
      · exact (hparsed.passes.trans htakes.passes).trans hparsed'.passes
  | sum hlevel hmem hright =>
      obtain ⟨hparsed', next, hupcoming, hstops⟩ := hreparse _ _ _ _ term_fits_below hright
      have hexpression : phase.Within .expression := ⟨(nomatch ·), fun _ => rfl⟩
      refine ⟨.expression, ⟨fun h => ?_, fun _ => hlevel⟩, ⟨?_, ?_, ?_⟩, fun _ other hother => ?_⟩
      · cases hlevel.symm.trans h
      · exact .sum (hderives.lift hexpression) hmem hparsed'.derives
      · exact ⟨hparsed.resolves, hparsed'.resolves⟩
      · exact (hparsed.passes.trans htakes.passes).trans hparsed'.passes
      · cases hupcoming.symm.trans hother
        exact hstops.product (nomatch ·)

/-- What the parser by precedence gives is derived on the level of its limit. -/
theorem parse_parsed {level : Level} {limit : Limit} {start final : Scanner Kind} {value : Expr}
    (hfits : level.Fits limit) (h : operators.parse scope limit start = .ok value final) :
    ExprGivenUpTo level scope start value final := by
  rw [Grammar.parse_eq] at h
  obtain ⟨first, middle, hoperand, hloop⟩ := Rule.bind_ok_iff.1 h
  have hinside {taken : Scanner Kind} (level limit inner after) (hfits : level.Fits limit)
      (hinner : operators.within start scope limit taken = .ok inner after) :
      ExprGivenUpTo level scope taken inner after := by
    obtain ⟨hleft, hinner⟩ := Rule.below_ok_iff.1 hinner
    exact parse_parsed hfits hinner
  obtain ⟨token, taken, htakes, hbegins⟩ := operand_begins_iff.1 hoperand
  have hfirst : ExprReached level scope start first middle :=
    ⟨.factor, ⟨fun _ => rfl, (nomatch ·)⟩, hbegins.parsed htakes hinside, (nomatch ·)⟩
  -- The loop keeps the level that it has reached.
  have hround left middle result after (hleft : ExprReached level scope start left middle)
      (hstep : operators.extend (operators.within start) scope limit left middle =
        .ok (some result) after) (_ : Supply.left after < Supply.left middle) :
      ExprReached level scope start result after := by
    obtain ⟨token, taken, right, htakes, hcontinues, rfl⟩ := (extend_continues_iff hfits).1 hstep
    exact hcontinues.reached htakes hleft hinside
  obtain ⟨last, hlast, hdeclines⟩ := Rule.iterate_ok_induct _ hround hfirst hloop
  obtain ⟨rfl, hnext⟩ := (extend_stops_iff hfits).1 hdeclines
  obtain ⟨phase, hwithin, hparsed, -⟩ := hlast
  refine ⟨⟨?_, hparsed.resolves, hparsed.passes.trans (.look last)⟩, by simpa using hnext⟩
  rw [look_ahead]
  exact hparsed.derives.lift hwithin
termination_by start.ahead.length
decreasing_by simpa using hleft

/-! ## What is derived is parsed -/

/-- The parser comes to the round of its loop at which the value has been built and these tokens are
left. The parser for the expressions inside need only be right where fewer tokens lie ahead. -/
def Builds (scope : Scope) (level : Level) (value : Expr) (start : Scanner Kind) (rest : Tokens) :
    Prop :=
  ∀ (upper : Level) (limit : Limit) (reparse : Reparse Scope Kind Expr),
    level.Within upper → upper.Fits limit →
    (∀ limit later, later.ahead.length < start.ahead.length →
      reparse scope limit later = operators.parse scope limit later) →
    ∃ middle, middle.ahead = rest ∧ start.Passes middle ∧
      operators.expression reparse scope limit start =
        Rule.iterate (operators.extend reparse scope limit) value middle

/-- Parsing ends in front of what does not continue the value. -/
theorem Builds.parse {next : Token Kind} {others : Tokens}
    (h : Builds scope level value start (next :: others)) (hfits : level.Fits limit)
    (hstops : level.Stops next.text) :
    ∃ final, operators.parse scope limit start = .ok value final ∧
      final.ahead = next :: others ∧ start.Passes final := by
  obtain ⟨middle, hmiddle, hpasses, hexpression⟩ := h level limit (operators.within start)
    ⟨id, id⟩ hfits fun limit later hlater => Grammar.within_of_lt hlater scope limit
  refine ⟨middle.look, ?_, by rw [look_ahead, hmiddle], hpasses.trans (.look middle)⟩
  rw [Grammar.parse_eq, hexpression]
  exact Rule.iterate_of_none
    ((extend_stops_iff hfits).2 ⟨rfl, next, upcoming_of_ahead hmiddle, hstops⟩)

/-- An operand that is parsed is where the loop starts. -/
theorem Begins.builds {token : Token Kind} {rest : Tokens} {middle : Scanner Kind}
    (htakes : start.Takes token start.advance)
    (h : ∀ reparse : Reparse Scope Kind Expr,
      (∀ limit later, later.ahead.length < start.ahead.length →
        reparse scope limit later = operators.parse scope limit later) →
      Begins reparse scope token start.advance value middle)
    (hmiddle : middle.ahead = rest) (hpasses : start.Passes middle) :
    Builds scope .factor value start rest := by
  intro upper limit reparse _ _ hreparse
  refine ⟨middle, hmiddle, hpasses, ?_⟩
  exact Rule.bind_of_ok (operand_begins_iff.2 ⟨token, _, htakes, h reparse hreparse⟩) _

/-- The loop goes on with an operator and its right operand. -/
theorem Builds.binary {token : Token Kind} {second rest : Tokens} {right : Expr} {lower : Level}
    {rightLimit : Limit} (hleft : Builds scope lower left start (token :: second))
    (hready : Ready start) (htext : token.text ∈ terminals) (hlower : lower.Within level)
    (hright : ∀ middle : Scanner Kind, middle.ahead = second → start.Passes middle →
      ∃ final, operators.parse scope rightLimit middle = .ok right final ∧ final.ahead = rest ∧
        middle.Passes final)
    (hcontinues : ∀ upper reparse taken final, level.Within upper →
      reparse scope rightLimit taken = .ok right final →
      Continues reparse scope upper token taken right final) :
    Builds scope level (.binary token.text left right) start rest := by
  intro upper limit reparse hwithin hfits hreparse
  obtain ⟨middle, hmiddle, hpasses, hexpression⟩ :=
    hleft upper limit reparse (hlower.trans hwithin) hfits hreparse
  have htakes := (hready.passes hpasses).takes_terminal hmiddle htext
  have hpasses' := hpasses.trans htakes.passes
  obtain ⟨final, hparse, hfinal, hpassesRight⟩ :=
    hright middle.advance (by simp [hmiddle]) hpasses'
  -- The operator has been consumed, so the parser for the right operand is right there.
  have hshorter : middle.advance.ahead.length < middle.ahead.length := by simp [hmiddle]
  refine ⟨final, hfinal, hpasses'.trans hpassesRight, ?_⟩
  rw [hexpression]
  refine Rule.iterate_of_some ((extend_continues_iff hfits).2
    ⟨token, _, right, htakes, hcontinues _ _ _ _ hwithin ?_, rfl⟩) ?_
  · rw [hreparse _ _ (Nat.lt_of_lt_of_le hshorter hpasses.suffix.length_le), hparse]
  · rw [left_eq_length, left_eq_length]
    exact Nat.lt_of_le_of_lt hpassesRight.suffix.length_le hshorter

/-- An expression in parentheses builds a factor. -/
theorem Builds.group {opening closing : Token Kind} {inside rest : Tokens} (hready : Ready start)
    (hahead : start.ahead = opening :: inside) (htext : opening.text = "(")
    (hclosing : closing.text = ")")
    (h : Builds scope .expression value start.advance (closing :: rest)) :
    Builds scope .factor value start rest := by
  obtain ⟨hidentifier, hnumber⟩ := hready.kind_of_terminal hahead (by rw [htext]; decide)
  have htakes := hready.takes_terminal hahead (by rw [htext]; decide)
  obtain ⟨middle, hparse, hmiddle, hpasses⟩ := h.parse expression_fits_all
    ⟨fun _ => by rw [hclosing]; decide, fun _ => by rw [hclosing]; decide⟩
  have hpasses' := htakes.passes.trans hpasses
  have hlast := (hready.passes hpasses').takes_terminal hmiddle (by rw [hclosing]; decide)
  refine Begins.builds htakes (fun reparse hreparse => .primary (by rw [htext]; decide)
    (.group hnumber hidentifier htext ?_ hlast hclosing)) (by simp [hmiddle])
    (hpasses'.trans hlast.passes)
  rw [hreparse _ _ (by simp [hahead]), hparse]

/-- A sign and the factor after it build a factor. -/
theorem Builds.sign {symbol next : Token Kind} {inside others : Tokens} (hready : Ready start)
    (hahead : start.ahead = symbol :: inside) (htext : symbol.text ∈ ["+", "-"])
    (h : Builds scope .factor value start.advance (next :: others))
    (hbegins : ∀ reparse last, reparse scope (.upTo 0) start.advance = .ok value last →
      Begins reparse scope symbol start.advance result last) :
    Builds scope .factor result start (next :: others) := by
  have htakes := hready.takes_terminal hahead (operators_terminal _ (List.mem_append_right _ htext))
  obtain ⟨middle, hparse, hmiddle, hpasses⟩ := h.parse factor_fits_upTo (factor_stops _)
  refine Begins.builds htakes (fun reparse hreparse => hbegins reparse middle ?_) hmiddle
    (htakes.passes.trans hpasses)
  rw [hreparse _ _ (by simp [hahead]), hparse]

/-- The tokens of a derivation build its value, if what follows them does not continue its last
term. -/
theorem builds_of_derives {first rest : Tokens} (h : Expr.Derives level first value rest) :
    ∀ {start : Scanner Kind} {next : Token Kind} {others : Tokens}, Ready start →
      start.ahead = first → value.Resolves scope → rest = next :: others →
      (level = .expression → next.text ∉ ["*", "/"]) → Builds scope level value start rest := by
  induction h with
  | @number token rest hkind =>
      intro start next others hready hahead _ _ _
      have htakes := hready.takes_kind hahead (by simp [hkind])
      exact Begins.builds htakes
        (fun _ _ => .primary (hready.not_sign hahead (.inr hkind)) (.number hkind))
        (by simp [hahead]) htakes.passes
  | @name token rest hkind =>
      intro start next others hready hahead hresolves _ _
      have htakes := hready.takes_kind hahead (by simp [hkind])
      exact Begins.builds htakes
        (fun _ _ => .primary (hready.not_sign hahead (.inl hkind)) (.name hkind hresolves))
        (by simp [hahead]) htakes.passes
  | @group opening inside value closing rest htext hinner hclosing ih =>
      intro start next others hready hahead hresolves _ _
      have htakes := hready.takes_terminal hahead (by rw [htext]; decide)
      have hbuilds : Builds scope .expression value start.advance (closing :: rest) :=
        ih (hready.passes htakes.passes) (by simp [hahead]) hresolves rfl
          fun _ => by rw [hclosing]; decide
      exact hbuilds.group hready hahead htext hclosing
  | @plus symbol inside value rest htext hinner ih =>
      intro start next others hready hahead hresolves hrest _
      have htakes := hready.takes_terminal hahead (by rw [htext]; decide)
      have hbuilds : Builds scope .factor value start.advance rest :=
        ih (hready.passes htakes.passes) (by simp [hahead]) hresolves hrest (nomatch ·)
      subst hrest
      exact hbuilds.sign hready hahead (by simp [htext]) fun _ _ hinner => .plus htext hinner
  | @minus symbol inside value rest htext hinner ih =>
      intro start next others hready hahead hresolves hrest _
      have htakes := hready.takes_terminal hahead (by rw [htext]; decide)
      have hbuilds : Builds scope .factor value start.advance rest :=
        ih (hready.passes htakes.passes) (by simp [hahead]) hresolves hrest (nomatch ·)
      subst hrest
      exact hbuilds.sign hready hahead (by simp [htext]) fun _ _ hinner => .minus htext hinner
  | factor h ih =>
      intro start next others hready hahead hresolves hrest _ upper limit reparse hwithin
      exact ih hready hahead hresolves hrest (nomatch ·) upper limit reparse
        ⟨fun h => (nomatch hwithin.ofFactor h), (nomatch ·)⟩
  | @product first left token second right rest hleft hmem hright ihleft ihright =>
      intro start next others hready hahead hresolves hrest _
      have hbuilds : Builds scope .term left start (token :: second) :=
        ihleft hready hahead hresolves.1 rfl (nomatch ·)
      refine hbuilds.binary hready (operators_terminal _ (List.mem_append_left _ hmem)) ⟨id, id⟩
        (fun middle hmiddle hpasses => ?_)
        (fun upper reparse taken final hwithin =>
          .product (fun h => nomatch hwithin.ofFactor h) hmem)
      have hbuilds' : Builds scope .factor right middle rest :=
        ihright (hready.passes hpasses) hmiddle hresolves.2 hrest (nomatch ·)
      rw [hrest] at hbuilds' ⊢
      exact hbuilds'.parse factor_fits_below (factor_stops _)
  | term h ih =>
      intro start next others hready hahead hresolves hrest _ upper limit reparse hwithin
      exact ih hready hahead hresolves hrest (nomatch ·) upper limit reparse
        ⟨fun h => (nomatch hwithin.ofFactor h), (nomatch ·)⟩
  | @sum first left token second right rest hleft hmem hright ihleft ihright =>
      intro start next others hready hahead hresolves hrest hnext
      -- The sum on the left ends in front of a sign, which continues no term.
      have htoken : token.text ∉ ["*", "/"] := by
        simp only [List.mem_cons, List.not_mem_nil, or_false] at hmem
        rcases hmem with htext | htext <;> rw [htext] <;> decide
      have hbuilds : Builds scope .expression left start (token :: second) :=
        ihleft hready hahead hresolves.1 rfl fun _ => htoken
      refine hbuilds.binary hready (operators_terminal _ (List.mem_append_right _ hmem)) ⟨id, id⟩
        (fun middle hmiddle hpasses => ?_)
        (fun upper reparse taken final hwithin => .sum (hwithin.ofExpression rfl) hmem)
      have hbuilds' : Builds scope .term right middle rest :=
        ihright (hready.passes hpasses) hmiddle hresolves.2 hrest (nomatch ·)
      rw [hrest] at hbuilds' ⊢
      exact hbuilds'.parse term_fits_below ⟨fun _ => hnext rfl, (nomatch ·)⟩

/-! ## Expressions -/

/-- What an expression is parsed to is derived. -/
theorem expression_gives (h : expression scope start = .ok value final) :
    ExprGiven .expression scope start value final :=
  (parse_parsed expression_fits_all h).1

/-- What is derived as an expression is yielded, if no operator follows. -/
theorem expression_yields {next : Token Kind} {others : Tokens} (hready : Ready start)
    (h : Expr.Derives .expression start.ahead value (next :: others))
    (hresolves : value.Resolves scope) (hnext : next.text ∉ ["*", "/"] ++ ["+", "-"]) :
    Yields (expression scope) start value (next :: others) := by
  rw [List.mem_append, not_or] at hnext
  have hbuilds := builds_of_derives h hready rfl hresolves rfl fun _ => hnext.1
  exact hbuilds.parse expression_fits_all ⟨fun _ => hnext.1, fun _ => hnext.2⟩

end Parlance.Pl0
