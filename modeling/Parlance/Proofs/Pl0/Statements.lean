import Parlance.Proofs.Pl0.Expressions

/-!
# Parsing statements

Conditions and statements are parsed as the grammar derives them. A statement may be empty, so it is
complete only in front of what can follow a statement; nothing that can begins one.
-/

namespace Parlance.Pl0

open Scanner

variable {scope : Scope} {start final : Scanner Kind}

/-! ## Conditions -/

/-- What a condition is parsed to is derived. -/
theorem condition_gives {test : Condition} (h : condition scope start = .ok test final) :
    Gives Condition.Derives (Condition.Resolves scope) start test final := by
  unfold condition at h
  obtain ⟨found, middle, htry, h⟩ := Rule.bind_ok_iff.1 h
  cases found with
  | true =>
      obtain ⟨token, htakes, htext⟩ := tryConsume_true_iff.1 htry
      obtain ⟨value, hvalue, rfl⟩ := Rule.map_ok_iff.1 h
      have hgives := expression_gives hvalue
      exact ⟨htakes.ahead_eq ▸ .odd htext hgives.derives, hgives.resolves,
        htakes.passes.trans hgives.passes⟩
  | false =>
      obtain ⟨token, -, -, rfl⟩ := tryConsume_false_iff.1 htry
      obtain ⟨left, middle, hleft, h⟩ := Rule.bind_ok_iff.1 h
      obtain ⟨operator, _, hcurrent, h⟩ := Rule.bind_ok_iff.1 h
      obtain ⟨hupcoming, rfl⟩ := current_ok_iff.1 hcurrent
      have hgives := expression_gives hleft
      by_cases hmem : operator.text ∈ relations
      · rw [if_pos hmem] at h
        obtain ⟨text, taken, hconsume, h⟩ := Rule.bind_ok_iff.1 h
        obtain ⟨right, hright, rfl⟩ := Rule.map_ok_iff.1 h
        obtain ⟨token, htakes, rfl⟩ := consume_ok_iff.1 hconsume
        rw [look_takes_iff] at htakes
        cases hupcoming.symm.trans htakes.upcoming_eq
        have hgives' := expression_gives hright
        refine ⟨.relation ?_ hmem hgives'.derives, ⟨hgives.resolves, hgives'.resolves⟩, ?_⟩
        · rw [← htakes.ahead_eq, ← look_ahead start]
          exact hgives.derives
        · exact ((Passes.look start).trans hgives.passes).trans
            (htakes.passes.trans hgives'.passes)
      · rw [if_neg hmem] at h
        obtain ⟨_, _, hfail, -⟩ := Rule.bind_ok_iff.1 h
        exact (fail_ne_ok hfail).elim

/-- The relations are quoted, and none of them is an operator of expressions. -/
theorem relations_terminal :
    ∀ text ∈ relations, text ∈ terminals ∧ text ∉ ["*", "/"] ++ ["+", "-"] := by
  decide

/-- What an expression begins with is none of the words. -/
theorem Expr.Derives.head_not_word {level : Level} {first rest : Tokens} {value : Expr}
    (h : Expr.Derives level first value rest) (hproper : ∀ token ∈ first, Proper token) :
    ∃ token others, first = token :: others ∧ token.text ∉ keywords := by
  obtain ⟨token, others, rfl, hfirst⟩ := h.head
  refine ⟨token, others, rfl, fun hmem => ?_⟩
  have hproper := hproper token (by simp)
  rcases hfirst with hkind | hkind | hsign
  · exact hproper (.inr hkind) (List.mem_append_left _ hmem)
  · exact hproper (.inl hkind) (List.mem_append_left _ hmem)
  · have hlack : ∀ text ∈ ["(", "+", "-"], text ∉ keywords := by decide
    exact hlack _ hsign hmem

/-- What is derived as a condition is yielded, if no operator follows. -/
theorem condition_yields {test : Condition} {next : Token Kind} {others : Tokens}
    (hready : Ready start) (h : Condition.Derives start.ahead test (next :: others))
    (hresolves : test.Resolves scope) (hnext : next.text ∉ ["*", "/"] ++ ["+", "-"]) :
    Yields (condition scope) start test (next :: others) := by
  unfold condition
  generalize hahead : start.ahead = first at h
  cases h with
  | odd htext hvalue =>
      refine choice_yields_yes hready hahead htext (by decide) fun middle hready hmiddle => ?_
      subst hmiddle
      exact (expression_yields hready hvalue hresolves hnext).map rfl
  | @relation _ left operator second right _ hleft hmem hright =>
      obtain ⟨hterminal, hlack⟩ := relations_terminal _ hmem
      obtain ⟨token, _, rfl, hword⟩ := hleft.head_not_word (hahead ▸ hready.proper)
      have htext : token.text ≠ "ODD" := fun h => hword (by rw [h]; decide)
      refine choice_yields_no hready hahead htext fun middle hready hmiddle => ?_
      rw [← hmiddle] at hleft
      refine (expression_yields hready hleft hresolves.1 hlack).bind hready
        fun later hready hlater => ?_
      refine (current_yields hlater).bind hready fun looked hready hlooked => ?_
      rw [if_pos hmem]
      refine (consume_yields hlooked (hready.takes_terminal hlooked hterminal)).bind hready
        fun taken hready htaken => ?_
      subst htaken
      exact (expression_yields hready hright hresolves.2 hnext).map rfl

/-! ## Items with separators -/

section

variable {α : Type} {item : Scan Kind α} {separator : String}
  {derives : Tokens → α → Tokens → Prop} {resolves : α → Prop} {values : List α}

/-- Items with separators are one, and what is collected as long as a separator follows. -/
theorem separated_ok_iff :
    separated separator item start = .ok values final ↔
      ∃ first others middle last, item start = .ok first middle ∧
        Rule.Collects (tryConsume separator) item middle others last ∧
        tryConsume separator last = .ok false final ∧ first :: others = values :=
  Rule.first_collect_iff

/-- What is collected after an item is derived as items with separators. -/
theorem collects_gives
    (hitem : ∀ state value after, item state = .ok value after →
      Gives derives resolves state value after)
    {middle last : Scanner Kind} {others : List α}
    (h : Rule.Collects (tryConsume separator) item middle others last) :
    ∀ {start : Scanner Kind} {first : α}, Gives derives resolves start first middle →
      Gives (Separated separator derives) (fun values => ∀ value ∈ values, resolves value) start
        (first :: others) last := by
  induction h with
  | done =>
      intro start first hfirst
      exact ⟨.one hfirst.derives, by simpa using hfirst.resolves, hfirst.passes⟩
  | round hmore hvalue _ _ ih =>
      intro start first hfirst
      obtain ⟨between, htakes, htext⟩ := tryConsume_true_iff.1 hmore
      have hgives := ih (hitem _ _ _ hvalue)
      exact ⟨.more (htakes.ahead_eq ▸ hfirst.derives) htext hgives.derives,
        List.forall_mem_cons.2 ⟨hfirst.resolves, hgives.resolves⟩,
        (hfirst.passes.trans htakes.passes).trans hgives.passes⟩

/-- What items with separators are parsed to is derived. -/
theorem separated_gives
    (hitem : ∀ state value after, item state = .ok value after →
      Gives derives resolves state value after)
    (h : separated separator item start = .ok values final) :
    Gives (Separated separator derives) (fun values => ∀ value ∈ values, resolves value) start
      values final := by
  obtain ⟨first, others, middle, last, hfirst, hcollects, hlast, rfl⟩ := separated_ok_iff.1 h
  obtain ⟨token, -, -, rfl⟩ := tryConsume_false_iff.1 hlast
  have hgives := collects_gives hitem hcollects (hitem _ _ _ hfirst)
  exact ⟨by rw [look_ahead]; exact hgives.derives, hgives.resolves,
    hgives.passes.trans (.look last)⟩

/-- The parser of items yields an item that one of these tokens follows. -/
def YieldsItems (item : Scan Kind α) (derives : Tokens → α → Tokens → Prop) (resolves : α → Prop)
    (follows : Token Kind → Prop) (limit : Nat) : Prop :=
  ∀ (state : Scanner Kind) value follow rest, Ready state → state.ahead.length < limit →
    derives state.ahead value (follow :: rest) → follows follow → resolves value →
    Yields item state value (follow :: rest)

/-- What is derived as items with separators is yielded. -/
theorem separated_yields {next : Token Kind} {others : Tokens} {limit : Nat} (hready : Ready start)
    (hlimit : start.ahead.length < limit) (hmem : separator ∈ terminals)
    (hnext : next.text ≠ separator)
    (hitem : YieldsItems item derives resolves
      (fun follow => follow.text = separator ∨ follow = next) limit)
    (h : Separated separator derives start.ahead values (next :: others))
    (hresolves : ∀ value ∈ values, resolves value) :
    Yields (separated separator item) start values (next :: others) := by
  -- The derivation gives the first item apart from the others, as the loop collects them.
  have hcollects : ∃ first rest middle last, item start = .ok first middle ∧
      Rule.Collects (tryConsume separator) item middle rest last ∧ first :: rest = values ∧
      last.ahead = next :: others ∧ start.Passes middle ∧ middle.Passes last := by
    generalize hfirst : start.ahead = tokens at h
    generalize hleft : next :: others = left at h
    induction h generalizing start with
    | one hvalue =>
        subst hfirst hleft
        obtain ⟨middle, hmiddle, hahead, hpasses⟩ :=
          hitem start _ next others hready hlimit hvalue (.inr rfl) (hresolves _ (by simp))
        exact ⟨_, [], middle, middle, hmiddle, .done, rfl, hahead, hpasses, .refl middle⟩
    | @more _ value between second values _ hvalue hbetween _ ih =>
        subst hfirst
        obtain ⟨middle, hmiddle, hahead, hpasses⟩ :=
          hitem start _ between second hready hlimit hvalue (.inl hbetween) (hresolves _ (by simp))
        have htakes := (hready.passes hpasses).takes_terminal hahead (by rw [hbetween]; exact hmem)
        have hsecond := hpasses.trans htakes.passes
        obtain ⟨first, rest, later, last, hfirst, hcollects, rfl, hlast, hlater, hpasses'⟩ :=
          ih (hready.passes hsecond) (Nat.lt_of_le_of_lt hsecond.suffix.length_le hlimit)
            (fun other hother => hresolves other (by simp [hother])) (by simp [hahead]) hleft
        refine ⟨value, _, middle, last, hmiddle,
          .round (tryConsume_true_iff.2 ⟨between, htakes, hbetween⟩) hfirst ?_ hcollects, rfl,
          hlast, hpasses, (htakes.passes.trans hlater).trans hpasses'⟩
        have hleft := htakes.left_lt
        rw [left_eq_length] at hleft ⊢
        exact Nat.lt_of_le_of_lt hlater.suffix.length_le hleft
  obtain ⟨first, rest, middle, last, hfirst, hcollects, rfl, hlast, hpasses, hpasses'⟩ := hcollects
  exact ⟨last.look, separated_ok_iff.2 ⟨first, rest, middle, last, hfirst, hcollects,
    tryConsume_false_iff.2 ⟨next, upcoming_of_ahead hlast, hnext, rfl⟩, rfl⟩,
    by rw [look_ahead, hlast], (hpasses.trans hpasses').trans (.look last)⟩

end

/-! ## Statements -/

/-- A name passes the check of variables if it stands for one. -/
theorem checkVariable_ok_iff {name : String} {use : Use} {done : Unit} :
    checkVariable scope name use start = .ok done final ↔
      scope.symbol? name = some none ∧ start = final := by
  unfold checkVariable
  rcases hsymbol : scope.symbol? name with _ | _ | value
  · exact ⟨fun h => (fail_ne_ok h).elim, fun h => nomatch h.1⟩
  · exact ⟨fun h => ⟨rfl, (Rule.pure_ok_iff.1 h).2⟩, fun h => Rule.pure_ok_iff.2 ⟨rfl, h.2⟩⟩
  · exact ⟨fun h => (fail_ne_ok h).elim, fun h => nomatch h.1⟩

section

variable {inner : Scan Kind Statement} {result : Statement}

/-- A statement is given, with its names declared. -/
abbrev StatementGiven (scope : Scope) : Scanner Kind → Statement → Scanner Kind → Prop :=
  Gives Statement.Derives (Statement.Resolves scope)

/-- What comes next is an assignment if it begins with a name. -/
theorem assign_gives {token : Token Kind} (hupcoming : start.upcoming = .ok token)
    (hkind : token.kind = .identifier)
    (h : (do
      checkVariable scope token.text .assignTo
      let _ ← consume
      let _ ← consumeText ":="
      return .assign token.text (← expression scope) : Scan Kind Statement) start.look =
        .ok result final) :
    StatementGiven scope start result final := by
  obtain ⟨_, _, hcheck, h⟩ := Rule.bind_ok_iff.1 h
  obtain ⟨hvariable, rfl⟩ := checkVariable_ok_iff.1 hcheck
  obtain ⟨_, taken, hconsume, h⟩ := Rule.bind_ok_iff.1 h
  obtain ⟨_, later, hbecomes, h⟩ := Rule.bind_ok_iff.1 h
  obtain ⟨value, hvalue, rfl⟩ := Rule.map_ok_iff.1 h
  obtain ⟨name, htakes, -⟩ := consume_ok_iff.1 hconsume
  obtain ⟨-, becomes, htakes', htext⟩ := consumeText_ok_iff.1 hbecomes
  rw [look_takes_iff] at htakes
  cases hupcoming.symm.trans htakes.upcoming_eq
  have hgives := expression_gives hvalue
  refine ⟨?_, ⟨hvariable, hgives.resolves⟩,
    (htakes.passes.trans htakes'.passes).trans hgives.passes⟩
  rw [htakes.ahead_eq, htakes'.ahead_eq]
  exact .assign hkind htext hgives.derives

variable {keyword : Token Kind} {taken : Scanner Kind}

/-- A call has the name of a procedure after its keyword. -/
theorem call_gives (htakes : start.Takes keyword taken) (htext : keyword.text = "CALL")
    (h : (do
      let token ← current
      if token.kind = .identifier ∧ ¬ scope.hasProcedure token.text then
        violate (.undefinedProcedure token.text)
      return .call (← consumeKind .identifier) : Scan Kind Statement) taken = .ok result final) :
    StatementGiven scope start result final := by
  obtain ⟨token, _, hcurrent, h⟩ := Rule.bind_ok_iff.1 h
  obtain ⟨hupcoming, rfl⟩ := current_ok_iff.1 hcurrent
  by_cases hundefined : token.kind = .identifier ∧ ¬ scope.hasProcedure token.text
  · rw [if_pos hundefined] at h
    obtain ⟨_, _, hfail, -⟩ := Rule.bind_ok_iff.1 h
    exact (fail_ne_ok hfail).elim
  · rw [if_neg hundefined] at h
    obtain ⟨text, hname, rfl⟩ := Rule.map_ok_iff.1 h
    obtain ⟨name, htakes', hkind, rfl⟩ := consumeKind_ok_iff.1 hname
    rw [look_takes_iff] at htakes'
    cases hupcoming.symm.trans htakes'.upcoming_eq
    refine ⟨?_, ?_, htakes.passes.trans htakes'.passes⟩
    · rw [htakes.ahead_eq, htakes'.ahead_eq]
      exact .call htext hkind
    · show scope.hasProcedure token.text = true
      exact Decidable.not_not.1 fun h => hundefined ⟨hkind, h⟩

/-- Reading has the name of a variable after its sign. -/
theorem read_gives (htakes : start.Takes keyword taken) (htext : keyword.text = "?")
    (h : (do
      let token ← current
      if token.kind = .identifier then checkVariable scope token.text .readInto
      return .read (← consumeKind .identifier) : Scan Kind Statement) taken = .ok result final) :
    StatementGiven scope start result final := by
  obtain ⟨token, _, hcurrent, h⟩ := Rule.bind_ok_iff.1 h
  obtain ⟨hupcoming, rfl⟩ := current_ok_iff.1 hcurrent
  by_cases hkind : token.kind = .identifier
  · rw [if_pos hkind] at h
    obtain ⟨_, _, hcheck, h⟩ := Rule.bind_ok_iff.1 h
    obtain ⟨hvariable, rfl⟩ := checkVariable_ok_iff.1 hcheck
    obtain ⟨text, hname, rfl⟩ := Rule.map_ok_iff.1 h
    obtain ⟨name, htakes', -, rfl⟩ := consumeKind_ok_iff.1 hname
    rw [look_takes_iff] at htakes'
    cases hupcoming.symm.trans htakes'.upcoming_eq
    refine ⟨?_, hvariable, htakes.passes.trans htakes'.passes⟩
    rw [htakes.ahead_eq, htakes'.ahead_eq]
    exact .read htext hkind
  · rw [if_neg hkind] at h
    obtain ⟨text, hname, rfl⟩ := Rule.map_ok_iff.1 h
    obtain ⟨name, htakes', hkind', rfl⟩ := consumeKind_ok_iff.1 hname
    rw [look_takes_iff] at htakes'
    cases hupcoming.symm.trans htakes'.upcoming_eq
    exact (hkind hkind').elim

/-- A sequence has statements and its end after its keyword. -/
theorem sequence_gives
    (hinner : ∀ state value after, inner state = .ok value after →
      StatementGiven scope state value after)
    (htakes : start.Takes keyword taken) (htext : keyword.text = "BEGIN")
    (h : (do
      let statements ← separated ";" inner
      let _ ← consumeText "END"
      return .sequence statements : Scan Kind Statement) taken = .ok result final) :
    StatementGiven scope start result final := by
  obtain ⟨statements, middle, hstatements, h⟩ := Rule.bind_ok_iff.1 h
  obtain ⟨_, hclosing, rfl⟩ := Rule.map_ok_iff.1 h
  obtain ⟨-, closing, hlast, hclosingText⟩ := consumeText_ok_iff.1 hclosing
  have hgives := separated_gives hinner hstatements
  refine ⟨?_, statementsResolve_iff.2 hgives.resolves,
    (htakes.passes.trans hgives.passes).trans hlast.passes⟩
  rw [htakes.ahead_eq]
  exact .sequence htext (hlast.ahead_eq ▸ hgives.derives) hclosingText

/-- A statement under a condition has the condition, a word and the statement after its keyword. -/
theorem guarded_gives {make : Condition → Statement → Statement} {word : String}
    (hinner : ∀ state value after, inner state = .ok value after →
      StatementGiven scope state value after)
    (htakes : start.Takes keyword taken)
    (hmake : ∀ {first second rest : Tokens} {between : Token Kind} {test body},
      Condition.Derives first test (between :: second) → between.text = word →
      Statement.Derives second body rest →
      Statement.Derives (keyword :: first) (make test body) rest)
    (hresolves : ∀ {test body}, test.Resolves scope → body.Resolves scope →
      (make test body).Resolves scope)
    (h : (do
      let test ← condition scope
      let _ ← consumeText word
      return make test (← inner) : Scan Kind Statement) taken = .ok result final) :
    StatementGiven scope start result final := by
  obtain ⟨test, middle, htest, h⟩ := Rule.bind_ok_iff.1 h
  obtain ⟨_, later, hbetween, h⟩ := Rule.bind_ok_iff.1 h
  obtain ⟨body, hbody, rfl⟩ := Rule.map_ok_iff.1 h
  obtain ⟨-, between, htakes', htext⟩ := consumeText_ok_iff.1 hbetween
  have hgives := condition_gives htest
  have hgives' := hinner _ _ _ hbody
  refine ⟨?_, hresolves hgives.resolves hgives'.resolves,
    ((htakes.passes.trans hgives.passes).trans htakes'.passes).trans hgives'.passes⟩
  rw [htakes.ahead_eq]
  exact hmake (htakes'.ahead_eq ▸ hgives.derives) htext hgives'.derives

/-- What a statement is parsed to is derived, if what the statements inside it are parsed to is. -/
theorem statementWith_gives
    (hinner : ∀ state value after, inner state = .ok value after →
      StatementGiven scope state value after)
    (h : statementWith inner scope start = .ok result final) :
    StatementGiven scope start result final := by
  unfold statementWith at h
  obtain ⟨token, _, hcurrent, h⟩ := Rule.bind_ok_iff.1 h
  obtain ⟨hupcoming, rfl⟩ := current_ok_iff.1 hcurrent
  by_cases hkind : token.kind = .identifier
  · rw [if_pos hkind] at h
    exact assign_gives hupcoming hkind h
  rw [if_neg hkind] at h
  apply Gives.of_look
  rcases choice_ok h with ⟨keyword, taken, htakes, htext, h⟩ | h
  · exact call_gives htakes htext h
  apply Gives.of_look
  rcases choice_ok h with ⟨keyword, taken, htakes, htext, h⟩ | h
  · exact read_gives htakes htext h
  apply Gives.of_look
  rcases choice_ok h with ⟨keyword, taken, htakes, htext, h⟩ | h
  · obtain ⟨value, hvalue, rfl⟩ := Rule.map_ok_iff.1 h
    have hgives := expression_gives hvalue
    exact ⟨htakes.ahead_eq ▸ .write htext hgives.derives, hgives.resolves,
      htakes.passes.trans hgives.passes⟩
  apply Gives.of_look
  rcases choice_ok h with ⟨keyword, taken, htakes, htext, h⟩ | h
  · exact sequence_gives hinner htakes htext h
  apply Gives.of_look
  rcases choice_ok h with ⟨keyword, taken, htakes, htext, h⟩ | h
  · exact guarded_gives hinner htakes (.ifThen htext) (fun htest hbody => ⟨htest, hbody⟩) h
  apply Gives.of_look
  rcases choice_ok h with ⟨keyword, taken, htakes, htext, h⟩ | h
  · exact guarded_gives hinner htakes (.whileDo htext) (fun htest hbody => ⟨htest, hbody⟩) h
  apply Gives.of_look
  cases h
  exact ⟨.empty, trivial, .refl _⟩

/-- What a statement is parsed to is derived. -/
theorem statement_gives (h : statement scope start = .ok result final) :
    StatementGiven scope start result final := by
  refine Rule.recursive_induct (fun _ => StatementGiven scope) ?_ h
  intro _ state result final hinner hbody
  refine statementWith_gives (fun later value after hlater => ?_) hbody
  obtain ⟨hleft, hlater⟩ := Rule.below_ok_iff.1 hlater
  exact hinner () later value after hleft hlater

/-- What can follow a statement. -/
def statementEnds : List String := [";", "END", "."]

/-- What can follow a statement is quoted, and continues no expression. -/
theorem statementEnds_terminal :
    ∀ text ∈ statementEnds, text ∈ terminals ∧ text ∉ ["*", "/"] ++ ["+", "-"] := by
  decide

/-- The parser of the statements inside a statement yields them. -/
def YieldsStatements (inner : Scan Kind Statement) (scope : Scope) (limit : Nat) : Prop :=
  YieldsItems inner Statement.Derives (Statement.Resolves scope)
    (fun follow => follow.text ∈ statementEnds) limit

/-- A name that stands for a variable passes the check, and nothing is consumed. -/
theorem checkVariable_yields {name : String} {use : Use} {rest : Tokens}
    (hahead : start.ahead = rest) (hvariable : scope.symbol? name = some none) :
    Yields (checkVariable scope name use) start () rest :=
  ⟨start, checkVariable_ok_iff.2 ⟨hvariable, rfl⟩, hahead, .refl start⟩

section

variable {keyword name next : Token Kind} {second others rest : Tokens}

/-- An assignment is yielded from its name on. -/
theorem assign_yields {becomes : Token Kind} {value : Expr} (hready : Ready start)
    (hahead : start.ahead = name :: becomes :: second) (hkind : name.kind = .identifier)
    (htext : becomes.text = ":=")
    (hvalue : Expr.Derives .expression second value (next :: others))
    (hresolves : (Statement.assign name.text value).Resolves scope)
    (hnext : next.text ∉ ["*", "/"] ++ ["+", "-"]) :
    Yields (do
      checkVariable scope name.text .assignTo
      let _ ← consume
      let _ ← consumeText ":="
      return .assign name.text (← expression scope) : Scan Kind Statement) start
      (.assign name.text value) (next :: others) := by
  refine (checkVariable_yields hahead hresolves.1).bind hready fun later hready hahead => ?_
  have htakes := hready.takes_kind hahead (by rw [hkind]; decide)
  refine (consume_yields hahead htakes).bind hready fun later hready hahead => ?_
  refine (consumeText_yields hready hahead htext (by decide)).bind hready
    fun later hready hahead => ?_
  subst hahead
  exact (expression_yields hready hvalue hresolves.2 hnext).map rfl

/-- A call is yielded from the name after its keyword on. -/
theorem call_yields (hready : Ready start) (hahead : start.ahead = name :: rest)
    (hkind : name.kind = .identifier) (hresolves : scope.hasProcedure name.text = true) :
    Yields (do
      let token ← current
      if token.kind = .identifier ∧ ¬ scope.hasProcedure token.text then
        violate (.undefinedProcedure token.text)
      return .call (← consumeKind .identifier) : Scan Kind Statement) start (.call name.text)
      rest := by
  refine (current_yields hahead).bind hready fun later hready hahead => ?_
  rw [if_neg fun h => h.2 hresolves]
  exact (consumeKind_yields hready hahead hkind (by decide)).map rfl

/-- Reading is yielded from the name after its sign on. -/
theorem read_yields (hready : Ready start) (hahead : start.ahead = name :: rest)
    (hkind : name.kind = .identifier) (hresolves : scope.symbol? name.text = some none) :
    Yields (do
      let token ← current
      if token.kind = .identifier then checkVariable scope token.text .readInto
      return .read (← consumeKind .identifier) : Scan Kind Statement) start (.read name.text)
      rest := by
  refine (current_yields hahead).bind hready fun later hready hahead => ?_
  rw [if_pos hkind]
  refine (checkVariable_yields hahead hresolves).bind hready fun later hready hahead => ?_
  exact (consumeKind_yields hready hahead hkind (by decide)).map rfl

/-- A sequence is yielded from its first statement on. -/
theorem sequence_yields {statements : List Statement} {closing : Token Kind} {limit : Nat}
    (hinner : YieldsStatements inner scope limit) (hready : Ready start)
    (hlimit : start.ahead.length < limit)
    (hstatements : Separated ";" Statement.Derives start.ahead statements (closing :: rest))
    (hclosing : closing.text = "END") (hresolves : StatementsResolve scope statements) :
    Yields (do
      let statements ← separated ";" inner
      let _ ← consumeText "END"
      return .sequence statements : Scan Kind Statement) start (.sequence statements) rest := by
  have hends {follow : Token Kind} (hfollow : follow.text = ";" ∨ follow = closing) :
      follow.text ∈ statementEnds := by
    rcases hfollow with hfollow | rfl
    · rw [hfollow]
      decide
    · rw [hclosing]
      decide
  have hyields := separated_yields hready hlimit (by decide) (by rw [hclosing]; decide)
    (fun state value follow rest hready hlimit hvalue hfollow hresolves =>
      hinner state value follow rest hready hlimit hvalue (hends hfollow) hresolves)
    hstatements (statementsResolve_iff.1 hresolves)
  refine hyields.bind hready fun later hready hahead => ?_
  exact (consumeText_yields hready hahead hclosing (by decide)).map rfl

/-- A condition, a word and the statement after it are yielded. -/
theorem guarded_yields {make : Condition → Statement → Statement} {word : String} {limit : Nat}
    {test : Condition} {body : Statement} {between : Token Kind}
    (hinner : YieldsStatements inner scope limit) (hready : Ready start)
    (hlimit : start.ahead.length < limit) (hword : word ∈ ["THEN", "DO"])
    (htest : Condition.Derives start.ahead test (between :: second)) (htext : between.text = word)
    (hbody : Statement.Derives second body (next :: others)) (htestResolves : test.Resolves scope)
    (hbodyResolves : body.Resolves scope) (hnext : next.text ∈ statementEnds) :
    Yields (do
      let test ← condition scope
      let _ ← consumeText word
      return make test (← inner) : Scan Kind Statement) start (make test body)
      (next :: others) := by
  have hlack : ∀ text ∈ ["THEN", "DO"], text ∈ terminals ∧ text ∉ ["*", "/"] ++ ["+", "-"] := by
    decide
  have hbetween := hlack word hword
  have hyields := condition_yields hready htest htestResolves (htext ▸ hbetween.2)
  have hlength := hyields.suffix.length_le
  refine hyields.bind hready fun middle hready hmiddle => ?_
  refine (consumeText_yields hready hmiddle htext hbetween.1).bind hready
    fun later hready hlater => ?_
  rw [List.length_cons] at hlength
  subst hlater
  exact (hinner later body next others hready (by omega) hbody hnext hbodyResolves).map rfl

end

/-- What is derived as a statement is yielded, if the statements inside it are. -/
theorem statementWith_yields {next : Token Kind} {others : Tokens} (hready : Ready start)
    (hinner : YieldsStatements inner scope start.ahead.length)
    (h : Statement.Derives start.ahead result (next :: others)) (hresolves : result.Resolves scope)
    (hnext : next.text ∈ statementEnds) :
    Yields (statementWith inner scope) start result (next :: others) := by
  unfold statementWith
  obtain ⟨hterminal, hlack⟩ := statementEnds_terminal _ hnext
  generalize hahead : start.ahead = first at h
  have hlength := congrArg List.length hahead
  -- Each case passes by the words that come before its own in the parser.
  cases h with
  | assign hkind htext hvalue =>
      refine (current_yields hahead).bind hready fun later hready hahead => ?_
      rw [if_pos hkind]
      exact assign_yields hready hahead hkind htext hvalue hresolves hlack
  | call htext hkind =>
      refine (current_yields hahead).bind hready fun later hready hahead => ?_
      rw [if_neg (hready.kind_of_terminal hahead (by rw [htext]; decide)).1]
      refine choice_yields_yes hready hahead htext (by decide) fun later hready hahead => ?_
      exact call_yields hready hahead hkind hresolves
  | read htext hkind =>
      refine (current_yields hahead).bind hready fun later hready hahead => ?_
      rw [if_neg (hready.kind_of_terminal hahead (by rw [htext]; decide)).1]
      refine choice_yields_no hready hahead (by rw [htext]; decide) fun later hready hahead => ?_
      refine choice_yields_yes hready hahead htext (by decide) fun later hready hahead => ?_
      exact read_yields hready hahead hkind hresolves
  | write htext hvalue =>
      refine (current_yields hahead).bind hready fun later hready hahead => ?_
      rw [if_neg (hready.kind_of_terminal hahead (by rw [htext]; decide)).1]
      iterate 2
        refine choice_yields_no hready hahead (by rw [htext]; decide) fun later hready hahead => ?_
      refine choice_yields_yes hready hahead htext (by decide) fun later hready hahead => ?_
      subst hahead
      exact (expression_yields hready hvalue hresolves hlack).map rfl
  | sequence htext hstatements hclosing =>
      rw [List.length_cons] at hlength
      refine (current_yields hahead).bind hready fun later hready hahead => ?_
      rw [if_neg (hready.kind_of_terminal hahead (by rw [htext]; decide)).1]
      iterate 3
        refine choice_yields_no hready hahead (by rw [htext]; decide) fun later hready hahead => ?_
      refine choice_yields_yes hready hahead htext (by decide) fun later hready hahead => ?_
      subst hahead
      exact sequence_yields hinner hready (by omega) hstatements hclosing hresolves
  | ifThen htext htest hbetween hbody =>
      rw [List.length_cons] at hlength
      refine (current_yields hahead).bind hready fun later hready hahead => ?_
      rw [if_neg (hready.kind_of_terminal hahead (by rw [htext]; decide)).1]
      iterate 4
        refine choice_yields_no hready hahead (by rw [htext]; decide) fun later hready hahead => ?_
      refine choice_yields_yes hready hahead htext (by decide) fun later hready hahead => ?_
      subst hahead
      exact guarded_yields hinner hready (by omega) (by decide) htest hbetween hbody hresolves.1
        hresolves.2 hnext
  | whileDo htext htest hbetween hbody =>
      rw [List.length_cons] at hlength
      refine (current_yields hahead).bind hready fun later hready hahead => ?_
      rw [if_neg (hready.kind_of_terminal hahead (by rw [htext]; decide)).1]
      iterate 5
        refine choice_yields_no hready hahead (by rw [htext]; decide) fun later hready hahead => ?_
      refine choice_yields_yes hready hahead htext (by decide) fun later hready hahead => ?_
      subst hahead
      exact guarded_yields hinner hready (by omega) (by decide) htest hbetween hbody hresolves.1
        hresolves.2 hnext
  | empty =>
      refine (current_yields hahead).bind hready fun later hready hahead => ?_
      rw [if_neg (hready.kind_of_terminal hahead hterminal).1]
      have hother {word : String} (hword : word ∉ statementEnds) : next.text ≠ word :=
        fun h => hword (h ▸ hnext)
      iterate 6
        refine choice_yields_no hready hahead (hother (by decide)) fun later hready hahead => ?_
      exact .pure hahead

/-- What is derived as a statement is yielded in front of what can follow one. -/
theorem statement_yields {start : Scanner Kind} {result : Statement} {next : Token Kind}
    {others : Tokens} (hready : Ready start)
    (h : Statement.Derives start.ahead result (next :: others)) (hresolves : result.Resolves scope)
    (hnext : next.text ∈ statementEnds) :
    Yields (statement scope) start result (next :: others) := by
  refine Yields.recursive (statementWith_yields hready ?_ h hresolves hnext)
  intro state value follow rest hready hlength hvalue hfollow hresolves
  have hyields := statement_yields hready hvalue hresolves hfollow
  exact hyields.below (by simpa using hlength)
termination_by start.ahead.length

end

end Parlance.Pl0
