import Parlance.Proofs.Pl0.Expressions
import Parlance.Proofs.Scanner.Outcome

/-!
# One parser for each level

The grammar of expressions has three levels, and each can be given a parser of its own: a factor is
a sign with a factor, a name, a number, or an expression in parentheses; a term is factors joined by
`*` and `/`; an expression is terms joined by `+` and `-`. `expression_eq_byLevel` says that the
parser by precedence is this one, with the same result or failure and the same scanner after it,
wherever it starts.

The two do not look at the same places: a loop by precedence looks at the token after a factor, and
the parser of factors does not. What goes on after a factor starts with a look in any case, so this
cannot be noticed (`looked_bind`). For a limit, the rounds of the one loop are those of the loops of
the levels up to it, one inside the other (`rest`).
-/

namespace Parlance.Pl0

open Scanner Precedence
open Supply (left)

namespace ByLevel

/-! ## The parsers -/

/-- Takes in the current token, if it is one of these symbols, and the operand after it. -/
def joined (symbols : List String) (operand : Scan Kind Expr) (before : Expr) :
    Scan Kind (Option Expr) := do
  let token ← current
  if token.text ∈ symbols then
    let symbol ← consume
    return some (.binary symbol before (← operand))
  return none

/-- Operands that symbols join, grouped to the left. -/
def chain (symbols : List String) (operand : Scan Kind Expr) : Scan Kind Expr := do
  let first ← operand
  Rule.iterate (joined symbols operand) first

/-- Parses a factor that has no sign, given the parser of the expressions inside it. -/
def unsigned (expression : Scan Kind Expr) (scope : Scope) : Scan Kind Expr := do
  let token ← current
  if token.kind = .number then return .number (numberValue (← consume))
  if token.kind = .identifier then
    if (scope.symbol? token.text).isNone then violate (.undefinedSymbol token.text)
    let _ ← consume
    return .symbol token.text
  if ← tryConsume "(" then
    let inner ← expression
    let _ ← consumeText ")"
    return inner
  Scanner.fail s!"expected factor; {received token}" .unexpectedToken

/-- Parses a factor, given the parsers of the factors and expressions inside it. -/
def factorWith (factor expression : Scan Kind Expr) (scope : Scope) : Scan Kind Expr := do
  if ← tryConsume "+" then return ← factor
  if ← tryConsume "-" then return .negate (← factor)
  unsigned expression scope

/-- Parses a term, given the parser of factors. -/
def termOf (factor : Scan Kind Expr) : Scan Kind Expr := chain ["*", "/"] factor

/-- Parses an expression, given the parser of factors. -/
def expressionOf (factor : Scan Kind Expr) : Scan Kind Expr := chain ["+", "-"] (termOf factor)

/-- Parses a factor. -/
def factor (scope : Scope) : Scan Kind Expr :=
  Rule.recursive (fun self (_ : Unit) => factorWith (self ()) (expressionOf (self ())) scope) ()

/-- Parses a term. -/
def term (scope : Scope) : Scan Kind Expr := termOf (factor scope)

/-- Parses an expression. -/
def expression (scope : Scope) : Scan Kind Expr := expressionOf (factor scope)

/-- The loop of a term. -/
def products (scope : Scope) : Expr → Scan Kind Expr :=
  Rule.iterate (joined ["*", "/"] (factor scope))

/-- The loop of an expression. -/
def sums (scope : Scope) : Expr → Scan Kind Expr :=
  Rule.iterate (joined ["+", "-"] (term scope))

/-! ## Going forward -/

variable {scope : Scope} {symbols : List String} {operand other inner : Scan Kind Expr}
  {scanner start final : Scanner Kind} {token : Token Kind} {before value : Expr}

/-- An operation that leaves no more tokens than there were. -/
def Forward {α : Type} (operation : Scan Kind α) : Prop :=
  ∀ start value final, operation start = .ok value final → left final ≤ left start

/-- A round starts with a look. -/
theorem joined_looksFirst : LooksFirst (joined symbols operand before) := current_looksFirst _

/-- A round takes in a symbol that comes next, and an operand after it. -/
theorem joined_of_mem (hupcoming : scanner.upcoming = .ok token) (hmem : token.text ∈ symbols) :
    joined symbols operand before scanner =
      scanner.consumingThen token
        (operand >>= fun right => pure (some (.binary token.text before right))) := by
  rw [joined, current_bind, onNext_of_ok hupcoming, if_pos hmem]
  exact consuming_then (consume_look hupcoming) _

/-- A round declines in front of any other token. -/
theorem joined_of_not_mem (hupcoming : scanner.upcoming = .ok token)
    (hmem : token.text ∉ symbols) :
    joined symbols operand before scanner = .ok none scanner.look := by
  rw [joined, current_bind, onNext_of_ok hupcoming, if_neg hmem]
  rfl

/-- A loop goes on after a round that consumes a token and takes in an operand. -/
theorem iterate_of_consuming {step : Expr → Scan Kind (Option Expr)} {make : Expr → Expr}
    (hupcoming : scanner.upcoming = .ok token)
    (hstep : step before scanner =
      scanner.consumingThen token (operand >>= fun right => pure (some (make right))))
    (hoperand : scanner.Takes token scanner.advance → ∀ right later,
      operand scanner.advance = .ok right later → left later ≤ left scanner.advance) :
    Rule.iterate step before scanner =
      scanner.consumingThen token (operand >>= fun right => Rule.iterate step (make right)) := by
  rw [Rule.iterate_eq, hstep, consumingThen, consumingThen]
  by_cases hends : scanner.Ends token
  · simp only [if_pos hends]
  · have htakes : scanner.Takes token scanner.advance := takes_iff.2 ⟨hupcoming, hends, rfl⟩
    simp only [if_neg hends, Rule.bind_apply]
    cases hright : operand scanner.advance with
    | error fault later => rfl
    | ok right later =>
        exact Rule.below_of_lt
          (Nat.lt_of_le_of_lt (hoperand htakes right later hright) htakes.left_lt) _

/-- A round that declines has looked at a token that is none of the symbols. -/
theorem joined_none (h : joined symbols operand before start = .ok none final) :
    final = start.look ∧ ∀ token, start.upcoming = .ok token → token.text ∉ symbols := by
  obtain ⟨next, _, hcurrent, h⟩ := Rule.bind_ok_iff.1 h
  obtain ⟨hupcoming, rfl⟩ := current_ok_iff.1 hcurrent
  by_cases hmem : next.text ∈ symbols
  · rw [if_pos hmem] at h
    obtain ⟨_, _, -, h⟩ := Rule.bind_ok_iff.1 h
    obtain ⟨_, -, hnone⟩ := Rule.map_ok_iff.1 h
    cases hnone
  · rw [if_neg hmem] at h
    cases h
    refine ⟨rfl, fun token htoken => ?_⟩
    cases hupcoming.symm.trans htoken
    exact hmem

/-- Operands that are joined go forward as each does. -/
theorem chain_forward (h : Forward operand) : Forward (chain symbols operand) := by
  intro start value final hchain
  obtain ⟨first, middle, hfirst, hloop⟩ := Rule.bind_ok_iff.1 hchain
  have hround : ∀ reached state further after, left state ≤ left start →
      joined symbols operand reached state = .ok (some further) after →
      left after < left state → left after ≤ left start :=
    fun _ _ _ _ hstate _ hafter => Nat.le_of_lt (Nat.lt_of_lt_of_le hafter hstate)
  obtain ⟨last, hlast, hdeclines⟩ := Rule.iterate_ok_induct (fun _ state => left state ≤ left start)
    hround (h _ _ _ hfirst) hloop
  obtain ⟨rfl, -⟩ := joined_none hdeclines
  simpa using hlast

/-- A factor without a sign has at least one token. -/
theorem unsigned_left_lt (hexpression : Forward inner)
    (h : unsigned inner scope start = .ok value final) : left final < left start := by
  unfold unsigned at h
  obtain ⟨token, _, hcurrent, h⟩ := Rule.bind_ok_iff.1 h
  obtain ⟨-, rfl⟩ := current_ok_iff.1 hcurrent
  have hconsume {text : String} {after : Scanner Kind} (h : consume start.look = .ok text after) :
      left after < left start := by
    obtain ⟨_, htakes, -⟩ := consume_ok_iff.1 h
    exact (look_takes_iff.1 htakes).left_lt
  by_cases hnumber : token.kind = .number
  · rw [if_pos hnumber] at h
    obtain ⟨_, h, -⟩ := Rule.map_ok_iff.1 h
    exact hconsume h
  rw [if_neg hnumber] at h
  by_cases hidentifier : token.kind = .identifier
  · rw [if_pos hidentifier] at h
    by_cases hdeclared : (scope.symbol? token.text).isNone = true
    · rw [if_pos hdeclared] at h
      obtain ⟨_, _, hfail, -⟩ := Rule.bind_ok_iff.1 h
      exact (fail_ne_ok hfail).elim
    · rw [if_neg hdeclared] at h
      obtain ⟨_, h, -⟩ := Rule.map_ok_iff.1 h
      exact hconsume h
  rw [if_neg hidentifier] at h
  rcases choice_ok h with ⟨token, taken, htakes, -, h⟩ | h
  · obtain ⟨_, middle, hinner, h⟩ := Rule.bind_ok_iff.1 h
    obtain ⟨_, h, -⟩ := Rule.map_ok_iff.1 h
    obtain ⟨-, _, hlast, -⟩ := consumeText_ok_iff.1 h
    exact Nat.lt_trans (Nat.lt_of_lt_of_le hlast.left_lt (hexpression _ _ _ hinner))
      (look_takes_iff.1 htakes).left_lt
  · exact (fail_ne_ok h).elim

/-- A factor has at least one token. -/
theorem factorWith_left_lt (hfactor : Forward operand) (hexpression : Forward inner)
    (h : factorWith operand inner scope start = .ok value final) : left final < left start := by
  unfold factorWith at h
  rcases choice_ok h with ⟨token, taken, htakes, -, h⟩ | h
  · exact Nat.lt_of_le_of_lt (hfactor _ _ _ h) htakes.left_lt
  rcases choice_ok h with ⟨token, taken, htakes, -, h⟩ | h
  · obtain ⟨_, hvalue, -⟩ := Rule.map_ok_iff.1 h
    exact Nat.lt_of_le_of_lt (hfactor _ _ _ hvalue) (look_takes_iff.1 htakes).left_lt
  · simpa using unsigned_left_lt hexpression h

/-- Parsing a factor goes forward. -/
theorem factor_left_lt (h : factor scope start = .ok value final) : left final < left start := by
  refine Rule.recursive_induct (fun _ state _ after => left after < left state)
    (fun input state result after ih hbody => ?_) h
  have hself : Forward (Rule.below (left state)
      (Rule.recursive (fun self (_ : Unit) => factorWith (self ()) (expressionOf (self ())) scope)
        ())) := by
    intro later value last hlast
    obtain ⟨hlater, hlast⟩ := Rule.below_ok_iff.1 hlast
    exact Nat.le_of_lt (ih _ _ _ _ hlater hlast)
  exact factorWith_left_lt hself (chain_forward (chain_forward hself)) hbody

theorem factor_forward : Forward (factor scope) := fun _ _ _ h => Nat.le_of_lt (factor_left_lt h)

theorem term_forward : Forward (term scope) := chain_forward factor_forward

/-! ## Factors by their first token -/

/-- Parsing a factor starts with a look. -/
theorem factorWith_looksFirst : LooksFirst (factorWith operand inner scope) :=
  (current_looksFirst _).bind _

/-- After a plus sign stands a factor. -/
theorem factorWith_plus (hupcoming : scanner.upcoming = .ok token) (htext : token.text = "+") :
    factorWith operand inner scope scanner = scanner.consumingThen token operand := by
  rw [factorWith, choice_eq, onNext_of_ok hupcoming, if_pos htext]

/-- After a minus sign stands a factor, which is negated. -/
theorem factorWith_minus (hupcoming : scanner.upcoming = .ok token) (htext : token.text = "-") :
    factorWith operand inner scope scanner =
      scanner.consumingThen token (operand >>= fun value => pure (.negate value)) := by
  rw [factorWith, choice_eq, onNext_of_ok hupcoming, if_neg (by rw [htext]; decide), choice_eq,
    onNext_of_ok (by rw [look_upcoming, hupcoming]), if_pos htext,
    look_consumingThen]

/-- Without a sign a factor is an unsigned one. -/
theorem factorWith_unsigned (hupcoming : scanner.upcoming = .ok token) (hplus : token.text ≠ "+")
    (hminus : token.text ≠ "-") :
    factorWith operand inner scope scanner = unsigned inner scope scanner.look := by
  rw [factorWith, choice_eq, onNext_of_ok hupcoming, if_neg hplus, choice_eq,
    onNext_of_ok (by rw [look_upcoming, hupcoming]), if_neg hminus, look_look]

/-- A factor without a sign is parsed as an operand of the grammar by precedence is. -/
theorem factorWith_eq_unsigned (parser : Scope → Scan Kind Expr) (scope : Scope) :
    Pl0.factorWith parser scope = unsigned (parser scope) scope := by
  funext scanner
  rw [Pl0.factorWith, unsigned, current_bind, current_bind]
  refine onNext_congr fun token hupcoming => ?_
  by_cases hnumber : token.kind = .number
  · simp only [hnumber, if_true]
  by_cases hidentifier : token.kind = .identifier
  · simp only [hidentifier, if_true]
    rfl
  rw [if_neg hnumber, if_neg hidentifier, choice_eq,
    onNext_of_ok (by rw [look_upcoming, hupcoming])]
  -- A token of any other kind must be the parenthesis that opens a group.
  have hopening (message : String) (next : String → Scan Kind Expr) :
      (consumeText "(" message >>= next) scanner.look =
        if token.text = "(" then scanner.consumingThen token (next "(")
        else .error (.parse (.ofToken .unexpectedToken token (textMessage "(" message token)))
          scanner.look := by
    have hrun := consumeText_eq scanner.look "(" message
    rw [onNext_of_ok (by rw [look_upcoming, hupcoming]), look_look, look_consuming] at hrun
    by_cases htext : token.text = "("
    · rw [if_pos htext] at hrun ⊢
      exact consuming_then hrun next
    · rw [if_neg htext] at hrun ⊢
      rw [Rule.bind_apply, hrun]
  have hmessage : (toString "expected factor; " ++ toString (received token)).isEmpty ≠ true := by
    simp [toString]
  cases hkind : token.kind
  case number => exact (hnumber hkind).elim
  case identifier => exact (hidentifier hkind).elim
  all_goals
    refine (hopening _ _).trans ?_
    rw [look_consumingThen, fail_eq, look_look, look_look, look_errorAt, errorAt_of_ok hupcoming,
      textMessage, if_neg hmessage]

/-- An operand of the grammar by precedence is parsed as a factor is. -/
theorem operand_eq_factorWith (reparse : Reparse Scope Kind Expr) (scope : Scope) :
    operators.operand reparse scope =
      factorWith (reparse scope (.upTo 0)) (reparse scope .all) scope := by
  funext scanner
  rw [Grammar.operand, current_bind]
  cases hupcoming : scanner.upcoming with
  | error fault => rw [onNext_of_error hupcoming, factorWith_looksFirst.of_error hupcoming]
  | ok token =>
      rw [onNext_of_ok hupcoming]
      by_cases hplus : token.text = "+"
      · rw [factorWith_plus hupcoming hplus,
          (operators_before_lookup_iff token.text _).2 (.inl ⟨hplus, rfl⟩)]
        refine (consuming_then (consume_look hupcoming) _).trans ?_
        exact congrArg (scanner.consumingThen token) (bind_pure (reparse scope (.upTo 0)))
      by_cases hminus : token.text = "-"
      · rw [factorWith_minus hupcoming hminus,
          (operators_before_lookup_iff token.text _).2 (.inr ⟨hminus, rfl⟩)]
        exact consuming_then (consume_look hupcoming) _
      · have hrow : operators.before.lookup token.text = none := by
          refine Option.eq_none_iff_forall_ne_some.2 fun row hrow => ?_
          rcases (operators_before_lookup_iff _ _).1 hrow with ⟨htext, -⟩ | ⟨htext, -⟩
          · exact hplus htext
          · exact hminus htext
        rw [factorWith_unsigned hupcoming hplus hminus, hrow]
        exact congrFun (factorWith_eq_unsigned (reparse · .all) scope) scanner.look

/-- Inside a factor without a sign, expressions are parsed where fewer tokens remain. -/
theorem unsigned_congr {expression : Scan Kind Expr}
    (h : ∀ later, left later < left scanner → inner later = expression later) :
    unsigned inner scope scanner = unsigned expression scope scanner := by
  rw [unsigned, unsigned, current_bind, current_bind]
  refine onNext_congr fun token hupcoming => ?_
  by_cases hnumber : token.kind = .number
  · rw [if_pos hnumber, if_pos hnumber]
  by_cases hidentifier : token.kind = .identifier
  · rw [if_neg hnumber, if_neg hnumber, if_pos hidentifier, if_pos hidentifier]
  rw [if_neg hnumber, if_neg hnumber, if_neg hidentifier, if_neg hidentifier, choice_eq, choice_eq]
  refine onNext_congr fun token hupcoming => ?_
  by_cases htext : token.text = "("
  · rw [if_pos htext, if_pos htext]
    refine consumingThen_congr hupcoming fun htakes => ?_
    rw [Rule.bind_apply, Rule.bind_apply, h _ (look_takes_iff.1 (by simpa using htakes)).left_lt]
  · rw [if_neg htext, if_neg htext]

/-- Inside a factor, factors and expressions are parsed where fewer tokens remain. -/
theorem factorWith_congr {expression : Scan Kind Expr}
    (hfactor : ∀ later, left later < left scanner → operand later = other later)
    (hexpression : ∀ later, left later < left scanner → inner later = expression later) :
    factorWith operand inner scope scanner = factorWith other expression scope scanner := by
  cases hupcoming : scanner.upcoming with
  | error fault =>
      rw [factorWith_looksFirst.of_error hupcoming, factorWith_looksFirst.of_error hupcoming]
  | ok token =>
      by_cases hplus : token.text = "+"
      · rw [factorWith_plus hupcoming hplus, factorWith_plus hupcoming hplus]
        exact consumingThen_congr hupcoming fun htakes => hfactor _ htakes.left_lt
      by_cases hminus : token.text = "-"
      · rw [factorWith_minus hupcoming hminus, factorWith_minus hupcoming hminus]
        refine consumingThen_congr hupcoming fun htakes => ?_
        rw [Rule.bind_apply, Rule.bind_apply, hfactor _ htakes.left_lt]
      · rw [factorWith_unsigned hupcoming hplus hminus, factorWith_unsigned hupcoming hplus hminus]
        exact unsigned_congr fun later hlater => hexpression later (by simpa using hlater)

/-! ## Loops -/

/-- A loop takes in a symbol that comes next, and an operand after it. -/
theorem iterate_joined_of_mem (hforward : Forward operand)
    (hupcoming : scanner.upcoming = .ok token) (hmem : token.text ∈ symbols) :
    Rule.iterate (joined symbols operand) before scanner =
      scanner.consumingThen token (operand >>= fun right =>
        Rule.iterate (joined symbols operand) (.binary token.text before right)) :=
  iterate_of_consuming hupcoming (joined_of_mem hupcoming hmem) fun _ _ _ => hforward _ _ _

/-- A loop ends in front of any other token. -/
theorem iterate_joined_of_not_mem (hupcoming : scanner.upcoming = .ok token)
    (hmem : token.text ∉ symbols) :
    Rule.iterate (joined symbols operand) before scanner = .ok before scanner.look :=
  Rule.iterate_of_none (joined_of_not_mem hupcoming hmem)

/-- A loop starts with a look. -/
theorem iterate_joined_looksFirst : LooksFirst (Rule.iterate (joined symbols operand) before) :=
  joined_looksFirst.iterate

/-- Two steps go on alike if the second ones do where the first ones lead. -/
theorem bind_congr_at {α β : Type} {first first' : Scan Kind α} {next next' : α → Scan Kind β}
    (hfirst : first scanner = first' scanner)
    (hnext : ∀ value middle, first scanner = .ok value middle →
      next value middle = next' value middle) :
    (first >>= next) scanner = (first' >>= next') scanner := by
  rw [Rule.bind_apply, Rule.bind_apply, ← hfirst]
  cases hvalue : first scanner with
  | error fault middle => rfl
  | ok value middle => exact hnext value middle hvalue

/-- A loop goes by what its operand does on fewer tokens. -/
theorem iterate_joined_congr (hforward : Forward operand) (hother : Forward other) :
    ∀ (before : Expr) (scanner : Scanner Kind),
      (∀ later, left later < left scanner → operand later = other later) →
      Rule.iterate (joined symbols operand) before scanner =
        Rule.iterate (joined symbols other) before scanner := by
  intro before scanner
  induction hlength : left scanner using Nat.strongRecOn generalizing before scanner with
  | _ length ih =>
    intro h
    cases hupcoming : scanner.upcoming with
    | error fault =>
        rw [iterate_joined_looksFirst.of_error hupcoming,
          iterate_joined_looksFirst.of_error hupcoming]
    | ok token =>
        by_cases hmem : token.text ∈ symbols
        · rw [iterate_joined_of_mem hforward hupcoming hmem,
            iterate_joined_of_mem hother hupcoming hmem]
          refine consumingThen_congr hupcoming fun htakes => ?_
          have htaken := htakes.left_lt
          refine bind_congr_at (h _ (by omega)) fun right later hright => ?_
          have hlater := hforward _ _ _ hright
          exact ih _ (by omega) _ _ rfl fun further hfurther => h _ (by omega)
        · rw [iterate_joined_of_not_mem hupcoming hmem, iterate_joined_of_not_mem hupcoming hmem]

/-- Operands that are joined go by what an operand does where no more tokens remain. -/
theorem chain_congr (hforward : Forward operand) (hother : Forward other)
    (h : ∀ later, left later ≤ left scanner → operand later = other later) :
    chain symbols operand scanner = chain symbols other scanner := by
  refine bind_congr_at (h _ (Nat.le_refl _)) fun value middle hvalue => ?_
  have hmiddle := hforward _ _ _ hvalue
  exact iterate_joined_congr hforward hother _ _ fun later hlater => h _ (by omega)

/-- The parser of factors is its body, in which it stands for itself. -/
theorem factor_eq (scope : Scope) :
    factor scope = factorWith (factor scope) (expression scope) scope := by
  funext scanner
  have hbelow : Forward (Rule.below (left scanner) (factor scope)) := fun _ _ _ h =>
    factor_forward _ _ _ (Rule.below_ok_iff.1 h).2
  refine (Rule.recursive_eq _ _ _).trans (factorWith_congr (fun later hlater => ?_)
    fun later hlater => ?_)
  · exact Rule.below_of_lt hlater _
  · refine chain_congr (chain_forward hbelow) term_forward fun next hnext => ?_
    refine chain_congr hbelow factor_forward fun last hlast => ?_
    exact Rule.below_of_lt (by omega) _

/-! ## Looking further -/

/-- An operation, and a look after it. -/
def looked (operation : Scan Kind Expr) : Scan Kind Expr := do
  let value ← operation
  let _ ← current
  return value

/-- A look makes no difference before what starts with one. -/
theorem looked_bind {α : Type} {next : Expr → Scan Kind α}
    (hnext : ∀ value, LooksFirst (next value)) : looked operand >>= next = operand >>= next := by
  funext scanner
  rw [looked, bind_assoc]
  refine bind_congr_at rfl fun value middle _ => ?_
  rw [bind_assoc, current_bind, hnext value middle]
  rfl

/-- In a factor a look after the factors inside makes no difference before what starts with one. -/
theorem factorWith_looked_bind {α : Type} {next : Expr → Scan Kind α}
    (hnext : ∀ value, LooksFirst (next value)) :
    factorWith (looked operand) inner scope >>= next = factorWith operand inner scope >>= next := by
  funext scanner
  cases hupcoming : scanner.upcoming with
  | error fault =>
      rw [(factorWith_looksFirst.bind next).of_error hupcoming,
        (factorWith_looksFirst.bind next).of_error hupcoming]
  | ok token =>
      by_cases hplus : token.text = "+"
      · rw [consumingThen_bind (factorWith_plus hupcoming hplus),
          consumingThen_bind (factorWith_plus hupcoming hplus), looked_bind hnext]
      by_cases hminus : token.text = "-"
      · rw [consumingThen_bind (factorWith_minus hupcoming hminus),
          consumingThen_bind (factorWith_minus hupcoming hminus), bind_assoc, bind_assoc,
          looked_bind fun value => ?_]
        simpa only [pure_bind] using hnext (.negate value)
      · rw [Rule.bind_apply, Rule.bind_apply, factorWith_unsigned hupcoming hplus hminus,
          factorWith_unsigned hupcoming hplus hminus]

/-- In front of what does not continue a term, the loop of a term makes no difference. -/
theorem iterate_idle {α : Type} {next : Expr → Scan Kind α} (hnext : LooksFirst (next value))
    (h : ∀ token, scanner.upcoming = .ok token → token.text ∉ symbols) :
    (Rule.iterate (joined symbols operand) value >>= next) scanner = next value scanner := by
  cases hupcoming : scanner.upcoming with
  | error fault =>
      rw [(iterate_joined_looksFirst.bind next).of_error hupcoming, hnext.of_error hupcoming]
  | ok token =>
      rw [Rule.bind_of_ok (iterate_joined_of_not_mem hupcoming (h token hupcoming)),
        hnext.of_ok hupcoming]

/-- Operands that are joined end in front of a token that is none of the symbols. -/
theorem chain_ends (h : chain symbols operand start = .ok value final) :
    ∀ token, final.upcoming = .ok token → token.text ∉ symbols := by
  obtain ⟨first, middle, -, hloop⟩ := Rule.bind_ok_iff.1 h
  obtain ⟨last, -, hdeclines⟩ := Rule.iterate_ok_induct (fun _ _ => True)
    (fun _ _ _ _ _ _ _ => trivial) trivial hloop
  obtain ⟨rfl, hnext⟩ := joined_none hdeclines
  simpa using hnext

/-! ## Levels -/

/-- What is left of an expression of a level after its first factor. -/
def rest (scope : Scope) : Level → Expr → Scan Kind Expr
  | .factor, value => do
    let _ ← current
    return value
  | .term, value => products scope value
  | .expression, value => do sums scope (← products scope value)

/-- An expression of a level, and a look at what follows it. -/
def upTo (scope : Scope) (level : Level) : Scan Kind Expr := factor scope >>= rest scope level

theorem upTo_factor (scope : Scope) : upTo scope .factor = looked (factor scope) := rfl

theorem upTo_term (scope : Scope) : upTo scope .term = term scope := rfl

theorem upTo_expression (scope : Scope) : upTo scope .expression = expression scope :=
  (bind_assoc (factor scope) (products scope) (sums scope)).symm

/-- Parsing an expression of a level goes forward. -/
theorem upTo_forward (level : Level) : Forward (upTo scope level) := by
  intro start value final h
  cases level with
  | factor =>
      obtain ⟨_, middle, hvalue, h⟩ := Rule.bind_ok_iff.1 h
      obtain ⟨_, h, -⟩ := Rule.map_ok_iff.1 h
      obtain ⟨-, rfl⟩ := current_ok_iff.1 h
      simpa using factor_forward _ _ _ hvalue
  | term => exact term_forward _ _ _ h
  | expression =>
      rw [upTo_expression] at h
      exact chain_forward term_forward _ _ _ h

/-- What is left after a factor starts with a look. -/
theorem rest_looksFirst (level : Level) (value : Expr) : LooksFirst (rest scope level value) := by
  cases level with
  | factor => exact current_looksFirst _
  | term => exact iterate_joined_looksFirst
  | expression => exact iterate_joined_looksFirst.bind _

/-- A term or an expression goes on with a factor after a symbol of products. -/
theorem rest_of_product {level : Level} (hlevel : level ≠ .factor)
    (hupcoming : scanner.upcoming = .ok token) (hmem : token.text ∈ ["*", "/"]) :
    rest scope level value scanner =
      scanner.consumingThen token (factor scope >>= fun right =>
        rest scope level (.binary token.text value right)) := by
  have hproducts : products scope value scanner =
      scanner.consumingThen token (factor scope >>= fun right =>
        products scope (.binary token.text value right)) :=
    iterate_joined_of_mem factor_forward hupcoming hmem
  cases level with
  | factor => exact (hlevel rfl).elim
  | term => exact hproducts
  | expression =>
      refine (consumingThen_bind hproducts _).trans ?_
      rw [bind_assoc]
      rfl

/-- An expression goes on with a term after a symbol of sums. -/
theorem rest_of_sum (hupcoming : scanner.upcoming = .ok token) (hmem : token.text ∈ ["+", "-"]) :
    rest scope .expression value scanner =
      scanner.consumingThen token (term scope >>= fun right =>
        rest scope .expression (.binary token.text value right)) := by
  have hproduct : ∀ next, scanner.upcoming = .ok next → next.text ∉ ["*", "/"] := by
    intro next hnext
    cases hupcoming.symm.trans hnext
    simp only [List.mem_cons, List.not_mem_nil, or_false] at hmem
    rcases hmem with htext | htext <;> rw [htext] <;> decide
  refine (iterate_idle iterate_joined_looksFirst hproduct).trans ?_
  refine (iterate_joined_of_mem term_forward hupcoming hmem).trans ?_
  -- The term on the right has ended, so the loop of products has nothing left to take in.
  refine consumingThen_congr hupcoming fun _ => bind_congr_at rfl fun right later hright => ?_
  exact (iterate_idle iterate_joined_looksFirst (chain_ends hright)).symm

/-- An expression ends in front of what does not continue one of its level. -/
theorem rest_of_stops {level : Level} (hupcoming : scanner.upcoming = .ok token)
    (hstops : level.Stops token.text) :
    rest scope level value scanner = .ok value scanner.look := by
  cases level with
  | factor => exact (current_bind _).trans (onNext_of_ok hupcoming _)
  | term => exact iterate_joined_of_not_mem hupcoming (hstops.product (nomatch ·))
  | expression =>
      have hproduct : ∀ next, scanner.upcoming = .ok next → next.text ∉ ["*", "/"] := by
        intro next hnext
        cases hupcoming.symm.trans hnext
        exact hstops.product (nomatch ·)
      refine (iterate_idle iterate_joined_looksFirst hproduct).trans ?_
      exact iterate_joined_of_not_mem hupcoming (hstops.sum rfl)

/-! ## Precedence and levels -/

variable {level : Level} {limit : Limit} {reparse : Reparse Scope Kind Expr}

/-- A round of the loop by precedence takes in an operator that the limit admits. -/
theorem extend_of_admits {precedence : Int} (hupcoming : scanner.upcoming = .ok token)
    (hrow : operators.tail.lookup token.text = some (arithmetic precedence symbols))
    (hadmits : limit.admits precedence = true) :
    operators.extend reparse scope limit value scanner =
      scanner.consumingThen token (reparse scope (.below precedence) >>= fun right =>
        pure (some (.binary token.text value right))) := by
  rw [Grammar.extend, current_bind, onNext_of_ok hupcoming, hrow]
  simp only [arithmetic, hadmits]
  exact consuming_then (consume_look hupcoming) _

/-- A loop by precedence starts with a look. -/
theorem iterate_extend_looksFirst :
    LooksFirst (Rule.iterate (operators.extend reparse scope limit) value) :=
  (current_looksFirst _).iterate

/-- The loop by precedence takes in what is left of an expression of its level, if expressions on
fewer tokens are parsed by level. -/
theorem iterate_extend_eq (hfits : level.Fits limit) {bound : Nat}
    (hreparse : ∀ level limit later, left later < bound → level.Fits limit →
      reparse scope limit later = upTo scope level later) :
    ∀ (value : Expr) (scanner : Scanner Kind), left scanner ≤ bound →
      Rule.iterate (operators.extend reparse scope limit) value scanner =
        rest scope level value scanner := by
  intro value scanner
  induction hlength : left scanner using Nat.strongRecOn generalizing value scanner with
  | _ length ih =>
    intro hbound
    cases hupcoming : scanner.upcoming with
    | error fault =>
        rw [iterate_extend_looksFirst.of_error hupcoming,
          (rest_looksFirst level value).of_error hupcoming]
    | ok token =>
        -- An operator is taken in with an operand of the level below its own.
        have hgrows (lower : Level) (precedence : Int) (symbols : List String)
            (hlower : lower.Fits (.below precedence)) (hadmits : limit.admits precedence = true)
            (hrow : operators.tail.lookup token.text = some (arithmetic precedence symbols)) :
            Rule.iterate (operators.extend reparse scope limit) value scanner =
              scanner.consumingThen token (upTo scope lower >>= fun right =>
                rest scope level (.binary token.text value right)) := by
          have hoperand (htakes : scanner.Takes token scanner.advance) :
              reparse scope (.below precedence) scanner.advance =
                upTo scope lower scanner.advance :=
            hreparse _ _ _ (by have := htakes.left_lt; omega) hlower
          rw [iterate_of_consuming hupcoming (extend_of_admits hupcoming hrow hadmits)
            fun htakes right later hright =>
              upTo_forward lower _ _ _ ((hoperand htakes).symm.trans hright)]
          refine consumingThen_congr hupcoming fun htakes => ?_
          have htaken := htakes.left_lt
          refine bind_congr_at (hoperand htakes) fun right later hright => ?_
          have hlater := upTo_forward lower _ _ _ ((hoperand htakes).symm.trans hright)
          exact ih _ (by omega) _ _ rfl (by omega)
        by_cases hproduct : level ≠ .factor ∧ token.text ∈ ["*", "/"]
        · obtain ⟨hlevel, hmem⟩ := hproduct
          rw [hgrows .factor 1 ["*", "/"] factor_fits_below (hfits.product.2 hlevel)
            ((operators_tail_lookup_iff _ _).2 (.inl ⟨hmem, rfl⟩)), upTo_factor,
            looked_bind (fun _ => rest_looksFirst _ _), rest_of_product hlevel hupcoming hmem]
        by_cases hsum : level = .expression ∧ token.text ∈ ["+", "-"]
        · obtain ⟨rfl, hmem⟩ := hsum
          rw [hgrows .term 2 ["+", "-"] term_fits_below (hfits.sum.2 rfl)
            ((operators_tail_lookup_iff _ _).2 (.inr ⟨hmem, rfl⟩)), upTo_term,
            rest_of_sum hupcoming hmem]
        · have hstops : level.Stops token.text :=
            ⟨fun hlevel hmem => hproduct ⟨hlevel, hmem⟩, fun hlevel hmem => hsum ⟨hlevel, hmem⟩⟩
          rw [rest_of_stops hupcoming hstops]
          exact Rule.iterate_of_none ((extend_stops_iff hfits).2 ⟨rfl, token, hupcoming, hstops⟩)

/-- The parser by precedence parses an expression of the level of its limit. -/
theorem parse_eq_upTo (hfits : level.Fits limit) (scanner : Scanner Kind) :
    operators.parse scope limit scanner = upTo scope level scanner := by
  induction hlength : left scanner using Nat.strongRecOn generalizing level limit scanner with
  | _ length ih =>
    subst hlength
    have hwithin (level : Level) (limit : Limit) (later : Scanner Kind)
        (hlater : left later < left scanner) (hfits : level.Fits limit) :
        operators.within scanner scope limit later = upTo scope level later :=
      (Rule.below_of_lt hlater _).trans (ih _ hlater hfits later rfl)
    rw [Grammar.parse_eq, Grammar.expression, operand_eq_factorWith, upTo]
    calc
      (factorWith (operators.within scanner scope (.upTo 0)) (operators.within scanner scope .all)
          scope >>= Rule.iterate (operators.extend (operators.within scanner) scope limit)) scanner
        = (factorWith (looked (factor scope)) (expression scope) scope >>=
            Rule.iterate (operators.extend (operators.within scanner) scope limit)) scanner := by
          refine bind_congr_at (factorWith_congr (fun later hlater => ?_) fun later hlater => ?_)
            fun _ _ _ => rfl
          · exact hwithin .factor _ later hlater factor_fits_upTo
          · rw [hwithin .expression _ later hlater expression_fits_all, upTo_expression]
      _ = (factor scope >>=
            Rule.iterate (operators.extend (operators.within scanner) scope limit)) scanner := by
          rw [factorWith_looked_bind fun _ => iterate_extend_looksFirst, ← factor_eq]
      _ = (factor scope >>= rest scope level) scanner := by
          refine bind_congr_at rfl fun value later hvalue => ?_
          exact iterate_extend_eq hfits hwithin value later (factor_forward _ _ _ hvalue)

/-- The parser by precedence is the parser of expressions, wherever it starts. -/
theorem expression_eq (scope : Scope) : Pl0.expression scope = expression scope := by
  funext scanner
  rw [← upTo_expression]
  exact parse_eq_upTo expression_fits_all scanner

/-- Parsers of the three levels that call each other, with the loops of sums and of products: each
is what the grammar says of its level. -/
structure IsDescent (scope : Scope) (expression term factor : Scan Kind Expr)
    (sums products : Expr → Scan Kind Expr) : Prop where
  expression_eq : expression = term >>= sums
  sums_eq : ∀ before, sums before = joined ["+", "-"] term before >>= fun
    | some reached => sums reached
    | none => pure before
  term_eq : term = factor >>= products
  products_eq : ∀ before, products before = joined ["*", "/"] factor before >>= fun
    | some reached => products reached
    | none => pure before
  factor_eq : factor = factorWith factor expression scope

/-- No round of a loop is refused. -/
theorem iterate_joined_eq (hforward : Forward operand) (before : Expr) :
    Rule.iterate (joined symbols operand) before = joined symbols operand before >>= fun
      | some reached => Rule.iterate (joined symbols operand) reached
      | none => pure before := by
  funext scanner
  cases hupcoming : scanner.upcoming with
  | error fault =>
      rw [iterate_joined_looksFirst.of_error hupcoming,
        (joined_looksFirst.bind _).of_error hupcoming]
  | ok token =>
      by_cases hmem : token.text ∈ symbols
      · rw [iterate_joined_of_mem hforward hupcoming hmem,
          consumingThen_bind (joined_of_mem hupcoming hmem), bind_assoc]
        simp only [pure_bind]
      · rw [iterate_joined_of_not_mem hupcoming hmem,
          Rule.bind_of_ok (joined_of_not_mem hupcoming hmem)]
        rfl

/-- The parser by precedence is the one that has a function for each level: three functions, and the
loops of two of them, that call each other as the grammar says. -/
theorem expression_eq_byLevel (scope : Scope) :
    Pl0.expression scope = expression scope ∧
      IsDescent scope (expression scope) (term scope) (factor scope) (sums scope)
        (products scope) := by
  refine ⟨expression_eq scope, rfl, ?_, rfl, ?_, factor_eq scope⟩
  · exact iterate_joined_eq term_forward
  · exact iterate_joined_eq factor_forward

end ByLevel

end Parlance.Pl0
