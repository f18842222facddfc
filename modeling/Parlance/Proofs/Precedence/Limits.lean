import Mathlib.Algebra.Order.Field.Power
import Mathlib.Data.Rat.Floor
import Mathlib.Logic.Relation
import Mathlib.Order.WithBotTop
import Parlance.Proofs.Precedence.Inverse
import Parlance.Proofs.Precedence.Scripts

/-!
# Expressions under two limits

A limit decides where the loop of the parser ends, and nothing else: the expressions inside get
their limits from the operators that are met. So under a tighter limit the loop makes the same
rounds and ends on the way, and from there it can go on under a looser one.
`Grammar.parse_of_atMost` says so of the limits that two numbers set: what is parsed under the
smaller number is a left part of what is parsed under the greater one, in the tokens that it takes
and in the tree that it becomes.
-/

namespace Parlance

/-! ## Numbers on a line -/

/-- The place of a number on the line of the rational numbers and its two ends, if it is one. -/
def Binary64.value? : Binary64 → Option (WithBotTop ℚ)
  | .finite negative significand exponent =>
    let signed : Int := if negative then -significand else significand
    some (.coe (signed * 2 ^ exponent))
  | .infinite negative => some (if negative then ⊥ else ⊤)
  | .undefined => none

/-- The place of a number on the line, whatever its type. -/
def Scalar.value? : Scalar → Option (WithBotTop ℚ)
  | .real number => number.value?
  | value => value.toInt?.map fun count => .coe count

/-- Both are numbers, and the first is at most the second. -/
def Scalar.AtMost (first second : Scalar) : Prop :=
  ∃ low ∈ first.value?, ∃ high ∈ second.value?, low ≤ high

namespace Binary64

/-- A fraction with a power of two is the product with the power. -/
theorem scaled_two (significand : Nat) (exponent : Int) :
    0 < (scaled significand 1 2 exponent).2 ∧
      (significand : ℚ) * 2 ^ exponent =
        (scaled significand 1 2 exponent).1 / (scaled significand 1 2 exponent).2 := by
  unfold scaled
  split
  · rename_i hexponent
    obtain ⟨power, rfl⟩ := Int.eq_ofNat_of_zero_le hexponent
    simp
  · rename_i hexponent
    obtain ⟨power, hpower⟩ := Int.eq_ofNat_of_zero_le (a := -exponent) (by omega)
    obtain rfl : exponent = -power := by omega
    simp [div_eq_mul_inv]

/-- An integer is at most the floor of a finite number if it is at most the number. -/
theorem le_floor_iff {negative : Bool} {significand : Nat} {exponent floor : Int}
    (h : floor ∈ (finite negative significand exponent).floor?) (count : Int) :
    count ≤ floor ↔
      (count : ℚ) ≤ (if negative then -significand else significand : Int) * 2 ^ exponent := by
  obtain ⟨hpositive, hvalue⟩ := scaled_two significand exponent
  have hdenominator : (0 : ℚ) < (scaled significand 1 2 exponent).2 := by exact_mod_cast hpositive
  have hsigned : ((if negative then -significand else significand : Int) : ℚ) * 2 ^ exponent =
      ((if negative then -(scaled significand 1 2 exponent).1
        else (scaled significand 1 2 exponent).1 : Int) : ℚ) /
        (scaled significand 1 2 exponent).2 := by
    cases negative
    · simpa using hvalue
    · simpa [neg_div] using hvalue
  cases h
  rw [hsigned, le_div_iff₀ hdenominator, Int.fdiv_eq_ediv_of_nonneg _ (Int.natCast_nonneg _),
    Int.le_ediv_iff_mul_le (by exact_mod_cast hpositive)]
  norm_cast

end Binary64

namespace Precedence

/-- The limit that a number sets admits the precedences that are at most the number. -/
theorem Limit.ofNumber_admits_iff {number : Scalar} {value : WithBotTop ℚ}
    (h : value ∈ number.value?) (precedence : Int) :
    (Limit.ofNumber number).admits precedence = true ↔ .coe precedence ≤ value := by
  -- An exact number is an integer, and sets the limit to itself.
  have hexact {count : Int} : (upTo count).admits precedence = true ↔
      WithBotTop.coe (precedence : ℚ) ≤ .coe count := by
    simp [admits]
  cases number with
  | none | text => cases h
  | bool | int =>
      cases h
      exact hexact
  | real number =>
      cases number with
      | undefined => cases h
      | infinite negative =>
          cases h
          cases negative <;> simp [ofNumber, Binary64.floor?, admits]
      | finite negative significand exponent =>
          cases h
          rw [WithBotTop.coe_le_coe, ← Binary64.le_floor_iff rfl]
          exact decide_eq_true_iff

/-- A limit is at most another one if it admits nothing that the other does not admit. -/
instance : LE Limit :=
  ⟨fun first second => ∀ precedence, first.admits precedence = true →
    second.admits precedence = true⟩

/-- Numbers in order set limits in order. -/
theorem Limit.ofNumber_le {first second : Scalar} (h : first.AtMost second) :
    ofNumber first ≤ ofNumber second := by
  obtain ⟨low, hlow, high, hhigh, hle⟩ := h
  intro precedence hadmits
  exact (ofNumber_admits_iff hhigh precedence).2
    (((ofNumber_admits_iff hlow precedence).1 hadmits).trans hle)

end Precedence

/-! ## The loop under two limits -/

namespace Precedence.Grammar

open Supply (left)

variable {γ κ ρ : Type} [DecidableEq κ] {grammar : Grammar γ κ ρ} {reparse : Reparse γ κ ρ}
  {context : γ} {first second : Limit} {scanner start final : Scanner κ} {value whole : ρ}

/-- A round looks at the next token first. -/
theorem extend_looksFirst (grammar : Grammar γ κ ρ) (reparse : Reparse γ κ ρ) (context : γ)
    (limit : Limit) (value : ρ) :
    Scanner.LooksFirst (grammar.extend reparse context limit value) :=
  Scanner.current_looksFirst _

/-- Under a tighter limit a round does the same, or it declines. -/
theorem extend_of_le {token : Token κ} (hle : first ≤ second)
    (hupcoming : scanner.upcoming = .ok token) :
    grammar.extend reparse context first value scanner =
        grammar.extend reparse context second value scanner ∨
      grammar.extend reparse context first value scanner = .ok none scanner.look := by
  unfold extend
  rw [Scanner.current_bind, Scanner.current_bind, Scanner.onNext_of_ok hupcoming,
    Scanner.onNext_of_ok hupcoming]
  cases grammar.tail.lookup token.text with
  | none => exact .inl rfl
  | some row =>
      by_cases hadmits : first.admits row.head.precedence = true
      · have hlooser := hle _ hadmits
        simp only [hadmits, hlooser]
        exact .inl trivial
      · simp only [hadmits]
        exact .inr rfl

/-- The result is one from which the loop goes on to this end under the limit. -/
def LeadsTo (grammar : Grammar γ κ ρ) (reparse : Reparse γ κ ρ) (context : γ) (limit : Limit)
    (whole : ρ) (final : Scanner κ) (result : EStateM.Result Fault (Scanner κ) ρ) : Prop :=
  ∃ part middle, result = .ok part middle ∧
    Rule.iterate (grammar.extend reparse context limit) part middle = .ok whole final

/-- Under a tighter limit the loop ends on the way, and from there it goes on to the same end. -/
theorem iterate_leadsTo {value : ρ} {scanner : Scanner κ} (hle : first ≤ second)
    (h : Rule.iterate (grammar.extend reparse context second) value scanner = .ok whole final) :
    grammar.LeadsTo reparse context second whole final
      (Rule.iterate (grammar.extend reparse context first) value scanner) := by
  have hlooks := (grammar.extend_looksFirst reparse context second value).iterate
  cases hupcoming : scanner.upcoming with
  | error fault =>
      rw [hlooks.of_error hupcoming] at h
      cases h
  | ok token =>
      -- Where the tighter limit ends the loop, going on starts with the same look once more.
      have hends (hnone : grammar.extend reparse context first value scanner =
          .ok none scanner.look) : grammar.LeadsTo reparse context second whole final
            (Rule.iterate (grammar.extend reparse context first) value scanner) :=
        ⟨value, scanner.look, Rule.iterate_of_none hnone, hlooks.of_ok hupcoming ▸ h⟩
      rcases extend_of_le hle hupcoming with hsame | hnone
      · cases hstep : grammar.extend reparse context second value scanner with
        | error fault after =>
            rw [Rule.iterate_eq, hstep] at h
            cases h
        | ok reached? after =>
            rw [hstep] at hsame
            cases reached? with
            | none =>
                obtain ⟨rfl, -⟩ := extend_none_iff.1 hstep
                exact hends hsame
            | some reached =>
                rw [Rule.iterate_eq, hstep] at h
                obtain ⟨hleft, hrest⟩ := Rule.below_ok_iff.1 h
                have hfewer : after.ahead.length < scanner.ahead.length := by simpa using hleft
                rw [Rule.iterate_of_some hsame hleft]
                exact iterate_leadsTo hle hrest
      · exact hends hnone
termination_by scanner.ahead.length

/-- Whatever parser the actions see: under a tighter limit an expression ends on the way to the end
that it comes to under a looser one. -/
theorem expression_leadsTo (hle : first ≤ second)
    (h : grammar.expression reparse context second start = .ok whole final) :
    grammar.LeadsTo reparse context second whole final
      (grammar.expression reparse context first start) := by
  unfold expression at h ⊢
  obtain ⟨operand, middle, hoperand, hloop⟩ := Rule.bind_ok_iff.1 h
  rw [Rule.bind_of_ok hoperand]
  exact iterate_leadsTo hle hloop

/-! ## Left operands -/

/-- Every operator that follows an operand makes something of which that operand is the left part in
this sense. -/
def Nests (grammar : Grammar γ κ ρ) (leftOf : ρ → ρ → Prop) : Prop :=
  ∀ symbol row, grammar.tail.lookup symbol = some row →
    ∀ reparse context left scanner value final,
      match row.action with
      | .after combine =>
          combine reparse context symbol left scanner = .ok value final → leftOf left value
      | .between _ combine => ∀ right,
          combine reparse context symbol left right scanner = .ok value final → leftOf left value

/-- The rounds of a loop nest what it begins with in what it comes to. -/
theorem Nests.iterate {leftOf : ρ → ρ → Prop} (h : grammar.Nests leftOf) {limit : Limit}
    (hloop : Rule.iterate (grammar.extend reparse context limit) value scanner = .ok whole final) :
    Relation.ReflTransGen leftOf value whole := by
  have hround (reached : ρ) (state : Scanner κ) (next : ρ) (after : Scanner κ)
      (hreached : Relation.ReflTransGen leftOf value reached)
      (hstep : grammar.extend reparse context limit reached state = .ok (some next) after)
      (_ : left after < left state) : Relation.ReflTransGen leftOf value next := by
    obtain ⟨token, row, taken, -, hrow, -, haction⟩ := extend_some_iff.1 hstep
    have hnests := h token.text row hrow reparse context reached
    refine hreached.tail ?_
    cases hkind : row.action with
    | after combine =>
        simp only [hkind] at haction hnests
        exact hnests _ _ _ haction
    | between right combine =>
        simp only [hkind] at haction hnests
        obtain ⟨other, middle, -, hcombine⟩ := haction
        exact hnests _ _ _ other hcombine
  obtain ⟨last, hnested, -⟩ := Rule.iterate_ok_induct
    (fun reached _ => Relation.ReflTransGen leftOf value reached) hround .refl hloop
  exact hnested

/-! ## What is consumed -/

/-- A parser that puts no token back. -/
def ReparsesForward (reparse : Reparse γ κ ρ) : Prop :=
  ∀ context limit, Scanner.Forward (reparse context limit)

/-- The actions put no token back as long as the parser that they see does not. -/
structure Forward (grammar : Grammar γ κ ρ) : Prop where
  primary : ∀ reparse, ReparsesForward reparse → ∀ context,
    Scanner.Forward (grammar.primary reparse context)
  before : ∀ key row, grammar.before.lookup key = some row → ∀ reparse, ReparsesForward reparse →
    ∀ context symbol operand, Scanner.Forward (row.action reparse context symbol operand)
  tail : ∀ key row, grammar.tail.lookup key = some row → ∀ reparse, ReparsesForward reparse →
    ∀ context symbol left,
      match row.action with
      | .after combine => Scanner.Forward (combine reparse context symbol left)
      | .between _ combine => ∀ right, Scanner.Forward (combine reparse context symbol left right)

namespace Forward

section

variable (h : grammar.Forward) (hreparse : ReparsesForward reparse)

include h hreparse

/-- An operand goes forward. -/
theorem operand (context : γ) : Scanner.Forward (grammar.operand reparse context) := by
  unfold Grammar.operand
  refine Scanner.current_forward.bind fun token => ?_
  cases hrow : grammar.before.lookup token.text with
  | none => exact h.primary reparse hreparse context
  | some row =>
      refine Scanner.consume_forward.bind fun symbol => (hreparse context _).bind fun inner => ?_
      exact h.before token.text row hrow reparse hreparse context symbol inner

/-- A round goes forward. -/
theorem extend (context : γ) (limit : Limit) (left : ρ) :
    Scanner.Forward (grammar.extend reparse context limit left) := by
  unfold Grammar.extend
  refine Scanner.current_forward.bind fun token => ?_
  cases hrow : grammar.tail.lookup token.text with
  | none => exact .pure none
  | some row =>
      simp only
      split
      · refine Scanner.consume_forward.bind fun symbol => ?_
        have haction := h.tail token.text row hrow reparse hreparse context symbol left
        cases hkind : row.action with
        | after combine =>
            simp only [hkind] at haction
            exact haction.bind fun _ => .pure _
        | between right combine =>
            simp only [hkind] at haction
            exact (hreparse context _).bind fun other => (haction other).bind fun _ => .pure _
      · exact .pure none

/-- An expression goes forward. -/
theorem expression (context : γ) (limit : Limit) :
    Scanner.Forward (grammar.expression reparse context limit) :=
  (h.operand hreparse context).bind fun value => .iterate (h.extend hreparse context limit) value

end

/-- The parser passes over tokens, by induction on what is left. -/
theorem parse_passes (h : grammar.Forward) (context : γ) (limit : Limit) (start : Scanner κ) :
    start.Passes (Result.last (grammar.parse context limit start)) := by
  have hwithin : ReparsesForward (grammar.within start) := by
    intro context limit later
    simp only [within, Rule.below, Scanner.left_eq_length]
    split
    · rename_i hlt
      exact parse_passes h context limit later
    · exact .refl later
  rw [parse_eq]
  exact h.expression hwithin context limit start
termination_by start.ahead.length

/-- What the actions see of the parser goes forward. -/
theorem within (h : grammar.Forward) (start : Scanner κ) :
    ReparsesForward (grammar.within start) :=
  fun context limit => Scanner.Forward.below (h.parse_passes context limit) _

end Forward

/-- An action that follows a script puts no token back. -/
theorem script_forward [KindText κ] (hreparse : ReparsesForward reparse) (script : Script γ κ ρ) :
    Scanner.Forward (script.act reparse) := by
  induction script with
  | give value => exact .pure value
  | raise fault => exact .throw fault
  | inspect next ih => exact fun scanner => ih scanner scanner
  | ask request next ih => exact (forward_attempt (Scanner.perform_forward request)).bind ih
  | parse context limit next ih => exact (forward_attempt (hreparse context limit)).bind ih

/-- The actions of a grammar that follow scripts put no token back. -/
theorem forward_of_gives [KindText κ] {scripts : Scripts γ κ ρ} {heads : List Head}
    (h : scripts.Gives heads grammar) : grammar.Forward where
  primary reparse hreparse context := by
    rw [h.primary]
    exact script_forward hreparse _
  before key row hrow reparse hreparse context symbol operand := by
    rw [(h.before key row hrow).2]
    exact script_forward hreparse _
  tail key row hrow reparse hreparse context symbol left := by
    have haction := (h.tail key row hrow).2
    cases hkind : row.action with
    | after combine =>
        simp only [hkind] at haction ⊢
        subst haction
        exact script_forward hreparse _
    | between right combine =>
        simp only [hkind] at haction ⊢
        subst haction
        exact fun second => script_forward hreparse _

/-! ## The main statement -/

/-- An expression under a tighter limit is a left part of what is parsed under a looser one: it is
parsed if the other is, from tokens of which the other takes these and maybe more, and going on from
there leads to the same end. What it gives is nested along left operands in what the other gives. -/
theorem parse_of_atMost {first second : Scalar} (hle : first.AtMost second)
    (h : grammar.parse context (.ofNumber second) start = .ok whole final) :
    ∃ part middle, grammar.parse context (.ofNumber first) start = .ok part middle ∧
      Rule.iterate (grammar.extend (grammar.within start) context (.ofNumber second)) part middle =
        .ok whole final ∧
      (grammar.Forward → ∃ taken rest, start.ahead = taken ++ middle.ahead ∧
        middle.ahead = rest ++ final.ahead) ∧
      ∀ leftOf, grammar.Nests leftOf → Relation.ReflTransGen leftOf part whole := by
  have hwhole := h
  rw [parse_eq] at hwhole
  obtain ⟨part, middle, hpart, hresumes⟩ := expression_leadsTo (Limit.ofNumber_le hle) hwhole
  rw [← parse_eq] at hpart
  refine ⟨part, middle, hpart, hresumes, fun hforward => ?_, fun leftOf hnests =>
    hnests.iterate hresumes⟩
  have htaken := hforward.parse_passes context (.ofNumber first) start
  have hrest := Scanner.Passes.iterate
    (hforward.extend (hforward.within start) context (.ofNumber second)) part middle
  rw [hpart] at htaken
  rw [hresumes] at hrest
  obtain ⟨taken, htaken⟩ := htaken.suffix
  obtain ⟨rest, hrest⟩ := hrest.suffix
  exact ⟨taken, rest, htaken.symm, hrest.symm⟩

end Precedence.Grammar

/-! ## Grammars that build trees -/

namespace Precedence

variable {γ κ : Type} {heads : List Head} {primary : Primary γ κ (Tree κ)}
  {grammar : Grammar γ κ (Tree κ)}

/-- The first tree is the left operand of the second one. -/
inductive Tree.LeftOperand : Tree κ → Tree κ → Prop where
  | between (head symbol left right) : LeftOperand left (.between head symbol left right)
  | after (head symbol operand) : LeftOperand operand (.after head symbol operand)

namespace Head

/-- Operators that build trees nest their left operands. -/
theorem building_nests (h : Grammar.define (heads.map building) primary = .ok grammar) :
    grammar.Nests Tree.LeftOperand := by
  intro symbol row hrow reparse context left scanner value final
  obtain ⟨head, -, htail, -, rfl⟩ := (tail_lookup_iff h symbol row).1 hrow
  rcases head with ⟨fixity, precedence, symbols⟩
  cases fixity <;> cases htail
  · rintro right ⟨⟩
    exact .between ..
  · rintro right ⟨⟩
    exact .between ..
  · rintro ⟨⟩
    exact .after ..

/-- Operators that build trees put no token back. -/
theorem building_forward (h : Grammar.define (heads.map building) primary = .ok grammar)
    (hprimary : ∀ reparse, Grammar.ReparsesForward reparse → ∀ context,
      Scanner.Forward (primary reparse context)) : grammar.Forward where
  primary := by rwa [Grammar.define_primary h]
  before symbol row hrow reparse _ context spelled operand := by
    obtain ⟨head, -, -, -, rfl⟩ := (before_lookup_iff h symbol row).1 hrow
    exact .pure _
  tail symbol row hrow reparse _ context spelled left := by
    obtain ⟨head, -, htail, -, rfl⟩ := (tail_lookup_iff h symbol row).1 hrow
    rcases head with ⟨fixity, precedence, symbols⟩
    cases fixity <;> cases htail
    · exact fun right => .pure _
    · exact fun right => .pure _
    · exact .pure _

end Head

/-- The product on the left of a sum is parsed if nothing looser than a product is admitted. -/
theorem Grammar.parse_of_atMost_product :
    let times : Head := ⟨.between, 3, ["*"]⟩
    let sum : Head := ⟨.between, 4, ["+"]⟩
    let token (text : String) : Token Bool := ⟨.start, true, text⟩
    let start := Scanner.ofTokens (["a", "*", "b", "+", "c"].map token) none false
    let whole : Tree Bool :=
      .between sum "+"
        (.between times "*" (.operand (token "a")) (.operand (token "b"))) (.operand (token "c"))
    ∃ grammar : Grammar Unit Bool (Tree Bool),
      Grammar.define ([times, sum].map Head.building) takeToken = .ok grammar ∧
        (∃ final, grammar.parse () (.ofNumber (.real (.infinite false))) start = .ok whole final) ∧
        ∃ part middle, grammar.parse () (.ofNumber (.int 3)) start = .ok part middle ∧
          middle.ahead <:+ start.ahead ∧
          Relation.ReflTransGen Tree.LeftOperand part whole := by
  intro times sum token start whole
  have hreads : whole.Reads _ :=
    .between sum (token "+") (.between times (token "*") (.operand _) (.operand _)) (.operand _)
  obtain ⟨grammar, hdefine⟩ : ∃ grammar : Grammar Unit Bool (Tree Bool),
      Grammar.define ([times, sum].map Head.building) takeToken = .ok grammar := ⟨_, rfl⟩
  have hparses : ∃ final, grammar.parse () (.ofNumber (.real (.infinite false))) start =
      .ok whole final ∧ final.ahead = [] := by
    refine (parse_ok_iff hdefine takeToken_takesOne).2 ⟨_, "", (List.append_nil _).symm, hreads,
      ?_, ?_, ?_, fun _ _ => rfl, rfl, stops_all_iff.2 ?_⟩
    · simp [start, token, Scanner.ahead, Scanner.Ends, Scanner.ofTokens]
    · simp [whole, token, Tree.Over, times, sum]
    · simp [whole, Tree.Canonical, Tree.leftSpine, Tree.rightEdge, Head.rightLimit, Limit.admits,
        times, sum]
    · simp [times, sum]
  obtain ⟨final, hwhole, -⟩ := hparses
  have hforward : grammar.Forward := Head.building_forward hdefine fun _ _ _ =>
    Scanner.consumeToken_forward.bind fun _ => .pure _
  have hle : (Scalar.int 3).AtMost (.real (.infinite false)) := ⟨_, rfl, _, rfl, le_top⟩
  obtain ⟨part, middle, hpart, -, htaken, hnested⟩ := parse_of_atMost hle hwhole
  obtain ⟨taken, rest, hahead, -⟩ := htaken hforward
  exact ⟨grammar, hdefine, ⟨final, hwhole⟩, part, middle, hpart, ⟨taken, hahead.symm⟩,
    hnested _ (Head.building_nests hdefine)⟩

end Precedence
end Parlance
