import Parlance.Pl0.Interpreter
import Parlance.Proofs.Pl0.Identifiers
import Parlance.Proofs.Pl0.Printing

/-!
# The sign of a term

The grammar writes one sign, in front of the first term of an expression, and there it belongs to
the whole term. The parser gives it to the first factor of the term instead, so that the tree of
`-x * y / z` is another one. The value is the same, whether it is a number or a division by zero:
products commute with a change of sign, and so do quotients, as they are rounded toward zero. The
main statement is `documented_evaluates`.
-/

namespace Parlance.Pl0

open Scanner

/-! ## The grammar as it is written down -/

/-- An expression of a level is written as the grammar says: a sign stands in front of the first
term of an expression only, and applies to all of that term. -/
inductive Expr.Documented : Level → Tokens → Expr → Tokens → Prop where
  | number {token rest} : token.kind = .number →
      Documented .factor (token :: rest) (.number (numberValue token.text)) rest
  | name {token rest} : token.kind = .identifier →
      Documented .factor (token :: rest) (.symbol token.text) rest
  | group {opening inside value closing rest} : opening.text = "(" →
      Documented .expression inside value (closing :: rest) → closing.text = ")" →
      Documented .factor (opening :: inside) value rest
  | factor {start value rest} :
      Documented .factor start value rest → Documented .term start value rest
  | product {start left operator second right rest} :
      Documented .term start left (operator :: second) → operator.text ∈ ["*", "/"] →
      Documented .factor second right rest →
      Documented .term start (.binary operator.text left right) rest
  | term {start value rest} :
      Documented .term start value rest → Documented .expression start value rest
  | plus {symbol inside value rest} : symbol.text = "+" →
      Documented .term inside value rest → Documented .expression (symbol :: inside) value rest
  | minus {symbol inside value rest} : symbol.text = "-" →
      Documented .term inside value rest →
      Documented .expression (symbol :: inside) (.negate value) rest
  | sum {start left operator second right rest} :
      Documented .expression start left (operator :: second) → operator.text ∈ ["+", "-"] →
      Documented .term second right rest →
      Documented .expression start (.binary operator.text left right) rest

/-- The text is an expression as the grammar says, between the tokens for its beginning and end. -/
def Expr.DocumentedIn (value : Expr) (text : String) : Prop :=
  (lexer.tokenize text).failure = none ∧
    ∃ opening sentence closing, (lexer.tokenize text).tokens = opening :: sentence ∧
      Documented .expression sentence value [closing]

/-! ## Values -/

/-- The quotient of two numbers, rounded toward zero: what remains is smaller than the divisor, and
is zero or has the sign of the dividend. -/
def IsQuotient (dividend divisor quotient : Int) : Prop :=
  ∃ remainder, dividend = quotient * divisor + remainder ∧ remainder.natAbs < divisor.natAbs ∧
    (remainder = 0 ∨ remainder.sign = dividend.sign)

/-- What an expression amounts to, by the laws of arithmetic. -/
inductive Expr.Amounts (chain : Chain) : Expr → Int → Prop where
  | number {value} : Amounts chain (.number value) value
  | symbol {name value} : chain.get? name = some value → Amounts chain (.symbol name) value
  | negate {operand value} : Amounts chain operand value → Amounts chain (.negate operand) (-value)
  | sum {left right l r} : Amounts chain left l → Amounts chain right r →
      Amounts chain (.binary "+" left right) (l + r)
  | difference {left right l r} : Amounts chain left l → Amounts chain right r →
      Amounts chain (.binary "-" left right) (l - r)
  | product {left right l r} : Amounts chain left l → Amounts chain right r →
      Amounts chain (.binary "*" left right) (l * r)
  | quotient {left right l r q} : Amounts chain left l → Amounts chain right r →
      IsQuotient l r q → Amounts chain (.binary "/" left right) q

/-- From left to right, the first operation of an expression that has no result divides by zero. -/
inductive Expr.DividesByZero (chain : Chain) : Expr → Prop where
  | negate {operand} : DividesByZero chain operand → DividesByZero chain (.negate operand)
  | left {operator left right} : DividesByZero chain left →
      DividesByZero chain (.binary operator left right)
  | right {operator left right l} : Amounts chain left l → DividesByZero chain right →
      DividesByZero chain (.binary operator left right)
  | here {left right l} : Amounts chain left l → Amounts chain right 0 →
      DividesByZero chain (.binary "/" left right)

/-- An expression amounts to something, or divides by zero. -/
def Expr.Settles (chain : Chain) (value : Expr) : Prop :=
  (∃ amount, value.Amounts chain amount) ∨ value.DividesByZero chain

section

variable {chain : Chain} {operator : String} {l r q : Int}

/-- What is computed is a quotient, if the divisor is not zero. -/
theorem isQuotient_tdiv (h : r ≠ 0) : IsQuotient l r (l.tdiv r) := by
  refine ⟨l.tmod r, (Int.tdiv_mul_add_tmod l r).symm, ?_, ?_⟩
  · rw [Int.natAbs_tmod]
    exact Nat.mod_lt _ (Int.natAbs_pos.2 h)
  · rw [Int.sign_tmod]
    by_cases hdvd : r ∣ l
    · exact .inl (Int.tmod_eq_zero_of_dvd hdvd)
    · exact .inr (if_neg hdvd)

/-- A quotient is what is computed. -/
theorem IsQuotient.eq_tdiv (h : IsQuotient l r q) : r ≠ 0 ∧ l.tdiv r = q := by
  obtain ⟨m, hl, hm, hsign⟩ := h
  have hr : r ≠ 0 := by
    rintro rfl
    exact Nat.not_lt_zero _ hm
  have hsum : m + r * q = l := by rw [hl, Int.mul_comm, Int.add_comm]
  refine ⟨hr, ?_⟩
  -- The remainder is on the same side of zero as the dividend.
  rcases Int.le_total 0 l with hnonneg | hnonpos
  · have hm0 : 0 ≤ m := by
      rcases hsign with rfl | hsign
      · exact Int.le_refl 0
      · exact Int.sign_nonneg_iff.1 (hsign ▸ Int.sign_nonneg_iff.2 hnonneg)
    exact ((Int.tdiv_tmod_unique hnonneg hr).2 ⟨hsum, hm0, by omega⟩).1
  · have hm0 : m ≤ 0 := by
      rcases hsign with rfl | hsign
      · exact Int.le_refl 0
      · exact Int.sign_nonpos_iff.1 (hsign ▸ Int.sign_nonpos_iff.2 hnonpos)
    exact ((Int.tdiv_tmod_unique' hnonpos hr).2 ⟨hsum, by omega, hm0⟩).1

/-- Division gives the quotient. -/
theorem divide_eq_ok_iff : divide l r = .ok q ↔ IsQuotient l r q := by
  unfold divide
  split
  · next h => exact ⟨(nomatch ·), fun hq => absurd h hq.eq_tdiv.1⟩
  · next h =>
      rw [Except.ok.injEq]
      exact ⟨fun hq => hq ▸ isQuotient_tdiv h, fun hq => hq.eq_tdiv.2⟩

/-- Division fails for a divisor of zero. -/
theorem divide_eq_error_iff {fault : RunFault} :
    divide l r = .error fault ↔ r = 0 ∧ fault = .divisionByZero := by
  unfold divide
  split <;> simp_all [eq_comm]

/-- A change of sign of a value. -/
theorem Expr.eval_negate (operand : Expr) :
    (negate operand).eval chain = (operand.eval chain).map (- ·) := by
  rw [Expr.eval]
  cases operand.eval chain <;> rfl

/-- An operation is done once both operands have values. -/
theorem Expr.eval_binary (left right : Expr) :
    (binary operator left right).eval chain =
      left.eval chain >>= fun l => right.eval chain >>= fun r => applyOperator operator l r := rfl

end

section

variable {chain : Chain} {value : Expr} {amount : Int}

/-- What an expression amounts to is what it evaluates to. -/
theorem Expr.Amounts.eval (h : value.Amounts chain amount) : value.eval chain = .ok amount := by
  induction h with
  | number => rfl
  | symbol h => rw [Expr.eval, h]
  | negate _ ih => rw [eval_negate, ih]; rfl
  | sum _ _ ihleft ihright | difference _ _ ihleft ihright | product _ _ ihleft ihright =>
      rw [eval_binary, ihleft, ihright]; rfl
  | quotient _ _ hquotient ihleft ihright =>
      rw [eval_binary, ihleft, ihright]
      exact divide_eq_ok_iff.2 hquotient

/-- An expression evaluates to what it amounts to only. -/
theorem Expr.eval_eq_ok_iff : value.eval chain = .ok amount ↔ value.Amounts chain amount := by
  refine ⟨fun h => ?_, Amounts.eval⟩
  induction value generalizing amount with
  | number _ =>
      cases h
      exact .number
  | symbol name =>
      rw [Expr.eval] at h
      split at h
      · next hvalue =>
          cases h
          exact .symbol hvalue
      · cases h
  | negate operand ih =>
      obtain ⟨inner, hinner, hnegate⟩ := bind_eq_ok_iff.1 h
      cases hnegate
      exact .negate (ih hinner)
  | binary operator left right ihleft ihright =>
      obtain ⟨l, hl, hrest⟩ := bind_eq_ok_iff.1 h
      obtain ⟨r, hr, happly⟩ := bind_eq_ok_iff.1 hrest
      unfold applyOperator at happly
      split at happly
      · cases happly
        exact .sum (ihleft hl) (ihright hr)
      · cases happly
        exact .difference (ihleft hl) (ihright hr)
      · cases happly
        exact .product (ihleft hl) (ihright hr)
      · exact .quotient (ihleft hl) (ihright hr) (divide_eq_ok_iff.1 happly)
      · cases happly
  | unspecified => cases h

/-- The evaluation fails with a division by zero if that is the first operation without a result,
and only then. -/
theorem Expr.eval_eq_divisionByZero_iff :
    value.eval chain = .error .divisionByZero ↔ value.DividesByZero chain := by
  constructor
  · intro h
    induction value with
    | number _ => cases h
    | symbol name =>
        rw [Expr.eval] at h
        split at h <;> cases h
    | negate operand ih =>
        rcases bind_eq_error_iff.1 h with hoperand | ⟨_, _, hnegate⟩
        · exact .negate (ih hoperand)
        · cases hnegate
    | binary operator left right ihleft ihright =>
        rcases bind_eq_error_iff.1 h with hleft | ⟨l, hl, hrest⟩
        · exact .left (ihleft hleft)
        rcases bind_eq_error_iff.1 hrest with hright | ⟨r, hr, happly⟩
        · exact .right (eval_eq_ok_iff.1 hl) (ihright hright)
        unfold applyOperator at happly
        split at happly <;> try cases happly
        obtain ⟨rfl, -⟩ := divide_eq_error_iff.1 happly
        exact .here (eval_eq_ok_iff.1 hl) (eval_eq_ok_iff.1 hr)
    | unspecified => cases h
  · intro h
    induction h with
    | negate _ ih => rw [eval_negate, ih]; rfl
    | left _ ih => rw [eval_binary, ih]; rfl
    | right hleft _ ih => rw [eval_binary, hleft.eval, ih]; rfl
    | here hleft hright => rw [eval_binary, hleft.eval, hright.eval]; rfl

/-- An operation of the grammar has a result, or divides by zero, if its operands do. -/
theorem Expr.Settles.binary {operator : String} {left right : Expr} (hleft : left.Settles chain)
    (hright : right.Settles chain) (h : operator ∈ ["*", "/"] ++ ["+", "-"]) :
    (Expr.binary operator left right).Settles chain := by
  rcases hleft with ⟨l, hl⟩ | hzero
  · rcases hright with ⟨r, hr⟩ | hzero
    · simp only [List.cons_append, List.nil_append, List.mem_cons, List.not_mem_nil, or_false] at h
      rcases h with rfl | rfl | rfl | rfl
      · exact .inl ⟨_, .product hl hr⟩
      · by_cases hr0 : r = 0
        · exact .inr (.here hl (hr0 ▸ hr))
        · exact .inl ⟨_, .quotient hl hr (isQuotient_tdiv hr0)⟩
      · exact .inl ⟨_, .sum hl hr⟩
      · exact .inl ⟨_, .difference hl hr⟩
    · exact .inr (.right hl hzero)
  · exact .inr (.left hzero)

/-- An expression of the grammar has a result, or divides by zero, where its names have values. -/
theorem Expr.Documented.settles {level : Level} {first rest : Tokens}
    (h : Documented level first value rest)
    (hnames : ∀ name ∈ value.identifiers, (chain.get? name).isSome) : value.Settles chain := by
  induction h with
  | number => exact .inl ⟨_, .number⟩
  | name =>
      obtain ⟨amount, hamount⟩ := Option.isSome_iff_exists.1 (hnames _ List.mem_cons_self)
      exact .inl ⟨amount, .symbol hamount⟩
  | group _ _ _ ih | factor _ ih | term _ ih | plus _ _ ih => exact ih hnames
  | minus _ _ ih =>
      rcases ih hnames with ⟨amount, hamount⟩ | hzero
      · exact .inl ⟨_, .negate hamount⟩
      · exact .inr (.negate hzero)
  | product _ hoperator _ ihleft ihright =>
      exact (ihleft fun name hname => hnames name (List.mem_append_left _ hname)).binary
        (ihright fun name hname => hnames name (List.mem_append_right _ hname))
        (List.mem_append_left _ hoperator)
  | sum _ hoperator _ ihleft ihright =>
      exact (ihleft fun name hname => hnames name (List.mem_append_left _ hname)).binary
        (ihright fun name hname => hnames name (List.mem_append_right _ hname))
        (List.mem_append_right _ hoperator)

end

/-! ## The sign of the first factor -/

/-- A product or quotient changes its sign with its left operand. -/
theorem applyOperator_neg {operator : String} (h : operator ∈ ["*", "/"]) (l r : Int) :
    applyOperator operator (-l) r = (applyOperator operator l r).map (- ·) := by
  simp only [List.mem_cons, List.not_mem_nil, or_false] at h
  rcases h with rfl | rfl
  · exact congrArg Except.ok (Int.neg_mul l r)
  · show divide (-l) r = (divide l r).map (- ·)
    unfold divide
    split
    · rfl
    · exact congrArg Except.ok (Int.neg_tdiv l r)

/-- One expression stands for another: it evaluates alike wherever it is evaluated, and its names
are declared where those of the other are. -/
structure Expr.StandsFor (parsed value : Expr) : Prop where
  eval : ∀ chain, parsed.eval chain = value.eval chain
  resolves : ∀ scope, value.Resolves scope → parsed.Resolves scope

namespace Expr.StandsFor

variable {parsed middle value left left' right right' : Expr} {operator : String}

/-- An expression stands for itself. -/
theorem refl (value : Expr) : value.StandsFor value := ⟨fun _ => rfl, fun _ => id⟩

/-- Standing for goes on. -/
theorem trans (h : parsed.StandsFor middle) (h' : middle.StandsFor value) :
    parsed.StandsFor value :=
  ⟨fun chain => (h.eval chain).trans (h'.eval chain),
    fun scope hscope => h.resolves scope (h'.resolves scope hscope)⟩

/-- The change of sign of an expression stands for that of what the expression stands for. -/
theorem negate (h : parsed.StandsFor value) : (Expr.negate parsed).StandsFor (.negate value) :=
  ⟨fun chain => by rw [eval_negate, eval_negate, h.eval], h.resolves⟩

/-- An operation stands for the one of what the operands stand for. -/
theorem binary (hleft : left'.StandsFor left) (hright : right'.StandsFor right) :
    (Expr.binary operator left' right').StandsFor (.binary operator left right) :=
  ⟨fun chain => by rw [eval_binary, eval_binary, hleft.eval, hright.eval],
    fun scope hscope => ⟨hleft.resolves scope hscope.1, hright.resolves scope hscope.2⟩⟩

/-- The sign of the left operand stands for that of a product or quotient. -/
theorem negate_left (h : operator ∈ ["*", "/"]) :
    (Expr.binary operator (.negate left) right).StandsFor
      (.negate (.binary operator left right)) := by
  refine ⟨fun chain => ?_, fun _ => id⟩
  rw [eval_negate, eval_binary, eval_binary, eval_negate]
  cases left.eval chain with
  | error fault => rfl
  | ok l =>
      cases right.eval chain with
      | error fault => rfl
      | ok r => exact applyOperator_neg h l r

end Expr.StandsFor

/-- With a minus in front, a term is derived whose value is that of the whole term with the sign
changed. -/
theorem Expr.Derives.minus_term {symbol : Token Kind} {inside rest : Tokens} {value : Expr}
    (hsymbol : symbol.text = "-") (h : Expr.Derives .term inside value rest) :
    ∃ parsed, Expr.Derives .term (symbol :: inside) parsed rest ∧
      parsed.StandsFor (.negate value) := by
  -- The induction is on the factors of the term: the sign is at the first of them, and each one
  -- that follows takes it over.
  generalize hlevel : Level.term = level at h
  induction h with
  | factor hfactor => exact ⟨_, .factor (.minus hsymbol hfactor), .refl _⟩
  | product hleft hoperator hright ih =>
      obtain ⟨left', hderives, hstands⟩ := ih rfl
      exact ⟨_, .product hderives hoperator hright,
        (hstands.binary (.refl _)).trans (.negate_left hoperator)⟩
  | _ => cases hlevel

/-- With a plus in front, the same term is derived. -/
theorem Expr.Derives.plus_term {symbol : Token Kind} {inside rest : Tokens} {value : Expr}
    (hsymbol : symbol.text = "+") (h : Expr.Derives .term inside value rest) :
    Expr.Derives .term (symbol :: inside) value rest := by
  generalize hlevel : Level.term = level at h
  induction h with
  | factor hfactor => exact .factor (.plus hsymbol hfactor)
  | product hleft hoperator hright ih => exact .product (ih rfl) hoperator hright
  | _ => cases hlevel

/-- Whatever the grammar writes is derived with the signs at the factors, by an expression that
stands for it. -/
theorem Expr.Documented.derives {level : Level} {first rest : Tokens} {value : Expr}
    (h : Documented level first value rest) :
    ∃ parsed, Expr.Derives level first parsed rest ∧ parsed.StandsFor value := by
  induction h with
  | number hkind => exact ⟨_, .number hkind, .refl _⟩
  | name hkind => exact ⟨_, .name hkind, .refl _⟩
  | group hopening _ hclosing ih =>
      obtain ⟨parsed, hderives, hstands⟩ := ih
      exact ⟨parsed, .group hopening hderives hclosing, hstands⟩
  | factor _ ih =>
      obtain ⟨parsed, hderives, hstands⟩ := ih
      exact ⟨parsed, .factor hderives, hstands⟩
  | product _ hoperator _ ihleft ihright =>
      obtain ⟨left, hleft, hleftStands⟩ := ihleft
      obtain ⟨right, hright, hrightStands⟩ := ihright
      exact ⟨_, .product hleft hoperator hright, hleftStands.binary hrightStands⟩
  | term _ ih =>
      obtain ⟨parsed, hderives, hstands⟩ := ih
      exact ⟨parsed, .term hderives, hstands⟩
  | plus hsymbol _ ih =>
      obtain ⟨parsed, hderives, hstands⟩ := ih
      exact ⟨parsed, .term (hderives.plus_term hsymbol), hstands⟩
  | minus hsymbol _ ih =>
      obtain ⟨operand, hderives, hstands⟩ := ih
      obtain ⟨parsed, hparsed, hsigned⟩ := hderives.minus_term hsymbol
      exact ⟨parsed, .term hparsed, hsigned.trans hstands.negate⟩
  | sum _ hoperator _ ihleft ihright =>
      obtain ⟨left, hleft, hleftStands⟩ := ihleft
      obtain ⟨right, hright, hrightStands⟩ := ihright
      exact ⟨_, .sum hleft hoperator hright, hleftStands.binary hrightStands⟩

/-! ## Texts -/

/-- Wherever tokens that the grammar writes lie ahead and no operator follows, the parser gives an
expression that stands for theirs. -/
theorem Expr.Documented.yields {first others : Tokens} {value : Expr} {next : Token Kind}
    (h : Documented .expression first value (next :: others))
    (hnext : next.text ∉ ["*", "/"] ++ ["+", "-"]) :
    ∃ parsed, parsed.StandsFor value ∧ ∀ (scope : Scope) (start : Scanner Kind), Ready start →
      start.ahead = first → value.Resolves scope →
      Yields (expression scope) start parsed (next :: others) := by
  obtain ⟨parsed, hderives, hstands⟩ := h.derives
  refine ⟨parsed, hstands, fun scope start hready hahead hresolves => ?_⟩
  exact expression_yields hready (hahead ▸ hderives) (hstands.resolves scope hresolves) hnext

/-- From a text that the grammar writes, the parser reads an expression that stands for it. -/
theorem Expr.DocumentedIn.readsBack {value : Expr} {text : String} (h : value.DocumentedIn text) :
    ∃ parsed, parsed.StandsFor value ∧ ∀ scope : Scope, value.Resolves scope →
      ReadsBack (expression scope) text parsed := by
  obtain ⟨hfailure, opening, sentence, closing, htokens, hdocumented⟩ := h
  obtain ⟨first, pieces, hfirst, -, hnone, -⟩ := tokenize_inner text
  obtain ⟨last, hstop, hempty, hall⟩ := hnone hfailure
  rw [htokens] at hall
  obtain ⟨rfl, hsentence⟩ := List.cons.inj hall
  -- What is left of the sentence is the token for the end of the text.
  obtain ⟨_, hderives, -⟩ := hdocumented.derives
  obtain ⟨consumed, hconsumed⟩ := hderives.contextFree.suffix
  obtain ⟨-, hlast⟩ := List.append_inj' (hconsumed.trans hsentence) rfl
  obtain rfl := (List.cons.inj hlast).1
  obtain ⟨parsed, hstands, hyields⟩ := hdocumented.yields (by rw [hempty]; decide)
  refine ⟨parsed, hstands, fun scope hresolves => ?_⟩
  have hready := Session.ofText_ready text
  have hahead : (Session.ofText text).scanner.ahead = opening :: sentence := by
    rw [Session.ofText_ahead, htokens]
  have hwhole : Yields (do
      let _ ← consumeKind .start
      expression scope) (Session.ofText text).scanner parsed [closing] :=
    (consumeKind_yields hready hahead hfirst (by decide)).bind hready
      fun later hlater hafter => hyields scope later hlater hafter hresolves
  obtain ⟨final, hfinal, hrest, -⟩ := hwhole
  exact ⟨final, closing, hfinal, hrest, hstop⟩

/-- For whatever text the grammar writes and wherever its names are declared, the parser reads an
expression from the whole text that evaluates to what the text amounts to, and fails with a division
by zero where the text divides by zero; and one of the two is so where the names have values. -/
theorem documented_evaluates {text : String} {value : Expr} {scope : Scope}
    (h : value.DocumentedIn text) (hresolves : value.Resolves scope) :
    ∃ parsed, ReadsBack (expression scope) text parsed ∧ ∀ chain : Chain,
      (∀ amount, parsed.eval chain = .ok amount ↔ value.Amounts chain amount) ∧
      (parsed.eval chain = .error .divisionByZero ↔ value.DividesByZero chain) ∧
      ((∀ name ∈ value.identifiers, (chain.get? name).isSome) → value.Settles chain) := by
  obtain ⟨parsed, hstands, hreads⟩ := h.readsBack
  refine ⟨parsed, hreads scope hresolves, fun chain => ?_⟩
  rw [hstands.eval chain]
  obtain ⟨-, _, _, _, -, hdocumented⟩ := h
  exact ⟨fun _ => Expr.eval_eq_ok_iff, Expr.eval_eq_divisionByZero_iff, hdocumented.settles⟩

/-- The quotient is rounded toward zero with the sign as without it. -/
theorem documented_evaluates_quotient : ∃ value : Expr, value.DocumentedIn "-7/2*(-x+1)" ∧
    value.Resolves ⟨⟨[("x", none)], []⟩, []⟩ ∧
    ∃ parsed, ReadsBack (expression ⟨⟨[("x", none)], []⟩, []⟩) "-7/2*(-x+1)" parsed ∧
      parsed.eval [⟨{}, [("x", 3)]⟩] = .ok 6 := by
  have hnone : (lexer.tokenize "-7/2*(-x+1)").failure = none :=
    Option.isNone_iff_eq_none.1 (by decide +kernel)
  have htokens : (lexer.tokenize "-7/2*(-x+1)").tokens =
      ⟨.start, .start, ""⟩ :: [⟨⟨0, 0, 0⟩, .symbol, "-"⟩, ⟨⟨1, 0, 1⟩, .number, "7"⟩,
        ⟨⟨2, 0, 2⟩, .symbol, "/"⟩, ⟨⟨3, 0, 3⟩, .number, "2"⟩, ⟨⟨4, 0, 4⟩, .symbol, "*"⟩,
        ⟨⟨5, 0, 5⟩, .symbol, "("⟩, ⟨⟨6, 0, 6⟩, .symbol, "-"⟩, ⟨⟨7, 0, 7⟩, .identifier, "x"⟩,
        ⟨⟨8, 0, 8⟩, .symbol, "+"⟩, ⟨⟨9, 0, 9⟩, .number, "1"⟩, ⟨⟨10, 0, 10⟩, .symbol, ")"⟩,
        ⟨⟨11, 0, 11⟩, .stop, ""⟩] := by
    decide +kernel
  have hinner : Expr.Documented .expression
      [⟨⟨6, 0, 6⟩, .symbol, "-"⟩, ⟨⟨7, 0, 7⟩, .identifier, "x"⟩, ⟨⟨8, 0, 8⟩, .symbol, "+"⟩,
        ⟨⟨9, 0, 9⟩, .number, "1"⟩, ⟨⟨10, 0, 10⟩, .symbol, ")"⟩, ⟨⟨11, 0, 11⟩, .stop, ""⟩]
      (.binary "+" (.negate (.symbol "x")) (.number (numberValue "1")))
      [⟨⟨10, 0, 10⟩, .symbol, ")"⟩, ⟨⟨11, 0, 11⟩, .stop, ""⟩] :=
    .sum (.minus rfl (.factor (.name rfl))) List.mem_cons_self (.factor (.number rfl))
  have hvalue : Expr.DocumentedIn (.negate (.binary "*" (.binary "/" (.number 7) (.number 2))
      (.binary "+" (.negate (.symbol "x")) (.number 1)))) "-7/2*(-x+1)" := by
    refine ⟨hnone, _, _, ⟨⟨11, 0, 11⟩, .stop, ""⟩, htokens, .minus rfl ?_⟩
    exact .product (.product (.factor (.number rfl)) (List.mem_cons_of_mem _ List.mem_cons_self)
      (.number rfl)) List.mem_cons_self (.group rfl hinner rfl)
  refine ⟨_, hvalue, ⟨⟨trivial, trivial⟩, rfl, trivial⟩, ?_⟩
  obtain ⟨parsed, hreads, hevaluates⟩ := @documented_evaluates _ _ ⟨⟨[("x", none)], []⟩, []⟩ hvalue
    ⟨⟨trivial, trivial⟩, rfl, trivial⟩
  refine ⟨parsed, hreads, ((hevaluates _).1 6).2 ?_⟩
  have hquotient : IsQuotient 7 2 3 := ⟨1, by decide⟩
  have hname : Chain.get? [⟨{}, [("x", 3)]⟩] "x" = some 3 := rfl
  exact .negate (.product (.quotient .number .number hquotient)
    (.sum (.negate (.symbol hname)) .number))

end Parlance.Pl0
