import Parlance.Proofs.Pl0.Grammar
import Parlance.Proofs.Pl0.Resolution

/-!
# Derivations

What a derivation leaves is the end of what it starts with, and anything else may follow instead.
The names of what is derived are names of the tokens that it is derived from. Proofs about derived
statements are by an induction of their own, since statements stand in sequences inside statements.
-/

namespace Parlance.Pl0

variable {α : Type} {separator keyword : String} {derives : Tokens → α → Tokens → Prop}
  {values : List α} {first rest : Tokens}

/-! ## Induction -/

/-- Statements are derived from one another: what holds of those inside a statement, in their
places, may be used for the statement. -/
theorem Statement.Derives.induct
    {motive : ∀ first statement rest, Statement.Derives first statement rest → Prop}
    (assign : ∀ {name becomes : Token Kind} {start rest : Tokens} {value : Expr}
      (hkind : name.kind = .identifier) (htext : becomes.text = ":=")
      (hvalue : Expr.Derives .expression start value rest),
      motive _ _ _ (.assign hkind htext hvalue))
    (call : ∀ {keyword name : Token Kind} {rest : Tokens} (htext : keyword.text = "CALL")
      (hkind : name.kind = .identifier), motive _ _ rest (.call htext hkind))
    (read : ∀ {keyword name : Token Kind} {rest : Tokens} (htext : keyword.text = "?")
      (hkind : name.kind = .identifier), motive _ _ rest (.read htext hkind))
    (write : ∀ {keyword : Token Kind} {start rest : Tokens} {value : Expr}
      (htext : keyword.text = "!") (hvalue : Expr.Derives .expression start value rest),
      motive _ _ _ (.write htext hvalue))
    (sequence : ∀ {opening closing : Token Kind} {start rest : Tokens} {statements : List Statement}
      (htext : opening.text = "BEGIN")
      (hstatements : Separated ";" Statement.Derives start statements (closing :: rest))
      (hclosing : closing.text = "END"),
      Separated ";" (fun first statement rest => ∃ h, motive first statement rest h) start
        statements (closing :: rest) →
      motive _ _ _ (.sequence htext hstatements hclosing))
    (ifThen : ∀ {keyword between : Token Kind} {start second rest : Tokens} {test : Condition}
      {body : Statement} (htext : keyword.text = "IF")
      (htest : Condition.Derives start test (between :: second)) (hbetween : between.text = "THEN")
      (hbody : Statement.Derives second body rest), motive _ _ _ hbody →
      motive _ _ _ (.ifThen htext htest hbetween hbody))
    (whileDo : ∀ {keyword between : Token Kind} {start second rest : Tokens} {test : Condition}
      {body : Statement} (htext : keyword.text = "WHILE")
      (htest : Condition.Derives start test (between :: second)) (hbetween : between.text = "DO")
      (hbody : Statement.Derives second body rest), motive _ _ _ hbody →
      motive _ _ _ (.whileDo htext htest hbetween hbody))
    (empty : ∀ {rest : Tokens}, motive rest _ rest .empty) {first : Tokens}
    {statement : Statement} {rest : Tokens} (h : Statement.Derives first statement rest) :
    motive first statement rest h :=
  @Statement.Derives.rec motive
    (fun first statements rest _ =>
      Separated ";" (fun first statement rest => ∃ h, motive first statement rest h) first
        statements rest)
    assign call read write sequence ifThen whileDo empty
    (fun hvalue ih => .one ⟨hvalue, ih⟩)
    (fun hvalue htext _ ih ihothers => .more ⟨hvalue, ih⟩ htext ihothers) first statement rest h

/-! ## What follows -/

/-- The tokens begin with some from which the value is derived, whatever follows them. -/
def ContextFree (derives : Tokens → α → Tokens → Prop) (first : Tokens) (value : α)
    (rest : Tokens) : Prop :=
  ∃ consumed, first = consumed ++ rest ∧ ∀ other, derives (consumed ++ other) value other

/-- What is left is the end of what a derivation starts with. -/
theorem ContextFree.suffix {value : α} (h : ContextFree derives first value rest) :
    rest <:+ first := by
  obtain ⟨consumed, rfl, -⟩ := h
  exact List.suffix_append _ _

/-- An expression is derived whatever follows it. -/
theorem Expr.Derives.contextFree {level : Level} {value : Expr}
    (h : Expr.Derives level first value rest) :
    ContextFree (Expr.Derives level) first value rest := by
  induction h with
  | number hkind => exact ⟨[_], rfl, fun _ => .number hkind⟩
  | name hkind => exact ⟨[_], rfl, fun _ => .name hkind⟩
  | @group opening _ _ closing _ hopening _ hclosing ih =>
      obtain ⟨inside, rfl, hinside⟩ := ih
      refine ⟨opening :: inside ++ [closing], by simp, fun other => ?_⟩
      rw [List.append_assoc]
      exact .group hopening (hinside (closing :: other)) hclosing
  | @plus symbol _ _ _ htext _ ih =>
      obtain ⟨inside, rfl, hinside⟩ := ih
      exact ⟨symbol :: inside, rfl, fun other => .plus htext (hinside other)⟩
  | @minus symbol _ _ _ htext _ ih =>
      obtain ⟨inside, rfl, hinside⟩ := ih
      exact ⟨symbol :: inside, rfl, fun other => .minus htext (hinside other)⟩
  | factor _ ih =>
      obtain ⟨consumed, rfl, hconsumed⟩ := ih
      exact ⟨consumed, rfl, fun other => .factor (hconsumed other)⟩
  | @product _ _ operator _ _ _ _ hmem _ ih ih' =>
      obtain ⟨left, rfl, hleft⟩ := ih
      obtain ⟨right, rfl, hright⟩ := ih'
      refine ⟨left ++ operator :: right, by simp, fun other => ?_⟩
      rw [List.append_assoc]
      exact .product (hleft (operator :: (right ++ other))) hmem (hright other)
  | term _ ih =>
      obtain ⟨consumed, rfl, hconsumed⟩ := ih
      exact ⟨consumed, rfl, fun other => .term (hconsumed other)⟩
  | @sum _ _ operator _ _ _ _ hmem _ ih ih' =>
      obtain ⟨left, rfl, hleft⟩ := ih
      obtain ⟨right, rfl, hright⟩ := ih'
      refine ⟨left ++ operator :: right, by simp, fun other => ?_⟩
      rw [List.append_assoc]
      exact .sum (hleft (operator :: (right ++ other))) hmem (hright other)

/-- A condition is derived whatever follows it. -/
theorem Condition.Derives.contextFree {test : Condition} (h : Condition.Derives first test rest) :
    ContextFree Condition.Derives first test rest := by
  cases h with
  | @odd keyword _ _ _ htext hvalue =>
      obtain ⟨inside, rfl, hinside⟩ := hvalue.contextFree
      exact ⟨keyword :: inside, rfl, fun other => .odd htext (hinside other)⟩
  | @relation _ _ operator _ _ _ hleft hmem hright =>
      obtain ⟨left, rfl, hleft'⟩ := hleft.contextFree
      obtain ⟨right, rfl, hright'⟩ := hright.contextFree
      refine ⟨left ++ operator :: right, by simp, fun other => ?_⟩
      rw [List.append_assoc]
      exact .relation (hleft' (operator :: (right ++ other))) hmem (hright' other)

/-- Items with separators are derived whatever follows them, if the items are. -/
theorem Separated.contextFree {item : Tokens → α → Tokens → Prop}
    (h : Separated separator item first values rest)
    (hitem : ∀ first value rest, item first value rest → ContextFree derives first value rest) :
    ContextFree (Separated separator derives) first values rest := by
  induction h with
  | one hvalue =>
      obtain ⟨consumed, rfl, hconsumed⟩ := hitem _ _ _ hvalue
      exact ⟨consumed, rfl, fun other => .one (hconsumed other)⟩
  | @more _ _ between second _ _ hvalue htext _ ih =>
      obtain ⟨consumed, rfl, hconsumed⟩ := hitem _ _ _ hvalue
      obtain ⟨others, rfl, hothers⟩ := ih
      refine ⟨consumed ++ between :: others, by simp, fun other => ?_⟩
      rw [List.append_assoc]
      exact .more (hconsumed (between :: (others ++ other))) htext (hothers other)

/-- A statement is derived whatever follows it. -/
theorem Statement.Derives.contextFree {statement : Statement}
    (h : Statement.Derives first statement rest) :
    ContextFree Statement.Derives first statement rest := by
  induction h using Statement.Derives.induct with
  | @assign name becomes _ _ _ hkind htext hvalue =>
      obtain ⟨inside, rfl, hinside⟩ := hvalue.contextFree
      exact ⟨name :: becomes :: inside, rfl, fun other => .assign hkind htext (hinside other)⟩
  | call htext hkind => exact ⟨[_, _], rfl, fun _ => .call htext hkind⟩
  | read htext hkind => exact ⟨[_, _], rfl, fun _ => .read htext hkind⟩
  | @write keyword _ _ _ htext hvalue =>
      obtain ⟨inside, rfl, hinside⟩ := hvalue.contextFree
      exact ⟨keyword :: inside, rfl, fun other => .write htext (hinside other)⟩
  | @sequence opening closing _ _ _ htext _ hclosing ih =>
      obtain ⟨inside, rfl, hinside⟩ := ih.contextFree fun _ _ _ ⟨_, hstatement⟩ => hstatement
      refine ⟨opening :: inside ++ [closing], by simp, fun other => ?_⟩
      rw [List.append_assoc]
      exact .sequence htext (hinside (closing :: other)) hclosing
  | @ifThen keyword between _ _ _ _ _ htext htest hbetween _ ih =>
      obtain ⟨guard, rfl, hguard⟩ := htest.contextFree
      obtain ⟨inside, rfl, hinside⟩ := ih
      refine ⟨keyword :: guard ++ between :: inside, by simp, fun other => ?_⟩
      rw [List.append_assoc]
      exact .ifThen htext (hguard (between :: (inside ++ other))) hbetween (hinside other)
  | @whileDo keyword between _ _ _ _ _ htext htest hbetween _ ih =>
      obtain ⟨guard, rfl, hguard⟩ := htest.contextFree
      obtain ⟨inside, rfl, hinside⟩ := ih
      refine ⟨keyword :: guard ++ between :: inside, by simp, fun other => ?_⟩
      rw [List.append_assoc]
      exact .whileDo htext (hguard (between :: (inside ++ other))) hbetween (hinside other)
  | empty => exact ⟨[], rfl, fun _ => .empty⟩

/-- The declaration of a constant is derived whatever follows it. -/
theorem ConstantDerives.contextFree {constant : String × Int}
    (h : ConstantDerives first constant rest) :
    ContextFree ConstantDerives first constant rest := by
  cases h with
  | intro hkind htext hvalue => exact ⟨[_, _, _], rfl, fun _ => .intro hkind htext hvalue⟩

/-- The declaration of a variable is derived whatever follows it. -/
theorem VariableDerives.contextFree {name : String} (h : VariableDerives first name rest) :
    ContextFree VariableDerives first name rest := by
  cases h with
  | intro hkind => exact ⟨[_], rfl, fun _ => .intro hkind⟩

/-- A section is derived whatever follows it, if its items are. -/
theorem Section.contextFree (h : Section keyword derives first values rest)
    (hitem : ∀ first value rest, derives first value rest → ContextFree derives first value rest) :
    ContextFree (Section keyword derives) first values rest := by
  cases h with
  | absent => exact ⟨[], rfl, fun _ => .absent⟩
  | @present opening _ _ closing _ htext hitems hclosing =>
      obtain ⟨inside, rfl, hinside⟩ := hitems.contextFree hitem
      refine ⟨opening :: inside ++ [closing], by simp, fun other => ?_⟩
      rw [List.append_assoc]
      exact .present htext (hinside (closing :: other)) hclosing

/-- What the constants leave is the end of what they start with. -/
theorem Section.constants_suffix {constants : List (String × Int)}
    (h : Section keyword ConstantDerives first constants rest) : rest <:+ first :=
  (h.contextFree fun _ _ _ => ConstantDerives.contextFree).suffix

/-- What the variables leave is the end of what they start with. -/
theorem Section.names_suffix {names : List String}
    (h : Section keyword VariableDerives first names rest) : rest <:+ first :=
  (h.contextFree fun _ _ _ => VariableDerives.contextFree).suffix

mutual

/-- A block is derived whatever follows it. -/
theorem Block.Derives.contextFree {first rest : Tokens} {body : Block} :
    Block.Derives first body rest → ContextFree Block.Derives first body rest
  | .intro hconstants hnames hprocedures hstatement => by
      obtain ⟨constants, rfl, hconstants'⟩ :=
        hconstants.contextFree fun _ _ _ => ConstantDerives.contextFree
      obtain ⟨names, rfl, hnames'⟩ := hnames.contextFree fun _ _ _ => VariableDerives.contextFree
      obtain ⟨procedures, rfl, hprocedures'⟩ := hprocedures.contextFree
      obtain ⟨statement, rfl, hstatement'⟩ := hstatement.contextFree
      refine ⟨constants ++ names ++ procedures ++ statement, by simp, fun other => ?_⟩
      simp only [List.append_assoc]
      exact .intro (hconstants' _) (hnames' _) (hprocedures' _) (hstatement' other)

/-- The declaration of a procedure is derived whatever follows it. -/
theorem ProcedureDerives.contextFree {first rest : Tokens} {procedure : String × Block} :
    ProcedureDerives first procedure rest → ContextFree ProcedureDerives first procedure rest
  | @ProcedureDerives.intro name opening _ _ closing _ hkind htext hbody hclosing => by
      obtain ⟨inside, rfl, hinside⟩ := hbody.contextFree
      refine ⟨name :: opening :: inside ++ [closing], by simp, fun other => ?_⟩
      rw [List.append_assoc]
      exact .intro hkind htext (hinside (closing :: other)) hclosing

/-- The declarations of procedures are derived whatever follows them. -/
theorem ProceduresDerive.contextFree {first rest : Tokens} {procedures : List (String × Block)} :
    ProceduresDerive first procedures rest → ContextFree ProceduresDerive first procedures rest
  | .none => ⟨[], rfl, fun _ => .none⟩
  | @ProceduresDerive.more keyword _ _ _ _ _ htext hprocedure hothers => by
      obtain ⟨inside, rfl, hinside⟩ := hprocedure.contextFree
      obtain ⟨others, rfl, hothers'⟩ := hothers.contextFree
      refine ⟨keyword :: inside ++ others, by simp, fun other => ?_⟩
      rw [List.append_assoc]
      exact .more htext (hinside (others ++ other)) (hothers' other)

end

/-! ## The names of what is derived -/

/-- An expression begins with a number, a name, or one of these texts. -/
theorem Expr.Derives.head {level : Level} {value : Expr} (h : Expr.Derives level first value rest) :
    ∃ token others, first = token :: others ∧
      (token.kind = .number ∨ token.kind = .identifier ∨ token.text ∈ ["(", "+", "-"]) := by
  induction h with
  | number hkind => exact ⟨_, _, rfl, .inl hkind⟩
  | name hkind => exact ⟨_, _, rfl, .inr (.inl hkind)⟩
  | group htext _ _ _ => exact ⟨_, _, rfl, .inr (.inr (by simp [htext]))⟩
  | plus htext _ _ => exact ⟨_, _, rfl, .inr (.inr (by simp [htext]))⟩
  | minus htext _ _ => exact ⟨_, _, rfl, .inr (.inr (by simp [htext]))⟩
  | factor _ ih => exact ih
  | product _ _ _ ih _ => exact ih
  | term _ ih => exact ih
  | sum _ _ _ ih _ => exact ih

/-- What holds of each item that may stand in a sequence holds of those that do. -/
theorem Separated.forall {motive : α → Prop} (h : Separated separator derives first values rest)
    (hitem : ∀ start value rest, start <:+ first → derives start value rest →
      rest <:+ start ∧ motive value) : ∀ value ∈ values, motive value := by
  induction h with
  | one hvalue => simpa using (hitem _ _ _ (List.suffix_refl _) hvalue).2
  | more hvalue _ _ ih =>
      obtain ⟨hsuffix, hmotive⟩ := hitem _ _ _ (List.suffix_refl _) hvalue
      have hsecond := (List.suffix_cons _ _).trans hsuffix
      refine List.forall_mem_cons.2 ⟨hmotive, ih fun start value rest hstart => ?_⟩
      exact hitem start value rest (hstart.trans hsecond)

/-- All names of the tokens are declared, as variables and as procedures. -/
def DeclaresAll (scope : Scope) (tokens : Tokens) : Prop :=
  ∀ token ∈ tokens, scope.symbol? token.text = some none ∧ scope.hasProcedure token.text = true

namespace DeclaresAll

variable {scope : Scope}

/-- What is declared everywhere is declared further on. -/
theorem suffix (h : DeclaresAll scope first) (hsuffix : rest <:+ first) : DeclaresAll scope rest :=
  fun token htoken => h token (hsuffix.subset htoken)

/-- What is declared everywhere is declared after the first token. -/
theorem tail {token : Token Kind} (h : DeclaresAll scope (token :: rest)) :
    DeclaresAll scope rest :=
  h.suffix (List.suffix_cons _ _)

/-- Where all names of the tokens are declared, those of the expression are. -/
theorem expression {level : Level} {value : Expr} (h : DeclaresAll scope first)
    (hvalue : Expr.Derives level first value rest) : value.Resolves scope := by
  induction hvalue with
  | number _ => trivial
  | name _ => simp [Expr.Resolves, (h _ List.mem_cons_self).1]
  | group _ _ _ ih => exact ih h.tail
  | plus _ _ ih => exact ih h.tail
  | minus _ _ ih => exact ih h.tail
  | factor _ ih => exact ih h
  | product hleft _ _ ih ih' => exact ⟨ih h, ih' (h.suffix hleft.contextFree.suffix).tail⟩
  | term _ ih => exact ih h
  | sum hleft _ _ ih ih' => exact ⟨ih h, ih' (h.suffix hleft.contextFree.suffix).tail⟩

/-- Where all names of the tokens are declared, those of the condition are. -/
theorem condition {test : Condition} (h : DeclaresAll scope first)
    (htest : Condition.Derives first test rest) : test.Resolves scope := by
  cases htest with
  | odd _ hvalue => exact h.tail.expression hvalue
  | relation hleft _ hright =>
      exact ⟨h.expression hleft, (h.suffix hleft.contextFree.suffix).tail.expression hright⟩

/-- Where all names of the tokens are declared, those of the statement are. -/
theorem statement {result : Statement} (h : DeclaresAll scope first)
    (hresult : Statement.Derives first result rest) : result.Resolves scope := by
  induction hresult using Statement.Derives.induct with
  | assign _ _ hvalue => exact ⟨(h _ List.mem_cons_self).1, h.tail.tail.expression hvalue⟩
  | call _ _ => exact (h.tail _ List.mem_cons_self).2
  | read _ _ => exact (h.tail _ List.mem_cons_self).1
  | write _ hvalue => exact h.tail.expression hvalue
  | sequence _ _ _ ih =>
      refine statementsResolve_iff.2 (ih.forall ?_)
      exact fun _ _ _ hstart ⟨hvalue, hresolves⟩ =>
        ⟨hvalue.contextFree.suffix, hresolves (h.tail.suffix hstart)⟩
  | ifThen _ htest _ _ ih =>
      exact ⟨h.tail.condition htest, ih (h.tail.suffix htest.contextFree.suffix).tail⟩
  | whileDo _ htest _ _ ih =>
      exact ⟨h.tail.condition htest, ih (h.tail.suffix htest.contextFree.suffix).tail⟩
  | empty => trivial

end DeclaresAll

end Parlance.Pl0
