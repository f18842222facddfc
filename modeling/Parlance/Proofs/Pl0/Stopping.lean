import Parlance.Proofs.Pl0.CorrectPrefix.Expressions
import Parlance.Proofs.Scanner.Stopping

/-!
# Stopping the source of the parser

The parser looks at no token but the current one: with a source that is stopped, each of its
operations does the same as without the stop, until all tokens that came before have been consumed.
Where it fails, it blames the current token, unless a block declares a name twice: then the name has
been consumed.
-/

namespace Parlance

namespace Pl0

open Scanner

/-- The fault is that a block declares a name twice. -/
inductive Redeclares : Fault → Prop where
  | symbol {token : Token Kind} {name : String} :
      Redeclares (.parse (.ofToken .semantic token (Violation.duplicateSymbol name).message))
  | procedure {token : Token Kind} {name : String} :
      Redeclares (.parse (.ofToken .semantic token (Violation.duplicateProcedure name).message))

end Pl0

namespace Scanner.Stop

open Pl0 Comparison

variable {stop : Stop Pl0.Kind} {token : Token Pl0.Kind}

/-! ## Expressions and conditions -/

section

variable {scope : Scope} {operand operand' inner inner' : Scan Pl0.Kind Expr}

/-- Breaking a rule where a token comes next compares. -/
theorem holds_violate {α : Type} (violation : Violation) :
    stop.comparison.Holds (violate violation : Scan Pl0.Kind α) (violate violation)
      (stop.seeing token) :=
  holds_fail violation.message violation.category

/-- Operands that symbols join compare if the operand does. -/
theorem holds_chain (symbols : List String) (h : stop.comparison.Holds operand operand') :
    stop.comparison.Holds (ByLevel.chain symbols operand) (ByLevel.chain symbols operand') := by
  refine h.bind fun first => .iterate stop.counts (fun before => ?_) first
  refine holds_current fun token => holds_seeing ?_ token
  split
  · exact holds_consume.bind fun symbol => h.map
  · exact .pure none

/-- A factor without a sign compares if the expressions inside it do. -/
theorem holds_unsigned (h : stop.comparison.Holds inner inner') :
    stop.comparison.Holds (ByLevel.unsigned inner scope) (ByLevel.unsigned inner' scope) := by
  refine holds_current fun token => ?_
  split
  · exact holds_seeing holds_consume.map token
  split
  · split
    · exact (holds_violate _).bind fun _ => holds_consume.map
    · exact holds_seeing holds_consume.map token
  · refine holds_seeing (holds_choice (h.bind fun value => (holds_consumeText ")" "").map) ?_) token
    exact fun token => holds_fail _ _

/-- A factor compares. -/
theorem holds_factor : stop.comparison.Holds (ByLevel.factor scope) (ByLevel.factor scope) := by
  refine .recursive stop.counts (fun inner inner' hinner _ => ?_) ()
  have hexpression := holds_chain ["+", "-"] (holds_chain ["*", "/"] (hinner ()))
  refine holds_choice (hinner ()) fun token => holds_seeing ?_ token
  exact holds_choice (hinner ()).map fun token => holds_seeing (holds_unsigned hexpression) token

/-- An expression compares. -/
theorem holds_expression :
    stop.comparison.Holds (Pl0.expression scope) (Pl0.expression scope) := by
  rw [ByLevel.expression_eq]
  exact holds_chain ["+", "-"] (holds_chain ["*", "/"] holds_factor)

/-- A condition compares. -/
theorem holds_condition : stop.comparison.Holds (condition scope) (condition scope) := by
  refine holds_choice holds_expression.map fun token => holds_seeing ?_ token
  refine holds_expression.bind fun left => holds_current fun token => ?_
  dsimp only
  split
  · exact holds_seeing (holds_consume.bind fun _ => holds_expression.map) token
  · exact (holds_violate _).bind fun _ => holds_consume.bind fun _ => holds_expression.map

end

/-! ## Statements -/

section

variable {scope : Scope} {inner inner' : Scan Pl0.Kind Statement}

/-- The check of a variable compares where its name comes next. -/
theorem holds_checkVariable (name : String) (use : Use) :
    stop.comparison.Holds (checkVariable scope name use) (checkVariable scope name use)
      (stop.seeing token) := by
  unfold checkVariable
  rcases scope.symbol? name with _ | _ | value
  · exact holds_violate _
  · exact holds_seeing (.pure ()) token
  · exact holds_violate _

/-- A statement compares if the statements inside it do. -/
theorem holds_statementWith (h : stop.comparison.Holds inner inner') :
    stop.comparison.Holds (statementWith inner scope) (statementWith inner' scope) := by
  refine holds_current fun token => ?_
  split
  · refine (holds_checkVariable _ _).bind fun _ => holds_consume.bind fun _ => ?_
    exact (holds_consumeText ":=" "").bind fun _ => holds_expression.map
  have hcall : stop.comparison.Holds
      (do
        let token ← current
        if token.kind = .identifier ∧ ¬ scope.hasProcedure token.text then
          violate (.undefinedProcedure token.text)
        return .call (← consumeKind .identifier) : Scan Pl0.Kind Statement)
      (do
        let token ← current
        if token.kind = .identifier ∧ ¬ scope.hasProcedure token.text then
          violate (.undefinedProcedure token.text)
        return .call (← consumeKind .identifier)) := by
    refine holds_current fun token => ?_
    split
    · exact (holds_violate _).bind fun _ => (holds_consumeKind Pl0.Kind.identifier "").map
    · exact holds_seeing (holds_consumeKind Pl0.Kind.identifier "").map token
  have hread : stop.comparison.Holds
      (do
        let token ← current
        if token.kind = .identifier then checkVariable scope token.text .readInto
        return .read (← consumeKind .identifier) : Scan Pl0.Kind Statement)
      (do
        let token ← current
        if token.kind = .identifier then checkVariable scope token.text .readInto
        return .read (← consumeKind .identifier)) := by
    refine holds_current fun token => ?_
    split
    · exact (holds_checkVariable _ _).bind fun _ => (holds_consumeKind Pl0.Kind.identifier "").map
    · exact holds_seeing (holds_consumeKind Pl0.Kind.identifier "").map token
  have hsequence : stop.comparison.Holds
      (do
        let statements ← separated ";" inner
        let _ ← consumeText "END"
        return .sequence statements : Scan Pl0.Kind Statement)
      (do
        let statements ← separated ";" inner'
        let _ ← consumeText "END"
        return .sequence statements) :=
    (Holds.first_collect stop.counts (holds_tryConsume ";") h).bind fun _ =>
      (holds_consumeText "END" "").map
  have hguarded (word : String) (make : Condition → Statement → Statement) :
      stop.comparison.Holds
        (do
          let test ← condition scope
          let _ ← consumeText word
          return make test (← inner) : Scan Pl0.Kind Statement)
        (do
          let test ← condition scope
          let _ ← consumeText word
          return make test (← inner')) :=
    holds_condition.bind fun _ => (holds_consumeText word "").bind fun _ => h.map
  refine holds_seeing (holds_choice hcall fun token => holds_seeing ?_ token) token
  refine holds_choice hread fun token => holds_seeing ?_ token
  refine holds_choice holds_expression.map fun token => holds_seeing ?_ token
  refine holds_choice hsequence fun token => holds_seeing ?_ token
  refine holds_choice (hguarded "THEN" .ifThen) fun token => holds_seeing ?_ token
  exact holds_choice (hguarded "DO" .whileDo) fun token =>
    holds_seeing (.pure Statement.empty) token

/-- A statement compares. -/
theorem holds_statement : stop.comparison.Holds (statement scope) (statement scope) :=
  .recursive stop.counts (fun _ _ hinner _ => holds_statementWith (hinner ())) ()

end

/-! ## Blocks -/

/-- Sessions are compared by their scanners, and have the same scope while neither parser has
failed. -/
def sessions (stop : Stop Pl0.Kind) : Comparison Fault Session Session where
  together session session' := session.scope = session'.scope ∧
    stop.comparison.together session.scanner session'.scanner
  ended fault session session' := stop.comparison.ended fault session.scanner session'.scanner
  parted fault session session' := stop.comparison.parted fault session.scanner session'.scanner

/-- The second session has as many tokens left as the first, and those before which that is
stopped. -/
theorem sessions_counts (stop : Stop Pl0.Kind) : stop.sessions.Counts stop.rest.length where
  together session session' h := stop.counts.together session.scanner session'.scanner h.2
  parted fault session session' h := stop.counts.parted fault session.scanner session'.scanner h
  stalled session session' h := stop.counts.stalled session.scanner session'.scanner h.2

section

open Parse

variable {α : Type}

/-- Steps of the scanner compare in sessions. -/
theorem holds_scan {parser parser' : Scope → Scan Pl0.Kind α}
    (h : ∀ scope, stop.comparison.Holds (parser scope) (parser' scope)) :
    stop.sessions.Holds (Parse.scan parser) (Parse.scan parser') := by
  constructor
  · rintro ⟨scanner, scope⟩ ⟨scanner', _⟩ ⟨rfl, htogether⟩
    have hends := (h scope).ends scanner scanner' htogether
    rw [CorrectPrefix.scan_apply, CorrectPrefix.scan_apply]
    dsimp only
    generalize parser scope scanner = result, parser' scope scanner' = result' at hends
    cases hends with
    | ok hafter => exact .ok ⟨rfl, hafter⟩
    | error hended => exact .error hended
    | parted hparted => exact .parted (by cases result' <;> exact hparted)
  · rintro fault session ⟨scanner', scope⟩ hparted
    have hkeeps := (h scope).keeps fault session.scanner scanner' hparted
    rw [CorrectPrefix.scan_apply]
    dsimp only
    generalize parser' scope scanner' = result' at hkeeps
    cases result' <;> exact hkeeps

/-- Parsers compare with a scope of their own if they do. -/
theorem holds_inside {parser parser' : Parse α} (h : stop.sessions.Holds parser parser') :
    stop.sessions.Holds (Parse.inside parser) (Parse.inside parser') := by
  constructor
  · rintro ⟨scanner, scope⟩ ⟨scanner', _⟩ ⟨rfl, htogether⟩
    have hends := h.ends ⟨scanner, scope.child⟩ ⟨scanner', scope.child⟩ ⟨rfl, htogether⟩
    rw [CorrectPrefix.inside_apply, CorrectPrefix.inside_apply]
    dsimp only
    generalize parser ⟨scanner, scope.child⟩ = result, parser' ⟨scanner', scope.child⟩ = result'
      at hends
    cases hends with
    | ok hafter => exact .ok ⟨rfl, hafter.2⟩
    | error hended => exact .error hended
    | parted hparted => exact .parted (by cases result' <;> exact hparted)
  · rintro fault session ⟨scanner', scope⟩ hparted
    have hkeeps := h.keeps fault session ⟨scanner', scope.child⟩ hparted
    rw [CorrectPrefix.inside_apply]
    dsimp only
    generalize parser' ⟨scanner', scope.child⟩ = result' at hkeeps
    cases result' <;> exact hkeeps

/-- Declarations compare if their faults are exempt. -/
theorem holds_declare {violation : Violation} {declared? : Scope → Option Scope}
    (hexempt : stop.exempt (.parse (.ofToken violation.category token violation.message))) :
    stop.sessions.Holds (declare token violation declared?)
      (declare token violation declared?) := by
  constructor
  · rintro ⟨scanner, scope⟩ ⟨scanner', _⟩ ⟨rfl, htogether⟩
    rw [CorrectPrefix.declare_apply, CorrectPrefix.declare_apply]
    dsimp only
    cases declared? scope with
    | none => exact .error ⟨htogether, .exempt hexempt⟩
    | some after => exact .ok ⟨rfl, htogether⟩
  · rintro fault session ⟨scanner', scope⟩ hparted
    rw [CorrectPrefix.declare_apply]
    dsimp only
    cases declared? scope <;> exact hparted

/-- The name of a declaration compares. -/
theorem holds_declaredName : stop.sessions.Holds declaredName declaredName :=
  holds_scan fun _ => holds_current fun token =>
    holds_seeing (holds_consumeKind Pl0.Kind.identifier "").map token

/-- Sections of declarations compare if their items do. -/
theorem holds_declarationSection {keyword : String} {item : Parse α}
    (h : stop.sessions.Holds item item) :
    stop.sessions.Holds (declarationSection keyword item) (declarationSection keyword item) := by
  refine (holds_scan fun _ => holds_tryConsume keyword).bind fun found => ?_
  cases found with
  | false => exact .pure []
  | true =>
      refine (Holds.first_collect stop.sessions_counts (holds_scan fun _ => holds_tryConsume ",")
        h).bind fun _ => ?_
      exact (holds_scan fun _ => holds_consumeText ";" "").map

variable (hexempt : ∀ fault, Redeclares fault → stop.exempt fault)

include hexempt

/-- Declarations of constants compare. -/
theorem holds_constantDeclaration :
    stop.sessions.Holds constantDeclaration constantDeclaration := by
  refine holds_declaredName.bind fun token => ?_
  have hvalue : stop.sessions.Holds
      (scan fun _ => do
        let _ ← consumeText "="
        return numberValue (← consumeKind .number) : Parse Int)
      (scan fun _ => do
        let _ ← consumeText "="
        return numberValue (← consumeKind .number)) :=
    holds_scan fun _ => (holds_consumeText "=" "").bind fun _ =>
      (holds_consumeKind Pl0.Kind.number "").map
  refine hvalue.bind fun _ => (holds_declare ?_).map
  exact hexempt _ .symbol

/-- Declarations of variables compare. -/
theorem holds_variableDeclaration :
    stop.sessions.Holds variableDeclaration variableDeclaration := by
  refine holds_declaredName.bind fun _ => (holds_declare ?_).map
  exact hexempt _ .symbol

/-- Declarations of procedures compare if the blocks inside them do. -/
theorem holds_procedureDeclaration {inner inner' : Parse Block}
    (h : stop.sessions.Holds inner inner') :
    stop.sessions.Holds (procedureDeclaration inner) (procedureDeclaration inner') := by
  refine holds_declaredName.bind fun token => ?_
  refine (holds_scan fun _ => holds_consumeText ";" "").bind fun _ => ?_
  refine (holds_declare ?_).bind fun _ => (holds_inside h).bind fun _ => ?_
  · exact hexempt _ .procedure
  · exact (holds_scan fun _ => holds_consumeText ";" "").map

/-- Blocks compare. -/
theorem holds_block : stop.sessions.Holds block block := by
  refine .recursive stop.sessions_counts (fun inner inner' hinner _ => ?_) ()
  refine (holds_declarationSection (holds_constantDeclaration hexempt)).bind fun _ => ?_
  refine (holds_declarationSection (holds_variableDeclaration hexempt)).bind fun _ => ?_
  refine (Holds.iterate stop.sessions_counts (fun procedures => ?_) []).bind fun _ => ?_
  · exact .collect (holds_scan fun _ => holds_tryConsume "PROCEDURE")
      (holds_procedureDeclaration hexempt (hinner ())) procedures
  · exact (holds_scan fun _ => holds_statement).map

/-- Programs compare. -/
theorem holds_program : stop.sessions.Holds program program := by
  refine (holds_scan fun _ => holds_consumeKind Pl0.Kind.start "").bind fun _ => ?_
  refine (holds_block hexempt).bind fun _ => (holds_scan fun _ => ?_).map
  refine (holds_consumeText "." "").bind fun _ => holds_atEnd fun answer token => ?_
  cases answer with
  | true => exact holds_seeing (.pure ()) token
  | false => exact holds_violate _

end

end Scanner.Stop

end Parlance
