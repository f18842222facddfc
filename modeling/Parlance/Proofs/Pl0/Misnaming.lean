import Parlance.Proofs.Pl0.CorrectPrefix.Expressions

/-!
# Names that break a rule

Where the parser fails because a rule on names is broken, it blames the token of the name that its
message gives, and the token is one of the text: the next one, or one that has been consumed as the
name of a declaration. The property is one of what an operation comes to, and is kept by sequences,
choices, loops and recursion.
-/

namespace Parlance.Pl0

open Scanner
open CorrectPrefix (Reads)
open Supply (left)

/-- The name with which a rule on names is broken. -/
def Violation.name? : Violation → Option String
  | duplicateSymbol name => some name
  | duplicateProcedure name => some name
  | undefinedVariable name => some name
  | constantChanged _ name => some name
  | undefinedProcedure name => some name
  | undefinedSymbol name => some name
  | noRelation _ => none
  | notAtEnd => none

/-- The rules that are broken with a name are those on names. -/
theorem Violation.category_of_name? {violation : Violation} {name : String}
    (h : violation.name? = some name) : violation.category = .semantic := by
  cases violation <;> first | rfl | cases h

/-- If the fault is that a rule on names is broken, then it blames a name among the tokens, and says
which rule is broken with this name. -/
def BlamesName (tokens : Tokens) (fault : Fault) : Prop :=
  ∀ error, fault = .parse error → error.category = .semantic →
    ∃ token ∈ tokens, token.kind = .identifier ∧ ∃ violation : Violation,
      violation.name? = some token.text ∧ error = .ofToken .semantic token violation.message

/-- A scanner whose tokens are among these, with a stream that does not fail for breaking a rule on
names. -/
structure Amid (tokens : Tokens) (scanner : Scanner Kind) : Prop where
  subset : scanner.ahead ⊆ tokens
  endKind : scanner.endKind = .stop
  ending : ∀ fault, scanner.ending = some fault → BlamesName tokens fault

/-- What an operation may come to: a value of these where the tokens are still among the given ones,
or a fault that blames a name of them if it is for breaking a rule on names. -/
def Fine {σ α : Type} [Supply σ] [Reads σ] (tokens : Tokens) (gives : α → Prop) :
    EStateM.Result Fault σ α → Prop
  | .ok value later => gives value ∧ Amid tokens (Reads.scanner later)
  | .error fault _ => BlamesName tokens fault

/-- The operation comes to nothing else where the tokens are among the given ones. -/
def Heeds {σ α : Type} [Supply σ] [Reads σ] (tokens : Tokens) (operation : EStateM Fault σ α)
    (gives : α → Prop := fun _ => True) : Prop :=
  ∀ state, Amid tokens (Reads.scanner state) → Fine tokens gives (operation state)

section

variable {tokens : Tokens} {scanner final : Scanner Kind} {token : Token Kind}

/-- A fault for another reason blames no name. -/
theorem blamesName_of_category {error : ParseError} (h : error.category ≠ .semantic) :
    BlamesName tokens (.parse error) := fun other heq hsemantic => by
  cases heq
  exact (h hsemantic).elim

/-- A fault that is no error of the text blames no name. -/
theorem blamesName_of_ne {fault : Fault} (h : ∀ error, fault ≠ .parse error) :
    BlamesName tokens fault := fun error heq => (h error heq).elim

namespace Amid

/-- Going on stays among the tokens. -/
theorem passes (h : Amid tokens scanner) (hpasses : scanner.Passes final) : Amid tokens final where
  subset := fun _ hmem => h.subset (hpasses.suffix.subset hmem)
  endKind := hpasses.sameEnd.endKind.trans h.endKind
  ending := fun fault hfault => h.ending fault (hpasses.sameEnd.ending ▸ hfault)

/-- A look stays among the tokens. -/
theorem look (h : Amid tokens scanner) : Amid tokens scanner.look := h.passes (.look scanner)

/-- A name that comes next is one of the tokens. -/
theorem mem (h : Amid tokens scanner) (hupcoming : scanner.upcoming = .ok token)
    (hkind : token.kind = .identifier) : token ∈ tokens := by
  have hends : ¬ scanner.Ends token := fun hends => by
    rw [hends.1, h.endKind] at hkind
    cases hkind
  have hahead := ahead_of_upcoming hupcoming hends
  exact h.subset (hahead ▸ List.mem_cons_self)

end Amid

/-! ## Sequences, loops and recursion -/

section

variable {σ α β ι : Type} [Supply σ] [Reads σ] {first : EStateM Fault σ α} {state : σ}
  {gives : α → Prop} {yields : β → Prop}

/-- A sequence is fine if its steps are. -/
theorem Fine.bind {next : α → EStateM Fault σ β} (hfirst : Fine tokens gives (first state))
    (hnext : ∀ value later, gives value → Amid tokens (Reads.scanner later) →
      Fine tokens yields (next value later)) : Fine tokens yields ((first >>= next) state) := by
  rw [Rule.bind_apply]
  cases hrun : first state with
  | ok value later =>
      rw [hrun] at hfirst
      exact hnext value later hfirst.1 hfirst.2
  | error fault later =>
      rw [hrun] at hfirst
      exact hfirst

/-- What is done with a value changes nothing. -/
theorem Fine.map {make : α → β} (h : Fine tokens gives (first state))
    (hmake : ∀ value, gives value → yields (make value)) :
    Fine tokens yields ((first >>= fun value => pure (make value)) state) :=
  h.bind fun value _ hvalue hlater => ⟨hmake value hvalue, hlater⟩

/-- A sequence heeds the rules on names if its steps do. -/
theorem Heeds.bind {next : α → EStateM Fault σ β} (hfirst : Heeds tokens first gives)
    (hnext : ∀ value, gives value → Heeds tokens (next value) yields) :
    Heeds tokens (first >>= next) yields :=
  fun state hstate => (hfirst state hstate).bind fun value later hvalue => hnext value hvalue later

/-- A value on its own breaks no rule. -/
theorem Heeds.pure {value : α} (h : gives value) :
    Heeds tokens (Pure.pure value : EStateM Fault σ α) gives :=
  fun _ hstate => ⟨h, hstate⟩

/-- What is done with the value changes nothing. -/
theorem Heeds.map {make : α → β} (h : Heeds tokens first) :
    Heeds tokens (first >>= fun value => Pure.pure (make value)) :=
  h.bind fun _ _ => .pure trivial

/-- Under a bound an operation breaks no other rule. -/
theorem Heeds.below {limit : Nat}
    (h : ∀ state, left state < limit → Amid tokens (Reads.scanner state) →
      Fine tokens gives (first state)) : Heeds tokens (Rule.below limit first) gives := by
  intro state hstate
  unfold Rule.below
  split
  · exact h state ‹_› hstate
  · exact blamesName_of_ne fun _ => nofun

/-- A loop heeds the rules on names if its step does, by induction on what is left. -/
theorem Heeds.iterate {step : α → EStateM Fault σ (Option α)}
    (hstep : ∀ value, Heeds tokens (step value)) (value : α) :
    Heeds tokens (Rule.iterate step value) := by
  intro state
  induction hleft : left state using Nat.strongRecOn generalizing value state with
  | ind count ih =>
      intro hstate
      have hround := hstep value state hstate
      rw [Rule.iterate_eq]
      cases hrun : step value state with
      | error fault later =>
          rw [hrun] at hround
          exact hround
      | ok reached? later =>
          rw [hrun] at hround
          cases reached? with
          | none => exact ⟨trivial, hround.2⟩
          | some reached =>
              exact Heeds.below (fun last hlt => ih _ (hleft ▸ hlt) reached last rfl) later hround.2

/-- A rule that calls itself heeds the rules on names if its body does where the calls do, by
induction on what is left. -/
theorem Heeds.recursive {body : (ι → EStateM Fault σ α) → ι → EStateM Fault σ α}
    (hbody : ∀ inner, (∀ input, Heeds tokens (inner input)) →
      ∀ input, Heeds tokens (body inner input)) (input : ι) :
    Heeds tokens (Rule.recursive body input) := by
  intro state
  induction hleft : left state using Nat.strongRecOn generalizing input state with
  | ind count ih =>
      intro hstate
      rw [Rule.recursive_eq]
      refine hbody _ (fun inner => ?_) input state hstate
      exact Heeds.below fun later hlt => ih _ (hleft ▸ hlt) inner later rfl

/-- Collecting items heeds the rules on names if the items do. -/
theorem Heeds.collect {more : EStateM Fault σ Bool} (hmore : Heeds tokens more)
    (hitem : Heeds tokens first) (values : List α) :
    Heeds tokens (Rule.collect more first values) := by
  refine hmore.bind fun found _ => ?_
  cases found with
  | true => exact hitem.map
  | false => exact .pure trivial

/-- An item, and others in a loop, heed the rules on names if the item does. -/
theorem Heeds.first_collect {more : EStateM Fault σ Bool} (hmore : Heeds tokens more)
    (hitem : Heeds tokens first) :
    Heeds tokens (do
      let value ← first
      let rest ← Rule.iterate (Rule.collect more first) []
      return value :: rest.reverse) :=
  hitem.bind fun _ _ => (Heeds.iterate (fun values => hmore.collect hitem values) []).map

end

/-! ## Steps of the scanner -/

section

variable {α β : Type} {gives : α → Prop}

/-- What goes by the next token is fine if it is for every token. -/
theorem Fine.onNext {next : Token Kind → EStateM.Result Fault (Scanner Kind) α}
    (h : Amid tokens scanner)
    (hnext : ∀ token, scanner.upcoming = .ok token → Fine tokens gives (next token)) :
    Fine tokens gives (scanner.onNext next) := by
  cases hupcoming : scanner.upcoming with
  | ok token =>
      rw [onNext_of_ok hupcoming]
      exact hnext token hupcoming
  | error fault =>
      rw [onNext_of_error hupcoming]
      unfold upcoming at hupcoming
      split at hupcoming
      · cases hupcoming
      · cases hupcoming
      · cases hupcoming
        exact h.ending _ ‹_›

/-- Consuming a token breaks no rule on names. -/
theorem Fine.consuming (h : Amid tokens scanner) (value : α) (hvalue : gives value) :
    Fine tokens gives (scanner.consuming token value) := by
  unfold Scanner.consuming
  split
  · exact blamesName_of_category (by simp [errorAt, ParseError.ofToken])
  · have hsuffix : scanner.advance.ahead <:+ scanner.ahead := by
      rw [advance_ahead]
      exact List.tail_suffix _
    exact ⟨hvalue, h.passes ⟨hsuffix, advance_sameEnd scanner⟩⟩

/-- What is done after a look at the next token. -/
theorem Heeds.current {next : Token Kind → Scan Kind α}
    (hnext : ∀ token scanner, scanner.upcoming = .ok token → Amid tokens scanner →
      Fine tokens gives (next token scanner)) : Heeds tokens (current >>= next) gives := by
  intro scanner h
  rw [current_bind]
  refine .onNext h fun token hupcoming => hnext token scanner.look ?_ (Amid.look h)
  rw [look_upcoming, hupcoming]

/-- Consuming a token heeds the rules on names. -/
theorem consume_heeds : Heeds tokens (consume : Scan Kind String) := by
  intro scanner h
  rw [consume_eq]
  exact .onNext h fun token _ => .consuming h _ trivial

/-- Trying to consume a text heeds the rules on names. -/
theorem tryConsume_heeds (text : String) : Heeds tokens (tryConsume text : Scan Kind Bool) := by
  intro scanner h
  rw [tryConsume_eq]
  refine .onNext h fun token _ => ?_
  split
  · exact .consuming h _ trivial
  · exact ⟨trivial, Amid.look h⟩

/-- Consuming a token of a kind heeds the rules on names. -/
theorem consumeKind_heeds (kind : Kind) (message : String) :
    Heeds tokens (consumeKind kind message : Scan Kind String) := by
  intro scanner h
  rw [consumeKind_eq]
  refine .onNext h fun token _ => ?_
  split
  · exact .consuming h _ trivial
  · exact blamesName_of_category nofun

/-- Consuming a text heeds the rules on names. -/
theorem consumeText_heeds (text message : String) :
    Heeds tokens (consumeText text message : Scan Kind String) := by
  intro scanner h
  rw [consumeText_eq]
  refine .onNext h fun token _ => ?_
  split
  · exact .consuming h _ trivial
  · exact blamesName_of_category nofun

/-- Failing for another reason breaks no rule on names. -/
theorem Fine.fail {message : String} {category : ErrorCategory} (h : category ≠ .semantic) :
    Fine tokens gives ((Scanner.fail message category : Scan Kind α) scanner) := by
  rw [fail_eq]
  exact blamesName_of_category h

/-- Breaking a rule with a name that comes next blames the name. -/
theorem Fine.violate {violation : Violation} (h : Amid tokens scanner)
    (hupcoming : scanner.upcoming = .ok token) (hkind : token.kind = .identifier)
    (hname : violation.name? = some token.text) :
    Fine tokens gives ((Pl0.violate violation : Scan Kind α) scanner) := by
  rw [Pl0.violate, fail_eq, errorAt_of_ok hupcoming, Violation.category_of_name? hname]
  intro error heq _
  cases heq
  exact ⟨token, h.mem hupcoming hkind, hkind, violation, hname, rfl⟩

/-- Nothing is done after a rule has been broken. -/
theorem Fine.violate_bind {violation : Violation} {next : β → Scan Kind α}
    (h : Amid tokens scanner) (hupcoming : scanner.upcoming = .ok token)
    (hkind : token.kind = .identifier) (hname : violation.name? = some token.text) :
    Fine tokens gives ((Pl0.violate violation >>= next) scanner) := by
  have hviolate : Fine tokens (fun _ => False) ((Pl0.violate violation : Scan Kind β) scanner) :=
    .violate h hupcoming hkind hname
  exact hviolate.bind fun _ _ hfalse => hfalse.elim

/-- A choice by a text heeds the rules on names if both ways do. -/
theorem Heeds.choice {text : String} {yes no : Scan Kind α} (hyes : Heeds tokens yes gives)
    (hno : Heeds tokens no gives) :
    Heeds tokens (tryConsume text >>= fun found => if found = true then yes else no) gives := by
  refine (tryConsume_heeds text).bind fun found _ => ?_
  cases found with
  | true => exact hyes
  | false => exact hno

end

/-! ## Expressions and conditions -/

section

variable {scope : Scope} {operand inner : Scan Kind Expr}

/-- Operands that symbols join heed the rules on names if the operand does. -/
theorem chain_heeds (symbols : List String) (h : Heeds tokens operand) :
    Heeds tokens (ByLevel.chain symbols operand) := by
  refine h.bind fun first _ => .iterate (fun before => ?_) first
  refine .current fun token scanner _ hscanner => ?_
  split
  · exact (consume_heeds scanner hscanner).bind fun symbol later _ hlater => h.map later hlater
  · exact ⟨trivial, hscanner⟩

/-- A factor without a sign heeds the rules on names if the expressions inside it do. -/
theorem unsigned_heeds (h : Heeds tokens inner) : Heeds tokens (ByLevel.unsigned inner scope) := by
  refine .current fun token scanner hupcoming hscanner => ?_
  split
  · exact consume_heeds.map scanner hscanner
  split
  · split
    · exact .violate_bind hscanner hupcoming ‹_› rfl
    · exact consume_heeds.map scanner hscanner
  · refine Heeds.choice (h.bind fun value _ => (consumeText_heeds ")" "").map) ?_ scanner hscanner
    exact fun _ _ => .fail (by decide)

/-- A factor heeds the rules on names. -/
theorem factor_heeds : Heeds tokens (ByLevel.factor scope) := by
  refine .recursive (fun inner hinner _ => ?_) ()
  have hexpression := chain_heeds ["+", "-"] (chain_heeds ["*", "/"] (hinner ()))
  exact .choice (hinner ()) (.choice (hinner ()).map (unsigned_heeds hexpression))

/-- An expression heeds the rules on names. -/
theorem expression_heeds : Heeds tokens (Pl0.expression scope) := by
  rw [ByLevel.expression_eq]
  exact chain_heeds ["+", "-"] (chain_heeds ["*", "/"] factor_heeds)

/-- A condition heeds the rules on names. -/
theorem condition_heeds : Heeds tokens (condition scope) := by
  refine .choice expression_heeds.map (expression_heeds.bind fun left _ => ?_)
  refine .current fun token scanner _ hscanner => ?_
  by_cases hmem : token.text ∈ relations
  · rw [if_pos hmem]
    exact (consume_heeds.bind fun _ _ => expression_heeds.map) scanner hscanner
  · rw [if_neg hmem]
    have hfail : Fine tokens (fun _ => False)
        ((violate (.noRelation token.text) : Scan Kind PUnit) scanner) := .fail nofun
    exact hfail.bind fun _ _ hfalse => hfalse.elim

end

/-! ## Statements -/

section

variable {scope : Scope} {inner : Scan Kind Statement}

/-- The check of a variable blames the name that comes next. -/
theorem checkVariable_fine {use : Use} (h : Amid tokens scanner)
    (hupcoming : scanner.upcoming = .ok token) (hkind : token.kind = .identifier) :
    Fine tokens (fun _ => True) (checkVariable scope token.text use scanner) := by
  unfold checkVariable
  rcases scope.symbol? token.text with _ | _ | value
  · exact .violate h hupcoming hkind rfl
  · exact ⟨trivial, h⟩
  · exact .violate h hupcoming hkind rfl

/-- A statement heeds the rules on names if the statements inside it do. -/
theorem statementWith_heeds (h : Heeds tokens inner) :
    Heeds tokens (statementWith inner scope) := by
  refine .current fun token scanner hupcoming hscanner => ?_
  split
  · refine (checkVariable_fine hscanner hupcoming ‹_›).bind fun _ later _ hlater => ?_
    refine (consume_heeds.bind fun _ _ => ?_) later hlater
    exact (consumeText_heeds ":=" "").bind fun _ _ => expression_heeds.map
  have hcall : Heeds tokens (do
      let token ← current
      if token.kind = .identifier ∧ ¬ scope.hasProcedure token.text then
        violate (.undefinedProcedure token.text)
      return .call (← consumeKind .identifier) : Scan Kind Statement) := by
    refine .current fun token scanner hupcoming hscanner => ?_
    split
    · exact .violate_bind hscanner hupcoming (And.left ‹_›) rfl
    · exact (consumeKind_heeds .identifier "").map scanner hscanner
  have hread : Heeds tokens (do
      let token ← current
      if token.kind = .identifier then checkVariable scope token.text .readInto
      return .read (← consumeKind .identifier) : Scan Kind Statement) := by
    refine .current fun token scanner hupcoming hscanner => ?_
    split
    · exact (checkVariable_fine hscanner hupcoming ‹_›).bind fun _ later _ hlater =>
        (consumeKind_heeds .identifier "").map later hlater
    · exact (consumeKind_heeds .identifier "").map scanner hscanner
  have hsequence : Heeds tokens (do
      let statements ← separated ";" inner
      let _ ← consumeText "END"
      return .sequence statements : Scan Kind Statement) :=
    (Heeds.first_collect (tryConsume_heeds ";") h).bind fun _ _ => (consumeText_heeds "END" "").map
  have hguarded (word : String) (make : Condition → Statement → Statement) : Heeds tokens (do
      let test ← condition scope
      let _ ← consumeText word
      return make test (← inner) : Scan Kind Statement) :=
    condition_heeds.bind fun _ _ => (consumeText_heeds word "").bind fun _ _ => h.map
  exact Heeds.choice hcall (.choice hread (.choice expression_heeds.map (.choice hsequence
    (.choice (hguarded "THEN" .ifThen) (.choice (hguarded "DO" .whileDo) (.pure trivial))))))
    scanner hscanner

/-- A statement heeds the rules on names. -/
theorem statement_heeds : Heeds tokens (statement scope) :=
  .recursive (fun _ hinner _ => statementWith_heeds (hinner ())) ()

end

/-! ## Blocks -/

section

open Parse

variable {α : Type} {gives : α → Prop}

/-- A step of the scanner is one of the session. -/
theorem Heeds.scan {parser : Scope → Scan Kind α} (h : ∀ scope, Heeds tokens (parser scope) gives) :
    Heeds tokens (Parse.scan parser) gives := by
  intro session hsession
  have hrun := h session.scope session.scanner hsession
  rw [CorrectPrefix.scan_apply]
  cases hresult : parser session.scope session.scanner <;> rw [hresult] at hrun <;> exact hrun

/-- A scope of its own makes no difference. -/
theorem Heeds.inside {parser : Parse α} (h : Heeds tokens parser gives) :
    Heeds tokens (Parse.inside parser) gives := by
  intro session hsession
  have hrun := h { session with scope := session.scope.child } hsession
  rw [CorrectPrefix.inside_apply]
  cases hresult : parser { session with scope := session.scope.child } <;> rw [hresult] at hrun <;>
    exact hrun

/-- A declaration blames the name that it is given. -/
theorem declare_heeds {token : Token Kind} {violation : Violation}
    {declared? : Scope → Option Scope} (hmem : token ∈ tokens) (hkind : token.kind = .identifier)
    (hname : violation.name? = some token.text) :
    Heeds tokens (declare token violation declared?) := by
  intro session hsession
  rw [CorrectPrefix.declare_apply]
  cases declared? session.scope with
  | some scope => exact ⟨trivial, hsession⟩
  | none =>
      rw [Violation.category_of_name? hname]
      intro error heq _
      cases heq
      exact ⟨token, hmem, hkind, violation, hname, rfl⟩

/-- The name of a declaration is one of the tokens. -/
theorem declaredName_heeds :
    Heeds tokens declaredName fun token => token ∈ tokens ∧ token.kind = .identifier := by
  refine .scan fun _ => .current fun token scanner hupcoming hscanner => ?_
  have hconsume := consumeKind_heeds .identifier "" scanner hscanner
  rw [Rule.bind_apply]
  cases hrun : consumeKind .identifier "" scanner with
  | error fault later =>
      rw [hrun] at hconsume
      exact hconsume
  | ok text later =>
      rw [hrun] at hconsume
      obtain ⟨other, htakes, hkind, -⟩ := consumeKind_ok_iff.1 hrun
      cases hupcoming.symm.trans htakes.upcoming_eq
      exact ⟨⟨hscanner.mem hupcoming hkind, hkind⟩, hconsume.2⟩

/-- The declaration of a constant heeds the rules on names. -/
theorem constantDeclaration_heeds : Heeds tokens constantDeclaration := by
  refine declaredName_heeds.bind fun token ⟨hmem, hkind⟩ => ?_
  have hvalue : Heeds tokens (scan fun _ => do
      let _ ← consumeText "="
      return numberValue (← consumeKind .number) : Parse Int) :=
    .scan fun _ => (consumeText_heeds "=" "").bind fun _ _ => (consumeKind_heeds .number "").map
  exact hvalue.bind fun _ _ => (declare_heeds hmem hkind rfl).map

/-- The declaration of a variable heeds the rules on names. -/
theorem variableDeclaration_heeds : Heeds tokens variableDeclaration :=
  declaredName_heeds.bind fun _ ⟨hmem, hkind⟩ => (declare_heeds hmem hkind rfl).map

/-- A section of declarations heeds the rules on names if its items do. -/
theorem declarationSection_heeds {keyword : String} {item : Parse α} (h : Heeds tokens item) :
    Heeds tokens (declarationSection keyword item) := by
  refine (Heeds.scan fun _ => tryConsume_heeds keyword).bind fun found _ => ?_
  cases found with
  | false => exact .pure trivial
  | true =>
      refine (Heeds.first_collect (.scan fun _ => tryConsume_heeds ",") h).bind fun _ _ => ?_
      exact (Heeds.scan fun _ => consumeText_heeds ";" "").map

/-- The declaration of a procedure heeds the rules on names if the blocks inside it do. -/
theorem procedureDeclaration_heeds {inner : Parse Block} (h : Heeds tokens inner) :
    Heeds tokens (procedureDeclaration inner) := by
  refine declaredName_heeds.bind fun token ⟨hmem, hkind⟩ => ?_
  refine (Heeds.scan fun _ => consumeText_heeds ";" "").bind fun _ _ => ?_
  refine (declare_heeds hmem hkind rfl).bind fun _ _ => h.inside.bind fun _ _ => ?_
  exact (Heeds.scan fun _ => consumeText_heeds ";" "").map

/-- A block heeds the rules on names. -/
theorem block_heeds : Heeds tokens block := by
  refine .recursive (fun inner hinner _ => ?_) ()
  refine (declarationSection_heeds constantDeclaration_heeds).bind fun _ _ => ?_
  refine (declarationSection_heeds variableDeclaration_heeds).bind fun _ _ => ?_
  refine (Heeds.iterate (fun procedures => ?_) []).bind fun _ _ => ?_
  · exact .collect (.scan fun _ => tryConsume_heeds "PROCEDURE")
      (procedureDeclaration_heeds (hinner ())) procedures
  · exact (Heeds.scan fun _ => statement_heeds).map

/-- A program heeds the rules on names. -/
theorem program_heeds : Heeds tokens program := by
  refine (Heeds.scan fun _ => consumeKind_heeds .start "").bind fun _ _ => ?_
  refine block_heeds.bind fun _ _ => (Heeds.scan fun _ => ?_).map
  refine (consumeText_heeds "." "").bind fun _ _ => ?_
  have hend : Heeds tokens (atEnd : Scan Kind Bool) := .current fun _ _ _ hscanner =>
    ⟨trivial, hscanner⟩
  refine hend.bind fun answer _ => ?_
  cases answer with
  | true => exact .pure trivial
  | false => exact fun _ _ => .fail (by decide)

end

end

end Parlance.Pl0
