import Parlance.Proofs.Pl0.CorrectPrefix.Expressions

/-!
# The correct prefix of a statement

A statement that begins with no word and no name is empty, and its parser complains about nothing:
whatever comes next is left to what follows the statement. Where only texts that end a statement can
follow, the next token still decides between all kinds of statements and none.
-/

namespace Parlance.Pl0.CorrectPrefix

open Scanner
open Supply (left)

variable {scope : Scope} {whole after : Language} {token : Token Kind} {first rest : Tokens}

/-! ## Conditions -/

/-- A condition is a word and an expression, or two expressions with a relation between them. -/
theorem then_condition_iff :
    Then (Spans Condition.Derives) after first ↔
      Next (·.text = "ODD") (Then (SpansExpr .expression) after) first ∨
        Then (SpansExpr .expression)
          (Next (·.text ∈ relations) (Then (SpansExpr .expression) after)) first := by
  constructor
  · rintro ⟨⟨h⟩, hafter⟩
    cases h with
    | odd htext hvalue => exact .inl (.intro htext (.intro ⟨hvalue⟩ hafter))
    | relation hleft hmem hright =>
        exact .inr (.intro ⟨hleft⟩ (.intro hmem (.intro ⟨hright⟩ hafter)))
  · rintro (⟨htext, ⟨hvalue⟩, hafter⟩ | ⟨⟨hleft⟩, hmem, ⟨hright⟩, hafter⟩)
    · exact .intro ⟨.odd htext hvalue⟩ hafter
    · exact .intro ⟨.relation hleft hmem hright⟩ hafter

/-- No expression begins with a word. -/
theorem not_then_expression_of_word (hproper : Proper token) (hword : token.text ∈ keywords) :
    ¬ Then (SpansExpr .expression) after (token :: rest) := by
  rintro ⟨⟨h⟩, -⟩
  obtain ⟨first, others, heq, hfirst⟩ := h.head
  obtain ⟨rfl, -⟩ := List.cons.inj heq
  have hlack : ∀ text ∈ ["(", "+", "-"], text ∉ keywords := by decide
  rcases hfirst with hkind | hkind | hsign
  · exact hproper (.inr hkind) (List.mem_append_left _ hword)
  · exact hproper (.inl hkind) (List.mem_append_left _ hword)
  · exact hlack _ hsign hword

/-- A condition that begins with its word goes on with an expression. -/
theorem then_condition_odd_iff (hproper : Proper token) (htext : token.text = "ODD") :
    Then (Spans Condition.Derives) after (token :: rest) ↔
      Then (SpansExpr .expression) after rest := by
  rw [then_condition_iff]
  refine ⟨?_, fun h => .inl (.intro htext h)⟩
  rintro (⟨-, hrest⟩ | hrelation)
  · exact hrest
  · exact (not_then_expression_of_word hproper (by rw [htext]; decide) hrelation).elim

/-- A condition is viable if what follows it is. -/
theorem Viable.condition (h : Viable after []) :
    Viable (Then (Spans Condition.Derives) after) [] := by
  have hodd : Viable (Next (·.text = "ODD") (Then (SpansExpr .expression) after)) [] :=
    h.expression.quoted (by decide)
  exact hodd.mono fun _ hodd => then_condition_iff.2 (.inl hodd)

/-- What a relation and the expression behind it must be is viable if what follows them is. -/
theorem Viable.relation (h : Viable after []) :
    Viable (Next (·.text ∈ relations) (Then (SpansExpr .expression) after)) [] := by
  have hequals : Viable (Next (·.text = "=") (Then (SpansExpr .expression) after)) [] :=
    h.expression.quoted (by decide)
  exact hequals.mono fun _ ⟨htext, hvalue⟩ => .intro (by rw [htext]; decide) hvalue

/-- A relation and the expression behind it are taken in, and anything else is blamed. -/
theorem relation_follows {left : Expr} {scanner : Scanner Kind}
    (hviable : Viable after []) (hafter : Avoids operatorTexts after) (hinside : Inside scanner) :
    Follows (do
      let operator := (← current).text
      unless operator ∈ relations do violate (.noRelation operator)
      let _ ← consume
      return .relation operator left (← expression scope) : Scan Kind Condition) scanner
      (Next (·.text ∈ relations) (Then (SpansExpr .expression) after)) after := by
  refine .current hinside hviable.relation fun token rest later _ hahead hlater => ?_
  by_cases hmem : token.text ∈ relations
  · rw [if_pos hmem]
    have htakes := hlater.toReady.takes_terminal hahead (relations_terminal _ hmem).1
    refine .consume hlater htakes fun last hlast => ?_
    have hvalue := expression_follows scope hviable hafter hlast
    refine hvalue.map.of_iff fun rest => ⟨?_, .intro hmem⟩
    rintro ⟨-, hrest⟩
    exact hrest
  · rw [if_neg hmem]
    have hfail : Follows (violate (.noRelation token.text) : Scan Kind PUnit) later
        (Next (·.text ∈ relations) (Then (SpansExpr .expression) after)) after :=
      .fail hlater hviable.relation (.inr rfl) hahead fun _ ⟨hmem', _⟩ => hmem hmem'
    exact hfail.bind fun _ _ hvalue => (fail_ne_ok hvalue).elim

/-- Conditions are taken in where no operator can follow. -/
theorem condition_parses (bound : Nat) :
    Parses (condition scope) (Spans Condition.Derives) (Avoids operatorTexts) bound := by
  intro after hviable hafter scanner (hinside : Inside scanner) hlt
  have hlooks : LooksFirst (condition scope) := (current_looksFirst _).bind _
  refine .looksFirst hlooks hinside hviable.condition fun token rest hahead => ?_
  have hproper := hinside.proper token (by simp [hahead])
  refine .word (by decide) hinside hviable.condition hahead ?_ ?_
  · intro htext later hlater _
    exact (expression_follows scope hviable hafter hlater).map.of_iff fun _ =>
      then_condition_odd_iff hproper htext
  · intro htext later hlater hahead
    have hrelation : Follows (do
        let left ← expression scope
        let operator := (← current).text
        unless operator ∈ relations do violate (.noRelation operator)
        let _ ← consume
        return .relation operator left (← expression scope) : Scan Kind Condition) later
        (Then (SpansExpr .expression)
          (Next (·.text ∈ relations) (Then (SpansExpr .expression) after))) after := by
      refine (expression_follows scope hviable.relation ?_ hlater).bind
        fun left last _ hlast _ => ?_
      · exact fun token rest _ ⟨hmem, _⟩ => (relations_terminal _ hmem).2
      · exact relation_follows hviable hafter hlast
    refine hrelation.narrow (fun rest h => then_condition_iff.2 (.inr h)) fun rest hnext h => ?_
    obtain ⟨others, rfl⟩ := hnext.starts hahead
    rcases then_condition_iff.1 h with ⟨hodd, -⟩ | h
    · exact (htext hodd).elim
    · exact h

/-! ## Statements -/

/-- What a statement takes in. -/
abbrev SpansStatement : Tokens → Tokens → Prop := Spans Statement.Derives

/-- The languages that can follow a statement. -/
abbrev EndsStatement : Language → Prop := Heads statementEnds

/-- What a statement and what follows it go on with behind a first token; if that begins no
statement, there is an empty one in front of it. -/
def behind (after : Language) (token : Token Kind) : Language :=
  if token.kind = .identifier then Next (·.text = ":=") (Then (SpansExpr .expression) after)
  else if token.text = "CALL" ∨ token.text = "?" then Next (·.kind = .identifier) after
  else if token.text = "!" then Then (SpansExpr .expression) after
  else if token.text = "BEGIN" then
    Then (Spans (Separated ";" Statement.Derives)) (Next (·.text = "END") after)
  else if token.text = "IF" then
    Then (Spans Condition.Derives) (Next (·.text = "THEN") (Then SpansStatement after))
  else if token.text = "WHILE" then
    Then (Spans Condition.Derives) (Next (·.text = "DO") (Then SpansStatement after))
  else fun rest => after (token :: rest)

/-- The first token decides what a statement goes on with. -/
theorem then_statement_cons_iff (hproper : Proper token) (hends : EndsStatement after) :
    Then SpansStatement after (token :: rest) ↔ behind after token rest := by
  have hkind (hmem : token.text ∈ terminals) : token.kind ≠ .identifier := fun hkind =>
    hproper (.inl hkind) hmem
  unfold behind
  constructor
  · rintro ⟨⟨h⟩, hafter⟩
    cases h with
    | assign hkind htext hvalue => simpa [hkind] using .intro htext (.intro ⟨hvalue⟩ hafter)
    | call htext hname =>
        simpa [htext, hkind (by rw [htext]; decide)] using .intro hname hafter
    | read htext hname =>
        simpa [htext, hkind (by rw [htext]; decide)] using .intro hname hafter
    | write htext hvalue =>
        simpa [htext, hkind (by rw [htext]; decide)] using .intro ⟨hvalue⟩ hafter
    | sequence htext hstatements hclosing =>
        simpa [htext, hkind (by rw [htext]; decide)] using
          .intro ⟨hstatements⟩ (.intro hclosing hafter)
    | ifThen htext htest hbetween hbody =>
        simpa [htext, hkind (by rw [htext]; decide)] using
          .intro ⟨htest⟩ (.intro hbetween (.intro ⟨hbody⟩ hafter))
    | whileDo htext htest hbetween hbody =>
        simpa [htext, hkind (by rw [htext]; decide)] using
          .intro ⟨htest⟩ (.intro hbetween (.intro ⟨hbody⟩ hafter))
    | empty =>
        have hmem := hends token rest hproper hafter
        have hother {word : String} (hword : word ∉ statementEnds) : token.text ≠ word :=
          fun h => hword (h ▸ hmem)
        rw [if_neg (hkind (statementEnds_terminal _ hmem).1),
          if_neg fun h => h.elim (hother (by decide)) (hother (by decide)),
          if_neg (hother (by decide)), if_neg (hother (by decide)), if_neg (hother (by decide)),
          if_neg (hother (by decide))]
        exact hafter
  · intro h
    split at h
    · obtain ⟨htext, ⟨hvalue⟩, hafter⟩ := h
      exact .intro ⟨.assign ‹_› htext hvalue⟩ hafter
    split at h
    · obtain ⟨hname, hafter⟩ := h
      rcases ‹token.text = "CALL" ∨ token.text = "?"› with htext | htext
      · exact .intro ⟨.call htext hname⟩ hafter
      · exact .intro ⟨.read htext hname⟩ hafter
    split at h
    · obtain ⟨⟨hvalue⟩, hafter⟩ := h
      exact .intro ⟨.write ‹_› hvalue⟩ hafter
    split at h
    · obtain ⟨⟨hstatements⟩, hclosing, hafter⟩ := h
      exact .intro ⟨.sequence ‹_› hstatements hclosing⟩ hafter
    split at h
    · obtain ⟨⟨htest⟩, hbetween, ⟨hbody⟩, hafter⟩ := h
      exact .intro ⟨.ifThen ‹_› htest hbetween hbody⟩ hafter
    split at h
    · obtain ⟨⟨htest⟩, hbetween, ⟨hbody⟩, hafter⟩ := h
      exact .intro ⟨.whileDo ‹_› htest hbetween hbody⟩ hafter
    · exact .intro ⟨.empty⟩ h

/-- A statement is viable if what follows it is. -/
theorem Viable.statement (h : Viable after []) : Viable (Then SpansStatement after) [] :=
  h.mono fun _ hafter => .intro ⟨.empty⟩ hafter

/-- Where only what ends a statement can follow, no operator can. -/
theorem EndsStatement.avoids (h : EndsStatement after) : Avoids operatorTexts after :=
  Heads.avoids h fun text hmem => (statementEnds_terminal text hmem).2

section

variable {scanner : Scanner Kind} {inner : Scan Kind Statement} {bound : Nat}

/-- The check of a variable leaves what can stand there, or breaks a rule on names. -/
theorem checkVariable_follows {name : String} {use : Use} (hinside : Inside scanner) :
    Follows (checkVariable scope name use) scanner whole whole := by
  unfold checkVariable
  rcases scope.symbol? name with _ | _ | value
  · exact .violate hinside rfl
  · exact .pure hinside (fun _ => id) fun _ _ => id
  · exact .violate hinside rfl

/-- An assignment is taken in from its name on. -/
theorem assign_follows (hviable : Viable after []) (hends : EndsStatement after)
    (hinside : Inside scanner) (hahead : scanner.ahead = token :: first)
    (hkind : token.kind = .identifier)
    (hwhole : ∀ rest, whole (token :: rest) ↔
      Next (·.text = ":=") (Then (SpansExpr .expression) after) rest) :
    Follows (do
      checkVariable scope token.text .assignTo
      let _ ← consume
      let _ ← consumeText ":="
      return .assign token.text (← expression scope) : Scan Kind Statement) scanner whole
      after := by
  refine (checkVariable_follows hinside).bind fun _ later hcheck hlater _ => ?_
  obtain ⟨-, rfl⟩ := checkVariable_ok_iff.1 hcheck
  refine .consume hinside (hinside.toReady.takes_kind hahead (by rw [hkind]; decide))
    fun last hlast => ?_
  refine Follows.of_iff ?_ hwhole
  refine (Follows.consumeText hlast (by decide) hviable.expression).bind
    fun _ later _ hlater _ => ?_
  exact (expression_follows scope hviable hends.avoids hlater).map

/-- A call is taken in from its name on. -/
theorem call_follows (hviable : Viable after []) (hinside : Inside scanner) :
    Follows (do
      let token ← current
      if token.kind = .identifier ∧ ¬ scope.hasProcedure token.text then
        violate (.undefinedProcedure token.text)
      return .call (← consumeKind .identifier) : Scan Kind Statement) scanner
      (Next (·.kind = .identifier) after) after := by
  refine .current hinside (hviable.kind (.inl rfl)) fun token rest later _ _ hlater => ?_
  by_cases hundefined : token.kind = .identifier ∧ ¬ scope.hasProcedure token.text
  · rw [if_pos hundefined]
    exact .violate_bind hlater rfl
  · rw [if_neg hundefined]
    exact (Follows.consumeKind hlater (.inl rfl) hviable).map

/-- Reading is taken in from its name on. -/
theorem read_follows (hviable : Viable after []) (hinside : Inside scanner) :
    Follows (do
      let token ← current
      if token.kind = .identifier then checkVariable scope token.text .readInto
      return .read (← consumeKind .identifier) : Scan Kind Statement) scanner
      (Next (·.kind = .identifier) after) after := by
  refine .current hinside (hviable.kind (.inl rfl)) fun token rest later _ _ hlater => ?_
  by_cases hkind : token.kind = .identifier
  · rw [if_pos hkind]
    refine (checkVariable_follows hlater).bind fun _ last _ hlast _ => ?_
    exact (Follows.consumeKind hlast (.inl rfl) hviable).map
  · rw [if_neg hkind]
    exact (Follows.consumeKind hlater (.inl rfl) hviable).map

/-- A sequence is taken in from its first statement on. -/
theorem sequence_follows (hinner : Parses inner SpansStatement EndsStatement bound)
    (hviable : Viable after []) (hinside : Inside scanner) (hlt : left scanner < bound) :
    Follows (do
      let statements ← separated ";" inner
      let _ ← consumeText "END"
      return .sequence statements : Scan Kind Statement) scanner
      (Then (Spans (Separated ";" Statement.Derives)) (Next (·.text = "END") after)) after := by
  have hstatements : Parses (separated ";" inner) (Spans (Separated ";" Statement.Derives))
      (Heads ["END"]) bound :=
    .separated (tryConsume_asks (by decide)) hinner fun after hclosing =>
      ⟨hclosing.avoids (by decide), (Repeats.heads hclosing).mono (by decide)⟩
  refine (hstatements _ (hviable.quoted (by decide)) Next.heads scanner hinside hlt).bind
    fun statements later _ hlater _ => ?_
  exact (Follows.consumeText hlater (by decide) hviable).map

/-- A condition, a word and the statement under the condition are taken in. -/
theorem guarded_follows {make : Condition → Statement → Statement} {word : String}
    (hinner : Parses inner SpansStatement EndsStatement bound) (hword : word ∈ ["THEN", "DO"])
    (hviable : Viable after []) (hends : EndsStatement after) (hinside : Inside scanner)
    (hlt : left scanner < bound) :
    Follows (do
      let test ← condition scope
      let _ ← consumeText word
      return make test (← inner) : Scan Kind Statement) scanner
      (Then (Spans Condition.Derives) (Next (·.text = word) (Then SpansStatement after)))
      after := by
  have hlack : ∀ text ∈ ["THEN", "DO"], text ∈ terminals ∧ text ∉ operatorTexts := by decide
  obtain ⟨hmem, hoperator⟩ := hlack word hword
  refine (condition_parses bound _ (hviable.statement.quoted hmem) ?_ scanner hinside hlt).bind
    fun test later _ (hlater : Inside later) hle => ?_
  · exact Next.heads.avoids (by simpa using hoperator)
  refine (Follows.consumeText hlater hmem hviable.statement).bind fun _ last _ hlast hle' => ?_
  exact (hinner after hviable hends last hlast (by omega)).map

/-- Statements are taken in, if statements on fewer tokens are. -/
theorem Parses.statementWith (hinner : Parses inner SpansStatement EndsStatement bound) :
    Parses (statementWith inner scope) SpansStatement EndsStatement (bound + 1) := by
  intro after hviable hends scanner (hinside : Inside scanner) hlt
  refine .current hinside hviable.statement fun token rest later hnext hahead hlater => ?_
  have hrest : rest.length < bound := by simpa [hnext] using hlt
  have hgoes (others : Tokens) : Then SpansStatement after (token :: others) ↔
      behind after token others :=
    then_statement_cons_iff (hlater.proper token (by simp [hahead])) hends
  by_cases hkind : token.kind = .identifier
  · rw [if_pos hkind]
    refine assign_follows hviable hends hlater hahead hkind fun others => ?_
    rw [hgoes, behind, if_pos hkind]
  rw [if_neg hkind]
  refine .word (by decide) hlater hviable.statement hahead (fun htext later hlater _ => ?_)
    fun hcall later hlater hahead => ?_
  · refine (call_follows hviable hlater).of_iff fun others => ?_
    simp [hgoes, behind, hkind, htext]
  refine .word (by decide) hlater hviable.statement hahead (fun htext later hlater _ => ?_)
    fun hread later hlater hahead => ?_
  · refine (read_follows hviable hlater).of_iff fun others => ?_
    simp [hgoes, behind, hkind, htext]
  refine .word (by decide) hlater hviable.statement hahead (fun htext later hlater _ => ?_)
    fun hwrite later hlater hahead => ?_
  · refine (expression_follows scope hviable hends.avoids hlater).map.of_iff fun others => ?_
    simp [hgoes, behind, hkind, htext]
  refine .word (by decide) hlater hviable.statement hahead (fun htext later hlater hahead => ?_)
    fun hbegin later hlater hahead => ?_
  · refine (sequence_follows hinner hviable hlater (by simpa [hahead] using hrest)).of_iff
      fun others => ?_
    simp [hgoes, behind, hkind, htext]
  refine .word (by decide) hlater hviable.statement hahead (fun htext later hlater hahead => ?_)
    fun hif later hlater hahead => ?_
  · refine (guarded_follows hinner (by decide) hviable hends hlater
      (by simpa [hahead] using hrest)).of_iff fun others => ?_
    simp [hgoes, behind, hkind, htext]
  refine .word (by decide) hlater hviable.statement hahead (fun htext later hlater hahead => ?_)
    fun hwhile later hlater hahead => ?_
  · refine (guarded_follows hinner (by decide) hviable hends hlater
      (by simpa [hahead] using hrest)).of_iff fun others => ?_
    simp [hgoes, behind, hkind, htext]
  -- Nothing that begins a statement comes next, so an empty one is in front of what follows.
  refine .pure hlater (fun others h => .intro ⟨.empty⟩ h) fun _ hnext h => ?_
  obtain ⟨others, rfl⟩ := hnext.starts hahead
  simpa [hgoes, behind, hkind, hcall, hread, hwrite, hbegin, hif, hwhile] using h

/-- Statements are taken in where only what ends one can follow. -/
theorem statement_parses (bound : Nat) :
    Parses (statement scope) SpansStatement EndsStatement bound :=
  .recursive (fun _ _ h => h.statementWith) bound

end

end Parlance.Pl0.CorrectPrefix
