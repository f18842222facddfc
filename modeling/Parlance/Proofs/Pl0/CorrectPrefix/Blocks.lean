import Parlance.Proofs.Pl0.CorrectPrefix.Statements

/-!
# The correct prefix of a block

The sections of a block may be left out, and each is told from what follows it by its keyword: no
later section, no statement and nothing that can follow a block begins with that. Declaring a name
leaves what can stand there or breaks a rule on names.
-/

namespace Parlance.Pl0.CorrectPrefix

open Scanner Parse
open Supply (left)

variable {α : Type} {whole after : Language} {token : Token Kind} {first rest : Tokens}
  {keyword : String} {derives : Tokens → α → Tokens → Prop} {texts : List String}

/-! ## Declarations -/

/-- The declaration of a constant is a name, an equals sign and a number. -/
theorem then_constant_iff :
    Then (Spans ConstantDerives) after first ↔ Next (·.kind = .identifier)
      (Next (·.text = "=") (Next (·.kind = .number) after)) first := by
  constructor
  · rintro ⟨⟨h⟩, hafter⟩
    cases h with
    | intro hkind htext hvalue => exact .intro hkind (.intro htext (.intro hvalue hafter))
  · rintro ⟨hkind, htext, hvalue, hafter⟩
    exact .intro ⟨.intro hkind htext hvalue⟩ hafter

/-- The declaration of a variable is a name. -/
theorem then_variable_iff :
    Then (Spans VariableDerives) after first ↔ Next (·.kind = .identifier) after first := by
  constructor
  · rintro ⟨⟨h⟩, hafter⟩
    cases h with
    | intro hkind => exact .intro hkind hafter
  · rintro ⟨hkind, hafter⟩
    exact .intro ⟨.intro hkind⟩ hafter

/-- Declarations of constants are taken in. -/
theorem constantDeclaration_parses (bound : Nat) :
    Parses constantDeclaration (Spans ConstantDerives) (fun _ => True) bound := by
  intro after hviable _ session (hinside : Inside session.scanner) _
  refine Follows.of_iff ?_ fun _ => then_constant_iff
  have hnumber : Viable (Next (·.kind = .number) after) [] := hviable.kind (.inr rfl)
  refine (declaredName_follows hinside (hnumber.quoted (by decide))).bind
    fun token later _ (hlater : Inside later.scanner) _ => ?_
  have hvalue : Follows (scan fun _ => do
      let _ ← consumeText "="
      return numberValue (← consumeKind .number)) later
      (Next (·.text = "=") (Next (·.kind = .number) after)) after := by
    refine .scan ((Follows.consumeText hlater (by decide) hnumber).bind fun _ last _ hlast _ => ?_)
    exact (Follows.consumeKind hlast (.inr rfl) hviable).map
  exact hvalue.bind fun value last _ hlast _ => (Follows.declare hlast rfl).map

/-- Declarations of variables are taken in. -/
theorem variableDeclaration_parses (bound : Nat) :
    Parses variableDeclaration (Spans VariableDerives) (fun _ => True) bound := by
  intro after hviable _ session (hinside : Inside session.scanner) _
  refine Follows.of_iff ?_ fun _ => then_variable_iff
  exact (declaredName_follows hinside hviable).bind fun token later _ hlater _ =>
    (Follows.declare hlater rfl).map

/-! ## Sections -/

/-- What a section takes in. -/
abbrev SpansSection (keyword : String) (derives : Tokens → α → Tokens → Prop) :
    Tokens → Tokens → Prop := Spans (Section keyword derives)

/-- A section and what follows it begin with its keyword or with what follows. -/
theorem then_section_iff :
    Then (SpansSection keyword derives) after first ↔
      Next (·.text = keyword)
          (Then (Spans (Separated "," derives)) (Next (·.text = ";") after)) first ∨
        after first := by
  constructor
  · rintro ⟨⟨h⟩, hafter⟩
    cases h with
    | absent => exact .inr hafter
    | present htext hitems hclosing =>
        exact .inl (.intro htext (.intro ⟨hitems⟩ (.intro hclosing hafter)))
  · rintro (⟨htext, ⟨hitems⟩, hclosing, hafter⟩ | hafter)
    · exact .intro ⟨.present htext hitems hclosing⟩ hafter
    · exact .intro ⟨.absent⟩ hafter

/-- A section is viable if what follows it is. -/
theorem Viable.section (h : Viable after []) :
    Viable (Then (SpansSection keyword derives) after) [] :=
  h.mono fun _ hafter => then_section_iff.2 (.inr hafter)

/-- Where nothing starts with some texts, a section starts with them only if its keyword is one. -/
theorem Section.avoids (h : Avoids texts after) (hkeyword : keyword ∉ texts) :
    Avoids texts (Then (SpansSection keyword derives) after) := by
  intro token rest hproper hsection
  rcases then_section_iff.1 hsection with ⟨htext, -⟩ | hafter
  · rwa [htext]
  · exact h token rest hproper hafter

/-- Sections are taken in where nothing starts with their keyword, if their items are. -/
theorem Parses.section {item : Parse α} (hkeyword : keyword ∈ terminals)
    (hitem : ∀ bound, Parses item (Spans derives) (fun _ => True) bound) (bound : Nat) :
    Parses (declarationSection keyword item) (SpansSection keyword derives) (Avoids [keyword])
      bound := by
  have hitems (bound : Nat) : Parses (commaSeparated item) (Spans (Separated "," derives))
      (Avoids [","]) bound :=
    .separated (scan_asks (tryConsume_asks (by decide))) (hitem bound)
      fun _ hafter => ⟨hafter, trivial⟩
  intro after hviable hafter session (hinside : Inside session.scanner) _
  refine .choice (scan_asks (tryConsume_asks hkeyword)) hinside hviable.section ?_ ?_
  · intro opening later (hahead : session.scanner.ahead = _) htext hlater
    have hproper := hinside.proper opening (by simp [hahead])
    have hwhole (rest : Tokens) : Then (SpansSection keyword derives) after (opening :: rest) ↔
        Then (Spans (Separated "," derives)) (Next (·.text = ";") after) rest := by
      refine then_section_iff.trans ⟨?_, fun h => .inl (.intro htext h)⟩
      rintro (⟨-, h⟩ | h)
      · exact h
      · exact (hafter _ _ hproper h (by simp [htext])).elim
    refine Follows.of_iff ?_ hwhole
    refine (Parses.follows hitems (hviable.quoted (by decide)) (Next.heads.avoids (by decide))
      hlater).bind fun items last _ hlast _ => ?_
    have hclosing : Follows (scan fun _ => consumeText ";") last (Next (·.text = ";") after)
        after :=
      .scan (.consumeText hlast (by decide) hviable)
    exact hclosing.map
  · intro next others later _ htext hlater hahead
    refine .pure hlater (fun rest h => then_section_iff.2 (.inr h)) fun _ hnext h => ?_
    obtain ⟨rest, rfl⟩ := hnext.starts hahead
    rcases then_section_iff.1 h with ⟨hkeyword, -⟩ | h
    · exact (htext hkeyword).elim
    · exact h

/-! ## Procedures -/

/-- The languages that can follow a block. -/
abbrev EndsBlock : Language → Prop := Heads blockEnds

/-- The declaration of a procedure is a name and a block, with a semicolon after each. -/
theorem then_procedure_iff :
    Then (Spans ProcedureDerives) after first ↔ Next (·.kind = .identifier)
      (Next (·.text = ";") (Then (Spans Block.Derives) (Next (·.text = ";") after))) first := by
  constructor
  · rintro ⟨⟨h⟩, hafter⟩
    cases h with
    | intro hkind htext hbody hclosing =>
        exact .intro hkind (.intro htext (.intro ⟨hbody⟩ (.intro hclosing hafter)))
  · rintro ⟨hkind, htext, ⟨hbody⟩, hclosing, hafter⟩
    exact .intro ⟨.intro hkind htext hbody hclosing⟩ hafter

/-- Procedures are declared in rounds, each behind the keyword. -/
theorem spans_procedures_iff (first rest : Tokens) :
    Spans ProceduresDerive first rest ↔
      Repeats ["PROCEDURE"] (Spans ProcedureDerives) first rest := by
  constructor
  · rintro ⟨h⟩
    rename_i procedures
    induction procedures generalizing first with
    | nil =>
        cases h
        exact .done
    | cons procedure others ih =>
        cases h with
        | more htext hprocedure hothers =>
            exact .round (by simp [htext]) ⟨hprocedure⟩ (ih _ hothers)
  · intro h
    induction h with
    | done => exact ⟨.none⟩
    | round hmem hleads _ ih =>
        obtain ⟨hprocedure⟩ := hleads
        obtain ⟨hothers⟩ := ih
        exact ⟨.more (by simpa using hmem) hprocedure hothers⟩

/-- A block is viable if what follows it is. -/
theorem Viable.block (h : Viable after []) : Viable (Then (Spans Block.Derives) after) [] :=
  h.mono fun _ hafter => .intro ⟨.intro .absent .absent .none .empty⟩ hafter

/-- Declarations of procedures are taken in, if blocks are. -/
theorem Parses.procedure {inner : Parse Block} {bound : Nat}
    (hinner : Parses inner (Spans Block.Derives) EndsBlock bound) :
    Parses (procedureDeclaration inner) (Spans ProcedureDerives) (fun _ => True) bound := by
  intro after hviable _ session (hinside : Inside session.scanner) hlt
  refine Follows.of_iff ?_ fun _ => then_procedure_iff
  have hclosing : Viable (Next (·.text = ";") after) [] := hviable.quoted (by decide)
  refine (declaredName_follows hinside (hclosing.block.quoted (by decide))).bind
    fun token named _ (hnamed : Inside named.scanner) hle => ?_
  have hopening : Follows (scan fun _ => consumeText ";") named
      (Next (·.text = ";") (Then (Spans Block.Derives) (Next (·.text = ";") after)))
      (Then (Spans Block.Derives) (Next (·.text = ";") after)) :=
    .scan (.consumeText hnamed (by decide) hclosing.block)
  refine hopening.bind fun _ opened _ (hopened : Inside opened.scanner) hle' => ?_
  refine (Follows.declare hopened rfl).bind fun _ declared _ hdeclared hle'' => ?_
  have hbody : Follows (Parse.inside inner) declared
      (Then (Spans Block.Derives) (Next (·.text = ";") after)) (Next (·.text = ";") after) := by
    refine .inside (hinner _ hclosing (Next.heads.mono (by decide)) _ hdeclared ?_)
    show left declared < bound
    omega
  refine hbody.bind fun body last _ hlast _ => ?_
  have hends : Follows (scan fun _ => consumeText ";") last (Next (·.text = ";") after) after :=
    .scan (.consumeText hlast (by decide) hviable)
  exact hends.map

/-! ## Blocks -/

/-- A block is two sections, the declarations of its procedures, and a statement. -/
theorem then_block_iff :
    Then (Spans Block.Derives) after first ↔
      Then (SpansSection "CONST" ConstantDerives) (Then (SpansSection "VAR" VariableDerives)
        (Then (Repeats ["PROCEDURE"] (Spans ProcedureDerives)) (Then SpansStatement after)))
          first := by
  constructor
  · rintro ⟨⟨h⟩, hafter⟩
    cases h with
    | intro hconstants hnames hprocedures hstatement =>
        exact .intro ⟨hconstants⟩ (.intro ⟨hnames⟩
          (.intro ((spans_procedures_iff _ _).1 ⟨hprocedures⟩) (.intro ⟨hstatement⟩ hafter)))
  · rintro ⟨⟨hconstants⟩, ⟨hnames⟩, hprocedures, ⟨hstatement⟩, hafter⟩
    obtain ⟨hprocedures⟩ := (spans_procedures_iff _ _).2 hprocedures
    exact .intro ⟨.intro hconstants hnames hprocedures hstatement⟩ hafter

/-- Where only what ends a block can follow, no statement begins as a section does. -/
theorem EndsBlock.statement_avoids (hends : EndsBlock after) :
    Avoids openers (Then SpansStatement after) := by
  have hquoted : ∀ text ∈ openers, text ∈ terminals := by decide
  have hlack : ∀ text ∈ blockEnds, text ∉ openers := by decide
  rintro token rest hproper ⟨⟨h⟩, hafter⟩
  have hother {text : String} (htext : token.text = text) (hword : text ∉ openers) :
      token.text ∉ openers := by rwa [htext]
  cases h with
  | assign hkind _ _ => exact fun hmem => hproper (.inl hkind) (hquoted _ hmem)
  | call htext _ => exact hother htext (by decide)
  | read htext _ => exact hother htext (by decide)
  | write htext _ => exact hother htext (by decide)
  | sequence htext _ _ => exact hother htext (by decide)
  | ifThen htext _ _ _ => exact hother htext (by decide)
  | whileDo htext _ _ _ => exact hother htext (by decide)
  | empty => exact hlack _ (hends _ _ hproper hafter)

/-- Blocks are taken in, if the blocks inside them are. -/
theorem Parses.blockWith {inner : Parse Block} {bound : Nat}
    (hinner : Parses inner (Spans Block.Derives) EndsBlock bound) :
    Parses (blockWith inner) (Spans Block.Derives) EndsBlock (bound + 1) := by
  intro after hviable hends session (hinside : Inside session.scanner) hlt
  refine Follows.of_iff ?_ fun _ => then_block_iff
  have hstatement : Viable (Then SpansStatement after) [] := hviable.statement
  have havoids : Avoids openers (Then SpansStatement after) := EndsBlock.statement_avoids hends
  have hprocedures : Avoids ["CONST", "VAR"]
      (Then (Repeats ["PROCEDURE"] (Spans ProcedureDerives)) (Then SpansStatement after)) :=
    Repeats.avoids (havoids.mono (by decide)) (by decide)
  refine (Parses.follows (Parses.section (by decide) constantDeclaration_parses)
    hstatement.repeats.section (Section.avoids (hprocedures.mono (by decide)) (by decide))
    hinside).bind fun constants first _ hfirst hle => ?_
  refine (Parses.follows (Parses.section (by decide) variableDeclaration_parses)
    hstatement.repeats (hprocedures.mono (by decide)) hfirst).bind
    fun names second _ hsecond hle' => ?_
  refine (Follows.iterate (collect_rounds (scan_asks (tryConsume_asks (by decide)))) hstatement
    (havoids.mono (by decide)) (hinner.procedure _ hstatement.repeats trivial) [] second hsecond
    (by omega)).bind fun procedures third _ hthird _ => ?_
  have hbody : Follows (scan statement) third (Then SpansStatement after) after := by
    refine .scan (Parses.follows statement_parses hviable ?_ hthird)
    exact Heads.mono hends (by decide)
  exact hbody.map

/-- Blocks are taken in where only what ends one can follow. -/
theorem block_parses (bound : Nat) : Parses block (Spans Block.Derives) EndsBlock bound :=
  .recursive (fun _ _ h => h.blockWith) bound

end Parlance.Pl0.CorrectPrefix
