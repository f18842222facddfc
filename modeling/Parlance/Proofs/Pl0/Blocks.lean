import Parlance.Proofs.Pl0.Declarations
import Parlance.Proofs.Pl0.Uniqueness

/-!
# Parsing blocks

A block is parsed as the grammar derives it, and keeps the rules on names; and a block that is
derived and keeps them is parsed. Both are inductions on the tokens that are left: the body of a
procedure stands behind the keyword that opens it.
-/

namespace Parlance.Pl0

open Scanner Parse

variable {start final : Session}

/-! ## Procedures -/

/-- The scope with these procedures declared in addition. -/
def Scope.declareProcedures (scope : Scope) (names : List String) : Scope :=
  { scope with own.procedures := scope.own.procedures ++ names }

/-- Declaring procedures in two steps is declaring them in one. -/
@[simp] theorem Scope.declareProcedures_declareProcedures (scope : Scope)
    (first second : List String) :
    (scope.declareProcedures first).declareProcedures second =
      scope.declareProcedures (first ++ second) := by
  simp [declareProcedures]

/-- A procedure can be declared if the block has not declared the name before. -/
theorem Scope.declareProcedure?_eq_some_iff {scope after : Scope} {name : String} :
    scope.declareProcedure? name = some after ↔
      name ∉ scope.own.procedures ∧ scope.declareProcedures [name] = after := by
  unfold declareProcedure?
  by_cases hmem : name ∈ scope.own.procedures
  · simp [hmem]
  · simp [hmem, declareProcedures]

/-- Declaring a procedure adds its name. -/
theorem declareProcedure_ok_iff {token : Token Kind} {done : Unit} :
    declareProcedure token start = .ok done final ↔
      token.text ∉ start.scope.own.procedures ∧
        final.scope = start.scope.declareProcedures [token.text] ∧
        final.scanner = start.scanner := by
  unfold declareProcedure
  rw [declare_ok_iff, Scope.declareProcedure?_eq_some_iff, and_assoc, @eq_comm _ final.scope]

/-- The block has been parsed where these levels are around it: no name is declared twice, its
statement has been parsed in the scope in which all of the block is declared, and each of its
procedures where the block has declared it and those before it. -/
inductive Block.ParsedIn : List Declared → Block → Prop where
  | intro {outer block} {start final : Scanner Kind} :
      (block.symbols.map Prod.fst).Nodup → (block.procedures.map Prod.fst).Nodup →
      (∀ (index : Nat) (h : index < block.procedures.length),
        ParsedIn (block.declared (index + 1) :: outer) block.procedures[index].2) →
      Pl0.statement ⟨block.declared block.procedures.length, outer⟩ start =
        .ok block.statement final →
      ParsedIn outer block

/-- A block that has been parsed keeps the rules on names. -/
theorem Block.ParsedIn.wellScoped {outer : List Declared} {block : Block}
    (h : block.ParsedIn outer) : block.WellScoped outer := by
  induction h with
  | intro hsymbols hprocedures _ hstatement ih =>
      exact .intro hsymbols hprocedures ih (statement_gives hstatement).resolves

/-- A block is derived from the tokens between two sessions, and has been parsed in its place. -/
structure BlockGiven (start : Session) (body : Block) (final : Session) : Prop where
  derives : Block.Derives start.scanner.ahead body final.scanner.ahead
  parsed : body.ParsedIn start.scope.outer
  passes : start.scanner.Passes final.scanner

/-- The operation gives blocks where nothing has been declared yet. -/
def GivesBlocks (inner : Parse Block) : Prop :=
  ∀ state body after, state.scope.own = {} → inner state = .ok body after →
    BlockGiven state body after

/-- Procedures are derived from the tokens between two sessions; their names are new and are
declared, each before its own body. -/
structure ProceduresGiven (start : Session) (procedures : List (String × Block))
    (final : Session) : Prop where
  derives : ProceduresDerive start.scanner.ahead procedures final.scanner.ahead
  fresh : start.scope.own.procedures.Nodup → final.scope.own.procedures.Nodup
  scope : final.scope = start.scope.declareProcedures (procedures.map Prod.fst)
  parsed : ∀ (index : Nat) (h : index < procedures.length),
    procedures[index].2.ParsedIn
      (start.scope.declareProcedures ((procedures.take (index + 1)).map Prod.fst)).levels
  passes : start.scanner.Passes final.scanner

/-- What the declaration of a procedure is parsed to is derived and declared. -/
theorem procedureDeclaration_gives {inner : Parse Block} (hinner : GivesBlocks inner)
    {procedure : String × Block} (h : procedureDeclaration inner start = .ok procedure final) :
    ProcedureDerives start.scanner.ahead procedure final.scanner.ahead ∧
      procedure.1 ∉ start.scope.own.procedures ∧
      final.scope = start.scope.declareProcedures [procedure.1] ∧
      procedure.2.ParsedIn final.scope.levels ∧ start.scanner.Passes final.scanner := by
  unfold procedureDeclaration at h
  obtain ⟨token, first, hname, h⟩ := Rule.bind_ok_iff.1 h
  obtain ⟨_, second, hopening, h⟩ := Rule.bind_ok_iff.1 h
  obtain ⟨_, third, hdeclare, h⟩ := Rule.bind_ok_iff.1 h
  obtain ⟨body, fourth, hbody, h⟩ := Rule.bind_ok_iff.1 h
  obtain ⟨_, hclosing, rfl⟩ := Rule.map_ok_iff.1 h
  obtain ⟨htakes, hkind, hscope⟩ := declaredName_ok_iff.1 hname
  obtain ⟨hopening, hscopeOpening⟩ := scan_ok_iff.1 hopening
  obtain ⟨-, opening, htakes', htext⟩ := consumeText_ok_iff.1 hopening
  obtain ⟨hnew, hdeclared, hscanner⟩ := declareProcedure_ok_iff.1 hdeclare
  obtain ⟨scope, hbody, hscopeBody⟩ := inside_ok_iff.1 hbody
  obtain ⟨hclosing, hscopeClosing⟩ := scan_ok_iff.1 hclosing
  obtain ⟨-, closing, hlast, hclosingText⟩ := consumeText_ok_iff.1 hclosing
  have hgiven := hinner _ _ _ rfl hbody
  rw [hscopeOpening, hscope] at hnew hdeclared
  rw [hscopeClosing, hscopeBody, hdeclared]
  refine ⟨?_, hnew, rfl, ?_, ?_⟩
  · rw [htakes.ahead_eq, htakes'.ahead_eq, ← hscanner]
    exact .intro hkind htext (hlast.ahead_eq ▸ hgiven.derives) hclosingText
  · rw [← hdeclared]
    exact hgiven.parsed
  · refine ((htakes.passes.trans htakes'.passes).trans ?_).trans hlast.passes
    rw [← hscanner]
    exact hgiven.passes

/-- The question whether a procedure follows. -/
def procedureFollows : Parse Bool := scan fun _ => tryConsume "PROCEDURE"

/-- What is collected as long as a procedure follows is derived and declared. -/
theorem collects_procedures {inner : Parse Block} (hinner : GivesBlocks inner)
    {procedures : List (String × Block)}
    (h : Rule.Collects procedureFollows (procedureDeclaration inner) start procedures final) :
    ProceduresGiven start procedures final := by
  induction h with
  | done =>
      refine ⟨.none, id, ?_, fun index hindex => (nomatch hindex), .refl _⟩
      simp [Scope.declareProcedures]
  | @round start middle later last procedure others hmore hprocedure _ _ ih =>
      obtain ⟨htry, hscope⟩ := scan_ok_iff.1 hmore
      obtain ⟨keyword, htakes, htext⟩ := tryConsume_true_iff.1 htry
      obtain ⟨hderives, hnew, hscope', hparsed, hpasses⟩ :=
        procedureDeclaration_gives hinner hprocedure
      rw [hscope] at hnew hscope'
      refine ⟨?_, fun h => ih.fresh ?_, ?_, fun index hindex => ?_,
        (htakes.passes.trans hpasses).trans ih.passes⟩
      · rw [htakes.ahead_eq]
        exact .more htext hderives ih.derives
      · rw [hscope', Scope.declareProcedures, List.nodup_append]
        refine ⟨h, by simp, fun name hname other hother heq => hnew ?_⟩
        cases List.mem_singleton.1 hother
        exact heq ▸ hname
      · rw [ih.scope, hscope', Scope.declareProcedures_declareProcedures]
        rfl
      · cases index with
        | zero =>
            rw [hscope'] at hparsed
            exact hparsed
        | succ index =>
            have hbody := ih.parsed index (by simpa using hindex)
            rw [hscope', Scope.declareProcedures_declareProcedures] at hbody
            exact hbody

/-! ## Blocks -/

/-- The scope in which a block has declared its constants and variables and so many of its
procedures. -/
theorem Block.declared_eq {scope : Scope} (hown : scope.own = {}) (block : Block) (count : Nat) :
    ((scope.declareAll (block.constants.map constantEntry)).declareAll
      (block.variableNames.map variableEntry)).declareProcedures
        ((block.procedures.take count).map Prod.fst) = ⟨block.declared count, scope.outer⟩ := by
  obtain ⟨own, outer⟩ := scope
  cases hown
  rfl

/-- What a block is parsed to is derived and has been parsed in its place, if what the blocks inside
it are parsed to has. -/
theorem blockWith_gives {inner : Parse Block} (hinner : GivesBlocks inner) :
    GivesBlocks (blockWith inner) := by
  intro start body final hown h
  unfold blockWith at h
  obtain ⟨constants, first, hconstants, h⟩ := Rule.bind_ok_iff.1 h
  obtain ⟨names, second, hnames, h⟩ := Rule.bind_ok_iff.1 h
  obtain ⟨collected, third, hcollected, h⟩ := Rule.bind_ok_iff.1 h
  obtain ⟨statement, hstatement, hbody⟩ := Rule.map_ok_iff.1 h
  obtain ⟨procedures, last, hcollects, hlast, rfl⟩ := Rule.iterate_collect_iff.1 hcollected
  rw [List.append_nil, List.reverse_reverse] at hbody
  have hconstants := declarationSection_declares
    (fun _ _ _ => constantDeclaration_declares) hconstants
  have hnames := declarationSection_declares
    (fun _ _ _ => variableDeclaration_declares) hnames
  have hprocedures := collects_procedures hinner hcollects
  obtain ⟨htry, hscope⟩ := scan_ok_iff.1 hlast
  obtain ⟨token, -, -, hscanner⟩ := tryConsume_false_iff.1 htry
  obtain ⟨hstatement, -⟩ := scan_ok_iff.1 hstatement
  have hgives := statement_gives hstatement
  rw [hscanner, hscope] at hgives
  have hgives := hgives.of_look
  -- Nothing has been declared before, so the scope at the end is what the block declares.
  have hdeclared := Block.declared_eq hown body
  subst hbody
  have hscope' := hprocedures.scope
  have hparsed := hprocedures.parsed
  rw [hnames.scope, hconstants.scope] at hscope' hparsed
  have hlevel := hscope'.trans (List.take_length ▸ hdeclared procedures.length)
  refine ⟨.intro hconstants.derives hnames.derives hprocedures.derives hgives.derives, ?_,
    ((hconstants.passes.trans hnames.passes).trans hprocedures.passes).trans hgives.passes⟩
  rw [hscope, hlevel] at hstatement
  refine .intro ?_ ?_ (fun index hindex => ?_) hstatement
  · have hnodup := hnames.fresh (hconstants.fresh (by simp [Scope.ownNames, hown]))
    rw [hnames.scope, hconstants.scope, Scope.declareAll_declareAll, Scope.declareAll_ownNames,
      Scope.ownNames, hown] at hnodup
    exact hnodup
  · have hnodup := hprocedures.fresh ?_
    · rw [hlevel] at hnodup
      simpa [Block.declared] using hnodup
    · rw [hnames.scope, hconstants.scope]
      simp [Scope.declareAll, hown]
  · have hprocedure := hparsed index hindex
    rw [hdeclared] at hprocedure
    exact hprocedure

/-- What a block is parsed to is derived and has been parsed in its place. -/
theorem block_gives : GivesBlocks block := by
  intro start body final hown h
  refine Rule.recursive_induct
    (fun _ start body final => start.scope.own = {} → BlockGiven start body final) ?_ h hown
  intro _ state result final hinner hbody hown
  refine blockWith_gives (fun later value after hown hlater => ?_) state result final hown hbody
  obtain ⟨hleft, hlater⟩ := Rule.below_ok_iff.1 hlater
  exact hinner () later value after hleft hlater hown

/-! ## Blocks that are derived -/

/-- The parser of the blocks inside a block yields them where few enough tokens remain. -/
def YieldsBlocks (inner : Parse Block) (limit : Nat) : Prop :=
  ∀ (state : Session) body rest, Ready state.scanner → state.scanner.ahead.length < limit →
    state.scope.own = {} → Block.Derives state.scanner.ahead body rest →
    body.WellScoped state.scope.outer → StartsInside blockEnds rest →
    ∃ scope, ParseYields inner state body rest scope

section

variable {inner : Parse Block} {limit : Nat}

/-- What is derived as the declaration of a procedure is yielded and declared. -/
theorem procedureDeclaration_yields (hinner : YieldsBlocks inner limit)
    (hready : Ready start.scanner) (hlimit : start.scanner.ahead.length < limit)
    {procedure : String × Block} {rest : Tokens}
    (h : ProcedureDerives start.scanner.ahead procedure rest)
    (hnew : procedure.1 ∉ start.scope.own.procedures)
    (hwellScoped : procedure.2.WellScoped (start.scope.declareProcedures [procedure.1]).levels) :
    ParseYields (procedureDeclaration inner) start procedure rest
      (start.scope.declareProcedures [procedure.1]) := by
  unfold procedureDeclaration
  generalize hfirst : start.scanner.ahead = first at h hlimit
  cases h with
  | @intro name opening second body closing _ hkind htext hbody hclosing =>
      refine (declaredName_yields hready hfirst hkind).bind hready fun later hready hlater => ?_
      refine (ParseYields.scan (consumeText_yields hready hlater htext (by decide))).bind hready
        fun later hready hlater => ?_
      subst hlater
      have hdeclare : ParseYields (declareProcedure name) ⟨later, start.scope⟩ () later.ahead
          (start.scope.declareProcedures [name.text]) :=
        ⟨later, declareProcedure_ok_iff.2 ⟨hnew, rfl, rfl⟩, rfl, .refl later⟩
      refine hdeclare.bind hready fun later hready hlater => ?_
      rw [← hlater] at hbody hlimit
      simp only [List.length_cons] at hlimit
      obtain ⟨scope, hinside⟩ := hinner
        ⟨later, (start.scope.declareProcedures [name.text]).child⟩ body _ hready
        (by show later.ahead.length < limit; omega) rfl hbody hwellScoped
        ⟨closing, rest, rfl, by rw [hclosing]; decide⟩
      refine (ParseYields.inside hinside).bind hready fun later hready hlater => ?_
      refine (ParseYields.scan (consumeText_yields hready hlater hclosing (by decide))).bind hready
        fun later hready hlater => ?_
      rw [← hlater]
      exact ParseYields.pure

/-- What is derived as procedures is collected and declared. -/
theorem procedures_collects (hinner : YieldsBlocks inner limit) {procedures : List (String × Block)}
    {rest : Tokens} (hready : Ready start.scanner) (hlimit : start.scanner.ahead.length ≤ limit)
    (h : ProceduresDerive start.scanner.ahead procedures rest)
    (hfresh : (start.scope.declareProcedures (procedures.map Prod.fst)).own.procedures.Nodup)
    (hwellScoped : ∀ (index : Nat) (h : index < procedures.length),
      procedures[index].2.WellScoped
        (start.scope.declareProcedures ((procedures.take (index + 1)).map Prod.fst)).levels) :
    ∃ last : Session,
      Rule.Collects procedureFollows (procedureDeclaration inner) start procedures last ∧
      last.scanner.ahead = rest ∧
      last.scope = start.scope.declareProcedures (procedures.map Prod.fst) ∧
      start.scanner.Passes last.scanner := by
  induction procedures generalizing start with
  | nil =>
      generalize hfirst : start.scanner.ahead = first at h
      cases h with
      | none => exact ⟨start, .done, hfirst, by simp [Scope.declareProcedures], .refl _⟩
  | cons procedure others ih =>
      generalize hfirst : start.scanner.ahead = first at h hlimit
      cases h with
      | @more keyword second _ third _ _ htext hprocedure hothers =>
          have htakes := hready.takes_terminal hfirst (by rw [htext]; decide)
          have hmore : procedureFollows start = .ok true ⟨start.scanner.advance, start.scope⟩ :=
            scan_ok_iff.2 ⟨tryConsume_true_iff.2 ⟨keyword, htakes, htext⟩, rfl⟩
          have hahead : start.scanner.advance.ahead = second := by simp [hfirst]
          simp only [List.length_cons] at hlimit
          have hnew : procedure.1 ∉ start.scope.own.procedures := by
            intro hmem
            rw [Scope.declareProcedures, List.nodup_append] at hfresh
            exact hfresh.2.2 _ hmem _ (by simp) rfl
          obtain ⟨later, hvalue, rfl, hpasses⟩ := @procedureDeclaration_yields
            ⟨start.scanner.advance, start.scope⟩ _ _ hinner (hready.passes htakes.passes)
            (by rw [hahead]; omega) _ _ (hahead ▸ hprocedure) hnew (hwellScoped 0 (by simp))
          have hlength := hpasses.suffix.length_le
          rw [hahead] at hlength
          -- The other procedures are parsed where this one has been declared.
          let scope := start.scope.declareProcedures [procedure.1]
          have hrest : ∀ (index : Nat) (h : index < others.length), others[index].2.WellScoped
              (scope.declareProcedures ((others.take (index + 1)).map Prod.fst)).levels := by
            intro index hindex
            have hbody := hwellScoped (index + 1) (by simpa using hindex)
            rw [Scope.declareProcedures_declareProcedures]
            exact hbody
          obtain ⟨last, hcollects, hlast, hscope, hpasses'⟩ := @ih ⟨later, scope⟩
            ((hready.passes htakes.passes).passes hpasses)
            (by show later.ahead.length ≤ limit; omega) hothers
            (by simpa [scope] using hfresh) hrest
          refine ⟨last, .round hmore hvalue ?_ hcollects, hlast, by simpa [scope] using hscope,
            (htakes.passes.trans hpasses).trans hpasses'⟩
          show later.remaining < start.scanner.remaining
          rw [remaining_eq_length, remaining_eq_length, hfirst, List.length_cons]
          omega

/-- What is derived as procedures is yielded and declared where no other procedure follows. -/
theorem procedures_yields (hinner : YieldsBlocks inner limit) {procedures : List (String × Block)}
    {rest : Tokens} {scope : Scope} (hready : Ready start.scanner)
    (hlimit : start.scanner.ahead.length ≤ limit)
    (h : ProceduresDerive start.scanner.ahead procedures rest) (hrest : StartsOutside openers rest)
    (hscope : start.scope.declareProcedures (procedures.map Prod.fst) = scope)
    (hfresh : scope.own.procedures.Nodup)
    (hwellScoped : ∀ (index : Nat) (h : index < procedures.length),
      procedures[index].2.WellScoped
        (start.scope.declareProcedures ((procedures.take (index + 1)).map Prod.fst)).levels) :
    ParseYields (Rule.iterate (Rule.collect procedureFollows (procedureDeclaration inner)) [])
      start procedures.reverse rest scope := by
  subst hscope
  obtain ⟨last, hcollects, hahead, hscope, hpasses⟩ :=
    procedures_collects hinner hready hlimit h hfresh hwellScoped
  obtain ⟨next, others, rfl, hnext⟩ := hrest
  refine ⟨last.scanner.look, Rule.iterate_collect_iff.2 ⟨procedures, last, hcollects, ?_, by simp⟩,
    by rw [look_ahead, hahead], hpasses.trans (.look _)⟩
  have hother : next.text ≠ "PROCEDURE" := fun htext => hnext (by rw [htext]; decide)
  exact scan_ok_iff.2 ⟨tryConsume_false_iff.2 ⟨next, upcoming_of_ahead hahead, hother, rfl⟩,
    hscope.symm⟩

/-- What is derived as a block is yielded, if the blocks inside it are. -/
theorem blockWith_yields (hready : Ready start.scanner)
    (hinner : YieldsBlocks inner start.scanner.ahead.length) (hown : start.scope.own = {})
    {body : Block} {rest : Tokens} (h : Block.Derives start.scanner.ahead body rest)
    (hwellScoped : body.WellScoped start.scope.outer) (hrest : StartsInside blockEnds rest) :
    ParseYields (blockWith inner) start body rest
      ⟨body.declared body.procedures.length, start.scope.outer⟩ := by
  unfold blockWith
  have hdeclared := Block.declared_eq hown body
  have hlevel := List.take_length ▸ hdeclared body.procedures.length
  obtain ⟨hsymbols, hprocedureNames, hbodies, hresolves⟩ := hwellScoped
  generalize hfirst : start.scanner.ahead = first at h
  cases h with
  | @intro _ constants second names third procedures fourth statement _ hconstants hnames
      hprocedures hstatement =>
      have hsecond := hconstants.constants_suffix.length_le
      have hthird := hnames.names_suffix.length_le
      -- No section goes on with what follows it.
      obtain ⟨⟨_, _, rfl, hconst⟩, ⟨_, _, rfl, hvar⟩, hlast⟩ :=
        Block.Derives.heads (hfirst ▸ hready.proper) hconstants hnames hprocedures hstatement hrest
      obtain ⟨next, others, rfl, hnext⟩ := hrest.follows
      have hfresh : ((start.scope.declareAll (constants.map constantEntry)).declareAll
          (names.map variableEntry)).ownNames.Nodup := by
        rw [Scope.declareAll_declareAll, Scope.declareAll_ownNames, Scope.ownNames, hown]
        exact hsymbols
      have hfresh' : (start.scope.declareAll (constants.map constantEntry)).ownNames.Nodup := by
        rw [Scope.declareAll_ownNames] at hfresh
        exact (List.nodup_append.1 hfresh).1
      refine (declarationSection_yields hready (by decide) constantDeclaration_yields
        (by simpa using hconst) (hfirst ▸ hconstants) hfresh').bind hready
        fun later hready hlater => ?_
      refine (declarationSection_yields hready (by decide) variableDeclaration_yields
        (by simpa using hvar) (hlater ▸ hnames) hfresh).bind hready
        fun later hready hlater => ?_
      have hdeclaredNames : (Scope.mk (Block.declared
          ⟨constants, names, procedures, statement⟩ procedures.length)
            start.scope.outer).own.procedures.Nodup := by
        simpa [Block.declared] using hprocedureNames
      let scope := (start.scope.declareAll (constants.map constantEntry)).declareAll
        (names.map variableEntry)
      refine (@procedures_yields ⟨later, scope⟩ _ _ hinner _ _ _ hready
        (by rw [hlater, hfirst]; exact Nat.le_trans hthird hsecond) (hlater ▸ hprocedures) hlast
        hlevel hdeclaredNames fun index hindex => ?_).bind hready fun later hready hlater => ?_
      · show Block.WellScoped (scope.declareProcedures _).levels _
        rw [hdeclared]
        exact hbodies index hindex
      · obtain ⟨last, hstatement, hahead, hpasses⟩ :=
          statement_yields hready (hlater ▸ hstatement) hresolves hnext
        refine ⟨last, Rule.map_ok_iff.2 ⟨statement, scan_ok_iff.2 ⟨hstatement, rfl⟩, ?_⟩, hahead,
          hpasses⟩
        rw [List.reverse_reverse]

end

/-- What is derived as a block that keeps the rules on names is yielded in front of what can follow
one. -/
theorem block_yields {start : Session} {body : Block} {rest : Tokens} (hready : Ready start.scanner)
    (hown : start.scope.own = {}) (h : Block.Derives start.scanner.ahead body rest)
    (hwellScoped : body.WellScoped start.scope.outer) (hrest : StartsInside blockEnds rest) :
    ∃ scope, ParseYields block start body rest scope := by
  have hinner : YieldsBlocks (Rule.below (Supply.left start) block)
      start.scanner.ahead.length := by
    intro state inner left hready hlimit hown hinner hwellScoped hleft
    obtain ⟨scope, scanner, hvalue, hahead, hpasses⟩ :=
      block_yields hready hown hinner hwellScoped hleft
    refine ⟨scope, scanner, ?_, hahead, hpasses⟩
    rw [Rule.below_of_lt, hvalue]
    show state.scanner.remaining < start.scanner.remaining
    rwa [remaining_eq_length, remaining_eq_length]
  obtain ⟨scanner, hvalue, hahead, hpasses⟩ :=
    blockWith_yields hready hinner hown h hwellScoped hrest
  exact ⟨_, scanner, (Rule.recursive_eq _ _ start).trans hvalue, hahead, hpasses⟩
termination_by start.scanner.ahead.length

end Parlance.Pl0
