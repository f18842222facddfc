import Parlance.Proofs.Ledger
import Parlance.Proofs.Pl0.Statements

/-!
# Parsing declarations

Steps of parsing a block work on a scanner together with a scope. A section of declarations is
parsed as the grammar derives it, and adds the names in their order to the scope; it fails if one of
them has been declared by the same block before.
-/

namespace Parlance.Pl0

open Scanner Parse

variable {α β : Type} {start final : Session}

/-! ## Scopes -/

/-- The scope with these constants and variables declared in addition. -/
def Scope.declareAll (scope : Scope) (entries : List (String × Option Int)) : Scope :=
  { scope with own.symbols := scope.own.symbols ++ entries }

/-- The constants and variables that the block itself has declared. -/
def Scope.ownNames (scope : Scope) : List String := scope.own.symbols.map Prod.fst

/-- Declaring nothing changes nothing. -/
@[simp] theorem Scope.declareAll_nil (scope : Scope) : scope.declareAll [] = scope := by
  simp [declareAll]

/-- Declaring in two steps is declaring in one. -/
@[simp] theorem Scope.declareAll_declareAll (scope : Scope)
    (first second : List (String × Option Int)) :
    (scope.declareAll first).declareAll second = scope.declareAll (first ++ second) := by
  simp [declareAll]

/-- What is declared is added to the names. -/
@[simp] theorem Scope.declareAll_ownNames (scope : Scope) (entries : List (String × Option Int)) :
    (scope.declareAll entries).ownNames = scope.ownNames ++ entries.map Prod.fst := by
  simp [declareAll, ownNames]

/-- A constant or a variable can be declared if the block has not declared the name before. -/
theorem Scope.declareSymbol?_eq_some_iff {scope after : Scope} {name : String}
    {value : Option Int} :
    scope.declareSymbol? name value = some after ↔
      name ∉ scope.ownNames ∧ scope.declareAll [(name, value)] = after := by
  have hlookup : (scope.own.symbols.lookup name).isSome = true ↔ name ∈ scope.ownNames :=
    Ledger.lookup_isSome_iff_mem
  unfold declareSymbol?
  by_cases hmem : name ∈ scope.ownNames
  · simp [hlookup.2 hmem, hmem]
  · have hnone := mt hlookup.1 hmem
    rw [if_neg hnone]
    simp [hmem, declareAll]

/-! ## Steps -/

/-- Parsing something that declares no names is a step of the scanner. -/
theorem scan_ok_iff {parser : Scope → Scan Kind α} {value : α} :
    scan parser start = .ok value final ↔
      parser start.scope start.scanner = .ok value final.scanner ∧ final.scope = start.scope := by
  unfold scan
  split
  · rename_i other scanner heq
    rw [heq]
    constructor
    · intro h
      cases h
      exact ⟨rfl, rfl⟩
    · rintro ⟨h, hscope⟩
      cases h
      rw [← hscope]
  · rename_i fault scanner heq
    rw [heq]
    exact ⟨(nomatch ·), fun h => nomatch h.1⟩

/-- What is declared inside is forgotten afterwards. -/
theorem inside_ok_iff {parser : Parse α} {value : α} :
    inside parser start = .ok value final ↔
      ∃ scope, parser { start with scope := start.scope.child } =
        .ok value { final with scope } ∧ final.scope = start.scope := by
  unfold inside
  split
  · rename_i other last heq
    constructor
    · intro h
      cases h
      exact ⟨last.scope, heq, rfl⟩
    · rintro ⟨scope, h, hscope⟩
      cases heq.symm.trans h
      rw [← hscope]
  · rename_i fault last heq
    rw [heq]
    exact ⟨(nomatch ·), fun ⟨_, h, _⟩ => nomatch h⟩

/-- A declaration succeeds if the scope takes it. -/
theorem declare_ok_iff {token : Token Kind} {violation : Violation}
    {declared? : Scope → Option Scope} {done : Unit} :
    declare token violation declared? start = .ok done final ↔
      declared? start.scope = some final.scope ∧ final.scanner = start.scanner := by
  unfold declare
  rw [Rule.bind_ok_iff]
  constructor
  · rintro ⟨session, middle, hget, h⟩
    cases hget
    cases hdeclared : declared? start.scope with
    | none =>
        simp only [hdeclared] at h
        cases h
    | some scope =>
        simp only [hdeclared] at h
        cases h
        exact ⟨rfl, rfl⟩
  · rintro ⟨hscope, hscanner⟩
    refine ⟨start, start, rfl, ?_⟩
    simp only [hscope]
    rw [← hscanner]
    rfl

/-- The operation on a session succeeds with the value; these tokens are left, and this scope. -/
def ParseYields (operation : Parse α) (start : Session) (value : α) (rest : Tokens)
    (scope : Scope) : Prop :=
  ∃ scanner, operation start = .ok value ⟨scanner, scope⟩ ∧ scanner.ahead = rest ∧
    start.scanner.Passes scanner

/-- A chain yields what its second step does from where the first one leads. -/
theorem ParseYields.bind {first : Parse α} {next : α → Parse β} {value : α} {result : β}
    {middle rest : Tokens} {scope last : Scope} (hready : Ready start.scanner)
    (hfirst : ParseYields first start value middle scope)
    (hnext : ∀ later : Scanner Kind, Ready later → later.ahead = middle →
      ParseYields (next value) ⟨later, scope⟩ result rest last) :
    ParseYields (first >>= next) start result rest last := by
  obtain ⟨later, hvalue, hahead, hpasses⟩ := hfirst
  obtain ⟨scanner, hresult, hrest, hpasses'⟩ := hnext later (hready.passes hpasses) hahead
  exact ⟨scanner, by rw [Rule.bind_of_ok hvalue, hresult], hrest, hpasses.trans hpasses'⟩

/-- A step of the scanner leaves the scope. -/
theorem ParseYields.scan {parser : Scope → Scan Kind α} {value : α} {rest : Tokens}
    (h : Yields (parser start.scope) start.scanner value rest) :
    ParseYields (Parse.scan parser) start value rest start.scope := by
  obtain ⟨scanner, hvalue, hahead, hpasses⟩ := h
  exact ⟨scanner, scan_ok_iff.2 ⟨hvalue, rfl⟩, hahead, hpasses⟩

/-- What is yielded inside is yielded, and its declarations are forgotten. -/
theorem ParseYields.inside {parser : Parse α} {value : α} {rest : Tokens} {scope : Scope}
    (h : ParseYields parser { start with scope := start.scope.child } value rest scope) :
    ParseYields (Parse.inside parser) start value rest start.scope := by
  obtain ⟨scanner, hvalue, hahead, hpasses⟩ := h
  exact ⟨scanner, inside_ok_iff.2 ⟨scope, hvalue, rfl⟩, hahead, hpasses⟩

/-- A value is yielded where it is, without a step. -/
theorem ParseYields.pure {value : α} : ParseYields (Pure.pure value) start value
    start.scanner.ahead start.scope :=
  ⟨start.scanner, rfl, rfl, .refl _⟩

/-! ## Sections of declarations -/

/-- Items are derived from the tokens between two sessions; their names are new and are declared. -/
structure Declares (derives : Tokens → α → Tokens → Prop)
    (entries : α → List (String × Option Int)) (start : Session) (value : α) (final : Session) :
    Prop where
  derives : derives start.scanner.ahead value final.scanner.ahead
  fresh : start.scope.ownNames.Nodup → final.scope.ownNames.Nodup
  scope : final.scope = start.scope.declareAll (entries value)
  passes : start.scanner.Passes final.scanner

/-- The entry that the declaration of a constant makes. -/
def constantEntry (constant : String × Int) : String × Option Int := (constant.1, some constant.2)

/-- The entry that the declaration of a variable makes. -/
def variableEntry (name : String) : String × Option Int := (name, none)

/-- Declaring a constant or a variable makes its entry. -/
theorem declareSymbol_ok_iff {token : Token Kind} {value : Option Int} {done : Unit} :
    declareSymbol token value start = .ok done final ↔
      token.text ∉ start.scope.ownNames ∧
        final.scope = start.scope.declareAll [(token.text, value)] ∧
        final.scanner = start.scanner := by
  unfold declareSymbol
  rw [declare_ok_iff, Scope.declareSymbol?_eq_some_iff, and_assoc, @eq_comm _ final.scope]

/-- The name that comes next is consumed. -/
theorem declaredName_ok_iff {token : Token Kind} :
    declaredName start = .ok token final ↔
      start.scanner.Takes token final.scanner ∧ token.kind = .identifier ∧
        final.scope = start.scope := by
  unfold declaredName
  rw [scan_ok_iff, Rule.bind_ok_iff, ← and_assoc]
  refine and_congr_left fun _ => ?_
  constructor
  · rintro ⟨first, _, hcurrent, h⟩
    obtain ⟨hupcoming, rfl⟩ := current_ok_iff.1 hcurrent
    obtain ⟨_, hname, rfl⟩ := Rule.map_ok_iff.1 h
    obtain ⟨name, htakes, hkind, -⟩ := consumeKind_ok_iff.1 hname
    rw [look_takes_iff] at htakes
    cases hupcoming.symm.trans htakes.upcoming_eq
    exact ⟨htakes, hkind⟩
  · rintro ⟨htakes, hkind⟩
    refine ⟨token, _, current_ok_iff.2 ⟨htakes.upcoming_eq, rfl⟩, Rule.map_ok_iff.2 ?_⟩
    exact ⟨token.text, consumeKind_ok_iff.2 ⟨token, look_takes_iff.2 htakes, hkind, rfl⟩, rfl⟩

/-- A new name may be added to different ones. -/
theorem Scope.declareAll_nodup {scope : Scope} {entry : String × Option Int}
    (hnew : entry.1 ∉ scope.ownNames) (h : scope.ownNames.Nodup) :
    (scope.declareAll [entry]).ownNames.Nodup := by
  rw [declareAll_ownNames, List.nodup_append]
  refine ⟨h, by simp, fun name hname other hother heq => hnew ?_⟩
  cases List.mem_singleton.1 hother
  exact heq ▸ hname

/-- Where names are declared without a repetition, the first of them is new. -/
theorem Scope.not_mem_of_declareAll_nodup {scope : Scope} {entry : String × Option Int}
    {others : List (String × Option Int)}
    (h : (scope.declareAll (entry :: others)).ownNames.Nodup) : entry.1 ∉ scope.ownNames := by
  rw [declareAll_ownNames, List.nodup_append] at h
  exact fun hmem => h.2.2 _ hmem _ (by simp) rfl

/-- What the declaration of a constant is parsed to is derived and declared. -/
theorem constantDeclaration_declares {constant : String × Int}
    (h : constantDeclaration start = .ok constant final) :
    Declares ConstantDerives (fun constant => [constantEntry constant]) start constant final := by
  unfold constantDeclaration at h
  obtain ⟨token, first, hname, h⟩ := Rule.bind_ok_iff.1 h
  obtain ⟨value, second, hvalue, h⟩ := Rule.bind_ok_iff.1 h
  obtain ⟨_, third, hdeclare, h⟩ := Rule.bind_ok_iff.1 h
  cases h
  obtain ⟨htakes, hkind, hscope⟩ := declaredName_ok_iff.1 hname
  obtain ⟨hvalue, hscope'⟩ := scan_ok_iff.1 hvalue
  obtain ⟨_, later, hbinds, hnumber⟩ := Rule.bind_ok_iff.1 hvalue
  obtain ⟨digits, hdigits, rfl⟩ := Rule.map_ok_iff.1 hnumber
  obtain ⟨-, binds, htakes', htext⟩ := consumeText_ok_iff.1 hbinds
  obtain ⟨number, htakes'', hnumberKind, rfl⟩ := consumeKind_ok_iff.1 hdigits
  obtain ⟨hnew, hscope'', hscanner⟩ := declareSymbol_ok_iff.1 hdeclare
  rw [hscope', hscope] at hnew hscope''
  refine ⟨?_, fun h => ?_, hscope'', ?_⟩
  · rw [htakes.ahead_eq, htakes'.ahead_eq, htakes''.ahead_eq, hscanner]
    exact .intro hkind htext hnumberKind
  · rw [hscope'']
    exact Scope.declareAll_nodup hnew h
  · rw [hscanner]
    exact (htakes.passes.trans htakes'.passes).trans htakes''.passes

/-- What the declaration of a variable is parsed to is derived and declared. -/
theorem variableDeclaration_declares {name : String}
    (h : variableDeclaration start = .ok name final) :
    Declares VariableDerives (fun name => [variableEntry name]) start name final := by
  unfold variableDeclaration at h
  obtain ⟨token, first, hname, h⟩ := Rule.bind_ok_iff.1 h
  obtain ⟨_, second, hdeclare, h⟩ := Rule.bind_ok_iff.1 h
  cases h
  obtain ⟨htakes, hkind, hscope⟩ := declaredName_ok_iff.1 hname
  obtain ⟨hnew, hscope', hscanner⟩ := declareSymbol_ok_iff.1 hdeclare
  rw [hscope] at hnew hscope'
  refine ⟨?_, fun h => ?_, hscope', ?_⟩
  · rw [htakes.ahead_eq, hscanner]
    exact .intro hkind
  · rw [hscope']
    exact Scope.declareAll_nodup hnew h
  · rw [hscanner]
    exact htakes.passes

section

variable {derives : Tokens → α → Tokens → Prop} {entry : α → String × Option Int}
  {item : Parse α} {values : List α} {keyword : String}

/-- The question whether a comma follows. -/
def comma : Parse Bool := scan fun _ => tryConsume ","

/-- Items with commas are one, and what is collected as long as a comma follows. -/
theorem commaSeparated_ok_iff :
    commaSeparated item start = .ok values final ↔
      ∃ first others middle last, item start = .ok first middle ∧
        Rule.Collects comma item middle others last ∧ comma last = .ok false final ∧
        first :: others = values :=
  Rule.first_collect_iff

/-- What is collected after an item is derived and declared. -/
theorem collects_declares
    (hitem : ∀ state value after, item state = .ok value after →
      Declares derives (fun value => [entry value]) state value after)
    {middle last : Session} {others : List α} (h : Rule.Collects comma item middle others last) :
    ∀ {start : Session} {first : α},
      Declares derives (fun value => [entry value]) start first middle →
      Declares (Separated "," derives) (List.map entry) start (first :: others) last := by
  induction h with
  | done =>
      intro start first hfirst
      exact ⟨.one hfirst.derives, hfirst.fresh, hfirst.scope, hfirst.passes⟩
  | round hmore hvalue _ _ ih =>
      intro start first hfirst
      obtain ⟨htry, hscope⟩ := scan_ok_iff.1 hmore
      obtain ⟨between, htakes, htext⟩ := tryConsume_true_iff.1 htry
      have hothers := ih (hitem _ _ _ hvalue)
      refine ⟨?_, fun h => ?_, ?_, (hfirst.passes.trans htakes.passes).trans hothers.passes⟩
      · exact .more (htakes.ahead_eq ▸ hfirst.derives) htext hothers.derives
      · exact hothers.fresh (hscope ▸ hfirst.fresh h)
      · rw [hothers.scope, hscope, hfirst.scope, Scope.declareAll_declareAll]
        rfl

/-- What items with commas are parsed to is derived and declared. -/
theorem commaSeparated_declares
    (hitem : ∀ state value after, item state = .ok value after →
      Declares derives (fun value => [entry value]) state value after)
    (h : commaSeparated item start = .ok values final) :
    Declares (Separated "," derives) (List.map entry) start values final := by
  obtain ⟨first, others, middle, last, hfirst, hcollects, hlast, rfl⟩ :=
    commaSeparated_ok_iff.1 h
  have hdeclares := collects_declares hitem hcollects (hitem _ _ _ hfirst)
  obtain ⟨htry, hscope⟩ := scan_ok_iff.1 hlast
  obtain ⟨token, -, -, hscanner⟩ := tryConsume_false_iff.1 htry
  refine ⟨?_, fun h => ?_, hscope.trans hdeclares.scope, ?_⟩
  · rw [hscanner, look_ahead]
    exact hdeclares.derives
  · rw [hscope]
    exact hdeclares.fresh h
  · rw [hscanner]
    exact hdeclares.passes.trans (.look _)

/-- What a section is parsed to is derived and declared. -/
theorem declarationSection_declares
    (hitem : ∀ state value after, item state = .ok value after →
      Declares derives (fun value => [entry value]) state value after)
    (h : declarationSection keyword item start = .ok values final) :
    Declares (Section keyword derives) (List.map entry) start values final := by
  unfold declarationSection at h
  obtain ⟨found, middle, hfound, h⟩ := Rule.bind_ok_iff.1 h
  obtain ⟨htry, hscope⟩ := scan_ok_iff.1 hfound
  cases found with
  | false =>
      obtain ⟨token, -, -, hscanner⟩ := tryConsume_false_iff.1 htry
      cases h
      refine ⟨?_, fun h => hscope.symm ▸ h, ?_, ?_⟩
      · rw [hscanner, look_ahead]
        exact .absent
      · rw [hscope, List.map_nil, Scope.declareAll_nil]
      · rw [hscanner]
        exact .look _
  | true =>
      obtain ⟨opening, htakes, htext⟩ := tryConsume_true_iff.1 htry
      obtain ⟨items, last, hitems, h⟩ := Rule.bind_ok_iff.1 h
      obtain ⟨_, hclosing, rfl⟩ := Rule.map_ok_iff.1 h
      obtain ⟨hclosing, hscope'⟩ := scan_ok_iff.1 hclosing
      obtain ⟨-, closing, hlast, hclosingText⟩ := consumeText_ok_iff.1 hclosing
      have hdeclares := commaSeparated_declares hitem hitems
      refine ⟨?_, fun h => ?_, ?_, (htakes.passes.trans hdeclares.passes).trans hlast.passes⟩
      · rw [htakes.ahead_eq]
        exact .present htext (hlast.ahead_eq ▸ hdeclares.derives) hclosingText
      · rw [hscope']
        exact hdeclares.fresh (hscope ▸ h)
      · rw [hscope', hdeclares.scope, hscope]

/-! ## Sections that are derived -/

/-- The parser of items yields an item whose name is new, and declares it. -/
def YieldsDeclared (item : Parse α) (derives : Tokens → α → Tokens → Prop)
    (entry : α → String × Option Int) : Prop :=
  ∀ (state : Session) value rest, Ready state.scanner → derives state.scanner.ahead value rest →
    (entry value).1 ∉ state.scope.ownNames →
    ParseYields item state value rest (state.scope.declareAll [entry value])

/-- What is derived as items with commas is yielded and declared, if the names are new. -/
theorem commaSeparated_yields {next : Token Kind} {rest : Tokens} (hready : Ready start.scanner)
    (hitem : YieldsDeclared item derives entry) (hnext : next.text ≠ ",")
    (h : Separated "," derives start.scanner.ahead values (next :: rest))
    (hfresh : (start.scope.declareAll (values.map entry)).ownNames.Nodup) :
    ParseYields (commaSeparated item) start values (next :: rest)
      (start.scope.declareAll (values.map entry)) := by
  -- The scope grows by one entry for each item that is collected.
  have hcollects : ∃ first others middle last, item start = .ok first middle ∧
      Rule.Collects comma item middle others last ∧ first :: others = values ∧
      last.scanner.ahead = next :: rest ∧
      last.scope = start.scope.declareAll (values.map entry) ∧
      start.scanner.Passes middle.scanner ∧ middle.scanner.Passes last.scanner := by
    generalize hfirst : start.scanner.ahead = tokens at h
    generalize hleft : next :: rest = left at h
    induction h generalizing start with
    | @one _ value _ hvalue =>
        subst hfirst hleft
        obtain ⟨scanner, hmiddle, hahead, hpasses⟩ :=
          hitem start value _ hready hvalue (Scope.not_mem_of_declareAll_nodup hfresh)
        exact ⟨value, [], _, _, hmiddle, .done, rfl, hahead, rfl, hpasses, .refl _⟩
    | @more _ value between second values _ hvalue hbetween _ ih =>
        subst hfirst
        obtain ⟨scanner, hmiddle, hahead, hpasses⟩ :=
          hitem start value _ hready hvalue (Scope.not_mem_of_declareAll_nodup hfresh)
        have htakes := (hready.passes hpasses).takes_terminal hahead (by rw [hbetween]; decide)
        let scope := start.scope.declareAll [entry value]
        have hmore : comma ⟨scanner, scope⟩ = .ok true ⟨scanner.advance, scope⟩ :=
          scan_ok_iff.2 ⟨tryConsume_true_iff.2 ⟨between, htakes, hbetween⟩, rfl⟩
        obtain ⟨first, others, later, last, hfirst, hcollects, rfl, hlast, hscope, hlater,
          hpasses'⟩ := @ih ⟨scanner.advance, scope⟩ ((hready.passes hpasses).passes htakes.passes)
            (by simpa [scope] using hfresh) (by simp [hahead]) hleft
        refine ⟨value, _, _, last, hmiddle, .round hmore hfirst ?_ hcollects, rfl, hlast, ?_,
          hpasses, (htakes.passes.trans hlater).trans hpasses'⟩
        · have hlength := hlater.suffix.length_le
          have hleft := htakes.left_lt
          rw [left_eq_length, left_eq_length] at hleft
          show later.scanner.remaining < scanner.remaining
          rw [remaining_eq_length, remaining_eq_length]
          exact Nat.lt_of_le_of_lt hlength hleft
        · rw [hscope, Scope.declareAll_declareAll]
          rfl
  obtain ⟨first, others, middle, last, hfirst, hcollects, rfl, hlast, hscope, hpasses, hpasses'⟩ :=
    hcollects
  refine ⟨last.scanner.look, commaSeparated_ok_iff.2 ⟨first, others, middle, last, hfirst,
    hcollects, ?_, rfl⟩, by rw [look_ahead, hlast], (hpasses.trans hpasses').trans (.look _)⟩
  exact scan_ok_iff.2 ⟨tryConsume_false_iff.2 ⟨next, upcoming_of_ahead hlast, hnext, rfl⟩,
    hscope.symm⟩

/-- What is derived as a section is yielded and declared, if the names are new. -/
theorem declarationSection_yields {next : Token Kind} {rest : Tokens} (hready : Ready start.scanner)
    (hkeyword : keyword ∈ terminals) (hitem : YieldsDeclared item derives entry)
    (hnext : next.text ≠ keyword)
    (h : Section keyword derives start.scanner.ahead values (next :: rest))
    (hfresh : (start.scope.declareAll (values.map entry)).ownNames.Nodup) :
    ParseYields (declarationSection keyword item) start values (next :: rest)
      (start.scope.declareAll (values.map entry)) := by
  unfold declarationSection
  generalize hfirst : start.scanner.ahead = first at h
  cases h with
  | absent =>
      refine (ParseYields.scan (tryConsume_yields_false hfirst hnext)).bind hready
        fun later _ hlater => ?_
      rw [List.map_nil, Scope.declareAll_nil, ← hlater]
      exact ParseYields.pure
  | @present opening second _ closing _ htext hitems hclosing =>
      refine (ParseYields.scan (tryConsume_yields_true hready hfirst htext hkeyword)).bind hready
        fun later hready hlater => ?_
      subst hlater
      have hyields : ParseYields (commaSeparated item) ⟨later, start.scope⟩ values
          (closing :: next :: rest) (start.scope.declareAll (values.map entry)) :=
        commaSeparated_yields hready hitem (by rw [hclosing]; decide) hitems hfresh
      refine hyields.bind hready fun later hready hlater => ?_
      refine (ParseYields.scan (consumeText_yields hready hlater hclosing (by decide))).bind hready
        fun later _ hlater => ?_
      rw [← hlater]
      exact ParseYields.pure

end

/-- The name that comes next is yielded. -/
theorem declaredName_yields {token : Token Kind} {rest : Tokens} (hready : Ready start.scanner)
    (hahead : start.scanner.ahead = token :: rest) (hkind : token.kind = .identifier) :
    ParseYields declaredName start token rest start.scope := by
  have htakes := hready.takes_kind hahead (by rw [hkind]; decide)
  exact ⟨start.scanner.advance, declaredName_ok_iff.2 ⟨htakes, hkind, rfl⟩, by simp [hahead],
    htakes.passes⟩

/-- A new name is declared, and nothing is consumed. -/
theorem declareSymbol_yields {token : Token Kind} {value : Option Int} {rest : Tokens}
    {scanner : Scanner Kind} {scope : Scope} (hahead : scanner.ahead = rest)
    (hnew : token.text ∉ scope.ownNames) :
    ParseYields (declareSymbol token value) ⟨scanner, scope⟩ () rest
      (scope.declareAll [(token.text, value)]) :=
  ⟨scanner, declareSymbol_ok_iff.2 ⟨hnew, rfl, rfl⟩, hahead, .refl _⟩

/-- The declaration of a constant is yielded. -/
theorem constantDeclaration_yields :
    YieldsDeclared constantDeclaration ConstantDerives constantEntry := by
  intro start constant rest hready h hnew
  unfold constantDeclaration
  generalize hfirst : start.scanner.ahead = first at h
  cases h with
  | @intro name binds value _ hkind htext hvalue =>
      refine (declaredName_yields hready hfirst hkind).bind hready fun later hready hlater => ?_
      have hnumber : Yields (do
          let _ ← consumeText "="
          return numberValue (← consumeKind .number)) later (numberValue value.text) rest := by
        refine (consumeText_yields hready hlater htext (by decide)).bind hready
          fun later hready hlater => ?_
        exact (consumeKind_yields hready hlater hvalue (by decide)).map rfl
      refine (ParseYields.scan hnumber).bind hready fun later hready hlater => ?_
      refine (declareSymbol_yields hlater hnew).bind hready fun later _ hlater => ?_
      rw [← hlater]
      exact ParseYields.pure

/-- The declaration of a variable is yielded. -/
theorem variableDeclaration_yields :
    YieldsDeclared variableDeclaration VariableDerives variableEntry := by
  intro start name rest hready h hnew
  unfold variableDeclaration
  generalize hfirst : start.scanner.ahead = first at h
  cases h with
  | @intro token _ hkind =>
      refine (declaredName_yields hready hfirst hkind).bind hready fun later hready hlater => ?_
      refine (declareSymbol_yields hlater hnew).bind hready fun later _ hlater => ?_
      rw [← hlater]
      exact ParseYields.pure

end Parlance.Pl0
