import Parlance.Precedence.Parser
import Parlance.Proofs.Precedence.Table

/-!
# The order of operators does not matter

Operators are given as a list, and several symbols may be given at once. What the parser makes of
them depends on neither: `define_eq_ok_iff` says which operators can be given together and what the
tables then hold, and `define_regrouped` that the same symbols, with the same precedences and
actions, make a parser that does the same, in whatever order and however grouped they are given.
-/

namespace Parlance.Precedence

variable {γ κ ρ : Type}

/-! ## Which operators can be given together -/

namespace Operator

/-- The rows of an operator that stands before its operand, one for each symbol. -/
def beforeRows (operator : Operator γ κ ρ) : List (String × Row (Unary γ κ ρ)) :=
  operator.beforeRow?.toList.flatMap fun row => operator.symbols.map (·, row)

/-- The rows of an operator that follows its first operand, one for each symbol. -/
def tailRows (operator : Operator γ κ ρ) : List (String × Row (Tail γ κ ρ)) :=
  operator.tailRow?.toList.flatMap fun row => operator.symbols.map (·, row)

end Operator

/-- Does the action belong to an operator that stands before its operand? -/
def Action.isBefore : Action γ κ ρ → Bool
  | .before _ => true
  | _ => false

/-- The symbols of the operators that stand before their operand. -/
def beforeSymbols (operators : List (Operator γ κ ρ)) : List String :=
  (operators.filter (·.action.isBefore)).flatMap (·.symbols)

/-- The symbols of the operators that follow an operand. -/
def tailSymbols (operators : List (Operator γ κ ρ)) : List String :=
  (operators.filter (!·.action.isBefore)).flatMap (·.symbols)

/-- The symbols of a table. -/
def keys {α : Type} (table : List (String × Row α)) : List String := table.map Prod.fst

@[simp] theorem keys_append {α : Type} (table other : List (String × Row α)) :
    keys (table ++ other) = keys table ++ keys other := List.map_append

/-- A symbol that is not found is none of the table's. -/
theorem lookup_eq_none_iff {α : Type} {table : List (String × Row α)} {symbol : String} :
    table.lookup symbol = none ↔ symbol ∉ keys table := by
  rw [List.lookup_eq_none_iff, keys, List.mem_map]
  constructor
  · rintro h ⟨entry, hentry, rfl⟩
    simpa using h entry hentry
  · intro h entry hentry
    have hne : symbol ≠ entry.1 := fun heq => h ⟨entry, hentry, heq.symm⟩
    simpa using hne

/-- Rows can be added if no symbol then stands twice in the table; they are added at its end. -/
theorem addRows_eq_ok_iff {α : Type} {row : Row α} {table added : List (String × Row α)}
    {symbols : List String} (htable : (keys table).Nodup) :
    addRows row table symbols = .ok added ↔
      (keys (table ++ symbols.map (·, row))).Nodup ∧ added = table ++ symbols.map (·, row) := by
  induction symbols generalizing table with
  | nil => simp [addRows, htable, eq_comm]
  | cons symbol rest ih =>
      have hkeys : keys (table ++ [(symbol, row)]) = keys table ++ [symbol] := keys_append ..
      have hrest : table ++ (symbol :: rest).map (·, row) =
          table ++ [(symbol, row)] ++ rest.map (·, row) := by simp
      rw [hrest]
      cases hlookup : table.lookup symbol with
      | some existing =>
          have hmem : symbol ∈ keys table := Classical.not_not.1 fun hnot => by
            rw [lookup_eq_none_iff.2 hnot] at hlookup
            cases hlookup
          have hshared : ¬ (keys (table ++ [(symbol, row)] ++ rest.map (·, row))).Nodup := by
            rw [keys_append, List.nodup_append, hkeys, List.nodup_append]
            exact fun hnodup => hnodup.1.2.2 symbol hmem symbol (List.mem_singleton_self _) rfl
          simp only [addRows, hlookup, hshared]
          simp
      | none =>
          have hnew : (keys (table ++ [(symbol, row)])).Nodup := by
            rw [hkeys, List.nodup_append]
            refine ⟨htable, by simp, fun key hkey other hother heq => ?_⟩
            exact lookup_eq_none_iff.1 hlookup (List.mem_singleton.1 hother ▸ heq ▸ hkey)
          simp only [addRows, hlookup]
          exact ih hnew

/-- The symbols of an operator stand in the table that it belongs to, and not in the other one. -/
theorem Operator.keys_rows (operator : Operator γ κ ρ) :
    keys operator.beforeRows = (if operator.action.isBefore then operator.symbols else []) ∧
      keys operator.tailRows = if !operator.action.isBefore then operator.symbols else [] := by
  unfold Operator.beforeRows Operator.tailRows Operator.beforeRow? Operator.tailRow?
  cases operator.action <;> simp [keys, Action.isBefore, Function.comp_def]

namespace Grammar

variable {grammar added : Grammar γ κ ρ} {primary : Primary γ κ ρ}

/-- In neither table a symbol stands twice. -/
structure Distinct (grammar : Grammar γ κ ρ) : Prop where
  before : (keys grammar.before).Nodup
  tail : (keys grammar.tail).Nodup

/-- The grammar with the rows of these operators at the ends of its tables. -/
def extended (grammar : Grammar γ κ ρ) (operators : List (Operator γ κ ρ)) : Grammar γ κ ρ where
  before := grammar.before ++ operators.flatMap Operator.beforeRows
  tail := grammar.tail ++ operators.flatMap Operator.tailRows
  primary := grammar.primary

/-- The rows of an operator that stands before its operand are added to the first table. -/
theorem add_of_beforeRow (grammar : Grammar γ κ ρ) {operator : Operator γ κ ρ}
    {row : Row (Unary γ κ ρ)} (h : operator.beforeRow? = some row) :
    operator.tailRow? = none ∧ grammar.add operator =
      addRows row grammar.before operator.symbols >>= fun table =>
        .ok { grammar with before := table } := by
  unfold Operator.beforeRow? at h
  split at h <;> cases h
  rename_i haction
  unfold add Operator.tailRow?
  rw [haction]
  exact ⟨rfl, rfl⟩

/-- The rows of another operator are added to the second table. -/
theorem add_of_not_beforeRow (grammar : Grammar γ κ ρ) {operator : Operator γ κ ρ}
    (h : operator.beforeRow? = none) :
    ∃ row, operator.tailRow? = some row ∧ grammar.add operator =
      addRows row grammar.tail operator.symbols >>= fun table =>
        .ok { grammar with tail := table } := by
  unfold Operator.beforeRow? at h
  unfold add Operator.tailRow?
  cases haction : operator.action with
  | before combine => simp [haction] at h
  | between right combine => exact ⟨_, rfl, rfl⟩
  | after combine => exact ⟨_, rfl, rfl⟩

/-- Tables without a symbol twice have none twice in what they begin with. -/
theorem Distinct.of_extended {operators : List (Operator γ κ ρ)}
    (h : (grammar.extended operators).Distinct) : grammar.Distinct where
  before := h.before.sublist ((List.sublist_append_left ..).map _)
  tail := h.tail.sublist ((List.sublist_append_left ..).map _)

/-- An operator can be added if no symbol then stands twice in a table. -/
theorem add_eq_ok_iff {operator : Operator γ κ ρ} (h : grammar.Distinct) :
    grammar.add operator = .ok added ↔
      (grammar.extended [operator]).Distinct ∧ added = grammar.extended [operator] := by
  cases hbefore : operator.beforeRow? with
  | some row =>
      obtain ⟨hnone, hadd⟩ := add_of_beforeRow grammar hbefore
      have hextended : grammar.extended [operator] =
          { grammar with before := grammar.before ++ operator.symbols.map (·, row) } := by
        simp [extended, Operator.beforeRows, Operator.tailRows, hbefore, hnone]
      rw [hadd, bind_eq_ok_iff, hextended]
      constructor
      · rintro ⟨table, htable, hadded⟩
        obtain ⟨hnodup, rfl⟩ := (addRows_eq_ok_iff h.before).1 htable
        cases hadded
        exact ⟨⟨hnodup, h.tail⟩, rfl⟩
      · rintro ⟨hdistinct, rfl⟩
        exact ⟨_, (addRows_eq_ok_iff h.before).2 ⟨hdistinct.before, rfl⟩, rfl⟩
  | none =>
      obtain ⟨row, hrow, hadd⟩ := add_of_not_beforeRow grammar hbefore
      have hextended : grammar.extended [operator] =
          { grammar with tail := grammar.tail ++ operator.symbols.map (·, row) } := by
        simp [extended, Operator.beforeRows, Operator.tailRows, hbefore, hrow]
      rw [hadd, bind_eq_ok_iff, hextended]
      constructor
      · rintro ⟨table, htable, hadded⟩
        obtain ⟨hnodup, rfl⟩ := (addRows_eq_ok_iff h.tail).1 htable
        cases hadded
        exact ⟨⟨h.before, hnodup⟩, rfl⟩
      · rintro ⟨hdistinct, rfl⟩
        exact ⟨_, (addRows_eq_ok_iff h.tail).2 ⟨hdistinct.tail, rfl⟩, rfl⟩

/-- Operators can be added if no symbol then stands twice in a table. -/
theorem addEntries_eq_ok_iff {operators : List (Operator γ κ ρ)} (h : grammar.Distinct) :
    grammar.addEntries (operators.map .placed) = .ok added ↔
      (grammar.extended operators).Distinct ∧ added = grammar.extended operators := by
  induction operators generalizing grammar with
  | nil => simp [addEntries, extended, h, eq_comm]
  | cons operator rest ih =>
      have hextended : (grammar.extended [operator]).extended rest =
          grammar.extended (operator :: rest) := by simp [extended]
      rw [List.map_cons, addEntries, bind_eq_ok_iff, ← hextended]
      constructor
      · rintro ⟨middle, hmiddle, hrest⟩
        obtain ⟨hdistinct, rfl⟩ := (add_eq_ok_iff h).1 hmiddle
        exact (ih hdistinct).1 hrest
      · rintro ⟨hdistinct, rfl⟩
        have hmiddle : (grammar.extended [operator]).Distinct := hdistinct.of_extended
        exact ⟨_, (add_eq_ok_iff h).2 ⟨hmiddle, rfl⟩, (ih hmiddle).2 ⟨hdistinct, rfl⟩⟩

/-- The symbols of the first table are those of the operators that belong there. -/
theorem keys_beforeRows (operators : List (Operator γ κ ρ)) :
    keys (operators.flatMap Operator.beforeRows) = beforeSymbols operators := by
  induction operators with
  | nil => rfl
  | cons operator rest ih =>
      rw [List.flatMap_cons, keys_append, ih, operator.keys_rows.1, beforeSymbols, beforeSymbols,
        List.filter_cons]
      split <;> simp_all

/-- The symbols of the second table are those of the operators that belong there. -/
theorem keys_tailRows (operators : List (Operator γ κ ρ)) :
    keys (operators.flatMap Operator.tailRows) = tailSymbols operators := by
  induction operators with
  | nil => rfl
  | cons operator rest ih =>
      rw [List.flatMap_cons, keys_append, ih, operator.keys_rows.2, tailSymbols, tailSymbols,
        List.filter_cons]
      split <;> simp_all

/-- Operators make a grammar if no symbol stands twice among those before an operand, nor among the
others. The tables then hold the operators' rows, in the order in which they are given. -/
theorem define_eq_ok_iff {operators : List (Operator γ κ ρ)} :
    define (operators.map .placed) primary = .ok grammar ↔
      ((beforeSymbols operators).Nodup ∧ (tailSymbols operators).Nodup) ∧
        grammar = ⟨operators.flatMap Operator.beforeRows, operators.flatMap Operator.tailRows,
          primary⟩ := by
  have hempty : ({ primary } : Grammar γ κ ρ).Distinct := ⟨List.nodup_nil, List.nodup_nil⟩
  rw [define, addEntries_eq_ok_iff hempty, ← keys_beforeRows, ← keys_tailRows]
  exact and_congr_left' ⟨fun h => ⟨h.before, h.tail⟩, fun h => ⟨h.1, h.2⟩⟩

end Grammar

/-! ## Regrouping -/

/-- The symbols of operators one by one, each with the precedence and the action of its operator. -/
def declarations (operators : List (Operator γ κ ρ)) : List (String × Int × Action γ κ ρ) :=
  operators.flatMap fun operator =>
    operator.symbols.map fun symbol => (symbol, operator.precedence, operator.action)

/-- The same operators, given in another order or with their symbols grouped in another way. -/
inductive Regrouped : List (Operator γ κ ρ) → List (Operator γ κ ρ) → Prop where
  | reorder {operators others} : operators.Perm others → Regrouped operators others
  | split (before after) (operator : Operator γ κ ρ) (parts : List (List String)) :
      parts.flatten.Perm operator.symbols →
      Regrouped (before ++ operator :: after)
        (before ++ parts.map (fun symbols => { operator with symbols }) ++ after)
  | merge (before after) (operator : Operator γ κ ρ) (parts : List (List String)) :
      parts.flatten.Perm operator.symbols →
      Regrouped (before ++ parts.map (fun symbols => { operator with symbols }) ++ after)
        (before ++ operator :: after)
  | trans {operators between others} : Regrouped operators between → Regrouped between others →
      Regrouped operators others

variable {operators others : List (Operator γ κ ρ)}

@[simp] theorem declarations_append (operators others : List (Operator γ κ ρ)) :
    declarations (operators ++ others) = declarations operators ++ declarations others :=
  List.flatMap_append

/-- The parts of an operator say what the operator says. -/
theorem declarations_parts {operator : Operator γ κ ρ} {parts : List (List String)}
    (h : parts.flatten.Perm operator.symbols) :
    (declarations (parts.map fun symbols => { operator with symbols })).Perm
      (declarations [operator]) := by
  have hparts : declarations (parts.map fun symbols => { operator with symbols }) =
      parts.flatten.map fun symbol => (symbol, operator.precedence, operator.action) := by
    rw [declarations, List.flatMap_map, List.map_flatten, List.flatMap]
  rw [hparts, declarations, List.flatMap_singleton]
  exact h.map _

/-- Regrouped operators say the same of the same symbols, in another order. -/
theorem Regrouped.declarations_perm (h : Regrouped operators others) :
    (declarations operators).Perm (declarations others) := by
  have hparts (before after) {operator : Operator γ κ ρ} {parts : List (List String)}
      (h : parts.flatten.Perm operator.symbols) :
      (declarations (before ++ parts.map (fun symbols => { operator with symbols }) ++ after)).Perm
        (declarations (before ++ operator :: after)) := by
    rw [List.append_cons]
    simp only [declarations_append]
    exact ((declarations_parts h).append_left _).append_right _
  induction h with
  | reorder hperm => exact hperm.flatMap_right _
  | split before after operator parts hsymbols => exact (hparts before after hsymbols).symm
  | merge before after operator parts hsymbols => exact hparts before after hsymbols
  | trans _ _ ihFirst ihSecond => exact ihFirst.trans ihSecond

/-- The symbols of operators of some kinds are those that actions of these kinds are given for. -/
theorem flatMap_symbols_eq (keep : Action γ κ ρ → Bool) (operators : List (Operator γ κ ρ)) :
    (operators.filter (keep ·.action)).flatMap (·.symbols) =
      ((declarations operators).filter (keep ·.2.2)).map Prod.fst := by
  induction operators with
  | nil => rfl
  | cons operator rest ih =>
      rw [List.filter_cons, declarations, List.flatMap_cons, ← declarations, List.filter_append,
        List.map_append, ← ih]
      cases hkeep : keep operator.action <;>
        simp [hkeep, List.filter_map, Function.comp_def, List.filter_eq_self.2]

/-- Regrouped operators have the same symbols in each table. -/
theorem Regrouped.symbols_perm (h : Regrouped operators others) :
    (beforeSymbols operators).Perm (beforeSymbols others) ∧
      (tailSymbols operators).Perm (tailSymbols others) := by
  have hkept (keep : Action γ κ ρ → Bool) :
      ((operators.filter (keep ·.action)).flatMap (·.symbols)).Perm
        ((others.filter (keep ·.action)).flatMap (·.symbols)) := by
    rw [flatMap_symbols_eq, flatMap_symbols_eq]
    exact (h.declarations_perm.filter _).map _
  exact ⟨hkept Action.isBefore, hkept fun action => !action.isBefore⟩

/-! ## What the parser looks up -/

/-- What the parser needs of a row: the precedence and the action. -/
def Row.content {α : Type} (row : Row α) : Int × α := (row.head.precedence, row.action)

/-- The action of an operator that follows its first operand. -/
def Tail.toAction : Tail γ κ ρ → Action γ κ ρ
  | .between right combine => .between right combine
  | .after combine => .after combine

/-- A precedence and an action belong to a symbol if an operator gives them to it. -/
theorem mem_declarations_iff {symbol : String} {precedence : Int} {action : Action γ κ ρ} :
    (symbol, precedence, action) ∈ declarations operators ↔
      ∃ operator ∈ operators, symbol ∈ operator.symbols ∧ operator.precedence = precedence ∧
        operator.action = action := by
  simp only [declarations, List.mem_flatMap, List.mem_map, Prod.mk.injEq]
  constructor
  · rintro ⟨operator, hoperator, _, hsymbol, rfl, hsaid⟩
    exact ⟨operator, hoperator, hsymbol, hsaid⟩
  · rintro ⟨operator, hoperator, hsymbol, hsaid⟩
    exact ⟨operator, hoperator, symbol, hsymbol, rfl, hsaid⟩

/-- What the row of an operator says that stands before its operand. -/
theorem Operator.beforeRow?_content_iff {operator : Operator γ κ ρ} {precedence : Int}
    {combine : Unary γ κ ρ} :
    (∃ row, operator.beforeRow? = some row ∧ row.content = (precedence, combine)) ↔
      operator.precedence = precedence ∧ operator.action = .before combine := by
  unfold Operator.beforeRow?
  cases operator.action <;> simp [Row.content, Operator.head]

/-- What the row of an operator says that follows its first operand. -/
theorem Operator.tailRow?_content_iff {operator : Operator γ κ ρ} {precedence : Int}
    {tail : Tail γ κ ρ} :
    (∃ row, operator.tailRow? = some row ∧ row.content = (precedence, tail)) ↔
      operator.precedence = precedence ∧ operator.action = tail.toAction := by
  unfold Operator.tailRow?
  cases operator.action <;> cases tail <;> simp [Row.content, Operator.head, Tail.toAction]

namespace Grammar

variable {grammar other : Grammar γ κ ρ} {primary : Primary γ κ ρ}

/-- A row of some operator with the symbol is the row that some operator with the symbol has. -/
theorem exists_row_iff {α : Type} {row? : Operator γ κ ρ → Option (Row α)} {symbol : String}
    {content : Int × α} :
    (∃ row, (∃ operator, Entry.placed operator ∈ operators.map .placed ∧
        symbol ∈ operator.symbols ∧ row? operator = some row) ∧ row.content = content) ↔
      ∃ operator ∈ operators, symbol ∈ operator.symbols ∧
        ∃ row, row? operator = some row ∧ row.content = content := by
  constructor
  · rintro ⟨row, ⟨operator, hoperator, hsymbol, hrow⟩, hcontent⟩
    exact ⟨operator, by simpa using hoperator, hsymbol, row, hrow, hcontent⟩
  · rintro ⟨operator, hoperator, hsymbol, row, hrow, hcontent⟩
    exact ⟨row, ⟨operator, List.mem_map_of_mem hoperator, hsymbol, hrow⟩, hcontent⟩

/-- In the first table the parser finds what is given for the symbol. -/
theorem before_content_iff (h : define (operators.map .placed) primary = .ok grammar)
    (symbol : String) (precedence : Int) (combine : Unary γ κ ρ) :
    (grammar.before.lookup symbol).map Row.content = some (precedence, combine) ↔
      (symbol, precedence, .before combine) ∈ declarations operators := by
  simp only [Option.map_eq_some_iff, mem_declarations_iff, define_before_lookup_iff h,
    ← Operator.beforeRow?_content_iff]
  exact exists_row_iff

/-- In the second table the parser finds what is given for the symbol. -/
theorem tail_content_iff (h : define (operators.map .placed) primary = .ok grammar)
    (symbol : String) (precedence : Int) (tail : Tail γ κ ρ) :
    (grammar.tail.lookup symbol).map Row.content = some (precedence, tail) ↔
      (symbol, precedence, tail.toAction) ∈ declarations operators := by
  simp only [Option.map_eq_some_iff, mem_declarations_iff, define_tail_lookup_iff h,
    ← Operator.tailRow?_content_iff]
  exact exists_row_iff

/-- In both grammars the parser finds the same. -/
structure Agrees (grammar other : Grammar γ κ ρ) : Prop where
  before : ∀ symbol,
    (grammar.before.lookup symbol).map Row.content = (other.before.lookup symbol).map Row.content
  tail : ∀ symbol,
    (grammar.tail.lookup symbol).map Row.content = (other.tail.lookup symbol).map Row.content
  primary : grammar.primary = other.primary

/-- Grammars of regrouped operators agree. -/
theorem agrees_of_regrouped (h : Regrouped operators others)
    (hgrammar : define (operators.map .placed) primary = .ok grammar)
    (hother : define (others.map .placed) primary = .ok other) : other.Agrees grammar where
  before symbol := Option.ext fun ⟨precedence, combine⟩ => by
    rw [before_content_iff hgrammar, before_content_iff hother, h.declarations_perm.mem_iff]
  tail symbol := Option.ext fun ⟨precedence, tail⟩ => by
    rw [tail_content_iff hgrammar, tail_content_iff hother, h.declarations_perm.mem_iff]
  primary := (define_primary hother).trans (define_primary hgrammar).symm

variable [DecidableEq κ]

/-- Operands are parsed alike where the parser finds the same. -/
theorem Agrees.operand_eq (h : grammar.Agrees other) (reparse : Reparse γ κ ρ) (context : γ) :
    grammar.operand reparse context = other.operand reparse context := by
  unfold operand
  congr 1
  funext token
  have hlookup := h.before token.text
  cases hrow : grammar.before.lookup token.text with
  | none =>
      rw [hrow, Option.map_none, eq_comm, Option.map_eq_none_iff] at hlookup
      rw [hlookup, h.primary]
  | some row =>
      rw [hrow, Option.map_some, eq_comm, Option.map_eq_some_iff] at hlookup
      obtain ⟨found, hfound, hcontent⟩ := hlookup
      obtain ⟨hprecedence, haction⟩ := Prod.mk.inj hcontent
      rw [hfound]
      simp only [hprecedence, haction]

/-- Operators are applied alike where the parser finds the same. -/
theorem Agrees.extend_eq (h : grammar.Agrees other) (reparse : Reparse γ κ ρ) (context : γ)
    (limit : Limit) (left : ρ) :
    grammar.extend reparse context limit left = other.extend reparse context limit left := by
  unfold extend
  congr 1
  funext token
  have hlookup := h.tail token.text
  cases hrow : grammar.tail.lookup token.text with
  | none =>
      rw [hrow, Option.map_none, eq_comm, Option.map_eq_none_iff] at hlookup
      rw [hlookup]
  | some row =>
      rw [hrow, Option.map_some, eq_comm, Option.map_eq_some_iff] at hlookup
      obtain ⟨found, hfound, hcontent⟩ := hlookup
      obtain ⟨hprecedence, haction⟩ := Prod.mk.inj hcontent
      rw [hfound]
      simp only [hprecedence, haction]

/-- Expressions are parsed alike where the parser finds the same. -/
theorem Agrees.parse_eq (h : grammar.Agrees other) (context : γ) (limit : Limit) :
    grammar.parse context limit = other.parse context limit := by
  have hexpression (reparse : Reparse γ κ ρ) (context : γ) (limit : Limit) :
      grammar.expression reparse context limit = other.expression reparse context limit := by
    unfold expression
    rw [h.operand_eq, funext (h.extend_eq reparse context limit)]
  simp only [parse, hexpression]

/-- Operators make a grammar if and only if no symbol is given twice before an operand, nor twice
behind one. The tables then hold just these operators; and in whatever order they are given, and
however their symbols are grouped, they make a grammar that parses alike. -/
theorem define_regrouped (operators : List (Operator γ κ ρ)) (primary : Primary γ κ ρ) :
    ((∃ grammar, define (operators.map .placed) primary = .ok grammar) ↔
        (beforeSymbols operators).Nodup ∧ (tailSymbols operators).Nodup) ∧
      ∀ grammar, define (operators.map .placed) primary = .ok grammar →
        grammar = ⟨operators.flatMap Operator.beforeRows, operators.flatMap Operator.tailRows,
          primary⟩ ∧
        ∀ others, Regrouped operators others →
          ∃ other, define (others.map .placed) primary = .ok other ∧
            ∀ context limit scanner,
              other.parse context limit scanner = grammar.parse context limit scanner := by
  refine ⟨⟨fun ⟨grammar, h⟩ => (define_eq_ok_iff.1 h).1, fun h => ⟨_, define_eq_ok_iff.2 ⟨h, rfl⟩⟩⟩,
    fun grammar hgrammar => ⟨(define_eq_ok_iff.1 hgrammar).2, fun others hregrouped => ?_⟩⟩
  obtain ⟨hbefore, htail⟩ := (define_eq_ok_iff.1 hgrammar).1
  obtain ⟨hbefores, htails⟩ := hregrouped.symbols_perm
  have hother : define (others.map .placed) primary =
      .ok ⟨others.flatMap Operator.beforeRows, others.flatMap Operator.tailRows, primary⟩ :=
    define_eq_ok_iff.2 ⟨⟨hbefores.nodup_iff.1 hbefore, htails.nodup_iff.1 htail⟩, rfl⟩
  refine ⟨_, hother, fun context limit scanner => ?_⟩
  rw [(agrees_of_regrouped hregrouped hgrammar hother).parse_eq]

/-- Numbers as operands: each token is the number that it says, or zero. -/
def numbers : Primary Unit Char Int := fun _ _ => do
  return (← Scanner.consume).toInt?.getD 0

/-- The sum or the difference of two numbers. -/
def sum : Binary Unit Char Int := fun _ _ symbol left right =>
  return if symbol = "+" then left + right else left - right

/-- The number with the other sign. -/
def negate : Unary Unit Char Int := fun _ _ _ operand => return -operand

/-- Signs may be given one by one, and those between numbers behind the one before a number. -/
theorem define_regrouped_signs : ∃ grammar other,
    define ([⟨2, ["+", "-"], .between false sum⟩, ⟨1, ["-"], .before negate⟩].map .placed) numbers =
      .ok grammar ∧
    define ([⟨1, ["-"], .before negate⟩, ⟨2, ["-"], .between false sum⟩,
      ⟨2, ["+"], .between false sum⟩].map .placed) numbers = .ok other ∧
    ∀ context limit scanner,
      other.parse context limit scanner = grammar.parse context limit scanner := by
  obtain ⟨hdefined, halike⟩ :=
    define_regrouped [⟨2, ["+", "-"], .between false sum⟩, ⟨1, ["-"], .before negate⟩] numbers
  obtain ⟨grammar, hgrammar⟩ := hdefined.2 (by decide)
  have hregrouped : Regrouped
      [⟨2, ["+", "-"], .between false sum⟩, ⟨1, ["-"], .before negate⟩]
      [⟨1, ["-"], .before negate⟩, ⟨2, ["-"], .between false sum⟩,
        ⟨2, ["+"], .between false sum⟩] :=
    .trans (.split [] [⟨1, ["-"], .before negate⟩] ⟨2, ["+", "-"], .between false sum⟩
      [["+"], ["-"]] (.refl _)) (.reorder (List.reverse_perm _).symm)
  obtain ⟨other, hother, hparse⟩ := (halike grammar hgrammar).2 _ hregrouped
  exact ⟨grammar, other, hgrammar, hother, hparse⟩

end Grammar

end Parlance.Precedence
