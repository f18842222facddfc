import Parlance.Proofs.Precedence.Tree

/-!
# Parsing inverts reading

A parser whose actions build trees succeeds on the tokens of a canonical tree, read from left to
right, and on nothing else, and what it gives is that tree. Soundness keeps one invariant for every
round of the loop: what has been built is canonical, and no operator on its right edge would take in
what comes next. Completeness is an induction on the tree: parsing its tokens comes to the round of
the loop at which the tree has been built.
-/

namespace Parlance.Precedence

open Supply (left)

variable {γ κ : Type}

/-- The parser of operands takes one token that it accepts, and succeeds in no other way. -/
def TakesOne (primary : Primary γ κ (Tree κ)) (accepts : γ → Token κ → Prop) : Prop :=
  ∀ reparse context scanner tree after,
    primary reparse context scanner = .ok tree after ↔
      ∃ token, accepts context token ∧ tree = .operand token ∧ scanner.Takes token after

/-- No operator with this text follows an operand under one of the limits. -/
def Stops (heads : List Head) (limits : List Limit) (text : String) : Prop :=
  ∀ head ∈ heads, head.fixity.isTail = true → text ∈ head.symbols →
    ∀ limit ∈ limits, limit.admits head.precedence = false

variable {heads : List Head} {primary : Primary γ κ (Tree κ)} {accepts : γ → Token κ → Prop}
  {grammar : Grammar γ κ (Tree κ)} {reparse : Reparse γ κ (Tree κ)} {context : γ} {limit : Limit}
  {scanner final : Scanner κ} {tree result : Tree κ}

/-! ## Steps of a parser that builds trees -/

section

variable [DecidableEq κ]

/-- A round declines where the limit stops. -/
theorem extend_stops_iff
    (hdefine : Grammar.define (heads.map Head.building) primary = .ok grammar) :
    grammar.extend reparse context limit tree scanner = .ok none final ↔
      final = scanner.look ∧
        ∃ token, scanner.upcoming = .ok token ∧ Stops heads [limit] token.text := by
  rw [Grammar.extend_none_iff]
  refine and_congr_right fun _ => exists_congr fun token => and_congr_right fun _ => ?_
  constructor
  · intro h head hhead htail hsymbol inner hinner
    cases List.mem_singleton.1 hinner
    exact h ⟨head, head.tailAction⟩
      ((Head.tail_lookup_iff hdefine _ _).2 ⟨head, hhead, htail, hsymbol, rfl⟩)
  · intro h row hrow
    obtain ⟨head, hhead, htail, hsymbol, rfl⟩ := (Head.tail_lookup_iff hdefine _ _).1 hrow
    exact h head hhead htail hsymbol limit (List.mem_singleton.2 rfl)

omit [DecidableEq κ] in
/-- A symbol belongs to one operator that follows an operand. -/
theorem tail_head_unique (hdefine : Grammar.define (heads.map Head.building) primary = .ok grammar)
    {first second : Head} (hfirst : first ∈ heads) (hsecond : second ∈ heads)
    (hfirstTail : first.fixity.isTail = true) (hsecondTail : second.fixity.isTail = true)
    {symbol : String} (hfirstSymbol : symbol ∈ first.symbols)
    (hsecondSymbol : symbol ∈ second.symbols) : first = second := by
  have hfirstRow := (Head.tail_lookup_iff hdefine symbol _).2
    ⟨first, hfirst, hfirstTail, hfirstSymbol, rfl⟩
  have hsecondRow := (Head.tail_lookup_iff hdefine symbol _).2
    ⟨second, hsecond, hsecondTail, hsecondSymbol, rfl⟩
  cases hfirstRow.symm.trans hsecondRow
  rfl

/-- What a round makes of a tree by applying the operator of a token. -/
inductive Grows (heads : List Head) (reparse : Reparse γ κ (Tree κ)) (context : γ) (tree : Tree κ)
    (token : Token κ) (taken : Scanner κ) : Head → Tree κ → Scanner κ → Prop where
  | after {head} : head ∈ heads → head.fixity = .after → token.text ∈ head.symbols →
      Grows heads reparse context tree token taken head (.after head token.text tree) taken
  | between {head right final} : head ∈ heads →
      head.fixity = .between ∨ head.fixity = .betweenRight → token.text ∈ head.symbols →
      reparse context head.rightLimit taken = .ok right final →
      Grows heads reparse context tree token taken head (.between head token.text tree right) final

/-- A round that applies an operator grows the tree by it. -/
theorem extend_grows_iff
    (hdefine : Grammar.define (heads.map Head.building) primary = .ok grammar) :
    grammar.extend reparse context limit tree scanner = .ok (some result) final ↔
      ∃ token taken head, scanner.Takes token taken ∧ limit.admits head.precedence = true ∧
        Grows heads reparse context tree token taken head result final := by
  rw [Grammar.extend_some_iff]
  constructor
  · rintro ⟨token, row, taken, htakes, hrow, hadmits, haction⟩
    obtain ⟨head, hhead, htail, hsymbol, rfl⟩ := (Head.tail_lookup_iff hdefine _ _).1 hrow
    refine ⟨token, taken, head, htakes, hadmits, ?_⟩
    rcases head with ⟨fixity, precedence, symbols⟩
    cases fixity with
    | unplaced => cases htail
    | before => cases htail
    | between =>
        obtain ⟨right, middle, hright, hcombine⟩ := haction
        cases hcombine
        exact .between hhead (.inl rfl) hsymbol hright
    | betweenRight =>
        obtain ⟨right, middle, hright, hcombine⟩ := haction
        cases hcombine
        exact .between hhead (.inr rfl) hsymbol hright
    | after =>
        cases haction
        exact .after hhead rfl hsymbol
  · rintro ⟨token, taken, head, htakes, hadmits, hgrows⟩
    have hrow (hhead : head ∈ heads) (htail : head.fixity.isTail = true)
        (hsymbol : token.text ∈ head.symbols) :=
      (Head.tail_lookup_iff hdefine token.text _).2 ⟨head, hhead, htail, hsymbol, rfl⟩
    rcases head with ⟨fixity, precedence, symbols⟩
    cases hgrows with
    | after hhead hfixity hsymbol =>
        cases hfixity
        exact ⟨token, _, final, htakes, hrow hhead rfl hsymbol, hadmits, rfl⟩
    | between hhead hfixity hsymbol hright =>
        rcases hfixity with hfixity | hfixity <;> cases hfixity <;>
          exact ⟨token, _, taken, htakes, hrow hhead rfl hsymbol, hadmits, _, final, hright, rfl⟩

/-- What an operand is: a token that is accepted, or a symbol with the operand after it. -/
inductive Begins (heads : List Head) (accepts : Token κ → Prop) (reparse : Reparse γ κ (Tree κ))
    (context : γ) (token : Token κ) (taken : Scanner κ) : Tree κ → Scanner κ → Prop where
  | operand : accepts token →
      (∀ head ∈ heads, head.fixity = .before → token.text ∉ head.symbols) →
      Begins heads accepts reparse context token taken (.operand token) taken
  | before {head inner final} : head ∈ heads → head.fixity = .before →
      token.text ∈ head.symbols → reparse context head.rightLimit taken = .ok inner final →
      Begins heads accepts reparse context token taken (.before head token.text inner) final

/-- Parsing an operand takes a token that begins one. -/
theorem operand_begins_iff
    (hdefine : Grammar.define (heads.map Head.building) primary = .ok grammar)
    (hprimary : TakesOne primary accepts) :
    grammar.operand reparse context scanner = .ok tree final ↔
      ∃ token taken, scanner.Takes token taken ∧
        Begins heads (accepts context) reparse context token taken tree final := by
  rw [Grammar.operand_ok_iff]
  constructor
  · rintro ⟨token, hupcoming, h⟩
    cases hrow : grammar.before.lookup token.text with
    | none =>
        simp only [hrow, Grammar.define_primary hdefine] at h
        obtain ⟨first, haccepts, rfl, htakes⟩ := (hprimary _ _ _ _ _).1 h
        rw [Scanner.look_takes_iff] at htakes
        cases hupcoming.symm.trans htakes.upcoming_eq
        refine ⟨token, final, htakes, .operand haccepts fun head hhead hfixity hsymbol => ?_⟩
        have hfound := (Head.before_lookup_iff hdefine token.text _).2
          ⟨head, hhead, hfixity, hsymbol, rfl⟩
        rw [hrow] at hfound
        cases hfound
    | some row =>
        simp only [hrow] at h
        obtain ⟨taken, inner, middle, htakes, hinner, haction⟩ := h
        obtain ⟨head, hhead, hfixity, hsymbol, rfl⟩ := (Head.before_lookup_iff hdefine _ _).1 hrow
        cases haction
        refine ⟨token, taken, htakes, .before hhead hfixity hsymbol ?_⟩
        rwa [Head.rightLimit, hfixity]
  · rintro ⟨token, taken, htakes, hbegins⟩
    refine ⟨token, htakes.upcoming_eq, ?_⟩
    cases hbegins with
    | operand haccepts hsymbol =>
        have hrow : grammar.before.lookup token.text = none := by
          refine Option.eq_none_iff_forall_ne_some.2 fun row hrow => ?_
          obtain ⟨head, hhead, hfixity, hmem, -⟩ := (Head.before_lookup_iff hdefine _ _).1 hrow
          exact hsymbol head hhead hfixity hmem
        simp only [hrow, Grammar.define_primary hdefine]
        exact (hprimary _ _ _ _ _).2 ⟨token, haccepts, rfl, Scanner.look_takes_iff.2 htakes⟩
    | before hhead hfixity hsymbol hinner =>
        rename_i head inner
        have hrow := (Head.before_lookup_iff hdefine token.text _).2
          ⟨head, hhead, hfixity, hsymbol, rfl⟩
        simp only [hrow]
        refine ⟨taken, inner, final, htakes, ?_, rfl⟩
        rwa [Head.rightLimit, hfixity] at hinner

end

/-! ## What has been parsed is canonical -/

/-- The tree has been parsed between two scanners: it reads the tokens consumed, it respects
precedence, the limit admits the operators on its left spine, and whatever comes next belongs to no
operator on its right edge. -/
structure Parsed (heads : List Head) (accepts : Token κ → Prop) (limit : Limit)
    (start : Scanner κ) (tree : Tree κ) (final : Scanner κ) : Prop where
  reads : ∃ tokens, start.ahead = tokens ++ final.ahead ∧ tree.Reads tokens ∧
    ∀ token ∈ tokens, ¬ start.Ends token
  wellMade : tree.Over heads accepts
  canonical : tree.Canonical
  spine : ∀ head ∈ tree.leftSpine, limit.admits head.precedence = true
  sameEnd : start.SameEnd final
  edge : ∀ token, final.upcoming = .ok token → Stops heads tree.rightEdge token.text

/-- The tree has been parsed, and what comes next is left alone by the limit as well. -/
def ParsedUpTo (heads : List Head) (accepts : Token κ → Prop) (limit : Limit)
    (start : Scanner κ) (tree : Tree κ) (final : Scanner κ) : Prop :=
  Parsed heads accepts limit start tree final ∧
    ∃ token, final.upcoming = .ok token ∧ Stops heads [limit] token.text

/-- What stops at several limits stops at each. -/
theorem Stops.cons {limits : List Limit} {text : String} (hfirst : Stops heads [limit] text)
    (hrest : Stops heads limits text) : Stops heads (limit :: limits) text := by
  intro head hhead htail hsymbol inner hinner
  rcases List.mem_cons.1 hinner with rfl | hinner
  · exact hfirst head hhead htail hsymbol inner (List.mem_singleton.2 rfl)
  · exact hrest head hhead htail hsymbol inner hinner

/-- What stops at several limits stops at the first. -/
theorem Stops.head {limits : List Limit} {text : String} (h : Stops heads (limit :: limits) text) :
    Stops heads [limit] text :=
  fun head hhead htail hsymbol inner hinner =>
    h head hhead htail hsymbol inner (List.mem_singleton.1 hinner ▸ List.mem_cons_self)

/-- What stops at several limits stops at the others. -/
theorem Stops.tail {limits : List Limit} {text : String} (h : Stops heads (limit :: limits) text) :
    Stops heads limits text :=
  fun head hhead htail hsymbol inner hinner =>
    h head hhead htail hsymbol inner (List.mem_cons_of_mem _ hinner)

/-- An operand that has been parsed is a tree that has been. -/
theorem Begins.parsed {token : Token κ} {taken : Scanner κ}
    (h : Begins heads (accepts context) reparse context token taken tree final)
    (htakes : scanner.Takes token taken)
    (hreparse : ∀ limit inner after, reparse context limit taken = .ok inner after →
      ParsedUpTo heads (accepts context) limit taken inner after) :
    Parsed heads (accepts context) limit scanner tree final := by
  cases h with
  | operand haccepts hsymbol =>
      exact {
        reads := ⟨[token], htakes.ahead_eq, .operand token, by simpa using htakes.not_ends⟩
        wellMade := ⟨haccepts, hsymbol⟩
        canonical := trivial
        spine := by simp [Tree.leftSpine]
        sameEnd := htakes.sameEnd
        edge := fun next _ => by simp [Stops, Tree.rightEdge] }
  | before hhead hfixity hsymbol hinner =>
      obtain ⟨hparsed, next, hnext, hstops⟩ := hreparse _ _ _ hinner
      obtain ⟨tokens, hahead, hreads, hends⟩ := hparsed.reads
      refine {
        reads := ⟨token :: tokens, ?_, .before _ token hreads, ?_⟩
        wellMade := ⟨hhead, hfixity, hsymbol, hparsed.wellMade⟩
        canonical := ⟨hparsed.canonical, hparsed.spine⟩
        spine := by simp [Tree.leftSpine]
        sameEnd := htakes.sameEnd.trans hparsed.sameEnd
        edge := fun other hother => ?_ }
      · rw [htakes.ahead_eq, hahead, List.cons_append]
      · intro other hother
        rcases List.mem_cons.1 hother with rfl | hother
        · exact htakes.not_ends
        · exact fun h => hends other hother ((htakes.sameEnd.ends_iff other).2 h)
      · cases hnext.symm.trans hother
        exact hstops.cons (hparsed.edge next hnext)

/-- A round keeps it that the tree has been parsed. -/
theorem Grows.parsed {middle taken : Scanner κ} {token : Token κ} {head : Head}
    (h : Grows heads reparse context tree token taken head result final)
    (htakes : middle.Takes token taken) (hadmits : limit.admits head.precedence = true)
    (htree : Parsed heads (accepts context) limit scanner tree middle)
    (hreparse : ∀ limit inner after, reparse context limit taken = .ok inner after →
      ParsedUpTo heads (accepts context) limit taken inner after) :
    Parsed heads (accepts context) limit scanner result final := by
  obtain ⟨tokens, hahead, hreads, hends⟩ := htree.reads
  have htoken : ¬ scanner.Ends token := fun h =>
    htakes.not_ends ((htree.sameEnd.ends_iff token).2 h)
  have hedge := htree.edge token htakes.upcoming_eq
  cases h with
  | after hhead hfixity hsymbol =>
      refine {
        reads := ⟨tokens ++ [token], ?_, .after head token hreads, ?_⟩
        wellMade := ⟨hhead, hfixity, hsymbol, htree.wellMade⟩
        canonical := ⟨htree.canonical, hedge head hhead (by rw [hfixity]; rfl) hsymbol⟩
        spine := ?_
        sameEnd := htree.sameEnd.trans htakes.sameEnd
        edge := fun next _ => by simp [Stops, Tree.rightEdge] }
      · rw [hahead, htakes.ahead_eq, List.append_assoc, List.singleton_append]
      · intro other hother
        rcases List.mem_append.1 hother with hother | hother
        · exact hends other hother
        · exact List.mem_singleton.1 hother ▸ htoken
      · intro other hother
        rcases List.mem_cons.1 hother with rfl | hother
        · exact hadmits
        · exact htree.spine other hother
  | between hhead hfixity hsymbol hright =>
      obtain ⟨hparsed, next, hnext, hstops⟩ := hreparse _ _ _ hright
      obtain ⟨others, hothers, hreads', hends'⟩ := hparsed.reads
      have htail : head.fixity.isTail = true := by
        rcases hfixity with hfixity | hfixity <;> rw [hfixity] <;> rfl
      refine {
        reads := ⟨tokens ++ token :: others, ?_, .between head token hreads hreads', ?_⟩
        wellMade := ⟨hhead, hfixity, hsymbol, htree.wellMade, hparsed.wellMade⟩
        canonical := ⟨htree.canonical, hparsed.canonical, hparsed.spine,
          hedge head hhead htail hsymbol⟩
        spine := ?_
        sameEnd := (htree.sameEnd.trans htakes.sameEnd).trans hparsed.sameEnd
        edge := fun other hother => ?_ }
      · rw [hahead, htakes.ahead_eq, hothers, List.append_assoc, List.cons_append]
      · intro other hother
        rcases List.mem_append.1 hother with hother | hother
        · exact hends other hother
        · rcases List.mem_cons.1 hother with rfl | hother
          · exact htoken
          · exact fun h => hends' other hother
              (((htree.sameEnd.trans htakes.sameEnd).ends_iff other).2 h)
      · intro other hother
        rcases List.mem_cons.1 hother with rfl | hother
        · exact hadmits
        · exact htree.spine other hother
      · cases hnext.symm.trans hother
        exact hstops.cons (hparsed.edge next hnext)

variable [DecidableEq κ]

/-- What is parsed is canonical, and reads the tokens that were consumed. -/
theorem parse_parsed (hdefine : Grammar.define (heads.map Head.building) primary = .ok grammar)
    (hprimary : TakesOne primary accepts) {limit : Limit} {start final : Scanner κ} {tree : Tree κ}
    (h : grammar.parse context limit start = .ok tree final) :
    ParsedUpTo heads (accepts context) limit start tree final := by
  rw [Grammar.parse_eq] at h
  obtain ⟨first, middle, hoperand, hloop⟩ := Rule.bind_ok_iff.1 h
  have hinside {limit taken inner after}
      (hinner : grammar.within start context limit taken = .ok inner after) :
      ParsedUpTo heads (accepts context) limit taken inner after := by
    obtain ⟨hleft, hinner⟩ := Rule.below_ok_iff.1 hinner
    exact parse_parsed hdefine hprimary hinner
  -- The loop starts from an operand, and every round keeps what the first one has been.
  obtain ⟨token, taken, htakes, hbegins⟩ := (operand_begins_iff hdefine hprimary).1 hoperand
  have hfirst : Parsed heads (accepts context) limit start first middle :=
    hbegins.parsed htakes fun _ _ _ => hinside
  have hround tree middle grown after
      (htree : Parsed heads (accepts context) limit start tree middle)
      (hstep : grammar.extend (grammar.within start) context limit tree middle =
        .ok (some grown) after) (_ : left after < left middle) :
      Parsed heads (accepts context) limit start grown after := by
    obtain ⟨token, taken, head, htakes, hadmits, hgrows⟩ := (extend_grows_iff hdefine).1 hstep
    exact hgrows.parsed htakes hadmits htree fun _ _ _ => hinside
  obtain ⟨last, hlast, hdeclines⟩ := Rule.iterate_ok_induct _ hround hfirst hloop
  obtain ⟨rfl, next, hnext, hstops⟩ := (extend_stops_iff hdefine).1 hdeclines
  refine ⟨{ hlast with
    reads := by simpa using hlast.reads
    sameEnd := hlast.sameEnd.trans (Scanner.look_sameEnd last)
    edge := by simpa using hlast.edge }, next, by simpa using hnext, hstops⟩
termination_by start.ahead.length
decreasing_by simpa using hleft

/-! ## Canonical trees are parsed -/

/-- Parsing comes to the round of the loop at which the tree has been built and these tokens are
left. The parser for the expressions inside need only be right where fewer tokens lie ahead. -/
def Builds (grammar : Grammar γ κ (Tree κ)) (context : γ) (tree : Tree κ) (start : Scanner κ)
    (rest : List (Token κ)) : Prop :=
  ∀ (limit : Limit) (reparse : Reparse γ κ (Tree κ)),
    (∀ limit later, later.ahead.length < start.ahead.length →
      reparse context limit later = grammar.parse context limit later) →
    (∀ head ∈ tree.leftSpine, limit.admits head.precedence = true) →
    ∃ middle, middle.ahead = rest ∧ start.SameEnd middle ∧
      grammar.expression reparse context limit start =
        Rule.iterate (grammar.extend reparse context limit) tree middle

/-- Parsing ends where the limit stops. -/
theorem Builds.parse (hdefine : Grammar.define (heads.map Head.building) primary = .ok grammar)
    {start : Scanner κ} {rest : List (Token κ)} {text : String}
    (h : Builds grammar context tree start rest)
    (hspine : ∀ head ∈ tree.leftSpine, limit.admits head.precedence = true)
    (htext : start.textAt rest = some text) (hstops : Stops heads [limit] text) :
    ∃ final, final.ahead = rest ∧ start.SameEnd final ∧
      grammar.parse context limit start = .ok tree final := by
  obtain ⟨middle, rfl, hend, hexpression⟩ := h limit (grammar.within start)
    (fun limit later hlater => Grammar.within_of_lt hlater context limit) hspine
  obtain ⟨token, hupcoming, rfl⟩ := (Scanner.textAt_eq_some_iff hend).1 htext
  refine ⟨middle.look, middle.look_ahead, hend.trans middle.look_sameEnd, ?_⟩
  rw [Grammar.parse_eq, hexpression]
  exact Rule.iterate_of_none ((extend_stops_iff hdefine).2 ⟨rfl, token, hupcoming, hstops⟩)

/-- The loop goes on from a tree to what a round makes of it. -/
theorem loop_grows (hdefine : Grammar.define (heads.map Head.building) primary = .ok grammar)
    {middle taken : Scanner κ} {token : Token κ} {head : Head}
    (htakes : middle.Takes token taken) (hadmits : limit.admits head.precedence = true)
    (hgrows : Grows heads reparse context tree token taken head result final)
    (hleft : left final ≤ left taken) :
    Rule.iterate (grammar.extend reparse context limit) tree middle =
      Rule.iterate (grammar.extend reparse context limit) result final :=
  Rule.iterate_of_some
    ((extend_grows_iff hdefine).2 ⟨token, taken, head, htakes, hadmits, hgrows⟩)
    (Nat.lt_of_le_of_lt hleft htakes.left_lt)

omit [DecidableEq κ] in
/-- No operator on the right edge of a canonical tree takes in the operator that follows the tree.
-/
theorem stops_of_edge (hdefine : Grammar.define (heads.map Head.building) primary = .ok grammar)
    {limits : List Limit} {head : Head} {symbol : String} (hhead : head ∈ heads)
    (htail : head.fixity.isTail = true) (hsymbol : symbol ∈ head.symbols)
    (h : ∀ limit ∈ limits, limit.admits head.precedence = false) : Stops heads limits symbol := by
  intro other hother hotherTail hotherSymbol limit hlimit
  cases tail_head_unique hdefine hhead hother htail hotherTail hsymbol hotherSymbol
  exact h limit hlimit

/-- The tokens of a canonical tree build it, if what follows them belongs to no operator on its
right edge. -/
theorem builds_of_reads
    (hdefine : Grammar.define (heads.map Head.building) primary = .ok grammar)
    (hprimary : TakesOne primary accepts) {tree : Tree κ} {tokens : List (Token κ)}
    (hreads : tree.Reads tokens) :
    ∀ {start : Scanner κ} {rest : List (Token κ)} {text : String},
      start.ahead = tokens ++ rest → (∀ token ∈ tokens, ¬ start.Ends token) →
      tree.Over heads (accepts context) → tree.Canonical → start.textAt rest = some text →
      Stops heads tree.rightEdge text → Builds grammar context tree start rest := by
  induction hreads with
  | operand token =>
      intro start rest text hahead hends hover _ _ _ limit reparse _ _
      have htakes := Scanner.takes_advance hahead (hends token (by simp))
      refine ⟨start.advance, by simp [hahead], start.advance_sameEnd, ?_⟩
      exact Rule.bind_of_ok ((operand_begins_iff hdefine hprimary).2
        ⟨token, _, htakes, .operand hover.1 hover.2⟩) _
  | @before head symbol inner tokens hreads ih =>
      intro start rest text hahead hends hover hcanonical htext hstops limit reparse hreparse _
      obtain ⟨hhead, hfixity, hsymbol, hover⟩ := hover
      have htakes := Scanner.takes_advance hahead (hends symbol (by simp))
      have hend := start.advance_sameEnd
      have htext' : start.advance.textAt rest = some text := by rw [hend.textAt_eq, htext]
      have hinner : Builds grammar context inner start.advance rest :=
        ih (by simp [hahead])
          (fun token htoken h => hends token (by simp [htoken]) ((hend.ends_iff token).1 h))
          hover hcanonical.1 htext' hstops.tail
      obtain ⟨final, hfinal, hend', hparse⟩ :=
        hinner.parse hdefine hcanonical.2 htext' hstops.head
      refine ⟨final, hfinal, hend.trans hend', ?_⟩
      refine Rule.bind_of_ok ((operand_begins_iff hdefine hprimary).2
        ⟨symbol, _, htakes, .before hhead hfixity hsymbol ?_⟩) _
      rw [hreparse _ _ (by simp [hahead]), hparse]
  | @after head symbol inner tokens hreads ih =>
      intro start rest text hahead hends hover hcanonical htext hstops limit reparse hreparse hspine
      obtain ⟨hhead, hfixity, hsymbol, hover⟩ := hover
      have hahead' : start.ahead = tokens ++ symbol :: rest := by simp [hahead]
      obtain ⟨middle, hmiddle, hend, hexpression⟩ :=
        ih hahead' (fun token htoken => hends token (by simp [htoken])) hover hcanonical.1 rfl
          (stops_of_edge hdefine hhead (by rw [hfixity]; rfl) hsymbol hcanonical.2)
          limit reparse hreparse fun other hother => hspine other (List.mem_cons_of_mem _ hother)
      have htakes := Scanner.takes_advance hmiddle
        fun h => hends symbol (by simp) ((hend.ends_iff symbol).1 h)
      refine ⟨middle.advance, by simp [hmiddle], hend.trans middle.advance_sameEnd, ?_⟩
      rw [hexpression]
      exact loop_grows hdefine htakes (hspine head (by simp [Tree.leftSpine]))
        (.after hhead hfixity hsymbol) (Nat.le_refl _)
  | @between head symbol first second firstTokens secondTokens hfirst hsecond ihfirst ihsecond =>
      intro start rest text hahead hends hover hcanonical htext hstops limit reparse hreparse hspine
      obtain ⟨hhead, hfixity, hsymbol, hoverFirst, hoverSecond⟩ := hover
      obtain ⟨hcanonicalFirst, hcanonicalSecond, hadmits, hedge⟩ := hcanonical
      have htail : head.fixity.isTail = true := by
        rcases hfixity with hfixity | hfixity <;> rw [hfixity] <;> rfl
      have hahead' : start.ahead = firstTokens ++ symbol :: (secondTokens ++ rest) := by
        simp [hahead]
      -- The loop comes from the left operand to the operator, and the right operand is parsed
      -- up to the limit of the operator.
      obtain ⟨middle, hmiddle, hend, hexpression⟩ :=
        ihfirst hahead' (fun token htoken => hends token (by simp [htoken])) hoverFirst
          hcanonicalFirst rfl (stops_of_edge hdefine hhead htail hsymbol hedge)
          limit reparse hreparse fun other hother => hspine other (List.mem_cons_of_mem _ hother)
      have htakes := Scanner.takes_advance hmiddle
        fun h => hends symbol (by simp) ((hend.ends_iff symbol).1 h)
      have hend' := hend.trans middle.advance_sameEnd
      have htext' : middle.advance.textAt rest = some text := by rw [hend'.textAt_eq, htext]
      have hright : Builds grammar context second middle.advance rest :=
        ihsecond (by simp [hmiddle])
          (fun token htoken h => hends token (by simp [htoken]) ((hend'.ends_iff token).1 h))
          hoverSecond hcanonicalSecond htext' hstops.tail
      obtain ⟨final, hfinal, hend'', hparse⟩ := hright.parse hdefine hadmits htext' hstops.head
      refine ⟨final, hfinal, hend'.trans hend'', ?_⟩
      rw [hexpression]
      refine loop_grows hdefine htakes (hspine head (by simp [Tree.leftSpine]))
        (.between hhead hfixity hsymbol ?_) ?_
      · rw [hreparse _ _ (by simp [hahead, hmiddle]; omega), hparse]
      · simp [hfinal, hmiddle]

/-! ## The two directions together -/

/-- Parsing up to a limit succeeds exactly on the tokens of a canonical tree whose left spine the
limit admits, followed by something that neither the limit nor the right edge takes in. -/
theorem parse_ok_iff (hdefine : Grammar.define (heads.map Head.building) primary = .ok grammar)
    (hprimary : TakesOne primary accepts) {start : Scanner κ} {rest : List (Token κ)} :
    (∃ final, grammar.parse context limit start = .ok tree final ∧ final.ahead = rest) ↔
      ∃ tokens text, start.ahead = tokens ++ rest ∧ tree.Reads tokens ∧
        (∀ token ∈ tokens, ¬ start.Ends token) ∧ tree.Over heads (accepts context) ∧
        tree.Canonical ∧ (∀ head ∈ tree.leftSpine, limit.admits head.precedence = true) ∧
        start.textAt rest = some text ∧ Stops heads (limit :: tree.rightEdge) text := by
  constructor
  · rintro ⟨final, hparse, rfl⟩
    obtain ⟨hparsed, next, hnext, hstops⟩ := parse_parsed hdefine hprimary hparse
    obtain ⟨tokens, hahead, hreads, hends⟩ := hparsed.reads
    exact ⟨tokens, next.text, hahead, hreads, hends, hparsed.wellMade, hparsed.canonical,
      hparsed.spine, (Scanner.textAt_eq_some_iff hparsed.sameEnd).2 ⟨next, hnext, rfl⟩,
      hstops.cons (hparsed.edge next hnext)⟩
  · rintro ⟨tokens, text, hahead, hreads, hends, hover, hcanonical, hspine, htext, hstops⟩
    have hbuilds := builds_of_reads hdefine hprimary hreads hahead hends hover hcanonical htext
      hstops.tail
    obtain ⟨final, hrest, -, hparse⟩ := hbuilds.parse hdefine hspine htext hstops.head
    exact ⟨final, hparse, hrest⟩

omit [DecidableEq κ] in
/-- A parser without a limit stops only in front of what follows no operand. -/
theorem stops_all_iff {limits : List Limit} {text : String} :
    Stops heads (.all :: limits) text ↔
      ∀ head ∈ heads, head.fixity.isTail = true → text ∉ head.symbols := by
  constructor
  · intro h head hhead htail hsymbol
    cases h head hhead htail hsymbol .all List.mem_cons_self
  · intro h head hhead htail hsymbol
    exact (h head hhead htail hsymbol).elim

omit [DecidableEq κ] in
/-- There is a text that is none of these. -/
theorem exists_text_not_mem (texts : List String) : ∃ text, text ∉ texts := by
  have hlonger : ∀ text ∈ texts, text.length ≤ (texts.map String.length).sum := by
    intro text htext
    obtain ⟨before, after, rfl⟩ := List.append_of_mem htext
    simp only [List.map_append, List.map_cons, List.sum_append, List.sum_cons]
    omega
  refine ⟨String.ofList (List.replicate ((texts.map String.length).sum + 1) 'x'), fun h => ?_⟩
  have hlength := hlonger _ h
  rw [String.length_ofList, List.length_replicate] at hlength
  omega

/-- No two canonical trees read the same tokens. -/
theorem canonical_unique (hdefine : Grammar.define (heads.map Head.building) primary = .ok grammar)
    (hprimary : TakesOne primary accepts) {first second : Tree κ} {tokens : List (Token κ)}
    (hfirst : first.Reads tokens) (hsecond : second.Reads tokens)
    (hfirstOver : first.Over heads (accepts context))
    (hsecondOver : second.Over heads (accepts context))
    (hfirstCanonical : first.Canonical) (hsecondCanonical : second.Canonical) :
    first = second := by
  obtain ⟨token, others, rfl⟩ := List.exists_cons_of_ne_nil hfirst.ne_nil
  obtain ⟨text, htext⟩ := exists_text_not_mem
    (heads.flatMap Head.symbols ++ (token :: others).map Token.text)
  rw [List.mem_append, not_or, List.mem_flatMap, List.mem_map] at htext
  obtain ⟨hsymbols, htexts⟩ := htext
  -- A scanner over the tokens whose end is a symbol of no operator parses both trees.
  let start := Scanner.ofTokens (token :: others) none token.kind text
  have hparses {tree : Tree κ} (hreads : tree.Reads (token :: others))
      (hover : tree.Over heads (accepts context)) (hcanonical : tree.Canonical) :
      ∃ final, grammar.parse context .all start = .ok tree final ∧ final.ahead = [] :=
    (parse_ok_iff hdefine hprimary).2
      ⟨_, text, (List.append_nil _).symm, hreads,
        fun other hother hends => htexts ⟨other, hother, hends.2⟩, hover, hcanonical,
        fun _ _ => rfl, rfl,
        stops_all_iff.2 fun head hhead _ hsymbol => hsymbols ⟨head, hhead, hsymbol⟩⟩
  obtain ⟨_, hfirstParse, -⟩ := hparses hfirst hfirstOver hfirstCanonical
  obtain ⟨_, hsecondParse, -⟩ := hparses hsecond hsecondOver hsecondCanonical
  cases hfirstParse.symm.trans hsecondParse
  rfl

/-- Parsing is the inverse of reading a tree in order: it gives a tree and leaves the rest of the
tokens exactly if the tree respects precedence, its tokens come first, and what comes after them is
no symbol that follows an operand. -/
theorem parse_inverts_reading
    (hdefine : Grammar.define (heads.map Head.building) primary = .ok grammar)
    (hprimary : TakesOne primary accepts) (context : γ) (start : Scanner κ) (tree : Tree κ)
    (rest : List (Token κ)) :
    (∃ final, grammar.parse context .all start = .ok tree final ∧ final.ahead = rest) ↔
      ∃ tokens text, start.ahead = tokens ++ rest ∧ tree.Reads tokens ∧
        (∀ token ∈ tokens, ¬ start.Ends token) ∧ tree.Over heads (accepts context) ∧
        tree.Canonical ∧ start.textAt rest = some text ∧
        ∀ head ∈ heads, head.fixity.isTail = true → text ∉ head.symbols := by
  rw [parse_ok_iff hdefine hprimary]
  refine exists_congr fun tokens => exists_congr fun text => ?_
  rw [stops_all_iff]
  simp [Limit.admits]

/-- The parser of operands that takes any token. -/
def takeToken : Primary γ κ (Tree κ) := fun _ _ => do return .operand (← Scanner.consumeToken)

/-- The parser that takes any token takes one. -/
theorem takeToken_takesOne : TakesOne (takeToken : Primary γ κ (Tree κ)) fun _ _ => True := by
  intro reparse context scanner tree after
  unfold takeToken
  rw [Rule.map_ok_iff]
  constructor
  · rintro ⟨token, hconsume, rfl⟩
    exact ⟨token, trivial, rfl, Scanner.consumeToken_ok_iff.1 hconsume⟩
  · rintro ⟨token, -, rfl, htakes⟩
    exact ⟨token, Scanner.consumeToken_ok_iff.2 htakes, rfl⟩

/-- Every kind of operator at once: a symbol in both tables, operators that group to either side,
and an operator before its operand that binds looser than the ones inside it. -/
theorem parse_inverts_reading_mixed :
    let factorial : Head := ⟨.after, 0, ["!"]⟩
    let power : Head := ⟨.betweenRight, 1, ["^"]⟩
    let minus : Head := ⟨.before, 2, ["-"]⟩
    let times : Head := ⟨.between, 3, ["*"]⟩
    let sum : Head := ⟨.between, 4, ["+", "-"]⟩
    let token (text : String) : Token Bool := ⟨.start, true, text⟩
    let tree : Tree Bool :=
      .between sum "-"
        (.before minus "-" (.between power "^" (.operand (token "a"))
          (.after factorial "!" (.operand (token "b")))))
        (.between times "*" (.operand (token "c")) (.operand (token "d")))
    let tokens := ["-", "a", "^", "b", "!", "-", "c", "*", "d", ")"].map token
    ∃ grammar : Grammar Unit Bool (Tree Bool),
      Grammar.define ([factorial, power, minus, times, sum].map Head.building) takeToken =
          .ok grammar ∧
        ∃ final, grammar.parse () .all (.ofTokens tokens none false) = .ok tree final ∧
          final.ahead = [token ")"] := by
  intro factorial power minus times sum token tree tokens
  have hleft : Tree.Reads (.between power "^" (.operand (token "a"))
      (.after factorial "!" (.operand (token "b")))) _ :=
    .between power (token "^") (.operand _) (.after factorial (token "!") (.operand _))
  have hright : Tree.Reads (.between times "*" (.operand (token "c")) (.operand (token "d"))) _ :=
    .between times (token "*") (.operand _) (.operand _)
  have hreads : tree.Reads _ :=
    .between sum (token "-") (.before minus (token "-") hleft) hright
  obtain ⟨grammar, hdefine⟩ : ∃ grammar : Grammar Unit Bool (Tree Bool), Grammar.define
      ([factorial, power, minus, times, sum].map Head.building) takeToken = .ok grammar := ⟨_, rfl⟩
  refine ⟨grammar, hdefine, (parse_inverts_reading hdefine takeToken_takesOne () _ _ _).2
    ⟨_, ")", rfl, hreads, ?_, ?_, ?_, rfl, ?_⟩⟩
  · simp [token, Scanner.Ends, Scanner.ofTokens]
  · simp [tree, token, Tree.Over, factorial, power, minus, times, sum]
  · simp [tree, Tree.Canonical, Tree.leftSpine, Tree.rightEdge, Head.rightLimit, Limit.admits,
      factorial, power, minus, times, sum]
  · simp [factorial, power, minus, times, sum]

end Parlance.Precedence
