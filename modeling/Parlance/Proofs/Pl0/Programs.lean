import Parlance.Proofs.Pl0.Blocks

/-!
# Parsing programs

A text is parsed to a program exactly if its tokens are a sentence of the grammar between the token
for the beginning and the one for the end, and the tree of that sentence keeps the rules on names.
The tree is the only one that the sentence has, and it is what the text is parsed to.
-/

namespace Parlance.Pl0

open Scanner Parse

variable {text : String} {parsed : Program}

/-! ## Programs of a scanner -/

/-- What closes a program is a dot, and the end after it. -/
theorem closing_ok_iff {start final : Scanner Kind} :
    (do
      let _ ← consumeText "."
      unless ← atEnd do violate .notAtEnd : Scan Kind Unit) start = .ok () final ↔
      ∃ dot middle closing, start.Takes dot middle ∧ dot.text = "." ∧
        middle.upcoming = .ok closing ∧ middle.Ends closing ∧ final = middle.look := by
  constructor
  · intro h
    obtain ⟨_, middle, hdot, h⟩ := Rule.bind_ok_iff.1 h
    obtain ⟨answer, last, hend, h⟩ := Rule.bind_ok_iff.1 h
    obtain ⟨-, dot, htakes, htext⟩ := consumeText_ok_iff.1 hdot
    obtain ⟨closing, hupcoming, rfl, hanswer⟩ := atEnd_ok_iff.1 hend
    cases answer with
    | false => exact (fail_ne_ok h).elim
    | true =>
        cases h
        exact ⟨dot, middle, closing, htakes, htext, hupcoming, of_decide_eq_true hanswer.symm, rfl⟩
  · rintro ⟨dot, middle, closing, htakes, htext, hupcoming, hends, rfl⟩
    refine Rule.bind_ok_iff.2 ⟨".", middle, consumeText_ok_iff.2 ⟨rfl, dot, htakes, htext⟩, ?_⟩
    refine Rule.bind_ok_iff.2 ⟨true, _, atEnd_ok_iff.2 ⟨closing, hupcoming, rfl, ?_⟩, rfl⟩
    exact (decide_eq_true hends).symm

/-- A program has a block and what closes it after the token for the beginning. -/
theorem program_ok_iff {start final : Session} :
    program start = .ok parsed final ↔
      ∃ opening first second last, start.scanner.Takes opening first ∧ opening.kind = .start ∧
        block ⟨first, start.scope⟩ = .ok parsed.block second ∧
        (do
          let _ ← consumeText "."
          unless ← atEnd do violate .notAtEnd : Scan Kind Unit) second.scanner = .ok () last ∧
        final = ⟨last, second.scope⟩ := by
  unfold program
  constructor
  · intro h
    obtain ⟨_, first, hopening, h⟩ := Rule.bind_ok_iff.1 h
    obtain ⟨body, second, hblock, h⟩ := Rule.bind_ok_iff.1 h
    obtain ⟨_, third, hclosing, h⟩ := Rule.bind_ok_iff.1 h
    cases h
    obtain ⟨hopening, hscope⟩ := scan_ok_iff.1 hopening
    obtain ⟨opening, htakes, hkind, -⟩ := consumeKind_ok_iff.1 hopening
    obtain ⟨hclosing, hscope'⟩ := scan_ok_iff.1 hclosing
    refine ⟨opening, first.scanner, second, final.scanner, htakes, hkind, ?_, hclosing, ?_⟩
    · rw [← hscope]
      exact hblock
    · rw [← hscope']
  · rintro ⟨opening, first, second, last, htakes, hkind, hblock, hclosing, rfl⟩
    refine Rule.bind_ok_iff.2 ⟨opening.text, ⟨first, start.scope⟩, scan_ok_iff.2 ⟨?_, rfl⟩, ?_⟩
    · exact consumeKind_ok_iff.2 ⟨opening, htakes, hkind, rfl⟩
    · refine Rule.bind_ok_iff.2 ⟨parsed.block, second, hblock, ?_⟩
      exact Rule.bind_ok_iff.2 ⟨(), ⟨last, second.scope⟩, scan_ok_iff.2 ⟨hclosing, rfl⟩, rfl⟩

/-! ## Programs of a text -/

/-- The session at the beginning of a text. -/
def Session.ofText (text : String) : Session := ⟨.ofText lexer text, {}⟩

/-- The tokens of a text lie ahead at its beginning. -/
theorem Session.ofText_ahead :
    (Session.ofText text).scanner.ahead = (lexer.tokenize text).tokens := rfl

/-- A text is parsed from its beginning. -/
theorem parseProgram_eq (text : String) :
    parseProgram text =
      match program (.ofText text) with
      | .ok parsed _ => .ok parsed
      | .error fault _ => .error fault := by
  unfold parseProgram parseTraced Session.ofText EStateM.run
  split <;> simp_all

/-- A text is a program if the parser succeeds at its beginning. -/
theorem parseProgram_ok_iff_program :
    parseProgram text = .ok parsed ↔ ∃ final, program (.ofText text) = .ok parsed final := by
  rw [parseProgram_eq]
  cases program (.ofText text) with
  | ok other last =>
      simp
  | error fault last =>
      simp

/-- A text is refused if the parser fails at its beginning. -/
theorem parseProgram_error_iff_program {fault : Fault} :
    parseProgram text = .error fault ↔ ∃ final, program (.ofText text) = .error fault final := by
  rw [parseProgram_eq]
  cases program (.ofText text) with
  | ok other last =>
      simp
  | error fault last =>
      simp

/-- The beginning of a text is a scanner inside it. -/
theorem Session.ofText_ready (text : String) : Ready (Session.ofText text).scanner := by
  refine ⟨rfl, rfl, fun token htoken => ?_⟩
  rw [ofText_ahead] at htoken
  obtain ⟨opening, pieces, hkind, hinner, hnone, hsome⟩ := tokenize_inner text
  have hopening : Proper opening := by simp [Proper, hkind]
  cases hfailure : (lexer.tokenize text).failure with
  | none =>
      obtain ⟨closing, hclosing, -, htokens⟩ := hnone hfailure
      have hproper : Proper closing := by simp [Proper, hclosing]
      rw [htokens] at htoken
      simp only [List.cons_append, List.mem_cons, List.mem_append, List.not_mem_nil, or_false]
        at htoken
      rcases htoken with rfl | htoken | rfl
      · exact hopening
      · exact (hinner token htoken).1
      · exact hproper
  | some failure =>
      rw [hsome (by simp [hfailure])] at htoken
      rcases List.mem_cons.1 htoken with rfl | htoken
      · exact hopening
      · exact (hinner token htoken).1

/-- The tokens of a text are proper. -/
theorem proper_of_mem_tokenize {text : String} {token : Token Kind}
    (hmem : token ∈ (lexer.tokenize text).tokens) : Proper token :=
  (Session.ofText_ready text).proper token (by rwa [Session.ofText_ahead])

/-- Where the end of a text comes next after a dot, the dot is the last of the inner tokens, and the
text has no more tokens for no other reason. -/
theorem tokenize_of_ends {scanner : Scanner Kind} {opening dot closing : Token Kind}
    {consumed : Tokens} (hend : SameEnd (Session.ofText text).scanner scanner)
    (htokens : (lexer.tokenize text).tokens = opening :: consumed ++ dot :: scanner.ahead)
    (hdot : dot.text = ".") (hupcoming : scanner.upcoming = .ok closing)
    (hends : scanner.Ends closing) :
    lexer.tokenize text = ⟨opening :: (consumed ++ [dot]) ++ [closing], none⟩ := by
  have hkind : closing.kind = .stop := hends.1.trans hend.endKind
  obtain ⟨_, pieces, -, hinner, hnone, hsome⟩ := tokenize_inner text
  have hpieces : closing ∉ pieces := fun hmem => (hinner closing hmem).2.2 hkind
  cases hfailure : (lexer.tokenize text).failure with
  | none =>
      obtain ⟨last, -, hlast, hall⟩ := hnone hfailure
      have heq : pieces ++ [last] = consumed ++ dot :: scanner.ahead :=
        (List.cons.inj (hall.symm.trans htokens)).2
      -- The token for the end is still there, for it is no dot.
      rcases List.eq_nil_or_concat scanner.ahead with hnil | ⟨init, other, hahead⟩
      · rw [hnil] at heq
        obtain ⟨-, hdots⟩ := List.append_inj' heq rfl
        cases hdots
        rw [hdot] at hlast
        exact absurd hlast (by decide)
      · have heq' : pieces ++ [last] = (consumed ++ dot :: init) ++ [other] := by
          rw [heq, hahead, List.concat_eq_append, List.append_assoc, List.cons_append]
        obtain ⟨rfl, -⟩ := List.append_inj' heq' rfl
        cases init with
        | nil =>
            have hclosing := upcoming_of_ahead hahead
            cases hupcoming.symm.trans hclosing
            calc
              lexer.tokenize text =
                  ⟨(lexer.tokenize text).tokens, (lexer.tokenize text).failure⟩ := rfl
              _ = _ := by
                rw [htokens, hfailure, hahead]
                simp
        | cons next rest =>
            have hclosing := upcoming_of_ahead hahead
            cases hupcoming.symm.trans hclosing
            exact (hpieces (by simp)).elim
  -- After a failure the end of the text never comes next.
  | some failure =>
      have heq : pieces = consumed ++ dot :: scanner.ahead :=
        (List.cons.inj ((hsome (by simp [hfailure])).symm.trans htokens)).2
      cases hahead : scanner.ahead with
      | nil =>
          have hending : scanner.ending = some failure.toFault := by
            rw [hend.ending]
            show (lexer.tokenize text).failure.map _ = _
            rw [hfailure]
            rfl
          rw [upcoming, hahead, hending] at hupcoming
          cases hupcoming
      | cons next rest =>
          cases hupcoming.symm.trans (upcoming_of_ahead hahead)
          exact (hpieces (by simp [heq, hahead])).elim

/-- A program is the tree of the sentence that its text is, has been parsed with nothing around it,
and leaves the token for the end. -/
theorem program_leaves {final : Session} (h : program (.ofText text) = .ok parsed final) :
    parsed.block.ParsedIn [] ∧ ∃ opening sentence closing, opening.kind = .start ∧
      closing.kind = .stop ∧ lexer.tokenize text = ⟨opening :: sentence ++ [closing], none⟩ ∧
      SentenceDerives sentence parsed.block ∧ final.scanner.ahead = [closing] := by
  obtain ⟨opening, first, second, last, htakes, hkind, hblock, hclosing, rfl⟩ := program_ok_iff.1 h
  obtain ⟨dot, third, closing, hdot, htext, hupcoming, hends, rfl⟩ := closing_ok_iff.1 hclosing
  have hgiven := block_gives _ _ _ rfl hblock
  have hend := (htakes.passes.trans (hgiven.passes.trans hdot.passes)).sameEnd
  refine ⟨hgiven.parsed, ?_⟩
  obtain ⟨consumed, hahead, hderives⟩ := hgiven.derives.contextFree
  rw [hdot.ahead_eq] at hahead
  have htokens : (lexer.tokenize text).tokens = opening :: consumed ++ dot :: third.ahead := by
    rw [← Session.ofText_ahead, htakes.ahead_eq, hahead, List.cons_append]
  have hall := tokenize_of_ends hend htokens htext hupcoming hends
  refine ⟨opening, consumed ++ [dot], closing, hkind, hends.1.trans hend.endKind, hall,
    ⟨dot, hderives [dot], htext⟩, ?_⟩
  rw [hall] at htokens
  rw [look_ahead]
  simpa using htokens.symm

/-- A program is the tree of the sentence that its text is, and has been parsed with nothing around
it. -/
theorem program_gives {final : Session} (h : program (.ofText text) = .ok parsed final) :
    parsed.block.ParsedIn [] ∧ ∃ opening sentence closing, opening.kind = .start ∧
      closing.kind = .stop ∧ lexer.tokenize text = ⟨opening :: sentence ++ [closing], none⟩ ∧
      SentenceDerives sentence parsed.block := by
  obtain ⟨hparsed, opening, sentence, closing, hopening, hclosing, htokens, hsentence, -⟩ :=
    program_leaves h
  exact ⟨hparsed, opening, sentence, closing, hopening, hclosing, htokens, hsentence⟩

/-- The sentence of a text that keeps the rules on names is parsed to its tree. -/
theorem program_yields {opening closing : Token Kind} {sentence : Tokens} {body : Block}
    (htokens : lexer.tokenize text = ⟨opening :: sentence ++ [closing], none⟩)
    (hopening : opening.kind = .start) (hclosing : closing.kind = .stop)
    (hsentence : SentenceDerives sentence body) (hwellScoped : body.WellScoped []) :
    ∃ final, program (.ofText text) = .ok ⟨body⟩ final := by
  obtain ⟨dot, hderives, htext⟩ := hsentence
  obtain ⟨consumed, rfl, hconsumed⟩ := hderives.contextFree
  have hahead : (Session.ofText text).scanner.ahead =
      opening :: (consumed ++ [dot, closing]) := by
    rw [Session.ofText_ahead, htokens]
    simp
  have hends : closing.text = "" := by
    obtain ⟨_, pieces, -, -, hnone, -⟩ := tokenize_inner text
    obtain ⟨last, -, hlast, hall⟩ := hnone (by rw [htokens])
    rw [htokens] at hall
    obtain ⟨-, hclosing⟩ := List.append_inj' hall rfl
    cases hclosing
    exact hlast
  have htakes := (Session.ofText_ready text).takes_kind hahead (by rw [hopening]; decide)
  have hready := (Session.ofText_ready text).passes htakes.passes
  have hfirst : (Session.ofText text).scanner.advance.ahead = consumed ++ [dot, closing] := by
    rw [advance_ahead, hahead, List.tail_cons]
  obtain ⟨scope, second, hblock, hsecond, hpasses⟩ :=
    @block_yields ⟨(Session.ofText text).scanner.advance, {}⟩ _ _ hready rfl
      (hfirst ▸ hconsumed [dot, closing]) hwellScoped ⟨dot, [closing], rfl, by rw [htext]; decide⟩
  have hready := hready.passes hpasses
  have hdot := hready.takes_terminal hsecond (by rw [htext]; decide)
  have hready := hready.passes hdot.passes
  have hlast : second.advance.ahead = [closing] := by rw [advance_ahead, hsecond, List.tail_cons]
  have hcloses := closing_ok_iff.2 ⟨dot, _, closing, hdot, htext, upcoming_of_ahead hlast,
    ⟨hclosing.trans hready.endKind.symm, hends.trans hready.endText.symm⟩, rfl⟩
  exact ⟨_, program_ok_iff.2 ⟨opening, _, _, _, htakes, hopening, hblock, hcloses, rfl⟩⟩

/-- A sentence of a text has one tree. -/
theorem SentenceDerives.unique {sentence : Tokens} {body other : Block}
    (hproper : ∀ token ∈ sentence, Proper token) (h : SentenceDerives sentence body)
    (h' : SentenceDerives sentence other) : body = other := by
  obtain ⟨dot, hbody, htext⟩ := h
  obtain ⟨dot', hother, htext'⟩ := h'
  exact (hbody.unique hproper ⟨dot, [], rfl, by rw [htext]; decide⟩ hother
    ⟨dot', [], rfl, by rw [htext']; decide⟩).1

end Parlance.Pl0
