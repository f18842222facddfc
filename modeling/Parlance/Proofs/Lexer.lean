import Parlance.Lexer

/-!
# The tokens of a text

Each token of a text is the piece that some rule has matched at its place, but for the ones that
stand for the two ends. The stream has the token for the end exactly if it does not fail, and the
token is the last one then.
-/

namespace Parlance.Lexer

variable {κ : Type} {lexer : Lexer κ}

/-- The first rule that matches is the first one, or one of the others where the first does not. -/
theorem firstMatch_cons_iff {first rule : LexerRule κ} {others : List (LexerRule κ)}
    {cursor : Regex.Cursor} {found : Regex.Match} :
    firstMatch (first :: others) cursor = some (rule, found) ↔
      first.regex.match? cursor = some found ∧ first = rule ∨
        first.regex.match? cursor = none ∧ firstMatch others cursor = some (rule, found) := by
  unfold firstMatch
  rw [List.findSome?_cons]
  cases first.regex.match? cursor with
  | none => simp
  | some other => simp [and_comm]

/-- A token made from a piece of a text: at some place the first rule that matches has its kind, and
its text is what the match takes. -/
def IsPiece (lexer : Lexer κ) (token : Token κ) : Prop :=
  ∃ cursor rule found kind length,
    firstMatch lexer.rules cursor = some (rule, found) ∧ rule.kind = some kind ∧
      found.stop.offset - cursor.offset = length + 1 ∧ token.kind = kind ∧
      token.text = String.ofList (cursor.after.take (length + 1))

/-- The stream ends as its failure says: with a token for the end if there is none. -/
structure Closes (lexer : Lexer κ) (stream : Stream κ) (pieces : List (Token κ)) : Prop where
  made : ∀ token ∈ pieces, lexer.IsPiece token
  nonempty : ∀ token ∈ pieces, token.text ≠ ""
  closes : stream.failure = none →
    ∃ position, stream.tokens = pieces ++ [⟨position, lexer.endKind, ""⟩]
  fails : stream.failure ≠ none → stream.tokens = pieces

/-- A piece in front keeps it that the stream ends as its failure says. -/
theorem Closes.cons {stream : Stream κ} {pieces : List (Token κ)} {token : Token κ}
    (htoken : lexer.IsPiece token) (htext : token.text ≠ "") (h : lexer.Closes stream pieces) :
    lexer.Closes (stream.cons token) (token :: pieces) where
  made := List.forall_mem_cons.2 ⟨htoken, h.made⟩
  nonempty := List.forall_mem_cons.2 ⟨htext, h.nonempty⟩
  closes := fun hnone => by
    obtain ⟨position, htokens⟩ := h.closes hnone
    exact ⟨position, by rw [Stream.cons, htokens, List.cons_append]⟩
  fails := fun hsome => by rw [Stream.cons, h.fails hsome]

/-- A stream that fails at once has no pieces. -/
theorem closes_of_failure (failure : Failure) : lexer.Closes ⟨[], some failure⟩ [] :=
  ⟨fun _ h => (nomatch h), fun _ h => (nomatch h), fun h => (nomatch h), fun _ => rfl⟩

/-- From every place on, the tokens are pieces up to the end or up to a failure. -/
theorem tokensFrom_closes (lexer : Lexer κ) (position : Position) (cursor : Regex.Cursor) :
    ∃ pieces, lexer.Closes (lexer.tokensFrom position cursor) pieces := by
  fun_induction tokensFrom lexer position cursor with
  | case1 position cursor hafter =>
      exact ⟨[], fun _ h => (nomatch h), fun _ h => (nomatch h), fun _ => ⟨position, rfl⟩,
        fun h => (h rfl).elim⟩
  | case2 => exact ⟨[], closes_of_failure _⟩
  | case3 => exact ⟨[], closes_of_failure _⟩
  | case4 => exact ⟨[], closes_of_failure _⟩
  | case5 position cursor c rest hafter rule found hfirst hreversed length hlength piece stream
      hkind ih => exact ih
  | case6 position cursor c rest hafter rule found hfirst hreversed length hlength piece stream
      kind hkind ih =>
      obtain ⟨pieces, hpieces⟩ := ih
      have htext : String.ofList piece ≠ "" := by simp [piece, hafter]
      exact ⟨_, hpieces.cons ⟨cursor, rule, found, kind, length, hfirst, hkind, hlength, rfl, rfl⟩
        htext⟩

end Parlance.Lexer
