import Parlance.Proofs.Pl0.Printing

/-!
# Texts with other names

The names of a text can be written in another way, each where it stands, and all else left as it is.
What follows a piece of the text then begins as before, or with a letter where a letter was, so the
lexer cuts the new text at the same places.
-/

namespace Parlance.Pl0

/-- The tokens with these names in their order in the place of their own, as far as there are
any. -/
def respell : List String → List (Kind × String) → List (Kind × String)
  | name :: names, (.identifier, _) :: pieces => (.identifier, name) :: respell names pieces
  | names, piece :: pieces => piece :: respell names pieces
  | _, [] => []

/-- The characters of a text, with these names in their order in the place of its own. -/
def respellChars (names : List String) (chars : List Char) : List Char :=
  match _h : nextPiece? chars with
  | none => chars
  | some (kind?, count) =>
    match kind?, names with
    | some .identifier, name :: names => name.toList ++ respellChars names (chars.drop count)
    | _, names => chars.take count ++ respellChars names (chars.drop count)
termination_by chars.length
decreasing_by
  all_goals
    obtain ⟨hpos, hle⟩ := nextPiece?_bounds _h
    rw [List.length_drop]
    omega

/-- A text, with these names in their order in the place of its own. -/
def respellText (names : List String) (text : String) : String :=
  String.ofList (respellChars names text.toList)

/-! ## What follows a piece -/

/-- What follows a piece begins with the same character as before, or with a letter where a letter
was. -/
def BeginsAlike (rest rest' : List Char) : Prop :=
  rest'.head? = rest.head? ∨
    ∃ c c' : Char, rest.head? = some c ∧ rest'.head? = some c' ∧ letters.holds c = true ∧
      letters.holds c' = true

section

variable {set : Regex.Charset} {words : List (List Char)} {word piece rest rest' : List Char}
  {c : Char} {kind? : Option Kind}

namespace Shape

/-- There is no run where none of the set comes first. -/
theorem takeWhile_eq_nil_iff {chars : List Char} :
    chars.takeWhile set.holds = [] ↔ ∀ c ∈ chars.head?, set.holds c = false := by
  cases chars with
  | nil => simp
  | cons c others => cases hc : set.holds c <;> simp [hc]

/-- A run that ends with a piece, or before, ends there also if nothing that follows now can belong
to it that did not before. -/
theorem taken_run_of_head (hle : (run set).taken (piece ++ rest) ≤ piece.length)
    (hhead : ∀ c' ∈ rest'.head?, set.holds c' = true → ∃ c ∈ rest.head?, set.holds c = true) :
    (run set).taken (piece ++ rest') = (run set).taken (piece ++ rest) := by
  rw [taken, List.takeWhile_append] at hle
  rw [taken, taken, List.takeWhile_append, List.takeWhile_append]
  split
  · rename_i hall
    rw [if_pos hall, List.length_append] at hle
    have hnil : rest.takeWhile set.holds = [] := List.eq_nil_of_length_eq_zero (by omega)
    have hnil' : rest'.takeWhile set.holds = [] := by
      rw [takeWhile_eq_nil_iff] at hnil ⊢
      refine fun c' hc' => Bool.eq_false_iff.2 fun hholds => ?_
      obtain ⟨c, hc, hholds⟩ := hhead c' hc' hholds
      rw [hnil c hc] at hholds
      cases hholds
    rw [hnil, hnil']
  · rfl

/-- A word of two characters at most, none of them a letter, stands where it stood. -/
theorem isPrefixOf_of_beginsAlike (hpiece : piece ≠ []) (hrest : BeginsAlike rest rest')
    (hword : word.length ≤ 2 ∧ ∀ c ∈ word, letters.holds c = false) :
    word.isPrefixOf (piece ++ rest') = word.isPrefixOf (piece ++ rest) := by
  obtain ⟨hlength, hletters⟩ := hword
  obtain ⟨d, others, rfl⟩ := List.exists_cons_of_ne_nil hpiece
  match word, hlength, hletters with
  | [], _, _ => rfl
  | [a], _, _ => rfl
  | [a, b], _, hletters =>
      cases others with
      | cons e others => rfl
      | nil =>
          have hb : letters.holds b = false := hletters b (by simp)
          have hhead (chars : List Char) : [b].isPrefixOf chars = (chars.head? == some b) := by
            cases chars with
            | nil => rfl
            | cons c others => simp [List.isPrefixOf_cons_cons, eq_comm]
          have hsame : [b].isPrefixOf rest' = [b].isPrefixOf rest := by
            rw [hhead, hhead]
            obtain heq | ⟨c, c', hc, hc', hletter, hletter'⟩ := hrest
            · rw [heq]
            · have hne : c ≠ b := fun heq => by simp [heq, hb] at hletter
              have hne' : c' ≠ b := fun heq => by simp [heq, hb] at hletter'
              simp [hc, hc', hne, hne']
          rw [List.cons_append, List.cons_append, List.isPrefixOf_cons_cons,
            List.isPrefixOf_cons_cons]
          exact congrArg _ hsame

end Shape

/-! ## Keywords -/

/-- Where no keyword stood, none goes on behind the piece: a name would have gone on there, too. -/
theorem keyword_prefix_of_beginsAlike {keyword : String} (hmem : keyword ∈ keywords)
    (h : nextPiece? (piece ++ rest) = some (kind?, piece.length)) (hrest : BeginsAlike rest rest')
    (hnone : Shape.keyword.taken (piece ++ rest) = 0)
    (hstands : keyword.toList <+: piece ++ rest') : keyword.toList <+: piece := by
  obtain hinside | ⟨more, hmore⟩ :=
    List.prefix_or_prefix_of_prefix hstands (List.prefix_append piece rest')
  · exact hinside
  · have hletters := (keywords_spelled.1 keyword hmem).2
    rw [← hmore] at hletters
    cases more with
    | nil =>
        have hsame : piece = keyword.toList := by simpa using hmore
        exact hsame ▸ List.prefix_rfl
    | cons e after =>
        rw [← hmore, List.prefix_append_right_inj] at hstands
        obtain ⟨behind, rfl⟩ := hstands
        obtain ⟨c, others, rfl, hc⟩ : ∃ c others, rest = c :: others ∧ letters.holds c = true := by
          obtain hsame | ⟨c, _, hhead, -, hletter, -⟩ := hrest
          · obtain ⟨others, hothers⟩ := List.head?_eq_some_iff.1 hsame.symm
            exact ⟨e, others, hothers, hletters e (by simp)⟩
          · obtain ⟨others, hothers⟩ := List.head?_eq_some_iff.1 hhead
            exact ⟨c, others, hothers, hletter⟩
        have hname := nextPiece?_of_letters (List.ne_nil_of_length_pos (nextPiece?_bounds h).1)
          (fun d hd => hletters d (List.mem_append_left _ hd)) hnone
        have hlength : piece.length = (piece ++ (c :: others).takeWhile letters.holds).length :=
          congrArg Prod.snd (Option.some.inj (h.symm.trans hname))
        rw [List.takeWhile_cons, if_pos hc, List.length_append, List.length_cons] at hlength
        omega

/-- A keyword stands where it stood, if a rule takes just the piece. -/
theorem keywords_taken_of_beginsAlike
    (h : nextPiece? (piece ++ rest) = some (kind?, piece.length)) (hrest : BeginsAlike rest rest') :
    Shape.keyword.taken (piece ++ rest') = Shape.keyword.taken (piece ++ rest) := by
  by_cases htaken : Shape.keyword.taken (piece ++ rest) = 0
  · rw [htaken]
    by_contra hne
    obtain ⟨keyword, hmem, hstands, -⟩ := exists_keyword hne
    have hinside := keyword_prefix_of_beginsAlike hmem h hrest htaken hstands
    rw [keywords_taken_eq hmem (hinside.trans (List.prefix_append _ _)), List.length_eq_zero_iff]
      at htaken
    exact (keywords_spelled.1 keyword hmem).1 htaken
  · obtain ⟨keyword, hmem, hstands, hlength⟩ := exists_keyword htaken
    have hpiece := congrArg Prod.snd
      (Option.some.inj ((nextPiece?_keyword hmem hstands).symm.trans h))
    have hinside : keyword.toList <+: piece :=
      List.prefix_of_prefix_length_le hstands (List.prefix_append _ _) (Nat.le_of_eq hpiece)
    rw [hlength]
    exact keywords_taken_eq hmem (hinside.trans (List.prefix_append _ _))

/-! ## Pieces -/

/-- The relations and the signs have two characters at most, none of them a letter. -/
theorem signs_short : ∀ word ∈ (comparisons ++ symbols).map String.toList,
    word.length ≤ 2 ∧ ∀ c ∈ word, letters.holds c = false := by
  have hshort : ∀ word ∈ (comparisons ++ symbols).map String.toList,
      word.length ≤ 2 ∧ word.all (fun c => !letters.holds c) = true := by
    decide +kernel
  intro word hmem
  obtain ⟨hlength, hletters⟩ := hshort word hmem
  exact ⟨hlength, fun c hc => by simpa using List.all_eq_true.1 hletters c hc⟩

/-- Each rule that takes no more than a piece takes the same before what begins alike. -/
theorem taken_of_beginsAlike (hpiece : piece ≠ [])
    (h : nextPiece? (piece ++ rest) = some (kind?, piece.length)) (hrest : BeginsAlike rest rest') :
    ∀ entry ∈ shapes, entry.1.taken (piece ++ rest) ≤ piece.length →
      entry.1.taken (piece ++ rest') = entry.1.taken (piece ++ rest) := by
  have hrun {set : Regex.Charset} (hset : ∀ c, letters.holds c = true → set.holds c = false ∨
      ∀ c', letters.holds c' = true → set.holds c' = true)
      (hle : (Shape.run set).taken (piece ++ rest) ≤ piece.length) :
      (Shape.run set).taken (piece ++ rest') = (Shape.run set).taken (piece ++ rest) := by
    refine Shape.taken_run_of_head hle fun c' hc' hholds => ?_
    obtain heq | ⟨c, _, hc, heq, hletter, hletter'⟩ := hrest
    · exact ⟨c', heq ▸ hc', hholds⟩
    · cases hc'.symm.trans heq
      obtain hnot | hall := hset c' hletter'
      · rw [hholds] at hnot
        cases hnot
      · exact ⟨c, hc, hall c hletter⟩
  have hwords {texts : List String} (htexts : texts ⊆ comparisons ++ symbols) :
      (Shape.choice (texts.map String.toList)).taken (piece ++ rest') =
        (Shape.choice (texts.map String.toList)).taken (piece ++ rest) := by
    have hsame : ∀ word ∈ texts.map String.toList,
        word.isPrefixOf (piece ++ rest') = word.isPrefixOf (piece ++ rest) := fun word hmem =>
      Shape.isPrefixOf_of_beginsAlike hpiece hrest
        (signs_short word (List.map_subset _ htexts hmem))
    rw [Shape.taken, Shape.taken, List.find?_congr hsame]
  simp only [shapes, List.forall_mem_cons, List.not_mem_nil, false_implies, implies_true, and_true]
  exact ⟨hrun fun c hc => .inl (letters_exclude hc).1,
    fun _ => keywords_taken_of_beginsAlike h hrest,
    hrun fun c hc => .inl (letters_exclude hc).2, hrun fun _ _ => .inr fun _ hc => hc,
    fun _ => hwords (List.subset_append_left _ _), fun _ => hwords (List.subset_append_right _ _)⟩

/-- A piece is the next one also before what begins alike. -/
theorem nextPiece?_of_beginsAlike (h : nextPiece? (piece ++ rest) = some (kind?, piece.length))
    (hrest : BeginsAlike rest rest') :
    nextPiece? (piece ++ rest') = some (kind?, piece.length) := by
  have hpiece : piece ≠ [] := List.ne_nil_of_length_pos (nextPiece?_bounds h).1
  have hsame := taken_of_beginsAlike hpiece h hrest
  obtain ⟨entry, hentry, heq⟩ := Option.map_eq_some_iff.1 h
  obtain ⟨hkind, hcount⟩ := Prod.mk.inj heq
  obtain ⟨htaken, before, after, hshapes, hbefore⟩ := List.find?_eq_some_iff_append.1 hentry
  have hentry' := hsame entry (List.mem_of_find?_eq_some hentry) hcount.le
  rw [nextPiece?, List.find?_eq_some_iff_append.2 ⟨?_, before, after, hshapes, ?_⟩]
  · rw [Option.map_some, hentry', hkind, hcount]
  · rw [hentry']
    exact htaken
  · intro other hmem
    have hzero : other.1.taken (piece ++ rest) = 0 := by simpa using hbefore other hmem
    rw [hsame other (hshapes ▸ List.mem_append_left _ hmem) (by omega), hzero]
    rfl

end

/-! ## Characters and tokens -/

section

variable {names : List String} {name : String} {chars rest : List Char} {count : Nat}
  {kind? : Option Kind} {pieces : List (Kind × String)}

/-- Where there is no piece, all is left as it is. -/
theorem respellChars_none (h : nextPiece? chars = none) : respellChars names chars = chars := by
  rw [respellChars]
  split
  · rfl
  · rename_i hsome
    rw [h] at hsome
    cases hsome

/-- A piece that is no name is left as it is. -/
theorem respellChars_piece (h : nextPiece? chars = some (kind?, count))
    (hother : kind? ≠ some .identifier ∨ names = []) :
    respellChars names chars = chars.take count ++ respellChars names (chars.drop count) := by
  rw [respellChars]
  split
  · rename_i hnone
    rw [hnone] at h
    cases h
  · rename_i hsome
    cases hsome.symm.trans h
    split
    · simp at hother
    · rfl

/-- A piece that is a name is replaced by the first of the others. -/
theorem respellChars_name (h : nextPiece? chars = some (some .identifier, count)) :
    respellChars (name :: names) chars =
      name.toList ++ respellChars names (chars.drop count) := by
  rw [respellChars]
  split
  · rename_i hnone
    rw [hnone] at h
    cases h
  · rename_i hsome
    cases hsome.symm.trans h
    rfl

/-- A token that is no name is left as it is. -/
theorem respell_piece {kind : Kind} {text : String} (h : kind ≠ .identifier ∨ names = []) :
    respell names ((kind, text) :: pieces) = (kind, text) :: respell names pieces := by
  rw [respell]
  intro name others text' hnames hpiece
  cases hpiece
  simp [hnames] at h

/-- A last token that is no name is left as it is. -/
theorem respell_concat {piece : Kind × String} (h : piece.1 ≠ .identifier) :
    respell names (pieces ++ [piece]) = respell names pieces ++ [piece] := by
  induction pieces generalizing names with
  | nil => cases names <;> exact respell_piece (.inl h)
  | cons first pieces ih =>
      obtain ⟨kind, text⟩ := first
      by_cases hkept : kind ≠ .identifier ∨ names = []
      · rw [List.cons_append, respell_piece hkept, respell_piece hkept, ih, List.cons_append]
      · rw [not_or, not_not] at hkept
        obtain ⟨rfl, hsome⟩ := hkept
        obtain ⟨name, names, rfl⟩ := List.exists_cons_of_ne_nil hsome
        rw [List.cons_append, respell, respell, ih, List.cons_append]

/-- With other names a text begins alike. -/
theorem respellChars_beginsAlike (hnames : ∀ name ∈ names, IsName name) :
    BeginsAlike chars (respellChars names chars) := by
  have hpiece {kind? : Option Kind} {count : Nat} (h : nextPiece? chars = some (kind?, count))
      (hother : kind? ≠ some .identifier ∨ names = []) :
      BeginsAlike chars (respellChars names chars) := by
    obtain ⟨hpos, hle⟩ := nextPiece?_bounds h
    rw [respellChars_piece h hother]
    cases chars with
    | nil =>
        rw [List.length_nil] at hle
        omega
    | cons c others =>
        obtain ⟨less, rfl⟩ : ∃ less, count = less + 1 := ⟨count - 1, by omega⟩
        exact .inl rfl
  cases h : nextPiece? chars with
  | none =>
      rw [respellChars_none h]
      exact .inl rfl
  | some found =>
      obtain ⟨kind?, count⟩ := found
      cases names with
      | nil => exact hpiece h (.inr rfl)
      | cons name names =>
          by_cases hkind : kind? = some .identifier
          · subst hkind
            rw [respellChars_name h]
            have hname : nextPiece? name.toList = some (some .identifier, name.toList.length) :=
              (hnames name List.mem_cons_self).isLexeme
            obtain ⟨c, others, rfl, hc, -⟩ := name_of_nextPiece? h
            obtain ⟨c', others', htext, hc', -⟩ := name_of_nextPiece? hname
            rw [htext]
            exact .inr ⟨c, c', rfl, rfl, hc, hc'⟩
          · exact hpiece h (.inl hkind)

/-- With other names a text is split into the same tokens, but for the names. -/
theorem Lexes.respelled (h : Lexes chars pieces rest) (hrest : rest = [])
    (hnames : ∀ name ∈ names, IsName name) :
    Lexes (respellChars names chars) (respell names pieces) [] := by
  have hpiece {chars : List Char} {names : List String} {count : Nat} {kind? : Option Kind}
      (hnames : ∀ name ∈ names, IsName name) (h : nextPiece? chars = some (kind?, count)) :
      (chars.take count).length = count ∧
        nextPiece? (chars.take count ++ respellChars names (chars.drop count)) =
          some (kind?, (chars.take count).length) := by
    have hlength : (chars.take count).length = count :=
      List.length_take_of_le (nextPiece?_bounds h).2
    refine ⟨hlength, nextPiece?_of_beginsAlike ?_ (respellChars_beginsAlike hnames)⟩
    rw [List.take_append_drop, hlength, h]
  induction h generalizing names with
  | done =>
      subst hrest
      rw [respellChars_none nextPiece?_nil]
      cases names <;> exact .done
  | @skip start length pieces left h _ ih =>
      rw [respellChars_piece h (.inl (by simp))]
      refine .skip (hpiece hnames h).2 ?_
      rw [List.drop_left]
      exact ih hrest hnames
  | @token start kind length pieces left h _ ih =>
      by_cases hkept : kind ≠ .identifier ∨ names = []
      · have hkept' : some kind ≠ some .identifier ∨ names = [] := by simpa using hkept
        rw [respellChars_piece h hkept', respell_piece hkept]
        have htoken := Lexes.token (hpiece hnames h).2
          (by rw [List.drop_left]; exact ih hrest hnames)
        rwa [List.take_left] at htoken
      · rw [not_or, not_not] at hkept
        obtain ⟨rfl, hsome⟩ := hkept
        obtain ⟨name, names, rfl⟩ := List.exists_cons_of_ne_nil hsome
        rw [List.forall_mem_cons] at hnames
        have hstop := not_letter_of_nextPiece? (hpiece hnames.2 h).2
        have htoken := Lexes.token (hnames.1.isLexeme.nextPiece?_name hstop)
          (by rw [List.drop_left]; exact ih hrest hnames.2)
        rw [List.take_left, String.ofList_toList] at htoken
        rwa [respellChars_name h, respell]

/-- A text that is split up to its end is split there also with other names, into the same tokens
but for the names. -/
theorem tokenize_respellText {text : String} (h : (lexer.tokenize text).failure = none)
    (hnames : ∀ name ∈ names, IsName name) :
    split (respellText names text) = respell names (split text) ∧
      (lexer.tokenize (respellText names text)).failure = none := by
  obtain ⟨pieces, rest, hlexes, hnone⟩ := exists_lexes text.toList
  obtain ⟨later, place, hplace, hafter, -, hfailure⟩ :=
    @Lexes.tokensFrom (.atStart text.toList) .start _ _ _ hlexes rfl (placed_atStart text.toList)
  have hrest : rest = [] := by
    cases rest with
    | nil => rfl
    | cons c others =>
        have hfails : (lexer.tokenize text).failure = some (.unmatched later c) := by
          refine hfailure.trans ?_
          rw [tokensFrom_unmatched hplace hafter (by rwa [hafter])]
        rw [h] at hfails
        cases hfails
  subst hrest
  have hrespelled : Lexes (respellText names text).toList (respell names pieces) [] := by
    rw [respellText, String.toList_ofList]
    exact hlexes.respelled rfl hnames
  obtain ⟨hsplit, hend⟩ := hrespelled.tokenize
  refine ⟨?_, hend⟩
  rw [hsplit, hlexes.tokenize.1, List.cons_append, List.cons_append,
    respell_piece (.inl (by decide)), respell_concat (by decide)]

end

end Parlance.Pl0
