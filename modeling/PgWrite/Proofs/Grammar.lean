import PgWrite.Proofs.Paramstyle

/-!
# The lexical grammar of SQL text

SQL text as pieces with single spaces between them: plain text, markers, quoted names, literals of
both kinds, dollar quotes and comments of both kinds. The pieces carry the conditions under which
they are what they seem to be. Whatever they contain, the scanner cuts their text piece by piece, so
both marker styles change the marker pieces only.
-/

namespace PgWrite

open Lexeme

/-- What stands between the ends of a block comment, part by part: text with neither a star nor a
slash, and comments inside the comment. -/
inductive CommentBody where
  | empty
  | text (run : List Char) (bare : ∀ c ∈ run, c ≠ '*' ∧ c ≠ '/') (rest : CommentBody)
  | nested (inner rest : CommentBody)

/-- The characters between the ends of a block comment. -/
def CommentBody.chars : CommentBody → List Char
  | .empty => []
  | .text run _ rest => run ++ rest.chars
  | .nested inner rest => '/' :: '*' :: (inner.chars ++ '*' :: '/' :: rest.chars)

/-- Text without markers in which no region opens. -/
structure IsPlain (run : List Char) : Prop where
  bare : ∀ c ∈ run, c ∉ ['\'', '"', '$', '?']
  noLineComment : ¬ ['-', '-'] <:+: run
  noBlockComment : ¬ ['/', '*'] <:+: run

/-- The tag of a dollar quote is empty or an ASCII identifier. -/
structure IsTag (tag : List Char) : Prop where
  word : ∀ c ∈ tag, isTagChar c = true
  start : ∀ c ∈ tag.head?, c.isDigit = false

/-- The delimiter of a dollar quote. -/
def delimiter (tag : List Char) : List Char :=
  '$' :: (tag ++ ['$'])

/-- Text with a backslash before every backslash and every single quote. -/
def backslashed : List Char → List Char
  | [] => []
  | c :: rest =>
    if c = '\\' ∨ c = '\'' then '\\' :: c :: backslashed rest else c :: backslashed rest

/-- A piece of SQL text. -/
inductive Piece where
  | plain (run : List Char) (h : IsPlain run)
  | marker
  /-- A quoted identifier, given by the name that it stands for. -/
  | name (content : String)
  /-- A standard literal, given by its content. -/
  | literal (content : String)
  /-- An escape literal, given by its content. -/
  | escapeLiteral (content : String)
  /-- A dollar quote: of the body and the delimiter behind it, no part but the end is the
  delimiter. -/
  | dollarQuote (tag body : List Char) (htag : IsTag tag)
    (hbody : ¬ delimiter tag <:+: (body ++ delimiter tag).dropLast)
  | lineComment (run : List Char) (h : '\n' ∉ run)
  | blockComment (body : CommentBody)

namespace Piece

/-- The characters of a piece. -/
def text : Piece → List Char
  | .plain run _ => run
  | .marker => ['?']
  | .name content => (quotedName content).toList
  | .literal content => (quotedWith '\'' content).toList
  | .escapeLiteral content => 'E' :: '\'' :: (backslashed content.toList ++ ['\''])
  | .dollarQuote tag body _ _ => delimiter tag ++ (body ++ delimiter tag)
  | .lineComment run _ => '-' :: '-' :: (run ++ ['\n'])
  | .blockComment body => '/' :: '*' :: (body.chars ++ ['*', '/'])

/-- The piece is a marker. -/
def isMarker : Piece → Bool
  | .marker => true
  | _ => false

/-- A piece in the format style. -/
def formatted (p : Piece) : List Char :=
  if p.isMarker then ['%', 's'] else p.text.flatMap PgWrite.formatted

/-- A piece in the named style, where so many markers stand before it. -/
def namedAt (stem : String) (index : Nat) (p : Piece) : List Char :=
  if p.isMarker then namedMark stem index else p.text

/-- Pieces in the named style, the markers numbered from an index on. -/
def named (stem : String) : Nat → List Piece → List (List Char)
  | _, [] => []
  | index, p :: rest => p.namedAt stem index :: named stem (index + p.isMarker.toNat) rest

/-- The segments of a piece. -/
def segments : Piece → List Segment
  | .plain run _ => run.map .plain
  | .marker => [.marker false]
  | .escapeLiteral content => [.plain 'E', .region ('\'' :: (backslashed content.toList ++ ['\'']))]
  | .lineComment run _ => [.region ('-' :: '-' :: run), .plain '\n']
  | p => [.region p.text]

end Piece

/-- Parts with single spaces between them. -/
def spaced (parts : List (List Char)) : List Char :=
  [' '].intercalate parts

/-! ## The ends of regions -/

/-- Behind a backslash neither a backslash nor a quote ends an escape literal. -/
theorem closeQuoted_backslashed (content : List Char) {rest : List Char}
    (h : ∀ c ∈ rest.head?, c ≠ '\'') :
    closeQuoted '\'' true (backslashed content ++ '\'' :: rest) =
      (backslashed content ++ ['\''], rest) := by
  induction content with
  | nil =>
    cases rest with
    | nil => rfl
    | cons c rest => simp [backslashed, closeQuoted, h c rfl]
  | cons c content ih =>
    by_cases hc : c = '\\' ∨ c = '\''
    · simp [backslashed, hc, closeQuoted, ih]
    · obtain ⟨hslash, hquote⟩ := not_or.mp hc
      obtain ⟨d, tail, hd⟩ : ∃ d tail, backslashed content ++ '\'' :: rest = d :: tail := by
        cases backslashed content <;> simp
      rw [hd] at ih
      simp [backslashed, hslash, hquote, hd, closeQuoted, ih]

/-- Text with neither a star nor a slash keeps the depth of a comment. -/
theorem closeComment_run {run : List Char} (h : ∀ c ∈ run, c ≠ '*' ∧ c ≠ '/') (depth : Nat)
    (rest : List Char) :
    closeComment depth (run ++ rest) = putInFront run (closeComment depth rest) := by
  induction run with
  | nil => rfl
  | cons c run ih =>
    obtain ⟨hstar, hslash⟩ := h c (List.mem_cons_self ..)
    rw [List.cons_append, ← List.singleton_append (x := c) (l := run)]
    have hrest := ih fun d hd => h d (List.mem_cons_of_mem _ hd)
    cases htail : run ++ rest with
    | nil =>
      obtain ⟨rfl, rfl⟩ := List.append_eq_nil_iff.mp htail
      simp [closeComment, putInFront]
    | cons d tail =>
      rw [htail] at hrest
      simp [closeComment, hstar, hslash, hrest, putInFront]

/-- The inside of a comment keeps its depth. -/
theorem closeComment_chars (body : CommentBody) (depth : Nat) (rest : List Char) :
    closeComment depth (body.chars ++ rest) = putInFront body.chars (closeComment depth rest) := by
  induction body generalizing depth rest with
  | empty => rfl
  | text run bare more ih =>
    rw [CommentBody.chars, List.append_assoc, closeComment_run bare, ih]
    simp [putInFront]
  | nested inner more ihInner ihMore =>
    have hopen (text : List Char) : closeComment depth ('/' :: '*' :: text) =
        putInFront ['/', '*'] (closeComment (depth + 1) text) := by
      simp [closeComment, putInFront]
    have hclose (text : List Char) : closeComment (depth + 1) ('*' :: '/' :: text) =
        putInFront ['*', '/'] (closeComment depth text) := by
      simp [closeComment, putInFront]
    have hchars : (CommentBody.nested inner more).chars ++ rest =
        '/' :: '*' :: (inner.chars ++ '*' :: '/' :: (more.chars ++ rest)) := by
      simp [CommentBody.chars]
    rw [hchars, hopen, ihInner, hclose, ihMore]
    simp [putInFront, CommentBody.chars]

/-- The first occurrence of a delimiter is found behind a body that does not run into it. -/
theorem splitThrough_of_not_infix {needle body : List Char} (hne : needle ≠ [])
    (h : ¬ needle <:+: (body ++ needle).dropLast) (rest : List Char) :
    Text.splitThrough needle (body ++ needle ++ rest) = (body ++ needle, rest) := by
  induction body with
  | nil =>
    obtain ⟨c, tail, rfl⟩ := List.exists_cons_of_ne_nil hne
    have hprefix : (c :: tail).isPrefixOf (c :: (tail ++ rest)) = true :=
      List.isPrefixOf_iff_prefix.mpr (List.prefix_append (c :: tail) rest)
    rw [List.nil_append, List.cons_append, Text.splitThrough, if_pos hprefix, ← List.cons_append,
      List.take_left, List.drop_left]
  | cons c body ih =>
    have hlast : (c :: body ++ needle).dropLast = c :: (body ++ needle).dropLast :=
      List.dropLast_cons_of_ne_nil (by simp [hne])
    rw [hlast] at h
    have hprefix : needle.isPrefixOf (c :: (body ++ needle ++ rest)) = false := by
      rw [Bool.eq_false_iff]
      intro hp
      -- an occurrence at the front would end before the last character of the delimiter
      have hfront : c :: (body ++ needle).dropLast <+: c :: (body ++ needle ++ rest) :=
        (List.prefix_cons_inj c).mpr ((List.dropLast_prefix _).trans (List.prefix_append _ _))
      have hlength : needle.length ≤ (c :: (body ++ needle).dropLast).length := by
        have := List.length_pos_iff.mpr hne
        simp only [List.length_cons, List.length_dropLast, List.length_append]
        omega
      exact h (List.prefix_of_prefix_length_le (List.isPrefixOf_iff_prefix.mp hp) hfront
        hlength).isInfix
    have hrest := ih fun hi => h (List.infix_cons hi)
    rw [List.cons_append, List.cons_append, Text.splitThrough,
      if_neg (Bool.eq_false_iff.mp hprefix), hrest]

/-- The delimiter of a dollar quote is read with its tag. -/
theorem dollarTag?_delimiter {tag : List Char} (h : IsTag tag) (rest : List Char) :
    dollarTag? (tag ++ '$' :: rest) = some (tag ++ ['$']) := by
  have hstop : ∀ c ∈ ('$' :: rest).head?, isTagChar c = false := by
    intro c hc
    cases hc
    decide
  have hstart : tag.head?.any (·.isDigit) = false := by
    cases htag : tag.head? with
    | none => rfl
    | some c => exact h.start c htag
  simp [dollarTag?, takeWhile_run h.word hstop, dropWhile_run h.word hstop, hstart]

/-! ## Where regions open -/

/-- Nothing, or text at whose near end a space stands. -/
def AtSpace (text : List Char) : Prop :=
  ∀ c ∈ text.head?, c = ' '

/-- Where a space stands no other character does. -/
theorem AtSpace.ne {text : List Char} (h : AtSpace text) {d : Char} (hd : d ≠ ' ') :
    ∀ c ∈ text.head?, c ≠ d := by
  rintro c hc rfl
  exact hd (h c hc)

/-- Behind a space a quote opens a standard literal. -/
theorem opensEscapes_of_atSpace {before : List Char} (h : AtSpace before) :
    opensEscapes before = false := by
  cases before with
  | nil => rfl
  | cons c more =>
    obtain rfl : c = ' ' := h c rfl
    cases more <;> rfl

/-- Behind a space and an `E` a quote opens an escape literal. -/
theorem opensEscapes_E {before : List Char} (h : AtSpace before) :
    opensEscapes ('E' :: before) = true := by
  cases before with
  | nil => rfl
  | cons c more =>
    obtain rfl : c = ' ' := h c rfl
    rfl

/-- Behind a space a dollar sign may open a dollar quote. -/
theorem endsInWord_of_atSpace {before : List Char} (h : AtSpace before) :
    endsInWord before = false := by
  cases before with
  | nil => rfl
  | cons c more =>
    obtain rfl : c = ' ' := h c rfl
    rfl

/-- No region opens with a character of plain text. -/
theorem region?_plain {c : Char} {before rest : List Char} (hc : c ∉ ['\'', '"', '$', '?'])
    (hline : ¬ (c = '-' ∧ rest.head? = some '-')) (hblock : ¬ (c = '/' ∧ rest.head? = some '*')) :
    region? before (c :: rest) = none := by
  unfold region?
  split <;> simp_all

/-- Plain text is cut into its characters. -/
theorem segmentsFrom_plain {run rest : List Char} (h : IsPlain run) (hrest : AtSpace rest)
    (before : List Char) :
    segmentsFrom before (run ++ rest) =
      run.map .plain ++ segmentsFrom (run.reverse ++ before) rest := by
  induction run generalizing before with
  | nil => rfl
  | cons c run ih =>
    -- two characters are side by side in the run, or the second is a space behind it
    have hpair {d : Char} (hd : d ≠ ' ') (hno : ¬ [c, d] <:+: c :: run) :
        (run ++ rest).head? ≠ some d := by
      intro he
      cases run with
      | nil => exact hd (hrest d he)
      | cons e run =>
        obtain rfl : e = d := Option.some.inj he
        exact hno ⟨[], run, rfl⟩
    have hregion : region? before (c :: (run ++ rest)) = none := by
      refine region?_plain (h.bare c (List.mem_cons_self ..)) ?_ ?_
      · rintro ⟨rfl, he⟩
        exact hpair (by decide) h.noLineComment he
      · rintro ⟨rfl, he⟩
        exact hpair (by decide) h.noBlockComment he
    have hmark : c ≠ '?' := by
      rintro rfl
      exact h.bare '?' (List.mem_cons_self ..) (by decide)
    have htail : IsPlain run :=
      ⟨fun d hd => h.bare d (List.mem_cons_of_mem _ hd),
        fun hi => h.noLineComment (List.infix_cons hi),
        fun hi => h.noBlockComment (List.infix_cons hi)⟩
    rw [List.cons_append, segmentsFrom_char hregion, if_neg hmark, ih htail]
    simp

/-! ## Pieces -/

/-- A piece is cut into its segments, if it stands between spaces. -/
theorem Piece.segmentsFrom_text (p : Piece) {before rest : List Char} (hbefore : AtSpace before)
    (hrest : AtSpace rest) :
    segmentsFrom before (p.text ++ rest) =
      p.segments ++ segmentsFrom (p.text.reverse ++ before) rest := by
  have hends : ∀ c ∈ rest.head?, endsLexeme c = true := by
    intro c hc
    rw [hrest c hc]
    decide
  have hquote : ∀ c ∈ rest.head?, c ≠ '\'' := hrest.ne (by decide)
  cases p with
  | plain run h => exact segmentsFrom_plain h hrest before
  | marker => exact segmentsFrom_mark before hends
  | name content => exact segmentsFrom_name content before hends
  | literal content =>
    refine segmentsFrom_region ?_
    simp [text, toList_quotedWith, region?, putInFront, opensEscapes_of_atSpace hbefore,
      closeQuoted_doubled '\'' content.toList hquote]
  | escapeLiteral content =>
    have hregion : region? ('E' :: before) ('\'' :: (backslashed content.toList ++ '\'' :: rest)) =
        some ('\'' :: (backslashed content.toList ++ ['\'']), rest) := by
      simp [region?, putInFront, opensEscapes_E hbefore,
        closeQuoted_backslashed content.toList hquote]
    have htext : (escapeLiteral content).text ++ rest =
        'E' :: '\'' :: (backslashed content.toList ++ '\'' :: rest) := by
      simp [text]
    rw [htext, segmentsFrom_inert (by decide), segmentsFrom_region hregion]
    simp [text, segments]
  | dollarQuote tag body htag hbody =>
    have htext : (dollarQuote tag body htag hbody).text ++ rest =
        '$' :: (tag ++ '$' :: (body ++ delimiter tag ++ rest)) := by
      simp [text, delimiter]
    have hdrop : (tag ++ '$' :: (body ++ delimiter tag ++ rest)).drop (tag ++ ['$']).length =
        body ++ delimiter tag ++ rest := by
      have happend : tag ++ '$' :: (body ++ delimiter tag ++ rest) =
          tag ++ ['$'] ++ (body ++ delimiter tag ++ rest) := by simp
      rw [happend, List.drop_left]
    have hsplit : Text.splitThrough ('$' :: (tag ++ ['$'])) (body ++ delimiter tag ++ rest) =
        (body ++ delimiter tag, rest) :=
      splitThrough_of_not_infix (List.cons_ne_nil _ _) hbody rest
    refine segmentsFrom_region ?_
    rw [htext]
    simp only [region?, endsInWord_of_atSpace hbefore, dollarTag?_delimiter htag, hdrop, hsplit]
    rfl
  | lineComment run h =>
    have hrun : ∀ c ∈ run, decide (c ≠ '\n') = true := by
      intro c hc
      rw [decide_eq_true_eq]
      rintro rfl
      exact h hc
    have hstop : ∀ c ∈ ('\n' :: rest).head?, decide (c ≠ '\n') = false := by
      intro c hc
      cases hc
      rfl
    have hregion : region? before ('-' :: '-' :: (run ++ '\n' :: rest)) =
        some ('-' :: '-' :: run, '\n' :: rest) := by
      simp only [region?, putInFront, takeWhile_run hrun hstop, dropWhile_run hrun hstop]
      rfl
    have htext : (lineComment run h).text ++ rest = '-' :: '-' :: (run ++ '\n' :: rest) := by
      simp [text]
    rw [htext, segmentsFrom_region hregion, segmentsFrom_inert (by decide)]
    simp [text, segments]
  | blockComment body =>
    have htext : (blockComment body).text ++ rest =
        '/' :: '*' :: (body.chars ++ '*' :: '/' :: rest) := by
      simp [text]
    refine segmentsFrom_region ?_
    rw [htext]
    simp only [region?, closeComment_chars]
    simp [closeComment, putInFront, text]

/-- The segments of pieces with spaces between them. -/
def Piece.allSegments (pieces : List Piece) : List Segment :=
  [Segment.plain ' '].intercalate (pieces.map Piece.segments)

/-- Pieces with spaces between them are cut piece by piece. -/
theorem segmentsFrom_spaced (pieces : List Piece) {before : List Char} (h : AtSpace before) :
    segmentsFrom before (spaced (pieces.map Piece.text)) = Piece.allSegments pieces := by
  rw [Piece.allSegments]
  induction pieces generalizing before with
  | nil => simp [spaced, segmentsFrom]
  | cons p rest ih =>
    cases rest with
    | nil =>
      have hcut : segmentsFrom before (p.text ++ []) =
          p.segments ++ segmentsFrom (p.text.reverse ++ before) [] :=
        p.segmentsFrom_text h (by simp [AtSpace])
      simpa [spaced, segmentsFrom] using hcut
    | cons q rest =>
      have hspace (tail : List Char) : AtSpace (' ' :: tail) := by simp [AtSpace]
      have htail := ih (hspace (p.text.reverse ++ before))
      simp only [spaced, List.map_cons] at htail ⊢
      rw [List.intercalate_cons_cons, List.append_assoc, List.singleton_append,
        p.segmentsFrom_text h (hspace _), segmentsFrom_inert (by decide), htail,
        List.intercalate_cons_cons, List.append_assoc, List.singleton_append]

namespace Piece

/-- A marker piece is one marker. -/
theorem segments_of_isMarker {p : Piece} (h : p.isMarker = true) :
    p.segments = [.marker false] := by
  cases p with
  | marker => rfl
  | plain | name | literal | escapeLiteral | dollarQuote | lineComment | blockComment => cases h

/-- No other piece holds a marker. -/
theorem isMarker_segments {p : Piece} (h : p.isMarker = false) :
    ∀ s ∈ p.segments, s.isMarker = false := by
  intro s hs
  cases p with
  | marker => cases h
  | plain run =>
    obtain ⟨c, _, rfl⟩ := List.mem_map.mp hs
    rfl
  | escapeLiteral | lineComment =>
    rcases List.mem_cons.mp hs with rfl | hs
    · rfl
    · rw [List.mem_singleton.mp hs]
      rfl
  | name | literal | dollarQuote | blockComment =>
    rw [List.mem_singleton.mp hs]
    rfl

/-- The segments of a piece are its text. -/
theorem flatMap_source_segments (p : Piece) : p.segments.flatMap Segment.source = p.text := by
  cases p with
  | plain run => simp [segments, text, Segment.source, List.flatMap_map]
  | marker => rfl
  | escapeLiteral | lineComment => simp [segments, text, Segment.source]
  | name | literal | dollarQuote | blockComment => simp [segments, Segment.source]

/-- Marker pieces hold one marker each. -/
theorem countP_isMarker_allSegments (pieces : List Piece) :
    (allSegments pieces).countP Segment.isMarker = pieces.countP isMarker := by
  have hpiece (p : Piece) : p.segments.countP Segment.isMarker = if p.isMarker then 1 else 0 := by
    cases hp : p.isMarker with
    | true =>
      rw [segments_of_isMarker hp]
      rfl
    | false =>
      rw [List.countP_eq_zero.mpr fun s hs => by simp [isMarker_segments hp s hs]]
      rfl
  induction pieces with
  | nil => rfl
  | cons p rest ih =>
    rw [List.countP_cons, ← ih, ← hpiece, Nat.add_comm]
    cases rest with
    | nil => simp [allSegments]
    | cons q rest => simp [allSegments, List.intercalate_cons_cons, Segment.isMarker]

/-- The named style names a marker piece and keeps any other. -/
theorem nameMarkers_piece (stem : String) (index : Nat) (p : Piece) (rest : List Segment) :
    nameMarkers stem index (p.segments ++ rest) =
      p.namedAt stem index ++ nameMarkers stem (index + p.isMarker.toNat) rest := by
  cases hp : p.isMarker with
  | true =>
    rw [segments_of_isMarker hp, namedAt, if_pos hp]
    rfl
  | false =>
    rw [nameMarkers_append stem index (isMarker_segments hp), flatMap_source_segments, namedAt,
      if_neg (by simp [hp])]
    rfl

/-- The named style names the marker pieces in their order. -/
theorem nameMarkers_allSegments (stem : String) (index : Nat) (pieces : List Piece) :
    nameMarkers stem index (allSegments pieces) = spaced (named stem index pieces) := by
  have hspace (index : Nat) (rest : List Segment) :
      nameMarkers stem index (.plain ' ' :: rest) = ' ' :: nameMarkers stem index rest := rfl
  induction pieces generalizing index with
  | nil => rfl
  | cons p rest ih =>
    have htail := ih (index + p.isMarker.toNat)
    cases rest with
    | nil =>
      have hlast := nameMarkers_piece stem index p []
      simpa [allSegments, spaced, named, nameMarkers] using hlast
    | cons q rest =>
      simp only [allSegments, spaced, named, List.map_cons] at htail ⊢
      rw [List.intercalate_cons_cons, List.intercalate_cons_cons, List.append_assoc,
        List.singleton_append, nameMarkers_piece, hspace, htail, List.append_assoc,
        List.singleton_append]

/-- The format style gives the marker pieces directives. -/
theorem flatMap_format_allSegments (pieces : List Piece) :
    (allSegments pieces).flatMap Segment.format = spaced (pieces.map formatted) := by
  have hpiece (p : Piece) : p.segments.flatMap Segment.format = p.formatted := by
    cases hp : p.isMarker with
    | true =>
      rw [segments_of_isMarker hp, formatted, if_pos hp]
      rfl
    | false =>
      rw [flatMap_format_of_unmarked (isMarker_segments hp), flatMap_source_segments, formatted,
        if_neg (by simp [hp])]
  have hspace : Segment.format (.plain ' ') = [' '] := rfl
  induction pieces with
  | nil => rfl
  | cons p rest ih =>
    cases rest with
    | nil => simp [allSegments, spaced, hpiece]
    | cons q rest =>
      simp only [allSegments, spaced, List.map_cons] at ih ⊢
      rw [List.intercalate_cons_cons, List.intercalate_cons_cons, List.flatMap_append, ih,
        List.flatMap_append, hpiece, List.flatMap_singleton, hspace]

end Piece

/-- Text made of pieces is restyled piece by piece: with one parameter for each marker piece the
named style succeeds and names the marker pieces in their order, and the format style gives them
directives and doubles the percent signs of all others. -/
theorem pieces_restyled (pieces : List Piece) (stem : String) (params : List Value)
    (h : params.length = pieces.countP Piece.isMarker) :
    namedStyle (String.ofList (spaced (pieces.map Piece.text))) params stem =
        .ok { sql := String.ofList (spaced (Piece.named stem 0 pieces))
              values := indexedParams stem params } ∧
      formatStyle (String.ofList (spaced (pieces.map Piece.text))) =
        String.ofList (spaced (pieces.map Piece.formatted)) := by
  have hsegments : segments (String.ofList (spaced (pieces.map Piece.text))) =
      Piece.allSegments pieces := by
    rw [segments, String.toList_ofList]
    exact segmentsFrom_spaced pieces (by simp [AtSpace])
  constructor
  · have hcount : markerCount (String.ofList (spaced (pieces.map Piece.text))) = params.length := by
      rw [markerCount, hsegments, Piece.countP_isMarker_allSegments, h]
    rw [namedStyle, hcount, hsegments, Piece.nameMarkers_allSegments]
    simp only [if_true]
  · rw [formatStyle, hsegments, Piece.flatMap_format_allSegments]

/-- Pieces of every kind, with characters in them that would mean something outside. -/
def mixedPieces : List Piece := [
  .plain ['a', '-', '%', '>'] ⟨by simp, by decide, by decide⟩, .marker, .name "\"?",
  .literal "\\'$$", .escapeLiteral "'\\?",
  .dollarQuote ['t'] ['?', '$', 's'] ⟨by simp; rfl, by simp⟩ (by decide),
  .lineComment ['?', '\''] (by decide),
  .blockComment (.text ['?'] (by simp) (.nested (.text ['%'] (by simp) .empty) .empty)), .marker]

theorem mixedPieces_restyled :
    namedStyle "a-%> ? \"\"\"?\" '\\''$$' E'\\'\\\\?' $t$?$s$t$ --?'\n /*?/*%*/*/ ?"
        [.int 7, .null] "p" =
      .ok { sql := "a-%> :p_0 \"\"\"?\" '\\''$$' E'\\'\\\\?' $t$?$s$t$ --?'\n /*?/*%*/*/ :p_1"
            values := [("p_0", .int 7), ("p_1", .null)] } ∧
      formatStyle "a-%> ? \"\"\"?\" '\\''$$' E'\\'\\\\?' $t$?$s$t$ --?'\n /*?/*%*/*/ ?" =
        "a-%%> %s \"\"\"?\" '\\''$$' E'\\'\\\\?' $t$?$s$t$ --?'\n /*?/*%%*/*/ %s" := by
  have htext : String.ofList (spaced (mixedPieces.map Piece.text)) =
      "a-%> ? \"\"\"?\" '\\''$$' E'\\'\\\\?' $t$?$s$t$ --?'\n /*?/*%*/*/ ?" := by cbv
  have hnamed : String.ofList (spaced (Piece.named "p" 0 mixedPieces)) =
      "a-%> :p_0 \"\"\"?\" '\\''$$' E'\\'\\\\?' $t$?$s$t$ --?'\n /*?/*%*/*/ :p_1" := by cbv
  have hformat : String.ofList (spaced (mixedPieces.map Piece.formatted)) =
      "a-%%> %s \"\"\"?\" '\\''$$' E'\\'\\\\?' $t$?$s$t$ --?'\n /*?/*%%*/*/ %s" := by cbv
  have hvalues : indexedParams "p" [.int 7, .null] = [("p_0", .int 7), ("p_1", .null)] := by cbv
  have hrestyled := pieces_restyled mixedPieces "p" [.int 7, .null] rfl
  rwa [htext, hnamed, hformat, hvalues] at hrestyled

end PgWrite
