import SourceCheck.Proofs.Lex.Newline

/-! # Faults are read as blanks

Where a source holds no lexeme, lexing goes on as if spaces stood there: with a space in place of
every byte of an error, the text has no error, and its tokens are the same. A token that stands
next to a fault is not read together with the spaces; and since no fault has a newline in it, the
lines are the same as well.
-/

namespace SourceCheck

open Grammar

def Span.Holds (s : Span) (offset : Nat) : Prop := s.start ≤ offset ∧ offset < s.stop

instance (s : Span) (offset : Nat) : Decidable (s.Holds offset) :=
  inferInstanceAs (Decidable (_ ∧ _))

/-- A byte at an offset, or a space if the offset is inside one of the spans. -/
def blankAt (spans : List Span) (byte : UInt8 × Nat) : UInt8 :=
  if ∃ s ∈ spans, s.Holds byte.2 then 0x20 else byte.1

def blankOut (spans : List Span) (bytes : List UInt8) : List UInt8 :=
  bytes.zipIdx.map (blankAt spans)

def Token.outline (t : Token) : TokenKind × String × Span × Nat :=
  (t.kind, t.text, t.span, t.position.row)

/-- The text of a piece, or as many spaces as it has bytes if it is a fault. -/
def Piece.blanked (lexeme : List Char) : Piece → List Char
  | .gap | .token _ => lexeme
  | .fault _ => List.replicate (Text.byteLength lexeme) ' '

def blankFaults : List Char → List Char
  | [] => []
  | c :: cs =>
    let head := scan c cs
    head.1.blanked (c :: cs.take head.2) ++ blankFaults (cs.drop head.2)
termination_by cs => cs.length
decreasing_by simp only [List.length_drop, List.length_cons]; omega

section Follows

variable {kind : TokenKind} {c d : Char} {cs us : List Char}

theorem isWordPart_of_carries (hk : kind.isWord = true) (h : kind.carries d = true) :
    isWordPart d = true := by
  simp only [TokenKind.carries, hk, Bool.true_and] at h
  cases kind <;> cases hk <;> simpa [TokenKind.isNumber] using h

theorem isDigit_or_eq_dot_of_carries (hk : kind.isNumber = true) (h : kind.carries d = true) :
    d.isDigit = true ∨ d = '.' := by
  simp only [TokenKind.carries, hk, Bool.true_and] at h
  cases kind <;> cases hk <;> simpa [TokenKind.isWord] using h

/-- A lexeme and a character that its kind carries make a longer lexeme, but for the point after a
number and the second slash of a comment. -/
theorem Grammar.Lexeme.exists_longer (h : Lexeme kind us) (hd : kind.carries d = true)
    (hdot : d ≠ '.') (hdiv : kind ≠ .operator .div) : ∃ k, Lexeme k (us ++ [d]) := by
  have hword : kind.isWord = true → IsWord us → ∃ k, Lexeme k (us ++ [d]) := by
    rintro hk ⟨first, rest, rfl, hfirst, hrest⟩
    have hpart := isWordPart_of_carries hk hd
    refine ⟨_, IsWord.lexeme ⟨first, rest ++ [d], rfl, hfirst, ?_⟩⟩
    simpa [or_imp, forall_and] using ⟨hrest, hpart⟩
  have hdigits : kind.isNumber = true → ∀ {vs}, IsDigits vs → IsDigits (vs ++ [d]) := by
    rintro hk vs ⟨-, hvs⟩
    have hdigit := (isDigit_or_eq_dot_of_carries hk hd).resolve_right hdot
    exact ⟨by simp, by simpa [or_imp, forall_and] using ⟨hvs, hdigit⟩⟩
  cases h with
  | keyword word => exact hword rfl (isWord_keyword word)
  | primitive type => exact hword rfl (isWord_primitive type)
  | identifier hw => exact hword rfl hw
  | integer hu => exact ⟨_, .integer (hdigits rfl hu)⟩
  | float hw hf =>
    rw [List.append_assoc, List.cons_append]
    exact ⟨_, .float hw (hdigits rfl hf)⟩
  | string | char | doubleColon => cases hd
  | punctuation hp =>
    cases hp with
    | colon =>
      obtain rfl : d = ':' := by
        simpa [TokenKind.carries, TokenKind.isWord, TokenKind.isNumber] using hd
      exact ⟨_, .doubleColon⟩
    | div => exact (hdiv rfl).elim
    | _ => cases hd

theorem eq_dot_of_carries (h : (scan c cs).1 = .token kind)
    (hd : d ∈ (cs.drop (scan c cs).2).head?) (hcarries : kind.carries d = true) : d = '.' := by
  obtain ⟨hlexeme, hlongest⟩ : (Piece.token kind).Fits _ _ := h ▸ scan_fits c cs
  obtain ⟨rest, hrest⟩ := List.head?_eq_some_iff.mp hd
  have hcs : cs = cs.take (scan c cs).2 ++ d :: rest := by rw [← hrest, List.take_append_drop]
  rw [hrest] at hlongest
  generalize cs.take (scan c cs).2 = us at hlexeme hlongest hcs
  by_contra hdot
  by_cases hdiv : kind = .operator .div
  · subst hdiv
    cases hlexeme with
    | punctuation hp =>
      cases hp
      obtain rfl : d = '/' := by
        simpa [TokenKind.carries, TokenKind.isWord, TokenKind.isNumber] using hcarries
      subst hcs
      cases h
  · obtain ⟨k, hk⟩ := hlexeme.exists_longer hcarries hdot hdiv
    have hle := hlongest k _ hk ⟨rest, by simp⟩
    simp only [List.length_append, List.length_singleton] at hle
    omega

end Follows

section Blanked

variable {cs : List Char}

theorem byteLength_spaces (n : Nat) : Text.byteLength (List.replicate n ' ') = n := by
  induction n with
  | zero => rfl
  | succ n ih => rw [List.replicate_succ, Text.byteLength_cons, ih, Nat.add_comm]; rfl

theorem Piece.byteLength_blanked (piece : Piece) (lexeme : List Char) :
    Text.byteLength (piece.blanked lexeme) = Text.byteLength lexeme := by
  cases piece <;> simp [blanked, byteLength_spaces]

theorem Grammar.Unclosed.newline_notMem {quote : Char} {body rest : List Char}
    (h : Unclosed quote body rest) : '\n' ∉ body := by
  obtain ⟨text, ht, rfl | rfl⟩ := h.body_eq
  · exact ht.newline_notMem
  · simpa using ht.newline_notMem

/-- No fault goes over the end of a line. -/
theorem Grammar.Fault.newline_notMem {kind : LexErrorKind} {lexeme rest : List Char}
    (h : Fault kind lexeme rest) : '\n' ∉ lexeme := by
  cases h with
  | unexpectedChar hb =>
    simp only [List.mem_singleton]
    rintro rfl
    cases hb
  | unterminatedString hu => simpa using hu.newline_notMem
  | unterminatedChar hu => simpa using hu.newline_notMem

theorem Piece.Fits.count_blanked {piece : Piece} {lexeme rest : List Char}
    (h : piece.Fits lexeme rest) : (piece.blanked lexeme).count '\n' = lexeme.count '\n' := by
  cases piece with
  | gap | token => rfl
  | fault =>
    rw [List.count_eq_zero_of_not_mem (Fault.newline_notMem h), blanked, List.count_replicate]
    rfl

theorem byteLength_blankFaults (cs : List Char) :
    Text.byteLength (blankFaults cs) = Text.byteLength cs := by
  fun_induction blankFaults cs with
  | case1 => rfl
  | case2 c cs head ih =>
    rw [Text.byteLength_append, Piece.byteLength_blanked, ih, ← Text.byteLength_append,
      List.cons_append, List.take_append_drop]

theorem count_blankFaults (cs : List Char) : (blankFaults cs).count '\n' = cs.count '\n' := by
  fun_induction blankFaults cs with
  | case1 => rfl
  | case2 c cs head ih =>
    rw [List.count_append, (scan_fits c cs).count_blanked, ih, ← List.count_append,
      List.cons_append, List.take_append_drop]

theorem scan_dot (cs : List Char) : scan '.' cs = (.fault (.unexpectedChar '.'), 0) := by
  simp [scan, punctuation?, Text.isBlank, isWordStart]

theorem eq_space_or_mem_head? {d : Char} (h : d ∈ (blankFaults cs).head?) :
    d = ' ' ∨ d ∈ cs.head? ∧ d ≠ '.' := by
  cases cs with
  | nil => simp [blankFaults] at h
  | cons c cs =>
    rw [blankFaults] at h
    cases hh : (scan c cs).1 with
    | gap | token =>
      simp only [hh, Piece.blanked, List.cons_append] at h
      cases h
      refine .inr ⟨rfl, ?_⟩
      rintro rfl
      rw [scan_dot] at hh
      cases hh
    | fault =>
      have hpos := byteLength_pos (List.cons_ne_nil c (cs.take (scan c cs).2))
      simp only [hh, Piece.blanked, List.head?_append, List.head?_replicate,
        if_neg hpos.ne'] at h
      cases h
      exact .inl rfl

theorem endsBefore_blankFaults {kind : TokenKind} {c : Char}
    (h : (scan c cs).1 = .token kind) : kind.EndsBefore (blankFaults (cs.drop (scan c cs).2)) := by
  intro d hd
  rcases eq_space_or_mem_head? hd with rfl | ⟨hmem, hdot⟩
  · exact carries_of_isBlank rfl
  · rw [Bool.eq_false_iff]
    exact fun hcarries => hdot (eq_dot_of_carries h hmem hcarries)

theorem Grammar.Gap.spaces (rest : List Char) (n : Nat) : Gap rest (List.replicate n ' ') := by
  induction n with
  | zero => exact .nil
  | succ n ih => exact .blank rfl ih

/-- A separator only minds whether something follows it. -/
theorem Grammar.Gap.of_rest {rest rest' gap : List Char} (h : Gap rest gap)
    (hr : rest = [] → rest' = []) : Gap rest' gap := by
  induction h with
  | nil => exact .nil
  | blank hc _ ih => exact .blank hc ih
  | comment ht _ ih => exact .comment ht ih
  | lastComment hnil ht => exact .lastComment (hr hnil) ht

end Blanked

section Lexing

structure Place.Level (p q : Place) : Prop where
  offset_eq : p.offset = q.offset
  row_eq : p.row = q.row

variable {p q : Place} {us vs : List Char}

theorem Place.Level.advance (h : Level p q) (hb : Text.byteLength us = Text.byteLength vs)
    (hn : us.count '\n' = vs.count '\n') : Level (p.advance us) (q.advance vs) where
  offset_eq := by rw [offset_advance, offset_advance, h.offset_eq, hb]
  row_eq := by rw [row_advance, row_advance, h.row_eq, hn]

theorem Place.Level.advance_blanked (h : Level p q) {piece : Piece} {lexeme rest : List Char}
    (hfits : piece.Fits lexeme rest) :
    Level (p.advance (piece.blanked lexeme)) (q.advance lexeme) :=
  h.advance (piece.byteLength_blanked lexeme) hfits.count_blanked

theorem Place.Level.outline_between {p' q' : Place} (h : Level p q) (h' : Level p' q')
    (kind : TokenKind) (lexeme : List Char) :
    (Token.between p p' kind lexeme).outline = (Token.between q q' kind lexeme).outline := by
  simp only [Token.between, Token.outline, Place.position, h.offset_eq, h.row_eq, h'.offset_eq]

/-- Lexing finds the same tokens in a text with its faults blanked, and no error. -/
theorem lexFrom_blankFaults (q : Place) (cs : List Char) : ∀ p : Place, p.Level q →
    (lexFrom p (blankFaults cs)).errors = [] ∧
      (lexFrom p (blankFaults cs)).tokens.map Token.outline =
        (lexFrom q cs).tokens.map Token.outline := by
  fun_induction lexFrom q cs with
  | case1 q =>
    intro p _
    rw [blankFaults, lexFrom]
    exact ⟨rfl, rfl⟩
  | case2 q c cs head lexeme q' ih =>
    intro p h
    have hfits : head.1.Fits lexeme (cs.drop head.2) := scan_fits c cs
    have hlevel := h.advance_blanked hfits
    have hblank : blankFaults (c :: cs) =
        head.1.blanked lexeme ++ blankFaults (cs.drop head.2) := by rw [blankFaults]
    rw [hblank]
    cases hh : head.1 with
    | gap =>
      rw [hh] at hfits hlevel
      have hg : Gap (blankFaults (cs.drop head.2)) lexeme :=
        hfits.of_rest fun hnil => by rw [hnil, blankFaults]
      rw [Piece.blanked, lexFrom_gap hg]
      exact ih _ hlevel
    | token kind =>
      rw [hh] at hfits hlevel
      rw [Piece.blanked, lexFrom_lexeme hfits.1 (endsBefore_blankFaults hh)]
      obtain ⟨herrors, htokens⟩ := ih _ hlevel
      exact ⟨herrors, congrArg₂ (· :: ·) (h.outline_between hlevel kind lexeme) htokens⟩
    | fault kind =>
      rw [hh] at hlevel
      rw [Piece.blanked, lexFrom_gap (.spaces _ _)]
      exact ih _ hlevel

end Lexing

namespace Text

def bytes (cs : List Char) : List UInt8 := cs.flatMap String.utf8EncodeChar

theorem toList_toUTF8 (s : String) : s.toUTF8.data.toList = bytes s.toList := by
  conv => lhs; rw [← String.ofList_toList (s := s)]
  rw [String.toUTF8_eq_toByteArray, String.toByteArray_ofList, List.utf8Encode,
    List.data_toByteArray, bytes]

theorem bytes_append (l r : List Char) : bytes (l ++ r) = bytes l ++ bytes r :=
  List.flatMap_append

theorem length_bytes (cs : List Char) : (bytes cs).length = byteLength cs := by
  induction cs with
  | nil => rfl
  | cons c cs ih =>
    rw [byteLength_cons, ← ih, ← String.length_utf8EncodeChar, ← List.length_append]
    rfl

theorem bytes_spaces (n : Nat) : bytes (List.replicate n ' ') = List.replicate n 0x20 := by
  induction n with
  | zero => rfl
  | succ n ih => exact congrArg (0x20 :: ·) ih

end Text

section Bytes

variable {spans : List Span} {bytes : List UInt8} {k : Nat}

theorem map_blankAt_of_outside
    (h : ∀ s ∈ spans, ∀ i, k ≤ i → i < k + bytes.length → ¬ s.Holds i) :
    (bytes.zipIdx k).map (blankAt spans) = bytes := by
  conv => rhs; rw [← List.zipIdx_map_fst k bytes]
  apply List.map_congr_left
  rintro ⟨b, i⟩ hb
  obtain ⟨hlo, hhi, -⟩ := List.mem_zipIdx hb
  refine if_neg ?_
  rintro ⟨s, hs, hi⟩
  exact h s hs i hlo hhi hi

theorem map_blankAt_of_inside {s : Span} (hs : s ∈ spans)
    (h : ∀ i, k ≤ i → i < k + bytes.length → s.Holds i) :
    (bytes.zipIdx k).map (blankAt spans) = List.replicate bytes.length 0x20 := by
  rw [← List.length_zipIdx (l := bytes) (i := k), List.map_eq_replicate_iff]
  rintro ⟨b, i⟩ hb
  obtain ⟨hlo, hhi, -⟩ := List.mem_zipIdx hb
  exact if_pos ⟨s, hs, h i hlo hhi⟩

theorem map_blankAt_cons {s : Span} (h : s.stop ≤ k) :
    (bytes.zipIdx k).map (blankAt (s :: spans)) = (bytes.zipIdx k).map (blankAt spans) := by
  apply List.map_congr_left
  rintro ⟨b, i⟩ hb
  obtain ⟨hlo, -, -⟩ := List.mem_zipIdx hb
  have hs : ¬ s.Holds i := fun hi => by have := hi.2; omega
  simp only [blankAt, List.exists_mem_cons_iff, hs, false_or]

end Bytes

theorem le_start_of_mem_errors {p : Place} {cs : List Char} {e : LexError}
    (h : e ∈ (lexFrom p cs).errors) : p.offset ≤ e.span.start := by
  obtain ⟨fs, -, he, hc⟩ := lexFrom_cut p cs
  rw [← he] at h
  obtain ⟨f, hf, hfe⟩ := List.mem_filterMap.mp h
  obtain rfl := Finding.eq_error hfe
  exact hc.le_start _ hf

/-- To blank out the spans of the errors is to blank the faults. -/
theorem bytes_blankFaults (p : Place) (cs : List Char) :
    ((Text.bytes cs).zipIdx p.offset).map (blankAt ((lexFrom p cs).errors.map (·.span))) =
      Text.bytes (blankFaults cs) := by
  fun_induction lexFrom p cs with
  | case1 => rw [blankFaults]; rfl
  | case2 p c cs head lexeme q ih =>
    have hcs : c :: cs = lexeme ++ cs.drop head.2 := by
      rw [List.cons_append, List.take_append_drop]
    have hblank : blankFaults (c :: cs) =
        head.1.blanked lexeme ++ blankFaults (cs.drop head.2) := by rw [blankFaults]
    have hq : p.offset + (Text.bytes lexeme).length = q.offset := by
      rw [Text.length_bytes, ← Place.offset_advance]
    have hlater : ((Text.bytes lexeme).zipIdx p.offset).map
        (blankAt ((lexFrom q (cs.drop head.2)).errors.map (·.span))) = Text.bytes lexeme := by
      apply map_blankAt_of_outside
      intro s hs i _ hi hholds
      obtain ⟨e, he, rfl⟩ := List.mem_map.mp hs
      have hstart := le_start_of_mem_errors he
      have := hholds.1
      omega
    rw [hblank, hcs, Text.bytes_append, Text.bytes_append, List.zipIdx_append, List.map_append, hq]
    cases hh : head.1 with
    | gap => exact congrArg₂ (· ++ ·) hlater ih
    | token kind => exact congrArg₂ (· ++ ·) hlater ih
    | fault kind =>
      simp only [Lexed.add, List.map_cons]
      rw [map_blankAt_cons (Nat.le_refl _), ih, map_blankAt_of_inside (List.mem_cons_self ..),
        Piece.blanked, Text.bytes_spaces, Text.length_bytes]
      intro i hlo hhi
      exact ⟨hlo, hq ▸ hhi⟩

theorem outline_lex (source : String) :
    (lex source).stream.toList.map Token.outline =
      (lexFrom .start source.toList).tokens.map Token.outline ++
        [(.eof, "", .empty (Text.byteLength source.toList),
          (Place.start.advance source.toList).row)] := by
  rw [TokenStream.toList, List.map_append, List.map_singleton, eof_lex, tokens_lex]
  rfl

/-- A source with spaces in place of the bytes of its errors is a source of the same length
without errors, and it has the same tokens: their kinds, texts, bytes and rows. -/
theorem lex_blanked (source : String) :
    ∃ blanked : String,
      blanked.toUTF8.data.toList =
          blankOut ((lex source).errors.map (·.span)) source.toUTF8.data.toList ∧
        blanked.utf8ByteSize = source.utf8ByteSize ∧
        (lex blanked).errors = [] ∧
        (lex blanked).stream.toList.map Token.outline =
          (lex source).stream.toList.map Token.outline := by
  obtain ⟨blanked, hchars⟩ : ∃ blanked : String, blanked.toList = blankFaults source.toList :=
    ⟨.ofList _, String.toList_ofList⟩
  have hlevel : Place.Level .start .start := ⟨rfl, rfl⟩
  obtain ⟨herrors, htokens⟩ := lexFrom_blankFaults .start source.toList .start hlevel
  have hstop := hlevel.advance (byteLength_blankFaults source.toList)
    (count_blankFaults source.toList)
  have hbytes : blanked.toUTF8.data.toList =
      blankOut ((lex source).errors.map (·.span)) source.toUTF8.data.toList := by
    rw [Text.toList_toUTF8, Text.toList_toUTF8, hchars, errors_lex]
    exact (bytes_blankFaults .start source.toList).symm
  refine ⟨blanked, hbytes, ?_, ?_, ?_⟩
  · have hlength := congrArg List.length hbytes
    simpa [blankOut] using hlength
  · rw [errors_lex, hchars]
    exact herrors
  · rw [outline_lex, outline_lex, hchars, htokens, byteLength_blankFaults, hstop.row_eq]

end SourceCheck
