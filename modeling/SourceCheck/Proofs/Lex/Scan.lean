import SourceCheck.Grammar.Lexeme
import SourceCheck.Token.Lex

/-! # What a scan finds

A scan takes a gap, the longest lexeme that starts at its place, or a fault. A fault is a
character that starts no lexeme, or a literal that its line leaves open.
-/

namespace SourceCheck

open Grammar

/-- The text of a literal from its opening quote on, up to the end of its line or of the source,
that no quote closes. A backslash may be the last character of it. -/
structure Grammar.Unclosed (quote : Char) (body rest : List Char) : Prop where
  body_eq : ∃ text, QuotedText quote text ∧ (body = text ∨ body = text ++ ['\\'])
  endsLine : ∀ c ∈ rest.head?, c = '\n'
  not_closed : ∀ text after, QuotedText quote text → body ++ rest ≠ text ++ quote :: after

inductive Grammar.Fault : LexErrorKind → List Char → List Char → Prop
  | unexpectedChar {c : Char} {rest : List Char} : Text.isBlank c = false →
      (∀ kind cs, ¬ Lexeme kind (c :: cs)) → Fault (.unexpectedChar c) [c] rest
  | unterminatedString {body rest : List Char} : Unclosed '"' body rest →
      Fault .unterminatedString ('"' :: body) rest
  | unterminatedChar {body rest : List Char} : Unclosed '\x27' body rest →
      Fault .unterminatedChar ('\x27' :: body) rest

/-- No lexeme in the place of this text is longer than it. -/
def Grammar.IsLongest (lexeme rest : List Char) : Prop :=
  ∀ kind longer, Lexeme kind longer → longer <+: lexeme ++ rest → longer.length ≤ lexeme.length

def Piece.Fits (lexeme rest : List Char) : Piece → Prop
  | .gap => Gap rest lexeme
  | .token kind => Lexeme kind lexeme ∧ IsLongest lexeme rest
  | .fault kind => Fault kind lexeme rest

section Characters

variable {c : Char}

theorem toNat_of_isWordStart (h : isWordStart c = true) :
    65 ≤ c.toNat ∧ c.toNat ≤ 90 ∨ 97 ≤ c.toNat ∧ c.toNat ≤ 122 ∨ c.toNat = 95 := by
  rcases Bool.or_eq_true_iff.mp h with h | h
  · rcases Bool.or_eq_true_iff.mp h with h | h
    · exact .inl (of_decide_eq_true h)
    · obtain ⟨lo, hi⟩ := Bool.and_eq_true_iff.mp h
      exact .inr (.inl ⟨of_decide_eq_true lo, of_decide_eq_true hi⟩)
  · obtain rfl := eq_of_beq h
    exact .inr (.inr rfl)

theorem toNat_of_isDigit (h : c.isDigit = true) : 48 ≤ c.toNat ∧ c.toNat ≤ 57 :=
  Char.isDigit_iff_toNat.mp h

theorem isWordPart_iff : isWordPart c = true ↔ isWordStart c = true ∨ c.isDigit = true := by
  simp only [isWordPart, isWordStart, Char.isAlphanum, Bool.or_eq_true]
  constructor
  · rintro ((h | h) | h)
    · exact .inl (.inl h)
    · exact .inr h
    · exact .inl (.inr h)
  · rintro ((h | h) | h)
    · exact .inl (.inl h)
    · exact .inr h
    · exact .inl (.inr h)

theorem not_isDigit_of_isWordStart (h : isWordStart c = true) : c.isDigit = false := by
  have hstart := toNat_of_isWordStart h
  rw [Bool.eq_false_iff]
  intro hd
  have hdigit := toNat_of_isDigit hd
  omega

theorem not_isBlank_of_isWordPart (h : isWordPart c = true) : Text.isBlank c = false := by
  rcases isWordPart_iff.mp h with h | h
  · have := toNat_of_isWordStart h
    apply Text.not_isBlank_of_graphic <;> omega
  · have := toNat_of_isDigit h
    apply Text.not_isBlank_of_graphic <;> omega

theorem punctuation?_of_isWordPart (h : isWordPart c = true) : punctuation? c = none := by
  fun_cases punctuation? c
  all_goals first | rfl | (subst c; cases h)

theorem punctuation?_eq_some_iff {kind : TokenKind} :
    punctuation? c = some kind ↔ Punctuation kind c := by
  constructor
  · fun_cases punctuation? c
    all_goals first | (subst c; intro h; cases h; constructor) | (intro h; cases h)
  · intro h
    cases h <;> rfl

theorem not_isBlank_of_punctuation? {kind : TokenKind} (h : punctuation? c = some kind) :
    Text.isBlank c = false := by
  revert h
  fun_cases punctuation? c
  all_goals first | (subst c; intro; rfl) | simp

end Characters

section Words

variable {c : Char} {cs : List Char}

theorem Grammar.isWord_keyword (word : Keyword) : IsWord word.spelling.toList := by
  cases word <;> exact ⟨_, _, rfl, by decide, List.all_eq_true.mp (by decide)⟩

theorem Grammar.isWord_primitive (type : PrimitiveType) : IsWord type.spelling.toList := by
  cases type <;> exact ⟨_, _, rfl, by decide, List.all_eq_true.mp (by decide)⟩

theorem Grammar.IsWord.of_cons (h : IsWord (c :: cs)) :
    isWordStart c = true ∧ ∀ d ∈ cs, isWordPart d = true := by
  obtain ⟨_, _, hcs, hc, hall⟩ := h
  cases hcs
  exact ⟨hc, hall⟩

theorem wordKind_cases (w : String) :
    (∃ word : Keyword, wordKind w = .keyword word ∧ w = word.spelling) ∨
    (∃ type : PrimitiveType, wordKind w = .primitive type ∧ w = type.spelling) ∨
    wordKind w = .identifier ∧ (∀ word : Keyword, word.spelling ≠ w) ∧
      ∀ type : PrimitiveType, type.spelling ≠ w := by
  fun_cases wordKind w
  case case12 =>
    refine .inr (.inr ⟨rfl, ?_, ?_⟩)
    · intro word
      cases word <;> exact Ne.symm ‹_›
    · intro type
      cases type <;> exact Ne.symm ‹_›
  all_goals first
    | exact .inl ⟨_, rfl, ‹_›⟩
    | exact .inr (.inl ⟨_, rfl, ‹_›⟩)

theorem Grammar.IsWord.lexeme (h : IsWord cs) : Lexeme (wordKind (String.ofList cs)) cs := by
  rcases wordKind_cases (String.ofList cs) with ⟨word, hk, hw⟩ | ⟨type, hk, hw⟩ | ⟨hk, hw, ht⟩
  · rw [hk, ← String.toList_ofList (l := cs), hw]
    exact .keyword word
  · rw [hk, ← String.toList_ofList (l := cs), hw]
    exact .primitive type
  · rw [hk]
    refine .identifier h ?_ ?_
    · intro word hcs
      apply hw word
      rw [← hcs, String.ofList_toList]
    · intro type hcs
      apply ht type
      rw [← hcs, String.ofList_toList]

end Words

section Quoted

variable {quote : Char}

theorem Grammar.QuotedText.newline_notMem {text : List Char} (h : QuotedText quote text) :
    '\n' ∉ text := by
  induction h with
  | nil => simp
  | plain _ _ hn _ ih => simpa using ⟨Ne.symm hn, ih⟩
  | escaped hn _ ih => simpa using ⟨Ne.symm hn, ih⟩

theorem quoted_of_quotedText (hb : quote ≠ '\\') (hn : quote ≠ '\n') {text : List Char}
    (h : QuotedText quote text) (rest : List Char) :
    quoted quote (text ++ quote :: rest) = (true, text.length + 1) := by
  induction h with
  | nil =>
    rw [List.nil_append, quoted.eq_def]
    simp [hb, hn]
  | plain hq hb' hn' _ ih =>
    rw [List.cons_append, quoted.eq_def]
    simp [hq, hb', hn', ih]
  | escaped hn' _ ih => simp [quoted, hn', ih]

theorem quoted_cases (quote : Char) (cs : List Char) :
    ((quoted quote cs).1 = true ∧
      ∃ text, QuotedText quote text ∧ cs.take (quoted quote cs).2 = text ++ [quote]) ∨
    ((quoted quote cs).1 = false ∧ (∀ c ∈ (cs.drop (quoted quote cs).2).head?, c = '\n') ∧
      ∃ text, QuotedText quote text ∧
        (cs.take (quoted quote cs).2 = text ∨ cs.take (quoted quote cs).2 = text ++ ['\\'])) := by
  fun_induction quoted quote cs with
  | case1 => exact .inr ⟨rfl, by simp, [], .nil, by simp⟩
  | case2 cs => exact .inr ⟨rfl, by simp, [], .nil, by simp⟩
  | case3 => exact .inr ⟨rfl, by simp, [], .nil, by simp⟩
  | case4 => exact .inr ⟨rfl, by simp, [], .nil, by simp⟩
  | case5 d ds hd more _ ih =>
    rcases ih with ⟨hc, text, ht, he⟩ | ⟨hc, hl, text, ht, he⟩
    · exact .inl ⟨hc, '\\' :: d :: text, .escaped hd ht, by simp [he, more]⟩
    · exact .inr ⟨hc, hl, '\\' :: d :: text, .escaped hd ht, by simpa [more] using he⟩
  | case6 cs hn hb => exact .inl ⟨rfl, [], .nil, by simp⟩
  | case7 c cs hn hb hq more ih =>
    rcases ih with ⟨hc, text, ht, he⟩ | ⟨hc, hl, text, ht, he⟩
    · exact .inl ⟨hc, c :: text, .plain hq hb hn ht, by simp [he, more]⟩
    · exact .inr ⟨hc, hl, c :: text, .plain hq hb hn ht, by simpa [more] using he⟩

end Quoted

section Newlines

theorem Grammar.IsWord.newline_notMem {cs : List Char} (h : IsWord cs) : '\n' ∉ cs := by
  obtain ⟨first, rest, rfl, hfirst, hrest⟩ := h
  intro hn
  rcases List.mem_cons.mp hn with rfl | hn
  · cases hfirst
  · cases hrest _ hn

theorem Grammar.IsDigits.newline_notMem {cs : List Char} (h : IsDigits cs) : '\n' ∉ cs := by
  intro hn
  cases h.2 _ hn

/-- No lexeme goes over the end of a line. -/
theorem Grammar.Lexeme.newline_notMem {kind : TokenKind} {cs : List Char} (h : Lexeme kind cs) :
    '\n' ∉ cs := by
  cases h with
  | keyword word => exact (isWord_keyword word).newline_notMem
  | primitive type => exact (isWord_primitive type).newline_notMem
  | identifier hw => exact hw.newline_notMem
  | integer hd => exact hd.newline_notMem
  | float hw hf => simpa using ⟨hw.newline_notMem, hf.newline_notMem⟩
  | string ht => simpa using ht.newline_notMem
  | char ht => simpa using ht.newline_notMem
  | doubleColon => decide
  | punctuation hp =>
    intro hn
    cases List.mem_singleton.mp hn
    cases hp

end Newlines

section Runs

variable {p : Char → Bool} {cs us : List Char}

theorem take_length_takeWhile (p : Char → Bool) (cs : List Char) :
    cs.take (cs.takeWhile p).length = cs.takeWhile p :=
  (List.prefix_iff_eq_take.mp (List.takeWhile_prefix p)).symm

theorem length_le_takeWhile (h : ∀ c ∈ us, p c = true) (hp : us <+: cs) :
    us.length ≤ (cs.takeWhile p).length := by
  obtain ⟨rest, rfl⟩ := hp
  rw [List.takeWhile_append_of_pos h, List.length_append]
  exact Nat.le_add_right ..

theorem le_number (cs : List Char) : (cs.takeWhile Char.isDigit).length ≤ (number cs).2 := by
  fun_cases number cs <;> omega

theorem number_of_float {fraction : List Char} (hu : ∀ c ∈ us, c.isDigit = true)
    (hf : IsDigits fraction) (hp : us ++ '.' :: fraction <+: cs) :
    us.length + 1 + fraction.length ≤ (number cs).2 := by
  obtain ⟨rest, rfl⟩ := hp
  obtain ⟨hne, hd⟩ := hf
  cases fraction with
  | nil => exact (hne rfl).elim
  | cons d ds =>
    have hds := length_le_takeWhile (fun c hc => hd c (List.mem_cons_of_mem d hc))
      (List.prefix_append ds rest)
    have hdot : Char.isDigit '.' = false := rfl
    have htake : ((us ++ '.' :: d :: ds) ++ rest).takeWhile Char.isDigit = us := by
      rw [List.append_assoc, List.takeWhile_append_of_pos hu]
      simp [hdot]
    have hdrop : ((us ++ '.' :: d :: ds) ++ rest).dropWhile Char.isDigit =
        '.' :: d :: (ds ++ rest) := by
      rw [List.append_assoc, List.dropWhile_append_of_pos hu]
      simp [hdot]
    unfold number
    simp only [htake, hdrop, hd d (List.mem_cons_self ..), if_true, List.length_cons]
    omega

theorem lexeme_number {c : Char} (hc : c.isDigit = true) (cs : List Char) :
    Lexeme (number cs).1 (c :: cs.take (number cs).2) := by
  have hw : IsDigits (c :: cs.takeWhile Char.isDigit) := by
    refine ⟨by simp, ?_⟩
    intro d hd
    rcases List.mem_cons.mp hd with rfl | hd
    · exact hc
    · exact List.all_eq_true.mp List.all_takeWhile d hd
  fun_cases number cs with
  | case1 whole d ds hdrop hd =>
    have hcs : cs = cs.takeWhile Char.isDigit ++ '.' :: d :: ds := by
      rw [← hdrop, List.takeWhile_append_dropWhile]
    have htake : cs.take (whole + 2 + (ds.takeWhile Char.isDigit).length) =
        cs.takeWhile Char.isDigit ++ '.' :: d :: ds.takeWhile Char.isDigit := by
      conv => lhs; rw [hcs]
      rw [Nat.add_assoc, List.take_length_add_append, Nat.add_comm 2]
      simp only [List.take_succ_cons, take_length_takeWhile]
    rw [htake, ← List.cons_append]
    apply Lexeme.float hw
    refine ⟨by simp, ?_⟩
    intro e he
    rcases List.mem_cons.mp he with rfl | he
    · exact hd
    · exact List.all_eq_true.mp List.all_takeWhile e he
  | case2 whole d ds hdrop hd =>
    rw [take_length_takeWhile]
    exact .integer hw
  | case3 whole hdrop =>
    rw [take_length_takeWhile]
    exact .integer hw

end Runs

theorem lineLength_cases (cs : List Char) :
    (∃ text, '\n' ∉ text ∧ cs.take (lineLength cs) = text ++ ['\n']) ∨
      '\n' ∉ cs ∧ lineLength cs = cs.length := by
  fun_induction lineLength cs with
  | case1 => exact .inr ⟨by simp, rfl⟩
  | case2 cs => exact .inl ⟨[], by simp, by simp⟩
  | case3 c cs hc ih =>
    rcases ih with ⟨text, ht, he⟩ | ⟨hn, hl⟩
    · exact .inl ⟨c :: text, by simpa using ⟨Ne.symm hc, ht⟩, by simp [he]⟩
    · exact .inr ⟨by simpa using ⟨Ne.symm hc, hn⟩, by simp [hl]⟩

section Scan

variable {c : Char} {cs us : List Char} {kind : TokenKind}

theorem scan_of_isWordPart (h : isWordPart c = true) (cs : List Char) :
    scan c cs = if c.isDigit then (number cs).map .token id else (word c cs).map .token id := by
  have hslash : c ≠ '/' := by rintro rfl; cases h
  have hcolon : c ≠ ':' := by rintro rfl; cases h
  have hstring : c ≠ '"' := by rintro rfl; cases h
  have hchar : c ≠ '\x27' := by rintro rfl; cases h
  simp only [scan, hslash, hcolon, false_and, if_false, not_isBlank_of_isWordPart h,
    Bool.false_eq_true, punctuation?_of_isWordPart h, hstring, hchar]
  split
  · rfl
  next hd => exact if_pos ((isWordPart_iff.mp h).resolve_right hd)

theorem scan_of_isDigit (h : c.isDigit = true) (cs : List Char) :
    scan c cs = (.token (number cs).1, (number cs).2) := by
  rw [scan_of_isWordPart (isWordPart_iff.mpr (.inr h)), if_pos h]
  rfl

theorem scan_of_isWordStart (h : isWordStart c = true) (cs : List Char) :
    scan c cs = (.token (word c cs).1, (word c cs).2) := by
  rw [scan_of_isWordPart (isWordPart_iff.mpr (.inl h)), not_isDigit_of_isWordStart h]
  rfl

theorem scan_string (cs : List Char) :
    scan '"' cs = quotedPiece '"' .string .unterminatedString cs := by
  simp [scan, punctuation?, Text.isBlank]

theorem scan_char (cs : List Char) :
    scan '\x27' cs = quotedPiece '\x27' .char .unterminatedChar cs := by
  simp [scan, punctuation?, Text.isBlank]

/-- Wherever a lexeme starts, a scan finds a token that is at least as long. -/
theorem Grammar.Lexeme.scan (h : Lexeme kind (c :: us)) (hp : us <+: cs)
    (hcomment : ¬ (c = '/' ∧ cs.head? = some '/')) :
    ∃ k, (scan c cs).1 = .token k ∧ us.length ≤ (SourceCheck.scan c cs).2 := by
  have hword : IsWord (c :: us) →
      ∃ k, (SourceCheck.scan c cs).1 = .token k ∧ us.length ≤ (SourceCheck.scan c cs).2 := by
    intro hw
    obtain ⟨hc, hus⟩ := hw.of_cons
    rw [scan_of_isWordStart hc]
    exact ⟨_, rfl, length_le_takeWhile hus hp⟩
  generalize hl : c :: us = lexeme at h hword
  cases h with
  | keyword word => exact hword (isWord_keyword word)
  | primitive type => exact hword (isWord_primitive type)
  | identifier hw => exact hword hw
  | integer hd =>
    subst hl
    obtain ⟨-, hd⟩ := hd
    rw [scan_of_isDigit (hd c (List.mem_cons_self ..))]
    have hle := length_le_takeWhile (fun d h => hd d (List.mem_cons_of_mem c h)) hp
    exact ⟨_, rfl, Nat.le_trans hle (le_number cs)⟩
  | @float whole fraction hw hf =>
    obtain ⟨hne, hw⟩ := hw
    cases whole with
    | nil => exact (hne rfl).elim
    | cons d whole =>
      rw [List.cons_append] at hl
      obtain ⟨rfl, rfl⟩ := List.cons.inj hl
      rw [scan_of_isDigit (hw c (List.mem_cons_self ..))]
      have hle := number_of_float (fun d h => hw d (List.mem_cons_of_mem c h)) hf hp
      refine ⟨_, rfl, ?_⟩
      simp only [List.length_append, List.length_cons]
      omega
  | string ht =>
    cases hl
    obtain ⟨rest, rfl⟩ := hp
    have hq := quoted_of_quotedText (by decide) (by decide) ht rest
    simp [scan_string, quotedPiece, hq]
  | char ht =>
    cases hl
    obtain ⟨rest, rfl⟩ := hp
    have hq := quoted_of_quotedText (by decide) (by decide) ht rest
    simp [scan_char, quotedPiece, hq]
  | doubleColon =>
    cases hl
    obtain ⟨rest, rfl⟩ := hp
    exact ⟨.doubleColon, rfl, Nat.le_refl 1⟩
  | punctuation hc =>
    cases hl
    replace hc := punctuation?_eq_some_iff.mpr hc
    simp only [SourceCheck.scan, if_neg hcomment, not_isBlank_of_punctuation? hc, hc,
      Bool.false_eq_true, if_false]
    split
    · exact ⟨_, rfl, Nat.zero_le _⟩
    · exact ⟨_, rfl, Nat.zero_le _⟩

theorem lexeme_word (h : isWordStart c = true) (cs : List Char) :
    Lexeme (word c cs).1 (c :: cs.take (word c cs).2) := by
  simp only [word, take_length_takeWhile]
  apply IsWord.lexeme
  exact ⟨c, _, rfl, h, fun d hd => List.all_eq_true.mp List.all_takeWhile d hd⟩

theorem quoted_closed_or_unclosed (quote : Char) (cs : List Char) (hb : quote ≠ '\\')
    (hn : quote ≠ '\n') :
    ((quoted quote cs).1 = true ∧
      ∃ text, QuotedText quote text ∧ cs.take (quoted quote cs).2 = text ++ [quote]) ∨
    (quoted quote cs).1 = false ∧
      Unclosed quote (cs.take (quoted quote cs).2) (cs.drop (quoted quote cs).2) := by
  rcases quoted_cases quote cs with h | ⟨hc, hl, ht⟩
  · exact .inl h
  · refine .inr ⟨hc, ht, hl, ?_⟩
    intro text after htext he
    rw [List.take_append_drop] at he
    rw [he, quoted_of_quotedText hb hn htext] at hc
    cases hc

theorem isLongest_of_scan (h : (scan c cs).1 = .token kind) :
    IsLongest (c :: cs.take (scan c cs).2) (cs.drop (scan c cs).2) := by
  intro k longer hk hp
  rw [List.cons_append, List.take_append_drop] at hp
  cases longer with
  | nil => exact Nat.zero_le _
  | cons d us =>
    obtain ⟨rfl, hus⟩ := List.cons_prefix_cons.mp hp
    have hcomment : ¬ (d = '/' ∧ cs.head? = some '/') := by
      intro hc
      simp [scan, hc] at h
    obtain ⟨_, -, hle⟩ := hk.scan hus hcomment
    have hlen := hus.length_le
    simp only [List.length_cons, List.length_take]
    omega

theorem gap_comment (cs : List Char) :
    Gap (cs.drop (lineLength cs)) ('/' :: '/' :: cs.take (lineLength cs)) := by
  rcases lineLength_cases cs with ⟨text, ht, he⟩ | ⟨hn, hl⟩
  · rw [he]
    exact .comment ht .nil
  · rw [hl, List.take_length, List.drop_length]
    exact .lastComment rfl hn

/-- No lexeme starts with a character that is of no use. -/
theorem not_lexeme_of_unexpected (hp : punctuation? c = none) (hs : c ≠ '"') (hc : c ≠ '\x27')
    (hd : c.isDigit ≠ true) (hw : isWordStart c ≠ true) : ¬ Lexeme kind (c :: cs) := by
  intro h
  have hword : ¬ IsWord (c :: cs) := fun h => hw h.of_cons.1
  generalize hl : c :: cs = lexeme at h hword
  cases h with
  | keyword word => exact hword (isWord_keyword word)
  | primitive type => exact hword (isWord_primitive type)
  | identifier hw' => exact hword hw'
  | integer hd' => subst hl; exact hd (hd'.2 c (List.mem_cons_self ..))
  | @float whole fraction hd' =>
    cases whole with
    | nil => exact hd'.1 rfl
    | cons d whole => cases hl; exact hd (hd'.2 c (List.mem_cons_self ..))
  | string => cases hl; exact hs rfl
  | char => cases hl; exact hc rfl
  | doubleColon => cases hl; cases hp
  | punctuation h => cases hl; cases hp.symm.trans (punctuation?_eq_some_iff.mpr h)

theorem quotedPiece_fits {quote : Char} {fault : LexErrorKind} (hb : quote ≠ '\\')
    (hn : quote ≠ '\n')
    (hl : ∀ text, QuotedText quote text → Lexeme kind (quote :: (text ++ [quote])))
    (hf : ∀ body rest, Unclosed quote body rest → Fault fault (quote :: body) rest)
    (hlong : ∀ {k}, (quotedPiece quote kind fault cs).1 = .token k →
      IsLongest (quote :: cs.take (quotedPiece quote kind fault cs).2)
        (cs.drop (quotedPiece quote kind fault cs).2)) :
    (quotedPiece quote kind fault cs).1.Fits (quote :: cs.take (quotedPiece quote kind fault cs).2)
      (cs.drop (quotedPiece quote kind fault cs).2) := by
  rcases quoted_closed_or_unclosed quote cs hb hn with ⟨hc, text, ht, he⟩ | ⟨hc, hu⟩
  · simp only [quotedPiece, hc, if_true, he] at hlong ⊢
    exact ⟨hl text ht, hlong rfl⟩
  · simp only [quotedPiece, hc]
    exact hf _ _ hu

/-- What a scan finds is a gap, the longest lexeme in its place, or a fault. -/
theorem scan_fits (c : Char) (cs : List Char) :
    (scan c cs).1.Fits (c :: cs.take (scan c cs).2) (cs.drop (scan c cs).2) := by
  have hlong : ∀ {kind}, (scan c cs).1 = .token kind →
      IsLongest (c :: cs.take (scan c cs).2) (cs.drop (scan c cs).2) := isLongest_of_scan
  revert hlong
  fun_cases scan c cs with
  | case1 h =>
    obtain ⟨rfl, hh⟩ := h
    obtain ⟨ds, rfl⟩ := List.head?_eq_some_iff.mp hh
    exact fun _ => gap_comment ds
  | case2 _ hb => exact fun _ => .blank hb .nil
  | case3 _ _ h =>
    obtain ⟨rfl, hh⟩ := h
    obtain ⟨ds, rfl⟩ := List.head?_eq_some_iff.mp hh
    exact fun hlong => ⟨.doubleColon, hlong rfl⟩
  | case4 _ _ _ kind hk =>
    exact fun hlong => ⟨.punctuation (punctuation?_eq_some_iff.mp hk), hlong rfl⟩
  | case5 _ _ _ _ hc =>
    subst hc
    exact quotedPiece_fits (by decide) (by decide) (fun _ => .string)
      (fun _ _ => .unterminatedString)
  | case6 _ _ _ _ _ hc =>
    subst hc
    exact quotedPiece_fits (by decide) (by decide) (fun _ => .char)
      (fun _ _ => .unterminatedChar)
  | case7 _ _ _ _ _ _ hd => exact fun hlong => ⟨lexeme_number hd cs, hlong rfl⟩
  | case8 _ _ _ _ _ _ _ hw => exact fun hlong => ⟨lexeme_word hw cs, hlong rfl⟩
  | case9 _ hb _ hp hs hc hd hw =>
    refine fun _ => .unexpectedChar (by simpa using hb) ?_
    intro kind us
    exact not_lexeme_of_unexpected hp hs hc hd hw

end Scan

end SourceCheck
