import Mathlib.Data.List.Chain
import SourceCheck.Proofs.Lex.Partition

/-! # Written sources are read back

A source is written out as lexemes in order, with separators before, between and after them. If
the separators keep the lexemes apart, lexing gives back the lexemes where they were written. A
character after a lexeme is carried by it if a scan would take the two together; no separator
starts with such a character, and of two lexemes only those that run into each other do.
-/

namespace SourceCheck

open Grammar

namespace TokenKind

def isWord : TokenKind → Bool
  | keyword _ | primitive _ | identifier => true
  | _ => false

def isNumber : TokenKind → Bool
  | integer | float => true
  | _ => false

/-- Whether lexemes of two kinds, with nothing between them, are read as something else. A word
may follow a number directly. -/
def runsInto (first second : TokenKind) : Bool :=
  first.isWord && (second.isWord || second.isNumber) || first.isNumber && second.isNumber ||
    first == colon && (second == colon || second == doubleColon) ||
    first == operator .div && second == operator .div

/-- Whether a scan that has read a lexeme of a kind might take a character right after it. -/
def carries (kind : TokenKind) (c : Char) : Bool :=
  kind.isWord && isWordPart c || kind.isNumber && (c.isDigit || c == '.') ||
    kind == colon && c == ':' || kind == operator .div && c == '/'

def EndsBefore (kind : TokenKind) (rest : List Char) : Prop :=
  ∀ c ∈ rest.head?, kind.carries c = false

end TokenKind

namespace Grammar

/-- A lexeme to be written, by its kind and text, and the separator in front of it. -/
structure Entry where
  gap : List Char
  kind : TokenKind
  text : String
  deriving DecidableEq, Repr

/-- The text as it is written: that of a literal gets its quotes. -/
def Entry.lexeme (e : Entry) : List Char :=
  match e.kind with
  | .string => '"' :: (e.text.toList ++ ['"'])
  | .char => '\x27' :: (e.text.toList ++ ['\x27'])
  | _ => e.text.toList

structure Layout where
  entries : List Entry
  last : List Char
  deriving DecidableEq, Repr

/-- A separator between a lexeme and what comes next, another lexeme or the end. -/
structure Separates (kind : TokenKind) (gap : List Char) (next : Option TokenKind) : Prop where
  apart : gap = [] → ∀ k ∈ next, kind.runsInto k = false
  noComment : kind = .operator .div → ¬ ['/', '/'] <+: gap

instance (kind : TokenKind) (gap : List Char) (next : Option TokenKind) :
    Decidable (Separates kind gap next) :=
  decidable_of_iff ((gap = [] → ∀ k ∈ next, kind.runsInto k = false) ∧
    (kind = .operator .div → ¬ ['/', '/'] <+: gap))
    ⟨fun h => ⟨h.1, h.2⟩, fun h => ⟨h.apart, h.noComment⟩⟩

namespace Layout

def chars (l : Layout) : List Char := (l.entries.flatMap fun e => e.gap ++ e.lexeme) ++ l.last

def placesFrom (offset : Nat) : List Entry → List (TokenKind × String × Span)
  | [] => []
  | e :: es =>
    let start := offset + Text.byteLength e.gap
    let stop := start + Text.byteLength e.lexeme
    (e.kind, e.text, ⟨start, stop⟩) :: placesFrom stop es

/-- Well-formed lexemes with separators that keep them apart. In front of a lexeme every comment
is closed, whatever follows; only the last separator may leave its last comment open. -/
structure IsReadable (l : Layout) : Prop where
  lexemes : ∀ e ∈ l.entries, Lexeme e.kind e.lexeme
  gaps : ∀ e ∈ l.entries, ∀ rest, Gap rest e.gap
  last : Gap [] l.last
  between : l.entries.IsChain fun e f => Separates e.kind f.gap (some f.kind)
  after : ∀ e ∈ l.entries.getLast?, Separates e.kind l.last none

end Layout

end Grammar

section Exact

variable {p : Char → Bool} {us rest : List Char}

theorem takeWhile_append_of_head (hu : ∀ c ∈ us, p c = true)
    (hr : ∀ c ∈ rest.head?, p c = false) : (us ++ rest).takeWhile p = us := by
  rw [List.takeWhile_append_of_pos hu]
  cases rest with
  | nil => simp
  | cons c rest => simp [hr c rfl]

theorem dropWhile_append_of_head (hu : ∀ c ∈ us, p c = true)
    (hr : ∀ c ∈ rest.head?, p c = false) : (us ++ rest).dropWhile p = rest := by
  rw [List.dropWhile_append_of_pos hu]
  cases rest with
  | nil => rfl
  | cons c rest => simp [hr c rfl]

theorem number_of_digits (hu : ∀ c ∈ us, c.isDigit = true)
    (hr : ∀ c ∈ rest.head?, c.isDigit = false ∧ c ≠ '.') :
    number (us ++ rest) = (.integer, us.length) := by
  have hr' : ∀ c ∈ rest.head?, c.isDigit = false := fun c hc => (hr c hc).1
  unfold number
  rw [takeWhile_append_of_head hu hr', dropWhile_append_of_head hu hr']
  split
  next d ds => exact ((hr '.' rfl).2 rfl).elim
  next => rfl

theorem number_of_fraction {fraction : List Char} (hu : ∀ c ∈ us, c.isDigit = true)
    (hf : IsDigits fraction) (hr : ∀ c ∈ rest.head?, c.isDigit = false) :
    number (us ++ '.' :: (fraction ++ rest)) = (.float, us.length + 1 + fraction.length) := by
  obtain ⟨hne, hd⟩ := hf
  have hdot : ∀ c ∈ ('.' :: (fraction ++ rest)).head?, c.isDigit = false := by
    rintro c hc
    cases hc
    rfl
  unfold number
  rw [takeWhile_append_of_head hu hdot, dropWhile_append_of_head hu hdot]
  cases fraction with
  | nil => exact (hne rfl).elim
  | cons d ds =>
    have hds := takeWhile_append_of_head (fun c hc => hd c (List.mem_cons_of_mem d hc)) hr
    simp only [List.cons_append, hd d (List.mem_cons_self ..), if_true, hds, List.length_cons,
      Prod.mk.injEq, true_and]
    omega

end Exact

section Scan

variable {kind next : TokenKind} {c : Char} {cs us rest : List Char}

theorem Grammar.Lexeme.isWord (h : Lexeme kind cs) (hk : kind.isWord = true) : IsWord cs := by
  cases h with
  | keyword word => exact isWord_keyword word
  | primitive type => exact isWord_primitive type
  | identifier hw => exact hw
  | punctuation hp => cases hp <;> cases hk
  | _ => cases hk

theorem Grammar.Lexeme.wordKind_eq (h : Lexeme kind cs) (hk : kind.isWord = true) :
    wordKind (String.ofList cs) = kind := by
  cases h with
  | keyword word => rw [String.ofList_toList, wordKind_keyword]
  | primitive type => rw [String.ofList_toList, wordKind_primitive]
  | identifier _ hword htype =>
    rcases wordKind_cases (String.ofList cs) with ⟨word, -, hw⟩ | ⟨type, -, ht⟩ | ⟨hi, -⟩
    · exact (hword word (by rw [← hw, String.toList_ofList])).elim
    · exact (htype type (by rw [← ht, String.toList_ofList])).elim
    · exact hi
  | punctuation hp => cases hp <;> cases hk
  | _ => cases hk

theorem TokenKind.EndsBefore.word (h : kind.EndsBefore rest) (hk : kind.isWord = true) :
    ∀ c ∈ rest.head?, isWordPart c = false := by
  intro c hc
  have hcarries := h c hc
  simp only [carries, hk, Bool.true_and, Bool.or_eq_false_iff] at hcarries
  exact hcarries.1.1.1

theorem TokenKind.EndsBefore.number (h : kind.EndsBefore rest) (hk : kind.isNumber = true) :
    ∀ c ∈ rest.head?, c.isDigit = false ∧ c ≠ '.' := by
  intro c hc
  have hcarries := h c hc
  simp only [carries, hk, Bool.true_and, Bool.or_eq_false_iff, beq_eq_false_iff_ne] at hcarries
  exact hcarries.1.1.2

theorem scan_of_word (h : Lexeme kind (c :: us)) (hk : kind.isWord = true)
    (he : kind.EndsBefore rest) : scan c (us ++ rest) = (.token kind, us.length) := by
  obtain ⟨hc, hus⟩ := (h.isWord hk).of_cons
  have ht := takeWhile_append_of_head hus (he.word hk)
  rw [scan_of_isWordStart hc]
  simp only [word, ht, h.wordKind_eq hk]

theorem scan_of_punctuation (h : Punctuation kind c) (he : kind.EndsBefore rest) :
    scan c rest = (.token kind, 0) := by
  have hslash : ¬ (c = '/' ∧ rest.head? = some '/') := by
    rintro ⟨rfl, hr⟩
    cases h
    cases he _ hr
  have hcolon : ¬ (c = ':' ∧ rest.head? = some ':') := by
    rintro ⟨rfl, hr⟩
    cases h
    cases he _ hr
  have hp := punctuation?_eq_some_iff.mpr h
  simp only [scan, if_neg hslash, if_neg hcolon, not_isBlank_of_punctuation? hp, hp,
    Bool.false_eq_true, if_false]

theorem scan_of_lexeme (h : Lexeme kind (c :: us)) (he : kind.EndsBefore rest) :
    scan c (us ++ rest) = (.token kind, us.length) := by
  cases hk : kind.isWord with
  | true => exact scan_of_word h hk he
  | false =>
    generalize hl : c :: us = lexeme at h
    cases h with
    | keyword | primitive | identifier => cases hk
    | integer hd =>
      subst hl
      obtain ⟨-, hd⟩ := hd
      have hus : ∀ d ∈ us, d.isDigit = true := fun d h => hd d (List.mem_cons_of_mem c h)
      rw [scan_of_isDigit (hd c (List.mem_cons_self ..)), number_of_digits hus (he.number rfl)]
    | @float whole fraction hw hf =>
      obtain ⟨hne, hw⟩ := hw
      cases whole with
      | nil => exact (hne rfl).elim
      | cons d whole =>
        rw [List.cons_append] at hl
        obtain ⟨rfl, rfl⟩ := List.cons.inj hl
        have hwhole : ∀ d ∈ whole, d.isDigit = true := fun d h => hw d (List.mem_cons_of_mem c h)
        have hr : ∀ d ∈ rest.head?, d.isDigit = false := fun d hd => (he.number rfl d hd).1
        rw [scan_of_isDigit (hw c (List.mem_cons_self ..)), List.append_assoc, List.cons_append,
          number_of_fraction hwhole hf hr, List.length_append, List.length_cons]
        simp only [Prod.mk.injEq, true_and]
        omega
    | string ht =>
      cases hl
      rw [scan_string, List.append_assoc, List.singleton_append, quotedPiece,
        quoted_of_quotedText (by decide) (by decide) ht]
      simp
    | char ht =>
      cases hl
      rw [scan_char, List.append_assoc, List.singleton_append, quotedPiece,
        quoted_of_quotedText (by decide) (by decide) ht]
      simp
    | doubleColon =>
      cases hl
      rfl
    | punctuation hp =>
      cases hl
      exact scan_of_punctuation hp he

end Scan

section Carried

variable {kind next : TokenKind} {c : Char} {cs rest : List Char}

theorem carries_of_isWordStart (h : isWordStart c = true) : kind.carries c = kind.isWord := by
  have hpart : isWordPart c = true := isWordPart_iff.mpr (.inl h)
  have hdot : (c == '.') = false := beq_false_of_ne (by rintro rfl; cases h)
  have hcolon : (c == ':') = false := beq_false_of_ne (by rintro rfl; cases h)
  have hslash : (c == '/') = false := beq_false_of_ne (by rintro rfl; cases h)
  simp [TokenKind.carries, hpart, not_isDigit_of_isWordStart h, hdot, hcolon, hslash]

theorem carries_of_isDigit (h : c.isDigit = true) :
    kind.carries c = (kind.isWord || kind.isNumber) := by
  have hpart : isWordPart c = true := isWordPart_iff.mpr (.inr h)
  have hcolon : (c == ':') = false := beq_false_of_ne (by rintro rfl; cases h)
  have hslash : (c == '/') = false := beq_false_of_ne (by rintro rfl; cases h)
  simp [TokenKind.carries, hpart, h, hcolon, hslash]

theorem carries_of_isBlank (h : Text.isBlank c = true) : kind.carries c = false := by
  have hpart : isWordPart c = false := by
    rw [Bool.eq_false_iff]
    intro hc
    rw [not_isBlank_of_isWordPart hc] at h
    cases h
  have hdigit : c.isDigit = false := by
    rw [Bool.eq_false_iff]
    intro hc
    rw [isWordPart_iff.mpr (.inr hc)] at hpart
    cases hpart
  have hdot : (c == '.') = false := beq_false_of_ne (by rintro rfl; cases h)
  have hcolon : (c == ':') = false := beq_false_of_ne (by rintro rfl; cases h)
  have hslash : (c == '/') = false := beq_false_of_ne (by rintro rfl; cases h)
  simp [TokenKind.carries, hpart, hdigit, hdot, hcolon, hslash]

theorem carries_slash : kind.carries '/' = (kind == .operator .div) := by
  simp [TokenKind.carries, isWordPart]

theorem runsInto_of_carries (h : Lexeme next (c :: cs)) (hc : kind.carries c = true) :
    kind.runsInto next = true := by
  generalize hl : c :: cs = lexeme at h
  have hword : next.isWord = true → IsWord (c :: cs) → kind.runsInto next = true := by
    intro hk hw
    rw [carries_of_isWordStart hw.of_cons.1] at hc
    simp [TokenKind.runsInto, hc, hk]
  have hnumber : next.isNumber = true → c.isDigit = true → kind.runsInto next = true := by
    intro hk hd
    rw [carries_of_isDigit hd, Bool.or_eq_true] at hc
    rcases hc with hc | hc <;> simp [TokenKind.runsInto, hc, hk]
  cases h with
  | keyword word => exact hword rfl (hl ▸ isWord_keyword word)
  | primitive type => exact hword rfl (hl ▸ isWord_primitive type)
  | identifier hw => exact hword rfl (hl ▸ hw)
  | integer hd => exact hnumber rfl (hd.2 c (hl ▸ List.mem_cons_self ..))
  | @float whole fraction hw =>
    cases whole with
    | nil => exact (hw.1 rfl).elim
    | cons d whole => cases hl; exact hnumber rfl (hw.2 c (List.mem_cons_self ..))
  | string =>
    cases hl
    simp [TokenKind.carries, isWordPart] at hc
  | char => cases hl; simp [TokenKind.carries, isWordPart] at hc
  | doubleColon =>
    cases hl
    simp [TokenKind.carries, isWordPart] at hc
    simp [hc, TokenKind.runsInto]
  | punctuation hp =>
    cases hl
    cases hp <;> simp [TokenKind.carries, isWordPart] at hc <;> simp [hc, TokenKind.runsInto]

/-- No separator starts with a character that a lexeme carries, but a comment after a slash. -/
theorem comment_of_carries (hg : Gap rest (c :: cs)) (hc : kind.carries c = true) :
    kind = .operator .div ∧ ['/', '/'] <+: c :: cs := by
  cases hg with
  | blank hb =>
    rw [carries_of_isBlank hb] at hc
    cases hc
  | comment =>
    rw [carries_slash, beq_iff_eq] at hc
    exact ⟨hc, List.prefix_append ['/', '/'] _⟩
  | lastComment =>
    rw [carries_slash, beq_iff_eq] at hc
    exact ⟨hc, List.prefix_append ['/', '/'] _⟩

end Carried

section Steps

variable {kind : TokenKind} {c : Char} {us rest : List Char}

theorem lexFrom_of_scan {piece : Piece} (h : scan c (us ++ rest) = (piece, us.length))
    (p : Place) :
    lexFrom p (c :: us ++ rest) = Lexed.add p (p.advance (c :: us)) (c :: us)
      (lexFrom (p.advance (c :: us)) rest) piece := by
  rw [List.cons_append, lexFrom]
  simp only [h, List.take_left, List.drop_left]

theorem Grammar.Lexeme.ne_nil {lexeme : List Char} (h : Lexeme kind lexeme) : lexeme ≠ [] := by
  cases h with
  | keyword word => cases word <;> decide
  | primitive type => cases type <;> decide
  | identifier hw =>
    obtain ⟨first, rest, rfl, -, -⟩ := hw
    exact List.cons_ne_nil _ _
  | integer hd => exact hd.1
  | float => simp
  | string | char | doubleColon | punctuation => exact List.cons_ne_nil _ _

theorem lexFrom_lexeme {lexeme : List Char} (h : Lexeme kind lexeme) (he : kind.EndsBefore rest)
    (p : Place) :
    lexFrom p (lexeme ++ rest) = Lexed.add p (p.advance lexeme) lexeme
      (lexFrom (p.advance lexeme) rest) (.token kind) := by
  obtain ⟨c, us, rfl⟩ := List.exists_cons_of_ne_nil h.ne_nil
  exact lexFrom_of_scan (scan_of_lexeme h he) p

theorem scan_of_isBlank (h : Text.isBlank c = true) (cs : List Char) :
    scan c cs = (.gap, 0) := by
  have hslash : c ≠ '/' := by rintro rfl; cases h
  simp [scan, hslash, h]

theorem lineLength_append {text : List Char} (h : '\n' ∉ text) (rest : List Char) :
    lineLength (text ++ '\n' :: rest) = text.length + 1 := by
  induction text with
  | nil => simp [lineLength]
  | cons c text ih =>
    simp only [List.mem_cons, not_or] at h
    simp [lineLength, Ne.symm h.1, ih h.2]

theorem lineLength_of_notMem {text : List Char} (h : '\n' ∉ text) :
    lineLength text = text.length := by
  induction text with
  | nil => rfl
  | cons c text ih =>
    simp only [List.mem_cons, not_or] at h
    simp [lineLength, Ne.symm h.1, ih h.2]

theorem lexFrom_gap {gap : List Char} (h : Gap rest gap) (p : Place) :
    lexFrom p (gap ++ rest) = lexFrom (p.advance gap) rest := by
  induction h generalizing p with
  | nil => rfl
  | @blank c cs hc _ ih =>
    have hscan : scan c ([] ++ (cs ++ rest)) = (.gap, 0) := scan_of_isBlank hc _
    have hstep := lexFrom_of_scan hscan p
    rw [List.cons_append, Place.advance_cons, ← ih]
    exact hstep
  | @comment text cs ht _ ih =>
    have hscan : scan '/' (('/' :: (text ++ ['\n'])) ++ (cs ++ rest)) =
        (.gap, ('/' :: (text ++ ['\n'])).length) := by
      simp [scan, lineLength_append ht]
    have hstep := lexFrom_of_scan hscan p
    have hchars : '/' :: '/' :: (text ++ '\n' :: cs) ++ rest =
        ('/' :: '/' :: (text ++ ['\n'])) ++ (cs ++ rest) := by simp
    have hplace : p.advance ('/' :: '/' :: (text ++ '\n' :: cs)) =
        (p.advance ('/' :: '/' :: (text ++ ['\n']))).advance cs := by
      rw [← Place.advance_append]
      simp
    rw [hchars, hplace, ← ih]
    exact hstep
  | @lastComment text hr ht =>
    subst hr
    have hscan : scan '/' (('/' :: text) ++ []) = (.gap, ('/' :: text).length) := by
      simp [scan, lineLength_of_notMem ht]
    exact lexFrom_of_scan hscan p

end Steps

namespace Grammar.Layout

variable {e : Entry} {es : List Entry} {last : List Char}

theorem chars_cons (e : Entry) (es : List Entry) (last : List Char) :
    chars ⟨e :: es, last⟩ = e.gap ++ (e.lexeme ++ chars ⟨es, last⟩) := by
  simp [chars]

theorem textOf_lexeme (e : Entry) : String.ofList (e.kind.textOf e.lexeme) = e.text := by
  unfold TokenKind.textOf Entry.lexeme
  split <;> simp_all

theorem IsReadable.tail (h : IsReadable ⟨e :: es, last⟩) : IsReadable ⟨es, last⟩ where
  lexemes f hf := h.lexemes f (List.mem_cons_of_mem e hf)
  gaps f hf := h.gaps f (List.mem_cons_of_mem e hf)
  last := h.last
  between := h.between.tail
  after f hf := by
    apply h.after f
    cases es with
    | nil => cases hf
    | cons g es => exact hf

/-- What follows the first lexeme is not read together with it: a separator that is there starts
with no character that a lexeme carries, and without one the lexemes do not run together. -/
theorem IsReadable.endsBefore (h : IsReadable ⟨e :: es, last⟩) :
    e.kind.EndsBefore (chars ⟨es, last⟩) := by
  intro c hc
  rw [Bool.eq_false_iff]
  intro hcarries
  cases es with
  | nil =>
    obtain ⟨cs, hlast⟩ : ∃ cs, last = c :: cs := List.head?_eq_some_iff.mp hc
    have hg := h.last
    have hs := h.after e rfl
    subst hlast
    obtain ⟨hk, hp⟩ := comment_of_carries hg hcarries
    exact hs.noComment hk hp
  | cons f es =>
    have hs := (List.isChain_cons_cons.mp h.between).1
    have hf : f ∈ e :: f :: es := by simp
    rw [chars_cons] at hc
    cases hgap : f.gap with
    | nil =>
      obtain ⟨d, us, hlexeme⟩ := List.exists_cons_of_ne_nil (h.lexemes f hf).ne_nil
      have hl := h.lexemes f hf
      rw [hgap, hlexeme] at hc
      cases hc
      rw [hlexeme] at hl
      cases (hs.apart hgap f.kind rfl).symm.trans (runsInto_of_carries hl hcarries)
    | cons d cs =>
      have hg := h.gaps f hf []
      rw [hgap] at hc hg
      cases hc
      obtain ⟨hk, hp⟩ := comment_of_carries hg hcarries
      exact hs.noComment hk (hgap ▸ hp)

theorem IsReadable.lexed (h : IsReadable ⟨es, last⟩) (p : Place) :
    (lexFrom p (chars ⟨es, last⟩)).errors = [] ∧
      ((lexFrom p (chars ⟨es, last⟩)).tokens.map fun t => (t.kind, t.text, t.span)) =
        placesFrom p.offset es := by
  induction es generalizing p with
  | nil =>
    have hlast : lexFrom p (last ++ []) = lexFrom (p.advance last) [] := lexFrom_gap h.last p
    have hchars : chars ⟨[], last⟩ = last ++ [] := by simp [chars]
    rw [hchars, hlast, lexFrom]
    exact ⟨rfl, rfl⟩
  | cons e es ih =>
    have he : e ∈ e :: es := List.mem_cons_self ..
    rw [chars_cons, lexFrom_gap (h.gaps e he _), lexFrom_lexeme (h.lexemes e he) h.endsBefore]
    obtain ⟨herrors, htokens⟩ := ih h.tail ((p.advance e.gap).advance e.lexeme)
    refine ⟨herrors, ?_⟩
    simp only [Lexed.add, List.map_cons, htokens, placesFrom, Token.between, textOf_lexeme,
      Place.offset_advance]

/-- Writing lexemes out and lexing them gives them back: their kinds and texts in order, each with
the bytes where it was written, and then the end of the file. -/
theorem lex_chars (l : Layout) (h : l.IsReadable) :
    (lex (String.ofList l.chars)).errors = [] ∧
      ((lex (String.ofList l.chars)).stream.toList.map fun t => (t.kind, t.text, t.span)) =
        placesFrom 0 l.entries ++ [(.eof, "", .empty (Text.byteLength l.chars))] := by
  have hsource : (String.ofList l.chars).toList = l.chars := String.toList_ofList
  obtain ⟨herrors, htokens⟩ := h.lexed .start
  constructor
  · rw [errors_lex, hsource]
    exact herrors
  · rw [TokenStream.toList, List.map_append, List.map_singleton, eof_lex, tokens_lex, hsource]
    exact congrArg (· ++ _) htokens

theorem lex_chars_tight :
    let l : Layout :=
      ⟨[⟨[], .keyword .fnKw, "fn"⟩, ⟨['/', '/', '"', '\n'], .identifier, "f1"⟩,
        ⟨[], .operator .div, "/"⟩, ⟨[' '], .operator .div, "/"⟩, ⟨[], .integer, "1"⟩,
        ⟨[], .identifier, "x"⟩, ⟨[], .string, "a\\\"//"⟩, ⟨[], .colon, ":"⟩,
        ⟨['\n'], .doubleColon, "::"⟩, ⟨[], .colon, ":"⟩], ['/', '/', 'é']⟩
    l.IsReadable ∧ (lex (String.ofList l.chars)).errors = [] ∧
      ((lex (String.ofList l.chars)).stream.toList.map fun t => (t.kind, t.text, t.span)) =
        [(.keyword .fnKw, "fn", ⟨0, 2⟩), (.identifier, "f1", ⟨6, 8⟩),
          (.operator .div, "/", ⟨8, 9⟩), (.operator .div, "/", ⟨10, 11⟩),
          (.integer, "1", ⟨11, 12⟩), (.identifier, "x", ⟨12, 13⟩),
          (.string, "a\\\"//", ⟨13, 20⟩), (.colon, ":", ⟨20, 21⟩),
          (.doubleColon, "::", ⟨22, 24⟩), (.colon, ":", ⟨24, 25⟩), (.eof, "", ⟨29, 29⟩)] := by
  intro l
  have hf1 : Lexeme .identifier ['f', '1'] :=
    .identifier ⟨'f', ['1'], rfl, rfl, List.forall_mem_singleton.mpr rfl⟩
      (fun word => by cases word <;> decide) (fun type => by cases type <;> decide)
  have hx : Lexeme .identifier ['x'] :=
    .identifier ⟨'x', [], rfl, rfl, List.forall_mem_nil _⟩
      (fun word => by cases word <;> decide) (fun type => by cases type <;> decide)
  have hslashes : QuotedText '"' ['/', '/'] :=
    .plain (by decide) (by decide) (by decide) (.plain (by decide) (by decide) (by decide) .nil)
  have hquoted : QuotedText '"' ['a', '\\', '"', '/', '/'] :=
    .plain (by decide) (by decide) (by decide) (.escaped (by decide) hslashes)
  have hlexemes : ∀ e ∈ l.entries, Lexeme e.kind e.lexeme := by
    simp only [l, List.forall_mem_cons]
    exact ⟨.keyword .fnKw, hf1, .punctuation .div, .punctuation .div,
      .integer ⟨by decide, List.forall_mem_singleton.mpr rfl⟩, hx, .string hquoted,
      .punctuation .colon, .doubleColon, .punctuation .colon, by simp⟩
  have hcomment : ∀ rest, Gap rest ['/', '/', '"', '\n'] :=
    fun rest => @Gap.comment rest ['"'] [] (by decide) .nil
  have hspace : ∀ rest, Gap rest [' '] := fun _ => .blank rfl .nil
  have hnewline : ∀ rest, Gap rest ['\n'] := fun _ => .blank rfl .nil
  have hgaps : ∀ e ∈ l.entries, ∀ rest, Gap rest e.gap := by
    simp [l, Gap.nil, hcomment, hspace, hnewline]
  have hreadable : l.IsReadable :=
    ⟨hlexemes, hgaps, .lastComment rfl (by decide), by decide, by decide⟩
  obtain ⟨herrors, htokens⟩ := l.lex_chars hreadable
  refine ⟨hreadable, herrors, htokens.trans ?_⟩
  decide +kernel

end Grammar.Layout

end SourceCheck
