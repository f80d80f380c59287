import SourceCheck.Proofs.Lex.Scan

/-! # Lexing partitions a source

The tokens and the errors of a source, taken together, stand one after another with nothing but
gaps between them. `Cut` follows a text from a place on as lexing reads it; what it says of spans
does not mention places any more.
-/

namespace SourceCheck

open Grammar

/-- A token or an error that lexing finds. -/
inductive Finding
  | token (t : Token)
  | error (e : LexError)

namespace Finding

def token? : Finding → Option Token
  | token t => some t
  | error _ => none

def error? : Finding → Option LexError
  | token _ => none
  | error e => some e

def span : Finding → Span
  | token t => t.span
  | error e => e.span

def position : Finding → Position
  | token t => t.position
  | error e => e.position

theorem eq_token {f : Finding} {t : Token} (h : f.token? = some t) : f = token t := by
  cases f <;> cases h
  rfl

theorem eq_error {f : Finding} {e : LexError} (h : f.error? = some e) : f = error e := by
  cases f <;> cases h
  rfl

def Fits (lexeme rest : List Char) : Finding → Prop
  | token t => (Piece.token t.kind).Fits lexeme rest ∧ t.text.toList = t.kind.textOf lexeme
  | error e => (Piece.fault e.kind).Fits lexeme rest

end Finding

namespace Grammar

theorem Gap.append {a b rest : List Char} (ha : Gap (b ++ rest) a) (hb : Gap rest b) :
    Gap rest (a ++ b) := by
  induction ha with
  | nil => exact hb
  | blank hc _ ih => exact .blank hc ih
  | comment ht _ ih =>
    simp only [List.cons_append, List.append_assoc]
    exact .comment ht ih
  | lastComment hr ht =>
    obtain ⟨rfl, rfl⟩ := List.append_eq_nil_iff.mp hr
    rw [List.append_nil]
    exact .lastComment rfl ht

end Grammar

/-- A text from a place on, cut into gaps and findings. -/
inductive Cut : Place → List Char → List Finding → Prop
  | last {p : Place} {gap : List Char} : Gap [] gap → Cut p gap []
  | cons {p : Place} {gap lexeme rest : List Char} {f : Finding} {fs : List Finding} :
      Gap (lexeme ++ rest) gap → lexeme ≠ [] → f.Fits lexeme rest →
      f.span = ⟨(p.advance gap).offset, ((p.advance gap).advance lexeme).offset⟩ →
      f.position = (p.advance gap).position → Cut ((p.advance gap).advance lexeme) rest fs →
      Cut p (gap ++ (lexeme ++ rest)) (f :: fs)

namespace Cut

variable {p : Place} {cs lexeme rest : List Char} {f : Finding} {fs : List Finding}

theorem found (hne : lexeme ≠ []) (hf : f.Fits lexeme rest)
    (hs : f.span = ⟨p.offset, (p.advance lexeme).offset⟩) (hp : f.position = p.position)
    (h : Cut (p.advance lexeme) rest fs) : Cut p (lexeme ++ rest) (f :: fs) :=
  .cons .nil hne hf hs hp h

theorem gap {gap : List Char} (hg : Gap cs gap) (h : Cut (p.advance gap) cs fs) :
    Cut p (gap ++ cs) fs := by
  cases h with
  | last hl =>
    apply Cut.last
    apply Gap.append _ hl
    rwa [List.append_nil]
  | @cons _ gap' lexeme rest f fs hg' hne hf hs hp hc =>
    rw [← Place.advance_append p gap gap'] at hs hp hc
    rw [← List.append_assoc]
    exact .cons (hg.append hg') hne hf hs hp hc

end Cut

theorem lexFrom_cut (p : Place) (cs : List Char) :
    ∃ fs, fs.filterMap Finding.token? = (lexFrom p cs).tokens ∧
      fs.filterMap Finding.error? = (lexFrom p cs).errors ∧ Cut p cs fs := by
  fun_induction lexFrom p cs with
  | case1 p => exact ⟨[], rfl, rfl, .last .nil⟩
  | case2 p c cs head lexeme q ih =>
    obtain ⟨fs, ht, he, hc⟩ := ih
    have hne : lexeme ≠ [] := List.cons_ne_nil _ _
    have hcs : c :: cs = lexeme ++ cs.drop head.2 := by
      rw [List.cons_append, List.take_append_drop]
    have hfits : head.1.Fits lexeme (cs.drop head.2) := scan_fits c cs
    rw [hcs]
    cases hh : head.1 with
    | gap =>
      rw [hh] at hfits
      exact ⟨fs, ht, he, hc.gap hfits⟩
    | token kind =>
      rw [hh] at hfits
      have hf : (Finding.token (.between p q kind lexeme)).Fits lexeme (cs.drop head.2) :=
        ⟨hfits, by simp [Token.between]⟩
      refine ⟨.token (.between p q kind lexeme) :: fs, ?_, ?_, hc.found hne hf rfl rfl⟩
      · simp only [List.filterMap_cons, Finding.token?, Lexed.add, ht]
      · simp only [List.filterMap_cons, Finding.error?, Lexed.add, he]
    | fault kind =>
      rw [hh] at hfits
      have hf : (Finding.error ⟨kind, ⟨p.offset, q.offset⟩, p.position⟩).Fits lexeme
          (cs.drop head.2) := hfits
      refine ⟨_, ?_, ?_, hc.found hne hf rfl rfl⟩
      · simp only [List.filterMap_cons, Finding.token?, Lexed.add, ht]
      · simp only [List.filterMap_cons, Finding.error?, Lexed.add, he]

def Span.Cuts (s : Span) (cs before inside after : List Char) : Prop :=
  cs = before ++ (inside ++ after) ∧ s.start = Text.byteLength before ∧
    s.stop = Text.byteLength before + Text.byteLength inside

/-- The spans that some spans leave open between two offsets. -/
def Span.between (start stop : Nat) : List Span → List Span
  | [] => [⟨start, stop⟩]
  | s :: ss => ⟨start, s.start⟩ :: between s.stop stop ss

theorem byteLength_pos {cs : List Char} (h : cs ≠ []) : 0 < Text.byteLength cs := by
  cases cs with
  | nil => exact (h rfl).elim
  | cons c cs =>
    have := c.utf8Size_pos
    rw [Text.byteLength_cons]
    omega

namespace Cut

variable {p : Place} {cs : List Char} {fs : List Finding}

theorem le_start (h : Cut p cs fs) : ∀ f ∈ fs, p.offset ≤ f.span.start := by
  induction h with
  | last => simp
  | cons _ _ _ hs _ _ ih =>
    intro f hf
    rcases List.mem_cons.mp hf with rfl | hf
    · simp only [hs, Place.offset_advance]
      omega
    · have := ih f hf
      simp only [Place.offset_advance] at this
      omega

theorem cuts (h : Cut p cs fs) (before : List Char) (hp : p = Place.start.advance before) :
    ∀ f ∈ fs, ∃ before' lexeme after, f.span.Cuts (before ++ cs) before' lexeme after ∧
      f.Fits lexeme after ∧ f.position = (Place.start.advance before').position := by
  induction h generalizing before with
  | last => simp
  | @cons p gap lexeme rest g fs _ _ hfits hs hposition _ ih =>
    intro f hf
    rcases List.mem_cons.mp hf with rfl | hf
    · have hadvance : p.advance gap = Place.start.advance (before ++ gap) := by
        rw [hp, Place.advance_append]
      rw [hadvance] at hs hposition
      refine ⟨before ++ gap, lexeme, rest, ⟨by simp, ?_, ?_⟩, hfits, hposition⟩
      · simp [hs, Place.start]
      · simp [hs, Place.start]
    · have hadvance : (p.advance gap).advance lexeme =
          Place.start.advance (before ++ (gap ++ lexeme)) := by
        rw [hp, Place.advance_append, Place.advance_append]
      have := ih _ hadvance f hf
      simpa using this

theorem gaps (h : Cut p cs fs) (before : List Char) (hp : p.offset = Text.byteLength before) :
    ∀ s ∈ Span.between p.offset (p.offset + Text.byteLength cs) (fs.map Finding.span),
      ∃ before' gap after, s.Cuts (before ++ cs) before' gap after ∧ Gap after gap := by
  induction h generalizing before with
  | @last p gap hg =>
    intro s hs
    cases List.mem_singleton.mp hs
    exact ⟨before, gap, [], ⟨by simp, hp, by simp [hp]⟩, hg⟩
  | @cons p gap lexeme rest f fs hg _ _ hspan _ _ ih =>
    intro s hs
    rw [List.map_cons, Span.between, hspan] at hs
    rcases List.mem_cons.mp hs with rfl | hs
    · exact ⟨before, gap, lexeme ++ rest, ⟨rfl, hp, by simp [hp]⟩, hg⟩
    · have := ih (before ++ (gap ++ lexeme)) (by simp [hp, Nat.add_assoc]) s
        (by simpa [Nat.add_assoc] using hs)
      simpa using this

end Cut

end SourceCheck
