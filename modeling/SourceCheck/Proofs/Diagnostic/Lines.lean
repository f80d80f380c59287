import SourceCheck.Diagnostic.Render
import SourceCheck.Diagnostic.Report

/-! # Drawings as lines

What is drawn for a diagnostic is a number of lines, each ended by a newline and with no other
newline in it. Numbers, names of tokens and messages never hold a newline, whatever character
they quote.
-/

namespace SourceCheck

def Avoids (c : Char) (s : String) : Prop := c ∉ s.toList

instance (c : Char) : DecidablePred (Avoids c) :=
  fun s => inferInstanceAs (Decidable (¬ c ∈ s.toList))

section Avoids

variable {c : Char}

@[simp] theorem avoids_append {s t : String} : Avoids c (s ++ t) ↔ Avoids c s ∧ Avoids c t := by
  simp [Avoids, not_or]

theorem Avoids.append {s t : String} (hs : Avoids c s) (ht : Avoids c t) : Avoids c (s ++ t) :=
  avoids_append.mpr ⟨hs, ht⟩

@[simp] theorem avoids_ofList {cs : List Char} : Avoids c (String.ofList cs) ↔ c ∉ cs := by
  simp [Avoids]

theorem avoids_join {l : List String} (h : ∀ s ∈ l, Avoids c s) : Avoids c (String.join l) := by
  simpa [Avoids, String.toList_join] using h

theorem notMem_toDigits (hc : ∀ d, Nat.digitChar d ≠ c) {base : Nat} (hb : 1 < base) (n : Nat) :
    c ∉ Nat.toDigits base n := by
  induction n using Nat.strongRecOn with
  | ind n ih =>
    rw [Nat.toDigits_eq_if hb]
    split
    next => simpa using (hc n).symm
    next hn =>
      have hlt : n / base < n := Nat.div_lt_self (by omega) hb
      simpa using ⟨ih _ hlt, (hc (n % base)).symm⟩

theorem avoids_repr (hc : ∀ d, Nat.digitChar d ≠ c) (n : Nat) : Avoids c n.repr := by
  rw [Avoids, Nat.toList_repr]
  exact notMem_toDigits hc (by decide) n

theorem avoids_padLeft {width : Nat} {fill : Char} {s : String} (hf : fill ≠ c)
    (hs : Avoids c s) : Avoids c (padLeft width fill s) := by
  rw [padLeft, avoids_append, avoids_ofList]
  refine ⟨?_, hs⟩
  intro h
  exact hf (List.eq_of_mem_replicate h).symm

theorem notMem_expandTabs (hc : c ≠ ' ') {cs : List Char} (h : c ∉ cs) : c ∉ expandTabs cs := by
  intro hn
  obtain ⟨d, hd, hmem⟩ := List.mem_flatMap.mp hn
  split at hmem
  · simp [tabText, hc] at hmem
  · cases List.mem_singleton.mp hmem
    exact h hd

end Avoids

def OneLine (s : String) : Prop := '\n' ∉ s.toList

instance : DecidablePred OneLine := fun s => inferInstanceAs (Decidable (¬ '\n' ∈ s.toList))

section OneLine

theorem OneLine.append {s t : String} (hs : OneLine s) (ht : OneLine t) : OneLine (s ++ t) :=
  Avoids.append hs ht

@[simp] theorem oneLine_ofList {cs : List Char} : OneLine (String.ofList cs) ↔ '\n' ∉ cs :=
  avoids_ofList

theorem oneLine_join {l : List String} (h : ∀ s ∈ l, OneLine s) : OneLine (String.join l) :=
  avoids_join h

theorem newline_notMem_toDigits {base : Nat} (hb : 1 < base) (n : Nat) :
    '\n' ∉ Nat.toDigits base n :=
  notMem_toDigits (by simp) hb n

theorem oneLine_repr (n : Nat) : OneLine n.repr := avoids_repr (by simp) n

theorem oneLine_padLeft {width : Nat} {fill : Char} {s : String} (hf : fill ≠ '\n')
    (hs : OneLine s) : OneLine (padLeft width fill s) :=
  avoids_padLeft hf hs

theorem newline_notMem_expandTabs {cs : List Char} (h : '\n' ∉ cs) : '\n' ∉ expandTabs cs :=
  notMem_expandTabs (by decide) h

end OneLine

section Messages

theorem oneLine_quoteChar (c : Char) : OneLine (Text.quoteChar c) := by
  have he : OneLine (Text.escape '\x27' c) := by
    fun_cases Text.escape '\x27' c
    case case7 hn _ _ _ => simpa [OneLine] using Ne.symm hn
    case case8 =>
      have hhex : OneLine (Text.hex c.toNat) :=
        oneLine_ofList.mpr (newline_notMem_toDigits (by decide) c.toNat)
      exact .append (.append (by decide +kernel) hhex) (by decide +kernel)
    all_goals decide +kernel
  exact .append (.append (by decide +kernel) he) (by decide +kernel)

theorem oneLine_name (kind : TokenKind) : OneLine kind.name := by
  cases kind with
  | keyword word => cases word <;> decide +kernel
  | primitive type => cases type <;> decide +kernel
  | operator op => cases op <;> decide +kernel
  | _ => decide +kernel

theorem LexErrorKind.oneLine_message (kind : LexErrorKind) : OneLine kind.message := by
  cases kind with
  | unexpectedChar c => exact .append (by decide +kernel) (oneLine_quoteChar c)
  | _ => decide +kernel

theorem Expectation.oneLine_text (wanted : Expectation) : OneLine wanted.text := by
  cases wanted with
  | kind kind => exact oneLine_name kind
  | typeName => decide +kernel

theorem StmtContext.oneLine_text (context : StmtContext) : OneLine context.text := by
  cases context <;> decide +kernel

theorem LiteralKind.oneLine_text (kind : LiteralKind) : OneLine kind.text := by
  cases kind <;> decide +kernel

theorem ParseErrorKind.oneLine_message {kind : ParseErrorKind}
    (h : ∀ k text, kind = .invalidLiteral k text → OneLine text) : OneLine kind.message := by
  have hfound : OneLine ", found " := by decide +kernel
  cases kind with
  | mismatch expected found =>
    change OneLine ("expected " ++ expected.text ++ ", found " ++ found.name)
    have hexpected := OneLine.append (by decide +kernel : OneLine "expected ") expected.oneLine_text
    exact .append (.append hexpected hfound) (oneLine_name found)
  | unexpectedStart context found =>
    change OneLine ("expected " ++ context.text ++ ", found " ++ found.name)
    have hexpected := OneLine.append (by decide +kernel : OneLine "expected ") context.oneLine_text
    exact .append (.append hexpected hfound) (oneLine_name found)
  | missingLeftOperand op => cases op <;> decide +kernel
  | expectedExpression found => exact .append (by decide +kernel) (oneLine_name found)
  | invalidLiteral k text =>
    change OneLine ("invalid " ++ k.text ++ " literal `" ++ text ++ "`")
    have hkind := OneLine.append (by decide +kernel : OneLine "invalid ") k.oneLine_text
    have hopen : OneLine " literal `" := by decide +kernel
    exact .append (.append (.append hkind hopen) (h k text rfl)) (by decide +kernel)

theorem ParseErrorKind.oneLine_label (kind : ParseErrorKind) : OneLine kind.label := by
  cases kind with
  | mismatch expected found =>
    have hexpected := OneLine.append (by decide +kernel : OneLine "expected ") expected.oneLine_text
    exact .append hexpected (by decide +kernel)
  | unexpectedStart context found => exact .append (oneLine_name found) (by decide +kernel)
  | missingLeftOperand op => exact (by decide +kernel : OneLine "no left operand")
  | expectedExpression found => exact (by decide +kernel : OneLine "expected an expression here")
  | invalidLiteral k text => exact (by decide +kernel : OneLine "this literal")

end Messages

/-- Marks that write lines, each with a newline after it. -/
structure Writes (marks : List Mark) (lines : List String) : Prop where
  write_eq : Palette.plain.write marks = String.join (lines.map (· ++ "\n"))
  oneLine : ∀ line ∈ lines, OneLine line

namespace Writes

variable {marks marks' : List Mark} {lines lines' : List String}

theorem nil : Writes [] [] := ⟨rfl, by simp⟩

theorem append (h : Writes marks lines) (h' : Writes marks' lines') :
    Writes (marks ++ marks') (lines ++ lines') where
  write_eq := by
    have hw := h.write_eq
    have hw' := h'.write_eq
    simp only [Palette.write] at hw hw' ⊢
    rw [List.map_append, List.map_append, String.join_append, String.join_append, hw, hw']
  oneLine line hl := by
    rcases List.mem_append.mp hl with hl | hl
    · exact h.oneLine line hl
    · exact h'.oneLine line hl

theorem line {s : String} (h : Palette.plain.write marks = s ++ "\n") (hs : OneLine s) :
    Writes marks [s] where
  write_eq := by simpa using h
  oneLine := by simpa using hs

theorem flatMap {α : Type} {l : List α} {f : α → List Mark} {g : α → String}
    (h : ∀ a ∈ l, Writes (f a) [g a]) : Writes (l.flatMap f) (l.map g) := by
  induction l with
  | nil => exact nil
  | cons a l ih =>
    rw [List.flatMap_cons, List.map_cons]
    exact (h a (List.mem_cons_self ..)).append (ih fun b hb => h b (List.mem_cons_of_mem a hb))

end Writes

section Write

@[simp] theorem write_nil : Palette.plain.write [] = "" := rfl

@[simp] theorem write_cons (mark : Mark) (marks : List Mark) :
    Palette.plain.write (mark :: marks) = mark.plain ++ Palette.plain.write marks := by
  simp [Palette.write]

@[simp] theorem write_append (marks marks' : List Mark) :
    Palette.plain.write (marks ++ marks') =
      Palette.plain.write marks ++ Palette.plain.write marks' := by
  simp [Palette.write]

end Write

def Position.lineIn (name : String) (position : Position) : String :=
  "In " ++ name ++ ":" ++ position.row.repr ++ ":" ++ position.col.repr

theorem Position.avoids_lineIn {c : Char} (hc : ∀ d, Nat.digitChar d ≠ c) (hin : Avoids c "In ")
    (hcolon : Avoids c ":") {name : String} (hname : Avoids c name) (position : Position) :
    Avoids c (position.lineIn name) :=
  ((((hin.append hname).append hcolon).append (avoids_repr hc _)).append hcolon).append
    (avoids_repr hc _)

structure Config.IsOneLine (config : Config) : Prop where
  gutter : OneLine config.gutter
  underline : OneLine config.underline
  underlineAfter : OneLine config.underlineAfter

namespace Config

variable {config : Config}

theorem avoids_drawGutter {c : Char} (hc : ∀ d, Nat.digitChar d ≠ c) (hblank : c ≠ ' ')
    (h : Avoids c config.gutter) (width : Nat) (number : Option Nat) :
    Avoids c (Palette.plain.write (config.drawGutter width number)) := by
  have hspace : Avoids c " " := by simpa [Avoids] using hblank
  have hgutter : Avoids c (" " ++ config.gutter ++ " ") := .append (.append hspace h) hspace
  cases number with
  | none =>
    have hpad : Avoids c (padLeft width ' ' "") := avoids_padLeft hblank.symm (by simp [Avoids])
    simpa [drawGutter, Mark.plain] using hpad.append hgutter
  | some n =>
    have hpad : Avoids c (padLeft width ' ' n.repr) :=
      avoids_padLeft hblank.symm (avoids_repr hc n)
    simpa [drawGutter, Mark.plain] using hpad.append hgutter

theorem oneLine_drawGutter (h : config.IsOneLine) (width : Nat) (number : Option Nat) :
    OneLine (Palette.plain.write (config.drawGutter width number)) :=
  avoids_drawGutter (by simp) (by decide) h.gutter width number

theorem writes_drawLine (h : config.IsOneLine) (width number : Nat) {line : List Char}
    (hl : '\n' ∉ line) :
    Writes (config.drawLine width number line)
      [Palette.plain.write (config.drawGutter width (some number)) ++
        String.ofList (expandTabs line)] := by
  apply Writes.line
  · simp [drawLine, Mark.plain, String.append_assoc]
  · exact .append (oneLine_drawGutter h _ _) (oneLine_ofList.mpr (newline_notMem_expandTabs hl))

theorem exists_writes_drawUnderline (h : config.IsOneLine) (width : Nat) {label : String}
    (hl : OneLine label) (marked : Marked) :
    ∃ line, Writes (config.drawUnderline width label marked) [line] := by
  have hpadding : OneLine
      (String.ofList (List.replicate (underlineColumns marked.before) ' ')) := by simp
  have hglyphs : OneLine (String.join
      (List.replicate (max 1 (underlineColumns marked.inside)) config.underline)) := by
    apply oneLine_join
    intro s hs
    rw [List.eq_of_mem_replicate hs]
    exact h.underline
  refine ⟨_, Writes.line ?_ ((oneLine_drawGutter h width none).append
    ((hpadding.append hglyphs).append (h.underlineAfter.append hl)))⟩
  simp [drawUnderline, Mark.plain, String.append_assoc]

theorem writes_drawLocation {name : String} (h : OneLine name) (position : Position) :
    Writes (drawLocation name position) [position.lineIn name] := by
  apply Writes.line
  · simp [drawLocation, Mark.plain, Position.lineIn]
  · exact position.avoids_lineIn (by simp) (by decide +kernel) (by decide +kernel) h

theorem exists_writes_drawExcerpt (h : config.IsOneLine) {name label : String}
    (hname : OneLine name) (hlabel : OneLine label) {excerpt : Excerpt}
    (hlines : ∀ l ∈ excerpt.lines, '\n' ∉ l.2) (hmarked : excerpt.marked.isSome = true) :
    (config.drawExcerpt name label excerpt).whole = true ∧
      ∃ lines, Writes (config.drawExcerpt name label excerpt).marks
          (excerpt.position.lineIn name :: lines) ∧
        lines.length = excerpt.lines.length + 1 := by
  obtain ⟨marked, hmarked⟩ := Option.isSome_iff_exists.mp hmarked
  let width := excerpt.position.row.repr.length
  obtain ⟨underline, hunderline⟩ := exists_writes_drawUnderline h width hlabel marked
  have hlocation := writes_drawLocation hname excerpt.position
  have hshown : Writes (excerpt.lines.flatMap fun l => config.drawLine width l.1 l.2)
      (excerpt.lines.map fun l => Palette.plain.write (config.drawGutter width (some l.1)) ++
        String.ofList (expandTabs l.2)) :=
    Writes.flatMap fun l hl => writes_drawLine h width l.1 (hlines l hl)
  simp only [drawExcerpt, hmarked, true_and]
  exact ⟨_ ++ [underline], (hlocation.append hshown).append hunderline, by simp⟩

end Config

theorem Diagnostic.exists_writes_drawHeader {d : Diagnostic} {code : Nat} {message : String}
    (hcode : d.code = some code) (hmessage : d.message = some message) (h : OneLine message) :
    ∃ line, Writes d.drawHeader [line] := by
  have hnumber : OneLine (padLeft 4 '0' code.repr) := oneLine_padLeft (by decide) (oneLine_repr _)
  have hopen : OneLine "[E" := by decide +kernel
  have hclose : OneLine "] " := by decide +kernel
  have herror : OneLine "error:" := by decide +kernel
  refine ⟨_, Writes.line ?_ (((hopen.append hnumber).append hclose).append
    (herror.append (OneLine.append (by decide +kernel : OneLine " ") h)))⟩
  simp [drawHeader, hcode, hmessage, Mark.plain, String.append_assoc]

end SourceCheck
