import SourceCheck.Diagnostic.Excerpt
import SourceCheck.Proofs.Source.Lines

/-! # The part of a line that a span marks

A span starts on one line of a source. It marks the visible text of that line from its start up to
its end, or up to the end of the visible text. Cutting offsets to the line leaves those between
characters between characters, so only a span that ends inside a visible character marks nothing.
-/

namespace SourceCheck

open Text

section MarkLine

variable {line before inside : List Char} {start stop : Nat}

theorem markLine_eq_some_iff : markLine line start stop = some ⟨before, inside⟩ ↔
    before ++ inside <+: line ∧ byteLength before = min start (byteLength line) ∧
      byteLength before + byteLength inside =
        max (min start (byteLength line)) (min stop (byteLength line)) := by
  simp only [markLine, Option.bind_eq_bind, Option.bind_eq_some_iff, Prod.exists,
    splitAt?_eq_some_iff, Option.some.injEq, Marked.mk.injEq]
  constructor
  · rintro ⟨_, _, ⟨rfl, hb⟩, _, after, ⟨rfl, hi⟩, rfl, rfl⟩
    exact ⟨⟨after, by rw [List.append_assoc]⟩, hb, by omega⟩
  · rintro ⟨⟨after, rfl⟩, hb, hi⟩
    exact ⟨before, inside ++ after, ⟨by rw [List.append_assoc], hb⟩, inside, after,
      ⟨rfl, by omega⟩, rfl, rfl⟩

theorem isSome_markLine_iff : (markLine line start stop).isSome = true ↔
    IsBoundary line (min start (byteLength line)) ∧
      IsBoundary line (max (min start (byteLength line)) (min stop (byteLength line))) := by
  rw [Option.isSome_iff_exists]
  constructor
  · rintro ⟨⟨before, inside⟩, h⟩
    obtain ⟨⟨after, rfl⟩, hb, hi⟩ := markLine_eq_some_iff.mp h
    rw [← hi, ← hb]
    exact ⟨⟨before, inside ++ after, List.append_assoc .., rfl⟩,
      ⟨before ++ inside, after, rfl, byteLength_append ..⟩⟩
  · rintro ⟨⟨before, rest, hline, hb⟩, upTo, after, hline', hu⟩
    have hp : before <+: line := ⟨rest, hline.symm⟩
    have hp' : upTo <+: line := ⟨after, hline'.symm⟩
    obtain ⟨inside, rfl⟩ := prefix_of_byteLength_le hp hp' (by omega)
    rw [byteLength_append] at hu
    exact ⟨⟨before, inside⟩, markLine_eq_some_iff.mpr ⟨hp', hb, hu⟩⟩

end MarkLine

namespace Source

variable {s : Source} {span : Span} {n : Nat} {above line after part : List Char}

/-- Where a span starts in a source: at the end, if its start lies behind it. -/
def startOf (s : Source) (span : Span) : Nat := min span.start s.length

theorem position?_startOf (h : IsLine s.chars n above line after) (hp : part <+: line)
    (hs : s.startOf span = byteLength above + byteLength part) :
    s.position? (s.startOf span) = some ⟨n + 1, part.length + 1⟩ := by
  obtain ⟨more, rfl⟩ := hp
  have hnewline : '\n' ∉ part := fun hn => h.line (List.mem_append_left _ hn)
  have hchars : s.chars = (above ++ part) ++ (more ++ after) := by
    rw [h.chars_eq, List.append_assoc, List.append_assoc]
  rw [hs, ← byteLength_append, position?_of_append hchars, Place.advance_append,
    h.above.advance rfl, Place.advance_of_notMem hnewline]
  simp [Place.position, Place.start, Nat.add_comm]

theorem excerpt?_of_isLine (h : IsLine s.chars n above line after) (hp : part <+: line)
    (hs : s.startOf span = byteLength above + byteLength part) (contextSize : Nat) :
    s.excerpt? contextSize span = some
      ⟨⟨n + 1, part.length + 1⟩, s.linesUpTo n contextSize,
        markLine (visible line) (byteLength part) (span.stop - byteLength above)⟩ := by
  have hposition := position?_startOf h hp hs
  have hfrom : s.startOf span - byteLength above = byteLength part := by omega
  rw [startOf] at hposition hfrom
  simp only [excerpt?, hposition, hfrom, Nat.add_sub_cancel, lineStart?_of_isLine h,
    line?_of_isLine h, Option.bind_eq_bind, Option.bind_some, Option.getD_some]

theorem position?_startOf_eq_none (h : ¬ IsBoundary s.chars (s.startOf span)) :
    s.position? (s.startOf span) = none := by
  rw [Option.eq_none_iff_forall_ne_some]
  intro position hp
  obtain ⟨before, after, hchars, hlength, -⟩ := position?_eq_some_iff.mp hp
  exact h ⟨before, after, hchars, hlength⟩

theorem excerpt?_eq_none (h : ¬ IsBoundary s.chars (s.startOf span)) (contextSize : Nat) :
    s.excerpt? contextSize span = none := by
  have hposition := position?_startOf_eq_none h
  rw [startOf] at hposition
  simp [excerpt?, hposition]

/-- The line that a span starts on, and of its visible text what stands before the span and what
stands inside it. -/
structure MarksLine (s : Source) (span : Span) (n : Nat) (above line before inside : List Char) :
    Prop where
  isLine : ∃ after, IsLine s.chars n above line after
  le_start : byteLength above ≤ s.startOf span
  start_le : s.startOf span ≤ byteLength above + byteLength line
  shown : before ++ inside <+: visible line
  /-- What stands before the span ends where the span starts, or else with the visible text. -/
  length_before : byteLength above + byteLength before =
    min (s.startOf span) (byteLength above + byteLength (visible line))
  /-- An offset is inside if it belongs to the visible text and to the span. -/
  mem_inside (offset : Nat) :
    byteLength above + byteLength before ≤ offset ∧
        offset < byteLength above + byteLength before + byteLength inside ↔
      (byteLength above ≤ offset ∧
          offset < byteLength above + byteLength (visible line)) ∧
        s.startOf span ≤ offset ∧ offset < span.stop

theorem exists_isLine_of_isBoundary (h : IsBoundary s.chars (s.startOf span)) :
    ∃ n above line after part, IsLine s.chars n above line after ∧ part <+: line ∧
      s.startOf span = byteLength above + byteLength part := by
  obtain ⟨before, rest, hchars, hlength⟩ := h
  obtain ⟨n, above, line, after, part, hline, rfl, hp⟩ := exists_isLine_of_append before rest
  rw [← hchars] at hline
  exact ⟨n, above, line, after, part, hline, hp, by rw [← hlength, byteLength_append]⟩

theorem marksLine_of_markLine {before inside : List Char} (h : IsLine s.chars n above line after)
    (hp : part <+: line) (hs : s.startOf span = byteLength above + byteLength part)
    (hm : markLine (visible line) (byteLength part) (span.stop - byteLength above) =
      some ⟨before, inside⟩) : s.MarksLine span n above line before inside := by
  obtain ⟨hshown, hb, hi⟩ := markLine_eq_some_iff.mp hm
  have hlength := byteLength_mono hp
  exact
    { isLine := ⟨after, h⟩
      le_start := by omega
      start_le := by omega
      shown := hshown
      length_before := by omega
      mem_inside := fun offset => by omega }

theorem exists_part_of_isBoundary (h : IsLine s.chars n above line after)
    (hb : IsBoundary s.chars (s.startOf span)) (hle : byteLength above ≤ s.startOf span)
    (hge : s.startOf span ≤ byteLength above + byteLength line) :
    ∃ part, part <+: line ∧ s.startOf span = byteLength above + byteLength part := by
  obtain ⟨before, rest, hchars, hlength⟩ := hb
  have ha : above <+: s.chars := ⟨line ++ after, h.chars_eq.symm⟩
  have hl : above ++ line <+: s.chars := ⟨after, by rw [h.chars_eq, List.append_assoc]⟩
  have hbefore : before <+: s.chars := ⟨rest, hchars.symm⟩
  obtain ⟨part, rfl⟩ := prefix_of_byteLength_le ha hbefore (by omega)
  rw [byteLength_append] at hlength
  have hle' : byteLength (above ++ part) ≤ byteLength (above ++ line) := by
    rw [byteLength_append, byteLength_append]
    omega
  have hp := prefix_of_byteLength_le hbefore hl hle'
  exact ⟨part, (List.prefix_append_right_inj above).mp hp, hlength.symm⟩

/-- Whether a span starts where its line ends for a reader: at the end of the source, at a
newline, or at a carriage return before one of them. -/
def StartsAtLineEnd (s : Source) (span : Span) : Prop :=
  ∃ before hidden rest, s.chars = before ++ (hidden ++ rest) ∧
    byteLength before = s.startOf span ∧ (hidden = [] ∨ hidden = ['\r']) ∧
    ∀ c ∈ rest.head?, c = '\n'

namespace MarksLine

variable {before inside : List Char}

theorem of_visible_le (h : s.MarksLine span n above line before inside)
    (hle : byteLength above + byteLength (visible line) ≤ s.startOf span) :
    before = visible line ∧ inside = [] := by
  obtain ⟨inside', heq⟩ := h.shown
  have hlength := h.length_before
  have htotal := congrArg byteLength heq
  simp only [byteLength_append] at htotal
  have hinside : inside = [] := eq_nil_of_byteLength_eq_zero (by omega)
  have hrest : inside' = [] := eq_nil_of_byteLength_eq_zero (by omega)
  subst hinside hrest
  exact ⟨by simpa using heq, rfl⟩

theorem inside_eq_nil (h : s.MarksLine span n above line before inside)
    (hle : span.stop ≤ s.startOf span) : inside = [] := by
  apply eq_nil_of_byteLength_eq_zero
  have hmem := h.mem_inside (byteLength above + byteLength before)
  omega

theorem append_eq (h : s.MarksLine span n above line before inside)
    (hle : byteLength above + byteLength (visible line) ≤ span.stop) :
    before ++ inside = visible line := by
  obtain ⟨rest, heq⟩ := h.shown
  have htotal := congrArg byteLength heq
  simp only [byteLength_append] at htotal
  have hmem := h.mem_inside (byteLength above + byteLength before + byteLength inside)
  have hlength := h.length_before
  have hrest : rest = [] := eq_nil_of_byteLength_eq_zero (by omega)
  subst hrest
  simpa using heq

theorem of_startsAtLineEnd (h : s.MarksLine span n above line before inside)
    (hs : s.StartsAtLineEnd span) : before = visible line ∧ inside = [] := by
  obtain ⟨upTo, hidden, rest, hchars, hlength, hhidden, hrest⟩ := hs
  obtain ⟨after, hline⟩ := h.isLine
  have hb : IsBoundary s.chars (s.startOf span) := ⟨upTo, hidden ++ rest, hchars, hlength⟩
  obtain ⟨part, ⟨more, rfl⟩, hstart⟩ := exists_part_of_isBoundary hline hb h.le_start h.start_le
  have hsplit : splitAt? s.chars (s.startOf span) = some (above ++ part, more ++ after) :=
    splitAt?_eq_some_iff.mpr
      ⟨by rw [hline.chars_eq]; simp, by rw [hstart, byteLength_append]⟩
  rw [splitAt?_eq_some_iff.mpr ⟨hchars, hlength⟩, Option.some.injEq, Prod.mk.injEq] at hsplit
  have hmore : '\n' ∉ more := fun hn => hline.line (List.mem_append_right _ hn)
  have hnewline : '\n' ∉ hidden := by
    rcases hhidden with rfl | rfl
    · simp
    · decide
  have hmid : IsLine (hidden ++ rest) 0 [] hidden rest := ⟨rfl, .nil, hnewline, hrest⟩
  have hmid' : IsLine (more ++ after) 0 [] more after := ⟨rfl, .nil, hmore, hline.after⟩
  have heq : more = hidden := by rw [← hmid.takeWhile_eq, ← hmid'.takeWhile_eq, hsplit.2]
  subst heq
  apply h.of_visible_le
  rw [hstart]
  rcases hhidden with rfl | rfl
  · have := byteLength_mono (prefix_visible (part ++ []))
    simpa using this
  · simp [visible]

end MarksLine

/-- A span that starts between characters and ends inside a character that is seen of the line of
its start. -/
def EndsInside (s : Source) (span : Span) : Prop :=
  IsBoundary s.chars (s.startOf span) ∧ s.startOf span < span.stop ∧
    ∃ n above line after, IsLine s.chars n above line after ∧
      byteLength above ≤ s.startOf span ∧ s.startOf span ≤ byteLength above + byteLength line ∧
      ∃ offset, span.stop = byteLength above + offset ∧ IsInside (visible line) offset

theorem isBoundary_startOf (h : IsLine s.chars n above line after) (hp : part <+: line)
    (hs : s.startOf span = byteLength above + byteLength part) :
    IsBoundary s.chars (s.startOf span) := by
  obtain ⟨more, rfl⟩ := hp
  refine ⟨above ++ part, more ++ after, ?_, by rw [byteLength_append, hs]⟩
  rw [h.chars_eq, List.append_assoc, List.append_assoc]

theorem endsInside_iff (h : IsLine s.chars n above line after) (hp : part <+: line)
    (hs : s.startOf span = byteLength above + byteLength part) :
    s.EndsInside span ↔ s.startOf span < span.stop ∧
      IsInside (visible line) (span.stop - byteLength above) := by
  constructor
  · rintro ⟨hb, hlt, n', above', line', after', h', hle, hge, offset, ho, hinside⟩
    obtain ⟨part', hp', hs'⟩ := exists_part_of_isBoundary h' hb hle hge
    have hn := (lineIndex?_of_isLine h hp).symm.trans (hs ▸ hs' ▸ lineIndex?_of_isLine h' hp')
    obtain rfl := Option.some.inj hn
    have habove := (lineStart?_of_isLine h).symm.trans (lineStart?_of_isLine h')
    have hline := (line?_of_isLine h).symm.trans (line?_of_isLine h')
    rw [Option.some.injEq] at habove hline
    obtain rfl : offset = span.stop - byteLength above := by omega
    exact ⟨hlt, hline ▸ hinside⟩
  · rintro ⟨hlt, hinside⟩
    have hlength := byteLength_mono hp
    exact ⟨isBoundary_startOf h hp hs, hlt, n, above, line, after, h, by omega, by omega, _,
      by omega, hinside⟩

theorem isBoundary_visible (hp : part <+: line) :
    IsBoundary (visible line) (min (byteLength part) (byteLength (visible line))) := by
  obtain ⟨more, rfl⟩ := hp
  exact .cut (prefix_visible _) ⟨part, more, rfl, rfl⟩

/-- A span marks a part of its line unless it ends inside a character. -/
theorem isSome_markLine_iff_not_endsInside (h : IsLine s.chars n above line after)
    (hp : part <+: line) (hs : s.startOf span = byteLength above + byteLength part) :
    (markLine (visible line) (byteLength part) (span.stop - byteLength above)).isSome = true ↔
      ¬ s.EndsInside span := by
  have hstart := isBoundary_visible hp
  rw [isSome_markLine_iff, endsInside_iff h hp hs, and_iff_right hstart]
  rcases Nat.lt_or_ge (byteLength part) (span.stop - byteLength above) with hlt | hle
  · rcases Nat.lt_or_ge (span.stop - byteLength above) (byteLength (visible line)) with hlt' | hle'
    · rw [Nat.min_eq_left (Nat.le_of_lt hlt'), Nat.max_eq_right (by omega)]
      constructor
      · rintro hb ⟨-, hinside⟩
        exact hinside.not_isBoundary hb
      · intro hends
        refine (isBoundary_or_isInside (Nat.le_of_lt hlt')).resolve_right fun hinside => ?_
        exact hends ⟨by omega, hinside⟩
    · rw [Nat.min_eq_right hle', Nat.max_eq_right (by omega)]
      refine iff_of_true (isBoundary_length _) ?_
      rintro ⟨-, hinside⟩
      have := hinside.lt
      omega
  · rw [Nat.max_eq_left (by omega)]
    refine iff_of_true hstart ?_
    rintro ⟨hlt, -⟩
    omega

end Source

end SourceCheck
