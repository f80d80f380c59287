import SourceCheck.Diagnostic.Excerpt
import SourceCheck.Proofs.Lex.Places
import SourceCheck.Proofs.Diagnostic.Marked

/-! # Excerpts of spans between characters

A span that falls between characters has an excerpt, at the row and column that lexing counts,
and its underline can be drawn: cutting the span to its line leaves it between characters.
-/

namespace SourceCheck

open Text

namespace Source

variable {s : Source}

theorem length_linesUpTo {index : Nat} (h : index < s.lines.length) (count : Nat) :
    (s.linesUpTo index count).length = 1 + min index count := by
  simp only [linesUpTo, List.length_map, List.length_drop, List.length_take, List.length_zipIdx]
  omega

theorem mem_lines_of_mem_linesUpTo {index count : Nat} {l : Nat × List Char}
    (h : l ∈ s.linesUpTo index count) : l.2 ∈ s.lines := by
  obtain ⟨⟨line, number⟩, hl, rfl⟩ := List.mem_map.mp h
  exact (List.mem_zipIdx (List.mem_of_mem_take (List.mem_of_mem_drop hl))).2.2 ▸
    List.getElem_mem _

theorem mem_lines_of_mem_excerpt {contextSize : Nat} {span : Span} {e : Excerpt}
    (h : s.excerpt? contextSize span = some e) {l : Nat × List Char} (hl : l ∈ e.lines) :
    l.2 ∈ s.lines := by
  simp only [excerpt?, Option.bind_eq_bind, Option.bind_eq_some_iff, Option.some.injEq] at h
  obtain ⟨position, -, start, -, rfl⟩ := h
  exact mem_lines_of_mem_linesUpTo hl

theorem exists_excerpt {span : Span} {before inside after : List Char}
    (h : span.Cuts s.chars before inside after) (contextSize : Nat) :
    ∃ e, s.excerpt? contextSize span = some e ∧
      e.position = (Place.start.advance before).position ∧
      e.lines.length = 1 + min (e.position.row - 1) contextSize ∧
      (∀ l ∈ e.lines, '\n' ∉ l.2) ∧ e.marked.isSome = true := by
  obtain ⟨hcs, hstart, hstop⟩ := h
  obtain ⟨n, above, line, rest, part, hline, rfl, hp⟩ :=
    exists_isLine_of_append before (inside ++ after)
  rw [← hcs] at hline
  have hposition : (Place.start.advance (above ++ part)).position = ⟨n + 1, part.length + 1⟩ := by
    rw [Place.advance_append, hline.above.advance rfl,
      Place.advance_of_notMem fun hn => hline.line (hp.subset hn)]
    simp [Place.position, Place.start, Nat.add_comm]
  have hs : s.startOf span = byteLength above + byteLength part := by
    rw [startOf, hstart, length, hcs]
    simp only [byteLength_append]
    omega
  have hindex : n < s.lines.length := (List.getElem?_eq_some_iff.mp (line?_of_isLine hline)).1
  refine ⟨_, excerpt?_of_isLine hline hp hs contextSize, hposition.symm,
    length_linesUpTo hindex contextSize,
    fun l hl => newline_notMem_of_mem_lines (mem_lines_of_mem_linesUpTo hl), ?_⟩
  have htext : line ++ rest = part ++ (inside ++ after) := by
    rw [← List.append_cancel_left_eq above, ← hline.chars_eq, hcs, List.append_assoc]
  have hshown : visible line <+: part ++ (inside ++ after) :=
    htext ▸ (prefix_visible line).trans (List.prefix_append ..)
  have hto : span.stop - byteLength above = byteLength (part ++ inside) := by
    rw [hstop, byteLength_append, byteLength_append]
    omega
  have hmono := byteLength_mono (List.prefix_append part inside)
  rw [isSome_markLine_iff, hto, Nat.max_eq_right (by omega)]
  exact ⟨.cut hshown ⟨part, inside ++ after, rfl, rfl⟩,
    .cut hshown ⟨part ++ inside, after, (List.append_assoc ..).symm, rfl⟩⟩

end Source

end SourceCheck
