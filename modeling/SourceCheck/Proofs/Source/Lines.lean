import SourceCheck.Proofs.Source.Position
import SourceCheck.Proofs.Text.Boundary

/-! # Lines of a text

A line stands between the whole lines above it and the newline that ends it, or the end of the
text. A text has one more line than newlines. What a source says of a line, the offset where it
starts and its visible text, are those of the line in this sense.
-/

namespace SourceCheck

open Text

section Pieces

theorem takeWhile_append_of_notMem {line : List Char} (h : '\n' ∉ line) (rest : List Char) :
    (line ++ rest).takeWhile (· ≠ '\n') = line ++ rest.takeWhile (· ≠ '\n') := by
  apply List.takeWhile_append_of_pos
  intro c hc
  simpa using fun heq : c = '\n' => h (heq ▸ hc)

theorem pieces_of_notMem {line : List Char} (h : '\n' ∉ line) (rest : List Char) :
    pieces (line ++ '\n' :: rest) = line :: pieces rest := by
  induction line with
  | nil => simp [pieces]
  | cons c line ih =>
    simp only [List.mem_cons, not_or] at h
    rw [List.cons_append, pieces, if_neg (Ne.symm h.1), ih h.2]

theorem head?_pieces (cs : List Char) : (pieces cs).head? = some (cs.takeWhile (· ≠ '\n')) := by
  induction cs with
  | nil => rfl
  | cons c cs ih =>
    obtain ⟨piece, rest, hp⟩ := List.exists_cons_of_ne_nil (pieces_ne_nil cs)
    rw [hp, List.head?_cons, Option.some.injEq] at ih
    by_cases hc : c = '\n'
    · simp [pieces, hc]
    · simp [pieces, hc, hp, ih]

theorem WholeLines.getElem?_pieces {n : Nat} {cs : List Char} (h : WholeLines n cs)
    (rest : List Char) : (pieces (cs ++ rest))[n]? = some (rest.takeWhile (· ≠ '\n')) := by
  induction h with
  | nil => rw [List.nil_append, ← head?_pieces, List.head?_eq_getElem?]
  | cons hl _ ih =>
    rw [List.append_assoc, List.cons_append, pieces_of_notMem hl, List.getElem?_cons_succ, ih]

theorem prefix_visible (piece : List Char) : visible piece <+: piece := by
  unfold visible
  split
  · exact List.dropLast_prefix piece
  · exact List.prefix_refl piece

theorem newline_notMem_of_mem_lines {s : Source} {line : List Char} (h : line ∈ s.lines) :
    '\n' ∉ line := by
  obtain ⟨piece, hp, rfl⟩ := List.mem_map.mp h
  intro hn
  exact newline_notMem_of_mem_pieces hp ((prefix_visible piece).subset hn)

end Pieces

/-- A line of a text without the newline that ends it, between the lines above it and what
follows it. Lines are counted from zero. -/
structure IsLine (cs : List Char) (n : Nat) (above line after : List Char) : Prop where
  chars_eq : cs = above ++ (line ++ after)
  above : WholeLines n above
  line : '\n' ∉ line
  after : ∀ c ∈ after.head?, c = '\n'

theorem WholeLines.count {n : Nat} {cs : List Char} (h : WholeLines n cs) : cs.count '\n' = n := by
  induction h with
  | nil => rfl
  | cons hl _ ih => simp [List.count_append, List.count_eq_zero_of_not_mem hl, ih]

theorem WholeLines.concat {n : Nat} {cs line : List Char} (h : WholeLines n cs) (hl : '\n' ∉ line) :
    WholeLines (n + 1) (cs ++ (line ++ ['\n'])) := by
  induction h with
  | nil => exact .cons hl .nil
  | @cons n first rest hf _ ih =>
    rw [List.append_assoc, List.cons_append]
    exact .cons hf ih

namespace IsLine

variable {cs above line after rest : List Char} {n : Nat}

theorem of_wholeLines (h : WholeLines n above) (rest : List Char) :
    IsLine (above ++ rest) n above (rest.takeWhile (· ≠ '\n')) (rest.dropWhile (· ≠ '\n')) where
  chars_eq := by rw [List.takeWhile_append_dropWhile]
  above := h
  line hn := by simpa using List.all_eq_true.mp List.all_takeWhile _ hn
  after c hc := by
    have hne := List.head?_dropWhile_not (· ≠ '\n') rest
    rw [Option.mem_def.mp hc] at hne
    simpa using hne

theorem takeWhile_eq (h : IsLine cs n above line after) :
    (line ++ after).takeWhile (· ≠ '\n') = line := by
  rw [takeWhile_append_of_notMem h.line]
  cases after with
  | nil => simp
  | cons c after => simp [h.after c rfl]

theorem next (h : IsLine cs n above line ('\n' :: rest)) :
    IsLine cs (n + 1) (above ++ (line ++ ['\n'])) (rest.takeWhile (· ≠ '\n'))
      (rest.dropWhile (· ≠ '\n')) := by
  have hnext := of_wholeLines (h.above.concat h.line) rest
  rw [h.chars_eq]
  simpa using hnext

theorem count (h : IsLine cs n above line after) : cs.count '\n' = n + after.count '\n' := by
  rw [h.chars_eq, List.count_append, List.count_append, h.above.count,
    List.count_eq_zero_of_not_mem h.line, Nat.zero_add]

theorem le_count (h : IsLine cs n above line after) : n ≤ cs.count '\n' := by
  rw [h.count]
  exact Nat.le_add_right ..

theorem after_eq_nil_or_cons (h : IsLine cs n above line after) :
    after = [] ∨ ∃ rest, after = '\n' :: rest := by
  cases after with
  | nil => exact .inl rfl
  | cons c rest => exact .inr ⟨rest, by rw [h.after c rfl]⟩

end IsLine

theorem exists_isLine {cs : List Char} {n : Nat} (h : n ≤ cs.count '\n') :
    ∃ above line after, IsLine cs n above line after := by
  induction n with
  | zero => exact ⟨[], _, _, IsLine.of_wholeLines .nil cs⟩
  | succ n ih =>
    obtain ⟨above, line, after, hline⟩ := ih (Nat.le_of_succ_le h)
    rcases hline.after_eq_nil_or_cons with rfl | ⟨rest, rfl⟩
    · have hcount := hline.count
      simp at hcount
      omega
    · exact ⟨_, _, _, hline.next⟩

theorem exists_isLine_of_append (before rest : List Char) :
    ∃ n above line after part, IsLine (before ++ rest) n above line after ∧
      before = above ++ part ∧ part <+: line := by
  obtain ⟨n, above, part, rfl, ha, hp⟩ := exists_wholeLines before
  have hline := IsLine.of_wholeLines ha (part ++ rest)
  rw [takeWhile_append_of_notMem hp, ← List.append_assoc] at hline
  exact ⟨n, above, _, _, part, hline, rfl, List.prefix_append ..⟩

namespace Source

variable {s : Source} {above line after : List Char} {n : Nat}

theorem length_breaksFrom (offset : Nat) (cs : List Char) :
    (breaksFrom offset cs).length = cs.count '\n' := by
  induction cs generalizing offset with
  | nil => rfl
  | cons c cs ih =>
    rw [breaksFrom]
    split
    next h => simp [h, ih]
    next h => simp [h, ih]

theorem lineStart?_of_isLine (h : IsLine s.chars n above line after) :
    s.lineStart? n = some (byteLength above) :=
  lineStart?_of_wholeLines h.chars_eq h.above

theorem lineIndex?_of_isLine {part : List Char} (h : IsLine s.chars n above line after)
    (hp : part <+: line) : s.lineIndex? (byteLength above + byteLength part) = some n := by
  obtain ⟨more, rfl⟩ := hp
  have hchars : s.chars = above ++ (part ++ (more ++ after)) := by
    rw [h.chars_eq, List.append_assoc]
  exact lineIndex?_of_wholeLines hchars h.above fun hn => h.line (List.mem_append_left _ hn)

theorem line?_of_isLine (h : IsLine s.chars n above line after) :
    s.line? n = some (visible line) := by
  rw [line?, lines, h.chars_eq, List.getElem?_map, h.above.getElem?_pieces, h.takeWhile_eq]
  rfl

theorem lineStart?_eq_none (h : s.chars.count '\n' < n) : s.lineStart? n = none := by
  cases n with
  | zero => omega
  | succ n =>
    have hlength : s.breaks.length = s.chars.count '\n' := length_breaksFrom 0 s.chars
    rw [lineStart?, List.getElem?_eq_none (by omega)]
    rfl

theorem length_pieces (cs : List Char) : (pieces cs).length = cs.count '\n' + 1 := by
  induction cs with
  | nil => rfl
  | cons c cs ih =>
    obtain ⟨piece, rest, hp⟩ := List.exists_cons_of_ne_nil (pieces_ne_nil cs)
    by_cases hc : c = '\n'
    · simp [pieces, hc, ih]
    · rw [hp] at ih
      simpa [pieces, hc, hp] using ih

theorem line?_eq_none (h : s.chars.count '\n' < n) : s.line? n = none := by
  rw [line?, lines]
  apply List.getElem?_eq_none
  rw [List.length_map, length_pieces]
  omega

theorem isSome_lineStart?_iff : (s.lineStart? n).isSome ↔ n ≤ s.chars.count '\n' := by
  rcases Nat.lt_or_ge (s.chars.count '\n') n with hlt | hle
  · simp [lineStart?_eq_none hlt, hlt]
  · obtain ⟨above, line, after, hline⟩ := exists_isLine hle
    simp [lineStart?_of_isLine hline, hle]

theorem isSome_line?_iff : (s.line? n).isSome ↔ n ≤ s.chars.count '\n' := by
  rcases Nat.lt_or_ge (s.chars.count '\n') n with hlt | hle
  · simp [line?_eq_none hlt, hlt]
  · obtain ⟨above, line, after, hline⟩ := exists_isLine hle
    simp [line?_of_isLine hline, hle]

theorem exists_isLine_of_line? {shown : List Char} (h : s.line? n = some shown) :
    ∃ above line after, IsLine s.chars n above line after ∧ visible line = shown := by
  obtain ⟨above, line, after, hline⟩ :=
    exists_isLine (isSome_line?_iff.mp (Option.isSome_of_eq_some h))
  rw [line?_of_isLine hline] at h
  exact ⟨above, line, after, hline, Option.some.inj h⟩

theorem mem_chars_of_mem_lines {shown : List Char} (h : shown ∈ s.lines) {c : Char}
    (hc : c ∈ shown) : c ∈ s.chars := by
  obtain ⟨n, hn⟩ := List.getElem?_of_mem h
  obtain ⟨above, line, after, hline, rfl⟩ := exists_isLine_of_line? hn
  rw [hline.chars_eq]
  exact List.mem_append_right _ (List.mem_append_left _ ((prefix_visible line).subset hc))

end Source

end SourceCheck
