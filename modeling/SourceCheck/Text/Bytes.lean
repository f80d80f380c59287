/-! # Byte offsets

Offsets into a text count the bytes of its UTF-8 form. A text can be cut at an offset exactly
when the offset falls between two characters or at an end (`splitAt?_eq_some_iff`).
-/

namespace SourceCheck.Text

def byteLength : List Char → Nat
  | [] => 0
  | c :: cs => c.utf8Size + byteLength cs

/-- Cuts a text at a byte offset. There is no cut inside a character or past the end. -/
def splitAt? : List Char → Nat → Option (List Char × List Char)
  | cs, 0 => some ([], cs)
  | [], _ + 1 => none
  | c :: cs, n + 1 =>
    if c.utf8Size ≤ n + 1 then
      (splitAt? cs (n + 1 - c.utf8Size)).map fun (before, after) => (c :: before, after)
    else none

/-- The text between two byte offsets, if both are cuts and in order. -/
def slice? (cs : List Char) (start stop : Nat) : Option (List Char) := do
  if stop < start then none
  let (_, after) ← splitAt? cs start
  let (inside, _) ← splitAt? after (stop - start)
  some inside

@[simp] theorem byteLength_nil : byteLength [] = 0 := rfl

@[simp] theorem byteLength_cons (c : Char) (cs : List Char) :
    byteLength (c :: cs) = c.utf8Size + byteLength cs := rfl

@[simp] theorem byteLength_append (l r : List Char) :
    byteLength (l ++ r) = byteLength l + byteLength r := by
  induction l with
  | nil => simp
  | cons c l ih => simp [ih, Nat.add_assoc]

theorem splitAt?_eq_some_iff {cs l r : List Char} {n : Nat} :
    splitAt? cs n = some (l, r) ↔ cs = l ++ r ∧ byteLength l = n := by
  induction cs generalizing n l with
  | nil =>
    cases n with
    | zero =>
      simp only [splitAt?, Option.some.injEq, Prod.mk.injEq]
      constructor
      · rintro ⟨rfl, rfl⟩; simp
      · rintro ⟨h, _⟩
        simp only [List.nil_eq, List.append_eq_nil_iff] at h
        simp [h]
    | succ n =>
      simp only [splitAt?, reduceCtorEq, false_iff, not_and]
      intro h
      simp only [List.nil_eq, List.append_eq_nil_iff] at h
      simp [h.1]
  | cons c cs ih =>
    have hpos := c.utf8Size_pos
    cases n with
    | zero =>
      simp only [splitAt?, Option.some.injEq, Prod.mk.injEq]
      constructor
      · rintro ⟨rfl, rfl⟩; simp
      · rintro ⟨h, hn⟩
        cases l with
        | nil => simpa using h
        | cons d l => simp only [byteLength_cons] at hn; have := d.utf8Size_pos; omega
    | succ n =>
      simp only [splitAt?]
      split
      next hle =>
        simp only [Option.map_eq_some_iff, Prod.exists, Prod.mk.injEq]
        constructor
        · rintro ⟨l', r', h, rfl, rfl⟩
          obtain ⟨rfl, hn⟩ := ih.mp h
          simp only [List.cons_append, byteLength_cons, true_and]
          omega
        · rintro ⟨h, hn⟩
          cases l with
          | nil => simp at hn
          | cons d l =>
            simp only [List.cons_append, List.cons.injEq] at h
            obtain ⟨rfl, h⟩ := h
            simp only [byteLength_cons] at hn
            exact ⟨l, r, ih.mpr ⟨h, by omega⟩, rfl, rfl⟩
      next hlt =>
        simp only [reduceCtorEq, false_iff, not_and]
        intro h
        cases l with
        | nil => simp
        | cons d l =>
          simp only [List.cons_append, List.cons.injEq] at h
          obtain ⟨rfl, -⟩ := h
          simp only [byteLength_cons]
          omega

theorem slice?_append (before inside after : List Char) :
    slice? (before ++ (inside ++ after)) (byteLength before)
      (byteLength before + byteLength inside) = some inside := by
  have hb : splitAt? (before ++ (inside ++ after)) (byteLength before) =
      some (before, inside ++ after) := splitAt?_eq_some_iff.mpr ⟨rfl, rfl⟩
  have hi : splitAt? (inside ++ after) (byteLength inside) = some (inside, after) :=
    splitAt?_eq_some_iff.mpr ⟨rfl, rfl⟩
  simp [slice?, hb, hi]

theorem slice?_eq_some_iff {cs inside : List Char} {start stop : Nat} :
    slice? cs start stop = some inside ↔ ∃ before after, cs = before ++ (inside ++ after) ∧
      byteLength before = start ∧ byteLength before + byteLength inside = stop := by
  constructor
  · intro h
    unfold slice? at h
    split at h
    next => simp at h
    next hle =>
      simp only [Option.bind_eq_bind, Option.bind_eq_some_iff] at h
      obtain ⟨⟨before, rest⟩, hb, ⟨inside', after⟩, hi, heq⟩ := h
      obtain ⟨rfl, rfl⟩ := splitAt?_eq_some_iff.mp hb
      obtain ⟨rfl, hlength⟩ := splitAt?_eq_some_iff.mp hi
      obtain rfl : inside' = inside := Option.some.inj heq
      exact ⟨before, after, rfl, rfl, by omega⟩
  · rintro ⟨before, after, rfl, rfl, rfl⟩
    exact slice?_append before inside after

end SourceCheck.Text
