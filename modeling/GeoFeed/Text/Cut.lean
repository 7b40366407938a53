/-
# GeoFeed.Text.Cut -- cutting a text at a mark

`cut? mark` parts a text at the first place where `mark` stands: what is before
it, and what is after it.  `pieces` parts a text at every mark, so it gives one
piece more than there are marks.

The main statement about `cut?` is `cut?_eq_some_iff`: the two parts joined by
the mark are the text, and the first part is free of the mark.  The main
statement about `pieces` is `pieces_intercalate`: pieces joined by a mark are
found again.
-/
namespace GeoFeed.Text

set_option autoImplicit false

/-- The part before the first `mark` and the part after it. -/
def cut? (mark : Char) : List Char → Option (List Char × List Char)
  | [] => none
  | c :: rest =>
      if c = mark then some ([], rest)
      else (cut? mark rest).map fun (front, back) => (c :: front, back)

/-- `cut?` on texts. -/
def cutAt? (mark : Char) (s : String) : Option (String × String) :=
  (cut? mark s.toList).map fun (front, back) => (String.ofList front, String.ofList back)

/-- The pieces between the marks, in order. -/
def pieces (isMark : Char → Bool) : List Char → List (List Char)
  | [] => [[]]
  | c :: rest =>
      if isMark c then [] :: pieces isMark rest
      else
        match pieces isMark rest with
        | [] => [[c]]
        | piece :: more => (c :: piece) :: more

theorem cut?_eq_some_iff {mark : Char} {text front back : List Char} :
    cut? mark text = some (front, back) ↔ text = front ++ mark :: back ∧ mark ∉ front := by
  induction text generalizing front with
  | nil => simp [cut?]
  | cons c rest ih =>
      by_cases hc : c = mark
      · subst hc
        simp only [cut?, if_true, Option.some.injEq, Prod.mk.injEq]
        constructor
        · rintro ⟨rfl, rfl⟩
          simp
        · rintro ⟨same, free⟩
          cases front with
          | nil => simpa using same
          | cons d front =>
              simp only [List.cons_append, List.cons.injEq] at same
              exact absurd (same.1 ▸ List.mem_cons_self) free
      · simp only [cut?, hc, if_false, Option.map_eq_some_iff, Prod.exists, Prod.mk.injEq]
        constructor
        · rintro ⟨f, b, found, rfl, rfl⟩
          obtain ⟨rfl, free⟩ := ih.1 found
          refine ⟨rfl, ?_⟩
          simp only [List.mem_cons, not_or]
          exact ⟨fun e => hc e.symm, free⟩
        · rintro ⟨same, free⟩
          cases front with
          | nil => simp only [List.nil_append, List.cons.injEq] at same; exact absurd same.1 hc
          | cons d front =>
              simp only [List.cons_append, List.cons.injEq] at same
              obtain ⟨rfl, rest_eq⟩ := same
              exact ⟨front, back, ih.2 ⟨rest_eq, fun h => free (List.mem_cons_of_mem _ h)⟩, rfl, rfl⟩

theorem cut?_eq_none_iff {mark : Char} {text : List Char} :
    cut? mark text = none ↔ mark ∉ text := by
  induction text with
  | nil => simp [cut?]
  | cons c rest ih =>
      by_cases hc : c = mark
      · simp [cut?, hc]
      · simp only [cut?, hc, if_false, Option.map_eq_none_iff, ih, List.mem_cons, not_or]
        exact ⟨fun h => ⟨fun e => hc e.symm, h⟩, And.right⟩

theorem pieces_ne_nil (isMark : Char → Bool) (text : List Char) : pieces isMark text ≠ [] := by
  cases text with
  | nil => simp [pieces]
  | cons c rest =>
      simp only [pieces]
      split
      · simp
      · split <;> simp

theorem not_mark_of_mem_pieces {isMark : Char → Bool} {text piece : List Char}
    (h : piece ∈ pieces isMark text) : ∀ c ∈ piece, isMark c = false := by
  induction text generalizing piece with
  | nil => simp_all [pieces]
  | cons c rest ih =>
      simp only [pieces] at h
      split at h
      · rcases List.mem_cons.1 h with rfl | h
        · simp
        · exact ih h
      · rename_i hc
        split at h
        · rename_i none_; exact absurd none_ (pieces_ne_nil _ _)
        · rename_i first more shape
          rcases List.mem_cons.1 h with rfl | h
          · intro d hd
            rcases List.mem_cons.1 hd with rfl | hd
            · simpa using hc
            · exact ih (shape ▸ List.mem_cons_self) d hd
          · exact ih (shape ▸ List.mem_cons_of_mem _ h)

theorem pieces_of_free {isMark : Char → Bool} {text : List Char}
    (free : ∀ c ∈ text, isMark c = false) : pieces isMark text = [text] := by
  induction text with
  | nil => rfl
  | cons c rest ih =>
      have tail := ih fun d hd => free d (List.mem_cons_of_mem _ hd)
      simp [pieces, free c List.mem_cons_self, tail]

/-- A mark parts the pieces before it from those after it. -/
theorem pieces_append_mark {isMark : Char → Bool} {mark : Char} (isOne : isMark mark = true)
    (front rest : List Char) :
    pieces isMark (front ++ mark :: rest) = pieces isMark front ++ pieces isMark rest := by
  induction front with
  | nil => simp [pieces, isOne]
  | cons c front ih =>
      rw [List.cons_append, pieces, pieces, ih]
      by_cases hc : isMark c = true
      · rw [if_pos hc, if_pos hc, List.cons_append]
      · rw [if_neg hc, if_neg hc]
        cases shape : pieces isMark front with
        | nil => exact absurd shape (pieces_ne_nil _ _)
        | cons first more => rfl

/-- A text that is free of marks is the first piece when a mark follows it. -/
theorem pieces_append_cons {isMark : Char → Bool} {front : List Char} {mark : Char}
    (free : ∀ c ∈ front, isMark c = false) (isOne : isMark mark = true) (rest : List Char) :
    pieces isMark (front ++ mark :: rest) = front :: pieces isMark rest := by
  rw [pieces_append_mark isOne, pieces_of_free free, List.singleton_append]

/-- **Pieces joined by a mark are found again.** -/
theorem pieces_intercalate (isMark : Char → Bool) (mark : Char) (isOne : isMark mark = true)
    (first : List Char) (more : List (List Char))
    (free : ∀ piece ∈ first :: more, ∀ c ∈ piece, isMark c = false) :
    pieces isMark ([mark].intercalate (first :: more)) = first :: more := by
  induction more generalizing first with
  | nil => simpa [List.intercalate] using pieces_of_free (free first List.mem_cons_self)
  | cons second more ih =>
      have step : [mark].intercalate (first :: second :: more)
          = first ++ mark :: [mark].intercalate (second :: more) := by
        simp [List.intercalate]
      rw [step, pieces_append_cons (free first List.mem_cons_self) isOne,
        ih second fun piece h => free piece (List.mem_cons_of_mem _ h)]

end GeoFeed.Text
